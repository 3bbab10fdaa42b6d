import ConfigResolver.Loading
import ConfigResolver.Proofs.Steps

/-!
# How loading a document fails

Whatever is wrong with a file, the error of loading it is about the file or about its text, and not
about a value that was looked up (`isOfFile_of_load`).
-/

namespace ConfigResolver

/-- Whether an error is about a file or about the text in it. -/
def Error.isOfFile (e : Error) : Bool :=
  e.kind matches .sourceNotFound _ | .sourceEmpty _ | .parse | .io

namespace Loading

variable {path : String}

theorem isOfFile_failure (path : String) (e : FileError) : (failure path e).isOfFile := by
  cases e <;> rfl

theorem isOfFile_of_ofText {text : String} {e : Error} (h : ofText path text = .error e) :
    e.isOfFile := by
  unfold ofText at h
  split at h
  · cases h
    rfl
  · rcases error_of_bind h with h | ⟨value, -, h⟩
    · unfold Format.load at h
      cases hparse : (Format.ofPath path).parse text.toList with
      | ok value =>
        rw [hparse] at h
        cases h
      | error fault =>
        rw [hparse] at h
        cases h
        unfold Fault.toError
        split <;> rfl
    · split at h
      · cases h
        rfl
      · cases h

theorem isOfFile_of_ofBytes {bytes : Except FileError (List UInt8)} {e : Error}
    (h : ofBytes path bytes = .error e) : e.isOfFile := by
  unfold ofBytes at h
  rcases error_of_bind h with h | ⟨content, -, h⟩
  · cases bytes with
    | ok content => cases h
    | error fault =>
      cases h
      exact isOfFile_failure path fault
  · split at h
    · cases h
      exact isOfFile_failure path .notText
    · exact isOfFile_of_ofText h

end Loading

theorem isOfFile_of_load {files : Files} {path : String} {e : Error}
    (h : files.load path = .error e) : e.isOfFile :=
  Loading.isOfFile_of_ofBytes h

end ConfigResolver
