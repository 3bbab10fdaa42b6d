import ConfigResolver.Proofs.Resolver.Part

/-!
# Where a document fails

A document that cannot be resolved fails at one of its texts (`resolveLeaves_of_resolveDocument`),
and the error tells where that text is. The walk collects the place on its way down, from the empty
place of the root, and takes an empty place for the root at every step (`entryPath`,
`Error.orPath`). So what it collects is the position of the text as it is written, but for empty
keys at the start: these leave no trace (`place?_foldl_stepPath`).

Main statement: `resolveDocument_error_place`. Where a document has an empty key at its top, an
error can name another text than the one that failed (`resolveDocument_error_misplaced`).
-/

namespace ConfigResolver

open Value (Step Spot spotsUnder writeSteps writePosition named)

namespace Error

/-- What an error tells of a place: the empty place is the whole document, and nothing is told. -/
def place? (place : String) : Option String := if place.isEmpty then none else some place

theorem place?_of_ne {place : String} (h : place ≠ "") : place? place = some place :=
  if_neg (mt String.isEmpty_iff.1 h)

theorem orPath_of_none {e : Error} (h : e.path = none) (place : String) :
    e.orPath place = { e with path := place? place } := by
  rw [orPath, place?, h, Option.isSome_none, Bool.false_or]
  split
  · rw [← h]
  · rfl

end Error

namespace Resolver

variable {σ : Type} {r : Resolver σ} {env : Environment} {st : σ}

/-! ## How the walk writes places -/

theorem entryPath_of_ne {path : String} (h : path ≠ "") (key : String) :
    entryPath path key = path ++ ("." ++ key) := by
  rw [entryPath, if_neg (mt String.isEmpty_iff.1 h)]
  exact String.append_assoc

theorem itemPath_eq (path : String) (index : Nat) :
    itemPath path index = path ++ ("[" ++ toString index ++ "]") := by
  calc itemPath path index
    _ = path ++ "[" ++ toString index ++ "]" := rfl
    _ = path ++ ("[" ++ toString index ++ "]") := by
      rw [String.append_assoc, String.append_assoc, String.append_assoc]

theorem stepPath_of_ne {path : String} (h : path ≠ "") (step : Step) :
    stepPath path step = path ++ Value.writeStep step := by
  cases step with
  | key key => exact entryPath_of_ne h key
  | index i => exact itemPath_eq path i

/-- Behind a place that is not empty the steps are written as they are. -/
theorem foldl_stepPath_of_ne {path : String} (h : path ≠ "") (position : List Step) :
    position.foldl stepPath path = path ++ writeSteps position := by
  induction position generalizing path with
  | nil => exact String.append_empty.symm
  | cons step rest ih =>
    have hne : path ++ Value.writeStep step ≠ "" :=
      fun hempty ↦ h (String.append_eq_empty_iff.1 hempty).1
    rw [List.foldl_cons, stepPath_of_ne h, ih hne, writeSteps, String.append_assoc]

theorem place?_foldl_stepPath_of_ne {path : String} (h : path ≠ "") (position : List Step) :
    Error.place? (position.foldl stepPath path) = some (path ++ writeSteps position) := by
  rw [foldl_stepPath_of_ne h]
  exact Error.place?_of_ne fun hempty ↦ h (String.append_eq_empty_iff.1 hempty).1

/-- From the root the place stays empty for as long as the keys are, and then nothing is told of
it. -/
theorem place?_foldl_stepPath (position : List Step) :
    Error.place? (position.foldl stepPath "") = writePosition (named position) := by
  induction position with
  | nil => rfl
  | cons step rest ih =>
    rw [List.foldl_cons]
    cases step with
    | index i =>
      have hfirst : stepPath "" (.index i) = Value.writeStep (.index i) :=
        (itemPath_eq "" i).trans String.empty_append
      have hne : Value.writeStep (.index i) ≠ "" := by
        intro hempty
        exact absurd (congrArg String.length hempty) (by simp [Value.writeStep])
      rw [hfirst]
      exact place?_foldl_stepPath_of_ne hne rest
    | key key =>
      by_cases hkey : key = ""
      · subst hkey
        exact ih
      · rw [Value.named_key_of_ne hkey]
        exact place?_foldl_stepPath_of_ne hkey rest

/-! ## The error of a text -/

theorem LookupError.path_eq_none {e : Error} (h : LookupError e) : e.path = none := by
  cases h <;> rfl

/-- A text by itself does not know its place. -/
theorem path_of_resolveString {s : String} {e : Error}
    (h : (r.resolveString env s st).result = .error e) : e.path = none := by
  rcases resolveString_error_cases (show r.resolveString env s st = ⟨.error e, _, _⟩ by rw [← h])
    with ⟨k, -, hfails⟩ | ⟨t, -, -, rfl⟩
  · exact hfails.lookupError.path_eq_none
  · rfl

/-- The place that an error of a text is given is the position of the text, but for the empty keys
that it starts with. -/
theorem orPath_leafAt {spot : Spot} {e : Error}
    (h : (r.resolveString env spot.text st).result = .error e) :
    e.orPath (leafAt "" spot).place = { e with path := writePosition (named spot.position) } := by
  rw [Error.orPath_of_none (path_of_resolveString h), ← place?_foldl_stepPath]
  rfl

/-! ## The document -/

/-- With a key or without one, a document fails as the texts do that are to be resolved. -/
theorem resolveLeaves_of_resolveDocument {doc : Value} (hdoc : doc.Distinct)
    {resolveKey returnKey : Option String} {e : Error}
    (h : (r.resolveDocument env doc resolveKey returnKey st).result = .error e) :
    (r.resolveLeaves env ((doc.spotsUnder resolveKey).map (leafAt "")) st).result = .error e := by
  obtain ⟨path, node, put, -, hleaves, -, hdocument⟩ :=
    resolveDocument_walks r env hdoc resolveKey
  rw [(hdocument returnKey st).1] at h
  rw [← hleaves, ← course_walk]
  exact Run.result_course_eq_error.2 (error_of_map h)

theorem at?_of_mem_spotsUnder {doc : Value} (hdoc : doc.Distinct) {resolveKey : Option String}
    {spot : Spot} (h : spot ∈ doc.spotsUnder resolveKey) :
    doc.at? spot.position = some (.string spot.text) := by
  cases resolveKey with
  | none => exact Value.at?_of_mem_spots doc hdoc spot h
  | some key =>
    rw [spotsUnder] at h
    split at h
    · next node hnode =>
      obtain ⟨own, hown, rfl⟩ := List.mem_map.1 h
      rw [Spot.under, Value.at?, hnode, Option.bind_some]
      exact Value.at?_of_mem_spots node (hdoc.of_get? hnode) own hown
    · exact Value.at?_of_mem_spots doc hdoc spot h

/-- Every failure of a document is that of one of its texts, and the error tells where this text is.
The texts before it in the order of the document have been resolved, one after the other, and the
error is that of resolving this text in the state that they leave, with a place: the position of the
text in the document, without the empty keys that it starts with. It does not matter whether a key
led to the text or the whole document is resolved. The place is the position as it is written, but
for positions that start with an empty key and no index behind it. -/
theorem resolveDocument_error_place (r : Resolver σ) (env : Environment) {doc : Value}
    (hdoc : doc.Distinct) {resolveKey returnKey : Option String} {st : σ} {e : Error}
    (h : (r.resolveDocument env doc resolveKey returnKey st).result = .error e) :
    ∃ before spot after, doc.spotsUnder resolveKey = before ++ spot :: after ∧
      doc.at? spot.position = some (.string spot.text) ∧
      ∃ events st₁ e', r.resolveLeaves env (before.map (leafAt "")) st = ⟨.ok (), events, st₁⟩ ∧
        (r.resolveString env spot.text st₁).result = .error e' ∧
        e = { e' with path := writePosition (named spot.position) } ∧
        (e.path = writePosition spot.position ↔ ¬ Value.Misread spot.position) := by
  obtain ⟨before, leaf, after, hsplit, hbefore, hleaf⟩ :=
    Run.forM_eq_error (resolveLeaves_of_resolveDocument hdoc h)
  obtain ⟨before, rest, hspots, rfl, hrest⟩ := List.map_eq_append_iff.1 hsplit
  obtain ⟨spot, after, rfl, rfl, -⟩ := List.map_eq_cons_iff.1 hrest
  obtain ⟨e', he', rfl⟩ := course_resolveLeaf_eq_error.1 hleaf
  have hmem : spot ∈ doc.spotsUnder resolveKey :=
    hspots ▸ List.mem_append_right before List.mem_cons_self
  rw [orPath_leafAt he']
  exact ⟨before, spot, after, hspots, at?_of_mem_spotsUnder hdoc hmem, _, _, e',
    Outcome.ext hbefore rfl rfl, he', rfl, Value.writePosition_named_eq_iff spot.position⟩

/-- The only text under the key to resolve names a variable that is not set. -/
theorem resolveDocument_error_place_under :
    let r : Resolver Unit := ⟨.standard, none⟩
    let doc := Value.mapping [("x", .string "\x7b!ENV: Y\x7d"),
      ("db", .mapping [("hosts", .sequence [.null, .string "\x7b!ENV: X\x7d"])])]
    let out := r.resolveDocument .empty doc (some "db") none ()
    doc.Distinct ∧ ∃ e, out.result = .error e ∧ e.path = some "db.hosts[1]" := by
  intro r doc out
  have hdoc : doc.Distinct := by
    simp [doc, Value.Distinct, Value.DistinctEntries, Value.DistinctItems]
  refine ⟨hdoc, ?_⟩
  have hfails : out.result.toBool = false := by decide +kernel
  cases hresult : out.result with
  | ok v => simp [hresult, Except.toBool] at hfails
  | error e =>
    obtain ⟨before, spot, after, hspots, -, -, -, e', -, -, rfl, -⟩ :=
      resolveDocument_error_place r .empty hdoc hresult
    have hone : doc.spotsUnder (some "db") =
        [⟨[.key "db", .key "hosts", .index 1], "\x7b!ENV: X\x7d"⟩] := by decide
    have hsingle : before ++ spot :: after = _ := hspots.symm.trans hone
    obtain ⟨-, rfl, -⟩ : before = [] ∧ spot = ⟨[.key "db", .key "hosts", .index 1], _⟩ ∧
        after = [] := by
      simpa [List.append_eq_singleton_iff] using hsingle
    have hplace : writePosition (named [.key "db", .key "hosts", .index 1]) =
        some "db.hosts[1]" := by decide
    exact ⟨_, rfl, hplace⟩

/-- Under an empty key at the top, the text that fails is reported at the place of another one,
which is resolved. A text right under the empty key is reported as if it were the whole document. -/
theorem resolveDocument_error_misplaced :
    let r : Resolver Unit := ⟨.standard, none⟩
    let x := "\x7b!ENV: X\x7d"
    let doc := Value.mapping [("", .mapping [("a", .string x)]), ("a", .string "b")]
    let flat := Value.mapping [("", .string x)]
    doc.spots = [⟨[.key "", .key "a"], x⟩, ⟨[.key "a"], "b"⟩] ∧
      writePosition [.key "", .key "a"] = some ".a" ∧ writePosition [.key "a"] = some "a" ∧
      (r.resolveDocument .empty doc none none ()).result =
        .error ((Error.missingVariable "X").withPath "a") ∧
      flat.spots = [⟨[.key ""], x⟩] ∧ writePosition [.key ""] = some "" ∧
      (r.resolveDocument .empty flat none none ()).result = .error (.missingVariable "X") := by
  intro r x doc flat
  refine ⟨by decide, by decide, by decide, ?_, by decide, by decide, ?_⟩
  · rw [resolveDocument_whole, ← Run.result_course_eq_error, course_walk]
    decide +kernel
  · rw [resolveDocument_whole, ← Run.result_course_eq_error, course_walk]
    decide +kernel

end Resolver

end ConfigResolver
