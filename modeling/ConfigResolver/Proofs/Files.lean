import ConfigResolver.Files
import ConfigResolver.Proofs.Steps

/-!
# Writing a file and reading it

To write a file takes nothing away from the directories, so a path leads to the same place
afterwards (`follow_put`), and what was written is read there (`read_of_write`). Of a file system
of which no more is known this is an assumption, `FileSystem.Keeps`.
-/

namespace ConfigResolver.Files

variable {files after : Files} {path name : String} {place target : Place} {names : List String}
  {bytes : List UInt8}

/-! ## Following names -/

/-- A way of two parts is gone one part after the other. -/
theorem follow_append (files : Files) (place : Place) (names rest : List String) :
    files.follow place (names ++ rest) =
      files.follow place names >>= fun between ↦ files.follow between rest := by
  induction names generalizing place with
  | nil => rfl
  | cons name names ih =>
    rw [List.cons_append, follow, follow]
    split
    · rfl
    · rfl
    · split
      · exact ih place
      · split
        · exact ih place.parent
        · split
          · rfl
          · exact ih (place ++ [name])

/-- The name of a file or of another directory leads one step further in. -/
theorem follow_singleton (hplace : files.entry? place = some .directory)
    (hname : ¬ (name.isEmpty ∨ name = Place.here ∨ name = Place.up))
    (hlength : ¬ maxName < name.utf8ByteSize) :
    files.follow place [name] = .ok (place ++ [name]) := by
  simp only [not_or] at hname
  simp only [follow, hplace]
  simp [hname, hlength]

/-! ## One more file -/

theorem lookup_filter_of_ne (hne : place ≠ target) (entries : List (Place × Entry)) :
    (entries.filter (·.1 ≠ target)).lookup place = entries.lookup place := by
  induction entries with
  | nil => rfl
  | cons entry entries ih =>
    obtain ⟨other, e⟩ := entry
    by_cases hother : other = target
    · have hbeq : (place == other) = false := beq_false_of_ne (hother ▸ hne)
      rw [List.filter_cons_of_neg (by simpa using hother), List.lookup_cons, hbeq]
      exact ih
    · rw [List.filter_cons_of_pos (by simpa using hother), List.lookup_cons, List.lookup_cons, ih]

theorem entry?_put_self (files : Files) (place : Place) (entry : Entry) :
    Files.entry? (files.put place entry) place = some entry := by
  simp [put, entry?]

/-- A directory is listed, or is there as it is outside or something is below it. -/
theorem entry?_eq_directory_iff : files.entry? place = some .directory ↔
    files.entries.lookup place = some .directory ∨ files.entries.lookup place = none ∧
      (place.isOutside ∨ ∃ other ∈ files.entries, place.isPrefixOf other.1) := by
  unfold entry?
  cases files.entries.lookup place with
  | some entry => simp
  | none => cases place.isOutside <;> simp

/-- A directory is there still. It may be there just because something is below it, and this is
either there still or in the place of the new entry. -/
theorem entry?_put_of_directory (htarget : files.entry? target ≠ some .directory)
    (hplace : files.entry? place = some .directory) (entry : Entry) :
    Files.entry? (files.put target entry) place = some .directory := by
  have hne : place ≠ target := by
    rintro rfl
    exact htarget hplace
  have hlookup : (files.put target entry).entries.lookup place = files.entries.lookup place := by
    have hbeq : (place == target) = false := beq_false_of_ne hne
    rw [put, List.lookup_cons, hbeq]
    exact lookup_filter_of_ne hne files.entries
  rw [entry?_eq_directory_iff] at hplace ⊢
  rw [hlookup]
  refine hplace.imp_right (And.imp_right (Or.imp_right ?_))
  rintro ⟨other, hmem, hprefix⟩
  by_cases hother : other.1 = target
  · exact ⟨(target, entry), List.mem_cons_self, hother ▸ hprefix⟩
  · exact ⟨other, List.mem_cons_of_mem _ (List.mem_filter.2 ⟨hmem, by simpa using hother⟩), hprefix⟩

/-- A way leads to where it led before. -/
theorem follow_put {goal : Place} (htarget : files.entry? target ≠ some .directory) (entry : Entry)
    (h : files.follow place names = .ok goal) :
    (files.put target entry).follow place names = .ok goal := by
  induction names generalizing place with
  | nil => exact h
  | cons name names ih =>
    rw [follow] at h ⊢
    split at h
    · cases h
    · cases h
    · next hplace =>
      rw [entry?_put_of_directory htarget hplace entry]
      simp only
      split at h
      · next hstay =>
        rw [if_pos hstay]
        exact ih h
      · next hstay =>
        rw [if_neg hstay]
        split at h
        · next hup =>
          rw [if_pos hup]
          exact ih h
        · next hup =>
          rw [if_neg hup]
          split at h
          · cases h
          · next hlength =>
            rw [if_neg hlength]
            exact ih h

/-! ## Writing -/

/-- Names that do not end with an empty one stay as they are. -/
theorem cutSlash_of_not_slash {names : List String} (h : (cutSlash names).2 = false) :
    (cutSlash names).1 = names := by
  have hsuffix : names.reverse.dropWhile String.isEmpty <:+ names.reverse :=
    List.dropWhile_suffix _
  have hlength : names.reverse.length ≤ (names.reverse.dropWhile String.isEmpty).length := by
    simpa [cutSlash] using h
  change (names.reverse.dropWhile String.isEmpty).reverse = names
  rw [hsuffix.eq_of_length_le hlength, List.reverse_reverse]

/-- To write a file a new entry is put where its path leads, below a directory that is there. -/
theorem exists_put_of_write (h : files.write path bytes = .ok after) :
    ∃ start front place name, namesOf path = .ok (start, front ++ [name]) ∧
      files.follow start front = .ok place ∧ files.entry? place = some .directory ∧
      ¬ (name.isEmpty ∨ name = Place.here ∨ name = Place.up) ∧ ¬ maxName < name.utf8ByteSize ∧
      files.entry? (place ++ [name]) ≠ some .directory ∧
      after = files.put (place ++ [name]) (.file bytes) := by
  unfold write at h
  obtain ⟨⟨start, names⟩, hnames, hrest⟩ := bind_eq_ok_iff.1 h
  obtain ⟨short, slash, hcut⟩ : ∃ short slash, cutSlash names = (short, slash) := ⟨_, _, rfl⟩
  simp only [hcut] at hrest
  obtain ⟨place, hfollow, hput⟩ := bind_eq_ok_iff.1 hrest
  clear h hrest
  split at hput
  · cases hput
  · cases hput
  · next hplace =>
    split at hput
    · cases hput
    · next hname =>
      split at hput
      · cases hput
      · next hlength =>
        split at hput
        · cases hput
        · next htarget =>
          simp only [Bool.or_eq_true, decide_eq_true_eq, not_or, Bool.not_eq_true] at hname
          obtain ⟨⟨⟨rfl, hempty⟩, hhere⟩, hup⟩ := hname
          obtain rfl : short = names := by
            have hwhole := cutSlash_of_not_slash (congrArg Prod.snd hcut)
            rwa [hcut] at hwhole
          obtain ⟨front, name, rfl⟩ : ∃ front name, short = front ++ [name] := by
            rcases List.eq_nil_or_concat short with rfl | ⟨front, name, hshort⟩
            · cases hempty
            · exact ⟨front, name, hshort.trans List.concat_eq_append⟩
          simp only [List.getLastD_concat] at hempty hhere hup hlength htarget hput
          rw [List.dropLast_concat] at hfollow
          exact ⟨start, front, place, name, hnames, hfollow, hplace, by simp [hempty, hhere, hup],
            hlength, htarget, (Except.ok.inj hput).symm⟩

/-- What is written to a file is what is read from it. -/
theorem read_of_write (h : files.write path bytes = .ok after) : after.read path = .ok bytes := by
  obtain ⟨start, front, place, name, hnames, hfollow, hplace, hname, hlength, htarget, rfl⟩ :=
    exists_put_of_write h
  have hplace' := entry?_put_of_directory htarget hplace (.file bytes)
  have hfollow' : (files.put (place ++ [name]) (.file bytes)).follow start (front ++ [name]) =
      .ok (place ++ [name]) := by
    rw [follow_append, follow_put htarget _ hfollow]
    exact follow_singleton hplace' hname hlength
  unfold read
  rw [hnames]
  simp only [bind, Except.bind, hfollow', entry?_put_self]

end ConfigResolver.Files

namespace ConfigResolver

/-- What was written to a file is what is read from it right after. -/
def FileSystem.Keeps {φ : Type} (system : FileSystem φ) : Prop :=
  ∀ ⦃path bytes before after⦄, system.write path bytes before = (none, after) →
    system.read path after = .ok bytes

theorem Files.system_keeps : Files.system.Keeps := by
  intro path bytes before after h
  cases hwrite : before.write path bytes with
  | error e => simp [Files.system, hwrite] at h
  | ok files =>
    obtain rfl : files = after := by simpa [Files.system, hwrite] using h
    exact Files.read_of_write hwrite

end ConfigResolver
