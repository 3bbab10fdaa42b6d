import ConfigResolver.Options

/-!
# Root paths in normal form

A root path is in normal form if it starts and ends with a slash. An absolute path has one normal
form, with a slash at its end (`rooted`); a relative path has none. A list of paths is brought into
normal form path by path, in order, or refused for its first relative path
(`normalRoots_eq_ok_iff`, `normalRoots_eq_error_iff`), and so are the options that hold it
(`validated_eq_ok_iff`, `validated_eq_error_iff`). Options in normal form stay as they are
(`Normal.validated`).
-/

namespace ConfigResolver

/-- A full name starts with a slash. -/
def IsAbsolute (name : String) : Prop := name.toList.head? = some '/'

instance (name : String) : Decidable (IsAbsolute name) :=
  inferInstanceAs (Decidable (name.toList.head? = some '/'))

theorem IsAbsolute.append {name : String} (h : IsAbsolute name) (rest : String) :
    IsAbsolute (name ++ rest) := by
  unfold IsAbsolute at h ⊢
  rw [String.toList_append, List.head?_append, h]
  rfl

namespace Options

variable {path bad : String} {paths roots : List String} {o valid : Options} {e : Error}

/-- A root path with a slash at its end. -/
def rooted (path : String) : String :=
  if path.toList.getLast? = some '/' then path else path ++ "/"

theorem getLast?_rooted (path : String) : (rooted path).toList.getLast? = some '/' := by
  unfold rooted
  split
  · next h => exact h
  · simp

theorem rooted_of_getLast? (h : path.toList.getLast? = some '/') : rooted path = path :=
  if_pos h

theorem isAbsolute_rooted (h : IsAbsolute path) : IsAbsolute (rooted path) := by
  unfold rooted
  split
  · exact h
  · exact h.append "/"

/-- The root path starts and ends with a slash. -/
structure IsRoot (path : String) : Prop where
  absolute : IsAbsolute path
  slash : path.toList.getLast? = some '/'

theorem isRoot_rooted (h : IsAbsolute path) : IsRoot (rooted path) :=
  ⟨isAbsolute_rooted h, getLast?_rooted path⟩

theorem map_rooted_of_isRoot (h : ∀ path ∈ paths, IsRoot path) : paths.map rooted = paths :=
  (List.map_congr_left fun path hpath ↦ rooted_of_getLast? (h path hpath).slash).trans
    (List.map_id paths)

/-! ## A list of paths -/

/-- The path is the first of the list that is relative. -/
def FirstRelative (paths : List String) (bad : String) : Prop :=
  ∃ before after, paths = before ++ bad :: after ∧
    (∀ path ∈ before, IsAbsolute path) ∧ ¬ IsAbsolute bad

theorem FirstRelative.not_absolute (h : FirstRelative paths bad) :
    ¬ ∀ path ∈ paths, IsAbsolute path := by
  obtain ⟨before, after, rfl, -, hbad⟩ := h
  exact fun habsolute ↦ hbad (habsolute bad (by simp))

theorem absolute_or_firstRelative (paths : List String) :
    (∀ path ∈ paths, IsAbsolute path) ∨ ∃ bad, FirstRelative paths bad := by
  induction paths with
  | nil => exact .inl (by simp)
  | cons path paths ih =>
    by_cases h : IsAbsolute path
    · rcases ih with habsolute | ⟨bad, before, after, rfl, hbefore, hbad⟩
      · exact .inl (List.forall_mem_cons.2 ⟨h, habsolute⟩)
      · exact .inr ⟨bad, path :: before, after, rfl, List.forall_mem_cons.2 ⟨h, hbefore⟩, hbad⟩
    · exact .inr ⟨path, [], paths, rfl, by simp, h⟩

/-- The normal forms of root paths, in order. -/
def normalRoots (paths : List String) : Except Error (List String) :=
  paths.mapM fun path ↦ (normalRoot path.toList).map String.ofList

theorem normalRoot_toList (path : String) :
    (normalRoot path.toList).map String.ofList =
      if IsAbsolute path then .ok (rooted path) else .error (.invalidRootPath path) := by
  unfold normalRoot
  by_cases h : IsAbsolute path
  · rw [if_pos h, if_pos (show path.toList.head? = some '/' from h)]
    unfold rooted
    split <;> simp [Except.map, String.ofList_append]
  · rw [if_neg h, if_neg (show ¬ path.toList.head? = some '/' from h)]
    simp [Except.map]

theorem normalRoots_append (paths others : List String) :
    normalRoots (paths ++ others) = do
      let roots ← normalRoots paths
      let more ← normalRoots others
      return roots ++ more :=
  List.mapM_append

theorem normalRoots_of_absolute (h : ∀ path ∈ paths, IsAbsolute path) :
    normalRoots paths = .ok (paths.map rooted) := by
  induction paths with
  | nil => rfl
  | cons path paths ih =>
    obtain ⟨hpath, hpaths⟩ := List.forall_mem_cons.1 h
    have hrest := ih hpaths
    rw [normalRoots] at hrest ⊢
    rw [List.mapM_cons, normalRoot_toList, if_pos hpath, hrest]
    rfl

theorem normalRoots_of_isRoot (h : ∀ path ∈ paths, IsRoot path) :
    normalRoots paths = .ok paths := by
  rw [normalRoots_of_absolute fun path hpath ↦ (h path hpath).absolute, map_rooted_of_isRoot h]

/-- What stands behind the first relative path is not looked at. -/
theorem normalRoots_of_firstRelative (h : FirstRelative paths bad) :
    normalRoots paths = .error (.invalidRootPath bad) := by
  obtain ⟨before, after, rfl, hbefore, hbad⟩ := h
  rw [normalRoots_append, normalRoots_of_absolute hbefore, normalRoots, List.mapM_cons,
    normalRoot_toList, if_neg hbad]
  rfl

theorem normalRoots_eq_ok_iff :
    normalRoots paths = .ok roots ↔
      (∀ path ∈ paths, IsAbsolute path) ∧ roots = paths.map rooted := by
  rcases absolute_or_firstRelative paths with habsolute | ⟨bad, hbad⟩
  · rw [normalRoots_of_absolute habsolute, and_iff_right habsolute]
    simp [eq_comm]
  · simp [normalRoots_of_firstRelative hbad, hbad.not_absolute]

theorem normalRoots_eq_error_iff :
    normalRoots paths = .error e ↔ ∃ bad, FirstRelative paths bad ∧ e = .invalidRootPath bad := by
  constructor
  · intro h
    rcases absolute_or_firstRelative paths with habsolute | ⟨bad, hbad⟩
    · cases h.symm.trans (normalRoots_of_absolute habsolute)
    · exact ⟨bad, hbad, Except.error.inj (h.symm.trans (normalRoots_of_firstRelative hbad))⟩
  · rintro ⟨bad, hbad, rfl⟩
    exact normalRoots_of_firstRelative hbad

/-! ## The options that hold the list -/

theorem validated_eq (o : Options) :
    o.validated = (normalRoots o.rootPaths).map fun roots ↦ { o with
      rootPaths := roots
      defaultValue := if o.defaultValue = some "" then none else o.defaultValue } := by
  rw [validated, ← normalRoots]
  cases normalRoots o.rootPaths <;> rfl

/-- Options have a normal form exactly if every root path is absolute. -/
theorem validated_eq_ok_iff :
    o.validated = .ok valid ↔ (∀ path ∈ o.rootPaths, IsAbsolute path) ∧
      valid = { o with
        rootPaths := o.rootPaths.map rooted
        defaultValue := if o.defaultValue = some "" then none else o.defaultValue } := by
  rw [validated_eq]
  rcases absolute_or_firstRelative o.rootPaths with habsolute | ⟨bad, hbad⟩
  · rw [normalRoots_of_absolute habsolute, and_iff_right habsolute]
    simp [Except.map, eq_comm]
  · simp [normalRoots_of_firstRelative hbad, hbad.not_absolute, Except.map]

theorem validated_eq_error_iff :
    o.validated = .error e ↔
      ∃ bad, FirstRelative o.rootPaths bad ∧ e = .invalidRootPath bad := by
  rw [validated_eq, ← normalRoots_eq_error_iff]
  cases normalRoots o.rootPaths <;> simp [Except.map]

/-- Every root path is in normal form, and the default is not an empty text. -/
structure Normal (o : Options) : Prop where
  roots : ∀ path ∈ o.rootPaths, IsRoot path
  default : o.defaultValue ≠ some ""

theorem normal_of_validated (h : o.validated = .ok valid) : valid.Normal := by
  obtain ⟨habsolute, rfl⟩ := validated_eq_ok_iff.1 h
  constructor
  case roots => exact List.forall_mem_map.2 fun path hpath ↦ isRoot_rooted (habsolute path hpath)
  case default =>
    dsimp only
    split
    · nofun
    · next hne => exact hne

theorem Normal.validated (h : o.Normal) : o.validated = .ok o := by
  rw [validated_eq, normalRoots_of_isRoot h.roots, if_neg h.default]
  rfl

end Options

end ConfigResolver
