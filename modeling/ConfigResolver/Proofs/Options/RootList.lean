import ConfigResolver.Proofs.Resolver.Roots
import ConfigResolver.Proofs.Text.Trim

/-!
# Texts that list root paths

A text lists root paths between colons. What counts of it are its segments: its pieces between the
colons, trimmed, without the blank ones. The segments of two texts joined with a colon are those of
the first and then those of the second (`segments_append`). Everything else follows from this: a
list of texts is read as its texts joined with colons are (`withRootPathList_eq`), and root paths in
normal form are read back from their joined text as they are (`parseRootPaths_intercalate`).

Main statement: `parseRootPaths_homomorphism`.
-/

namespace ConfigResolver.Options

variable {s piece segment : String} {roots : List String}

/-! ## Segments -/

/-- The pieces of a text between its colons. -/
def pieces (s : String) : List String := (s.toList.splitOn separator).map String.ofList

/-- A text without the blanks at its two ends. -/
def trimmed (s : String) : String := String.ofList (Text.trim s.toList)

/-- The root paths that a text lists, as they are written. -/
def segments (s : String) : List String := ((pieces s).map trimmed).filter (· ≠ "")

/-- What is cut at a character does not hold it. -/
theorem notMem_of_mem_splitOn {c : Char} {text part : List Char} (h : part ∈ text.splitOn c) :
    c ∉ part := by
  by_cases hc : c ∈ text
  · obtain ⟨front, rest, htext, hfront⟩ := List.eq_append_cons_of_mem hc
    rw [htext, List.splitOn_eq_splitOnP, List.splitOnP_append_cons _ _ (by simp),
      ← List.splitOn_eq_splitOnP, ← List.splitOn_eq_splitOnP, List.splitOn_eq_singleton hfront,
      List.mem_append, List.mem_singleton] at h
    -- what is in front of the first cut does not hold the character, and the rest is shorter
    rcases h with rfl | hrest
    · exact hfront
    · exact notMem_of_mem_splitOn hrest
  · rw [List.splitOn_eq_singleton hc, List.mem_singleton] at h
    exact h ▸ hc
termination_by text.length
decreasing_by rw [htext, List.length_append, List.length_cons]; omega

theorem colon_notMem_of_mem_pieces (h : piece ∈ pieces s) : ':' ∉ piece.toList := by
  obtain ⟨part, hpart, rfl⟩ := List.mem_map.1 h
  rw [String.toList_ofList]
  exact notMem_of_mem_splitOn hpart

theorem intercalate_pieces (s : String) : ":".intercalate (pieces s) = s := by
  have hparts : (pieces s).map String.toList = s.toList.splitOn separator := by
    simp [pieces, Function.comp_def]
  rw [← String.toList_inj, String.toList_intercalate, hparts]
  exact List.intercalate_splitOn separator

theorem pieces_append (s t : String) : pieces (s ++ ":" ++ t) = pieces s ++ pieces t := by
  have htext : (s ++ ":" ++ t).toList = s.toList ++ separator :: t.toList := by
    simp [separator]
  rw [pieces, htext, List.splitOn_eq_splitOnP, List.splitOnP_append_cons _ _ (by simp),
    List.map_append]
  rfl

theorem pieces_of_notMem (h : ':' ∉ s.toList) : pieces s = [s] := by
  rw [pieces, List.splitOn_eq_singleton (show separator ∉ s.toList from h)]
  simp

@[simp] theorem segments_empty : segments "" = [] := rfl

theorem segments_append (s t : String) : segments (s ++ ":" ++ t) = segments s ++ segments t := by
  rw [segments, pieces_append, List.map_append, List.filter_append]
  rfl

/-- The segments of texts that are joined with colons. -/
theorem segments_intercalate (texts : List String) :
    segments (":".intercalate texts) = texts.flatMap segments := by
  induction texts with
  | nil => simp
  | cons text texts ih =>
    cases texts with
    | nil => simp
    | cons next texts =>
      rw [String.intercalate_cons_cons, segments_append, ih]
      rfl

/-! ## Reading a text -/

theorem segments_eq (s : String) :
    segments s = (rootSegments s.toList).map String.ofList := by
  have htrimmed : (pieces s).map trimmed =
      ((s.toList.splitOn separator).map Text.trim).map String.ofList := by
    simp [pieces, trimmed, Function.comp_def]
  have hblank : (fun segment : String ↦ decide (segment ≠ "")) ∘ String.ofList =
      fun segment ↦ !segment.isEmpty := by
    funext segment
    cases segment <;> simp
  rw [segments, htrimmed, List.filter_map, hblank, rootSegments]

theorem parseRootPaths_eq (s : String) : parseRootPaths s = normalRoots (segments s) := by
  rw [segments_eq, normalRoots, List.mapM_map, parseRootPaths]
  simp only [Function.comp_def, String.toList_ofList]

theorem withRootPaths_eq (o : Options) (s : String) :
    o.withRootPaths s = (parseRootPaths s).map fun roots ↦ { o with rootPaths := roots } := by
  rw [withRootPaths]
  cases parseRootPaths s <;> rfl

/-- Several texts list what they list one after another. -/
theorem mapM_parseRootPaths (texts : List String) :
    (texts.mapM parseRootPaths).map List.flatten = normalRoots (texts.flatMap segments) := by
  induction texts with
  | nil => rfl
  | cons text texts ih =>
    rw [List.mapM_cons, List.flatMap_cons, normalRoots_append, ← ih, parseRootPaths_eq]
    cases normalRoots (segments text) with
    | error e => rfl
    | ok roots => cases texts.mapM parseRootPaths <;> rfl

theorem withRootPathList_eq (o : Options) (texts : List String) :
    o.withRootPathList texts = o.withRootPaths (":".intercalate texts) := by
  rw [withRootPaths_eq, parseRootPaths_eq, segments_intercalate, ← mapM_parseRootPaths,
    withRootPathList]
  cases texts.mapM parseRootPaths <;> rfl

/-! ## Reading root paths in normal form again -/

theorem colon_notMem_of_mem_segments (h : segment ∈ segments s) : ':' ∉ segment.toList := by
  obtain ⟨piece, hpiece, rfl⟩ := List.mem_map.1 (List.mem_of_mem_filter h)
  rw [trimmed, String.toList_ofList]
  exact fun hcolon ↦ colon_notMem_of_mem_pieces hpiece ((Text.trim_isInfix _).subset hcolon)

theorem colon_notMem_rooted (h : ':' ∉ segment.toList) : ':' ∉ (rooted segment).toList := by
  unfold rooted
  split
  · exact h
  · simpa using h

/-- What starts and ends with a slash has no blank to lose. -/
theorem segments_of_isRoot (hroot : IsRoot s) (hcolon : ':' ∉ s.toList) : segments s = [s] := by
  have htrimmed : trimmed s = s := by
    rw [trimmed, Text.trim_eq_self, String.ofList_toList]
    · rw [hroot.absolute]
      simp [Text.isBlank]
    · rw [hroot.slash]
      simp [Text.isBlank]
  have hne : s ≠ "" := by
    rintro rfl
    cases hroot.absolute
  rw [segments, pieces_of_notMem hcolon, List.map_singleton, htrimmed]
  simp [hne]

theorem segments_intercalate_of_isRoot
    (h : ∀ root ∈ roots, IsRoot root ∧ ':' ∉ root.toList) :
    segments (":".intercalate roots) = roots := by
  rw [segments_intercalate]
  calc roots.flatMap segments
    _ = roots.flatMap fun root ↦ [root] :=
      List.flatMap_congr fun root hroot ↦ segments_of_isRoot (h root hroot).1 (h root hroot).2
    _ = roots := List.flatMap_singleton' roots

/-- The root paths that are read are in normal form, and hold no colon. -/
theorem isRoot_of_parseRootPaths (h : parseRootPaths s = .ok roots) :
    ∀ root ∈ roots, IsRoot root ∧ ':' ∉ root.toList := by
  rw [parseRootPaths_eq, normalRoots_eq_ok_iff] at h
  obtain ⟨habsolute, rfl⟩ := h
  refine List.forall_mem_map.2 fun segment hsegment ↦ ⟨?_, ?_⟩
  · exact isRoot_rooted (habsolute segment hsegment)
  · exact colon_notMem_rooted (colon_notMem_of_mem_segments hsegment)

theorem parseRootPaths_intercalate (h : parseRootPaths s = .ok roots) :
    parseRootPaths (":".intercalate roots) = .ok roots := by
  have hroots := isRoot_of_parseRootPaths h
  rw [parseRootPaths_eq, segments_intercalate_of_isRoot hroots]
  exact normalRoots_of_isRoot fun root hroot ↦ (hroots root hroot).1

/-- Lists of root paths are read piece by piece. A text is read exactly if its segments, which are
what stands between its colons, trimmed and not blank, are all absolute; what is read are these with
a slash at the end of each, and the first relative one is what a refusal names. Joining texts with
colons is reading one after another, and what has been read is read back, and kept by a resolver, as
it is. -/
theorem parseRootPaths_homomorphism (σ : Type) :
    (∀ s, ((∀ piece ∈ pieces s, ':' ∉ piece.toList) ∧ ":".intercalate (pieces s) = s) ∧
      (∀ roots, parseRootPaths s = .ok roots ↔
        (∀ segment ∈ segments s, IsAbsolute segment) ∧ roots = (segments s).map rooted) ∧
      ∀ e, parseRootPaths s = .error e ↔
        ∃ bad, FirstRelative (segments s) bad ∧ e = .invalidRootPath bad) ∧
    (∀ (o : Options) texts, o.withRootPathList texts = o.withRootPaths (":".intercalate texts)) ∧
    ∀ s roots, parseRootPaths s = .ok roots →
      parseRootPaths (":".intercalate roots) = .ok roots ∧
        ∀ (o : Options) (store : Option (Store σ)),
          ∃ r, Resolver.new { o with rootPaths := roots } store = .ok r ∧
            r.options.rootPaths = roots := by
  refine ⟨fun s ↦ ⟨⟨fun piece ↦ colon_notMem_of_mem_pieces, intercalate_pieces s⟩, ?_, ?_⟩,
    withRootPathList_eq, fun s roots h ↦ ⟨parseRootPaths_intercalate h, ?_⟩⟩
  case refine_1 => exact fun roots ↦ parseRootPaths_eq s ▸ normalRoots_eq_ok_iff
  case refine_2 => exact fun e ↦ parseRootPaths_eq s ▸ normalRoots_eq_error_iff
  case refine_3 =>
    intro o store
    have hroots : ∀ root ∈ roots, IsRoot root := fun root hroot ↦
      (isRoot_of_parseRootPaths h root hroot).1
    refine ⟨_, Resolver.new_eq_ok_iff.2 ⟨fun root hroot ↦ (hroots root hroot).absolute, rfl⟩, ?_⟩
    exact map_rooted_of_isRoot hroots

theorem parseRootPaths_homomorphism_blanks :
    parseRootPaths "  /a: :/b/ " = .ok ["/a/", "/b/"] ∧
      parseRootPaths "/a/:/b/" = .ok ["/a/", "/b/"] := by
  have hparse : parseRootPaths "  /a: :/b/ " = .ok ["/a/", "/b/"] := by rfl
  obtain ⟨-, -, hagain⟩ := parseRootPaths_homomorphism Unit
  exact ⟨hparse, (hagain _ _ hparse).1⟩

end ConfigResolver.Options
