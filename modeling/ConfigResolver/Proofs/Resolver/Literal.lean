import ConfigResolver.Proofs.Placeholder.Literal
import ConfigResolver.Proofs.Resolver.Substitution

/-!
# The text before a placeholder

Substitution goes on until no token is left anywhere, and so searches each new text from its start.
The value that is put in the place of a placeholder may hold tokens of its own. It may also finish a
token that begins further left, in the text before the placeholder, and then that text is replaced
too. A literal text is passed over by each of these searches, hence the result still starts with it
(`Rewrites.keeps_literal`). A text that is not literal can be lost: `finishing` is a resolver that
finishes the longest beginning of a token at its end.

Main statement: `resolveString_keeps_literal`.
-/

namespace ConfigResolver.Resolver

open Placeholder

variable {σ : Type} {r : Resolver σ} {env : Environment}

/-! ## What is kept -/

/-- A substitution leaves a literal text at the start of a text as it is. -/
theorem substitute_keeps_literal {left s : List Char} {p : Placeholder} (hleft : Literal left)
    (hs : left <+: s) (hfind : find s = some p) (value : List Char) :
    left <+: p.substitute value := by
  obtain ⟨right, rfl⟩ := hs
  rw [hleft.find_append] at hfind
  obtain ⟨q, -, rfl⟩ := Option.map_eq_some_iff.1 hfind
  simp [substitute, behind]

/-- So do any number of them. -/
theorem Rewrites.keeps_literal {left s t : List Char} {k : Nat} {st st' : σ} {events : List Event}
    (hleft : Literal left) (h : Rewrites r env k s st events t st') (hs : left <+: s) :
    left <+: t := by
  induction h with
  | refl s st => exact hs
  | step hfind hvalue hrest ih => exact ih (substitute_keeps_literal hleft hs hfind _)

/-! ## What can be lost -/

/-- A name that the key does not stand for under the root `/`: it is too long. -/
def slashes (key : List Char) : List Char := List.replicate (key.length + 2) '/'

/-- A resolver over a store with one parameter, which takes `x` for any other value. -/
def finishing (name value : List Char) : Resolver Unit where
  options := { rootPaths := ["/"], defaultValue := some "x" }
  store := some <| .ofAnswers
    { get := fun other ↦
        if other = String.ofList name then .ok (String.ofList value)
        else .error (.notFound other)
      list := fun path _ ↦ .error (.notFound path) }

section Finishing

variable {name value : List Char} {t : Token}

theorem lookup_finishing (hname : name.head? = some '/') :
    ((finishing name value).lookup .empty ⟨.parameterStore, name, none⟩ ()).result = .ok value := by
  have hnames : candidates (finishing name value).options.rootPaths (String.ofList name) =
      [] ++ String.ofList name :: [] := by
    simp [candidates, hname]
  obtain ⟨events, s', -, hout⟩ := lookupParameter_of_hit (r := finishing name value) rfl rfl
    (Store.answersBy_ofAnswers _) hnames (by simp) (by simp [IsMissing]) none ()
  simp only [lookup, hout]
  simp [Except.map, Except.mapError]

theorem lookup_finishing_other (hfallback : t.fallback = none)
    (hname : t.key.length + 1 < name.length) :
    ((finishing name value).lookup .empty t ()).result = .ok ['x'] := by
  unfold lookup
  rw [hfallback]
  cases t.source with
  | environment =>
    simp only [lookupVariable, Environment.lookup_empty, fallbackOr_apply]
    rfl
  | parameterStore =>
    obtain ⟨other, hother, hlength⟩ : ∃ other, candidates ["/"] (String.ofList t.key) = [other] ∧
        other.toList.length ≤ t.key.length + 1 := by
      unfold candidates
      split
      · exact ⟨_, rfl, by simp⟩
      · exact ⟨_, rfl, by simp⟩
    have hne : other ≠ String.ofList name := by
      rintro rfl
      simp at hlength
      omega
    have hnames : candidates (finishing name value).options.rootPaths (String.ofList t.key) =
        [other] := hother
    obtain ⟨-, hout⟩ := lookupParameter_of_all_missed (r := finishing name value) rfl rfl
      (Store.answersBy_ofAnswers _) (hnames ▸ List.cons_ne_nil _ _)
      (by simp [hnames, IsMissing, hne]) none ()
    exact hout

end Finishing

theorem trim_slashes (key : List Char) : Text.trim (slashes key) = slashes key := by
  have hslash : Text.isBlank '/' = false := by decide
  simp [slashes, Text.trim, Text.trimStart, Text.trimEnd, hslash]

/-- A token can ask for a parameter under that name. -/
theorem exists_spells_slashes (key : List Char) :
    ∃ text, Token.Spells ⟨.parameterStore, slashes key, none⟩ text := by
  have hspells := Token.Spells.plain .parameterStore (slashes key) (by simp [slashes])
    (by simp [slashes])
  rw [trim_slashes] at hspells
  exact ⟨_, hspells⟩

/-- The first value finishes the token that `u` began, and the second takes its place. -/
theorem resolveString_finishing {l u w : List Char} {t : Token} (hnone : find (l ++ u) = none)
    (hlongest : ∀ u', u' ≠ [] → u' <:+ l → ¬ Token.Begins (u' ++ u)) (hspells : t.Spells (u ++ w))
    (hfallback : t.fallback = none) {s : String}
    (hfind : find s.toList = some ⟨l ++ u, ⟨.parameterStore, slashes t.key, none⟩, []⟩) :
    ((finishing (slashes t.key) w).resolveString .empty s ()).result =
      .ok (String.ofList (l ++ ['x'])) := by
  have hsecond : find (l ++ u ++ w ++ []) = some ⟨l, t, []⟩ := by
    simpa using find_finished hnone hlongest hspells
  have hend : find (l ++ ['x'] ++ []) = none := by
    rw [List.append_nil]
    exact find_append_of_no_close (find_before_eq_none hsecond) (by simp)
  have hother : ((finishing (slashes t.key) w).lookup .empty t ()).result = .ok ['x'] :=
    lookup_finishing_other hfallback (by simp [slashes])
  have hrun := Rewrites.step hfind (lookup_finishing rfl)
    (.step hsecond hother (.refl (l ++ ['x'] ++ []) ()))
  rw [resolveString_of_end hrun hend (show 2 ≤ 64 by decide), List.append_nil]

/-- A text in which no token stands is lost in front of some placeholder, if it is not literal and
no default has begun in it. -/
theorem exists_lost {left : List Char} (hnone : find left = none) (hleft : ¬ Literal left)
    (hdefault : ∀ u, u <:+ left → ¬ Token.InDefault u) :
    ∃ (r : Resolver Unit) (s t : String) (p : Placeholder), find s.toList = some p ∧
      p.before = left ∧ (r.resolveString .empty s ()).result = .ok t ∧ ¬ left <+: t.toList := by
  obtain ⟨l, u, rfl, hne, hbegins, hlongest⟩ : ∃ l u, left = l ++ u ∧ u ≠ [] ∧ Token.Begins u ∧
      ∀ u', u' ≠ [] → u' <:+ l → ¬ Token.Begins (u' ++ u) := by
    refine exists_longest_beginning ?_
    by_contra hall
    exact hleft ⟨hnone, fun u hne hu hbegins ↦ hall ⟨u, hne, hu, hbegins⟩⟩
  have hu : u <:+ l ++ u := List.suffix_append l u
  obtain ⟨t, w, hspells, hfallback⟩ :=
    (hbegins.finish (noneAt_of_find hnone hu)).resolve_left (hdefault u hu)
  obtain ⟨text, htext⟩ := exists_spells_slashes t.key
  have hfind : find (String.ofList (l ++ u ++ text)).toList =
      some ⟨l ++ u, ⟨.parameterStore, slashes t.key, none⟩, []⟩ := by
    rw [String.toList_ofList]
    simpa using find_followed hnone hdefault htext []
  have hresult := resolveString_finishing hnone hlongest hspells hfallback hfind
  refine ⟨_, _, _, _, hfind, rfl, hresult, ?_⟩
  rw [String.toList_ofList, List.prefix_append_right_inj]
  rintro ⟨v, hv⟩
  -- what was lost starts with a brace, and the result goes on with a letter
  obtain ⟨tail, htail⟩ := hspells.opening_isPrefix
  cases u with
  | nil => exact hne rfl
  | cons c u =>
    obtain ⟨rfl, -⟩ := List.cons.inj htail
    cases (List.cons.inj hv).1

/-- What stands in front of the leftmost placeholder of a text is kept as far as it is literal:
whatever the resolver, the variables and the store are, a result starts with each literal text at
its start. Nothing more is certain: if the text in front of the placeholder is not literal, some
resolver loses it in front of some placeholder. -/
theorem resolveString_keeps_literal {s : String} {p : Placeholder}
    (hfind : find s.toList = some p) :
    (∀ left, left <+: p.before → Literal left →
      ∀ {σ : Type} (r : Resolver σ) (env : Environment) (st : σ) (t : String),
        (r.resolveString env s st).result = .ok t → left <+: t.toList) ∧
    (¬ Literal p.before → ∃ (r : Resolver Unit) (s' t : String) (p' : Placeholder),
      find s'.toList = some p' ∧ p'.before = p.before ∧
        (r.resolveString .empty s' ()).result = .ok t ∧ ¬ p.before <+: t.toList) := by
  refine ⟨fun left hleft hliteral σ r env st t ht ↦ ?_, fun hliteral ↦ ?_⟩
  · obtain ⟨k, -, hrewrites, -⟩ :=
      resolveString_eq_ok_iff.1 (show r.resolveString env s st = ⟨.ok t, _, _⟩ by rw [← ht])
    obtain ⟨text, -, hs⟩ := in_of_find hfind
    refine hrewrites.keeps_literal hliteral ?_
    rw [hs, List.append_assoc]
    exact hleft.trans (List.prefix_append _ _)
  · exact exists_lost (find_before_eq_none hfind) hliteral fun u hu ↦
      not_inDefault_before hfind hu

/-- A closing brace in the place of a placeholder leaves the word in front of it. -/
theorem resolveString_keeps_literal_word :
    let r : Resolver Unit := ⟨{}, some (.ofAnswers ⟨fun _ ↦ .ok "\x7d", fun _ _ ↦ .ok ⟨[], none⟩⟩)⟩
    let s := "at \x7b!SSM: /b\x7d"
    find s.toList = some ⟨"at ".toList, ⟨.parameterStore, "/b".toList, none⟩, []⟩ ∧
      (r.resolveString .empty s ()).result = .ok "at \x7d" ∧
      "at ".toList <+: "at \x7d".toList := by
  intro r s
  have hfind : find s.toList =
      some ⟨"at ".toList, ⟨.parameterStore, "/b".toList, none⟩, []⟩ := by decide
  have hresult : (r.resolveString .empty s ()).result = .ok "at \x7d" := by decide +kernel
  refine ⟨hfind, hresult, ?_⟩
  obtain ⟨hkeeps, -⟩ := resolveString_keeps_literal hfind
  exact hkeeps _ (List.prefix_refl _) (literal_of_no_brace (by decide)) r .empty () _ hresult

/-- The same brace finishes the token that begins in front of another placeholder, and the value of
that token is the whole result. -/
theorem resolveString_loses_before :
    let get := fun name ↦ if name = "/b" then .ok "\x7d" else .ok "x"
    let r : Resolver Unit := ⟨{}, some (.ofAnswers ⟨get, fun _ _ ↦ .ok ⟨[], none⟩⟩)⟩
    let s := "\x7b!SSM: /a \x7b!SSM: /b\x7d"
    let before := "\x7b!SSM: /a "
    find s.toList = some ⟨before.toList, ⟨.parameterStore, "/b".toList, none⟩, []⟩ ∧
      (r.resolveString .empty s ()).result = .ok "x" ∧ ¬ before.toList <+: "x".toList := by
  intro get r s before
  refine ⟨by decide, by decide +kernel, by decide⟩

end ConfigResolver.Resolver
