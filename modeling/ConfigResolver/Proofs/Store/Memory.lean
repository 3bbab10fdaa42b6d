import ConfigResolver.Store.Memory
import Mathlib.Data.List.Induction
import Mathlib.Data.String.Basic

/-!
# What a store in memory holds

A store without failures is built step by step, from parameters and page sizes. It holds each name
once, with the value that was given last (`mem_held`), in the order of the names (`sorted_held`),
and the page sizes have no part in this (`parameters_ofSteps`).

A token is the decimal text of a position, and is read back as it (`startOf_toString`). As long as
the end of a page can be counted in words, a page is a segment of the parameters under its path
(`list_eq_ok`), and otherwise it is an overflow (`list_eq_error`).
-/

namespace ConfigResolver.MemoryStore

/-! ## Parameters in order -/

/-- The parameters are in the order of their names, and no name occurs twice. -/
def Sorted (ps : List Parameter) : Prop := ps.Pairwise fun p q ↦ p.name < q.name

theorem eq_of_mem_insertParameter {p q : Parameter} {ps : List Parameter}
    (h : q ∈ insertParameter p ps) : q = p ∨ q ∈ ps := by
  induction ps with
  | nil => exact .inl (List.mem_singleton.1 h)
  | cons first rest ih =>
    unfold insertParameter at h
    split at h
    · exact (List.mem_cons.1 h).imp_right (List.mem_cons_of_mem first)
    · split at h
      · exact List.mem_cons.1 h
      · rcases List.mem_cons.1 h with rfl | h
        · exact .inr List.mem_cons_self
        · exact (ih h).imp_right (List.mem_cons_of_mem first)

theorem sorted_insertParameter (p : Parameter) {ps : List Parameter} (h : Sorted ps) :
    Sorted (insertParameter p ps) := by
  induction ps with
  | nil => exact List.pairwise_singleton _ p
  | cons first rest ih =>
    obtain ⟨hfirst, hrest⟩ := List.pairwise_cons.1 h
    unfold insertParameter
    split
    · next heq => exact List.pairwise_cons.2 ⟨fun q hq ↦ heq ▸ hfirst q hq, hrest⟩
    · next hne =>
      split
      · next hlt =>
        refine List.pairwise_cons.2 ⟨fun q hq ↦ ?_, h⟩
        rcases List.mem_cons.1 hq with rfl | hq
        · exact hlt
        · exact hlt.trans (hfirst q hq)
      · next hle =>
        refine List.pairwise_cons.2 ⟨fun q hq ↦ ?_, ih hrest⟩
        rcases eq_of_mem_insertParameter hq with rfl | hq
        · exact lt_of_le_of_ne (not_lt.1 hle) (Ne.symm hne)
        · exact hfirst q hq

/-- A parameter takes the place of the one with its name, and leaves the others. -/
theorem mem_insertParameter {p q : Parameter} {ps : List Parameter} (h : Sorted ps) :
    q ∈ insertParameter p ps ↔ q = p ∨ q ∈ ps ∧ q.name ≠ p.name := by
  induction ps with
  | nil => simp [insertParameter]
  | cons first rest ih =>
    obtain ⟨hfirst, hrest⟩ := List.pairwise_cons.1 h
    unfold insertParameter
    split
    · next heq =>
      have hother : ∀ q ∈ rest, q.name ≠ p.name := fun q hq ↦ heq ▸ (hfirst q hq).ne'
      grind
    · next hne =>
      split
      · next hlt =>
        have hother : ∀ q ∈ rest, q.name ≠ p.name := fun q hq ↦ (hlt.trans (hfirst q hq)).ne'
        grind
      · have := ih hrest
        grind

/-- A name is found with its value. -/
theorem find?_eq_some_iff {ps : List Parameter} (h : Sorted ps) {name : String} {p : Parameter} :
    ps.find? (·.name = name) = some p ↔ p ∈ ps ∧ p.name = name := by
  induction ps with
  | nil => simp
  | cons first rest ih =>
    obtain ⟨hfirst, hrest⟩ := List.pairwise_cons.1 h
    rw [List.find?_cons]
    split
    · next heq =>
      have hname : first.name = name := of_decide_eq_true heq
      have hother : ∀ q ∈ rest, q.name ≠ name := fun q hq ↦ hname ▸ (hfirst q hq).ne'
      grind
    · next hne =>
      have hname : first.name ≠ name := of_decide_eq_false hne
      have := ih hrest
      grind

/-! ## Building a store -/

/-- A page holds at least one parameter, whatever size is asked for. -/
theorem toNat_max_one_pos (size : UInt64) : 0 < (max size 1).toNat := by
  have hmax : max size 1 = if size ≤ 1 then 1 else size := rfl
  rw [hmax]
  split
  · decide
  · next hlt =>
    rw [UInt64.le_iff_toNat_le, UInt64.toNat_one] at hlt
    omega

/-- `Built m`: the store is made from the empty one by parameters, failures and sizes of pages, as
every store is. -/
inductive Built : MemoryStore → Prop
  /-- There is nothing in it. -/
  | empty : Built empty
  /-- One more parameter, or another value of one. -/
  | parameter {m : MemoryStore} (h : Built m) (name value : String) :
      Built (m.withParameter name value)
  /-- One more failure. -/
  | failure {m : MemoryStore} (h : Built m) (name : String) (e : StoreError) :
      Built (m.withFailure name e)
  /-- Another size of pages. -/
  | pageSize {m : MemoryStore} (h : Built m) (size : UInt64) : Built (m.withPageSize size)

theorem Built.sorted {m : MemoryStore} (h : Built m) : Sorted m.parameters := by
  induction h with
  | empty => exact .nil
  | parameter _ name value ih => exact sorted_insertParameter ⟨name, value⟩ ih
  | failure _ _ _ ih => exact ih
  | pageSize _ _ ih => exact ih

theorem Built.size_pos {m : MemoryStore} (h : Built m) : ∀ size ∈ m.pageSize, 0 < size.toNat := by
  induction h with
  | empty => nofun
  | parameter _ _ _ ih => exact ih
  | failure _ _ _ ih => exact ih
  | pageSize _ size _ =>
    rintro _ ⟨⟩
    exact toNat_max_one_pos size

/-- A step in the building of a store. -/
inductive Step where
  /-- A parameter. -/
  | parameter (p : Parameter)
  /-- A size of pages. -/
  | pageSize (size : UInt64)
deriving DecidableEq, Repr

namespace Step

/-- The store after one more step. -/
def apply (m : MemoryStore) : Step → MemoryStore
  | parameter p => m.withParameter p.name p.value
  | pageSize size => m.withPageSize size

/-- The parameter that a step gives. -/
def parameter? : Step → Option Parameter
  | parameter p => some p
  | pageSize _ => none

end Step

/-- The store that some steps build. -/
def ofSteps (steps : List Step) : MemoryStore := steps.foldl Step.apply empty

/-- The parameters that some steps give, in their order. -/
def given (steps : List Step) : List Parameter := steps.filterMap Step.parameter?

/-- What is held of parameters that are given one after the other. -/
def held (ps : List Parameter) : List Parameter := ps.foldl (fun qs p ↦ insertParameter p qs) []

/-- The value that was given last for a name. -/
def latest (ps : List Parameter) (name : String) : Option String :=
  (ps.reverse.find? (·.name = name)).map Parameter.value

theorem held_append_singleton (ps : List Parameter) (p : Parameter) :
    held (ps ++ [p]) = insertParameter p (held ps) := by
  simp [held]

theorem latest_append_singleton (ps : List Parameter) (p : Parameter) (name : String) :
    latest (ps ++ [p]) name = if p.name = name then some p.value else latest ps name := by
  unfold latest
  rw [List.reverse_append, List.reverse_singleton, List.singleton_append, List.find?_cons]
  by_cases h : p.name = name <;> simp [h]

theorem sorted_held (ps : List Parameter) : Sorted (held ps) := by
  induction ps using List.reverseRecOn with
  | nil => exact .nil
  | append_singleton ps p ih =>
    rw [held_append_singleton]
    exact sorted_insertParameter p ih

/-- Each name is held with the value that was given last, and nothing else is. -/
theorem mem_held {ps : List Parameter} {p : Parameter} :
    p ∈ held ps ↔ latest ps p.name = some p.value := by
  induction ps using List.reverseRecOn with
  | nil => simp [held, latest]
  | append_singleton ps q ih =>
    rw [held_append_singleton, mem_insertParameter (sorted_held ps), latest_append_singleton, ih]
    obtain ⟨name, value⟩ := p
    obtain ⟨other, last⟩ := q
    grind

/-- What every step keeps the built store has. -/
theorem ofSteps_induction {P : MemoryStore → Prop} (hempty : P empty)
    (hstep : ∀ m step, P m → P (Step.apply m step)) (steps : List Step) : P (ofSteps steps) := by
  induction steps using List.reverseRecOn with
  | nil => exact hempty
  | append_singleton steps step ih =>
    rw [ofSteps, List.foldl_append]
    exact hstep _ step ih

/-- Page sizes have no part in what a store holds. -/
theorem parameters_ofSteps (steps : List Step) :
    (ofSteps steps).parameters = held (given steps) := by
  induction steps using List.reverseRecOn with
  | nil => rfl
  | append_singleton steps step ih =>
    rw [ofSteps, List.foldl_append]
    cases step with
    | parameter p =>
      have hgiven : given (steps ++ [.parameter p]) = given steps ++ [p] := by
        simp [given, Step.parameter?]
      rw [hgiven, held_append_singleton, ← ih]
      rfl
    | pageSize size =>
      have hgiven : given (steps ++ [.pageSize size]) = given steps := by
        simp [given, Step.parameter?]
      rw [hgiven, ← ih]
      rfl

theorem built_ofSteps (steps : List Step) : Built (ofSteps steps) := by
  refine ofSteps_induction .empty (fun m step h ↦ ?_) steps
  cases step with
  | parameter p => exact h.parameter p.name p.value
  | pageSize size => exact h.pageSize size

theorem failures_ofSteps (steps : List Step) : (ofSteps steps).failures = [] := by
  refine ofSteps_induction (P := fun m ↦ m.failures = []) rfl (fun m step h ↦ ?_) steps
  cases step <;> exact h

/-! ## Requests without a failure -/

section Requests

variable {m : MemoryStore} {path : String}

theorem check_of_failures_nil (h : m.failures = []) (name : String) : m.check name = .ok () := by
  simp [check, h]

theorem get_of_mem (hfailures : m.failures = []) (hsorted : Sorted m.parameters) {p : Parameter}
    (hp : p ∈ m.parameters) : m.get p.name = .ok p.value := by
  unfold get
  rw [check_of_failures_nil hfailures, (find?_eq_some_iff hsorted).2 ⟨hp, rfl⟩]
  rfl

theorem mem_under {p : Parameter} :
    p ∈ m.under path ↔ p ∈ m.parameters ∧ folder path.toList <+: p.name.toList := by
  rw [under, List.mem_filter, List.isPrefixOf_iff_prefix]

theorem sorted_under (h : Sorted m.parameters) (path : String) : Sorted (m.under path) :=
  h.filter _

theorem length_under_le (m : MemoryStore) (path : String) :
    (m.under path).length ≤ m.parameters.length :=
  List.length_filter_le _ _

/-! ## Tokens -/

/-- The decimal text of a word is read as this word. -/
theorem offsetOf?_toString {n : Nat} (h : n < UInt64.size) :
    offsetOf? (toString n) = some (UInt64.ofNat n) := by
  have htext : (toString n).toList = Nat.toDigits 10 n := by
    rw [Nat.toString_eq_ofList_toDigits, String.toList_ofList]
  have hdigits : ∀ c ∈ Nat.toDigits 10 n, c.isDigit := fun c hc ↦
    Nat.isDigit_of_mem_toDigits (by decide) (by decide) hc
  have hvalue : (Nat.toDigits 10 n).foldl (fun n c ↦ 10 * n + (c.toNat - '0'.toNat)) 0 = n := by
    rw [← Nat.ofDigitChars_eq_foldl]
    exact Nat.ofDigitChars_ten_toDigits
  have hall : (Nat.toDigits 10 n).all Char.isDigit = true := List.all_eq_true.2 hdigits
  have hempty : (Nat.toDigits 10 n).isEmpty = false := by
    rw [List.isEmpty_eq_false_iff]
    exact Nat.toDigits_ne_nil
  unfold offsetOf?
  rw [htext]
  dsimp only
  split
  · next rest hplus =>
    exact absurd (hdigits '+' (hplus ▸ List.mem_cons_self)) (by decide)
  · simp only [hempty, hall, hvalue, if_pos h]
    rfl

theorem startOf_toString {n : Nat} (h : n < UInt64.size) :
    startOf (some (toString n)) = .ok (UInt64.ofNat n) := by
  simp only [startOf, offsetOf?_toString h]

theorem eq_of_toString_eq {k n : Nat} (hk : k < UInt64.size) (hn : n < UInt64.size)
    (h : toString k = toString n) : k = n := by
  have hread : UInt64.ofNat k = UInt64.ofNat n := Option.some.inj <|
    calc some (UInt64.ofNat k)
      _ = offsetOf? (toString k) := (offsetOf?_toString hk).symm
      _ = some (UInt64.ofNat n) := by rw [h, offsetOf?_toString hn]
  rw [← UInt64.toNat_ofNat_of_lt' hk, hread, UInt64.toNat_ofNat_of_lt' hn]

/-! ## Pages -/

/-- The position where the page at a position ends, counted without a limit. -/
def stopOf (m : MemoryStore) (count start : Nat) : Nat :=
  match m.pageSize with
  | none => count
  | some size => min (start + size.toNat) count

theorem stopOf_le (m : MemoryStore) (count start : Nat) : m.stopOf count start ≤ count := by
  unfold stopOf
  split
  · exact Nat.le_refl count
  · exact Nat.min_le_right _ _

/-- A page that is not the last one is a whole page. -/
theorem stopOf_eq_of_lt {count start : Nat} (h : m.stopOf count start < count) :
    ∃ size ∈ m.pageSize, m.stopOf count start = start + size.toNat := by
  unfold stopOf at h ⊢
  cases hsize : m.pageSize with
  | none =>
    rw [hsize] at h
    exact absurd h (Nat.lt_irrefl count)
  | some size =>
    rw [hsize] at h
    dsimp only at h ⊢
    exact ⟨size, rfl, by omega⟩

/-- A page that is not the last one holds something. -/
theorem lt_stopOf (hpos : ∀ size ∈ m.pageSize, 0 < size.toNat) {count start : Nat}
    (h : m.stopOf count start < count) : start < m.stopOf count start := by
  obtain ⟨size, hsize, heq⟩ := stopOf_eq_of_lt h
  have := hpos size hsize
  omega

theorem toNat_min (a b : UInt64) : (min a b).toNat = min a.toNat b.toNat := by
  have hmin : min a b = if a ≤ b then a else b := rfl
  rw [hmin]
  split
  · next h => exact (Nat.min_eq_left (UInt64.le_iff_toNat_le.1 h)).symm
  · next h =>
    rw [UInt64.le_iff_toNat_le] at h
    exact (Nat.min_eq_right (by omega)).symm

section Words

variable {token : Option String} {start : UInt64}

/-- Where nothing overflows, words end a page where numbers do. -/
theorem endOf_eq_ok (count : UInt64)
    (hend : ∀ size ∈ m.pageSize, start.toNat + size.toNat < UInt64.size) :
    ∃ stop, m.endOf count start = .ok stop ∧ stop.toNat = m.stopOf count.toNat start.toNat := by
  unfold endOf stopOf
  cases hsize : m.pageSize with
  | none => exact ⟨count, rfl, rfl⟩
  | some size =>
    have hword := hend size hsize
    refine ⟨_, if_pos hword, ?_⟩
    rw [toNat_min, UInt64.toNat_add, Nat.mod_eq_of_lt hword]

theorem endOf_eq_error (count : UInt64) {size : UInt64} (hsize : size ∈ m.pageSize)
    (hend : UInt64.size ≤ start.toNat + size.toNat) :
    m.endOf count start = .error ⟨start, size⟩ := by
  have hsize' : m.pageSize = some size := hsize
  simp only [endOf, hsize', if_neg (Nat.not_lt.2 hend)]

theorem list_eq_pageAt (hcheck : m.check path = .ok ()) (hstart : startOf token = .ok start) :
    m.list path token = (m.pageAt path start).map .ok := by
  rw [list, hcheck, show (.ok () >>= fun _ ↦ startOf token) = .ok start from hstart]

/-- Behind the last one there is nothing to drop. -/
theorem drop_min_of_length_le {α : Type} {xs : List α} {bound : Nat} (h : xs.length ≤ bound)
    (start : Nat) : xs.drop (min start bound) = xs.drop start := by
  rcases Nat.le_total start bound with hle | hle
  · rw [Nat.min_eq_left hle]
  · rw [Nat.min_eq_right hle, List.drop_eq_nil_of_le h, List.drop_eq_nil_of_le (h.trans hle)]

/-- Where the end of a page is a word, a page is the parameters from its start to its end, and its
token is its end unless this is the end of all. -/
theorem list_eq_ok (hcheck : m.check path = .ok ()) (hstart : startOf token = .ok start)
    (hcount : (m.under path).length < UInt64.size)
    (hend : ∀ size ∈ m.pageSize, start.toNat + size.toNat < UInt64.size) :
    let stop := m.stopOf (m.under path).length start.toNat
    m.list path token = .ok (.ok {
      parameters := ((m.under path).take stop).drop start.toNat
      nextToken := if stop < (m.under path).length then some (toString stop) else none }) := by
  intro stop
  obtain ⟨word, hword, heq⟩ := endOf_eq_ok (UInt64.ofNat (m.under path).length) hend
  rw [UInt64.toNat_ofNat_of_lt' hcount] at heq
  rw [list_eq_pageAt hcheck hstart, pageAt, hword]
  simp only [bind, Except.bind, pure, Except.pure, Except.map, toNat_min, UInt64.lt_iff_toNat_lt,
    UInt64.toNat_ofNat_of_lt' hcount, heq, drop_min_of_length_le (List.length_take_le _ _)]
  rfl

/-- Where the end of a page is no word, there is no page. -/
theorem list_eq_error (hcheck : m.check path = .ok ()) (hstart : startOf token = .ok start)
    {size : UInt64} (hsize : size ∈ m.pageSize)
    (hend : UInt64.size ≤ start.toNat + size.toNat) :
    m.list path token = .error ⟨start, size⟩ := by
  rw [list_eq_pageAt hcheck hstart, pageAt, endOf_eq_error _ hsize hend]
  rfl

theorem listed_of_list {answer : Except StoreError Page} (h : m.list path token = .ok answer) :
    m.listed path token = answer := by
  rw [listed, h]

end Words

end Requests

end ConfigResolver.MemoryStore
