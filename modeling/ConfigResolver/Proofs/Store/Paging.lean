import ConfigResolver.Proofs.Store.Memory
import ConfigResolver.Proofs.Text.ByteOrder

/-!
# Any page of a store in memory

A listing is asked for from any position on, also from one that no token of the store leads to. As
long as the position and the size of a page add up to a word, the page is the one that numbers
without a limit describe. Where they do not, the request overflows, although the page would be the
rest of the listing: the sum is taken before it is held against the end of the listing.

Main statement: `list_by_position`.
-/

namespace ConfigResolver.MemoryStore

variable {m : MemoryStore} {path : String} {token : Option String} {start size : UInt64}

theorem check_of_notMem (h : ∀ e, (path, e) ∉ m.failures) : m.check path = .ok () := by
  have hnone : m.failures.lookup path = none := by
    rw [List.lookup_eq_none_iff]
    rintro ⟨other, e⟩ hmem
    rw [bne_iff_ne]
    rintro rfl
    exact h e hmem
  rw [check, hnone]

/-- By numbers a page that overflows would be the last one. -/
theorem stopOf_eq_of_overflow {count : Nat} (hcount : count < 2 ^ 64) (hsize : size ∈ m.pageSize)
    (h : 2 ^ 64 ≤ start.toNat + size.toNat) : m.stopOf count start.toNat = count := by
  have hsize' : m.pageSize = some size := hsize
  simp only [stopOf, hsize']
  omega

/-- The token behind a page that is not the last one leads further. -/
theorem lt_of_startOf_stopOf (hm : Built m) {count : Nat} (hcount : count < 2 ^ 64)
    (h : m.stopOf count start.toNat < count) :
    ∃ next, startOf (some (toString (m.stopOf count start.toNat))) = .ok next ∧ start < next := by
  have hword : m.stopOf count start.toNat < UInt64.size := h.trans hcount
  refine ⟨_, startOf_toString hword, ?_⟩
  rw [UInt64.lt_iff_toNat_lt, UInt64.toNat_ofNat_of_lt' hword]
  exact lt_stopOf hm.size_pos h

/-- What a store without a failure for a path makes of a position. The parameters under the path are
in the order of the bytes of their names. As long as the position and the size of pages add up to a
word, the page is those from the position on, as many as a page holds, and it has a token exactly if
there are more; the token is the end of the page in decimal, and it leads further. If they do not,
the request overflows, although by numbers the page would be the last one. -/
theorem list_by_position (hm : Built m) (hfailures : ∀ e, (path, e) ∉ m.failures)
    (hcount : (m.under path).length < 2 ^ 64) (hstart : startOf token = .ok start) :
    let found := m.under path
    let stop := m.stopOf found.length start.toNat
    (found.Pairwise (fun p q ↦ Text.bytes p.name < Text.bytes q.name) ∧
      ∀ p, p ∈ found ↔ p ∈ m.parameters ∧ folder path.toList <+: p.name.toList) ∧
    ((∀ size ∈ m.pageSize, start.toNat + size.toNat < 2 ^ 64) →
      m.list path token = .ok (.ok {
        parameters := (found.take stop).drop (min start.toNat found.length)
        nextToken := if stop < found.length then some (toString stop) else none }) ∧
      (stop < found.length →
        ∃ next, startOf (some (toString stop)) = .ok next ∧ start < next)) ∧
    ∀ size ∈ m.pageSize, 2 ^ 64 ≤ start.toNat + size.toNat →
      m.list path token = .error ⟨start, size⟩ ∧ stop = found.length := by
  intro found stop
  have hcheck := check_of_notMem hfailures
  refine ⟨⟨(sorted_under hm.sorted path).imp Text.bytes_lt_bytes, fun p ↦ mem_under⟩,
    fun hend ↦ ⟨?_, lt_of_startOf_stopOf hm hcount⟩, fun size hsize hend ↦ ?_⟩
  · have hshort : (found.take stop).length ≤ found.length :=
      (List.take_sublist stop found).length_le
    rw [drop_min_of_length_le hshort]
    exact list_eq_ok hcheck hstart hcount hend
  · exact ⟨list_eq_error hcheck hstart hsize hend, stopOf_eq_of_overflow hcount hsize hend⟩

/-- Pages of two out of three parameters, with a failure for another path. The page at the last word
overflows. -/
theorem list_by_position_last_word :
    let x : Parameter := ⟨"/a/x", "1"⟩
    let y : Parameter := ⟨"/a/y", "2"⟩
    let z : Parameter := ⟨"/a/z", "3"⟩
    let m := ((((empty.withFailure "/b" (.other "down")).withPageSize 2).withParameter
      "/a/z" "3").withParameter "/a/x" "1").withParameter "/a/y" "2"
    Built m ∧ m.under "/a" = [x, y, z] ∧ (∀ e, ("/a", e) ∉ m.failures) ∧
      startOf (some "+0") = .ok 0 ∧ m.list "/a" (some "+0") = .ok (.ok ⟨[x, y], some "2"⟩) ∧
      startOf (some "18446744073709551615") = .ok 18446744073709551615 ∧
      m.list "/a" (some "18446744073709551615") = .error ⟨18446744073709551615, 2⟩ := by
  intro x y z m
  have hm : Built m :=
    ((((Built.empty.failure _ _).pageSize 2).parameter _ _).parameter _ _).parameter _ _
  have hunder : m.under "/a" = [x, y, z] := by decide +kernel
  have hfailures : ∀ e, ("/a", e) ∉ m.failures := fun e hmem ↦
    absurd (congrArg Prod.fst (List.mem_singleton.1 hmem)) (show ¬ "/a" = "/b" by decide)
  have hcount : (m.under "/a").length < 2 ^ 64 := by
    rw [hunder]
    decide
  have hzero : startOf (some "+0") = .ok 0 := by decide +kernel
  have hlast : startOf (some "18446744073709551615") = .ok 18446744073709551615 := by
    decide +kernel
  have hsize : m.pageSize = some 2 := rfl
  have hword : ∀ size ∈ m.pageSize, (0 : UInt64).toNat + size.toNat < 2 ^ 64 := by
    rintro size hmem
    obtain rfl := Option.some.inj (hsize.symm.trans hmem)
    decide
  obtain ⟨-, hexact, -⟩ := list_by_position hm hfailures hcount hzero
  obtain ⟨-, -, hover⟩ := list_by_position hm hfailures hcount hlast
  obtain ⟨hpage, -⟩ := hexact hword
  obtain ⟨hoverflow, -⟩ := hover 2 hsize (by decide)
  rw [hunder] at hpage
  exact ⟨hm, hunder, hfailures, hzero, hpage.trans (by decide +kernel), hlast, hoverflow⟩

/-- Pages that hold as many parameters as a word can count, from the second parameter on: the page
should be the second parameter, but the request overflows. -/
theorem list_overflows :
    let y : Parameter := ⟨"/a/y", "2"⟩
    let m := ((empty.withParameter "/a/x" "1").withParameter "/a/y" "2").withPageSize
      18446744073709551615
    let found := m.under "/a/"
    let stop := m.stopOf found.length 1
    Built m ∧ m.failures = [] ∧ startOf (some "1") = .ok 1 ∧
      (found.take stop).drop (min 1 found.length) = [y] ∧ stop = found.length ∧
      m.list "/a/" (some "1") = .error ⟨1, 18446744073709551615⟩ ∧
      m.list "/a/" (some "1") ≠ .ok (.ok {
        parameters := (found.take stop).drop (min 1 found.length)
        nextToken := if stop < found.length then some (toString stop) else none }) := by
  intro y m found stop
  have hm : Built m := ((Built.empty.parameter _ _).parameter _ _).pageSize _
  exact ⟨hm, rfl, by decide +kernel, by decide +kernel, by decide +kernel, by decide +kernel,
    by decide +kernel⟩

end ConfigResolver.MemoryStore
