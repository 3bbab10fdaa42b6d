import ConfigResolver.Proofs.Resolver.Inquiry
import ConfigResolver.Proofs.Resolver.Listing
import ConfigResolver.Proofs.Store.Memory
import ConfigResolver.Proofs.Text.ByteOrder

/-!
# Listing a store in memory

A resolver reads a listing of a store in memory page by page. Each page starts where the one before
it ended (`Reached`), so the tokens increase and none is taken for a repeated one, nothing is read
twice or left out, and no page overflows (`fetchAll_listable`). Pages come to their end, as each of
them but the last holds something.

Main statement: `listParameters_complete`.
-/

namespace ConfigResolver

namespace MemoryStore

variable {m : MemoryStore} {path : String} {seen : List String} {token : Option String}
  {start : Nat}

/-! ## From page to page -/

/-- Nothing fails, no page is empty, and the end of each page can be counted in words. -/
structure Listable (m : MemoryStore) : Prop where
  /-- No request fails. -/
  failures_eq : m.failures = []
  /-- Pages hold something. -/
  size_pos : ∀ size ∈ m.pageSize, 0 < size.toNat
  /-- There are fewer parameters than half of the words. -/
  length_lt : m.parameters.length < 2 ^ 63

theorem listable_ofSteps {steps : List Step} (h : (ofSteps steps).parameters.length < 2 ^ 63) :
    Listable (ofSteps steps) :=
  ⟨failures_ofSteps steps, (built_ofSteps steps).size_pos, h⟩

theorem Listable.length_under_lt (hm : Listable m) (path : String) :
    (m.under path).length < 2 ^ 63 :=
  Nat.lt_of_le_of_lt (length_under_le m path) hm.length_lt

/-- The next page starts behind all that was read, and no token led there before. -/
structure Reached (m : MemoryStore) (path : String) (seen : List String) (token : Option String)
    (start : Nat) : Prop where
  /-- The token says where the page starts. -/
  start_eq : startOf token = .ok (UInt64.ofNat start)
  /-- There are as many parameters. -/
  start_le : start ≤ (m.under path).length
  /-- The first page starts at the first parameter, the others behind a whole page. -/
  size_le : ∀ size ∈ m.pageSize, start = 0 ∨ size.toNat ≤ start
  /-- The tokens before ask for pages that start no later. -/
  seen_le : ∀ t ∈ seen, ∃ n ≤ start, t = toString n

theorem reached_first (m : MemoryStore) (path : String) : Reached m path [] none 0 :=
  ⟨rfl, Nat.zero_le _, fun _ _ ↦ .inl rfl, nofun⟩

namespace Reached

/-- The page at the position. -/
theorem list_eq (h : Reached m path seen token start) (hm : Listable m) :
    let stop := m.stopOf (m.under path).length start
    m.list path token = .ok (.ok {
      parameters := ((m.under path).take stop).drop start
      nextToken := if stop < (m.under path).length then some (toString stop) else none }) := by
  have hcount := hm.length_under_lt path
  have hstart := h.start_le
  have hsize : UInt64.size = 2 ^ 64 := rfl
  have hcheck := check_of_failures_nil hm.failures_eq path
  have hword : (UInt64.ofNat start).toNat = start := UInt64.toNat_ofNat_of_lt' (by omega)
  have hpage := list_eq_ok hcheck h.start_eq (by omega) fun size hmem ↦ by
    have := size.toNat_lt
    rw [hword]
    rcases h.size_le size hmem with hzero | hle <;> omega
  rwa [hword] at hpage

/-- The page leads on to the next one. -/
theorem next (h : Reached m path seen token start) (hm : Listable m)
    (hmore : m.stopOf (m.under path).length start < (m.under path).length) :
    let stop := m.stopOf (m.under path).length start
    start < stop ∧ toString stop ∉ seen ∧
      Reached m path (toString stop :: seen) (some (toString stop)) stop := by
  intro stop
  have hlt : start < stop := lt_stopOf hm.size_pos hmore
  have hword : stop < UInt64.size := by
    have hcount := hm.length_under_lt path
    have hsize : UInt64.size = 2 ^ 64 := rfl
    omega
  refine ⟨hlt, fun hmem ↦ ?_, startOf_toString hword, Nat.le_of_lt hmore, fun size hsize ↦ ?_, ?_⟩
  · obtain ⟨n, hn, heq⟩ := h.seen_le _ hmem
    have hsame : stop = n := eq_of_toString_eq hword (by omega) heq
    omega
  · obtain ⟨whole, hwhole, heq⟩ := stopOf_eq_of_lt hmore
    obtain rfl : size = whole := Option.some.inj (hsize.symm.trans hwhole)
    exact .inr (by omega)
  · refine List.forall_mem_cons.2 ⟨⟨stop, Nat.le_refl stop, rfl⟩, fun t ht ↦ ?_⟩
    obtain ⟨n, hn, rfl⟩ := h.seen_le t ht
    exact ⟨n, by omega, rfl⟩

end Reached

/-- Each page that is asked for is there, without an overflow. -/
def Paged (m : MemoryStore) (events : List Event) : Prop :=
  ∀ path token, Call.list path token ∈ callsOf events → ∃ page, m.list path token = .ok (.ok page)

namespace Paged

variable {events events' : List Event}

theorem nil (m : MemoryStore) : Paged m [] := nofun

theorem append (h : Paged m events) (h' : Paged m events') : Paged m (events ++ events') := by
  intro path token hcall
  rw [callsOf_append, List.mem_append] at hcall
  exact hcall.elim (h path token) (h' path token)

theorem log (m : MemoryStore) (record : Record) : Paged m [.log record] := nofun

theorem page {page : Page} (h : m.list path token = .ok (.ok page)) (answer) :
    Paged m [.list path token answer] := by
  intro path' token' hcall
  obtain ⟨rfl, rfl⟩ : path' = path ∧ token' = token := by simpa [callsOf, Event.call?] using hcall
  exact ⟨page, h⟩

end Paged

/-! ## From path to path -/

/-- The parameters under the first of some paths that has any. -/
def firstUnder (m : MemoryStore) : List String → List Parameter
  | [] => []
  | path :: rest => if m.under path = [] then firstUnder m rest else m.under path

theorem firstUnder_cases (m : MemoryStore) (paths : List String) :
    (firstUnder m paths = [] ∧ ∀ path ∈ paths, m.under path = []) ∨
      ∃ before path after, paths = before ++ path :: after ∧
        (∀ earlier ∈ before, m.under earlier = []) ∧ m.under path ≠ [] ∧
        firstUnder m paths = m.under path := by
  induction paths with
  | nil => exact .inl ⟨rfl, List.forall_mem_nil _⟩
  | cons path rest ih =>
    unfold firstUnder
    by_cases hunder : m.under path = []
    · rw [if_pos hunder]
      rcases ih with ⟨hnone, hall⟩ | ⟨before, path', after, rfl, hbefore, hpath, heq⟩
      · exact .inl ⟨hnone, List.forall_mem_cons.2 ⟨hunder, hall⟩⟩
      · exact .inr ⟨path :: before, path', after, rfl,
          List.forall_mem_cons.2 ⟨hunder, hbefore⟩, hpath, heq⟩
    · rw [if_neg hunder]
      exact .inr ⟨[], path, rest, rfl, List.forall_mem_nil _, hunder, rfl⟩

theorem exists_under_of_mem_firstUnder {paths : List String} {p : Parameter}
    (h : p ∈ firstUnder m paths) : ∃ path ∈ paths, p ∈ m.under path := by
  rcases firstUnder_cases m paths with ⟨hnil, -⟩ | ⟨before, path, after, rfl, -, -, heq⟩
  · rw [hnil] at h
    cases h
  · exact ⟨path, by simp, heq ▸ h⟩

theorem sorted_firstUnder (h : Sorted m.parameters) (paths : List String) :
    Sorted (firstUnder m paths) := by
  rcases firstUnder_cases m paths with ⟨hnil, -⟩ | ⟨before, path, after, rfl, -, -, heq⟩
  · rw [hnil]
    exact .nil
  · rw [heq]
    exact sorted_under h path

/-- What is under the first path depends on the parameters alone, and not on the pages. -/
theorem firstUnder_congr {m m' : MemoryStore} (h : m'.parameters = m.parameters)
    (paths : List String) : firstUnder m' paths = firstUnder m paths := by
  have hunder : m'.under = m.under := by
    funext path
    rw [under, under, h]
  induction paths with
  | nil => rfl
  | cons path rest ih => rw [firstUnder, firstUnder, hunder, ih]

/-- What is under a full path has full names. -/
theorem isAbsolute_of_folder_prefix {name : String} (hpath : IsAbsolute path)
    (h : folder path.toList <+: name.toList) : IsAbsolute name := by
  obtain ⟨rest, hrest⟩ := h
  have hfolder : (folder path.toList).head? = some '/' := by
    unfold folder
    split
    · exact hpath
    · rw [List.head?_append, show path.toList.head? = some '/' from hpath]
      rfl
  rw [IsAbsolute, ← hrest, List.head?_append, hfolder]
  rfl

/-! ## What a listing is to be -/

/-- Of the parameters that were given, `p` is the latest of its name, and it is under the path. -/
def StoredUnder (ps : List Parameter) (path : String) (p : Parameter) : Prop :=
  latest ps p.name = some p.value ∧ folder path.toList <+: p.name.toList

/-- Of the parameters that were given, `found` is what is stored under the first of some paths under
which something is. It is nothing if there is no such path. -/
def FirstStored (ps : List Parameter) (paths : List String) (found : List Parameter) : Prop :=
  (found = [] ∧ ∀ path ∈ paths, ∀ p, ¬ StoredUnder ps path p) ∨
    ∃ before path after, paths = before ++ path :: after ∧
      (∀ earlier ∈ before, ∀ p, ¬ StoredUnder ps earlier p) ∧ found ≠ [] ∧
      ∀ p, p ∈ found ↔ StoredUnder ps path p

theorem mem_under_ofSteps {steps : List Step} {p : Parameter} :
    p ∈ (ofSteps steps).under path ↔ StoredUnder (given steps) path p := by
  rw [mem_under, parameters_ofSteps, mem_held, StoredUnder]

theorem firstStored_firstUnder (steps : List Step) (paths : List String) :
    FirstStored (given steps) paths (firstUnder (ofSteps steps) paths) := by
  have hnone : ∀ path, (ofSteps steps).under path = [] → ∀ p, ¬ StoredUnder (given steps) path p :=
    fun path hpath p hp ↦ by
      rw [← mem_under_ofSteps, hpath] at hp
      cases hp
  rcases firstUnder_cases (ofSteps steps) paths with
    ⟨hnil, hall⟩ | ⟨before, path, after, rfl, hbefore, hpath, heq⟩
  · exact .inl ⟨hnil, fun path hmem ↦ hnone path (hall path hmem)⟩
  · rw [heq]
    exact .inr ⟨before, path, after, rfl, fun earlier hmem ↦ hnone earlier (hbefore earlier hmem),
      hpath, fun p ↦ mem_under_ofSteps⟩

end MemoryStore

namespace Resolver

open MemoryStore

variable {σ : Type} {m : MemoryStore} {path : String} {seen : List String} {token : Option String}
  {start : Nat}

/-! ## Reading the pages -/

theorem drop_take_append_drop {α : Type} (xs : List α) {i j : Nat} (h : i ≤ j) :
    (xs.take j).drop i ++ xs.drop j = xs.drop i := by
  have hrest : xs.drop j = (xs.drop i).drop (j - i) := by
    rw [List.drop_drop, Nat.add_sub_cancel' h]
  rw [hrest, List.drop_take, List.take_append_drop]

/-- The rest of a listing is all that is under the path from the position on. -/
theorem fetchFrom_reached (hm : Listable m) {fuel : Nat}
    (h : Reached m path seen token start) (hfuel : (m.under path).length - start < fuel)
    (found : List Parameter) (s : σ) :
    let out := fetchFrom (.ofAnswers m.answers) path found seen token fuel s
    out.result = .ok (some (.ok (found ++ (m.under path).drop start))) ∧ Paged m out.events := by
  induction fuel generalizing seen token start found s with
  | zero => omega
  | succ fuel ih =>
    have hpaged := Paged.page (h.list_eq hm)
    have hlist : ((Store.ofAnswers m.answers : Store σ).list path token s).1 = .ok _ :=
      listed_of_list (h.list_eq hm)
    by_cases hmore : m.stopOf (m.under path).length start < (m.under path).length
    · obtain ⟨hlt, hfresh, hnext⟩ := h.next hm hmore
      have hsegments := drop_take_append_drop (m.under path) (Nat.le_of_lt hlt)
      rw [fetchFrom_of_more hlist (if_pos hmore) hfresh]
      obtain ⟨hresult, hrest⟩ := ih hnext (by omega) _ _
      exact ⟨by rw [hresult, List.append_assoc, hsegments], (hpaged _).append hrest⟩
    · have hall : m.stopOf (m.under path).length start = (m.under path).length :=
        Nat.le_antisymm (stopOf_le m _ _) (Nat.not_lt.1 hmore)
      rw [fetchFrom_of_last hlist (if_neg hmore)]
      exact ⟨by rw [hall, List.take_length], hpaged _⟩

theorem fetchAll_listable (hm : Listable m) {fuel : Nat} (hfuel : m.parameters.length < fuel)
    (path : String) (s : σ) :
    let out := fetchAll (.ofAnswers m.answers) fuel path s
    out.result = .ok (some (.ok (m.under path))) ∧ Paged m out.events := by
  have hunder := length_under_le m path
  exact fetchFrom_reached hm (reached_first m path) (by omega) [] s

theorem firstListing_listable (hm : Listable m) {fuel : Nat} (hfuel : m.parameters.length < fuel)
    (paths : List String) (s : σ) :
    let out := firstListing (.ofAnswers m.answers) fuel paths s
    out.result = .ok (some (firstUnder m paths)) ∧ Paged m out.events := by
  induction paths generalizing s with
  | nil => exact ⟨rfl, .nil m⟩
  | cons path rest ih =>
    obtain ⟨hpath, hpaged⟩ := fetchAll_listable hm hfuel path s
    unfold firstListing
    rw [Run.bind_of_ok hpath]
    unfold firstUnder
    cases hunder : m.under path with
    | nil =>
      obtain ⟨hresult, hrest⟩ := ih _
      exact ⟨hresult, hpaged.append ((Paged.log m _).append hrest)⟩
    | cons p ps => exact ⟨rfl, hpaged.append (.nil m)⟩

/-! ## The listing of a resolver -/

section Single

variable {r : Resolver σ} {store : Store σ} (hskip : r.options.skipRemote = false)
  (hstore : r.store = some store)

include hskip hstore

theorem listParameters_of_store (fuel : Nat) (path : Option String) :
    let paths := (Inquiry.listing path).names r.options.rootPaths
    r.listParameters fuel path = if paths = [] then Run.fail (.keyNotQualified (path.getD ""))
      else firstListing store fuel paths := by
  intro paths
  rw [listParameters, if_neg (by simp [hskip]), listingPaths_eq]
  split
  · rfl
  · simp only [requireStore, hstore, Run.ofExcept_ok, pure_bind]
    rfl

/-- A full name that the store has is answered with its value. -/
theorem result_getParameter {name value : String} (hname : IsAbsolute name) {s : σ}
    (hget : (store.get name s).1 = .ok value) : (r.getParameter name s).result = .ok value := by
  have hcandidates : candidates r.options.rootPaths name = [name] := if_pos hname
  have hfound : firstFound store (candidates r.options.rootPaths name) s =
      ⟨((Except.ok value).map some).mapError (storeFailure name), [.get name (.ok value)],
        (store.get name s).2⟩ := by
    rw [hcandidates, firstFound_of_value hget]
    rfl
  rw [getParameter, Run.map_apply,
    lookupParameter_of_firstFound hskip hstore (by simp [hcandidates]) hfound]
  simp [Except.map, Except.mapError]

end Single

theorem listParameters_listable {r : Resolver σ} (hm : Listable m)
    (hskip : r.options.skipRemote = false) (hstore : r.store = some (.ofAnswers m.answers))
    {pages : Nat} (hpages : m.parameters.length < pages) (path : Option String) (s : σ) :
    let paths := (Inquiry.listing path).names r.options.rootPaths
    let out := r.listParameters pages path s
    (out.result = if paths = [] then .error (.keyNotQualified (path.getD ""))
      else .ok (some (firstUnder m paths))) ∧ Paged m out.events := by
  intro paths
  rw [listParameters_of_store hskip hstore]
  by_cases hpaths : paths = []
  · rw [if_pos hpaths, if_pos hpaths]
    exact ⟨rfl, .nil m⟩
  · rw [if_neg hpaths, if_neg hpaths]
    exact firstListing_listable hm hpages paths s

/-- What is listed of a built store is what its names are looked up to. -/
theorem result_getParameter_of_mem {options : Options} {steps : List Step} {r : Resolver σ}
    (hr : new options (some (.ofAnswers (ofSteps steps).answers)) = .ok r)
    (hskip : options.skipRemote = false) {path : Option String} {p : Parameter}
    (hp : p ∈ firstUnder (ofSteps steps) ((Inquiry.listing path).names r.options.rootPaths))
    (s : σ) : (r.getParameter p.name s).result = .ok p.value := by
  obtain ⟨listed, hlisted, hunder⟩ := exists_under_of_mem_firstUnder hp
  obtain ⟨hheld, hprefix⟩ := mem_under.1 hunder
  have hname : IsAbsolute p.name := isAbsolute_of_folder_prefix
    (Inquiry.isAbsolute_of_mem_names (isAbsolute_roots_of_new hr) hlisted) hprefix
  exact result_getParameter ((skipRemote_of_new hr).trans hskip) (store_of_new hr) hname
    (get_of_mem (failures_ofSteps steps) (built_ofSteps steps).sorted hheld)

/-- Listing a store in memory is complete and does not depend on its pages. Unless a relative path
has no root to be under, a resolver lists what is stored under the first of its paths under which
something is: each name once, with the value that was given last, in the order of the bytes of the
names, and with the value that the resolver looks up for this name. The same parameters with other
sizes of pages give the same listing. Each page that the resolver asks for is there, so nothing
overflows. -/
theorem listParameters_complete {options : Options} {steps : List Step} {r : Resolver σ}
    (hr : new options (some (.ofAnswers (ofSteps steps).answers)) = .ok r)
    (hskip : options.skipRemote = false) (hcount : (ofSteps steps).parameters.length < 2 ^ 63)
    (path : Option String) {pages : Nat} (hpages : (ofSteps steps).parameters.length < pages)
    (s : σ) :
    let paths := (Inquiry.listing path).names r.options.rootPaths
    let out := r.listParameters pages path s
    (paths = [] ∧ out.result = .error (.keyNotQualified (path.getD "")) ∨
      paths ≠ [] ∧ ∃ found, out.result = .ok (some found) ∧ FirstStored (given steps) paths found ∧
        found.Pairwise (fun p q ↦ Text.bytes p.name < Text.bytes q.name) ∧
        ∀ p ∈ found, ∀ s, (r.getParameter p.name s).result = .ok p.value) ∧
    (∀ steps' r', given steps' = given steps →
      new options (some (.ofAnswers (ofSteps steps').answers)) = .ok r' →
      ∀ s' : σ, (r'.listParameters pages path s').result = out.result) ∧
    ∀ asked token, Call.list asked token ∈ callsOf out.events →
      ∃ page, (ofSteps steps).list asked token = .ok (.ok page) := by
  intro paths out
  obtain ⟨hout, hpaged⟩ := listParameters_listable (listable_ofSteps hcount)
    ((skipRemote_of_new hr).trans hskip) (store_of_new hr) hpages path s
  refine ⟨?_, fun steps' r' hgiven hr' s' ↦ ?_, hpaged⟩
  · by_cases hpaths : paths = []
    · exact .inl ⟨hpaths, hout.trans (if_pos hpaths)⟩
    · refine .inr ⟨hpaths, _, hout.trans (if_neg hpaths), firstStored_firstUnder steps paths,
        (sorted_firstUnder (built_ofSteps steps).sorted paths).imp Text.bytes_lt_bytes, ?_⟩
      exact fun p hp s ↦ result_getParameter_of_mem hr hskip hp s
  · have hsame : (ofSteps steps').parameters = (ofSteps steps).parameters := by
      rw [parameters_ofSteps, parameters_ofSteps, hgiven]
    rw [← hsame] at hcount hpages
    obtain ⟨hout', -⟩ := listParameters_listable (listable_ofSteps hcount)
      ((skipRemote_of_new hr').trans hskip) (store_of_new hr') hpages path s'
    have hoptions : r'.options = r.options := by
      obtain ⟨-, rfl⟩ := new_eq_ok_iff.1 hr
      obtain ⟨-, rfl⟩ := new_eq_ok_iff.1 hr'
      rfl
    simp only [hoptions, firstUnder_congr hsame] at hout'
    exact hout'.trans hout.symm

/-- A name that is given twice and pages of one parameter, behind a root without parameters. -/
theorem listParameters_complete_two_pages :
    let x : Parameter := ⟨"/b/x", "1"⟩
    let y : Parameter := ⟨"/b/y", "2"⟩
    let parameters := [.parameter y, .parameter ⟨"/b/x", "0"⟩, .parameter x]
    let steps := .pageSize 0 :: parameters
    let options : Options := { rootPaths := ["/a", "/b"] }
    let r := fun steps ↦ (⟨{ options with rootPaths := ["/a/", "/b/"] },
      some (.ofAnswers (ofSteps steps).answers)⟩ : Resolver Unit)
    let out := (r steps).listParameters 3 none ()
    new options (r steps).store = .ok (r steps) ∧ (ofSteps steps).parameters = [x, y] ∧
      callsOf out.events = [.list "/a/" none, .list "/b/" none, .list "/b/" (some "1")] ∧
      out.result = .ok (some [x, y]) ∧ FirstStored (given steps) ["/a/", "/b/"] [x, y] ∧
      ((r parameters).listParameters 3 none ()).result = out.result := by
  intro x y parameters steps options r out
  have hr : new options (r steps).store = .ok (r steps) := rfl
  have hparameters : (ofSteps steps).parameters = [x, y] := by decide +kernel
  have hresult : out.result = .ok (some [x, y]) := by decide +kernel
  have hcount : (ofSteps steps).parameters.length < 2 ^ 63 := by
    rw [hparameters]
    decide
  have hpages : (ofSteps steps).parameters.length < 3 := by
    rw [hparameters]
    decide
  obtain ⟨hlisting, hsame, -⟩ := listParameters_complete hr rfl hcount none hpages ()
  refine ⟨hr, hparameters, by decide +kernel, hresult, ?_,
    hsame parameters (r parameters) rfl rfl ()⟩
  rcases hlisting with ⟨-, herror⟩ | ⟨-, found, hfound, hfirst, -⟩
  · cases hresult.symm.trans herror
  · obtain rfl : [x, y] = found := by simpa using hresult.symm.trans hfound
    exact hfirst

end Resolver

end ConfigResolver
