import ConfigResolver.Proofs.Resolver.Listing
import Mathlib.Data.Set.Card

/-!
# The chain of pages

Over a store that answers by path and token the pages of a path form a chain: the first request has
no token, and each further one has the token of the page before. `request` is this chain, followed
without a guard. It ends with a page that has no token or with a failure, or it comes back to a
token that it had before and then goes around in a circle, or it has new tokens forever.

A listing goes along the chain (`fetchFrom_course`) and ends wherever the chain does. The tokens
that it has seen keep it from going around: `Fresh` says that no request so far was made twice,
which is what an unseen token preserves. Main statement: `fetchAll_follows_chain`.
-/

namespace ConfigResolver.Resolver

variable {σ : Type} {store : Store σ} {path : String}
  {answer : Option String → Except StoreError Page}

/-! ## The chain -/

/-- The token of the page that is answered to a request. -/
def nextOf (answer : Option String → Except StoreError Page) (token : Option String) :
    Option String :=
  match answer token with
  | .ok page => page.nextToken
  | .error _ => none

/-- The token of each request of the chain, counted from zero, as far as the chain goes. -/
def request (answer : Option String → Except StoreError Page) : Nat → Option (Option String)
  | 0 => some none
  | n + 1 => (request answer n).bind fun token ↦ (nextOf answer token).map some

/-- The tokens of the first `n` requests, or of all if there are fewer. -/
def requests (answer : Option String → Except StoreError Page) (n : Nat) : List (Option String) :=
  (List.range n).filterMap (request answer)

/-- The parameters on the page that is answered to a request. -/
def parametersOf (answer : Option String → Except StoreError Page) (token : Option String) :
    List Parameter :=
  match answer token with
  | .ok page => page.parameters
  | .error _ => []

/-- A request with its answer. -/
def asked (path : String) (answer : Option String → Except StoreError Page)
    (token : Option String) : Event := .list path token (answer token)

/-- The chain comes back to a request that was made before. -/
def Cycles (answer : Option String → Except StoreError Page) : Prop :=
  ∃ i j, i < j ∧ (request answer i).isSome ∧ request answer i = request answer j

/-- The tokens on the chain. -/
def tokens (answer : Option String → Except StoreError Page) : Set String :=
  {token | ∃ n, request answer n = some (some token)}

section Chain

variable {n : Nat} {token : Option String}

theorem request_succ (h : request answer n = some token) :
    request answer (n + 1) = (nextOf answer token).map some := by
  rw [request, h]
  rfl

theorem request_succ_of_page {page : Page} (h : request answer n = some token)
    (hpage : answer token = .ok page) :
    request answer (n + 1) = page.nextToken.map some := by
  rw [request_succ h, nextOf, hpage]

theorem request_succ_of_failure {e : StoreError} (h : request answer n = some token)
    (he : answer token = .error e) : request answer (n + 1) = none := by
  rw [request_succ h, nextOf, he]
  rfl

theorem requests_succ (h : request answer n = some token) :
    requests answer (n + 1) = requests answer n ++ [token] := by
  simp [requests, List.range_succ, h]

/-- The chain has no gaps. -/
theorem isSome_request_of_le {i j : Nat} (hle : i ≤ j) (h : (request answer j).isSome) :
    (request answer i).isSome := by
  induction hle with
  | refl => exact h
  | @step j _ ih =>
    apply ih
    cases hj : request answer j with
    | some token => rfl
    | none =>
      rw [request, hj] at h
      cases h

theorem length_requests (h : (request answer n).isSome) : (requests answer n).length = n := by
  induction n with
  | zero => rfl
  | succ n ih =>
    have hsome := isSome_request_of_le (Nat.le_succ n) h
    obtain ⟨token, htoken⟩ := Option.isSome_iff_exists.1 hsome
    rw [requests_succ htoken, List.length_append, ih hsome, List.length_singleton]

/-- From equal requests on the chain is the same. -/
theorem request_add_of_eq {i j : Nat} (h : request answer i = request answer j) (k : Nat) :
    request answer (i + k) = request answer (j + k) := by
  induction k with
  | zero => exact h
  | succ k ih => rw [← Nat.add_assoc, ← Nat.add_assoc, request, request, ih]

/-- A chain that comes back never ends. -/
theorem Cycles.isSome_request (h : Cycles answer) (n : Nat) : (request answer n).isSome := by
  obtain ⟨i, j, hlt, hsome, heq⟩ := h
  induction n using Nat.strongRecOn with
  | ind n ih =>
    by_cases hn : n ≤ j
    · exact isSome_request_of_le hn (heq ▸ hsome)
    · have hshift := request_add_of_eq heq (n - j)
      rw [show j + (n - j) = n by omega] at hshift
      rw [← hshift]
      exact ih (i + (n - j)) (by omega)

end Chain

/-! ## Going along the chain -/

/-- No two of the requests up to the `n`-th are the same. -/
def Fresh (answer : Option String → Except StoreError Page) (n : Nat) : Prop :=
  ∀ i j, i < j → j ≤ n → request answer i ≠ request answer j

/-- Where a listing stands before its `n`-th request: it has the parameters of the pages before and
the tokens that they gave. -/
structure Stands (answer : Option String → Except StoreError Page) (n : Nat)
    (found : List Parameter) (seen : List String) (token : Option String) : Prop where
  request_eq : request answer n = some token
  found_eq : found = (requests answer n).flatMap (parametersOf answer)
  mem_seen : ∀ t, t ∈ seen ↔ ∃ i ≤ n, request answer i = some (some t)
  fresh : Fresh answer n

/-- `Course answer path n outcome`: this is what a listing comes to with `n` requests. -/
inductive Course (answer : Option String → Except StoreError Page) (path : String) :
    Nat → Option (Except StoreError (List Parameter)) → Prop
  /-- It is cut short, as it stands before a request that is new. -/
  | cut {n : Nat} (hsome : (request answer n).isSome) (hfresh : Fresh answer n) :
      Course answer path n none
  /-- The last request fails. -/
  | failed {n : Nat} {token : Option String} {e : StoreError}
      (hrequest : request answer n = some token) (he : answer token = .error e) :
      Course answer path (n + 1) (some (.error e))
  /-- The last request is answered by the last page. -/
  | last {n : Nat} {token : Option String} {page : Page}
      (hrequest : request answer n = some token) (hpage : answer token = .ok page)
      (hnext : page.nextToken = none) :
      Course answer path (n + 1)
        (some (.ok ((requests answer (n + 1)).flatMap (parametersOf answer))))
  /-- The page that is answered to the last request leads back to an earlier one. -/
  | repeated {n : Nat} {token : Option String} {page : Page} {next : String} {i : Nat}
      (hrequest : request answer n = some token) (hpage : answer token = .ok page)
      (hnext : page.nextToken = some next) (hfresh : Fresh answer n) (hle : i ≤ n)
      (hagain : request answer i = some (some next)) :
      Course answer path (n + 1) (some (.error (repeatedToken next path)))

theorem stands_start : Stands answer 0 [] [] none where
  request_eq := rfl
  found_eq := rfl
  mem_seen t := by simp [request]
  fresh i j hlt hle := absurd hlt (by omega)

namespace Stands

variable {n : Nat} {found : List Parameter} {seen : List String} {token : Option String}
  {page : Page}

theorem found_append (h : Stands answer n found seen token) (hpage : answer token = .ok page) :
    found ++ page.parameters = (requests answer (n + 1)).flatMap (parametersOf answer) := by
  rw [requests_succ h.request_eq, List.flatMap_append, ← h.found_eq]
  simp [parametersOf, hpage]

/-- An unseen token leads on to a new request. -/
theorem step {next : String} (h : Stands answer n found seen token)
    (hpage : answer token = .ok page) (hnext : page.nextToken = some next) (hseen : next ∉ seen) :
    Stands answer (n + 1) (found ++ page.parameters) (next :: seen) (some next) := by
  have hrequest : request answer (n + 1) = some (some next) := by
    rw [request_succ_of_page h.request_eq hpage, hnext]
    rfl
  refine ⟨hrequest, h.found_append hpage, fun t ↦ ?_, fun i j hlt hle heq ↦ ?_⟩
  · rw [List.mem_cons, h.mem_seen]
    constructor
    · rintro (rfl | ⟨i, hi, ht⟩)
      · exact ⟨n + 1, Nat.le_refl _, hrequest⟩
      · exact ⟨i, Nat.le_succ_of_le hi, ht⟩
    · rintro ⟨i, hi, ht⟩
      rcases Nat.le_succ_iff.1 hi with hi | rfl
      · exact .inr ⟨i, hi, ht⟩
      · rw [hrequest] at ht
        cases ht
        exact .inl rfl
  · rcases Nat.le_succ_iff.1 hle with hle | rfl
    · exact h.fresh i j hlt hle heq
    · exact hseen ((h.mem_seen next).2 ⟨i, Nat.le_of_lt_succ hlt, heq.trans hrequest⟩)

end Stands

/-- A listing makes the requests of the chain in their order, and ends as its course says. -/
theorem fetchFrom_course (hstore : ∀ token s, (store.list path token s).1 = answer token)
    {n : Nat} {found : List Parameter} {seen : List String} {token : Option String}
    (h : Stands answer n found seen token) (fuel : Nat) (s : σ) :
    let out := fetchFrom store path found seen token fuel s
    ∃ k outcome, Course answer path k outcome ∧ out.result = .ok outcome ∧ k ≤ n + fuel ∧
      (outcome = none → k = n + fuel) ∧
      (requests answer n).map (asked path answer) ++ out.events =
        (requests answer k).map (asked path answer) := by
  induction fuel generalizing n found seen token s with
  | zero =>
    refine ⟨n, none, .cut (by rw [h.request_eq]; rfl) h.fresh, rfl, Nat.le_refl _, fun _ ↦ rfl, ?_⟩
    exact List.append_nil _
  | succ fuel ih =>
    have hmade : ∀ events, (requests answer n).map (asked path answer) ++
        .list path token (answer token) :: events =
          (requests answer (n + 1)).map (asked path answer) ++ events := fun events ↦ by
      simp [requests_succ h.request_eq, asked]
    have hlist := hstore token s
    cases hanswer : answer token with
    | error e =>
      rw [hanswer] at hlist hmade
      rw [fetchFrom_of_failure hlist]
      refine ⟨n + 1, _, .failed h.request_eq hanswer, rfl, by omega, nofun, ?_⟩
      rw [hmade, List.append_nil]
    | ok page =>
      rw [hanswer] at hlist hmade
      cases hnext : page.nextToken with
      | none =>
        rw [fetchFrom_of_last hlist hnext, h.found_append hanswer]
        refine ⟨n + 1, _, .last h.request_eq hanswer hnext, rfl, by omega, nofun, ?_⟩
        rw [hmade, List.append_nil]
      | some next =>
        by_cases hseen : next ∈ seen
        · obtain ⟨i, hi, hagain⟩ := (h.mem_seen next).1 hseen
          rw [fetchFrom_of_repeated hlist hnext hseen]
          refine ⟨n + 1, _, .repeated h.request_eq hanswer hnext h.fresh hi hagain, rfl, by omega,
            nofun, ?_⟩
          rw [hmade, List.append_nil]
        · obtain ⟨k, outcome, hcourse, hresult, hk, hcut, hevents⟩ :=
            ih (h.step hanswer hnext hseen) (store.list path token s).2
          rw [fetchFrom_of_more hlist hnext hseen]
          refine ⟨k, outcome, hcourse, hresult, by omega, fun hnone ↦ ?_, ?_⟩
          · have := hcut hnone
            omega
          · rw [hmade, hevents]

/-! ## Where the chain leads -/

theorem fresh_of_end {n : Nat} {token : Option String} (h : request answer n = some token)
    (hend : request answer (n + 1) = none) : Fresh answer n := by
  intro i j hlt hle heq
  have hsome : (request answer i).isSome :=
    isSome_request_of_le (Nat.le_of_lt (Nat.lt_of_lt_of_le hlt hle)) (by rw [h]; rfl)
  have hcycles : Cycles answer := ⟨i, j, hlt, hsome, heq⟩
  have hnext := hcycles.isSome_request (n + 1)
  rw [hend] at hnext
  cases hnext

theorem Fresh.mono {m n : Nat} (h : Fresh answer n) (hle : m ≤ n) : Fresh answer m :=
  fun i j hlt hj ↦ h i j hlt (Nat.le_trans hj hle)

theorem Fresh.eq_of_request_eq {n a b : Nat} (h : Fresh answer n) (ha : a ≤ n) (hb : b ≤ n)
    (heq : request answer a = request answer b) : a = b := by
  by_contra hne
  rcases Nat.lt_or_gt_of_ne hne with hlt | hlt
  · exact h a b hlt hb heq
  · exact h b a hlt ha heq.symm

namespace Course

variable {k n : Nat} {token : Option String} {x : Except StoreError (List Parameter)}
  {outcome : Option (Except StoreError (List Parameter))}

/-- What a listing comes to is decided by the answer to its last request. -/
theorem end_eq (h : Course answer path (n + 1) (some x))
    (hrequest : request answer n = some token) :
    x = match answer token with
      | .error e => .error e
      | .ok page =>
        match page.nextToken with
        | none => .ok ((requests answer (n + 1)).flatMap (parametersOf answer))
        | some next => .error (repeatedToken next path) := by
  cases h with
  | failed hrequest' he =>
    cases hrequest.symm.trans hrequest'
    simp only [he]
  | last hrequest' hpage hnext =>
    cases hrequest.symm.trans hrequest'
    simp only [hpage, hnext]
  | repeated hrequest' hpage hnext hfresh hle hagain =>
    cases hrequest.symm.trans hrequest'
    simp only [hpage, hnext]

/-- A listing ends behind the first request after which there is no new one. -/
theorem ends_behind (h : Course answer path k (some x)) :
    ∃ n token, k = n + 1 ∧ request answer n = some token ∧ Fresh answer n ∧
      ¬ ((request answer (n + 1)).isSome ∧ Fresh answer (n + 1)) := by
  cases h with
  | @failed n token e hrequest he =>
    have hend := request_succ_of_failure hrequest he
    exact ⟨n, token, rfl, hrequest, fresh_of_end hrequest hend, by simp [hend]⟩
  | @last n token page hrequest hpage hnext =>
    have hend : request answer (n + 1) = none := by
      rw [request_succ_of_page hrequest hpage, hnext]
      rfl
    exact ⟨n, token, rfl, hrequest, fresh_of_end hrequest hend, by simp [hend]⟩
  | @repeated n token page next i hrequest hpage hnext hfresh hle hagain =>
    refine ⟨n, token, rfl, hrequest, hfresh, fun ⟨_, hnew⟩ ↦ ?_⟩
    refine hnew i (n + 1) (Nat.lt_succ_of_le hle) (Nat.le_refl _) ?_
    rw [hagain, request_succ_of_page hrequest hpage, hnext]
    rfl

/-- A listing that ends does so in one way, and one that is cut short is cut before the end. -/
theorem unique (h : Course answer path k (some x)) {k' : Nat} (h' : Course answer path k' outcome)
    (hcut : outcome = none → k ≤ k') : k' = k ∧ outcome = some x := by
  obtain ⟨n, token, rfl, hrequest, hfresh, hstuck⟩ := h.ends_behind
  match outcome, h' with
  | none, .cut hsome hfresh' =>
    have hle := hcut rfl
    exact absurd ⟨isSome_request_of_le hle hsome, hfresh'.mono hle⟩ hstuck
  | some x', h' =>
    obtain ⟨n', token', rfl, hrequest', hfresh', hstuck'⟩ := h'.ends_behind
    have hle : ∀ {m m' : Nat} {t : Option String}, request answer m' = some t → Fresh answer m' →
        ¬ ((request answer (m + 1)).isSome ∧ Fresh answer (m + 1)) → m' ≤ m := by
      intro m m' t hm' hfresh hstuck
      by_contra hlt
      have hlt : m + 1 ≤ m' := by omega
      exact hstuck ⟨isSome_request_of_le hlt (by rw [hm']; rfl), hfresh.mono hlt⟩
    obtain rfl : n' = n :=
      Nat.le_antisymm (hle hrequest' hfresh' hstuck) (hle hrequest hfresh hstuck')
    refine ⟨rfl, ?_⟩
    rw [h.end_eq hrequest, h'.end_eq hrequest]

end Course

/-- With enough pages to read, the listing of a path comes to an end, and this is what happens. -/
def Lists (store : Store σ) (path : String) (s : σ) (x : Except StoreError (List Parameter))
    (events : List Event) : Prop :=
  ∃ fuel, (fetchAll store fuel path s).result = .ok (some x) ∧
    (fetchAll store fuel path s).events = events

theorem fetchAll_course (hstore : ∀ token s, (store.list path token s).1 = answer token)
    (fuel : Nat) (s : σ) :
    ∃ k outcome, Course answer path k outcome ∧ (fetchAll store fuel path s).result = .ok outcome ∧
      k ≤ fuel ∧ (outcome = none → k = fuel) ∧
      (fetchAll store fuel path s).events = (requests answer k).map (asked path answer) := by
  obtain ⟨k, outcome, hcourse, hresult, hk, hcut, hevents⟩ :=
    fetchFrom_course hstore stands_start fuel s
  rw [Nat.zero_add] at hk hcut
  exact ⟨k, outcome, hcourse, hresult, hk, hcut, hevents⟩

/-- The listings that end are the courses of the chain that end. -/
theorem lists_iff_course (hstore : ∀ token s, (store.list path token s).1 = answer token) {s : σ}
    {x : Except StoreError (List Parameter)} {events : List Event} :
    Lists store path s x events ↔
      ∃ k, Course answer path k (some x) ∧
        events = (requests answer k).map (asked path answer) := by
  constructor
  · rintro ⟨fuel, hresult, rfl⟩
    obtain ⟨k, outcome, hcourse, hresult', -, -, hevents⟩ := fetchAll_course hstore fuel s
    cases hresult.symm.trans hresult'
    exact ⟨k, hcourse, hevents⟩
  · rintro ⟨k, hcourse, rfl⟩
    obtain ⟨k', outcome, hcourse', hresult, -, hcut, hevents⟩ := fetchAll_course hstore k s
    obtain ⟨rfl, rfl⟩ := hcourse.unique hcourse' fun hnone ↦ (hcut hnone).ge
    exact ⟨k', hresult, hevents⟩

/-! ## Chains that go around -/

theorem exists_token {n : Nat} (h : (request answer (n + 1)).isSome) :
    ∃ token, request answer (n + 1) = some (some token) := by
  obtain ⟨token, htoken⟩ := Option.isSome_iff_exists.1 h
  rw [request] at htoken ⊢
  obtain ⟨before, -, hnext⟩ := Option.bind_eq_some_iff.1 htoken
  obtain ⟨next, -, rfl⟩ := Option.map_eq_some_iff.1 hnext
  exact ⟨next, htoken⟩

/-- A chain that comes back has all its requests before it does. -/
theorem exists_le_of_again {i n : Nat} (hle : i ≤ n)
    (hagain : request answer i = request answer (n + 1)) (m : Nat) :
    ∃ k ≤ n, request answer m = request answer k := by
  induction m using Nat.strongRecOn with
  | ind m ih =>
    by_cases hm : m ≤ n
    · exact ⟨m, hm, rfl⟩
    · have hshift := request_add_of_eq hagain (m - (n + 1))
      rw [show n + 1 + (m - (n + 1)) = m by omega] at hshift
      rw [← hshift]
      exact ih (i + (m - (n + 1))) (by omega)

/-- The tokens on a chain that comes back after the `n`-th request are those of the requests up to
there, but for the first, which has none. -/
theorem ncard_tokens_of_again {i n : Nat} (hfresh : Fresh answer n) (hle : i ≤ n)
    (hsome : (request answer n).isSome) (hagain : request answer i = request answer (n + 1)) :
    (tokens answer).ncard = n := by
  have htoken : ∀ k : Fin n, ∃ token, request answer (k + 1) = some (some token) := fun k ↦
    exists_token (isSome_request_of_le k.isLt hsome)
  choose f hf using htoken
  have hrange : tokens answer = Set.range f := by
    ext token
    constructor
    · rintro ⟨m, hm⟩
      obtain ⟨k, hk, heq⟩ := exists_le_of_again hle hagain m
      rw [hm] at heq
      cases k with
      | zero => cases heq
      | succ k =>
        refine ⟨⟨k, hk⟩, ?_⟩
        have := heq.trans (hf ⟨k, hk⟩)
        simpa using this.symm
    · rintro ⟨k, rfl⟩
      exact ⟨k + 1, hf k⟩
  have hinjective : Function.Injective f := by
    intro a b hab
    have heq : request answer (a + 1) = request answer (b + 1) := by rw [hf, hf, hab]
    exact Fin.ext (Nat.succ.inj (hfresh.eq_of_request_eq a.isLt b.isLt heq))
  rw [hrange, ← Nat.card_coe_set_eq, Nat.card_range_of_injective hinjective, Nat.card_fin]

/-- A chain with finitely many tokens does not go on to new ones forever. -/
theorem exists_not_fresh (hfinite : (tokens answer).Finite) :
    ∃ n, ¬ ((request answer n).isSome ∧ Fresh answer n) := by
  by_contra hall
  have hall : ∀ n, (request answer n).isSome ∧ Fresh answer n := by simpa using hall
  have htoken : ∀ n, ∃ token, request answer (n + 1) = some (some token) := fun n ↦
    exists_token (hall (n + 1)).1
  choose f hf using htoken
  have hinjective : Function.Injective f := by
    intro a b hab
    have heq : request answer (a + 1) = request answer (b + 1) := by rw [hf, hf, hab]
    have hfresh : Fresh answer (max a b + 1) := (hall _).2
    exact Nat.succ.inj (hfresh.eq_of_request_eq (by omega) (by omega) heq)
  have hmem : ∀ n, f n ∈ tokens answer := fun n ↦ ⟨n + 1, hf n⟩
  exact Set.infinite_of_injective_forall_mem hinjective hmem hfinite

/-! ## The listing -/

/-- The listing ends with a failure of the store. -/
def StoreFails (path : String) (events : List Event) (e : StoreError) : Prop :=
  ∃ before token, events = before ++ [.list path token (.error e)]

/-- The listing ends because a token is given again. -/
def GuardStops (path : String) (events : List Event) (e : StoreError) : Prop :=
  ∃ next, RepeatsToken path next events ∧ e = repeatedToken next path

/-- An error of a listing has one of two causes, whatever the store answers. -/
theorem Lists.error_cases {s : σ} {e : StoreError} {events : List Event}
    (h : Lists store path s (.error e) events) :
    StoreFails path events e ∨ GuardStops path events e := by
  obtain ⟨fuel, hresult, rfl⟩ := h
  obtain ⟨outcome, hend, htranscript⟩ := transcript_fetchFrom store path [] [] none fuel s
  cases hresult.symm.trans hend
  rcases htranscript.pages_or_failure [] nofun with
    ⟨-, herror⟩ | ⟨before, token, e', hevents, he, -, -⟩
  · obtain ⟨next, hnext, hrepeats⟩ := herror e rfl
    exact .inr ⟨next, hrepeats, hnext⟩
  · cases he
    exact .inl ⟨before, token, hevents⟩

/-- The events of a listing end with the answer to its last request. -/
theorem made_succ {n : Nat} {token : Option String} (h : request answer n = some token) :
    (requests answer (n + 1)).map (asked path answer) =
      (requests answer n).map (asked path answer) ++ [.list path token (answer token)] := by
  rw [requests_succ h, List.map_append]
  rfl

theorem answer_of_storeFails {n : Nat} {token : Option String} {e : StoreError}
    (h : request answer n = some token)
    (hfails : StoreFails path ((requests answer (n + 1)).map (asked path answer)) e) :
    answer token = .error e := by
  obtain ⟨before, token', hevents⟩ := hfails
  rw [made_succ h] at hevents
  obtain ⟨-, hlast⟩ := List.append_inj' hevents rfl
  exact (Event.list.inj (List.cons.inj hlast).1).2.2

theorem page_of_guardStops {n : Nat} {token : Option String} {e : StoreError}
    (h : request answer n = some token)
    (hstops : GuardStops path ((requests answer (n + 1)).map (asked path answer)) e) :
    ∃ page, answer token = .ok page := by
  obtain ⟨next, ⟨before, token', page, hevents, -⟩, -⟩ := hstops
  rw [made_succ h] at hevents
  obtain ⟨-, hlast⟩ := List.append_inj' hevents rfl
  exact ⟨page, (Event.list.inj (List.cons.inj hlast).1).2.2⟩

section Ends

variable (hstore : ∀ token s, (store.list path token s).1 = answer token) {s : σ}
  {events : List Event}

include hstore

theorem lists_ok_iff {ps : List Parameter} :
    Lists store path s (.ok ps) events ↔
      ∃ n token page, request answer n = some token ∧ answer token = .ok page ∧
        page.nextToken = none ∧ ps = (requests answer (n + 1)).flatMap (parametersOf answer) ∧
        events = (requests answer (n + 1)).map (asked path answer) := by
  rw [lists_iff_course hstore]
  constructor
  · rintro ⟨k, hcourse, rfl⟩
    cases hcourse with
    | @last n token page hrequest hpage hnext =>
      exact ⟨n, token, page, hrequest, hpage, hnext, rfl, rfl⟩
  · rintro ⟨n, token, page, hrequest, hpage, hnext, rfl, rfl⟩
    exact ⟨n + 1, .last hrequest hpage hnext, rfl⟩

theorem lists_storeFails_iff {e : StoreError} :
    Lists store path s (.error e) events ∧ StoreFails path events e ↔
      ∃ n token, request answer n = some token ∧ answer token = .error e ∧
        events = (requests answer (n + 1)).map (asked path answer) := by
  rw [lists_iff_course hstore]
  constructor
  · rintro ⟨⟨k, hcourse, rfl⟩, hfails⟩
    obtain ⟨n, token, rfl, hrequest, -⟩ := hcourse.ends_behind
    exact ⟨n, token, hrequest, answer_of_storeFails hrequest hfails, rfl⟩
  · rintro ⟨n, token, hrequest, he, rfl⟩
    have hlast : StoreFails path ((requests answer (n + 1)).map (asked path answer)) e :=
      ⟨_, token, by rw [made_succ hrequest, he]⟩
    exact ⟨⟨n + 1, .failed hrequest he, rfl⟩, hlast⟩

/-- The guard stops a listing only where the chain comes back, and as soon as it does. -/
theorem cycles_of_guardStops {e : StoreError} (h : Lists store path s (.error e) events)
    (hstops : GuardStops path events e) :
    Cycles answer ∧ events.length = (tokens answer).ncard + 1 := by
  obtain ⟨k, hcourse, rfl⟩ := (lists_iff_course hstore).1 h
  cases hcourse with
  | failed hrequest he =>
    obtain ⟨page, hpage⟩ := page_of_guardStops hrequest hstops
    cases he.symm.trans hpage
  | @repeated n token page next i hrequest hpage hnext hfresh hle hagain =>
    have hsome : (request answer n).isSome := by rw [hrequest]; rfl
    have heq : request answer i = request answer (n + 1) := by
      rw [hagain, request_succ_of_page hrequest hpage, hnext]
      rfl
    refine ⟨⟨i, n + 1, Nat.lt_succ_of_le hle, by rw [hagain]; rfl, heq⟩, ?_⟩
    rw [ncard_tokens_of_again hfresh hle hsome heq, made_succ hrequest, List.length_append,
      List.length_map, length_requests hsome, List.length_singleton]

theorem guardStops_of_cycles (h : Cycles answer) (s : σ) :
    ∃ e events, Lists store path s (.error e) events ∧ GuardStops path events e := by
  have hnever := h.isSome_request
  obtain ⟨i, j, hlt, -, heq⟩ := h
  obtain ⟨k, outcome, hcourse, -, -, hcut, -⟩ := fetchAll_course hstore j s
  cases hcourse with
  | cut hsome hfresh =>
    obtain rfl := hcut rfl
    exact absurd heq (hfresh i _ hlt (Nat.le_refl _))
  | @failed n token e hrequest he =>
    have hnext := hnever (n + 1)
    rw [request_succ_of_failure hrequest he] at hnext
    cases hnext
  | @last n token page hrequest hpage hlast =>
    have hnext := hnever (n + 1)
    rw [request_succ_of_page hrequest hpage, hlast] at hnext
    cases hnext
  | @repeated n token page next i hrequest hpage hnext hfresh hle hagain =>
    have hlists : Lists store path s (.error (repeatedToken next path)) _ :=
      (lists_iff_course hstore).2 ⟨n + 1, .repeated hrequest hpage hnext hfresh hle hagain, rfl⟩
    refine ⟨_, _, hlists, hlists.error_cases.resolve_left fun hfails ↦ ?_⟩
    cases hpage.symm.trans (answer_of_storeFails hrequest hfails)

theorem exists_lists_of_finite (hfinite : (tokens answer).Finite) (s : σ) :
    ∃ x events, Lists store path s x events := by
  obtain ⟨n, hn⟩ := exists_not_fresh hfinite
  obtain ⟨k, outcome, hcourse, hresult, -, hcut, -⟩ := fetchAll_course hstore n s
  cases outcome with
  | some x => exact ⟨x, _, n, hresult, rfl⟩
  | none =>
    obtain rfl := hcut rfl
    cases hcourse with
    | cut hsome hfresh => exact absurd ⟨hsome, hfresh⟩ hn

end Ends

/-- Over a store that answers by path and token a listing requests the pages of the chain, in their
order. It has one end: the parameters of the whole chain exactly if the chain has a last page, a
failure of the store exactly if the chain leads to it, and the error of a repeated token exactly if
the chain comes back to a token, so that it would never end; then there is one request more than
the chain has tokens. If the chain has finitely many tokens, the listing ends. -/
theorem fetchAll_follows_chain (hstore : ∀ token s, (store.list path token s).1 = answer token)
    (s : σ) :
    let made := fun n ↦ (requests answer n).map (asked path answer)
    (∀ fuel, ∃ n ≤ fuel, (fetchAll store fuel path s).events = made n) ∧
    (∀ x events x' events', Lists store path s x events → Lists store path s x' events' →
      x' = x ∧ events' = events) ∧
    (∀ ps events, Lists store path s (.ok ps) events ↔
      ∃ n token page, request answer n = some token ∧ answer token = .ok page ∧
        page.nextToken = none ∧ ps = (requests answer (n + 1)).flatMap (parametersOf answer) ∧
        events = made (n + 1)) ∧
    (∀ e events, Lists store path s (.error e) events ∧ StoreFails path events e ↔
      ∃ n token, request answer n = some token ∧ answer token = .error e ∧
        events = made (n + 1)) ∧
    ((∃ e events, Lists store path s (.error e) events ∧ GuardStops path events e) ↔
      Cycles answer) ∧
    (∀ e events, Lists store path s (.error e) events →
      StoreFails path events e ∨
        GuardStops path events e ∧ events.length = (tokens answer).ncard + 1) ∧
    (Cycles answer → ∀ n, (request answer n).isSome) ∧
    ((tokens answer).Finite → ∃ x events, Lists store path s x events) := by
  intro made
  refine ⟨fun fuel ↦ ?_, ?_, fun ps events ↦ lists_ok_iff hstore,
    fun e events ↦ lists_storeFails_iff hstore, ⟨?_, fun h ↦ guardStops_of_cycles hstore h s⟩, ?_,
    Cycles.isSome_request, fun hfinite ↦ exists_lists_of_finite hstore hfinite s⟩
  · obtain ⟨k, outcome, -, -, hk, -, hevents⟩ := fetchAll_course hstore fuel s
    exact ⟨k, hk, hevents⟩
  · intro x events x' events' h h'
    obtain ⟨k, hcourse, rfl⟩ := (lists_iff_course hstore).1 h
    obtain ⟨k', hcourse', rfl⟩ := (lists_iff_course hstore).1 h'
    obtain ⟨rfl, hsame⟩ := hcourse.unique hcourse' nofun
    exact ⟨Option.some.inj hsame, rfl⟩
  · rintro ⟨e, events, h, hstops⟩
    exact (cycles_of_guardStops hstore h hstops).1
  · intro e events h
    rcases h.error_cases with hfails | hstops
    · exact .inl hfails
    · exact .inr ⟨hstops, (cycles_of_guardStops hstore h hstops).2⟩

/-- A chain that comes back to its first token after its second is stopped at the third request. -/
theorem fetchAll_follows_chain_around :
    let answer : Option String → Except StoreError Page := fun token ↦
      .ok ⟨[⟨"/p/x", "v"⟩], some (if token = some "A" then "B" else "A")⟩
    let store : Store Unit := .ofAnswers ⟨fun name ↦ .error (.notFound name), fun _ ↦ answer⟩
    ∃ e events, Lists store "/p/" () (.error e) events ∧ GuardStops "/p/" events e ∧
      events.length = 3 := by
  intro answer store
  have hstore : ∀ token s, (store.list "/p/" token s).1 = answer token := fun token s ↦ rfl
  have hcycles : Cycles answer := ⟨1, 3, by decide, rfl, rfl⟩
  obtain ⟨-, hunique, -, -, hguard, -⟩ := fetchAll_follows_chain hstore ()
  obtain ⟨e, events, hlists, hstops⟩ := hguard.2 hcycles
  refine ⟨e, events, hlists, hstops, ?_⟩
  have hthree : Lists store "/p/" () (.error (repeatedToken "A" "/p/"))
      (fetchAll store 3 "/p/" ()).events := ⟨3, rfl, rfl⟩
  rw [(hunique _ _ _ _ hthree hlists).2]
  rfl

end ConfigResolver.Resolver
