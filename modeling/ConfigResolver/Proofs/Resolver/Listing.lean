import ConfigResolver.Proofs.Resolver.Inquiry
import ConfigResolver.Proofs.Run

/-!
# What a listing shows and what it comes to

`Transcript` is one listing as an onlooker sees it: the requests for the pages of a path with their
answers, and what the listing comes to after them. `Sweep` is the same for paths that are listed
one after the other. Every listing over every store has a transcript (`transcript_fetchFrom`,
`sweep_firstListing`), also where the store changes its mind from call to call, and what is said of
listings here is said by induction on these two relations.

Main statement: `listParameters_keeps_shown`. A listing that ends keeps whatever the store has
shown, unless a later page of the same path is not found: then the path counts as not found, and
the pages that were read before are forgotten.
-/

namespace ConfigResolver

namespace Event

/-- The event is a page of the listing of a path. -/
def IsPageOf (path : String) (event : Event) : Prop :=
  ∃ token page, event = .list path token (.ok page)

/-- The parameters that an event shows: those of a page. -/
def shown : Event → List Parameter
  | list _ _ (.ok page) => page.parameters
  | _ => []

end Event

namespace Resolver

variable {σ : Type} {r : Resolver σ} {store : Store σ} {path : String}
  {found : List Parameter} {seen : List String} {token : Option String} {fuel : Nat} {s : σ}

/-! ## One page -/

section Page

variable {page : Page}

theorem fetchFrom_of_failure {e : StoreError} (h : (store.list path token s).1 = .error e) :
    fetchFrom store path found seen token (fuel + 1) s =
      ⟨.ok (some (.error e)), [.list path token (.error e)], (store.list path token s).2⟩ := by
  simp [fetchFrom, Run.bind_apply, Run.next, h]

theorem fetchFrom_of_last (h : (store.list path token s).1 = .ok page)
    (hnext : page.nextToken = none) :
    fetchFrom store path found seen token (fuel + 1) s =
      ⟨.ok (some (.ok (found ++ page.parameters))), [.list path token (.ok page)],
        (store.list path token s).2⟩ := by
  simp [fetchFrom, Run.bind_apply, Run.next, h, hnext]

theorem fetchFrom_of_repeated {next : String} (h : (store.list path token s).1 = .ok page)
    (hnext : page.nextToken = some next) (hseen : next ∈ seen) :
    fetchFrom store path found seen token (fuel + 1) s =
      ⟨.ok (some (.error (repeatedToken next path))), [.list path token (.ok page)],
        (store.list path token s).2⟩ := by
  simp [fetchFrom, Run.bind_apply, Run.next, h, hnext, hseen]

/-- A token that was not given before leads on to the next page. -/
theorem fetchFrom_of_more {next : String} (h : (store.list path token s).1 = .ok page)
    (hnext : page.nextToken = some next) (hseen : next ∉ seen) :
    fetchFrom store path found seen token (fuel + 1) s =
      let out := fetchFrom store path (found ++ page.parameters) (next :: seen) (some next) fuel
        (store.list path token s).2
      ⟨out.result, .list path token (.ok page) :: out.events, out.store⟩ := by
  simp [fetchFrom, Run.bind_apply, Run.next, h, hnext, hseen]

end Page

/-! ## One path -/

/-- `Transcript path found seen token events answer`: behind the parameters `found` and the tokens
`seen`, a listing of the path that goes on at `token` makes the requests `events` and comes to
`answer`. It comes to nothing where it is cut short. -/
inductive Transcript (path : String) :
    List Parameter → List String → Option String → List Event →
      Option (Except StoreError (List Parameter)) → Prop
  /-- No more pages are read. -/
  | cut (found : List Parameter) (seen : List String) (token : Option String) :
      Transcript path found seen token [] none
  /-- The page is answered by a failure. -/
  | failed (found : List Parameter) (seen : List String) (token : Option String) (e : StoreError) :
      Transcript path found seen token [.list path token (.error e)] (some (.error e))
  /-- The page is the last one. -/
  | last (found : List Parameter) (seen : List String) (token : Option String) {page : Page}
      (hnext : page.nextToken = none) :
      Transcript path found seen token [.list path token (.ok page)]
        (some (.ok (found ++ page.parameters)))
  /-- The page leads back to one that was read before. -/
  | repeated (found : List Parameter) (seen : List String) (token : Option String) {page : Page}
      {next : String} (hnext : page.nextToken = some next) (hseen : next ∈ seen) :
      Transcript path found seen token [.list path token (.ok page)]
        (some (.error (repeatedToken next path)))
  /-- The page leads on to a new one. -/
  | more {found : List Parameter} {seen : List String} {token : Option String} {page : Page}
      {next : String} {events : List Event} {answer : Option (Except StoreError (List Parameter))}
      (hnext : page.nextToken = some next) (hseen : next ∉ seen)
      (hrest :
        Transcript path (found ++ page.parameters) (next :: seen) (some next) events answer) :
      Transcript path found seen token (.list path token (.ok page) :: events) answer

/-- A listing of a path has a transcript, whatever the store answers. -/
theorem transcript_fetchFrom (store : Store σ) (path : String) (found : List Parameter)
    (seen : List String) (token : Option String) (fuel : Nat) (s : σ) :
    let out := fetchFrom store path found seen token fuel s
    ∃ answer, out.result = .ok answer ∧ Transcript path found seen token out.events answer := by
  induction fuel generalizing found seen token s with
  | zero => exact ⟨none, rfl, .cut found seen token⟩
  | succ fuel ih =>
    cases h : (store.list path token s).1 with
    | error e =>
      rw [fetchFrom_of_failure h]
      exact ⟨_, rfl, .failed found seen token e⟩
    | ok page =>
      cases hnext : page.nextToken with
      | none =>
        rw [fetchFrom_of_last h hnext]
        exact ⟨_, rfl, .last found seen token hnext⟩
      | some next =>
        by_cases hseen : next ∈ seen
        · rw [fetchFrom_of_repeated h hnext hseen]
          exact ⟨_, rfl, .repeated found seen token hnext hseen⟩
        · rw [fetchFrom_of_more h hnext hseen]
          obtain ⟨answer, hresult, hrest⟩ := ih (found ++ page.parameters) (next :: seen)
            (some next) (store.list path token s).2
          exact ⟨answer, hresult, .more hnext hseen hrest⟩

/-- Some page of the events gives the token, and the listing of the path goes on behind it. -/
def GivesToken (path token : String) (events : List Event) : Prop :=
  ∃ before asked page between, events = before ++ .list path asked (.ok page) :: between ∧
    page.nextToken = some token ∧ ∀ event ∈ between, event.IsPageOf path

/-- The events end with a page whose token an earlier page of the same listing gave. -/
def RepeatsToken (path token : String) (events : List Event) : Prop :=
  ∃ earlier asked page, events = earlier ++ [.list path asked (.ok page)] ∧
    page.nextToken = some token ∧ GivesToken path token earlier

namespace Transcript

variable {events : List Event} {answer : Option (Except StoreError (List Parameter))}

/-- A page after which the listing goes on has a token that is given from then on. -/
theorem givesToken_append {earlier : List Event} {page : Page} {next : String}
    (hseen : ∀ t ∈ seen, GivesToken path t earlier) (hnext : page.nextToken = some next) :
    ∀ t ∈ next :: seen, GivesToken path t (earlier ++ [.list path token (.ok page)]) := by
  intro t ht
  rcases List.mem_cons.1 ht with rfl | ht
  · exact ⟨earlier, token, page, [], rfl, hnext, nofun⟩
  · obtain ⟨before, asked, first, between, rfl, hfirst, hbetween⟩ := hseen t ht
    refine ⟨before, asked, first, between ++ [.list path token (.ok page)], by simp, hfirst, ?_⟩
    exact List.forall_mem_append.2 ⟨hbetween, List.forall_mem_singleton.2 ⟨token, page, rfl⟩⟩

/-- Every event is a page, and an error is that of a repeated token; or the last event is the
failure that the listing comes to. A failure behind a page is that of a later page, which a token
asked for. -/
theorem pages_or_failure (h : Transcript path found seen token events answer)
    (earlier : List Event) (hseen : ∀ t ∈ seen, GivesToken path t earlier) :
    ((∀ event ∈ events, event.IsPageOf path) ∧ ∀ e, answer = some (.error e) →
        ∃ next, e = repeatedToken next path ∧ RepeatsToken path next (earlier ++ events)) ∨
      ∃ before asked e, events = before ++ [.list path asked (.error e)] ∧
        answer = some (.error e) ∧ (∀ event ∈ before, event.IsPageOf path) ∧
        (before = [] ∧ asked = token ∨ ∃ later, asked = some later) := by
  induction h generalizing earlier with
  | cut found seen token => exact .inl ⟨nofun, nofun⟩
  | failed found seen token e => exact .inr ⟨[], token, e, rfl, rfl, nofun, .inl ⟨rfl, rfl⟩⟩
  | last found seen token hnext =>
    exact .inl ⟨List.forall_mem_singleton.2 ⟨token, _, rfl⟩, nofun⟩
  | @repeated found seen token page next hnext hmem =>
    refine .inl ⟨List.forall_mem_singleton.2 ⟨token, _, rfl⟩, ?_⟩
    rintro e ⟨⟩
    exact ⟨next, rfl, earlier, token, page, rfl, hnext, hseen next hmem⟩
  | @more found seen token page next events answer hnext hfresh hrest ih =>
    have hpage : Event.IsPageOf path (.list path token (.ok page)) := ⟨token, page, rfl⟩
    rcases ih _ (givesToken_append hseen hnext) with
      ⟨hall, herror⟩ | ⟨before, asked, e, rfl, rfl, hbefore, hasked⟩
    · refine .inl ⟨List.forall_mem_cons.2 ⟨hpage, hall⟩, fun e he ↦ ?_⟩
      simpa using herror e he
    · refine .inr ⟨_ :: before, asked, e, rfl, rfl, List.forall_mem_cons.2 ⟨hpage, hbefore⟩, ?_⟩
      rcases hasked with ⟨-, rfl⟩ | hlater
      · exact .inr ⟨next, rfl⟩
      · exact .inr hlater

/-- A listing that comes to its end has all that its pages showed, in their order. -/
theorem eq_shown_of_ok {ps : List Parameter}
    (h : Transcript path found seen token events (some (.ok ps))) :
    ps = found ++ events.flatMap Event.shown := by
  generalize hanswer : some (Except.ok ps) = answer at h
  induction h with
  | cut found seen token => cases hanswer
  | failed found seen token e => cases hanswer
  | last found seen token hnext =>
    cases hanswer
    simp [Event.shown]
  | repeated found seen token hnext hseen => cases hanswer
  | more hnext hseen hrest ih =>
    rw [ih hanswer]
    simp [Event.shown]

end Transcript

/-! ## Many paths -/

/-- `Sweep paths events result`: the paths are listed one after the other, up to the first one with
parameters, and this is what happens and what it comes to. -/
inductive Sweep : List String → List Event → Except Error (Option (List Parameter)) → Prop
  /-- There is no path left. -/
  | done : Sweep [] [] (.ok (some []))
  /-- The listing of the path is cut short. -/
  | cut {path : String} {rest : List String} {events : List Event}
      (h : Transcript path [] [] none events none) : Sweep (path :: rest) events (.ok none)
  /-- The path has parameters. -/
  | hit {path : String} {rest : List String} {events : List Event} {p : Parameter}
      {ps : List Parameter} (h : Transcript path [] [] none events (some (.ok (p :: ps)))) :
      Sweep (path :: rest) events (.ok (some (p :: ps)))
  /-- The path has no parameters, or is not found. -/
  | passed {path : String} {rest : List String} {events later : List Event}
      {answer : Except StoreError (List Parameter)}
      {result : Except Error (Option (List Parameter))}
      (h : Transcript path [] [] none events (some answer))
      (hanswer : answer = .ok [] ∨ ∃ text, answer = .error (.notFound text))
      (hrest : Sweep rest later result) :
      Sweep (path :: rest) (events ++ .log (.nothingUnder path) :: later) result
  /-- The listing of the path fails in another way. -/
  | failed {path : String} {rest : List String} {events : List Event} {e : StoreError}
      (h : Transcript path [] [] none events (some (.error e)))
      (he : ∀ text, e ≠ .notFound text) :
      Sweep (path :: rest) events (.error (storeFailure path e))

theorem sweep_firstListing (store : Store σ) (fuel : Nat) (paths : List String) (s : σ) :
    let out := firstListing store fuel paths s
    Sweep paths out.events out.result := by
  induction paths generalizing s with
  | nil => exact .done
  | cons path rest ih =>
    obtain ⟨answer, hresult, h⟩ := transcript_fetchFrom store path [] [] none fuel s
    unfold firstListing fetchAll
    rw [Run.bind_of_ok hresult]
    match answer, h with
    | none, h => simpa using Sweep.cut h
    | some (.ok (p :: ps)), h => simpa using Sweep.hit h
    | some (.ok []), h => exact .passed h (.inl rfl) (ih _)
    | some (.error (.notFound text)), h => exact .passed h (.inr ⟨text, rfl⟩) (ih _)
    | some (.error (.unavailable text)), h => simpa using Sweep.failed h nofun
    | some (.error (.other text)), h => simpa using Sweep.failed h nofun

/-! ## The listing -/

/-- Where no store is to be asked there are no parameters. -/
theorem listParameters_of_skip (hskip : r.options.skipRemote = true) (fuel : Nat)
    (path : Option String) : r.listParameters fuel path = pure (some []) := by
  rw [listParameters, if_pos hskip]

/-- A listing asks nothing, is refused before anything is asked, or sweeps over its paths. -/
theorem listParameters_cases (r : Resolver σ) (fuel : Nat) (path : Option String) :
    r.listParameters fuel path = pure (some []) ∨
      (∃ key, r.listParameters fuel path = Run.fail (.keyNotQualified key)) ∨
      (r.store = none ∧ ∃ name, r.listParameters fuel path =
        Run.fail (.backendUnavailable name "no parameter store configured")) ∨
      ∃ store paths, r.store = some store ∧ r.listingPaths path = .ok paths ∧
        r.listParameters fuel path = firstListing store fuel paths := by
  cases hskip : r.options.skipRemote with
  | true => exact .inl (listParameters_of_skip hskip fuel path)
  | false =>
    rw [listParameters, if_neg (by simp [hskip])]
    cases hpaths : r.listingPaths path with
    | error e =>
      have hkey : e = .keyNotQualified (path.getD "") := by
        rw [listingPaths_eq] at hpaths
        split at hpaths
        · exact (Except.error.inj hpaths).symm
        · cases hpaths
      exact .inr (.inl ⟨_, by rw [hkey, Run.ofExcept_error, Run.fail_bind]⟩)
    | ok paths =>
      cases hstore : r.store with
      | none => exact .inr (.inr (.inl ⟨rfl, paths.headD "", by simp [requireStore, hstore]⟩))
      | some store =>
        exact .inr (.inr (.inr ⟨store, paths, rfl, rfl, by simp [requireStore, hstore]⟩))

/-! ## What is shown is kept -/

/-- An event is found on its own side of another one. -/
theorem split_of_ne {xs ys before after : List Event} {mark event : Event}
    (h : xs ++ mark :: ys = before ++ event :: after) (hne : event ≠ mark) :
    (∃ tail, xs = before ++ event :: tail ∧ after = tail ++ mark :: ys) ∨
      ∃ head, ys = head ++ event :: after := by
  rcases List.append_eq_append_iff.1 h with ⟨middle, rfl, hmiddle⟩ | ⟨middle, rfl, hmiddle⟩
  · cases middle with
    | nil => exact absurd (List.cons.inj hmiddle).1.symm hne
    | cons first head => exact .inr ⟨head, (List.cons.inj hmiddle).2⟩
  · cases middle with
    | nil => exact absurd (List.cons.inj hmiddle).1 hne
    | cons first tail =>
      obtain ⟨rfl, rfl⟩ := List.cons.inj hmiddle
      exact .inl ⟨tail, rfl, rfl⟩

/-- What the event shows is forgotten: the pages of its path go on behind it, up to one that is not
found. -/
def Forgotten (event : Event) (after : List Event) : Prop :=
  ∃ path between token text rest, event.IsPageOf path ∧
    after = between ++ .list path (some token) (.error (.notFound text)) :: rest ∧
    ∀ other ∈ between, other.IsPageOf path

theorem Forgotten.append {event : Event} {after : List Event} (h : Forgotten event after)
    (later : List Event) : Forgotten event (after ++ later) := by
  obtain ⟨path, between, token, text, rest, hevent, rfl, hbetween⟩ := h
  exact ⟨path, between, token, text, rest ++ later, hevent, by simp, hbetween⟩

theorem ne_of_mem_shown {event other : Event} {p : Parameter} (h : p ∈ event.shown)
    (hother : other.shown = []) : event ≠ other := by
  rintro rfl
  rw [hother] at h
  cases h

namespace Transcript

/-- A listing that is not found has forgotten all pages that it has read. -/
theorem forgotten_of_notFound {events before after : List Event} {event : Event} {text : String}
    {p : Parameter} (h : Transcript path [] [] none events (some (.error (.notFound text))))
    (hevents : events = before ++ event :: after) (hp : p ∈ event.shown) :
    Forgotten event after := by
  rcases h.pages_or_failure [] nofun with
    ⟨-, herror⟩ | ⟨pages, asked, e, rfl, he, hpages, hasked⟩
  · obtain ⟨next, hnext, -⟩ := herror _ rfl
    cases hnext
  · cases he
    rcases split_of_ne hevents (ne_of_mem_shown hp rfl) with ⟨between, rfl, rfl⟩ | ⟨head, hhead⟩
    · obtain ⟨-, hevent, hbetween⟩ := List.forall_mem_append.1 hpages |>.imp_right
        List.forall_mem_cons.1
      rcases hasked with ⟨hnil, -⟩ | ⟨later, rfl⟩
      · simp at hnil
      · exact ⟨path, between, later, text, [], hevent, rfl, hbetween⟩
    · simp at hhead

end Transcript

/-- Where a sweep ends with parameters these are what its last listing showed, and all that earlier
ones showed is forgotten. -/
theorem Sweep.keeps_shown {paths : List String} {events : List Event} {ps : List Parameter}
    (h : Sweep paths events (.ok (some ps))) :
    (∃ before pass, events = before ++ pass ∧ ps = pass.flatMap Event.shown) ∧
      ∀ before event after, events = before ++ event :: after → ∀ p ∈ event.shown,
        p ∈ ps ∨ Forgotten event after := by
  generalize hresult : Except.ok (some ps) = result at h
  induction h with
  | done =>
    cases hresult
    exact ⟨⟨[], [], rfl, rfl⟩, fun before event after h ↦ by simp at h⟩
  | cut h => cases hresult
  | @hit path rest events p ps h =>
    cases hresult
    have hshown : p :: ps = events.flatMap Event.shown := h.eq_shown_of_ok
    refine ⟨⟨[], events, rfl, hshown⟩, ?_⟩
    rintro before event after rfl q hq
    exact .inl (hshown ▸ List.mem_flatMap.2 ⟨event, by simp, hq⟩)
  | @passed path rest events later answer result h hanswer hrest ih =>
    obtain ⟨⟨before, pass, rfl, hps⟩, hkeeps⟩ := ih hresult
    refine ⟨⟨events ++ .log (.nothingUnder path) :: before, pass, by simp, hps⟩, ?_⟩
    intro front event after hsplit q hq
    rcases split_of_ne hsplit (ne_of_mem_shown hq rfl) with ⟨tail, htail, rfl⟩ | ⟨head, hhead⟩
    · rcases hanswer with rfl | ⟨text, rfl⟩
      · have hnone : [] = events.flatMap Event.shown := h.eq_shown_of_ok
        have hmem : q ∈ events.flatMap Event.shown :=
          List.mem_flatMap.2 ⟨event, by simp [htail], hq⟩
        rw [← hnone] at hmem
        cases hmem
      · exact .inr ((h.forgotten_of_notFound htail hq).append _)
    · exact hkeeps head event after hhead q hq
  | failed h he => cases hresult

/-- What a listing that ends in parameters keeps: the parameters are what its last pages showed, in
their order, and whatever an earlier page showed is among them or is forgotten. A page is forgotten
only where a later page of the same path is not found. -/
theorem listParameters_keeps_shown (r : Resolver σ) (fuel : Nat) (path : Option String) (s : σ) :
    let out := r.listParameters fuel path s
    ∀ ps, out.result = .ok (some ps) →
      (∃ before pass, out.events = before ++ pass ∧ ps = pass.flatMap Event.shown) ∧
        ∀ before event after, out.events = before ++ event :: after → ∀ p ∈ event.shown,
          p ∈ ps ∨ Forgotten event after := by
  intro out ps hps
  rcases r.listParameters_cases fuel path with
    h | ⟨key, h⟩ | ⟨-, name, h⟩ | ⟨store, paths, -, -, h⟩ <;>
    simp only [out, h] at hps ⊢
  · cases hps
    exact ⟨⟨[], [], rfl, rfl⟩, fun before event after h ↦ by simp at h⟩
  · cases hps
  · cases hps
  · have hsweep := sweep_firstListing store fuel paths s
    simp only [hps] at hsweep
    exact hsweep.keeps_shown

/-- A path with two pages has the parameters of both, behind a path that is not found. -/
theorem listParameters_keeps_shown_two_pages :
    let x : Parameter := ⟨"/b/x", "1"⟩
    let y : Parameter := ⟨"/b/y", "2"⟩
    let list := fun path token ↦
      if path = "/a/" then .error (.notFound path)
      else if token = none then .ok ⟨[x], some "2"⟩ else .ok ⟨[y], none⟩
    let store : Store Unit := .ofAnswers ⟨fun name ↦ .error (.notFound name), list⟩
    let out := listParameters ⟨{ rootPaths := ["/a/", "/b/"] }, some store⟩ 2 none ()
    out.result = .ok (some [x, y]) ∧
      ∃ before pass, out.events = before ++ pass ∧ [x, y] = pass.flatMap Event.shown := by
  intro x y list store out
  have hresult : out.result = .ok (some [x, y]) := rfl
  obtain ⟨hshown, -⟩ := listParameters_keeps_shown _ 2 none () _ hresult
  exact ⟨hresult, hshown⟩

/-- A listing loses parameters where its second page is not found. -/
theorem listParameters_forgets_page :
    let page : Page := ⟨[⟨"/a/x", "1"⟩], some "2"⟩
    let list := fun _ token ↦ if token = none then .ok page else .error (.notFound "/a/")
    let store : Store Unit := .ofAnswers ⟨fun name ↦ .error (.notFound name), list⟩
    let out := listParameters ⟨{ rootPaths := ["/a/"] }, some store⟩ 2 none ()
    out.result = .ok (some []) ∧
      ¬ ∀ event ∈ out.events, ∀ p ∈ event.shown, p ∈ ([] : List Parameter) := by
  intro page list store out
  have hout : out = ⟨.ok (some []), [.list "/a/" none (.ok page),
      .list "/a/" (some "2") (.error (.notFound "/a/")), .log (.nothingUnder "/a/")], ()⟩ := rfl
  rw [hout]
  refine ⟨rfl, fun h ↦ ?_⟩
  cases h (.list "/a/" none (.ok page)) (by simp) ⟨"/a/x", "1"⟩ (by simp [Event.shown, page])

end Resolver

end ConfigResolver
