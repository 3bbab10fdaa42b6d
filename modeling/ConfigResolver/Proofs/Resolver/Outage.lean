import ConfigResolver.Proofs.Resolver.Listing
import ConfigResolver.Proofs.Resolver.Lookup
import ConfigResolver.Proofs.Resolver.Operation
import ConfigResolver.Proofs.Resolver.Place
import ConfigResolver.Proofs.Resolver.Relation
import Mathlib.Data.List.Basic

/-!
# An outage ends a run

A store that cannot be used, or that fails in a way of its own, has an outage. No default stands in
for what it did not answer and nothing is asked of it any more: the outage is the last event of the
run, and the run ends in its error. Conversely a run blames the store only for such an outage, for
not being there at all, or for pages that lead around in a circle.

`Candid` says this of the events and the result of a run in a form that a run inherits from its
parts. The lookup of a parameter and the sweep of a listing are where answers of a store are looked
at; all else is put together from them by binding. Main statement: `perform_ends_at_outage`.
-/

namespace ConfigResolver

/-- The error that an event calls for: that of a store that cannot be used, or that failed in
another way. -/
def Event.outage? : Event → Option Error
  | get name (.error (.unavailable text)) => some (.backendUnavailable name text)
  | get name (.error (.other text)) => some (.backendOther name text)
  | list path _ (.error (.unavailable text)) => some (.backendUnavailable path text)
  | list path _ (.error (.other text)) => some (.backendOther path text)
  | _ => none

namespace Error

/-- Whether an error blames the store. -/
def isBackend (e : Error) : Bool := e.kind matches .backendUnavailable _ | .backendOther _

@[simp] theorem isBackend_orPath (e : Error) (path : String) :
    (e.orPath path).isBackend = e.isBackend := by
  rw [isBackend, kind_orPath]
  rfl

theorem isBackend_of_isOfFile {e : Error} (h : e.isOfFile) : e.isBackend = false := by
  obtain ⟨kind, path, location, help, cause⟩ := e
  cases kind with
  | backendUnavailable key | backendOther key => cases h
  | _ => rfl

end Error

/-! ## Events without an outage -/

/-- There is no outage among the events. -/
def Quiet (events : List Event) : Prop := ∀ event ∈ events, event.outage? = none

namespace Quiet

variable {events events' : List Event}

theorem nil : Quiet [] := nofun

theorem append (h : Quiet events) (h' : Quiet events') : Quiet (events ++ events') :=
  List.forall_mem_append.2 ⟨h, h'⟩

theorem singleton {event : Event} (h : event.outage? = none) : Quiet [event] :=
  List.forall_mem_singleton.2 h

theorem outage?_ne_some {before after : List Event} {event : Event}
    (h : Quiet (before ++ event :: after)) (e : Error) : event.outage? ≠ some e := by
  rw [h event (by simp)]
  nofun

theorem of_pages {path : String} (h : ∀ event ∈ events, event.IsPageOf path) : Quiet events := by
  intro event hevent
  obtain ⟨token, page, rfl⟩ := h event hevent
  rfl

end Quiet

/-! ## What happens and what it comes to -/

/-- `Candid excused events result`: only the last of the events can be an outage, and if it is one
the result is its error. Without an outage the result blames the store only where that is excused
by the events. -/
inductive Candid {α : Type} (excused : List Event → Error → Prop) :
    List Event → Except Error α → Prop
  /-- A value, without an outage. -/
  | value {events : List Event} (hquiet : Quiet events) (a : α) : Candid excused events (.ok a)
  /-- An error, without an outage. -/
  | error {events : List Event} {e : Error} (hquiet : Quiet events)
      (hexcused : e.isBackend → excused events e) : Candid excused events (.error e)
  /-- An outage. -/
  | outage {before : List Event} {event : Event} {e : Error} (hquiet : Quiet before)
      (hevent : event.outage? = some e.bare) : Candid excused (before ++ [event]) (.error e)

namespace Candid

variable {α β : Type} {excused excused' : List Event → Error → Prop} {events : List Event}
  {result : Except Error α}

theorem quiet_of_ok {a : α} (h : Candid excused events (.ok a)) : Quiet events := by
  cases h with
  | value hquiet => exact hquiet

theorem of_error {e : Error} (h : Candid excused events (.error e : Except Error α)) :
    Candid excused events (.error e : Except Error β) := by
  cases h with
  | error hquiet hexcused => exact .error hquiet hexcused
  | outage hquiet hevent => exact .outage hquiet hevent

theorem mono (h : Candid excused events result)
    (hexcused : ∀ events e, excused events e → excused' events e) :
    Candid excused' events result := by
  cases h with
  | value hquiet a => exact .value hquiet a
  | error hquiet hbackend => exact .error hquiet fun he ↦ hexcused _ _ (hbackend he)
  | outage hquiet hevent => exact .outage hquiet hevent

theorem map (g : α → β) (h : Candid excused events result) :
    Candid excused events (result.map g) := by
  cases h with
  | value hquiet a => exact .value hquiet (g a)
  | error hquiet hexcused => exact .error hquiet hexcused
  | outage hquiet hevent => exact .outage hquiet hevent

/-- The place of an error does not count. -/
theorem orPath (path : String) (h : Candid excused events result)
    (hexcused : ∀ events e, excused events e → excused events (e.orPath path)) :
    Candid excused events (result.mapError (·.orPath path)) := by
  cases h with
  | value hquiet a => exact .value hquiet a
  | error hquiet hbackend =>
    exact .error hquiet fun he ↦ hexcused _ _ (hbackend (by simpa using he))
  | outage hquiet hevent => exact .outage hquiet (by simpa using hevent)

/-- What happened before does not count, if it was no outage. -/
theorem append {before : List Event} (hbefore : Quiet before) (h : Candid excused events result)
    (hexcused : ∀ e, excused events e → excused (before ++ events) e) :
    Candid excused (before ++ events) result := by
  cases h with
  | value hquiet a => exact .value (hbefore.append hquiet) a
  | error hquiet hbackend =>
    exact .error (hbefore.append hquiet) fun he ↦ hexcused _ (hbackend he)
  | outage hquiet hevent =>
    rw [← List.append_assoc]
    exact .outage (hbefore.append hquiet) hevent

/-- The form without cases. -/
theorem ends_at_outage (h : Candid excused events result) :
    (∀ before event after e, events = before ++ event :: after → event.outage? = some e →
        after = [] ∧ ∃ e', result = .error e' ∧ e'.bare = e) ∧
      ∀ e, result = .error e → e.isBackend →
        (∃ before event, events = before ++ [event] ∧ event.outage? = some e.bare) ∨
          excused events e := by
  cases h with
  | value hquiet a =>
    constructor
    · intro before event after e hsplit hevent
      subst hsplit
      exact absurd hevent (hquiet.outage?_ne_some e)
    · intro e he
      cases he
  | error hquiet hbackend =>
    constructor
    · intro before event after e hsplit hevent
      subst hsplit
      exact absurd hevent (hquiet.outage?_ne_some e)
    · rintro e ⟨⟩ he
      exact .inr (hbackend he)
  | @outage front last e' hquiet hlast =>
    constructor
    · intro before event after e hsplit hevent
      rcases List.eq_nil_or_concat' after with rfl | ⟨after, other, rfl⟩
      · obtain ⟨rfl, hsame⟩ := List.append_inj' hsplit rfl
        obtain rfl : last = event := (List.cons.inj hsame).1
        exact ⟨rfl, e', rfl, Option.some.inj (hlast.symm.trans hevent)⟩
      · have hinit : front ++ [last] = (before ++ event :: after) ++ [other] := by
          rw [hsplit]
          simp
        obtain ⟨rfl, -⟩ := List.append_inj' hinit rfl
        exact absurd hevent (hquiet.outage?_ne_some e)
    · rintro e ⟨⟩ -
      exact .inl ⟨front, last, rfl, hlast⟩

end Candid

/-! ## Runs -/

namespace Run

variable {σ α β : Type} {x : Run σ α} {f : α → Run σ β} {excused : Prop}

/-- From every state of the store the run is candid about outages. Where `excused` holds it may
blame the store without one. -/
def Candid (excused : Prop) (x : Run σ α) : Prop :=
  ∀ s, ConfigResolver.Candid (fun _ _ ↦ excused) (x s).events (x s).result

namespace Candid

theorem pure (a : α) : Candid excused (Pure.pure a : Run σ α) := fun _ ↦ .value .nil a

theorem fail {e : Error} (h : e.isBackend → excused) : Candid excused (Run.fail e : Run σ α) :=
  fun _ ↦ .error .nil h

theorem log (record : Record) : Candid excused (Run.log record : Run σ Unit) :=
  fun _ ↦ .value (.singleton rfl) ()

theorem bind (hx : Candid excused x) (hf : ∀ a, Candid excused (f a)) :
    Candid excused (x >>= f) := by
  intro s
  cases h : (x s).result with
  | ok a =>
    have hquiet : Quiet (x s).events := (h ▸ hx s).quiet_of_ok
    rw [bind_of_ok h]
    exact (hf a (x s).store).append hquiet fun _ ↦ id
  | error e =>
    rw [bind_of_error h]
    exact (h ▸ hx s).of_error

theorem map (g : α → β) (hx : Candid excused x) : Candid excused (g <$> x) := by
  intro s
  rw [map_apply]
  exact (hx s).map g

theorem orPath (path : String) (hx : Candid excused x) :
    Candid excused (Run.mapError (·.orPath path) x) := by
  intro s
  rw [mapError_apply]
  exact (hx s).orPath path fun _ _ ↦ id

end Candid

/-- That the first run is candid about outages. -/
def Relation.candour (σ : Type) (excused : Prop) : Run.Relation σ σ where
  Holds x _ := x.Candid excused
  pure a := .pure a
  log record := .log record
  file he := .fail (by simp [Error.isBackend_of_isOfFile he])
  limit _ _ := .fail nofun
  bind hx hf := hx.bind hf
  orPath path hx := hx.orPath path

end Run

namespace Resolver

variable {σ : Type} {r : Resolver σ} {env : Environment} {store : Store σ} {excused : Prop}

/-! ## Looking up -/

/-- The answer that there is no such parameter is passed over, any other failure ends the
search. -/
theorem candid_firstFound (store : Store σ) (names : List String) :
    (firstFound store names).Candid excused := by
  induction names with
  | nil => exact .pure none
  | cons name rest ih =>
    intro s
    cases h : (store.get name s).1 with
    | ok value =>
      rw [firstFound_of_value h]
      exact .value (.singleton rfl) (some value)
    | error e =>
      cases e with
      | notFound text =>
        rw [firstFound_of_missing h]
        have hquiet : Quiet [.get name (.error (.notFound text)), .log (.parameterNotFound name)] :=
          List.forall_mem_cons.2 ⟨rfl, Quiet.singleton rfl⟩
        exact (ih (store.get name s).2).append hquiet fun _ ↦ id
      | unavailable text =>
        rw [firstFound_of_failure h nofun]
        exact .outage .nil rfl
      | other text =>
        rw [firstFound_of_failure h nofun]
        exact .outage .nil rfl

theorem candid_fallbackOr {missing : Error} (h : missing.isBackend = false) (key : String)
    (inline : Option (List Char)) : (r.fallbackOr key inline missing).Candid excused :=
  holds_fallbackOr (.candour σ excused) rfl (.fail (by simp [h])) key inline

theorem candid_lookupParameter (key : String) (inline : Option (List Char)) :
    (r.lookupParameter key inline).Candid (r.store = none) := by
  rcases r.lookupParameter_cases key inline with
    h | h | ⟨hnone, name, h⟩ | ⟨store, -, h⟩ <;> rw [h]
  · exact .bind (.log _) fun _ ↦ .pure _
  · exact .fail nofun
  · exact .fail fun _ ↦ hnone
  · refine .bind (candid_firstFound store _) fun found ↦ ?_
    cases found with
    | some value => exact .pure _
    | none => exact candid_fallbackOr rfl key inline

theorem candid_lookup (r : Resolver σ) (env : Environment) (t : Token) :
    (r.lookup env t).Candid (r.store = none) := by
  unfold lookup
  split
  · unfold lookupVariable
    split
    · exact .pure _
    · exact candid_fallbackOr rfl _ _
  · exact candid_lookupParameter _ _

/-! ## Texts, documents and files -/

theorem related_candour (r : Resolver σ) (env : Environment) :
    Related (.candour σ (r.store = none)) r r env :=
  ⟨rfl, candid_lookup r env⟩

theorem candid_resolveString (r : Resolver σ) (env : Environment) (s : String) :
    (r.resolveString env s).Candid (r.store = none) :=
  (related_candour r env).resolveString s

theorem candid_resolveDocument (r : Resolver σ) (env : Environment) (doc : Value)
    (resolveKey returnKey : Option String) :
    (r.resolveDocument env doc resolveKey returnKey).Candid (r.store = none) :=
  (related_candour r env).resolveDocument doc resolveKey returnKey

theorem candid_resolveFile (r : Resolver σ) (env : Environment) (files : Files) (path : String)
    (resolveKey returnKey : Option String) :
    (r.resolveFile env files path resolveKey returnKey).Candid (r.store = none) :=
  (related_candour r env).resolveFile files path resolveKey returnKey

/-! ## Listings -/

/-- The error of a listing whose pages lead around in a circle. -/
def Circles (events : List Event) (e : Error) : Prop :=
  ∃ path token, RepeatsToken path token events ∧ e = storeFailure path (repeatedToken token path)

theorem RepeatsToken.append {path token : String} {events : List Event}
    (h : RepeatsToken path token events) (before : List Event) :
    RepeatsToken path token (before ++ events) := by
  obtain ⟨_, asked, page, rfl, hnext, front, first, opening, between, rfl, hgiven, hpages⟩ := h
  exact ⟨_, asked, page, (List.append_assoc ..).symm, hnext, before ++ front, first, opening,
    between, (List.append_assoc ..).symm, hgiven, hpages⟩

theorem Circles.append {events : List Event} {e : Error} (h : Circles events e)
    (before : List Event) : Circles (before ++ events) e := by
  obtain ⟨path, token, hrepeats, rfl⟩ := h
  exact ⟨path, token, hrepeats.append before, rfl⟩

theorem Transcript.quiet_of_not_error {path : String} {events : List Event}
    {answer : Option (Except StoreError (List Parameter))}
    (h : Transcript path [] [] none events answer) (hanswer : ∀ e, answer ≠ some (.error e)) :
    Quiet events := by
  rcases h.pages_or_failure [] nofun with ⟨hpages, -⟩ | ⟨before, asked, e, rfl, he, -, -⟩
  · exact .of_pages hpages
  · exact absurd he (hanswer e)

/-- A listing of one path that the sweep goes on from had no outage. -/
theorem Transcript.quiet_of_passed {path : String} {events : List Event}
    {answer : Except StoreError (List Parameter)}
    (h : Transcript path [] [] none events (some answer))
    (hanswer : answer = .ok [] ∨ ∃ text, answer = .error (.notFound text)) : Quiet events := by
  rcases h.pages_or_failure [] nofun with ⟨hpages, -⟩ | ⟨before, asked, e, rfl, he, hpages, -⟩
  · exact .of_pages hpages
  · cases he
    obtain ⟨text, ⟨⟩⟩ := hanswer.resolve_left nofun
    exact (Quiet.of_pages hpages).append (.singleton rfl)

/-- A sweep goes on from a path without parameters and from one that is not found, and ends with
any other failure. -/
theorem Sweep.candid {paths : List String} {events : List Event}
    {result : Except Error (Option (List Parameter))} (h : Sweep paths events result) :
    Candid Circles events result := by
  induction h with
  | done => exact .value .nil _
  | cut h => exact .value (h.quiet_of_not_error nofun) _
  | hit h => exact .value (h.quiet_of_not_error nofun) _
  | @passed path rest events later answer result h hanswer hrest ih =>
    have hquiet : Quiet (events ++ [.log (.nothingUnder path)]) :=
      (h.quiet_of_passed hanswer).append (.singleton rfl)
    rw [List.append_cons]
    exact ih.append hquiet fun e he ↦ he.append _
  | @failed path rest events e h hne =>
    rcases h.pages_or_failure [] nofun with
      ⟨hpages, herror⟩ | ⟨before, asked, e', rfl, he, hpages, -⟩
    · obtain ⟨token, rfl, hrepeats⟩ := herror e rfl
      exact .error (.of_pages hpages) fun _ ↦ ⟨path, token, hrepeats, rfl⟩
    · cases he
      refine .outage (.of_pages hpages) ?_
      cases e with
      | notFound text => exact absurd rfl (hne text)
      | unavailable text => rfl
      | other text => rfl

theorem candid_listParameters (r : Resolver σ) (fuel : Nat) (path : Option String) (s : σ) :
    let out := r.listParameters fuel path s
    Candid (fun events e ↦ r.store = none ∨ Circles events e) out.events out.result := by
  intro out
  rcases r.listParameters_cases fuel path with
    h | ⟨key, h⟩ | ⟨hnone, name, h⟩ | ⟨store, paths, -, -, h⟩ <;> simp only [out, h]
  · exact .value .nil _
  · exact .error .nil nofun
  · exact .error .nil fun _ ↦ .inl hnone
  · exact (sweep_firstListing store fuel paths s).candid.mono fun _ _ ↦ .inr

/-! ## All operations -/

/-- No outage is survived. If the store has an outage during an operation, that is the last thing
that happens, and the operation ends in the error of the outage, which may have a place in the
document added. And an operation that ends in an error of the store ends at such an outage, or has
no store, or is a listing whose last page leads back to an earlier one. -/
theorem perform_ends_at_outage (r : Resolver σ) (env : Environment) (op : Operation) (s : σ) :
    let out := r.perform env op s
    (∀ before event after e, out.events = before ++ event :: after → event.outage? = some e →
        after = [] ∧ ∃ e', out.result = .error e' ∧ e'.bare = e) ∧
      ∀ e, out.result = .error e → e.isBackend →
        (∃ before event, out.events = before ++ [event] ∧ event.outage? = some e.bare) ∨
          r.store = none ∨
            ∃ pages path, op = .listing pages path ∧ Circles out.events e := by
  intro out
  have hcandid : Candid (fun events e ↦ r.store = none ∨
      ∃ pages path, op = .listing pages path ∧ Circles events e) out.events out.result := by
    cases op with
    | document doc resolveKey returnKey =>
      exact (Run.Candid.map _ (candid_resolveDocument r env doc resolveKey returnKey) s).mono
        fun _ _ ↦ .inl
    | file files path resolveKey returnKey =>
      exact (Run.Candid.map _ (candid_resolveFile r env files path resolveKey returnKey) s).mono
        fun _ _ ↦ .inl
    | text text =>
      exact (Run.Candid.map _ (candid_resolveString r env text) s).mono fun _ _ ↦ .inl
    | parameter key =>
      exact (Run.Candid.map _ (.map _ (candid_lookupParameter key none)) s).mono fun _ _ ↦ .inl
    | listing pages path =>
      rw [show out = _ from Run.map_apply _ _ _]
      refine ((candid_listParameters r pages path s).map Answer.parameters).mono ?_
      rintro events e (hnone | hcircles)
      · exact .inl hnone
      · exact .inr ⟨pages, path, rfl, hcircles⟩
  exact hcandid.ends_at_outage

end Resolver

end ConfigResolver
