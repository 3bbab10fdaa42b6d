import ConfigResolver.Proofs.Resolver.Qualified
import ConfigResolver.Proofs.Ssm.Lookup

/-!
# Listings over the parameter service

The service takes no path that ends with a slash, except for the slash alone (`Takes`), so a path is
sent without the slash at its end. That is one slash only: a path is taken as it is sent unless it
ends with two slashes and has something in front of them (`takes_apiPath_iff`). Neither the root
paths of a resolver nor the paths of a listing are held to that.

What a run sends are the requests of its calls (`Sends`), one after the other. Main statement:
`listParameters_sends_paths`.
-/

namespace ConfigResolver.Ssm

/-! ## Paths -/

/-- The service takes the path: it is the slash alone, or does not end with a slash. -/
def Takes (path : String) : Prop := path = "/" ∨ path.toList.getLast? ≠ some '/'

section Paths

variable {path front front' : String}

theorem getLast?_append_slash (front : String) :
    (front ++ "/").toList.getLast? = some '/' := by
  rw [String.toList_append]
  exact List.getLast?_concat

theorem append_slash_inj : front ++ "/" = front' ++ "/" ↔ front = front' := by
  rw [← String.toList_inj, String.toList_append, String.toList_append, List.append_cancel_right_eq,
    String.toList_inj]

theorem append_slash_eq_slash : front ++ "/" = "/" ↔ front = "" :=
  @append_slash_inj front ""

/-- A path is the slash alone, or ends with a slash behind something else, or does not end with
one. -/
theorem path_cases (path : String) :
    path = "/" ∨ (∃ front, front ≠ "" ∧ path = front ++ "/") ∨
      path.toList.getLast? ≠ some '/' := by
  by_cases hlast : path.toList.getLast? = some '/'
  · obtain ⟨front, hpath⟩ := List.getLast?_eq_some_iff.1 hlast
    have hpath : path = String.ofList front ++ "/" := by
      rw [← String.toList_inj, hpath, String.toList_append, String.toList_ofList]
      rfl
    by_cases hfront : String.ofList front = ""
    · exact .inl (by rw [hpath, hfront]; rfl)
    · exact .inr (.inl ⟨_, hfront, hpath⟩)
  · exact .inr (.inr hlast)

theorem takes_iff : Takes path ↔ ¬ ∃ front, front ≠ "" ∧ path = front ++ "/" := by
  constructor
  · rintro h ⟨front, hfront, rfl⟩
    rcases h with hslash | hlast
    · exact hfront (append_slash_eq_slash.1 hslash)
    · exact hlast (getLast?_append_slash front)
  · intro h
    rcases path_cases path with hslash | hbehind | hlast
    · exact .inl hslash
    · exact absurd hbehind h
    · exact .inr hlast

theorem apiPath_append_slash (h : front ≠ "") : apiPath (front ++ "/") = front := by
  have hfront : front.toList.reverse ≠ [] := by simpa using h
  obtain ⟨c, rest, hrest⟩ := List.exists_cons_of_ne_nil hfront
  have hpath : (front ++ "/").toList.reverse = '/' :: c :: rest := by
    rw [String.toList_append, List.reverse_append, hrest]
    rfl
  unfold apiPath
  simp only [hpath]
  rw [← hrest, List.reverse_reverse, String.ofList_toList]

theorem apiPath_of_getLast? (h : path.toList.getLast? ≠ some '/') : apiPath path = path := by
  unfold apiPath
  split
  · next hpath =>
    rw [List.getLast?_eq_head?_reverse, hpath] at h
    exact absurd rfl h
  · rfl

/-- Only one slash is left out. -/
theorem takes_apiPath_iff (path : String) :
    Takes (apiPath path) ↔ ¬ ∃ front, front ≠ "" ∧ path = front ++ "//" := by
  have hslashes : ∀ front, front ++ "//" = front ++ "/" ++ "/" := fun front ↦ by
    rw [String.append_assoc]
    rfl
  simp only [hslashes]
  rcases path_cases path with rfl | ⟨front, hfront, rfl⟩ | hlast
  · refine iff_of_true (.inl rfl) ?_
    rintro ⟨front, -, h⟩
    have hnil := append_slash_eq_slash.1 h.symm
    exact absurd (getLast?_append_slash front) (by simp [hnil])
  · rw [apiPath_append_slash hfront, takes_iff]
    simp only [append_slash_inj]
  · rw [apiPath_of_getLast? hlast]
    refine iff_of_true (.inr hlast) ?_
    rintro ⟨front, -, rfl⟩
    exact hlast (getLast?_append_slash _)

end Paths

/-! ## Requests -/

/-- The requests for pages of a path, the first one and those that tokens ask for. -/
def pageRequests (path : String) (tokens : List String) : List Request :=
  .getParametersByPath path none :: tokens.map fun token ↦ .getParametersByPath path (some token)

theorem map_pageCalls (c : Connection) (path : String) (tokens : List String) :
    ((pageCalls path tokens).map fun call ↦ (c, Request.ofCall call)) =
      (pageRequests (apiPath path) tokens).map fun request ↦ (c, request) := by
  simp [pageCalls, pageRequests, Request.ofCall]

/-- What the run adds to the requests that were sent are the requests of its calls. -/
def Sends {α : Type} (c : Connection) (x : Run (List (Connection × Request)) α) : Prop :=
  ∀ sent, (x sent).store = sent ++ (callsOf (x sent).events).map fun call ↦ (c, .ofCall call)

namespace Sends

open Resolver

variable {α β : Type} {c : Connection} {reader : Reader}
  {reply : List (Connection × Request) → Option Reply}

theorem pure (a : α) : Sends c (Pure.pure a) := fun sent ↦ (List.append_nil sent).symm

theorem fail (e : Error) : Sends c (Run.fail e : Run _ α) := fun sent ↦ (List.append_nil sent).symm

theorem log (record : Record) : Sends c (Run.log record) := fun sent ↦ (List.append_nil sent).symm

theorem askList (path : String) (token : Option String) :
    Sends c (Run.askList (c.store reader (.recorded reply)) path token) := fun _ ↦ rfl

theorem bind {x : Run (List (Connection × Request)) α}
    {f : α → Run (List (Connection × Request)) β} (hx : Sends c x) (hf : ∀ a, Sends c (f a)) :
    Sends c (x >>= f) := by
  intro sent
  cases h : (x sent).result with
  | ok a =>
    rw [Run.bind_of_ok h, hf a, hx sent, callsOf_append, List.map_append, List.append_assoc]
  | error e => rw [Run.bind_of_error h, hx sent]

theorem fetchFrom (path : String) (found : List Parameter) (seen : List String)
    (token : Option String) (fuel : Nat) :
    Sends c (Resolver.fetchFrom (c.store reader (.recorded reply)) path found seen token fuel) := by
  induction fuel generalizing found seen token with
  | zero => exact .pure none
  | succ fuel ih =>
    refine (askList path token).bind fun answer ↦ ?_
    cases answer with
    | error e => exact .pure _
    | ok page =>
      cases hnext : page.nextToken with
      | none =>
        simp only [hnext]
        exact .pure _
      | some next =>
        simp only [hnext]
        split
        · exact .pure _
        · exact ih _ _ _

theorem firstListing (fuel : Nat) (paths : List String) :
    Sends c (Resolver.firstListing (c.store reader (.recorded reply)) fuel paths) := by
  induction paths with
  | nil => exact .pure _
  | cons path rest ih =>
    refine (fetchFrom path [] [] none fuel).bind fun answer ↦ ?_
    match answer with
    | none => exact .pure none
    | some (.ok (p :: ps)) => exact .pure _
    | some (.ok []) | some (.error (.notFound _)) => exact (log _).bind fun _ ↦ ih
    | some (.error (.unavailable _)) | some (.error (.other _)) => exact .fail _

theorem listParameters {r : Resolver (List (Connection × Request))}
    (hr : r.store = some (c.store reader (.recorded reply))) (pages : Nat) (path : Option String) :
    Sends c (r.listParameters pages path) := by
  rcases r.listParameters_cases pages path with
    h | ⟨key, h⟩ | ⟨-, name, h⟩ | ⟨store, paths, hstore, -, h⟩ <;> rw [h]
  · exact .pure _
  · exact .fail _
  · exact .fail _
  · obtain rfl := Option.some.inj (hr.symm.trans hstore)
    exact firstListing pages paths

end Sends

open Resolver

/-- What a listing over the parameter service sends. The full names for the path are tried in order,
from the first on; for each the first page is asked for and then those that tokens ask for, all
under the path that the name becomes, and with the whole tree and decrypted values. Whatever the
replies are, nothing else is sent. The service takes the path unless the name ends with two slashes
and has something in front of them. -/
theorem listParameters_sends_paths {options : Options} {c : Connection} {reader : Reader}
    {reply : List (Connection × Request) → Option Reply}
    {r : Resolver (List (Connection × Request))}
    (h : withStore options (c.store reader (.recorded reply)) = .ok r) (pages : Nat)
    (path : Option String) (sent : List (Connection × Request)) :
    let names := (Inquiry.listing path).names (options.rootPaths.map Options.rooted)
    (∃ asked : List (String × List String), asked.map Prod.fst <+: names ∧
      (r.listParameters pages path sent).store = sent ++ asked.flatMap fun listed ↦
        (pageRequests (apiPath listed.1) listed.2).map fun request ↦ (c, request)) ∧
    (∀ name ∈ names, Takes (apiPath name) ↔ ¬ ∃ front, front ≠ "" ∧ name = front ++ "//") ∧
    ∀ sentPath token, [("Path", .string sentPath), ("Recursive", .bool true),
      ("WithDecryption", .bool true)] <+: (Request.getParametersByPath sentPath token).members := by
  intro names
  obtain ⟨-, hroots⟩ := MadeFrom.roots (.inr (.inl ⟨_, h⟩))
  refine ⟨?_, fun name _ ↦ takes_apiPath_iff name, fun _ _ ↦ List.prefix_append _ _⟩
  have hputs := puts_listParameters r pages path sent
  rw [hroots] at hputs
  rw [Sends.listParameters (store_of_new h) pages path sent]
  generalize callsOf (r.listParameters pages path sent).events = calls at hputs
  cases hputs with
  | @listing _ asked hasked =>
    refine ⟨asked, hasked, ?_⟩
    rw [List.map_flatMap]
    simp only [map_pageCalls]

/-- The second page of the first root is asked for under the same path. -/
theorem listParameters_sends_paths_two_roots :
    let c : Connection := ⟨"us-west-2", none, none⟩
    let options : Options := { rootPaths := ["/a", "/b/"] }
    let reply := fun sent : List (Connection × Request) ↦
      if sent.length = 1 then some ⟨200, [], "\x7b\"NextToken\": \"2\"\x7d"⟩
      else some ⟨200, [], ""⟩
    let store := c.store .json (.recorded reply)
    let r : Resolver (List (Connection × Request)) :=
      ⟨{ options with rootPaths := ["/a/", "/b/"] }, some store⟩
    let out := r.listParameters 2 none []
    withStore options store = .ok r ∧
      out.store = [(c, .getParametersByPath "/a" none), (c, .getParametersByPath "/a" (some "2")),
        (c, .getParametersByPath "/b" none)] ∧
      ∃ asked : List (String × List String), asked.map Prod.fst <+: ["/a/", "/b/"] ∧
        out.store = asked.flatMap fun listed ↦
          (pageRequests (apiPath listed.1) listed.2).map fun request ↦ (c, request) := by
  intro c options reply store r out
  have hr : withStore options store = .ok r := rfl
  obtain ⟨hsent, -⟩ := listParameters_sends_paths hr 2 none []
  exact ⟨hr, by decide +kernel, hsent⟩

/-- Behind a root that ends with two slashes the service is sent a path that it does not take. -/
theorem listParameters_sends_slash :
    let c : Connection := ⟨"us-west-2", none, none⟩
    let options : Options := { rootPaths := ["/a//"] }
    let store := c.store .json (.recorded fun _ ↦ some ⟨200, [], ""⟩)
    let r : Resolver (List (Connection × Request)) := ⟨options, some store⟩
    withStore options store = .ok r ∧
      (r.listParameters 1 none []).store = [(c, .getParametersByPath "/a/" none)] ∧
      ¬ Takes "/a/" := by
  intro c options store r
  exact ⟨rfl, by decide +kernel, fun h ↦ h.elim (by decide) (· rfl)⟩

end ConfigResolver.Ssm
