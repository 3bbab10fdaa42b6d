import ConfigResolver.Proofs.Resolver.Lookup
import ConfigResolver.Proofs.Resolver.Roots
import ConfigResolver.Resolver.Listing

/-!
# Inquiries and the requests that put them

A resolver is asked about keys: the key of a parameter, the path of a listing, and the keys of the
tokens that come up while texts are resolved. Each such `Inquiry` has full names, which are the key
itself or the roots with the key behind them, and it is put to a store by requests for these in
their order, from the first on (`Inquiry.Puts`). Behind absolute roots all of these requests are for
full names (`Inquiry.PutsAll.isAbsolute`).
-/

namespace ConfigResolver

/-- The name or path that a store is asked for. -/
def Call.name : Call → String
  | get name => name
  | list path _ => path

/-- Something that the store is to be asked about. -/
inductive Inquiry where
  /-- The parameter with a key. -/
  | parameter (key : String)
  /-- The parameters under a path, or under the roots. -/
  | listing (path : Option String)
deriving DecidableEq, Repr

/-- The requests for pages of a path, the first one and those that tokens ask for. -/
def pageCalls (path : String) (tokens : List String) : List Call :=
  .list path none :: tokens.map fun token ↦ .list path (some token)

namespace Inquiry

/-- The full names that an inquiry is about, in the order of the roots. -/
def names (roots : List String) : Inquiry → List String
  | parameter key => Resolver.candidates roots key
  | listing (some path) => Resolver.candidates roots path
  | listing none => roots

/-- `Puts roots inquiry calls`: with these requests the inquiry is put to a store. They are about
its first names, each in its turn. -/
inductive Puts (roots : List String) : Inquiry → List Call → Prop
  /-- The first names are asked for. -/
  | parameter {key : String} {asked : List String} (h : asked <+: (parameter key).names roots) :
      Puts roots (parameter key) (asked.map .get)
  /-- The first names are listed, each with some of its pages. -/
  | listing {path : Option String} {asked : List (String × List String)}
      (h : asked.map Prod.fst <+: (listing path).names roots) :
      Puts roots (listing path) (asked.flatMap fun pages ↦ pageCalls pages.1 pages.2)

/-- `PutsAll roots inquiries calls`: the inquiries are put to a store one after the other. -/
inductive PutsAll (roots : List String) : List Inquiry → List Call → Prop
  /-- There is none. -/
  | nil : PutsAll roots [] []
  /-- The first one is, then the others are. -/
  | cons {inquiry : Inquiry} {inquiries : List Inquiry} {calls later : List Call}
      (h : Puts roots inquiry calls) (hrest : PutsAll roots inquiries later) :
      PutsAll roots (inquiry :: inquiries) (calls ++ later)

variable {roots : List String} {inquiries more : List Inquiry} {calls later : List Call}

theorem PutsAll.append (h : PutsAll roots inquiries calls) (hmore : PutsAll roots more later) :
    PutsAll roots (inquiries ++ more) (calls ++ later) := by
  induction h with
  | nil => exact hmore
  | cons h _ ih =>
    rw [List.append_assoc]
    exact .cons h ih

theorem PutsAll.singleton {inquiry : Inquiry} (h : Puts roots inquiry calls) :
    PutsAll roots [inquiry] calls := by
  simpa using PutsAll.cons h .nil

/-! ## Full names -/

section Absolute

variable (hroots : ∀ root ∈ roots, IsAbsolute root)

include hroots

theorem isAbsolute_of_mem_candidates {key name : String}
    (h : name ∈ Resolver.candidates roots key) : IsAbsolute name := by
  unfold Resolver.candidates at h
  split at h
  · next hkey =>
    obtain rfl := List.mem_singleton.1 h
    exact hkey
  · obtain ⟨root, hroot, rfl⟩ := List.mem_map.1 h
    exact (hroots root hroot).append key

theorem isAbsolute_of_mem_names {inquiry : Inquiry} {name : String}
    (h : name ∈ inquiry.names roots) : IsAbsolute name := by
  match inquiry with
  | parameter _ | listing (some _) => exact isAbsolute_of_mem_candidates hroots h
  | listing none => exact hroots name h

/-- Behind absolute roots every request is for a full name. -/
theorem Puts.isAbsolute {inquiry : Inquiry} (h : Puts roots inquiry calls) :
    ∀ call ∈ calls, IsAbsolute call.name := by
  intro call hcall
  cases h with
  | parameter h =>
    obtain ⟨name, hname, rfl⟩ := List.mem_map.1 hcall
    exact isAbsolute_of_mem_names hroots (h.subset hname)
  | listing h =>
    obtain ⟨pages, hpages, hcall⟩ := List.mem_flatMap.1 hcall
    have hname : call.name = pages.1 := by
      rcases List.mem_cons.1 hcall with rfl | hcall
      · rfl
      · obtain ⟨token, -, rfl⟩ := List.mem_map.1 hcall
        rfl
    rw [hname]
    exact isAbsolute_of_mem_names hroots (h.subset (List.mem_map_of_mem hpages))

theorem PutsAll.isAbsolute (h : PutsAll roots inquiries calls) :
    ∀ call ∈ calls, IsAbsolute call.name := by
  induction h with
  | nil => exact List.forall_mem_nil _
  | cons h _ ih => exact List.forall_mem_append.2 ⟨h.isAbsolute hroots, ih⟩

end Absolute

end Inquiry

/-- The inquiry that a token is: one for a parameter, or none for a variable. -/
def Token.inquiries (t : Token) : List Inquiry :=
  match t.source with
  | .environment => []
  | .parameterStore => [.parameter (String.ofList t.key)]

namespace Resolver

open Inquiry

variable {σ : Type}

/-- The paths of a listing are the full names of the inquiry. -/
theorem listingPaths_eq (r : Resolver σ) (path : Option String) :
    r.listingPaths path = if (listing path).names r.options.rootPaths = [] then
      .error (.keyNotQualified (path.getD "")) else
      .ok ((listing path).names r.options.rootPaths) := by
  cases path with
  | some path => exact qualify_eq r path
  | none => by_cases h : r.options.rootPaths = [] <;> simp [listingPaths, names, h]

end Resolver

end ConfigResolver
