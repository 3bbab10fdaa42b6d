import ConfigResolver.Resolver.Basic

/-!
# Listing parameters

A listing is read page by page. A token that was given before would lead around in a circle, so it
is refused; a store that never runs out of new tokens has listings without end, so a listing says
how many pages it is willing to read and answers `none` if they were not enough.
-/

namespace ConfigResolver.Resolver

variable {σ : Type}

/-- The failure of a listing whose tokens go around in a circle. -/
def repeatedToken (token path : String) : StoreError :=
  .other s!"pagination token {token} repeated while listing {path}"

/-- Reads the pages of a path from the one that `token` asks for, behind the parameters read
before and after the tokens given before. -/
def fetchFrom (store : Store σ) (path : String) (found : List Parameter) (seen : List String)
    (token : Option String) : Nat → Run σ (Option (Except StoreError (List Parameter)))
  | 0 => pure none
  | fuel + 1 => do
    match ← Run.askList store path token with
    | .error e => pure (some (.error e))
    | .ok page =>
      let found := found ++ page.parameters
      match page.nextToken with
      | none => pure (some (.ok found))
      | some next =>
        if next ∈ seen then pure (some (.error (repeatedToken next path)))
        else fetchFrom store path found (next :: seen) (some next) fuel

/-- All parameters under a path. -/
def fetchAll (store : Store σ) (fuel : Nat) (path : String) :
    Run σ (Option (Except StoreError (List Parameter))) :=
  fetchFrom store path [] [] none fuel

/-- The first listing that is not empty among those of some paths. -/
def firstListing (store : Store σ) (fuel : Nat) : List String → Run σ (Option (List Parameter))
  | [] => pure (some [])
  | path :: rest => do
    match ← fetchAll store fuel path with
    | none => pure none
    | some (.ok (p :: ps)) => pure (some (p :: ps))
    | some (.ok []) | some (.error (.notFound _)) => do
      Run.log (.nothingUnder path)
      firstListing store fuel rest
    | some (.error e) => Run.fail (storeFailure path e)

/-- The paths to list: the root paths, or the names to try for a path. -/
def listingPaths (r : Resolver σ) : Option String → Except Error (List String)
  | some path => r.qualify path
  | none =>
    if r.options.rootPaths.isEmpty then .error (.keyNotQualified "")
    else .ok r.options.rootPaths

/-- The parameters under a path, or under the root paths. The first path that has any wins. -/
def listParameters (r : Resolver σ) (fuel : Nat) (path : Option String) :
    Run σ (Option (List Parameter)) :=
  if r.options.skipRemote then pure (some [])
  else do
    let paths ← Run.ofExcept (r.listingPaths path)
    let store ← Run.ofExcept (r.requireStore paths)
    firstListing store fuel paths

end ConfigResolver.Resolver
