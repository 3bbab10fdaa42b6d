import ConfigResolver.Proofs.Run
import ConfigResolver.Resolver.Document

/-!
# The place of an error

A node can be resolved as a part of a document or as a document of its own. Where it is matters for
the place that an error names and for nothing else (`walk_bare`).
-/

namespace ConfigResolver

namespace Error

/-- The error without its place in the document. -/
def bare (e : Error) : Error := { e with path := none }

@[simp] theorem bare_orPath (e : Error) (path : String) : (e.orPath path).bare = e.bare := by
  unfold orPath
  split <;> rfl

end Error

theorem Run.mapError_bare_orPath {σ α : Type} (path : String) (x : Run σ α) :
    mapError Error.bare (mapError (·.orPath path) x) = mapError Error.bare x := by
  funext s
  simp only [mapError_apply]
  cases (x s).result with
  | ok a => rfl
  | error e =>
    change Outcome.mk (.error (e.orPath path).bare) _ _ = _
    rw [Error.bare_orPath]
    rfl

namespace Resolver

variable {σ : Type} {r : Resolver σ} {env : Environment}

open Run

mutual

/-- At two places a node is resolved in the same way, but for the place of an error. -/
theorem walk_bare (path path' : String) : (v : Value) →
    mapError Error.bare (r.walk env path v) = mapError Error.bare (r.walk env path' v)
  | .string s => by
    rw [walk, walk, mapError_bare_orPath, mapError_bare_orPath]
  | .sequence items => by
    rw [walk, walk, mapError_map, mapError_map, walkItems_bare path path' 0 0 items]
  | .mapping entries => by
    rw [walk, walk, mapError_map, mapError_map, walkEntries_bare path path' [] entries]
  | .null | .bool _ | .integer _ | .float _ => by
    simp only [walk]

theorem walkItems_bare (path path' : String) (index index' : Nat) : (items : List Value) →
    mapError Error.bare (r.walkItems env path index items) =
      mapError Error.bare (r.walkItems env path' index' items)
  | [] => by
    rw [walkItems, walkItems]
  | item :: rest => by
    simp only [walkItems, mapError_bind]
    rw [walk_bare (itemPath path index) (itemPath path' index') item,
      walkItems_bare path path' (index + 1) (index' + 1) rest]

theorem walkEntries_bare (path path' : String) (built : List (String × Value)) :
    (entries : List (String × Value)) →
      mapError Error.bare (r.walkEntries env path built entries) =
        mapError Error.bare (r.walkEntries env path' built entries)
  | [] => by
    rw [walkEntries, walkEntries]
  | (key, value) :: rest => by
    simp only [walkEntries, mapError_bind]
    rw [walk_bare (entryPath path key) (entryPath path' key) value]
    simp only [fun built ↦ walkEntries_bare path path' built rest]

end

/-- So what a node comes to does not depend on its place. -/
theorem walk_eq_ok_iff (path path' : String) (v : Value) {w : Value} {st : σ} :
    (r.walk env path v st).result = .ok w ↔ (r.walk env path' v st).result = .ok w := by
  have hbare : (mapError Error.bare (r.walk env path v) st).result =
      (mapError Error.bare (r.walk env path' v) st).result := by
    rw [walk_bare path path' v]
  simp only [mapError_apply] at hbare
  cases hr : (r.walk env path v st).result with
  | ok a =>
    cases hr' : (r.walk env path' v st).result with
    | ok b =>
      rw [hr, hr'] at hbare
      rw [Except.ok.inj hbare]
    | error e =>
      rw [hr, hr'] at hbare
      cases hbare
  | error e =>
    cases hr' : (r.walk env path' v st).result with
    | ok b =>
      rw [hr, hr'] at hbare
      cases hbare
    | error e' => exact ⟨nofun, nofun⟩

end Resolver

end ConfigResolver
