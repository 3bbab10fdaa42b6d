import ConfigResolver.Proofs.Value.Binding

/-!
# Positions in a document

A position is the way from the root of a document to a node in it: keys of mappings and indices of
sequences. `spots` lists the texts of a node with their positions, in the order of the document, and
`at?_of_mem_spots` says that they are where the list says.

`writePosition` writes a position for a reader: `database.password`, `hosts[1]`. The root has no
name. A key may be empty, so a position that starts with an empty key is one of those that are not
easily read, but no two steps are written as one: each key behind the first step has its dot.
-/

namespace ConfigResolver.Value

/-- One step from a node to a node right below it. -/
inductive Step where
  /-- To what a mapping binds under a key. -/
  | key (key : String)
  /-- To an item of a sequence. -/
  | index (i : Nat)
deriving DecidableEq, Repr

/-- The node that some steps lead to. -/
def at? (v : Value) : List Step → Option Value
  | [] => some v
  | .key key :: rest => (v.get? key).bind fun w ↦ w.at? rest
  | .index i :: rest => (v.items?.bind (·[i]?)).bind fun w ↦ w.at? rest

/-- A text of a document and its position. -/
structure Spot where
  /-- The steps that lead to the text. -/
  position : List Step
  /-- The text. -/
  text : String
deriving DecidableEq, Repr

/-- The same text seen from one step further up. -/
def Spot.under (step : Step) (spot : Spot) : Spot := { spot with position := step :: spot.position }

mutual

/-- The texts of a node, in the order of the document. -/
def spots : Value → List Spot
  | .string s => [⟨[], s⟩]
  | .sequence items => spotsOfItems 0 items
  | .mapping entries => spotsOfEntries entries
  | _ => []

/-- The texts of the items of a sequence, from an index on. -/
def spotsOfItems (index : Nat) : List Value → List Spot
  | [] => []
  | item :: rest => (spots item).map (.under (.index index)) ++ spotsOfItems (index + 1) rest

/-- The texts of the entries of a mapping. -/
def spotsOfEntries : List (String × Value) → List Spot
  | [] => []
  | (key, value) :: rest => (spots value).map (.under (.key key)) ++ spotsOfEntries rest

end

/-- The texts of the part of a document that one top-level key stands for, and of the whole document
where there is no such key. -/
def spotsUnder (doc : Value) : Option String → List Spot
  | none => doc.spots
  | some key =>
    match doc.get? key with
    | some node => node.spots.map (.under (.key key))
    | none => doc.spots

theorem spotsUnder_of_absent {doc : Value} {key : Option String}
    (h : ∀ k ∈ key, doc.get? k = none) : doc.spotsUnder key = doc.spots := by
  cases key with
  | none => rfl
  | some k => rw [spotsUnder, h k rfl]

/-! ## Where the texts are -/

mutual

/-- A text is where its position leads to. -/
theorem at?_of_mem_spots : (v : Value) → v.Distinct →
    ∀ spot ∈ v.spots, v.at? spot.position = some (.string spot.text)
  | .string s, _ => by
    rw [spots]
    exact List.forall_mem_singleton.2 rfl
  | .sequence items, h => by
    rw [spots]
    intro spot hspot
    obtain ⟨i, item, rest, hposition, hitem, hrest⟩ :=
      exists_of_mem_spotsOfItems 0 items h spot hspot
    rw [hposition, Nat.zero_add, at?, items?, Option.bind_some, hitem, Option.bind_some]
    exact hrest
  | .mapping entries, h => by
    rw [spots]
    intro spot hspot
    obtain ⟨key, value, rest, hposition, hentry, hrest⟩ :=
      exists_of_mem_spotsOfEntries entries h.2 spot hspot
    have hlookup : (Value.mapping entries).get? key = some value :=
      (lookup_eq_some_iff_mem h.1).2 hentry
    rw [hposition, at?, hlookup, Option.bind_some]
    exact hrest
  | .null, _ | .bool _, _ | .integer _, _ | .float _, _ => by
    simp [spots]

theorem exists_of_mem_spotsOfItems (index : Nat) : (items : List Value) → DistinctItems items →
    ∀ spot ∈ spotsOfItems index items, ∃ i item rest, spot.position = .index (index + i) :: rest ∧
      items[i]? = some item ∧ item.at? rest = some (.string spot.text)
  | [], _ => by
    rw [spotsOfItems]
    exact nofun
  | item :: rest, h => by
    rw [spotsOfItems, List.forall_mem_append]
    constructor
    · intro spot hspot
      obtain ⟨own, hown, rfl⟩ := List.mem_map.1 hspot
      exact ⟨0, item, own.position, rfl, rfl, at?_of_mem_spots item h.1 own hown⟩
    · intro spot hspot
      obtain ⟨i, other, position, hposition, hother, hat⟩ :=
        exists_of_mem_spotsOfItems (index + 1) rest h.2 spot hspot
      refine ⟨i + 1, other, position, ?_, hother, hat⟩
      rw [hposition, Nat.add_assoc, Nat.add_comm 1 i]

theorem exists_of_mem_spotsOfEntries : (entries : List (String × Value)) → DistinctEntries entries →
    ∀ spot ∈ spotsOfEntries entries, ∃ key value rest, spot.position = .key key :: rest ∧
      (key, value) ∈ entries ∧ value.at? rest = some (.string spot.text)
  | [], _ => by
    rw [spotsOfEntries]
    exact nofun
  | (key, value) :: rest, h => by
    rw [spotsOfEntries, List.forall_mem_append]
    constructor
    · intro spot hspot
      obtain ⟨own, hown, rfl⟩ := List.mem_map.1 hspot
      exact ⟨key, value, own.position, rfl, List.mem_cons_self, at?_of_mem_spots value h.1 own hown⟩
    · intro spot hspot
      obtain ⟨other, node, position, hposition, hentry, hat⟩ :=
        exists_of_mem_spotsOfEntries rest h.2 spot hspot
      exact ⟨other, node, position, hposition, List.mem_cons_of_mem _ hentry, hat⟩

end

/-! ## How positions are written -/

/-- A step behind another one. -/
def writeStep : Step → String
  | .key key => "." ++ key
  | .index i => "[" ++ toString i ++ "]"

/-- Steps behind another one. -/
def writeSteps : List Step → String
  | [] => ""
  | step :: rest => writeStep step ++ writeSteps rest

/-- A position from the root of a document: the first key has no dot. -/
def writePosition : List Step → Option String
  | [] => none
  | .key key :: rest => some (key ++ writeSteps rest)
  | .index i :: rest => some (writeSteps (.index i :: rest))

/-- A position without the empty keys that it starts with. -/
def named : List Step → List Step
  | .key key :: rest => if key.isEmpty then named rest else .key key :: rest
  | position => position

/-- A position reads differently without the empty keys that it starts with: it starts with one, and
no index follows that one. -/
def Misread : List Step → Prop
  | [.key key] => key = ""
  | .key key :: .key _ :: _ => key = ""
  | _ => False

theorem named_key_of_ne {key : String} (h : key ≠ "") (rest : List Step) :
    named (.key key :: rest) = .key key :: rest := by
  rw [named, if_neg (mt String.isEmpty_iff.1 h)]

@[simp] theorem named_key_empty (rest : List Step) : named (.key "" :: rest) = named rest := rfl

/-- Leaving out empty keys makes what is written no longer. -/
theorem length_le_of_writePosition_named {position : List Step} {text : String}
    (h : writePosition (named position) = some text) :
    text.length ≤ (writeSteps position).length := by
  induction position with
  | nil => cases h
  | cons step rest ih =>
    cases step with
    | index i =>
      cases h
      exact Nat.le_refl _
    | key key =>
      by_cases hkey : key = ""
      · subst hkey
        have hrest := ih h
        rw [writeSteps, String.length_append]
        omega
      · rw [named_key_of_ne hkey] at h
        cases h
        simp only [writeSteps, writeStep, String.length_append]
        omega

/-- Behind an empty key, another key is written with a dot, which is lost without the first one. -/
theorem writePosition_named_ne (key : String) (rest : List Step) :
    writePosition (named (.key key :: rest)) ≠ writePosition (.key "" :: .key key :: rest) := by
  intro h
  have hdot : ".".length = 1 := rfl
  by_cases hkey : key = ""
  · subst hkey
    rw [named_key_empty] at h
    have hlength := length_le_of_writePosition_named h
    simp only [writeSteps, writeStep, String.length_append] at hlength
    omega
  · rw [named_key_of_ne hkey] at h
    have hlength := congrArg String.length (Option.some.inj h)
    simp only [writeSteps, writeStep, String.length_append] at hlength
    omega

theorem writePosition_named_eq_iff (position : List Step) :
    writePosition (named position) = writePosition position ↔ ¬ Misread position := by
  match position with
  | [] => exact ⟨fun _ ↦ id, fun _ ↦ rfl⟩
  | .index i :: rest => exact ⟨fun _ ↦ id, fun _ ↦ rfl⟩
  | .key key :: rest =>
    by_cases hkey : key = ""
    · subst hkey
      match rest with
      | [] => exact ⟨nofun, fun h ↦ absurd rfl h⟩
      | .index i :: rest =>
        refine ⟨fun _ ↦ id, fun _ ↦ ?_⟩
        exact congrArg some (String.empty_append).symm
      | .key key :: rest =>
        exact ⟨fun h ↦ absurd h (writePosition_named_ne key rest), fun h ↦ absurd rfl h⟩
    · rw [named_key_of_ne hkey]
      refine ⟨fun _ hmisread ↦ hkey ?_, fun _ ↦ rfl⟩
      match rest with
      | [] => exact hmisread
      | .key _ :: _ => exact hmisread

end ConfigResolver.Value
