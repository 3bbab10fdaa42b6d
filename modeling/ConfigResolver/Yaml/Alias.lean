import ConfigResolver.Yaml.Typing

/-!
# Names and aliases

An alias stands for the node that has its name. Names are numbered while the document is read: a
name gets as its number how many different names there were before, a name that occurs again gets
a new one in the same way, and a number stands for the last node that got it. Aliases are unfolded
in the order of the document, each as often as it is met; unfolding stops where there would be
more than a hundred times as many aliases as the document has parts, and where collections are
nested more than 128 deep.
-/

namespace ConfigResolver.Yaml

/-! ## Numbering -/

/-- A node whose aliases are numbers. A node that has a name has a position. -/
inductive Linked where
  /-- A scalar. -/
  | scalar (position : Option Nat) (mark : Mark) (tag : Option (List Char)) (style : Style)
    (text : List Char)
  /-- A sequence. -/
  | sequence (position : Option Nat) (mark : Mark) (tag : Option (List Char)) (items : List Linked)
  /-- A mapping. -/
  | mapping (position : Option Nat) (mark : Mark) (tag : Option (List Char))
    (entries : List (Linked × Linked))
  /-- A reference to a node by the number of its name. -/
  | alias (number : Nat)
  /-- Where reading stopped. -/
  | broken (fault : Fault)
deriving Inhabited

/-- The names of a document up to some place. -/
structure Names where
  /-- The names with their numbers; each name occurs once. -/
  numbers : List (List Char × Nat)
  /-- The positions of the nodes that got a number, the last ones first. -/
  positions : List (Nat × Nat)
  /-- How many parts the document has up to here: a scalar or an alias is one part, the start of a
  collection is one, and so is its end. -/
  parts : Nat
  /-- Whether nothing that follows is read. -/
  stopped : Bool
deriving Inhabited

namespace Names

/-- The names before the first part of a document. -/
def start : Names := ⟨[], [], 0, false⟩

/-- The names with one more part. -/
def step (ns : Names) : Names := if ns.stopped then ns else { ns with parts := ns.parts + 1 }

/-- The names behind the first part of a node that may have a name, and the position of the node if
it has. -/
def enter (ns : Names) : Option (List Char) → Option Nat × Names
  | none => (none, ns.step)
  | some name =>
    let number := ns.numbers.length
    (some ns.parts,
      { ns with
        numbers := (name, number) :: ns.numbers.filter (·.1 ≠ name)
        positions := (number, ns.parts) :: ns.positions }.step)

end Names

mutual

/-- A node with the aliases in it numbered, and the names behind it. -/
def link (ns : Names) : Tree → Linked × Names
  | .scalar mark ps style text =>
    let (position, ns) := ns.enter ps.anchor
    (.scalar position mark ps.tag style text, ns)
  | .sequence mark ps items =>
    let (position, ns) := ns.enter ps.anchor
    let (items, ns) := linkItems ns items
    (.sequence position mark ps.tag items, ns.step)
  | .mapping mark ps entries =>
    let (position, ns) := ns.enter ps.anchor
    let (entries, ns) := linkEntries ns entries
    (.mapping position mark ps.tag entries, ns.step)
  | .alias mark name =>
    match ns.numbers.lookup name with
    | some n => (.alias n, ns.step)
    | none => (.broken ⟨.unknownAnchor, some mark⟩, { ns with stopped := true })
  | .broken fault => (.broken fault, { ns with stopped := true })

/-- Items with the aliases in them numbered; nothing follows where reading stopped. -/
def linkItems (ns : Names) : List Tree → List Linked × Names
  | [] => ([], ns)
  | item :: rest =>
    let (item, ns) := link ns item
    if ns.stopped then ([item], ns)
    else
      let (rest, ns) := linkItems ns rest
      (item :: rest, ns)

/-- Entries with the aliases in them numbered; nothing follows where reading stopped. -/
def linkEntries (ns : Names) : List (Tree × Tree) → List (Linked × Linked) × Names
  | [] => ([], ns)
  | (key, value) :: rest =>
    let (key, ns) := link ns key
    if ns.stopped then ([(key, key)], ns)
    else
      let (value, ns) := link ns value
      if ns.stopped then ([(key, value)], ns)
      else
        let (rest, ns) := linkEntries ns rest
        ((key, value) :: rest, ns)

end

/-! ## Unfolding -/

/-- A node that has a name, with its position. -/
def named (position : Option Nat) (node : Linked) : List (Nat × Linked) :=
  match position with
  | some p => [(p, node)]
  | none => []

mutual

/-- The nodes in a node that have names, with their positions. -/
def namedNodes : Linked → List (Nat × Linked)
  | .scalar position mark tag style text => named position (.scalar position mark tag style text)
  | .sequence position mark tag items =>
    named position (.sequence position mark tag items) ++ namedItems items
  | .mapping position mark tag entries =>
    named position (.mapping position mark tag entries) ++ namedEntries entries
  | .alias _ | .broken _ => []

/-- The nodes in some items that have names, with their positions. -/
def namedItems : List Linked → List (Nat × Linked)
  | [] => []
  | item :: rest => namedNodes item ++ namedItems rest

/-- The nodes in some entries that have names, with their positions. -/
def namedEntries : List (Linked × Linked) → List (Nat × Linked)
  | [] => []
  | (key, value) :: rest => namedNodes key ++ namedNodes value ++ namedEntries rest

end

/-- How deeply collections may be nested. -/
def maxDepth : Nat := 128

/-- What is known while aliases are unfolded. -/
structure Unfolding where
  /-- The node of each number. -/
  target : Nat → Option Linked
  /-- How many aliases may be unfolded. -/
  limit : Nat

/-- A broken node. -/
def brokenAt (mark : Option Mark) (reason : Reason) : Node := .broken ⟨reason, mark⟩

/-- The node of a scalar. -/
def unfoldScalar (mark : Mark) (tag : Option (List Char)) (style : Style) (text : List Char) :
    Node :=
  if isUnknownTag tag then brokenAt (some mark) .unknownTag
  else
    match scalarNode tag style text with
    | .ok node => node
    | .error expected => brokenAt (some mark) (.badScalar expected)

mutual

/-- A node that is no alias, with the aliases in it unfolded, behind `count` aliases that were.
Collections in it may be nested up to `depth`. -/
def unfoldNode (u : Unfolding) (depth : Nat) (node : Linked) (count : Nat) : Node × Nat :=
  match node with
  | .scalar _ mark tag style text => (unfoldScalar mark tag style text, count)
  | .sequence _ mark tag items =>
    if isUnknownTag tag then (brokenAt (some mark) .unknownTag, count)
    else
      match depth with
      | 0 => (brokenAt (some mark) .tooDeep, count)
      | depth + 1 =>
        let (items, count) := unfoldItems u depth items count
        (.sequence (some mark) items, count)
  | .mapping _ mark tag entries =>
    if isUnknownTag tag then (brokenAt (some mark) .unknownTag, count)
    else
      match depth with
      | 0 => (brokenAt (some mark) .tooDeep, count)
      | depth + 1 =>
        let (entries, count) := unfoldEntries u depth entries count
        (.mapping (some mark) entries, count)
  | .alias _ => (brokenAt none .unknownAnchor, count)
  | .broken fault => (.broken fault, count)
termination_by (depth, 0, 0)

/-- A node with the aliases in it unfolded. -/
def unfold (u : Unfolding) (depth : Nat) (node : Linked) (count : Nat) : Node × Nat :=
  match node with
  | .alias number =>
    if u.limit ≤ count then (brokenAt none .tooManyAliases, count + 1)
    else
      match u.target number with
      | some target => unfoldNode u depth target (count + 1)
      | none => (brokenAt none .unknownAnchor, count + 1)
  | other => unfoldNode u depth other count
termination_by (depth, 1, 0)

/-- Items with the aliases in them unfolded. -/
def unfoldItems (u : Unfolding) (depth : Nat) (items : List Linked) (count : Nat) :
    List Node × Nat :=
  match items with
  | [] => ([], count)
  | item :: rest =>
    let (item, count) := unfold u depth item count
    let (rest, count) := unfoldItems u depth rest count
    (item :: rest, count)
termination_by (depth, 2, items.length)

/-- Entries with the aliases in them unfolded. -/
def unfoldEntries (u : Unfolding) (depth : Nat) (entries : List (Linked × Linked)) (count : Nat) :
    List (Node × Node) × Nat :=
  match entries with
  | [] => ([], count)
  | (key, value) :: rest =>
    let (key, count) := unfold u depth key count
    let (value, count) := unfold u depth value count
    let (rest, count) := unfoldEntries u depth rest count
    ((key, value) :: rest, count)
termination_by (depth, 2, entries.length)

end

/-- A tree with its names and aliases resolved and its scalars typed. -/
def Tree.toNode (t : Tree) : Node :=
  let (linked, names) := link .start t
  let nodes := namedNodes linked
  let u : Unfolding := {
    target := fun number ↦ (names.positions.lookup number).bind fun p ↦ nodes.lookup p
    limit := 100 * names.parts }
  (unfold u maxDepth linked 0).1

end ConfigResolver.Yaml
