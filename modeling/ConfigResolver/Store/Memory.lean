import ConfigResolver.Store.Basic

/-!
# A parameter store in memory

Parameters are kept in the order of their names, compared character by character. A listing is
recursive: it shows every parameter whose name starts with the path and a slash. Pages are cut by
position, and the token of a page is the position where it starts, in decimal. Positions are words
of 64 bits. A page whose end would be no such word is an overflow: it is no failure that the store
answers with, but ends all.
-/

namespace ConfigResolver

/-- Parameters in memory, with failures to play and a size of pages. -/
structure MemoryStore where
  /-- The parameters, in the order of their names. -/
  parameters : List Parameter
  /-- The names and paths whose requests fail, the latest first. -/
  failures : List (String × StoreError)
  /-- How many parameters a page holds at most. -/
  pageSize : Option UInt64
deriving DecidableEq, Repr

namespace MemoryStore

/-- The store without parameters. -/
def empty : MemoryStore := ⟨[], [], none⟩

/-- Sorted parameters with one more; a parameter of the same name is replaced. -/
def insertParameter (p : Parameter) : List Parameter → List Parameter
  | [] => [p]
  | q :: rest =>
    if p.name = q.name then p :: rest
    else if p.name < q.name then p :: q :: rest
    else q :: insertParameter p rest

/-- The store with a parameter. -/
def withParameter (m : MemoryStore) (name value : String) : MemoryStore :=
  { m with parameters := insertParameter ⟨name, value⟩ m.parameters }

/-- The store that fails each request for a parameter or a path. -/
def withFailure (m : MemoryStore) (name : String) (e : StoreError) : MemoryStore :=
  { m with failures := (name, e) :: m.failures }

/-- The store with pages of at most `size` parameters; a page holds at least one. -/
def withPageSize (m : MemoryStore) (size : UInt64) : MemoryStore :=
  { m with pageSize := some (max size 1) }

/-- A request fails if a failure is set for its name or path. -/
def check (m : MemoryStore) (name : String) : Except StoreError Unit :=
  match m.failures.lookup name with
  | some e => .error e
  | none => .ok ()

/-- The value of a parameter. -/
def get (m : MemoryStore) (name : String) : Except StoreError String := do
  m.check name
  match m.parameters.find? (·.name = name) with
  | some p => .ok p.value
  | none => .error (.notFound name)

/-- The word that a token writes in decimal: digits, with a plus sign in front or without. -/
def offsetOf? (token : String) : Option UInt64 :=
  let digits := match token.toList with
    | '+' :: rest => rest
    | all => all
  if digits.isEmpty || !digits.all Char.isDigit then none
  else
    let n := digits.foldl (fun n c ↦ 10 * n + (c.toNat - '0'.toNat)) 0
    if n < UInt64.size then some (UInt64.ofNat n) else none

/-- The position where the page of a token starts. -/
def startOf (token : Option String) : Except StoreError UInt64 :=
  match token with
  | none => .ok 0
  | some text =>
    match offsetOf? text with
    | some offset => .ok offset
    | none => .error (.other s!"invalid next token: {text}")

/-- The path with a slash at its end. -/
def folder (path : List Char) : List Char :=
  if path.getLast? = some '/' then path else path ++ ['/']

/-- The parameters under a path, in order. -/
def under (m : MemoryStore) (path : String) : List Parameter :=
  m.parameters.filter fun p ↦ (folder path.toList).isPrefixOf p.name.toList

/-- The start of a page and the size of pages, which add up to no word. -/
structure Overflow where
  /-- The start of the page. -/
  start : UInt64
  /-- The size of pages. -/
  size : UInt64
deriving DecidableEq, Repr

/-- The position where a page ends. -/
def endOf (m : MemoryStore) (count start : UInt64) : Except Overflow UInt64 :=
  match m.pageSize with
  | none => .ok count
  | some size =>
    if start.toNat + size.toNat < UInt64.size then .ok (min (start + size) count)
    else .error ⟨start, size⟩

/-- The page of the parameters under a path that starts at a position. -/
def pageAt (m : MemoryStore) (path : String) (offset : UInt64) : Except Overflow Page := do
  let found := m.under path
  let count := UInt64.ofNat found.length
  let stop ← m.endOf count offset
  let start := min offset stop
  return {
    parameters := (found.take stop.toNat).drop start.toNat
    nextToken := if stop < count then some (toString stop.toNat) else none }

/-- What the request for a page of the parameters under a path comes to. -/
def list (m : MemoryStore) (path : String) (token : Option String) :
    Except Overflow (Except StoreError Page) :=
  match m.check path >>= fun _ ↦ startOf token with
  | .error e => .ok (.error e)
  | .ok offset => (m.pageAt path offset).map .ok

/-- What the request for a page is answered with. After an overflow there is no answer, and a
failure stands in its place. -/
def listed (m : MemoryStore) (path : String) (token : Option String) : Except StoreError Page :=
  match m.list path token with
  | .ok answer => answer
  | .error o => .error (.other s!"{o.start} and {o.size} add up to no position")

/-- The answers of the store. Those who only follow the tokens of its pages never come to an
overflow. -/
def answers (m : MemoryStore) : Answers where
  get := m.get
  list := m.listed

end MemoryStore

end ConfigResolver
