import ConfigResolver.Ssm.Message

/-!
# Answers of the parameter service

A reply holds an answer or a refusal. How it is read is up to a client library, so it is a
parameter here (`Reader`). What the store makes of it is not: a refusal is classified by its code,
and only the codes for a parameter that does not exist mean that there is none.
-/

namespace ConfigResolver.Ssm

/-! ## What replies hold -/

/-- A parameter as the service describes it. -/
structure Item where
  /-- The full name. -/
  name : Option String
  /-- The value. -/
  value : Option String
deriving DecidableEq, Repr

/-- A page of a listing as the service describes it. -/
structure Listing where
  /-- The parameters. -/
  items : List Item
  /-- The token that asks for the next page. -/
  nextToken : Option String
deriving DecidableEq, Repr

/-- Why a reply holds no answer: the service refused, or the reply has no meaning. -/
structure Refusal where
  /-- The code by which the service refused. -/
  code : Option String
  /-- What the user sees. -/
  text : String
deriving DecidableEq, Repr

/-- How replies are read. -/
structure Reader where
  /-- A reply to the request for a parameter. It may describe none. -/
  parameter : Reply → Except Refusal (Option Item)
  /-- A reply to the request for a listing. -/
  listing : Reply → Except Refusal Listing

/-! ## Failures -/

/-- The codes that say that there is no such parameter. -/
def notFoundCodes : List String := ["ParameterNotFound", "ParameterVersionNotFound"]

/-- What the codes start with that say that the caller cannot use the service. -/
def unavailableCodes : List String :=
  ["AccessDenied", "UnrecognizedClient", "ExpiredToken", "InvalidSignature"]

/-- The failure of a refusal with a code. -/
def classify (code : Option String) (text : String) : StoreError :=
  match code with
  | none => .other text
  | some code =>
    if notFoundCodes.contains code then .notFound text
    else if unavailableCodes.any fun start ↦ start.toList.isPrefixOf code.toList then
      .unavailable text
    else .other text

/-- The failure of a request without a reply. -/
def unreachable : StoreError := .unavailable "the service gave no reply"

/-- What the reply to a request comes to. -/
def answer {α : Type} (read : Reply → Except Refusal α) : Option Reply → Except StoreError α
  | none => .error unreachable
  | some reply => (read reply).mapError fun refusal ↦ classify refusal.code refusal.text

/-! ## Successes -/

/-- The value of the parameter that an answer describes. -/
def valueOf (name : String) (item : Option Item) : Except StoreError String :=
  match item.bind Item.value with
  | some value => .ok value
  | none => .error (.notFound name)

/-- The parameter of an item that has a name and a value. -/
def Item.parameter? (item : Item) : Option Parameter := do
  return ⟨← item.name, ← item.value⟩

/-- The page that an answer describes. Items without a name or a value are left out. -/
def pageOf (listing : Listing) : Page :=
  ⟨listing.items.filterMap Item.parameter?, listing.nextToken⟩

end ConfigResolver.Ssm
