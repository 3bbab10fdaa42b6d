import ConfigResolver.Json.Read
import ConfigResolver.Ssm.Answer

/-!
# Reading replies in JSON

The service answers in JSON: a successful answer is an object with typed members, and members that
are not known are passed over. The code of a refusal stands in a header, or else in a member. Names
of headers are the same in any letter case.
-/

namespace ConfigResolver.Ssm

/-! ## Objects -/

/-- The members of an object. If a name occurs twice, the last member counts. -/
abbrev Members := List (Node × Node)

namespace Members

/-- The members of the object that a text holds; an empty text holds none. -/
def ofText? (text : String) : Option Members :=
  if text.isEmpty then some []
  else
    match (Json.read text.toList).tree? with
    | some (.mapping _ entries) => some entries
    | _ => none

/-- Whether a member has a name. -/
def isNamed (name : String) : Node × Node → Bool
  | (.string s, _) => s == name
  | _ => false

/-- The member of a name. One that is null is absent. -/
def get? (members : Members) (name : String) : Option Node :=
  match (members.filter (isNamed name)).getLast? with
  | some (_, .null) | none => none
  | some (_, node) => some node

/-- The text of a member, if it is a text. -/
def text? (members : Members) (name : String) : Option String :=
  match members.get? name with
  | some (.string s) => some s
  | _ => none

/-- Whether a member is a text or absent. -/
def isText (members : Members) (name : String) : Bool :=
  match members.get? name with
  | none | some (.string _) => true
  | _ => false

/-- Whether a member is a number or absent. -/
def isNumber (members : Members) (name : String) : Bool :=
  match members.get? name with
  | none | some (.int _) | some (.uint _) | some (.float _) => true
  | _ => false

end Members

/-! ## Refusals -/

/-- The value of a header. -/
def Reply.header? (reply : Reply) (name : String) : Option String :=
  (reply.headers.find? fun (other, _) ↦ other.toList.map Char.toLower = name.toList).map Prod.snd

/-- The header with the code of a refusal. -/
def codeHeader : String := "x-amzn-errortype"

/-- A code without the name space in front of it and the address behind it. -/
def bareCode (code : String) : String :=
  let front := code.toList.takeWhile (· != ':')
  match front.dropWhile (· != '#') with
  | _ :: name => String.ofList name
  | [] => String.ofList front

/-- The code of a refusal. -/
def errorCode? (reply : Reply) : Option String := do
  let members ← Members.ofText? reply.body
  return bareCode (← ((reply.header? codeHeader).or (members.text? "__type")).or
    (members.text? "code"))

/-- The refusal that a reply is. -/
def refusal (reply : Reply) : Refusal :=
  ⟨errorCode? reply, s!"the service refused with status {reply.status}"⟩

/-- The refusal of a reply that has no meaning. -/
def malformed : Refusal := ⟨none, "the answer of the service has no meaning"⟩

/-! ## Answers -/

/-- The members of a parameter that are texts. -/
def itemTexts : List String :=
  ["Name", "Type", "Value", "Selector", "SourceResult", "ARN", "DataType"]

/-- The members of a parameter that are numbers. -/
def itemNumbers : List String := ["Version", "LastModifiedDate"]

/-- The parameter that a node describes. -/
def Item.ofNode? : Node → Option Item
  | .mapping _ entries =>
    let members : Members := entries
    if itemTexts.all members.isText && itemNumbers.all members.isNumber then
      some ⟨members.text? "Name", members.text? "Value"⟩
    else none
  | _ => none

/-- The parameter that the members of an answer describe. -/
def itemOf (members : Members) : Except Refusal (Option Item) :=
  match members.get? "Parameter" with
  | none => .ok none
  | some node =>
    match Item.ofNode? node with
    | none => .error malformed
    | some item => .ok (some item)

/-- The items that a node lists. Nulls are passed over. -/
def itemsOf? : Option Node → Option (List Item)
  | none => some []
  | some (.sequence _ nodes) => (nodes.filter fun node ↦ !(node matches .null)).mapM Item.ofNode?
  | some _ => none

/-- The page that the members of an answer describe. -/
def listingOf (members : Members) : Except Refusal Listing :=
  match itemsOf? (members.get? "Parameters") with
  | none => .error malformed
  | some items =>
    if members.isText "NextToken" then .ok ⟨items, members.text? "NextToken"⟩
    else .error malformed

/-- What a reply holds, where `read` reads the members of a successful answer. -/
def readReply {α : Type} (read : Members → Except Refusal α) (reply : Reply) : Except Refusal α :=
  if reply.isSuccess then
    match Members.ofText? reply.body with
    | none => .error malformed
    | some members => read members
  else .error (refusal reply)

/-- The reading of replies in JSON. -/
def Reader.json : Reader where
  parameter := readReply itemOf
  listing := readReply listingOf

end ConfigResolver.Ssm
