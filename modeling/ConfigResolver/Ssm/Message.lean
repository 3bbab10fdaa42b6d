import ConfigResolver.Json.Write
import ConfigResolver.Store.Basic

/-!
# Requests to the parameter service

The service is asked in JSON: for one parameter by its name, or for a page of the parameters under
a path. Every request asks for decrypted values, and every listing for the whole tree below its
path. A path is sent without the slash at its end.
-/

namespace ConfigResolver.Ssm

/-- A request to the service. -/
inductive Request where
  /-- The value of a parameter. -/
  | getParameter (name : String)
  /-- The page of a listing that a token asks for, or the first one. -/
  | getParametersByPath (path : String) (token : Option String)
deriving DecidableEq, Repr

/-- A path without the slash at its end, unless it is the slash alone. -/
def apiPath (path : String) : String :=
  match path.toList.reverse with
  | '/' :: c :: rest => String.ofList (c :: rest).reverse
  | _ => path

namespace Request

/-- The request that a call of the store becomes. -/
def ofCall : Call → Request
  | .get name => .getParameter name
  | .list path token => .getParametersByPath (apiPath path) token

/-- The name of the operation. -/
def target : Request → String
  | getParameter _ => "GetParameter"
  | getParametersByPath .. => "GetParametersByPath"

/-- The members of the request. -/
def members : Request → List (String × Value)
  | getParameter name => [("Name", .string name), ("WithDecryption", .bool true)]
  | getParametersByPath path token =>
    [("Path", .string path), ("Recursive", .bool true), ("WithDecryption", .bool true)] ++
      (token.map fun t ↦ ("NextToken", Value.string t)).toList

/-- The text of the request. -/
def body (r : Request) : String := Json.writeCompact (.mapping r.members)

end Request

/-- What the service answers. -/
structure Reply where
  /-- The status of the answer. -/
  status : Nat
  /-- The names and values in front of the text. -/
  headers : List (String × String)
  /-- The text of the answer. -/
  body : String
deriving DecidableEq, Repr

/-- Whether a status reports a success. -/
def Reply.isSuccess (r : Reply) : Bool := 200 ≤ r.status && r.status < 300

end ConfigResolver.Ssm
