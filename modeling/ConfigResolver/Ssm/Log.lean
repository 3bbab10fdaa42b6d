import ConfigResolver.Run
import ConfigResolver.Ssm.Store

/-!
# Log records of the parameter service

What a store that asks the parameter service reports: that a client was made, and each request.
-/

namespace ConfigResolver.Ssm

/-- Something that the store reports. -/
inductive Notice where
  /-- A client was made. -/
  | clientCreated (connection : Connection)
  /-- The store was called. -/
  | called (call : Call)
deriving DecidableEq, Repr

namespace Notice

/-- What the notice says. -/
def text : Notice → String
  | clientCreated c =>
    "Created SSM client (region=" ++ c.region ++ ", endpoint=" ++ Text.quote? c.endpoint ++
      ", profile=" ++ Text.quote? c.profile ++ ")"
  | called (.get name) => "SSM GetParameter " ++ name
  | called (.list path token) =>
    "SSM GetParametersByPath " ++ apiPath path ++ " (token: " ++ Text.quote? token ++ ")"

/-- A notice as one line of a log. -/
def line (n : Notice) : String := Level.debug.name ++ " " ++ n.text

end Notice

/-- The lines of a log that both the run and the store write: the store reports a call before it
answers. -/
def logLine (event : Event) : Option String :=
  match event.call? with
  | some call => some (Notice.called call).line
  | none => event.record?.map Record.line

end ConfigResolver.Ssm
