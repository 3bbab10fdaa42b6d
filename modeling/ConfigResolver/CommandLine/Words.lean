import ConfigResolver.CommandLine.Switch

/-!
# Reading the words of a command line

A word that starts with a hyphen is a switch, or several switches of one letter; its value is
joined to it or is the next word. All other words are operands, and so are all words behind `--`.
In front of a command the first operand is the name of the command.
-/

namespace ConfigResolver.CommandLine

/-- Why a command line is refused. -/
inductive Misuse where
  /-- There is no such switch. -/
  | unknownSwitch (word : String)
  /-- A switch lacks its value. -/
  | missingValue (s : Switch)
  /-- A switch has a value that it does not take. -/
  | needlessValue (s : Switch)
  /-- A switch does not accept its value. -/
  | invalidValue (s : Switch) (value : String)
  /-- A switch is given more than once. -/
  | repeated (s : Switch)
  /-- There are more operands than the command takes, or one that it does not accept. -/
  | invalidOperand (word : String)
  /-- There is no such command. -/
  | unknownCommand (word : String)
  /-- The command lacks its operand. -/
  | missingOperand
  /-- There is no command. -/
  | missingCommand
deriving DecidableEq, Repr

/-- Why a command line leads to no command. -/
inductive Stop where
  /-- It asks for help. -/
  | help
  /-- It asks for the version. -/
  | version
  /-- It is refused. -/
  | misuse (reason : Misuse)
deriving DecidableEq, Repr

/-- The switches and operands that were read. -/
structure Given where
  /-- The switches in order. Those without a value have an empty one. -/
  switches : List (Switch × String)
  /-- The operands in order. -/
  operands : List String
deriving DecidableEq, Repr

namespace Given

/-- Nothing was read. -/
def nothing : Given := ⟨[], []⟩

/-- Whether a switch was given. -/
def has (g : Given) (s : Switch) : Bool := g.switches.any (·.1 == s)

/-- The values of a switch. -/
def values (g : Given) (s : Switch) : List String :=
  (g.switches.filter (·.1 == s)).map Prod.snd

/-- The value of a switch. -/
def value? (g : Given) (s : Switch) : Option String := (g.values s).head?

/-- One more switch with its value. -/
def addSwitch (g : Given) (scope : Scope) (s : Switch) (value : String) : Except Stop Given :=
  if !scope.acceptsValue s value then .error (.misuse (.invalidValue s value))
  else if g.has s && !s.isRepeatable then .error (.misuse (.repeated s))
  else .ok { g with switches := g.switches ++ [(s, value)] }

/-- One more switch without a value. -/
def useSwitch (g : Given) (scope : Scope) (s : Switch) : Except Stop Given :=
  match s with
  | .help => .error .help
  | .version => .error .version
  | _ => g.addSwitch scope s ""

/-- One more operand. No command takes more than one. -/
def addOperand (g : Given) (scope : Scope) (operand : String) : Except Stop Given :=
  if scope = .top then .error (.misuse (.unknownCommand operand))
  else if !g.operands.isEmpty || !scope.acceptsOperand operand then
    .error (.misuse (.invalidOperand operand))
  else .ok { g with operands := g.operands ++ [operand] }

/-- Switches in front of a command and behind it. A common switch that is given in both places
counts in the second. -/
def join (front back : Given) : Given :=
  { back with switches := front.switches.filter (fun (s, _) ↦ !back.has s) ++ back.switches }

end Given

/-- Whether a word is a switch, or ends the switches. -/
def isSwitchWord (word : String) : Bool :=
  match word.toList with
  | '-' :: _ :: _ => true
  | _ => false

/-- Reads a switch behind two hyphens. Answers the switch that waits for its value in the next
word. -/
def readLong (scope : Scope) (g : Given) (word : List Char) :
    Except Stop (Given × Option Switch) :=
  let name := word.takeWhile (· != '=')
  match scope.switches.find? (·.long.toList = name), word.dropWhile (· != '=') with
  | none, _ => .error (.misuse (.unknownSwitch ("--" ++ String.ofList name)))
  | some s, [] => if s.takesValue then .ok (g, some s) else (·, none) <$> g.useSwitch scope s
  | some s, _ :: value =>
    if s.takesValue then (·, none) <$> g.addSwitch scope s (String.ofList value)
    else .error (.misuse (.needlessValue s))

/-- Reads switches of one letter behind one hyphen. Answers the switch that waits for its value in
the next word. -/
def readShort (scope : Scope) (g : Given) : List Char → Except Stop (Given × Option Switch)
  | [] => .ok (g, none)
  | c :: rest =>
    match scope.switches.find? (·.short? = some c) with
    | none => .error (.misuse (.unknownSwitch (String.ofList ['-', c])))
    | some s =>
      if s.takesValue then
        match rest with
        | [] => .ok (g, some s)
        | '=' :: value => (·, none) <$> g.addSwitch scope s (String.ofList value)
        | value => (·, none) <$> g.addSwitch scope s (String.ofList value)
      else do
        let g ← g.useSwitch scope s
        readShort scope g rest

/-- Reads a word that is a switch. Answers the switch that waits for its value in the next
word. -/
def readSwitch (scope : Scope) (g : Given) (word : String) :
    Except Stop (Given × Option Switch) :=
  match word.toList with
  | '-' :: '-' :: rest => readLong scope g rest
  | rest => readShort scope g (rest.drop 1)

/-- What the words of a scope come to. -/
inductive Reading where
  /-- All words were read. -/
  | finished (g : Given)
  /-- A command starts. -/
  | command (g : Given) (scope : Scope) (rest : List String)
  /-- Help with a command is asked for. -/
  | help (rest : List String)

/-- Reads the words of a scope. -/
def readWords (scope : Scope) (g : Given) : List String → Except Stop Reading
  | [] => .ok (.finished g)
  | "--" :: rest => .finished <$> rest.foldlM (·.addOperand scope ·) g
  | word :: rest =>
    if isSwitchWord word then
      match readSwitch scope g word with
      | .error stop => .error stop
      | .ok (g, none) => readWords scope g rest
      | .ok (g, some s) =>
        match rest with
        | [] => .error (.misuse (.missingValue s))
        | value :: rest =>
          if isSwitchWord value then .error (.misuse (.missingValue s))
          else do
            let g ← g.addSwitch scope s value
            readWords scope g rest
    else if scope = .top ∧ word = Scope.helpName then .ok (.help rest)
    else
      match scope, Scope.ofName? word with
      | .top, some command => .ok (.command g command rest)
      | _, _ => do
        let g ← g.addOperand scope word
        readWords scope g rest

end ConfigResolver.CommandLine
