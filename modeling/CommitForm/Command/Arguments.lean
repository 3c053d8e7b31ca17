/-
# Arguments of the command line

| command | operand | switches |
| --- | --- | --- |
| `compile` | a form | `--values`, `--set`, `--keep-empty-lines`, `--reduce-empty-lines` |
| `eval` | an expression | `--set`, `--explain` |
| `fields` | a form | `--values`, `--set`, `--all`, `--options` |
| `check` | a form | |

The switch `--log-level` may stand before the command as well as behind it, where it counts.  A
switch takes its value from behind an equals sign or from the next argument, which must not look
like a switch; `-s` is short for `--set`, and its value may follow at once.  Only `--set` may be
repeated.  Behind `--` every argument is an operand.
-/

import CommitForm.Settings
import CommitForm.Text.Between

namespace CommitForm
namespace Command

/-! ## Requests -/

/-- Where the values of fields come from: a file, if one is named, and assignments on top of it. -/
structure GivenValues where
  file : Option String
  assignments : List String
deriving DecidableEq, Repr

/-- What the program is asked to do, with all that the arguments say about it. -/
inductive Request where
  | compile (form : String) (values : GivenValues) (reduce : Option Bool)
  | eval (expression : String) (assignments : List String) (explain : Bool)
  | fields (form : String) (values : GivenValues) (all options : Bool)
  | check (form : String)
deriving DecidableEq, Repr

/-- A request and the level of the log that is asked for, which may stand in front of the command or
behind it. -/
structure Call where
  level : Option LogLevel
  request : Request
deriving DecidableEq, Repr

/-- What arguments ask for in the stead of a request.  `misuse` is for arguments that cannot be
understood. -/
inductive Instead where
  | help
  | version
  | misuse
deriving DecidableEq, Repr

/-! ## Switches -/

/-- Whether a switch has a value, and whether it may be repeated; a flag has none and may not. -/
inductive Arity where
  | flag
  | single
  | repeated
deriving DecidableEq, Repr

/-- A switch: its name, its letter if it has one, and which values it accepts. -/
structure Switch where
  name : String
  letter : Option Char
  arity : Arity
  accepts : String → Bool

/-- A switch without a value and without a letter. -/
def Switch.flag (name : String) : Switch := ⟨name, none, .flag, fun _ => true⟩

/-- Whether a text may be the path of a file: any text but the empty one. -/
def isPath (text : String) : Bool := text ≠ ""

/-- The switch for the level of the log, whose value has to be the name of a level. -/
def levelSwitch : Switch := ⟨"log-level", none, .single, fun text => (LogLevel.ofText text).toBool⟩

/-- The switch for the file of values. -/
def valuesSwitch : Switch := ⟨"values", none, .single, isPath⟩

/-- The switch for an assignment, which may be repeated.  What is wrong with an assignment is found
later. -/
def setSwitch : Switch := ⟨"set", some 's', .repeated, fun _ => true⟩

/-- What may be given: switches, whether the version may be asked for, and which operand, if any. -/
structure Grammar where
  switches : List Switch
  hasVersion : Bool
  operand : Option (String → Bool)

/-- What has been given: switches with their values, and operands, each in the order of the
arguments. -/
structure Given where
  /-- The names of the switches and their values, empty for flags. -/
  switches : List (String × String)
  operands : List String
deriving DecidableEq, Repr

namespace Given

/-- No switches and no operands, as before the first argument. -/
def nothing : Given := ⟨[], []⟩

/-- Whether a switch has been given. -/
def has (g : Given) (name : String) : Bool := g.switches.any (·.1 = name)

/-- The values of a switch in the order in which they have been given. -/
def values (g : Given) (name : String) : List String :=
  (g.switches.filter (·.1 = name)).map (·.2)

/-- The value of a switch that is not repeated, if it has been given. -/
def value? (g : Given) (name : String) : Option String := (g.values name).head?

/-- Adds a switch, unless it is there already and may not be repeated, or does not accept the
value. -/
def addSwitch (g : Given) (s : Switch) (value : String) : Except Instead Given :=
  if (g.has s.name && s.arity ≠ .repeated) || !s.accepts value then .error .misuse
  else .ok { g with switches := g.switches ++ [(s.name, value)] }

/-- Adds an operand, of which a command takes one at most. -/
def addOperand (g : Given) (grammar : Grammar) (text : String) : Except Instead Given :=
  match grammar.operand, g.operands with
  | some accepts, [] => if accepts text then .ok { g with operands := [text] } else .error .misuse
  | _, _ => .error .misuse

/-- Adds operands one after the other, up to the first that is not accepted. -/
def addOperands (g : Given) (grammar : Grammar) (texts : List String) : Except Instead Given :=
  texts.foldlM (fun g text => g.addOperand grammar text) g

end Given

/-! ## Reading arguments -/

/-- An argument by its looks, before it is known which switches there are. -/
inductive Word where
  | long (name : String) (value : Option String)
  | short (letter : Char) (rest : List Char)
  | separator
  | plain (text : String)
deriving DecidableEq, Repr

/-- The looks of an argument.  A lone hyphen is a plain text, two of them end the switches. -/
def Word.ofText (text : String) : Word :=
  match text.toList with
  | ['-', '-'] => .separator
  | '-' :: '-' :: cs =>
    match cs.span (· ≠ '=') with
    | (name, []) => .long (String.ofList name) none
    | (name, _ :: value) => .long (String.ofList name) (String.ofList value)
  | '-' :: c :: cs => .short c cs
  | _ => .plain text

/-- The value that stands behind the letter of a switch, with or without a sign of equality in
between. -/
def attached? : List Char → Option String
  | [] => none
  | '=' :: value => String.ofList value
  | value => String.ofList value

/-- Reads arguments up to the name of a command, or all if there are no commands.  The command and
the arguments behind it are answered too. -/
def readWords (grammar : Grammar) (commands : List String) :
    Given → List String → Except Instead (Given × Option (String × List String))
  | given, [] => .ok (given, none)
  | given, text :: texts =>
    let switch (s : Switch) (value : Option String) :
        Except Instead (Given × Option (String × List String)) :=
      match s.arity, value with
      | .flag, some _ => .error .misuse
      | .flag, none =>
        match given.addSwitch s "" with
        | .ok given => readWords grammar commands given texts
        | .error i => .error i
      | _, some v =>
        match given.addSwitch s v with
        | .ok given => readWords grammar commands given texts
        | .error i => .error i
      | _, none =>
        match texts with
        | [] => .error .misuse
        | next :: texts =>
          match Word.ofText next with
          | .plain v =>
            match given.addSwitch s v with
            | .ok given => readWords grammar commands given texts
            | .error i => .error i
          | _ => .error .misuse
    match Word.ofText text with
    | .separator => (given.addOperands grammar texts).map fun given => (given, none)
    | .long name value =>
      match grammar.switches.find? (·.name = name) with
      | some s => switch s value
      | none =>
        if value.isSome then .error .misuse
        else if name = "help" then .error .help
        else if name = "version" ∧ grammar.hasVersion then .error .version
        else .error .misuse
    | .short letter rest =>
      match grammar.switches.find? (·.letter = some letter) with
      | some s => switch s (attached? rest)
      | none =>
        if letter = 'h' then .error .help
        else if letter = 'V' ∧ grammar.hasVersion then .error .version
        else .error .misuse
    | .plain text =>
      if commands.contains text then .ok (given, some (text, texts))
      else
        match given.addOperand grammar text with
        | .ok given => readWords grammar commands given texts
        | .error i => .error i

/-! ## Commands -/

/-- The grammar of a command: its switches, and what it takes for an operand. -/
def grammarOf? : String → Option Grammar
  | "compile" =>
    some ⟨[levelSwitch, valuesSwitch, setSwitch, .flag "keep-empty-lines",
      .flag "reduce-empty-lines"], false, some isPath⟩
  | "eval" => some ⟨[levelSwitch, setSwitch, .flag "explain"], false, some fun _ => true⟩
  | "fields" =>
    some ⟨[levelSwitch, valuesSwitch, setSwitch, .flag "all", .flag "options"], false, some isPath⟩
  | "check" => some ⟨[levelSwitch], false, some isPath⟩
  | _ => none

/-- The commands that have a name of their own, `help` included. -/
def commands : List String := ["compile", "eval", "fields", "check", "help"]

/-- The values of fields that are given: the file of values and the assignments. -/
def Given.givenValues (g : Given) : GivenValues := ⟨g.value? "values", g.values "set"⟩

/-- Whether empty lines are to be reduced, if that is said; both at once must not be said. -/
def Given.reduce (g : Given) : Except Instead (Option Bool) :=
  match g.has "keep-empty-lines", g.has "reduce-empty-lines" with
  | true, true => .error .misuse
  | true, false => .ok (some false)
  | false, true => .ok (some true)
  | false, false => .ok none

/-- The request of a command with an operand, made from the switches that belong to the command. -/
def Given.request (g : Given) (command operand : String) : Except Instead Request :=
  match command with
  | "compile" => g.reduce.map (.compile operand g.givenValues)
  | "eval" => .ok (.eval operand (g.values "set") (g.has "explain"))
  | "fields" => .ok (.fields operand g.givenValues (g.has "all") (g.has "options"))
  | "check" => .ok (.check operand)
  | _ => .error .misuse

/-- The level that is asked for, if the switch has been given. -/
def Given.level? (g : Given) : Option LogLevel :=
  (g.value? levelSwitch.name).bind fun text => (LogLevel.ofText text).toOption

/-- Reads the arguments of the help command: nothing, or one of the commands to be told about. -/
def readHelp : List String → Instead
  | [] => .help
  | [command] => if commands.contains command then .help else .misuse
  | _ => .misuse

/-- Reads the arguments of the program: switches, a command, and what the command takes.  A level
behind the command wins over one in front of it. -/
def Call.ofArguments (arguments : List String) : Except Instead Call := do
  let (outer, rest) ← readWords ⟨[levelSwitch], true, none⟩ commands .nothing arguments
  match rest with
  | none => .error .misuse
  | some (command, rest) =>
    match grammarOf? command with
    | none => .error (readHelp rest)
    | some grammar =>
      let (inner, _) ← readWords grammar [] .nothing rest
      match inner.operands with
      | [operand] => return ⟨inner.level?.or outer.level?, ← inner.request command operand⟩
      | _ => .error .misuse

end Command
end CommitForm
