/-
# Settings

How much is logged, how long a provider of options may take, and whether empty lines are reduced
whatever a form says.  Settings are read from variables; one that is unset or blank leaves the
default.

| variable | value |
| --- | --- |
| `COMMITSMITH_LOG_LEVEL` | the name of a level, in any case |
| `COMMITSMITH_OPTIONS_TIMEOUT_MS` | a number of milliseconds below `2 ^ 64` |
| `COMMITSMITH_REDUCE_EMPTY_LINES` | `true`, `1`, `yes`, `on` or `false`, `0`, `no`, `off` |
-/

import CommitForm.Text.Blank

namespace CommitForm

/-- How much is logged, the most talkative level first. -/
inductive LogLevel where
  | trace | debug | info | warn | error
deriving DecidableEq, Repr

/-- What can be wrong with a setting, each time with the text that cannot be used. -/
inductive SettingsError where
  | unknownLevel (text : String)
  | badTimeout (text : String)
  | badReduce (text : String)
deriving DecidableEq, Repr

/-- The variable that sets the level of the log. -/
def levelVariable : String := "COMMITSMITH_LOG_LEVEL"

/-- The variable that sets how long a provider of options may take. -/
def timeoutVariable : String := "COMMITSMITH_OPTIONS_TIMEOUT_MS"

/-- The variable that sets whether empty lines are reduced. -/
def reduceVariable : String := "COMMITSMITH_REDUCE_EMPTY_LINES"

namespace SettingsError

/-- The message about a variable with an unusable value: its name, the value, and what was expected
instead. -/
def invalid (name text expected : String) : String :=
  "invalid " ++ name ++ " value '" ++ text ++ "', expected " ++ expected

/-- What is wrong with a setting, in words that name the text and what would have been accepted. -/
def message : SettingsError → String
  | unknownLevel text =>
    "unknown log level '" ++ text ++ "', expected one of: trace, debug, info, warn, error"
  | badTimeout text => invalid timeoutVariable text "a number of milliseconds"
  | badReduce text => invalid reduceVariable text "true or false"

end SettingsError

namespace LogLevel

/-- The name of a level, as it is written in variables and arguments. -/
def name : LogLevel → String
  | trace => "trace"
  | debug => "debug"
  | info => "info"
  | warn => "warn"
  | error => "error"

/-- Reads the name of a level, in any case and with blanks around it. -/
def ofText (text : String) : Except SettingsError LogLevel :=
  match Text.lowerForAscii (Text.trim text) with
  | "trace" => .ok trace
  | "debug" => .ok debug
  | "info" => .ok info
  | "warn" => .ok warn
  | "warning" => .ok warn
  | "error" => .ok error
  | _ => .error (.unknownLevel text)

end LogLevel

/-- The settings of a run, from variables and arguments together. -/
structure Settings where
  logLevel : LogLevel
  /-- The milliseconds that a provider of options gets. -/
  timeout : Nat
  /-- Whether empty lines are reduced; if unset, the form decides. -/
  reduce : Option Bool
deriving DecidableEq, Repr

namespace Settings

/-- The milliseconds that a provider gets unless set otherwise: half a minute. -/
def defaultTimeout : Nat := 30000

/-- The settings of a run where nothing is set.  Whether empty lines are reduced is then up to the
form. -/
def default : Settings := ⟨.warn, defaultTimeout, none⟩

/-- Reads a number of milliseconds below `2 ^ 64`, which may have a plus sign.  Blanks have been
taken off before. -/
def readTimeout? (text : String) : Option Nat :=
  let digits :=
    match text.toList with
    | '+' :: cs => cs
    | cs => cs
  if digits ≠ [] ∧ digits.all Char.isDigit then
    let n := digits.foldl (fun n c => 10 * n + (c.toNat - 48)) 0
    if n < Nat.pow 2 64 then some n else none
  else none

/-- Reads a word for yes or no, in any case and with blanks around it. -/
def readSwitch? (text : String) : Option Bool :=
  match Text.lowerForAscii (Text.trim text) with
  | "true" | "1" | "yes" | "on" => some true
  | "false" | "0" | "no" | "off" => some false
  | _ => none

/-- Reads the settings from variables, up to the first unusable one.  A variable of blanks counts as
unset. -/
def ofVariables (lookUp : String → Option String) : Except SettingsError Settings := do
  let read (name : String) : Option String := (lookUp name).filter (!Text.isAllBlank ·)
  let level ←
    match read levelVariable with
    | none => .ok default.logLevel
    | some text => LogLevel.ofText text
  let timeout ←
    match read timeoutVariable with
    | none => .ok default.timeout
    | some text =>
      match readTimeout? (Text.trim text) with
      | some ms => .ok ms
      | none => .error (.badTimeout text)
  let reduce ←
    match read reduceVariable with
    | none => .ok none
    | some text =>
      match readSwitch? text with
      | some b => .ok (some b)
      | none => .error (.badReduce text)
  .ok ⟨level, timeout, reduce⟩

/-- The settings with what has been asked for in their stead.  What has not been asked for stays as
it was set. -/
def override (s : Settings) (level : Option LogLevel) (reduce : Option Bool) : Settings :=
  ⟨level.getD s.logLevel, s.timeout, reduce.or s.reduce⟩

end Settings

end CommitForm
