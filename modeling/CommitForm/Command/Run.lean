/-
# Running commands

`run` answers what a call of the program leaves behind: its output, its notices and how it ends.

| command | output | ends badly when |
| --- | --- | --- |
| `compile` | the text of the form | the form or the values cannot be read |
| `eval` | whether the expression holds | an assignment is wrong |
| `fields` | a line for each field that is shown, and the options | as for `compile` |
| `check` | nothing | the form cannot be read or has problems |
-/

import CommitForm.Command.Arguments
import CommitForm.Command.Assignment
import CommitForm.Command.Notice
import CommitForm.Form.File
import CommitForm.Form.Template
import CommitForm.Options
import CommitForm.Repository

namespace CommitForm
namespace Command

/-- How a run ends: with a code, or with a report of errors, each the cause of the one before. -/
inductive Ending where
  | exit (code : Nat)
  | report (chain : List String)
deriving DecidableEq, Repr

/-- What a run leaves behind: what it prints, its notices, and how it ends. -/
structure Transcript where
  output : String
  notices : List Notice
  ending : Ending
deriving DecidableEq, Repr

/-- A run that ends well, with the code 0. -/
def Transcript.done (output : String) (notices : List Notice) : Transcript :=
  ⟨output, notices, .exit 0⟩

/-- A run that ends with a report before any output; notices may have been given before. -/
def Transcript.failed (notices : List Notice) (chain : List String) : Transcript :=
  ⟨"", notices, .report chain⟩

/-- A text with a line break at its end, which is added only where there is none. -/
def withBreak (text : String) : String :=
  if text.toList.getLast? = some '\n' then text else text ++ "\n"

/-! ## What commands read -/

/-- The warnings about the problems of a form.  A form with problems can be used all the same. -/
def warnings (form : Form) : List Notice :=
  form.problems.map fun p => .warning ("[" ++ p.path ++ "] " ++ p.message)

/-- Reads values from a file, or answers the report about a file that cannot be read or is no such
file. -/
def readValuesFile (here : Spot) (path : String) : Except (List String) Values :=
  match here.read path with
  | .error f => .error ["failed to read values file " ++ path, f.message]
  | .ok text =>
    let wrong (cause : String) : List String :=
      ["values file " ++ path ++ " is not a JSON object of strings", cause]
    match Json.read Values.shape text with
    | .error e => .error (wrong e.message)
    | .ok d =>
      match Values.ofDatum? d with
      | some values => .ok values
      | none => .error (wrong "")

/-- Reads the values of fields: those of a file, and assignments on top, which replace the values of
the names they are about. -/
def GivenValues.load (given : GivenValues) (here : Spot) : Except (List String) Values := do
  let values ←
    match given.file with
    | some path => readValuesFile here path
    | none => .ok .empty
  let groups ← (readAssignments given.assignments).mapError fun e => [e.message]
  return groups.foldl (fun values (name, value) => values.insert name value) values

/-! ## Commands -/

/-- Composes the text of a form.  Arguments decide before variables, and variables before the form,
whether empty lines are reduced. -/
def compile (here : Spot) (settings : Settings) (path : String) (given : GivenValues)
    (reduce : Option Bool) : Transcript :=
  let status := Notice.status "Compiling" path
  match Form.ofFile here path with
  | .error e => .failed [status] [e.display]
  | .ok form =>
    let notices := status :: warnings form
    match given.load here with
    | .error chain => .failed notices chain
    | .ok values =>
      let composer := (Composer.ofForm form).withReduce (reduce.or settings.reduce)
      let text := composer.compose values
      let complaints : List Notice :=
        if Text.isAllBlank text then [.warning "compiled message is empty"] else []
      .done (withBreak text) (notices ++ complaints)

/-- The notices about an expression that cannot be evaluated: what is wrong with it, and how it has
been read if that is not what is wrong. -/
def explanation (source : String) (e : When.ClauseError) : List Notice :=
  .failure e.message ::
    match When.Clause.ofSource source with
    | .ok clause => [.muted ("  parsed as: " ++ clause.expr.outline)]
    | .error _ => []

/-- Evaluates an expression under assignments; one that cannot be evaluated does not hold, and is
explained on demand only. -/
def eval (source : String) (assignments : List String) (explain : Bool) : Transcript :=
  match readAssignments assignments with
  | .error e => .failed [] [e.message]
  | .ok groups =>
    match When.tryHolds source (NameMap.ofList groups) with
    | .ok holds => .done (if holds then "true\n" else "false\n") []
    | .error e => .done "false\n" (if explain then explanation source e else [])

/-- The line of a field: whether it is shown, its name, its kind, and its label or else its name
again. -/
def fieldLine (f : Field) (shown : Bool) : String :=
  (if shown then " " else "-") ++ " " ++ padRight 20 f.name ++ " " ++
    padRight 12 f.kind.name ++ " " ++ (if f.label = "" then f.name else f.label) ++ "\n"

/-- The notice of what a field contributes; there is none for a field that contributes nothing. -/
def contributionNotice (f : Field) (values : Values) : List Notice :=
  let text := f.contribution values
  if text = "" then [] else [.muted ("      = " ++ Text.quote text)]

/-- The provider of branches in a directory: the branches of the repository whose path it finds in
its context. -/
def branchProvider (here : Spot) : Options.Provider := fun context =>
  match context.repository with
  | none => ⟨0, .failed "not inside a git repository"⟩
  | some path =>
    match Repository.branches here path with
    | .ok names => ⟨0, .options (names.map fun name => ⟨name, none, none⟩)⟩
    | .error message => ⟨0, .failed message⟩

/-- The providers of options that a run in a directory knows, of which there is one. -/
def providers (here : Spot) : Options.Registry :=
  NameMap.insert .empty "git.branches" (branchProvider here)

/-- What is shown of a response: a notice and the lines of the options. -/
def responseShown (r : Options.Response) : Notice × String :=
  match r.outcome with
  | .ok options =>
    (.passed (r.field ++ ": " ++ toString options.length ++ " option(s)"),
      String.join (options.map fun o => "    " ++ o.effectiveValue ++ "\n"))
  | .error message => (.warning (r.field ++ ": " ++ message), "")

/-- The options of fields.  Providers see the path of the enclosing repository and the values. -/
def loadOptions (here : Spot) (settings : Settings) (form : Form) (values : Values) :
    List (Notice × String) :=
  let context : Options.Context := ⟨here.repository?.map Spot.path, values⟩
  ((providers here).loadAll form.fields context settings.timeout).map responseShown

/-- Lists the fields that are shown, or all fields, and on demand the options of those that ask a
provider. -/
def fields (here : Spot) (settings : Settings) (path : String) (given : GivenValues)
    (all options : Bool) : Transcript :=
  match Form.ofFile here path with
  | .error e => .failed [] [e.display]
  | .ok form =>
    match given.load here with
    | .error chain => .failed (warnings form) chain
    | .ok values =>
      let listed := form.fields.filter fun f => all || f.gate values
      let lines := String.join (listed.map fun f => fieldLine f (f.gate values))
      let count := toString listed.length ++ " of " ++ toString form.fields.length
      let notices :=
        warnings form ++ .status "Fields" path ::
          listed.flatMap (contributionNotice · values) ++
            [.muted ("  " ++ count ++ " field(s) shown")]
      if options then
        let loaded := loadOptions here settings form values
        .done (lines ++ String.join (loaded.map (·.2)))
          (notices ++ .status "Loading" "dynamic options" :: loaded.map (·.1))
      else .done lines notices

/-- The notices about a form that cannot be read: the error, the lines around it, and what may
help. -/
def unreadable (e : ReadError) : List Notice :=
  .failure ("Parse error: " ++ e.message) ::
    ((if e.context = "" then [] else [.excerpt e.context]) ++
      e.suggestion.toList.map fun s => .hint ("  Suggestion: " ++ s))

/-- The notice of what a form consists of: how many lines, fields, and fields of some kinds. -/
def structureNotice (form : Form) : Notice :=
  let count (p : Field → Bool) : String := toString (form.fields.countP p)
  .passed ("Structure: " ++ toString form.template.toLines.length ++ " template line(s), " ++
    toString form.fields.length ++ " token(s), " ++ count Field.isConditional ++ " conditional, " ++
    count (·.kind = .dynamicEnum) ++ " dynamic")

/-- The notices about a problem, the suggestion behind it if there is one. -/
def problemNotices (p : Problem) : List Notice :=
  .failure ("  - [" ++ p.path ++ "] " ++ p.message) ::
    p.suggestion.toList.map fun s => .hint ("    " ++ s)

/-- The notice of when a field is shown.  There is none for a field that is always shown, nor for an
expression that cannot be read. -/
def conditionNotice (f : Field) : List Notice :=
  match f.matchExpression with
  | some source =>
    if f.isConditional ∧ (When.Clause.ofSource source).toBool then
      [.muted ("    " ++ f.name ++ " shown when " ++ source)]
    else []
  | none => []

/-- Checks a form: whether it is there, whether it can be read, and whether it has problems. -/
def check (here : Spot) (path : String) : Transcript :=
  if here.leadsTo path then
    let status := Notice.status "Checking" path
    match Form.ofFile here path with
    | .error e => ⟨"", status :: unreadable e, .exit 1⟩
    | .ok form =>
      let notices := [status, .passed "Syntax valid", structureNotice form]
      match form.problems with
      | [] =>
        .done "\n" (notices ++ .passed "Semantic validation passed" ::
          form.fields.flatMap conditionNotice ++ [.success "Form is valid"])
      | problems =>
        let count := toString problems.length ++ " validation error(s):"
        ⟨"", notices ++ .failure count :: problems.flatMap problemNotices, .exit 1⟩
  else .failed [] ["Form file not found: " ++ path]

/-- Does what is requested, in a directory and under settings. -/
def Request.run (here : Spot) (settings : Settings) : Request → Transcript
  | compile form values reduce => Command.compile here settings form values reduce
  | eval expression assignments explain => Command.eval expression assignments explain
  | fields form values all options => Command.fields here settings form values all options
  | check form => Command.check here form

/-! ## The program -/

/-- The name and version of the program, as asked for by a switch. -/
def version : String := "commitsmith 0.1.0\n"

/-- How the program is used: its commands, and the switch that all of them share. -/
def usage : String :=
  "Usage: commitsmith [--log-level LEVEL] " ++
    "compile FORM | eval EXPRESSION | fields FORM | check FORM\n"

/-- Runs the program in a directory, with variables and arguments.  Arguments are read before the
variables, so that a misuse is told first. -/
def run (here : Spot) (lookUp : String → Option String) (arguments : List String) : Transcript :=
  match Call.ofArguments arguments with
  | .error .help => .done usage []
  | .error .version => .done version []
  | .error .misuse => ⟨"", [.failure "wrong arguments", .excerpt usage], .exit 2⟩
  | .ok call =>
    match Settings.ofVariables lookUp with
    | .error e => .failed [] [e.message]
    | .ok settings => call.request.run here (settings.override call.level none)

end Command
end CommitForm
