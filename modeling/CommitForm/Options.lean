/-
# Options from providers

A field of the kind `dynamicEnum` takes its options from a provider, which answers after some time
or fails.  A provider that takes longer than a limit is given up; one that answers just in time is
not.

All fields are loaded at once.  The answers arrive in the order in which the providers finish, each
with the index of its request, and a provider that breaks down delivers none; the responses stand in
the order of the fields all the same.

| provider | response |
| --- | --- |
| unknown | an error that names it |
| answers in time | its options |
| fails in time | its message, or a general one if that is empty |
| takes too long | an error with the limit |
| breaks down in time | a general error |

The last line is about the fields that are loaded at once.  A single load has no response to give
when its provider breaks down: the breakdown is that of the call itself.
-/

import CommitForm.Form.Field
import CommitForm.Text.Quoted

namespace CommitForm
namespace Options

/-- What a provider sees: the path of the enclosing repository, if there is one, and the values of
the form so far. -/
structure Context where
  /-- The enclosing repository. -/
  repository : Option String
  values : Values
deriving DecidableEq

/-- How a provider ends: with options, with an error of its own, or with a breakdown, after which it
says nothing any more. -/
inductive Ending where
  | options (options : List EnumOption)
  | failed (message : String)
  | broken
deriving DecidableEq, Repr

/-- How a provider ends and after how many milliseconds.  Both are settled by what it is asked, so
that asking alike comes to the same. -/
structure Run where
  delay : Nat
  ending : Ending
deriving DecidableEq, Repr

/-- A provider, as far as those who ask it can tell: what it does with each context. -/
abbrev Provider := Context → Run

/-- The providers by their names.  Putting one in under a name that is taken replaces the one
before. -/
abbrev Registry := NameMap Provider

/-- The registry as it is shown: the names of its providers in increasing order, and nothing of what
they do. -/
def Registry.outline (r : Registry) : String :=
  "ProviderRegistry \x7b providers: [" ++
    String.intercalate ", " ((NameMap.names r).map Text.quote) ++ "] \x7d"

/-- A field that asks for options, and the provider it names.  The context is the same for all
fields of a form. -/
structure Request where
  field : String
  provider : String
deriving DecidableEq, Repr

/-- The options of a field, or why there are none.  It names the field, since fields may share a
provider. -/
structure Response where
  field : String
  outcome : Except String (List EnumOption)

namespace Response

/-- Whether there are options; a list without any is a success too. -/
def isSuccess (r : Response) : Bool := r.outcome.toBool

/-- The message of a failure that has none of its own. -/
def generalMessage : String := "failed to load options"

/-- The response of a provider that has broken down, as it stands among the responses of many
fields. -/
def broken (field : String) : Response := ⟨field, .error generalMessage⟩

end Response

/-- The message about a provider that nobody knows, which says what to look after. -/
def notFound (provider : String) : String :=
  "provider \"" ++ provider ++
    "\" not found; make sure the extension that supplies it is installed and active"

/-- The message about a provider that took longer than the limit, which is named in milliseconds. -/
def timedOut (limit : Nat) : String := "loading options timed out (" ++ toString limit ++ "ms)"

/-- The response to a request, given the provider found for it; none if the provider breaks down. -/
def answer? (provider : Option Provider) (context : Context) (limit : Nat) (q : Request) :
    Option Response :=
  match provider with
  | none => some ⟨q.field, .error (notFound q.provider)⟩
  | some provider =>
    let run := provider context
    if limit < run.delay then some ⟨q.field, .error (timedOut limit)⟩
    else
      match run.ending with
      | .options options => some ⟨q.field, .ok options⟩
      | .failed message =>
        some ⟨q.field, .error (if message = "" then Response.generalMessage else message)⟩
      | .broken => none

/-- The response to a request, whose provider is looked up in the registry as it is now; none if the
provider breaks down.  For a single load this is all that can be said: the breakdown goes on to
whoever asked. -/
def Registry.respond? (r : Registry) (context : Context) (limit : Nat) (q : Request) :
    Option Response := answer? (r.get? q.provider) context limit q

/-- The response to a single request, which is `Registry.respond?` wherever that is one.  A single
load whose provider breaks down does not come back; the general failure stands in its place here, as
it does among the responses of many fields. -/
def Registry.load (r : Registry) (context : Context) (limit : Nat) (q : Request) : Response :=
  (r.respond? context limit q).getD (.broken q.field)

/-- The requests of fields, in the order of the fields: one for each that takes its options from a
provider and names one. -/
def requests (fields : List Field) : List Request :=
  fields.filterMap fun f =>
    if f.kind = .dynamicEnum then f.provider.map fun p => ⟨f.name, p⟩ else none

/-- Puts an answer into the place of its request.  A breakdown delivers no answer, and leaves all
places as they are. -/
def settle (slots : List (Option Response)) : Option (Nat × Response) → List (Option Response)
  | some (i, response) => slots.set i (some response)
  | none => slots

/-- Puts the answers into the places of their requests, in the order they arrive. -/
def gather (qs : List Request) (arrivals : List (Option (Nat × Response))) : List Response :=
  let slots := arrivals.foldl settle (qs.map fun _ => none)
  (slots.zip qs).map fun (slot, q) => slot.getD (.broken q.field)

/-- The answers to requests as they arrive when the requests finish in the given order. -/
def Registry.arrivals (r : Registry) (context : Context) (limit : Nat) (qs : List Request)
    (order : List Nat) : List (Option (Nat × Response)) :=
  order.filterMap fun i => qs[i]?.map fun q => (r.respond? context limit q).map fun a => (i, a)

/-- When the response to a request is there: at once if nobody knows the provider, and at the limit
at the latest. -/
def Registry.finish (r : Registry) (context : Context) (limit : Nat) (q : Request) : Nat :=
  match r.get? q.provider with
  | none => 0
  | some provider => min limit (provider context).delay

/-- The order in which requests finish.  Those that finish at the same time do so in the order of
the fields. -/
def Registry.order (r : Registry) (context : Context) (limit : Nat) (qs : List Request) :
    List Nat :=
  let finish (i : Nat) : Nat := (qs[i]?.map (r.finish context limit)).getD 0
  (List.range qs.length).mergeSort fun i j => finish i ≤ finish j

/-- Loads the options of all fields that have a provider to ask, one response for each in the order
of the fields. -/
def Registry.loadAll (r : Registry) (fields : List Field) (context : Context) (limit : Nat) :
    List Response :=
  let qs := requests fields
  gather qs (r.arrivals context limit qs (r.order context limit qs))

end Options
end CommitForm
