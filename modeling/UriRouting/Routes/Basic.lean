import UriRouting.Log.Setup
import UriRouting.Match.Verdict

/-!
# Route tables

A route table is a list of templates with handlers. A request goes to the first route whose template
it fits below a common base address; the handler is called with the captures as named arguments.

## Main Definitions

- `Handler`: a function of named arguments; `Handler.call` calls it.
- `Route`, and `Route.search?`: the first route that a request fits, and what is reported on the
  way.
- `Route.serve`, and `Route.dispatch?`: which calls are made for a request, and the reply to it.
- `Registration`, and `Route.register?`: a table with one more route.
-/

namespace UriRouting

/-- A function of named arguments. -/
structure Handler where
  name : Text
  /-- The names of its arguments, all of them required; without a list it takes any. -/
  parameters : Option (List Text)
  reply : Table Text → Text

/-- Why a handler cannot be called with some arguments. -/
inductive CallError where
  | unexpected (handler argument : Text)
  | missing (handler : Text) (arguments : List Text)
  deriving DecidableEq, Repr

namespace CallError

/-- Names in an enumeration: the last one follows an `and`, and of three or more each of the others
a comma. -/
def enumeration : List Text → Text
  | [] => []
  | [a] => a
  | [a, b] => a ++ " and ".toList ++ b
  | names => [',', ' '].intercalate names.dropLast ++ ", and ".toList ++ (names.getLast?).getD []

/-- A name between single quotes. -/
def mark (name : Text) : Text := '\'' :: name ++ ['\'']

/-- The wording of an error. -/
def message : CallError → Text
  | .unexpected handler argument =>
    handler ++ "() got an unexpected keyword argument ".toList ++ mark argument
  | .missing handler arguments =>
    handler ++ "() missing ".toList ++ Nat.toDigits 10 arguments.length ++
      " required positional argument".toList ++ (if arguments.length = 1 then [] else ['s']) ++
      ": ".toList ++ enumeration (arguments.map mark)

end CallError

/-- The reply of a handler to named arguments. An argument that it does not take is noticed before
one that is missing. -/
def Handler.call (h : Handler) (arguments : Table Text) : Except CallError Text :=
  match h.parameters with
  | none => .ok (h.reply arguments)
  | some parameters =>
    match arguments.names.find? fun n => !parameters.contains n with
    | some n => .error (.unexpected h.name n)
    | none =>
      match parameters.filter fun p => !arguments.names.contains p with
      | [] => .ok (h.reply arguments)
      | missing => .error (.missing h.name missing)

/-- A call of a handler. -/
structure Call where
  handler : Handler
  arguments : Table Text

/-- A template and what answers the requests that fit it. -/
structure Route where
  template : Template
  handler : Handler

/-- Why a request has no reply. -/
inductive DispatchError where
  | uri (e : UriError)
  | call (e : CallError)
  deriving DecidableEq, Repr

/-- The wording of an error. -/
def DispatchError.message : DispatchError → Text
  | .uri e => e.message
  | .call e => e.message

/-- Computations that call handlers. They can fail, and the calls are noted one after the other. -/
abbrev Calling := ExceptT DispatchError (StateM (List Call))

/-- Calls a handler. The call is noted, whether the handler takes the arguments or not. -/
def Handler.invoke (h : Handler) (arguments : Table Text) : Calling Text := do
  modify (· ++ [⟨h, arguments⟩])
  liftExcept ((h.call arguments).mapError DispatchError.call)

namespace Route

/-- How the search for the route of a request ends. -/
structure Search where
  /-- The first route that the request fits, and the captures. -/
  selected : Option (Route × Table Text)
  /-- What is reported about the routes that were passed over. -/
  findings : List Finding

/-- Tries the routes one after the other, up to the first one that a request fits. -/
def search? (base request : Uri) : List Route → Except UriError Search
  | [] => .ok ⟨none, []⟩
  | r :: rest => do
    let outcome ← r.template.outcome? base request
    let findings := outcome.findings request.render r.template.source
    if outcome.verdict.success then
      return ⟨some (r, outcome.verdict.captures), findings⟩
    else
      let later ← search? base request rest
      return ⟨later.selected, findings ++ later.findings⟩

/-- Calls the handler of a selected route, if there is one. -/
def answer : Option (Route × Table Text) → Calling (Option Text)
  | none => return none
  | some (r, captures) => return some (← r.handler.invoke captures)

/-- Calls the handler of the first route that a request fits, if there is one. -/
def serve (base : Uri) (routes : List Route) (request : Uri) : Calling (Option Text) := do
  let found ← liftExcept ((search? base request routes).mapError DispatchError.uri)
  answer found.selected

/-- The reply to a request: that of the handler of the first route that it fits, or none. -/
def dispatch? (base : Uri) (routes : List Route) (request : Uri) :
    Except DispatchError (Option Text) :=
  ((serve base routes request).run []).1

end Route

/-- What is handed over for a new route: what should be a template, and a handler. -/
structure Registration where
  template : Value
  handler : Handler

namespace Route

/-- A table with one more route at its end. -/
def register? (table : List Route) (r : Registration) : Except TemplateError (List Route) := do
  return table ++ [⟨← Template.ofValue? r.template, r.handler⟩]

/-- The table after a registration: one that is refused leaves it as it is. -/
def register (table : List Route) (r : Registration) : List Route :=
  match register? table r with
  | .ok longer => longer
  | .error _ => table

end Route

end UriRouting
