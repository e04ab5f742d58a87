import UriRouting.Routes.Basic

/-!
# An example of a route table

Three routes below a base address, the registration of further ones, and the transcript of four
requests.

## Main Definitions

- `Example.base`, `Example.routes`: the base address and the initial routes.
- `Example.register?`, `Example.tableAfter`: a table with one more route, and the table after some
  registrations.
- `Example.output?`: what is logged while a request is answered.
- `Example.transcript`: what the program prints.

## Design Notes

The logger is configured for debugging on standard output, so that everything that is reported is
written there with its labels.
-/

namespace UriRouting.Example

/-- The base address of all routes. -/
def base : Uri := .text "http://localhost:9000/app/".toList

/-- The value of an argument. -/
def argument (arguments : Table Text) (name : String) : Text := (arguments.get? name.toList).getD []

/-- Replies with a greeting. -/
def index : Handler := ⟨"index".toList, some [], fun _ => "Yo".toList⟩

/-- Replies with the user. -/
def user : Handler := ⟨"user".toList, some ["user".toList], fun a => argument a "user"⟩

/-- Replies with the user and the page, the first one unless another is asked for. -/
def openOrders : Handler where
  name := "open_orders".toList
  parameters := some ["user".toList, "page".toList]
  reply := fun a =>
    let page := argument a "page"
    argument a "user" ++ '-' :: if page.isEmpty then ['1'] else page

/-- Replies with its name and its arguments. -/
def echo (name : Text) : Handler where
  name := name
  parameters := none
  reply := fun a => name ++ ':' :: [','].intercalate (a.entries.map fun (n, v) => n ++ '=' :: v)

/-- The handler of a name: one of the three of the example, or one that echoes. -/
def handler (name : Text) : Handler :=
  ([index, user, openOrders].find? (·.name = name)).getD (echo name)

/-- The initial routes. -/
def routes : List Route := [
  ⟨⟨"/".toList⟩, index⟩,
  ⟨⟨"/users/\x7buser\x7d".toList⟩, user⟩,
  ⟨⟨"/users/\x7buser\x7d/orders?status=open&page=\x7bpage\x7d".toList⟩, openOrders⟩]

/-- A table with one more route at its end, which goes to the handler of a name. -/
def register? (table : List Route) (template : Value) (handlerName : Text) :
    Except TemplateError (List Route) :=
  Route.register? table ⟨template, handler handlerName⟩

/-- The table after some registrations. -/
def tableAfter (registrations : List Registration) : List Route :=
  registrations.foldl Route.register routes

/-- The setup of the logger. -/
def logging : Log.Setup := Log.Setup.initial.configure (.bool true)

/-- What the logger writes about findings. -/
def logged (findings : List Finding) : Text :=
  findings.flatMap fun f => (logging.deliveries f.record).flatMap Prod.snd

/-- What is logged while a request is answered. -/
def output? (table : List Route) (request : Uri) : Except UriError Text :=
  (Route.search? base request table).map fun search => logged search.findings

/-- A reply in the transcript. -/
def replyLine : Except DispatchError (Option Text) → Text
  | .ok (some reply) => reply ++ ['\n']
  | .ok none => "None\n".toList
  | .error e => e.message ++ ['\n']

/-- The requests of the transcript. -/
def requests : List Uri :=
  ["http://localhost:9000/app/", "http://localhost:9000/app/Users/ada",
    "http://localhost:9000/app/users/ada/orders?status=open",
    "http://localhost:9000/app/users/ada/orders?status=closed"].map fun s => .text s.toList

/-- What the program prints: for each request what is logged, and the reply. -/
def transcript : Text :=
  requests.flatMap fun request =>
    (output? routes request).toOption.getD [] ++ replyLine (Route.dispatch? base routes request)

end UriRouting.Example
