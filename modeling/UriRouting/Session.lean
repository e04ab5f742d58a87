import UriRouting.Object

/-!
# Sessions

A session keeps the objects that its steps make and answers what they ask. Objects are named by
their position. No step changes an object: assignments are refused, and a change of the table that a
result was made from does not reach the result.

## Main Definitions

- `Session.Making`, `Session.Reading`, `Session.Writing`, `Session.Step`: what a step can do.
- `Session.MatchName`: the names under which templates offer matching.
- `Session`: the objects with the tables they were made from; `Session.objects` leaves these out.
- `Session.Answer`: what a step answers; `Session.Error` is why it is refused.
- `Session.make?`, `Session.read?`, `Session.write`: the three sorts of steps.
- `Session.step`, `Session.run`: one step and a sequence of them.
-/

namespace UriRouting

namespace Session

/-- The two names under which a template offers matching. They stand for the same thing. -/
inductive MatchName where
  | full | short
  deriving DecidableEq, Repr

/-- How a name of matching is spelled. -/
def MatchName.spelling : MatchName → String
  | .full => "is_match"
  | .short => "match"

/-- A step that makes an object. -/
inductive Making where
  | template (source : Value)
  /-- A result made by hand from a table that the caller keeps. -/
  | result (success : Value) (source : Table Text)
  | failed
  | part (p : Part)
  | expectation (key : Text) (value : Nat)
  | verdict (name : MatchName) (template : Nat) (base request : Uri)

/-- A step that reads objects. -/
inductive Reading where
  | same (a b : Nat)
  | distinct (objects : List Nat)
  | render (object : Nat)
  | truth (object : Nat)
  | variableNames (object : Nat)
  | item (object : Nat) (name : Text)
  | member (object : Nat) (name : Value)
  | itemOr (object : Nat) (name : Text) (fallback : Value)
  | names (object : Nat)

/-- A step that tries to change something. -/
inductive Writing where
  | assign (object : Nat) (field : Text) (value : Value)
  | delete (object : Nat) (field : Text)
  | assignCapture (object : Nat) (name : Text) (value : Value)
  /-- Binds a name in the table that a result was made from. -/
  | changeSource (object : Nat) (name value : Text)

/-- One step of a session. -/
inductive Step where
  | make (m : Making)
  | read (r : Reading)
  | write (w : Writing)

/-- What an object of some class does not offer. -/
inductive Facility where
  | items | membership | iteration
  | attribute (name : String)
  deriving DecidableEq, Repr

/-- Why a step is refused. -/
inductive Error where
  | template (e : TemplateError)
  | uri (e : UriError)
  | missingName (name : Text)
  | frozenAssign (field : Text)
  | frozenDelete (field : Text)
  | frozenCaptures
  /-- The names of a template are a list, so nothing can be stored under a name. -/
  | listedNames
  | notTruthValue (kind : Value.Kind)
  | unhashable (kind : Value.Kind)
  | lacks (className : Text) (facility : Facility)
  | noObject
  deriving DecidableEq, Repr

/-- The wording of a refusal. -/
def Error.message : Error → Text
  | .template e => e.message
  | .uri e => e.message
  | .missingName name => Quoted.encode name
  | .frozenAssign field => "cannot assign to field ".toList ++ Quoted.encode field
  | .frozenDelete field => "cannot delete field ".toList ++ Quoted.encode field
  | .frozenCaptures => "'mappingproxy' object does not support item assignment".toList
  | .listedNames => "list indices must be integers or slices, not str".toList
  | .notTruthValue kind => "__bool__ should return bool, returned ".toList ++ kind.name
  | .unhashable kind => "unhashable type: '".toList ++ kind.name ++ ['\'']
  | .lacks className .items => '\'' :: className ++ "' object is not subscriptable".toList
  | .lacks className .membership =>
    "argument of type '".toList ++ className ++ "' is not iterable".toList
  | .lacks className .iteration => '\'' :: className ++ "' object is not iterable".toList
  | .lacks className (.attribute name) =>
    '\'' :: className ++ "' object has no attribute '".toList ++ name.toList ++ ['\'']
  | .noObject => "list index out of range".toList

/-- What a reading yields. -/
inductive Content where
  | truth (b : Bool)
  | count (n : Nat)
  | text (t : Text)
  | names (ts : List Text)
  | captures (t : Table Text)
  | value (v : Value)

/-- What a step answers. -/
inductive Answer where
  /-- An object was made; one made by a match comes with its verdict. -/
  | made (className : Text) (position : Nat) (verdict : Option Verdict)
  | content (c : Content)
  | refused (e : Error)

/-- An object and, for a result made by hand, the table it was made from. -/
structure Holding where
  object : Object
  source : Option (Table Text)

/-- The holding after a name of its source table is bound; the object stays. -/
def Holding.bindSource (h : Holding) (name value : Text) : Holding :=
  ⟨h.object, h.source.map (·.put name value)⟩

end Session

/-- The objects made so far, each at its position. -/
structure Session where
  holdings : List Session.Holding

namespace Session

/-- The session without objects. -/
def initial : Session := ⟨[]⟩

/-- The objects of a session without their source tables. -/
def objects (s : Session) : List Object := s.holdings.map (·.object)

/-- The object at a position. -/
def object? (s : Session) (i : Nat) : Except Error Object :=
  match s.objects[i]? with
  | some o => .ok o
  | none => .error .noObject

/-- The captures of the object at a position, if it offers what only results offer. -/
def captures? (s : Session) (i : Nat) (facility : Facility) : Except Error (Table Text) := do
  match ← s.object? i with
  | .result _ captures => .ok captures
  | o => .error (.lacks o.className facility)

/-- The template at a position, if the object there offers matching under the given name. -/
def template? (s : Session) (i : Nat) (name : MatchName) : Except Error Template := do
  match ← s.object? i with
  | .template t => .ok t
  | o => .error (.lacks o.className (.attribute name.spelling))

/-- Why nothing can be stored under a name in an object. -/
def storeRefusal : Object → Error
  | .result .. => .frozenCaptures
  | .template _ => .listedNames
  | o => .lacks o.className (.attribute "variables")

/-- The object that a making step makes, its source table and its verdict. -/
def make? (s : Session) : Making → Except Error (Holding × Option Verdict)
  | .template source => do
    let t ← (Template.ofValue? source).mapError .template
    return (⟨.template t, none⟩, none)
  | .result success source => .ok (⟨.result success source, some source⟩, none)
  | .failed => .ok (⟨.ofVerdict .failed, none⟩, none)
  | .part p => .ok (⟨.part p, none⟩, none)
  | .expectation key value => do
    return (⟨.expectation key (← s.object? value), none⟩, none)
  | .verdict name template base request => do
    let t ← s.template? template name
    let v ← (t.verdict? base request).mapError .uri
    return (⟨.ofVerdict v, none⟩, some v)

/-- What a reading step yields. It depends on the objects only. -/
def read? (s : Session) : Reading → Except Error Content
  | .same a b => do
    return .truth ((← s.object? a).same (← s.object? b))
  | .distinct objects => do
    return .count (← (Object.distinct? (← objects.mapM s.object?)).mapError .unhashable)
  | .render i => do
    return .text (← s.object? i).render
  | .truth i => do
    return .truth (← ((← s.object? i).truth?).mapError .notTruthValue)
  | .variableNames i => do
    match ← s.object? i with
    | .template t => return .names t.variableNames
    | .result _ captures => return .names captures.names
    | o => .error (.lacks o.className (.attribute "variables"))
  | .item i name => do
    match (← s.captures? i .items).get? name with
    | some value => return .text value
    | none => .error (.missingName name)
  | .member i name => do
    let captures ← s.captures? i .membership
    match name, name.unhashable? with
    | _, some kind => .error (.unhashable kind)
    | .text name, none => return .truth (captures.get? name).isSome
    | _, none => return .truth false
  | .itemOr i name fallback => do
    match (← s.captures? i (.attribute "get")).get? name with
    | some value => return .text value
    | none => return .value fallback
  | .names i => do
    return .names (← s.captures? i .iteration).names

/-- What a writing step answers, and the session after it. Only a source table changes. -/
def write (s : Session) : Writing → Except Error Content × Session
  | .assign i field _ => (s.object? i >>= fun _ => .error (.frozenAssign field), s)
  | .delete i field => (s.object? i >>= fun _ => .error (.frozenDelete field), s)
  | .assignCapture i _ _ => (s.object? i >>= fun o => .error (storeRefusal o), s)
  | .changeSource i name value =>
    (.captures <$> s.captures? i (.attribute "variables"),
      ⟨s.holdings.modify i (·.bindSource name value)⟩)

/-- The answer that states a result or a refusal. -/
def answer : Except Error Content → Answer
  | .ok c => .content c
  | .error e => .refused e

/-- One step: its answer, and the session after it. A step that is refused makes nothing. -/
def step (s : Session) : Step → Answer × Session
  | .make m =>
    match s.make? m with
    | .ok (h, verdict) =>
      (.made h.object.className s.holdings.length verdict, ⟨s.holdings ++ [h]⟩)
    | .error e => (.refused e, s)
  | .read r => (answer (s.read? r), s)
  | .write w => (answer (s.write w).1, (s.write w).2)

/-- The answers of a sequence of steps. -/
def run (s : Session) : List Step → List Answer
  | [] => []
  | step :: rest => (s.step step).1 :: (s.step step).2.run rest

end Session

end UriRouting
