import UriRouting.Path
import UriRouting.Query
import UriRouting.Value.Basic

/-!
# Templates

A template is a text that describes paths and queries. What stands before its first question mark
lists the expected segments, what stands after it the expected fields. A segment or a field value
written `{name}` is a variable; anything else is a literal and means what it would mean in a
request.

## Main Definitions

- `Part`: a literal segment, a literal value or a variable.
- `variableName?`: the name in a token, if it is a variable.
- `Template`: a template, given by its source text.
- `Template.path`, `Template.query`: what it expects; `Template.variableNames`: the names it
  declares.

## Design Notes

A template is its source: the expectations are functions of it, so templates are equal exactly when
their texts are. A field key is a literal even when it is written as a token.
-/

namespace UriRouting

/-- One expected element of a path or a query. -/
inductive Part where
  /-- A segment, compared without regard to case. -/
  | literal (text : Text)
  /-- A field value, compared as it is. -/
  | literalValue (text : Text)
  | variable (name : Text)
  deriving DecidableEq, Repr

/-- The name of a variable; other parts have none. -/
def Part.name? : Part → Option Text
  | .variable name => some name
  | _ => none

/-- An expected field. -/
structure Expectation where
  key : Text
  value : Part
  deriving DecidableEq, Repr

/-- The characters that a variable name consists of. -/
def isNameChar (c : Char) : Bool := c.isAlphanum || c = '_'

/-- The name in a token, if it is a variable: a name between braces. One line feed may follow. -/
def variableName? : Text → Option Text
  | '{' :: rest =>
    let name := rest.takeWhile isNameChar
    let ending := rest.dropWhile isNameChar
    if !name.isEmpty && (ending = ['}'] || ending = ['}', '\n']) then some name else none
  | _ => none

/-- The part that a written segment describes. -/
def Part.ofSegment (segment : Text) : Part :=
  match variableName? segment with
  | some name => .variable name
  | none => .literal (Percent.unescape segment)

/-- The part that a written field value describes. -/
def Part.ofValue (value : Text) : Part :=
  match variableName? value with
  | some name => .variable name
  | none => .literalValue (Percent.unescapeField value)

/-- A template is given by its source text. -/
structure Template where
  source : Text
  deriving DecidableEq, Repr

/-- Why something is not a template. -/
inductive TemplateError where
  | notText (kind : Value.Kind)
  deriving DecidableEq, Repr

/-- The wording of an error. -/
def TemplateError.message : TemplateError → Text
  | .notText kind => "URI template must be a string, got '".toList ++ kind.name ++ ['\'']

namespace Template

/-- The template with the given source. Every text is one. -/
def ofValue? : Value → Except TemplateError Template
  | .text source => .ok ⟨source⟩
  | v => .error (.notText v.kind)

/-- The expected segments. -/
def path (t : Template) : List Part :=
  (Path.segments (Text.cut '?' t.source).1).map Part.ofSegment

/-- The expected fields. -/
def query (t : Template) : List Expectation :=
  (Query.fields (Text.cut '?' t.source).2).map fun (key, value) =>
    ⟨Percent.unescapeField key, Part.ofValue value⟩

/-- The declared variables, those of the path first, with repetitions. -/
def variableNames (t : Template) : List Text :=
  t.path.filterMap Part.name? ++ t.query.filterMap (·.value.name?)

end Template

end UriRouting
