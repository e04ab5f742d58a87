import UriRouting.Text.Basic

/-!
# Log records

A record is a message with a level, emitted by a named logger. A name with a point is a child of
what stands before the point.

## Main Definitions

- `Log.Level`, `Log.Level.severity`, `Log.Level.name`.
- `Log.Record`: a logger, a level and a message.
- `Log.packageName`: the logger that the loggers of this library are children of.
- `Log.Record.labelled`: the written form of a record with its labels; `Log.labelFormat` names it.
-/

namespace UriRouting.Log

/-- The levels of records and thresholds, from the least severe on. -/
inductive Level where
  | notSet | debug | info | warning | error | critical
  deriving DecidableEq, Repr

/-- How severe a level is. -/
def Level.severity : Level → Nat
  | .notSet => 0
  | .debug => 10
  | .info => 20
  | .warning => 30
  | .error => 40
  | .critical => 50

/-- The name of a level. -/
def Level.name : Level → Text
  | .notSet => "NOTSET".toList
  | .debug => "DEBUG".toList
  | .info => "INFO".toList
  | .warning => "WARNING".toList
  | .error => "ERROR".toList
  | .critical => "CRITICAL".toList

/-- A message that a logger emits. -/
structure Record where
  logger : Text
  level : Level
  message : Text
  deriving DecidableEq, Repr

/-- The logger that the loggers of this library are children of. -/
def packageName : Text := "uri_template_matcher".toList

/-- A child of the package logger. -/
def childName (name : String) : Text := packageName ++ '.' :: name.toList

/-- Whether a logger is the package logger or below it. -/
def inPackage (logger : Text) : Bool :=
  logger = packageName || (packageName ++ ['.']).isPrefixOf logger

/-- The format of the labelled form, as a handler states it. -/
def labelFormat : Text := "[%(name)s] - [%(levelname)s] - %(message)s".toList

/-- The written form of a record with its labels. -/
def Record.labelled (r : Record) : Text :=
  '[' :: r.logger ++ "] - [".toList ++ r.level.name ++ "] - ".toList ++ r.message

end UriRouting.Log
