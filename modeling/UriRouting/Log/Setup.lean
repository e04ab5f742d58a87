import UriRouting.Log.Basic
import UriRouting.Value.Basic

/-!
# The setup of the package logger

The package logger has a threshold and handlers, and every logger below it shares them. A record at
or above the threshold is written once by each handler, as a line of its own. Where there is no
handler at all, the surroundings write what is a warning or worse to standard error.

## Main Definitions

- `isBlank`, `Text.strip`: blank characters, and a text without the blanks at either end.
- `Log.Stream`, `Log.Handler`, `Log.Setup`.
- `Log.Setup.configure`: sets the threshold and makes sure that the current standard output is
  written to.
- `Log.Setup.deliveries`: the lines that a record causes, each with its stream.

## Design Notes

Configuring looks only at where handlers write, not at how: a handler on the current standard output
counts even if it writes bare messages. The blanks around the word in the environment are white space
in Unicode, together with the four information separators.
-/

namespace UriRouting

/-! ## Blanks -/

/-- The first and the last code point of each interval of blank characters. -/
def Blank.intervals : List (Nat × Nat) := [
  (0x09, 0x0D), (0x1C, 0x20), (0x85, 0x85), (0xA0, 0xA0), (0x1680, 0x1680), (0x2000, 0x200A),
  (0x2028, 0x2029), (0x202F, 0x202F), (0x205F, 0x205F), (0x3000, 0x3000)]

/-- Whether a character is blank. -/
def isBlank (c : Char) : Bool :=
  Blank.intervals.any fun (first, last) => first ≤ c.toNat && c.toNat ≤ last

/-- The text without the blanks at either end. -/
def Text.strip (t : Text) : Text := trimWhile isBlank t

namespace Log

/-! ## Handlers and setups -/

/-- Where text can be written. Standard output may be replaced, so its instances are numbered. -/
inductive Stream where
  | stdout (number : Nat)
  | stderr
  deriving DecidableEq, Repr

/-- The name of a stream. -/
def Stream.name : Stream → Text
  | .stdout n => "stdout".toList ++ Nat.toDigits 10 n
  | .stderr => "stderr".toList

/-- What a handler does with a record. -/
inductive Handler where
  | silent
  /-- Writes the message. -/
  | bare (stream : Stream)
  /-- Writes the record with its labels. -/
  | labelled (stream : Stream)
  deriving DecidableEq, Repr

namespace Handler

/-- The stream that a handler writes to. -/
def stream? : Handler → Option Stream
  | .silent => none
  | .bare s | .labelled s => some s

/-- The format of the labelled form, if a handler writes it. -/
def format? : Handler → Option Text
  | .labelled _ => some labelFormat
  | _ => none

/-- The line that a handler writes for a record, and where. -/
def line? (r : Record) : Handler → Option (Stream × Text)
  | .silent => none
  | .bare s => some (s, r.message ++ ['\n'])
  | .labelled s => some (s, r.labelled ++ ['\n'])

end Handler

/-- The state of the package logger, and what it depends on. -/
structure Setup where
  level : Level
  propagate : Bool
  handlers : List Handler
  /-- The value of the variable that switches debugging on. -/
  environment : Option Text
  /-- The number of the current standard output. -/
  stdout : Nat
  deriving DecidableEq, Repr

namespace Setup

/-- The setup that a program starts with. -/
def initial : Setup := ⟨.notSet, true, [], none, 0⟩

/-- The words that switch debugging on. -/
def switchWords : List Text := ["1", "true", "yes", "on"].map String.toList

/-- Whether the environment switches debugging on. Blanks around the word and the case of its
letters do not matter; only the case of ASCII letters can make one of the words. -/
def environmentSwitch (s : Setup) : Bool :=
  switchWords.contains ((Text.strip (s.environment.getD [])).map Char.toLower)

/-- Whether debugging is asked for: by the argument, or by the environment if there is none. -/
def debugSwitch (s : Setup) : Value → Bool
  | .none => s.environmentSwitch
  | v => v.truth

/-- Whether some handler writes to the current standard output. -/
def writesToStdout (s : Setup) : Bool := s.handlers.any (·.stream? = some (.stdout s.stdout))

/-- Sets the threshold. If no handler writes to the current standard output yet, adds one that does,
and takes the logger out of its surroundings. -/
def configure (s : Setup) (debug : Value) : Setup :=
  let level := if s.debugSwitch debug then .debug else .error
  if s.writesToStdout then { s with level }
  else
    let handlers := s.handlers ++ [.labelled (.stdout s.stdout)]
    { s with level, propagate := false, handlers }

/-- The threshold in force: that of the surroundings as long as none is set. -/
def threshold (s : Setup) : Level := if s.level = .notSet then .warning else s.level

/-- The line that the surroundings write for a record that has no handler. -/
def fallback (r : Record) : List (Stream × Text) :=
  if Level.warning.severity ≤ r.level.severity then [(.stderr, r.message ++ ['\n'])] else []

/-- The lines that a record causes, each with its stream. -/
def deliveries (s : Setup) (r : Record) : List (Stream × Text) :=
  if inPackage r.logger then
    if r.level.severity < s.threshold.severity then []
    else if s.handlers.isEmpty then fallback r
    else s.handlers.filterMap (Handler.line? r)
  else fallback r

end Setup

end Log

end UriRouting
