import UriRouting.Log.Setup
import UriRouting.Match.Verdict

/-!
# Runs of logging steps

A run changes the setup of the package logger step by step and collects what each step writes.

## Main Definitions

- `Log.Step`: what can happen to a setup.
- `Log.Report`: what a step leaves and writes; `Log.StepError` is why a step fails.
- `Log.Setup.step?`, `Log.Setup.run`: one step and a sequence of them.
- `Log.collect`: the text written to each stream.
-/

namespace UriRouting.Log

/-- What a handler that is added from outside does. -/
inductive Outlet where
  | stdout | stderr | silent
  deriving DecidableEq, Repr

/-- One step. -/
inductive Step where
  | environment (value : Option Text)
  | configure (debug : Value)
  | addHandler (outlet : Outlet)
  | clearHandlers
  | swapStdout
  | emit (r : Record)
  /-- Matches a request below a base address. -/
  | request (template : Value) (base request : Uri)

/-- Why a step fails. -/
inductive StepError where
  | template (e : TemplateError)
  | uri (e : UriError)
  /-- The environment holds no text with a null character. -/
  | nullInEnvironment
  deriving DecidableEq, Repr

/-- The wording of a failure. -/
def StepError.message : StepError → Text
  | .template e => e.message
  | .uri e => e.message
  | .nullInEnvironment => "embedded null byte".toList

/-- What a step leaves and writes. -/
structure Report where
  setup : Setup
  /-- The lines written, in order, each with its stream. -/
  lines : List (Stream × Text)
  /-- The verdict, if the step matched a request. -/
  verdict : Option Verdict

/-- The bare or silent handler that an outlet stands for. -/
def Outlet.handler (s : Setup) : Outlet → Handler
  | .stdout => .bare (.stdout s.stdout)
  | .stderr => .bare .stderr
  | .silent => .silent

namespace Setup

/-- One step. A step that fails changes and writes nothing. -/
def step? (s : Setup) : Step → Except StepError Report
  | .environment value =>
    if (value.getD []).contains '\x00' then .error .nullInEnvironment
    else .ok ⟨{ s with environment := value }, [], none⟩
  | .configure debug => .ok ⟨s.configure debug, [], none⟩
  | .addHandler outlet =>
    .ok ⟨{ s with handlers := s.handlers ++ [outlet.handler s] }, [], none⟩
  | .clearHandlers => .ok ⟨{ s with handlers := [] }, [], none⟩
  | .swapStdout => .ok ⟨{ s with stdout := s.stdout + 1 }, [], none⟩
  | .emit r => .ok ⟨s, s.deliveries r, none⟩
  | .request template base request => do
    let t ← (Template.ofValue? template).mapError .template
    let outcome ← (t.outcome? base request).mapError .uri
    let findings := outcome.findings request.render t.source
    return ⟨s, findings.flatMap fun f => s.deliveries f.record, some outcome.verdict⟩

/-- The setup after a step. -/
def after (s : Setup) (step : Step) : Setup :=
  match s.step? step with
  | .ok report => report.setup
  | .error _ => s

/-- The answers of a sequence of steps. -/
def run (s : Setup) : List Step → List (Except StepError Report)
  | [] => []
  | step :: rest => s.step? step :: (s.after step).run rest

end Setup

/-- Whether the name of a stream stands before or at that of another one, by the order of the
characters. -/
def namesInOrder (a b : Text × Text) : Bool := !List.lex b.1 a.1 fun c d => c < d

/-- The text written to each stream, in the order of the names of the streams. -/
def collect (lines : List (Stream × Text)) : List (Text × Text) :=
  let add := fun (t : Table Text) (line : Stream × Text) =>
    t.put line.1.name ((t.get? line.1.name).getD [] ++ line.2)
  (lines.foldl add ∅).entries.mergeSort namesInOrder

end UriRouting.Log
