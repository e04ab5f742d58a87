import UriRouting.Proofs.Deliveries

/-!
# What configuring establishes

Configuring sets the threshold in every state. The rest it does only where no handler writes to the
current standard output yet, so whether the rest holds afterwards depends on how the handlers found
there came to be added. Handlers of its own were added together with taking the logger out of its
surroundings, which nothing undoes; a bare handler from outside takes the place of a labelled one.

## Main Definitions

- `Log.Setup.LabelsStdout`: a handler labels what it writes to the current standard output, and the
  logger is out of its surroundings.
- `Log.Setup.BareOnly`: the handlers of the current standard output write bare messages.

## Main Statements

- `Log.Setup.propagate_afterAll`: a logger with a labelled handler is out of its surroundings.
- `Log.Setup.setup_after_configure`: what holds after configuring, whatever happened before.
- `Log.Setup.bare_handler_keeps_its_place`: a bare handler on standard output is left alone.
-/

namespace UriRouting.Log.Setup

/-- A handler labels what it writes to the current standard output, and the logger does not pass
records on to its surroundings. -/
def LabelsStdout (s : Setup) : Prop :=
  s.propagate = false ∧ ∃ handler ∈ s.handlers,
    handler.stream? = some (.stdout s.stdout) ∧ handler.format? = some labelFormat

/-- The current standard output has a handler from outside and none that labels. -/
def BareOnly (s : Setup) : Prop :=
  .bare (.stdout s.stdout) ∈ s.handlers ∧ .labelled (.stdout s.stdout) ∉ s.handlers

instance : DecidablePred LabelsStdout := fun _ => inferInstanceAs (Decidable (_ ∧ _))

instance : DecidablePred BareOnly := fun _ => inferInstanceAs (Decidable (_ ∧ _))

variable {s : Setup}

theorem labelsStdout_iff :
    s.LabelsStdout ↔ s.propagate = false ∧ .labelled (.stdout s.stdout) ∈ s.handlers := by
  refine and_congr_right fun _ => ⟨?_, fun h => ⟨_, h, rfl, rfl⟩⟩
  rintro ⟨handler, hmem, hstream, hformat⟩
  cases handler with
  | silent => simp [Handler.stream?] at hstream
  | bare stream => simp [Handler.format?] at hformat
  | labelled stream =>
      obtain rfl : stream = .stdout s.stdout := Option.some.inj hstream
      exact hmem

/-- Standard output is written to by a handler of either kind. -/
theorem writesToStdout_iff_mem :
    s.writesToStdout = true ↔
      .bare (.stdout s.stdout) ∈ s.handlers ∨ .labelled (.stdout s.stdout) ∈ s.handlers := by
  rw [writesToStdout_iff, List.mem_filterMap]
  constructor
  · rintro ⟨handler, hmem, hstream⟩
    cases handler with
    | silent => simp [Handler.stream?] at hstream
    | bare stream => exact Or.inl (Option.some.inj hstream ▸ hmem)
    | labelled stream => exact Or.inr (Option.some.inj hstream ▸ hmem)
  · rintro (hmem | hmem)
    · exact ⟨_, hmem, rfl⟩
    · exact ⟨_, hmem, rfl⟩

/-! ## One step -/

theorem level_configure (s : Setup) (debug : Value) :
    (s.configure debug).level = if s.debugSwitch debug then .debug else .error := by
  by_cases h : s.writesToStdout = true
  · rw [configure_of_writesToStdout h]
  · rw [configure_of_not_writesToStdout h]

theorem propagate_configure (s : Setup) (debug : Value) :
    (s.configure debug).propagate = if s.writesToStdout then s.propagate else false := by
  split
  · next h => rw [configure_of_writesToStdout h]
  · next h => rw [configure_of_not_writesToStdout h]

/-- What a step does to passing records on. -/
theorem propagate_after (s : Setup) (step : Step) :
    (s.after step).propagate = match step with
      | .configure debug => (s.configure debug).propagate
      | _ => s.propagate := by
  rw [after_eq]
  cases step with
  | environment => dsimp only; split <;> rfl
  | configure | addHandler | clearHandlers | swapStdout | emit | request => rfl

/-- A labelled handler is added together with taking the logger out of its surroundings, and no step
puts it back. -/
theorem propagate_eq_false_after
    (h : (∃ stream, .labelled stream ∈ s.handlers) → s.propagate = false) (step : Step)
    (hlabelled : ∃ stream, .labelled stream ∈ (s.after step).handlers) :
    (s.after step).propagate = false := by
  obtain ⟨stream, hmem⟩ := hlabelled
  rw [handlers_after] at hmem
  rw [propagate_after]
  cases step with
  | configure debug =>
      dsimp only at hmem ⊢
      rw [handlers_configure] at hmem
      rw [propagate_configure]
      split
      · next hwrites =>
        rw [if_pos hwrites] at hmem
        exact h ⟨stream, hmem⟩
      · rfl
  | addHandler outlet =>
      refine h ⟨stream, (List.mem_append.mp hmem).resolve_right fun hadded => ?_⟩
      cases outlet <;> simp [Outlet.handler] at hadded
  | clearHandlers => simp at hmem
  | environment | swapStdout | emit | request => exact h ⟨stream, hmem⟩

/-- **A logger with a labelled handler is out of its surroundings**, whatever happened. -/
theorem propagate_afterAll (steps : List Step) {stream : Stream}
    (h : .labelled stream ∈ (initial.afterAll steps).handlers) :
    (initial.afterAll steps).propagate = false :=
  afterAll_induction (p := fun s => (∃ stream, .labelled stream ∈ s.handlers) → s.propagate = false)
    (fun _ step _ hs => propagate_eq_false_after hs step) (by simp [initial]) ⟨stream, h⟩

/-- Configuring adds no bare handler. -/
theorem not_mem_handlers_after {number : Nat} (h : .bare (.stdout number) ∉ s.handlers) {step : Step}
    (hstep : step ≠ .addHandler .stdout) : .bare (.stdout number) ∉ (s.after step).handlers := by
  rw [handlers_after]
  cases step with
  | configure debug =>
      dsimp only
      rw [handlers_configure]
      split
      · exact h
      · simpa using h
  | addHandler outlet =>
      cases outlet with
      | stdout => exact absurd rfl hstep
      | stderr | silent => simpa [Outlet.handler] using h
  | clearHandlers => exact List.not_mem_nil
  | environment | swapStdout | emit | request => exact h

/-- A bare handler of some standard output comes from outside. -/
theorem addHandler_mem_of_bare {steps : List Step} {number : Nat}
    (h : .bare (.stdout number) ∈ (initial.afterAll steps).handlers) :
    .addHandler .stdout ∈ steps := by
  by_contra habsent
  exact afterAll_induction (p := fun s => .bare (.stdout number) ∉ s.handlers)
    (fun _ step hmem hs => not_mem_handlers_after hs fun hstep => habsent (hstep ▸ hmem))
    List.not_mem_nil h

/-! ## After configuring -/

/-- **What configuring establishes**, whatever happened before.  The threshold is set by the argument,
or by the environment if there is none, and some handler writes to the current standard output.
Unless all handlers found there write bare messages, one labels what it writes, and the logger is
out of its surroundings.  If they do, the handlers are left as they are; this takes a handler from
outside. -/
theorem setup_after_configure (steps : List Step) (debug : Value) :
    let s := initial.afterAll steps
    let t := initial.afterAll (steps ++ [.configure debug])
    t.level = (if s.debugSwitch debug then .debug else .error) ∧
      t.stdout = s.stdout ∧ t.writesToStdout = true ∧
      (¬ s.BareOnly → t.LabelsStdout) ∧
      (s.BareOnly → t.handlers = s.handlers ∧ .addHandler .stdout ∈ steps) := by
  intro s t
  have ht : t = s.configure debug := afterAll_append initial steps [.configure debug]
  rw [ht, labelsStdout_iff, handlers_configure, propagate_configure, stdout_configure]
  refine ⟨level_configure s debug, rfl, writesToStdout_configure s debug, fun hbare => ?_,
    fun hbare => ⟨?_, addHandler_mem_of_bare hbare.1⟩⟩
  · by_cases hwrites : s.writesToStdout = true
    · rw [if_pos hwrites, if_pos hwrites]
      -- The handler found there is not bare alone, so a labelled one was added by configuring.
      have hlabelled : .labelled (.stdout s.stdout) ∈ s.handlers := by
        by_contra habsent
        exact hbare ⟨(writesToStdout_iff_mem.mp hwrites).resolve_right habsent, habsent⟩
      exact ⟨propagate_afterAll steps hlabelled, hlabelled⟩
    · rw [if_neg hwrites, if_neg hwrites]
      exact ⟨rfl, List.mem_append_right _ List.mem_cons_self⟩
  · rw [if_pos (writesToStdout_iff_mem.mpr (Or.inl hbare.1))]

/-- A bare handler stood on the first output when it was configured, and the output was replaced. The
second one is set up from the environment, and stays so when a bare handler joins. -/
theorem setup_after_configure_joined_outputs :
    let steps : List Step := [.addHandler .stdout, .configure (.bool false), .addHandler .silent,
      .swapStdout, .environment (some " On\n".toList), .configure .none, .addHandler .stdout]
    let s := initial.afterAll steps
    let t := initial.afterAll (steps ++ [.configure .none])
    ¬ s.BareOnly ∧ t.LabelsStdout ∧ t.level = .debug ∧
      (initial.afterAll [.addHandler .stdout]).BareOnly ∧
      (initial.afterAll (steps.take 2)).handlers = [.bare (.stdout 0)] := by
  intro steps s t
  have hs : ¬ s.BareOnly := by decide
  have hfirst : (initial.afterAll [.addHandler .stdout]).BareOnly := by decide
  obtain ⟨hlevel, -, -, hlabels, -⟩ := setup_after_configure steps .none
  obtain ⟨-, -, -, -, hkept⟩ := setup_after_configure [.addHandler .stdout] (.bool false)
  exact ⟨hs, hlabels hs, hlevel.trans (by decide), hfirst, (hkept hfirst).1.trans (by decide)⟩

/-- **A bare handler keeps its place.**  It was put on standard output from outside; configuring sets
the threshold, but no handler labels what is written there, and records are still passed on. -/
theorem bare_handler_keeps_its_place :
    let t := initial.afterAll [.addHandler .stdout, .configure (.bool true)]
    t.level = .debug ∧ t.handlers = [.bare (.stdout 0)] ∧ t.propagate = true ∧ ¬ t.LabelsStdout := by
  decide

end UriRouting.Log.Setup
