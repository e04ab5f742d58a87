import Mathlib.Data.List.Infix
import UriRouting.Session

/-!
# Values stay fixed

A step of a session can add an object at the end, and a change of a source table is all that a
writing step brings about. Readings look at objects only. So an object that is there answers every
reading alike from then on, and the other steps do not notice whether the writing ones are taken.

## Main Definitions

- `Session.afterAll`: the session after a sequence of steps.
- `Session.Reading.positions`: the positions that a reading looks at.
- `Session.Step.isWriting`: the steps that try to change something.
- `Session.SourcesOfResults`: only results have source tables.

## Main Statements

- `Session.objects_step`: what a step does to the objects.
- `Session.read?_afterAll`: readings of objects that are there do not change.
- `Session.step_of_refused`: a refused step leaves the session as it was.
- `Session.run_filter_not_isWriting`: the answers without the writing steps.
- `Session.values_stay_fixed`: all of this for the sessions that a run leads to.

## Design Notes

The source tables are part of the state, and a change of one is kept there. That it reaches no answer
is a statement about what readings and makings look at.
-/

namespace UriRouting.Session

/-! ## Sequences of steps -/

/-- The session after a sequence of steps. -/
def afterAll (s : Session) (steps : List Step) : Session :=
  steps.foldl (fun s step => (s.step step).2) s

theorem afterAll_append (s : Session) (steps rest : List Step) :
    s.afterAll (steps ++ rest) = (s.afterAll steps).afterAll rest :=
  List.foldl_append

/-- The next step of a run is taken in the session that the steps before it lead to. -/
theorem run_concat (s : Session) (steps : List Step) (step : Step) :
    s.run (steps ++ [step]) = s.run steps ++ [((s.afterAll steps).step step).1] := by
  induction steps generalizing s with
  | nil => rfl
  | cons first steps ih =>
      rw [List.cons_append, run, run, ih, List.cons_append]
      rfl

/-- What every step keeps holds after a sequence of steps. -/
theorem afterAll_induction {p : Session → Prop} {steps : List Step}
    (hstep : ∀ s, ∀ step ∈ steps, p s → p (s.step step).2) {s : Session} (hs : p s) :
    p (s.afterAll steps) :=
  List.foldlRecOn steps _ hs fun s h step hmem => hstep s step hmem h

/-- The positions that a reading looks at. -/
def Reading.positions : Reading → List Nat
  | .same a b => [a, b]
  | .distinct objects => objects
  | .render i | .truth i | .variableNames i | .item i _ | .member i _ | .itemOr i _ _ | .names i => [i]

/-- Whether a step tries to change something. -/
def Step.isWriting : Step → Bool
  | .write _ => true
  | .make _ | .read _ => false

/-! ## One step -/

variable {s t : Session}

/-- What a making step makes. -/
theorem make?_eq_ok {m : Making} {made : Holding × Option Verdict} (h : s.make? m = .ok made) :
    match m with
    | .template source =>
      ∃ t, Template.ofValue? source = .ok t ∧ made = (⟨.template t, none⟩, none)
    | .result success source => made = (⟨.result success source, some source⟩, none)
    | .failed => made = (⟨.ofVerdict .failed, none⟩, none)
    | .part p => made = (⟨.part p, none⟩, none)
    | .expectation key value =>
      ∃ o, s.object? value = .ok o ∧ made = (⟨.expectation key o, none⟩, none)
    | .verdict name template base request =>
      ∃ t v, s.template? template name = .ok t ∧ t.verdict? base request = .ok v ∧
        made = (⟨.ofVerdict v, none⟩, some v) := by
  cases m with
  | result | failed | part => exact (Except.ok.inj h).symm
  | template source =>
      cases htemplate : Template.ofValue? source with
      | error e => simp [make?, htemplate, Except.mapError, bind, Except.bind] at h
      | ok t =>
          rw [make?, htemplate] at h
          exact ⟨t, htemplate, (Except.ok.inj h).symm⟩
  | expectation key value =>
      cases hobject : s.object? value with
      | error e => simp [make?, hobject, bind, Except.bind] at h
      | ok o =>
          rw [make?, hobject] at h
          exact ⟨o, hobject, (Except.ok.inj h).symm⟩
  | verdict name template base request =>
      cases htemplate : s.template? template name with
      | error e => simp [make?, htemplate, bind, Except.bind] at h
      | ok t =>
          cases hverdict : t.verdict? base request with
          | error e => simp [make?, htemplate, hverdict, Except.mapError, bind, Except.bind] at h
          | ok v =>
              simp only [make?, htemplate, hverdict, Except.mapError, bind, Except.bind] at h
              exact ⟨t, v, htemplate, hverdict, (Except.ok.inj h).symm⟩

/-- Only the holding at the position has its source table changed. -/
theorem getElem?_changeSource (s : Session) (i : Nat) (name value : Text) (j : Nat) :
    (s.write (.changeSource i name value)).2.holdings[j]?
      = if i = j then s.holdings[j]?.map (·.bindSource name value) else s.holdings[j]? := by
  rw [write, List.getElem?_modify]
  split
  · rfl
  · exact Option.map_id' (x := s.holdings[j]?)

/-- No writing step changes an object. -/
theorem objects_write (s : Session) (w : Writing) : (s.write w).2.objects = s.objects := by
  cases w with
  | changeSource i name value =>
      apply List.ext_getElem?
      intro j
      rw [objects, objects, List.getElem?_map, List.getElem?_map, getElem?_changeSource]
      split
      · rw [Option.map_map]
        rfl
      · rfl
  | assign | delete | assignCapture => rfl

/-- **What a step does to the objects.**  A making step that succeeds adds one at the end. -/
theorem objects_step (s : Session) (step : Step) :
    (s.step step).2.objects = match step with
      | .make m => match s.make? m with
        | .ok made => s.objects ++ [made.1.object]
        | .error _ => s.objects
      | .read _ | .write _ => s.objects := by
  cases step with
  | make m =>
      rw [Session.step]
      dsimp only
      cases s.make? m with
      | ok made => exact List.map_append
      | error e => rfl
  | read r => rfl
  | write w => exact objects_write s w

theorem objects_prefix_step (s : Session) (step : Step) : s.objects <+: (s.step step).2.objects := by
  rw [objects_step]
  cases step with
  | make m =>
      dsimp only
      split
      · exact List.prefix_append _ _
      · exact List.prefix_rfl
  | read | write => exact List.prefix_rfl

/-- Objects stay where they are. -/
theorem objects_prefix_afterAll (s : Session) (steps : List Step) :
    s.objects <+: (s.afterAll steps).objects :=
  afterAll_induction (p := fun t => s.objects <+: t.objects)
    (fun t step _ h => h.trans (objects_prefix_step t step)) List.prefix_rfl

/-! ## Readings -/

/-- An object that is there stays there. -/
theorem object?_eq_of_lt (h : s.objects <+: t.objects) {i : Nat} (hi : i < s.objects.length) :
    t.object? i = s.object? i := by
  rw [object?, object?, List.prefix_iff_getElem?.mp h i hi, List.getElem?_eq_getElem hi]

theorem mem_objects_of_object? {i : Nat} {o : Object} (h : s.object? i = .ok o) : o ∈ s.objects := by
  rw [object?] at h
  split at h
  · next o' ho =>
    obtain rfl := Except.ok.inj h
    exact List.mem_of_getElem? ho
  · simp at h

theorem captures?_congr {i : Nat} (h : s.object? i = t.object? i) (facility : Facility) :
    s.captures? i facility = t.captures? i facility := by
  rw [captures?, captures?, h]

theorem mapM_object?_congr {positions : List Nat}
    (h : ∀ i ∈ positions, s.object? i = t.object? i) :
    positions.mapM s.object? = positions.mapM t.object? := by
  induction positions with
  | nil => rfl
  | cons i positions ih =>
      rw [List.forall_mem_cons] at h
      rw [List.mapM_cons, List.mapM_cons, h.1, ih h.2]

/-- A reading depends on the objects at its positions only. -/
theorem read?_congr {r : Reading} (h : ∀ i ∈ r.positions, s.object? i = t.object? i) :
    s.read? r = t.read? r := by
  cases r with
  | same a b =>
      rw [read?, read?, h a List.mem_cons_self, h b (List.mem_cons_of_mem _ List.mem_cons_self)]
  | distinct positions => rw [read?, read?, @mapM_object?_congr s t positions h]
  | render i | truth i | variableNames i => rw [read?, read?, h i List.mem_cons_self]
  | item i | member i | itemOr i | names i =>
      rw [read?, read?, captures?_congr (h i List.mem_cons_self)]

/-- **Readings of objects that are there do not change**, whatever steps come between. -/
theorem read?_afterAll {r : Reading} (h : ∀ i ∈ r.positions, i < s.objects.length)
    (between : List Step) : (s.afterAll between).read? r = s.read? r :=
  (read?_congr fun i hi =>
    (object?_eq_of_lt (objects_prefix_afterAll s between) (h i hi)).symm).symm

/-! ## Refusals -/

theorem exists_object_of_lt {i : Nat} (hi : i < s.objects.length) : ∃ o, s.object? i = .ok o :=
  ⟨s.objects[i], by rw [object?, List.getElem?_eq_getElem hi]⟩

/-- Every assignment and every deletion is refused, and nothing changes. -/
theorem step_assign_and_delete {i : Nat} (hi : i < s.objects.length) (field : Text) (value : Value) :
    s.step (.write (.assign i field value)) = (.refused (.frozenAssign field), s) ∧
      s.step (.write (.delete i field)) = (.refused (.frozenDelete field), s) := by
  obtain ⟨o, ho⟩ := exists_object_of_lt hi
  simp only [step, write, ho]
  exact ⟨rfl, rfl⟩

/-- An assignment to a capture of a result is refused, and nothing changes. -/
theorem step_assignCapture {i : Nat} {success : Value} {captures : Table Text}
    (h : s.object? i = .ok (.result success captures)) (name : Text) (value : Value) :
    s.step (.write (.assignCapture i name value)) = (.refused .frozenCaptures, s) := by
  simp only [step, write, h]
  rfl

/-- A change of its source table is answered with the captures of a result, which stay, and the
table is changed. -/
theorem step_changeSource {i : Nat} {success : Value} {captures : Table Text}
    (h : s.object? i = .ok (.result success captures)) (name value : Text) :
    let after := s.step (.write (.changeSource i name value))
    after.1 = .content (.captures captures) ∧ after.2.object? i = .ok (.result success captures) ∧
      (after.2.holdings[i]?.bind (·.source))
        = (s.holdings[i]?.bind (·.source)).map (·.put name value) := by
  refine ⟨?_, ?_, ?_⟩
  · simp only [step, write, captures?, h]
    rfl
  · rw [object?, objects_step]
    exact h
  · rw [step, getElem?_changeSource, if_pos rfl]
    cases s.holdings[i]? <;> rfl

/-- Only results have a source table. -/
def SourcesOfResults (s : Session) : Prop :=
  ∀ h ∈ s.holdings, h.source ≠ none → ∃ success captures, h.object = .result success captures

/-- A making step gives a source table to results only. -/
theorem source_of_make? {m : Making} {made : Holding × Option Verdict} (h : s.make? m = .ok made)
    (hsource : made.1.source ≠ none) :
    ∃ success captures, made.1.object = .result success captures := by
  have hmade := make?_eq_ok h
  cases m with
  | result success source => exact ⟨success, source, by rw [hmade]⟩
  | failed | part =>
      rw [hmade] at hsource
      exact absurd rfl hsource
  | template source =>
      obtain ⟨t, -, rfl⟩ := hmade
      exact absurd rfl hsource
  | expectation key value =>
      obtain ⟨o, -, rfl⟩ := hmade
      exact absurd rfl hsource
  | verdict name template base request =>
      obtain ⟨t, v, -, -, rfl⟩ := hmade
      exact absurd rfl hsource

theorem sourcesOfResults_step (h : s.SourcesOfResults) (step : Step) :
    (s.step step).2.SourcesOfResults := by
  cases step with
  | make m =>
      rw [Session.step]
      cases hmake : s.make? m with
      | ok made =>
          show ∀ holding ∈ s.holdings ++ [made.1], _
          rw [List.forall_mem_append, List.forall_mem_singleton]
          exact ⟨h, source_of_make? hmake⟩
      | error e => exact h
  | read r => exact h
  | write w =>
      cases w with
      | changeSource i name value =>
          intro holding hmem hsource
          obtain ⟨j, hj⟩ := List.getElem?_of_mem hmem
          rw [Session.step, getElem?_changeSource] at hj
          split at hj
          · obtain ⟨before, hbefore, rfl⟩ := Option.map_eq_some_iff.mp hj
            refine h before (List.mem_of_getElem? hbefore) fun hnone => hsource ?_
            rw [Holding.bindSource, hnone, Option.map_none]
          · exact h holding (List.mem_of_getElem? hj) hsource
      | assign | delete | assignCapture => exact h

theorem sourcesOfResults_afterAll (steps : List Step) :
    (initial.afterAll steps).SourcesOfResults :=
  afterAll_induction (p := SourcesOfResults) (fun _ step _ h => sourcesOfResults_step h step)
    (by simp [SourcesOfResults, initial])

/-- Where there is no source table, none is changed. -/
theorem changeSource_of_unsourced {i : Nat}
    (h : ∀ holding, s.holdings[i]? = some holding → holding.source = none) (name value : Text) :
    (s.write (.changeSource i name value)).2 = s := by
  have hholdings : (s.write (.changeSource i name value)).2.holdings = s.holdings := by
    apply List.ext_getElem?
    intro j
    rw [getElem?_changeSource]
    split
    · next hij =>
      subst hij
      cases hholding : s.holdings[i]? with
      | none => rfl
      | some holding =>
          rw [Option.map_some, Holding.bindSource, h holding hholding, Option.map_none,
            ← h holding hholding]
    · rfl
  exact congrArg Session.mk hholdings

/-- **A refused step leaves the session as it was.** -/
theorem step_of_refused (hs : s.SourcesOfResults) {step : Step} {e : Error}
    (h : (s.step step).1 = .refused e) : (s.step step).2 = s := by
  cases step with
  | make m =>
      rw [Session.step] at h ⊢
      cases hmake : s.make? m with
      | ok made => simp [hmake] at h
      | error e => rfl
  | read r => rfl
  | write w =>
      cases w with
      | changeSource i name value =>
          refine changeSource_of_unsourced (fun holding hholding => ?_) name value
          -- What has a source table is a result, which would have answered with its captures.
          by_contra hsource
          obtain ⟨success, captures, hobject⟩ :=
            hs holding (List.mem_of_getElem? hholding) hsource
          have hresult : s.object? i = .ok (.result success captures) := by
            rw [object?, objects, List.getElem?_map, hholding, Option.map_some, hobject]
          rw [(step_changeSource hresult name value).1] at h
          exact Answer.noConfusion h
      | assign | delete | assignCapture => rfl

/-! ## Without the writing steps -/

theorem make?_congr (h : s.objects = t.objects) (m : Making) : s.make? m = t.make? m := by
  have hobject : ∀ i, s.object? i = t.object? i := fun i => by rw [object?, object?, h]
  cases m with
  | expectation key value => rw [make?, make?, hobject]
  | verdict name template base request => rw [make?, make?, template?, template?, hobject]
  | template | result | failed | part => rfl

/-- A step that is no writing one answers by the objects, and depends on nothing else. -/
theorem step_congr (h : s.objects = t.objects) {step : Step} (hstep : step.isWriting = false) :
    (s.step step).1 = (t.step step).1 ∧ (s.step step).2.objects = (t.step step).2.objects := by
  have hlength : s.holdings.length = t.holdings.length := by
    simpa [objects] using congrArg List.length h
  refine ⟨?_, ?_⟩
  · cases step with
    | make m =>
        simp only [Session.step, make?_congr h m, hlength]
        cases t.make? m <;> rfl
    | read r =>
        have hread : s.read? r = t.read? r := read?_congr fun i _ => by rw [object?, object?, h]
        simp only [Session.step, hread]
    | write w => exact absurd hstep (by simp [Step.isWriting])
  · rw [objects_step, objects_step]
    cases step with
    | make m => simp only [make?_congr h m, h]
    | read r => exact h
    | write w => exact absurd hstep (by simp [Step.isWriting])

/-- **The other steps do not notice the writing ones.**  Without these, the answers of all other steps
are what they are with them. -/
theorem run_filter_not_isWriting (steps : List Step) (h : s.objects = t.objects) :
    t.run (steps.filter (!·.isWriting))
      = ((steps.zip (s.run steps)).filter (!·.1.isWriting)).map Prod.snd := by
  induction steps generalizing s t with
  | nil => rfl
  | cons step steps ih =>
      rw [run, List.zip_cons_cons]
      cases hstep : step.isWriting with
      | true =>
          obtain ⟨w, rfl⟩ : ∃ w, step = .write w := by
            cases step with
            | write w => exact ⟨w, rfl⟩
            | make | read => simp [Step.isWriting] at hstep
          rw [List.filter_cons_of_neg (by simp [hstep]), List.filter_cons_of_neg (by simp [hstep])]
          exact ih ((objects_write s w).trans h)
      | false =>
          obtain ⟨hanswer, hobjects⟩ := step_congr h hstep
          rw [List.filter_cons_of_pos (by simp [hstep]), List.filter_cons_of_pos (by simp [hstep]),
            run, List.map_cons, ih hobjects, hanswer]

/-! ## Values stay fixed -/

/-- **Values stay fixed.**  A reading of objects that a run has made is answered alike at every later
point, whatever steps come between.  Assignments and deletions are refused, and so is an assignment
to a capture; a change of the table that a result was made from is kept in this table and does not
reach the result.  A step that is refused leaves the session as it was, and the answers of the other
steps do not depend on whether the writing ones are taken. -/
theorem values_stay_fixed (steps : List Step) :
    let s := initial.afterAll steps
    (∀ step, initial.run (steps ++ [step]) = initial.run steps ++ [(s.step step).1]) ∧
    (∀ r : Reading, (∀ i ∈ r.positions, i < s.objects.length) → ∀ between,
      ((s.afterAll between).step (.read r)).1 = (s.step (.read r)).1) ∧
    (∀ i < s.objects.length, ∀ field value,
      s.step (.write (.assign i field value)) = (.refused (.frozenAssign field), s) ∧
      s.step (.write (.delete i field)) = (.refused (.frozenDelete field), s)) ∧
    (∀ i success captures, s.object? i = .ok (.result success captures) →
      (∀ name value,
        s.step (.write (.assignCapture i name value)) = (.refused .frozenCaptures, s)) ∧
      ∀ name value,
        let after := s.step (.write (.changeSource i name value))
        after.1 = .content (.captures captures) ∧ after.2.object? i = .ok (.result success captures) ∧
          (after.2.holdings[i]?.bind (·.source))
            = (s.holdings[i]?.bind (·.source)).map (·.put name value)) ∧
    (∀ step e, (s.step step).1 = .refused e → (s.step step).2 = s) ∧
    initial.run (steps.filter (!·.isWriting))
      = ((steps.zip (initial.run steps)).filter (!·.1.isWriting)).map Prod.snd := by
  intro s
  refine ⟨run_concat initial steps, fun r hr between => ?_,
    fun i hi field value => step_assign_and_delete hi field value,
    fun i success captures hresult =>
      ⟨step_assignCapture hresult, step_changeSource hresult⟩,
    fun step e he => step_of_refused (sourcesOfResults_afterAll steps) he,
    run_filter_not_isWriting steps rfl⟩
  simp only [step, read?_afterAll hr between]

/-- A result made by hand equals the one of a match, and both stay what they are while the table of
the first is changed, a field of the second is assigned and steps are refused. -/
theorem values_stay_fixed_changed_source :
    let source : Table Text := Table.ofList [(['a'], ['1'])]
    let base : Uri := .text "http://h".toList
    let steps : List Step := [.make (.template (.text "/\x7ba\x7d".toList)),
      .make (.verdict .short 0 base (.text "/1/".toList)), .make (.result (.bool true) source)]
    let between : List Step := [.write (.changeSource 2 ['a'] ['2']),
      .write (.assign 1 "success".toList (.bool false)), .make (.template .none),
      .make (.verdict .full 2 base base), .make .failed]
    let s := initial.afterAll steps
    (∀ i ∈ (Reading.same 1 2).positions, i < s.objects.length) ∧
      s.object? 2 = .ok (.result (.bool true) source) ∧
      (s.afterAll between).objects.length = 4 ∧
      ((s.afterAll between).step (.read (.same 1 2))).1 = .content (.truth true) ∧
      (s.step (.write (.changeSource 2 ['a'] ['2']))).1 = .content (.captures source) ∧
      s.step (.write (.assign 1 "success".toList (.bool false)))
        = (.refused (.frozenAssign "success".toList), s) ∧
      (s.step (.make (.verdict .full 2 base base))).2 = s := by
  intro source base steps between s
  have hpositions : ∀ i ∈ (Reading.same 1 2).positions, i < s.objects.length := by
    have hlength : s.objects.length = 3 := by rfl
    simp [Reading.positions, hlength]
  have hmatched : s.object? 1 = .ok (.result (.bool true) source) := by rfl
  have hresult : s.object? 2 = .ok (.result (.bool true) source) := by rfl
  have hsame : (s.step (.read (.same 1 2))).1 = .content (.truth true) := by
    simp only [step, read?, hmatched, hresult]
    rfl
  have hrefusal : (s.step (.make (.verdict .full 2 base base))).1
      = .refused (.lacks "MatchingResult".toList (.attribute "is_match")) := by rfl
  obtain ⟨-, hread, hrefused, hwritten, hunchanged, -⟩ := values_stay_fixed steps
  have hlater := (hread (.same 1 2) hpositions between).trans hsame
  have hcaptures := (hwritten 2 (.bool true) source hresult).2 ['a'] ['2']
  have hassign := hrefused 1 (hpositions 1 List.mem_cons_self) "success".toList (.bool false)
  exact ⟨hpositions, hresult, by rfl, hlater, hcaptures.1, hassign.1,
    hunchanged _ (.lacks "MatchingResult".toList (.attribute "is_match")) hrefusal⟩

end UriRouting.Session
