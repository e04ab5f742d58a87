import Mathlib.Data.Finset.Dedup
import Mathlib.Data.Set.Card
import UriRouting.Proofs.FixedValues
import UriRouting.Proofs.Matching

/-!
# Equality and sets of objects

Objects are compared class by class, and results by their bindings in any order. What is compared can
be said by one value, the contents of an object; so equality is an equivalence, objects with equal
hash inputs are found in a set, and a set holds one member for each class of equal objects.

## Main Definitions

- `Object.IsMade`: the objects that sessions make, if results made by hand state truth values.
- `Object.Contents`, `Object.contents`: what equality compares.
- `Object.HashInput`, `Object.hashInput`: what the hash of an object is computed from.
- `Object.setOf`: the set built from a list with a hash function.
- `Object.equalityClasses`: the classes of equal objects in a list.

## Main Statements

- `Object.isMade_iff`: what sessions make.
- `Object.same_iff`: objects are equal exactly if their contents are.
- `Object.length_setOf`, `Object.distinct?_eq`: how many members a set has.
- `Object.equality_and_hashing`: equality and hashing are coherent.

## Design Notes

Nothing is said about how a hash is computed from its input: the statements hold for every hash
function. A set compares an object only with members of the same hash.
-/

namespace UriRouting

/-- The bindings of a table as a set. -/
def Table.items (t : Table Text) : Finset (Text × Text) := t.entries.toFinset

theorem Table.items_eq_iff {s t : Table Text} : s.items = t.items ↔ ∀ n, s.get? n = t.get? n := by
  simp only [Finset.ext_iff, items, List.mem_toFinset, Prod.forall, ← get?_eq_some_iff]
  exact forall_congr' fun n => Option.ext_iff.symm

namespace Session

/-- A result made by hand states a truth value. -/
def Step.StatesTruth : Step → Prop
  | .make (.result success _) => ∃ b, success = .bool b
  | _ => True

end Session

namespace Object

/-! ## Objects that sessions make -/

/-- A session makes the object, and the results made by hand in it state truth values. -/
def IsMade (o : Object) : Prop :=
  ∃ steps : List Session.Step, (∀ step ∈ steps, step.StatesTruth) ∧
    o ∈ (Session.initial.afterAll steps).objects

/-- A result in the object states a truth value. -/
def StatesTruth : Object → Prop
  | .result success _ => ∃ b, success = .bool b
  | .expectation _ value => value.StatesTruth
  | .template _ | .part _ => True

/-- What a making step makes states a truth value if the objects there do. -/
theorem statesTruth_of_make? {s : Session} (hs : ∀ o ∈ s.objects, o.StatesTruth)
    {m : Session.Making} (hm : (Session.Step.make m).StatesTruth)
    {made : Session.Holding × Option Verdict} (h : s.make? m = .ok made) :
    made.1.object.StatesTruth := by
  have hmade := Session.make?_eq_ok h
  cases m with
  | result success source =>
      rw [hmade]
      exact hm
  | failed =>
      rw [hmade]
      exact ⟨false, rfl⟩
  | part p =>
      rw [hmade]
      exact trivial
  | template source =>
      obtain ⟨t, -, rfl⟩ := hmade
      exact trivial
  | expectation key value =>
      obtain ⟨o, ho, rfl⟩ := hmade
      exact hs o (Session.mem_objects_of_object? ho)
  | verdict name template base request =>
      obtain ⟨t, v, -, -, rfl⟩ := hmade
      exact ⟨v.success, rfl⟩

theorem statesTruth_step {s : Session} (hs : ∀ o ∈ s.objects, o.StatesTruth) {step : Session.Step}
    (hstep : step.StatesTruth) : ∀ o ∈ (s.step step).2.objects, o.StatesTruth := by
  rw [Session.objects_step]
  cases step with
  | make m =>
      dsimp only
      split
      · next made hmade =>
        rw [List.forall_mem_append, List.forall_mem_singleton]
        exact ⟨hs, statesTruth_of_make? hs hstep hmade⟩
      · exact hs
  | read | write => exact hs

/-- What a making step adds to a session is made by a session. -/
theorem isMade_of_make? {steps : List Session.Step} (hsteps : ∀ step ∈ steps, step.StatesTruth)
    {m : Session.Making} (hm : (Session.Step.make m).StatesTruth)
    {made : Session.Holding × Option Verdict}
    (h : (Session.initial.afterAll steps).make? m = .ok made) : made.1.object.IsMade := by
  refine ⟨steps ++ [.make m], ?_, ?_⟩
  · rw [List.forall_mem_append, List.forall_mem_singleton]
    exact ⟨hsteps, hm⟩
  · rw [Session.afterAll_append, Session.afterAll, List.foldl_cons, List.foldl_nil,
      Session.objects_step]
    simp only [h]
    exact List.mem_append_right _ List.mem_cons_self

/-- An expectation is made after its value, to whose position it refers. -/
theorem isMade_expectation {value : Object} (h : value.IsMade) (key : Text) :
    (expectation key value).IsMade := by
  obtain ⟨steps, hsteps, hvalue⟩ := h
  obtain ⟨i, hi⟩ := List.getElem?_of_mem hvalue
  have hmake : (Session.initial.afterAll steps).make? (.expectation key i)
      = .ok (⟨.expectation key value, none⟩, none) := by
    rw [Session.make?, Session.object?, hi]
    rfl
  exact isMade_of_make? hsteps (m := .expectation key i) trivial hmake

/-- **What sessions make**: the objects whose results state truth values. -/
theorem isMade_iff {o : Object} : o.IsMade ↔ o.StatesTruth := by
  constructor
  · rintro ⟨steps, hsteps, ho⟩
    exact Session.afterAll_induction (p := fun s => ∀ o ∈ s.objects, o.StatesTruth)
      (fun _ step hmem hs => statesTruth_step hs (hsteps step hmem))
      (by simp [Session.objects, Session.initial]) o ho
  · intro h
    have hnone : ∀ step ∈ ([] : List Session.Step), step.StatesTruth := by simp
    induction o with
    | template t => exact isMade_of_make? hnone (m := .template (.text t.source)) trivial rfl
    | result success captures => exact isMade_of_make? hnone (m := .result success captures) h rfl
    | part p => exact isMade_of_make? hnone (m := .part p) trivial rfl
    | expectation key value ih => exact isMade_expectation (ih h) key

/-! ## What is compared -/

/-- What equality compares. The order of captures does not count. -/
inductive Contents where
  | template (source : Text)
  | result (success : Value) (items : Finset (Text × Text))
  | part (p : Part)
  | expectation (key : Text) (value : Contents)

/-- The contents of an object. -/
def contents : Object → Contents
  | .template t => .template t.source
  | .result success captures => .result success captures.items
  | .part p => .part p
  | .expectation key value => .expectation key value.contents

/-- Two results are equal exactly if they state the same success and bind every name alike. -/
theorem same_result_iff {b b' : Bool} {captures captures' : Table Text} :
    (Object.result (.bool b) captures).same (.result (.bool b') captures') = true ↔
      b = b' ∧ ∀ n, captures.get? n = captures'.get? n := by
  have hsuccess : (Value.bool b).same (.bool b') = true ↔ b = b' := by
    cases b <;> cases b' <;> simp [Value.same, Value.integer?]
  rw [same, Bool.and_eq_true, hsuccess, Table.sameBindings_iff]

theorem same_template_iff {t u : Template} :
    (Object.template t).same (.template u) = true ↔ t.source = u.source := by
  obtain ⟨source⟩ := t
  obtain ⟨source'⟩ := u
  simp [same]

/-- **Objects are equal exactly if their contents are.** -/
theorem same_iff {o p : Object} (ho : o.StatesTruth) (hp : p.StatesTruth) :
    o.same p = true ↔ o.contents = p.contents := by
  induction o generalizing p with
  | template t =>
      cases p with
      | template u => rw [same_template_iff, contents, contents, Contents.template.injEq]
      | result | part | expectation => simp [same, contents]
  | result success captures =>
      cases p with
      | result success' captures' =>
          obtain ⟨b, rfl⟩ := ho
          obtain ⟨b', rfl⟩ := hp
          rw [same_result_iff, contents, contents, Contents.result.injEq, Value.bool.injEq,
            Table.items_eq_iff]
      | template | part | expectation => simp [same, contents]
  | part q =>
      cases p with
      | part q' => simp [same, contents]
      | template | result | expectation => simp [same, contents]
  | expectation key value ih =>
      cases p with
      | expectation key' value' =>
          rw [same, Bool.and_eq_true, decide_eq_true_eq, @ih value' ho hp, contents, contents,
            Contents.expectation.injEq]
      | template | result | part => simp [same, contents]

/-- Equal objects are of one class. -/
theorem className_eq_of_same {o p : Object} (h : o.same p = true) : o.className = p.className := by
  fun_induction same o p with
  | case1 | case2 | case4 => rfl
  | case3 q q' => rw [of_decide_eq_true h]
  | case5 => exact absurd h Bool.false_ne_true

/-! ## Hashing -/

/-- What the hash of an object is computed from: the fields that are compared, the captures as a set
of bindings. The class of an object does not count. -/
inductive HashInput where
  | text (t : Text)
  | outcome (success : Value) (items : Finset (Text × Text))
  | pair (key : Text) (value : HashInput)

/-- The hash input of an object. -/
def hashInput : Object → HashInput
  | .template t => .text t.source
  | .result success captures => .outcome success captures.items
  | .part (.literal text) | .part (.literalValue text) => .text text
  | .part (.variable name) => .text name
  | .expectation key value => .pair key value.hashInput

/-- **Equal objects have the same hash input.** -/
theorem hashInput_eq_of_same {o p : Object} (ho : o.StatesTruth) (hp : p.StatesTruth)
    (h : o.same p = true) : o.hashInput = p.hashInput := by
  fun_induction same o p with
  | case1 t u => rw [of_decide_eq_true h]
  | case2 success captures success' captures' =>
      obtain ⟨b, rfl⟩ := ho
      obtain ⟨b', rfl⟩ := hp
      obtain ⟨rfl, hbindings⟩ := same_result_iff.mp h
      rw [hashInput, hashInput, Table.items_eq_iff.mpr hbindings]
  | case3 q q' => rw [of_decide_eq_true h]
  | case4 key value key' value' ih =>
      rw [Bool.and_eq_true, decide_eq_true_eq] at h
      rw [hashInput, hashInput, h.1, ih ho hp h.2]
  | case5 => exact absurd h Bool.false_ne_true

/-! ## Sets of objects -/

/-- The classes of equal objects in a list. -/
def equalityClasses (objects : List Object) : Set (Set Object) :=
  {c | ∃ o ∈ objects, c = {p | p ∈ objects ∧ o.same p = true}}

/-- The members of a set after an object is put into it. It is left out if it equals a member with the
same hash. -/
def addToSet (hash : HashInput → Nat) (members : List Object) (o : Object) : List Object :=
  if members.any fun p => hash p.hashInput = hash o.hashInput && p.same o then members
  else members ++ [o]

/-- The members of the set built from a list. -/
def setOf (hash : HashInput → Nat) (objects : List Object) : List Object :=
  objects.foldl (addToSet hash) []

section Counting

variable {objects members : List Object} (hash : HashInput → Nat)

/-- A list of different contents, which are those of the objects, has one for each class. -/
theorem ncard_equalityClasses (h : ∀ o ∈ objects, o.StatesTruth) {l : List Contents} (hl : l.Nodup)
    (hmem : ∀ c, c ∈ l ↔ c ∈ objects.map contents) : (equalityClasses objects).ncard = l.length := by
  classical
  have himage : equalityClasses objects
      = (fun c => {p | p ∈ objects ∧ c = p.contents}) '' (l.toFinset : Set Contents) := by
    have hclass : ∀ o ∈ objects, {p | p ∈ objects ∧ o.same p = true}
        = {p | p ∈ objects ∧ o.contents = p.contents} := by
      intro o ho
      ext p
      exact and_congr_right fun hp => same_iff (h o ho) (h p hp)
    ext c
    simp only [Set.mem_image, List.coe_toFinset, Set.mem_ofPred_eq, hmem, List.mem_map,
      exists_exists_and_eq_and]
    constructor
    · rintro ⟨o, ho, rfl⟩
      exact ⟨o, ho, (hclass o ho).symm⟩
    · rintro ⟨o, ho, rfl⟩
      exact ⟨o, ho, (hclass o ho).symm⟩
  have hinj : Set.InjOn (fun c => {p | p ∈ objects ∧ c = p.contents}) (l.toFinset : Set Contents) := by
    intro c hc d _ hcd
    obtain ⟨o, ho, rfl⟩ := List.mem_map.mp ((hmem c).mp (List.mem_toFinset.mp hc))
    exact ((Set.ext_iff.mp hcd o).mp ⟨ho, rfl⟩).2.symm
  rw [himage, hinj.ncard_image, Set.ncard_coe_finset, List.toFinset_card_of_nodup hl]

/-- An object is left out exactly if a member has its contents, whatever the hash function. -/
theorem any_same_iff {o : Object} (hmembers : ∀ p ∈ members, p.StatesTruth) (ho : o.StatesTruth) :
    (members.any fun p => hash p.hashInput = hash o.hashInput && p.same o) = true ↔
      o.contents ∈ members.map contents := by
  rw [List.any_eq_true, List.mem_map]
  refine exists_congr fun p => and_congr_right fun hp => ?_
  rw [Bool.and_eq_true, decide_eq_true_eq, ← same_iff (hmembers p hp) ho]
  exact and_iff_right_of_imp fun h => by rw [hashInput_eq_of_same (hmembers p hp) ho h]

theorem forall_mem_addToSet {o : Object} {q : Object → Prop} (hmembers : ∀ p ∈ members, q p)
    (ho : q o) : ∀ p ∈ addToSet hash members o, q p := by
  unfold addToSet
  split
  · exact hmembers
  · rw [List.forall_mem_append, List.forall_mem_singleton]
    exact ⟨hmembers, ho⟩

/-- Putting an object into a set keeps its members different and adds the contents of the object. -/
theorem contents_addToSet {o : Object} (hmembers : ∀ p ∈ members, p.StatesTruth)
    (ho : o.StatesTruth) (hnodup : (members.map contents).Nodup) :
    ((addToSet hash members o).map contents).Nodup ∧
      ∀ c, c ∈ (addToSet hash members o).map contents ↔
        c ∈ members.map contents ∨ c = o.contents := by
  have hany := any_same_iff hash hmembers ho
  unfold addToSet
  split
  · next hpresent =>
    refine ⟨hnodup, fun c => (or_iff_left_of_imp ?_).symm⟩
    rintro rfl
    exact hany.mp hpresent
  · next habsent =>
    rw [List.map_append, List.map_singleton]
    refine ⟨?_, fun c => by rw [List.mem_append, List.mem_singleton]⟩
    rw [← List.concat_eq_append, List.nodup_concat]
    exact ⟨mt hany.mpr habsent, hnodup⟩

/-- The contents of the members of a set are different, and they are those of the objects. -/
theorem contents_foldl_addToSet (hmembers : ∀ p ∈ members, p.StatesTruth)
    (hobjects : ∀ o ∈ objects, o.StatesTruth) (hnodup : (members.map contents).Nodup) :
    ((objects.foldl (addToSet hash) members).map contents).Nodup ∧
      ∀ c, c ∈ (objects.foldl (addToSet hash) members).map contents ↔
        c ∈ members.map contents ∨ c ∈ objects.map contents := by
  induction objects generalizing members with
  | nil => exact ⟨hnodup, fun c => by simp⟩
  | cons o objects ih =>
      rw [List.forall_mem_cons] at hobjects
      obtain ⟨hstep, hmem⟩ := contents_addToSet hash hmembers hobjects.1 hnodup
      obtain ⟨hrest, hcontents⟩ :=
        ih (forall_mem_addToSet hash hmembers hobjects.1) hobjects.2 hstep
      refine ⟨hrest, fun c => (hcontents c).trans ?_⟩
      rw [hmem, List.map_cons, List.mem_cons, or_assoc]

/-- **A set has a member for each class of equal objects**, whatever the hash function. -/
theorem length_setOf (h : ∀ o ∈ objects, o.StatesTruth) :
    (setOf hash objects).length = (equalityClasses objects).ncard := by
  obtain ⟨hnodup, hmem⟩ := @contents_foldl_addToSet objects [] hash (by simp) h List.nodup_nil
  have hcontents : ∀ c, c ∈ (setOf hash objects).map contents ↔ c ∈ objects.map contents :=
    fun c => (hmem c).trans (by simp)
  rw [ncard_equalityClasses h hnodup hcontents, List.length_map, setOf]

theorem mem_of_mem_representatives {o : Object} (h : o ∈ representatives objects) :
    o ∈ objects := by
  induction objects with
  | nil => exact h
  | cons p objects ih =>
      rw [representatives] at h
      split at h
      · exact List.mem_cons_of_mem _ (ih h)
      · rcases List.mem_cons.mp h with rfl | h
        · exact List.mem_cons_self
        · exact List.mem_cons_of_mem _ (ih h)

open Classical in
/-- The representatives have the contents of the objects, each once. -/
theorem map_contents_representatives (h : ∀ o ∈ objects, o.StatesTruth) :
    (representatives objects).map contents = (objects.map contents).dedup := by
  induction objects with
  | nil => rfl
  | cons o objects ih =>
      rw [List.forall_mem_cons] at h
      have hany : (representatives objects).any o.same = true ↔
          o.contents ∈ objects.map contents := by
        rw [← List.mem_dedup, ← ih h.2, List.any_eq_true, List.mem_map]
        refine exists_congr fun p => and_congr_right fun hp => ?_
        rw [same_iff h.1 (h.2 p (mem_of_mem_representatives hp)), eq_comm]
      rw [representatives, List.map_cons]
      split
      · next hpresent => rw [ih h.2, List.dedup_cons_of_mem (hany.mp hpresent)]
      · next habsent =>
        rw [List.map_cons, ih h.2, List.dedup_cons_of_notMem (mt hany.mpr habsent)]

/-- An object whose results state truth values can stand in a set. -/
theorem unhashable?_eq_none {o : Object} (h : o.StatesTruth) : o.unhashable? = none := by
  induction o with
  | template | part => rfl
  | result success captures =>
      obtain ⟨b, rfl⟩ := h
      rfl
  | expectation key value ih => exact ih h

/-- **How many different objects a list holds**: one for each class of equal objects. -/
theorem distinct?_eq (h : ∀ o ∈ objects, o.StatesTruth) :
    distinct? objects = .ok (equalityClasses objects).ncard := by
  classical
  have hhashable : objects.findSome? unhashable? = none :=
    List.findSome?_eq_none_iff.mpr fun o ho => unhashable?_eq_none (h o ho)
  have hlength : (representatives objects).length = (equalityClasses objects).ncard := by
    rw [ncard_equalityClasses h (List.nodup_dedup _) (fun c => List.mem_dedup),
      ← map_contents_representatives h, List.length_map]
  rw [distinct?, hhashable, hlength]

/-- The classes do not depend on the order of the list. -/
theorem equalityClasses_perm {objects' : List Object} (h : objects.Perm objects') :
    equalityClasses objects = equalityClasses objects' := by
  simp only [equalityClasses, h.mem_iff]

end Counting

/-! ## Coherence -/

/-- **Equality and hashing are coherent** on what sessions make, if results made by hand state truth
values.  Equality is an equivalence that keeps classes apart.  Results are equal exactly if they
state the same success and bind every name alike, templates exactly if their sources are equal, and
equal objects have the same hash input, which for a result is its success and the set of its
bindings.  The set built from a list has one member for each class of equal objects in the list,
with any hash function and in any order of the list. -/
theorem equality_and_hashing :
    (∀ o : Object, o.IsMade → o.same o = true) ∧
    (∀ o p : Object, o.IsMade → p.IsMade → o.same p = p.same o) ∧
    (∀ o p q : Object, o.IsMade → p.IsMade → q.IsMade →
      o.same p = true → p.same q = true → o.same q = true) ∧
    (∀ o p : Object, o.IsMade → p.IsMade → o.className ≠ p.className → o.same p = false) ∧
    (∀ (b b' : Bool) (captures captures' : Table Text),
      ((result (.bool b) captures).same (result (.bool b') captures') = true ↔
        b = b' ∧ ∀ n, captures.get? n = captures'.get? n) ∧
      (result (.bool b) captures).hashInput = .outcome (.bool b) captures.entries.toFinset) ∧
    (∀ o p : Object, o.IsMade → p.IsMade → o.same p = true → o.hashInput = p.hashInput) ∧
    (∀ t u : Template, (template t).same (template u) = true ↔ t.source = u.source) ∧
    ∀ objects : List Object, (∀ o ∈ objects, o.IsMade) →
      distinct? objects = .ok (equalityClasses objects).ncard ∧
      ∀ hash : HashInput → Nat, ∀ objects', objects.Perm objects' →
        (setOf hash objects').length = (equalityClasses objects).ncard := by
  simp only [isMade_iff]
  refine ⟨fun o ho => ?_, fun o p ho hp => ?_, fun o p q ho hp hq hop hpq => ?_,
    fun o p ho hp hclass => ?_, fun b b' captures captures' => ⟨same_result_iff, rfl⟩,
    fun o p ho hp hsame => ?_, fun t u => same_template_iff, fun objects hobjects => ?_⟩
  · exact (same_iff ho ho).mpr rfl
  · rw [Bool.eq_iff_iff, same_iff ho hp, same_iff hp ho]
    exact eq_comm
  · exact (same_iff ho hq).mpr (((same_iff ho hp).mp hop).trans ((same_iff hp hq).mp hpq))
  · exact Bool.eq_false_iff.mpr (mt className_eq_of_same hclass)
  · exact hashInput_eq_of_same ho hp hsame
  · refine ⟨distinct?_eq hobjects, fun hash objects' hperm => ?_⟩
    rw [equalityClasses_perm hperm]
    exact length_setOf hash fun o ho => hobjects o (hperm.mem_iff.mpr ho)

/-- Captures in two orders, alone and inside expectations, and two parts of different classes with one
hash input. -/
theorem equality_and_hashing_reordered_captures :
    let o : Object := result (.bool true) (Table.ofList [(['a'], ['1']), (['b'], ['2'])])
    let p : Object := result (.bool true) (Table.ofList [(['b'], ['2']), (['a'], ['1'])])
    let l : Object := part (.literal ['x'])
    let v : Object := part (.variable ['x'])
    let objects : List Object := [o, l, expectation ['k'] o, v, p, expectation ['k'] p]
    (∀ q ∈ objects, q.IsMade) ∧ o.same p = true ∧ o.hashInput = p.hashInput ∧
      l.className ≠ v.className ∧ l.same v = false ∧ l.hashInput = v.hashInput ∧
      (equalityClasses objects).ncard = 4 ∧
      ∀ hash, (setOf hash objects.reverse).length = 4 := by
  intro o p l v objects
  have hmade : ∀ q ∈ objects, q.IsMade := by
    simp only [isMade_iff]
    simp [objects, o, p, l, v, StatesTruth]
  have ho : o.IsMade := hmade o (by simp [objects])
  have hp : p.IsMade := hmade p (by simp [objects])
  have hclass : l.className ≠ v.className := by decide
  obtain ⟨-, -, -, hapart, -, hhash, -, hsets⟩ := equality_and_hashing
  have hsame : o.same p = true := by rfl
  obtain ⟨hcount, hlength⟩ := hsets objects hmade
  have hfour : (equalityClasses objects).ncard = 4 := Except.ok.inj (hcount.symm.trans (by rfl))
  exact ⟨hmade, hsame, hhash o p ho hp hsame, hclass,
    hapart l v (hmade l (by simp [objects])) (hmade v (by simp [objects])) hclass, rfl, hfour,
    fun hash => (hlength hash objects.reverse objects.reverse_perm.symm).trans hfour⟩

end Object

end UriRouting
