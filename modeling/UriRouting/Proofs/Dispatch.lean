import UriRouting.Proofs.Ambiguity
import UriRouting.Proofs.Captures
import UriRouting.Routes.Example

/-!
# First come, first served

A request goes to the first route of a table that it fits, and its handler is the only one that is
called. The search through the table is a loop; here it is said as a look-up. From this follows what
the order of a table is good for: a route at the end only serves requests that had no reply before,
and routes that exclude each other can change places.

## Main Definitions

- `Route.calls`: the calls that are made for a request.
- `Route.hit?`: what a search finds at a route.
- `Template.Apart`: templates whose paths differ in length or in a literal.
- `Registration.route?`: the route that a registration adds.

## Main Statements

- `Route.selected_search?`: a search is a look-up.
- `Route.run_serve_cases`: what is done for a request.
- `Route.serve_append`, `Route.serve_swap`: what does not change if a table is changed.
- `Example.tableAfter_eq`: the tables that registrations lead to.
- `Example.dispatch?_first_match`: which handler is called, and with which arguments.

## Design Notes

A request that is refused is refused at the first route. An empty table has nothing to refuse it
with, so that it makes a difference there whether a route is added.
-/

namespace UriRouting

/-! ## Calls -/

/-- The call of a handler that takes a list of arguments succeeds exactly if these are the names
that are handed over. -/
theorem Handler.exists_call_eq_ok_iff {h : Handler} {arguments : Table Text} :
    (∃ reply, h.call arguments = .ok reply) ↔
      ∀ parameters, h.parameters = some parameters →
        ∀ n, n ∈ parameters ↔ n ∈ arguments.names := by
  rw [call]
  cases h.parameters with
  | none => simp
  | some parameters =>
      simp only [Option.some.injEq, forall_eq']
      cases hunexpected : arguments.names.find? fun n => !parameters.contains n with
      | some n =>
          have hname := List.mem_of_find?_eq_some hunexpected
          have hforeign := List.find?_some hunexpected
          refine iff_of_false (by simp) fun hsame => ?_
          exact absurd ((hsame n).mpr hname) (by simpa using hforeign)
      | none =>
          have hexpected : ∀ n ∈ arguments.names, n ∈ parameters := by
            simpa using hunexpected
          cases hmissing : parameters.filter fun p => !arguments.names.contains p with
          | nil =>
              refine iff_of_true ⟨_, rfl⟩ fun n => ⟨fun hn => ?_, hexpected n⟩
              simpa using List.filter_eq_nil_iff.mp hmissing n hn
          | cons p missing =>
              have hp : p ∈ parameters.filter fun p => !arguments.names.contains p := by
                rw [hmissing]
                exact List.mem_cons_self
              rw [List.mem_filter] at hp
              refine iff_of_false (by simp) fun hsame => ?_
              exact absurd ((hsame p).mp hp.1) (by simpa using hp.2)

namespace Route

/-! ## The search -/

/-- What a search finds at a route: the route with the captures, if the request fits it. -/
def hit? (base request : Uri) (r : Route) : Option (Route × Table Text) :=
  match r.template.verdict? base request with
  | .ok v => if v.success then some (r, v.captures) else none
  | .error _ => none

variable {base request : Uri} {b q : Target}

theorem hit?_eq_some_iff {r s : Route} {arguments : Table Text} :
    r.hit? base request = some (s, arguments) ↔
      s = r ∧ ∃ v, r.template.verdict? base request = .ok v ∧ v.success = true ∧
        arguments = v.captures := by
  rw [hit?]
  cases r.template.verdict? base request with
  | error e => simp
  | ok v =>
      constructor
      · intro h
        cases hsuccess : v.success
        · simp [hsuccess] at h
        · obtain ⟨rfl, rfl⟩ : r = s ∧ v.captures = arguments := by simpa [hsuccess] using h
          exact ⟨rfl, v, rfl, hsuccess, rfl⟩
      · rintro ⟨rfl, w, hw, hsuccess, rfl⟩
        obtain rfl := Except.ok.inj hw
        exact if_pos hsuccess

theorem hit?_eq_none_iff {r : Route} :
    r.hit? base request = none ↔ ¬ r.template.Accepts base request := by
  rw [hit?, Template.Accepts]
  cases r.template.verdict? base request with
  | error e => simp
  | ok v => simp

/-- One step of a search: it ends at a route that the request fits, and else goes on. -/
theorem search?_cons {r : Route} {o : Outcome} (h : r.template.outcome? base request = .ok o)
    (rest : List Route) :
    search? base request (r :: rest)
      = if o.verdict.success then
          .ok ⟨some (r, o.verdict.captures), o.findings request.render r.template.source⟩
        else (search? base request rest).map fun later =>
          ⟨later.selected, o.findings request.render r.template.source ++ later.findings⟩ := by
  rw [search?, h]
  cases hsuccess : o.verdict.success
  · cases search? base request rest <;>
      simp [hsuccess, bind, Except.bind, pure, Except.pure, Except.map]
  · simp [hsuccess, bind, Except.bind, pure, Except.pure]

/-- **A search is a look-up.**  It selects the first route of the table that the request fits. -/
theorem selected_search? (hbase : base.target? = .ok b) (hrequest : request.target? = .ok q)
    (table : List Route) :
    (search? base request table).map Search.selected
      = .ok (table.findSome? (hit? base request)) := by
  induction table with
  | nil => rfl
  | cons r rest ih =>
      have houtcome : r.template.outcome? base request = .ok (r.template.outcome b.path q) := by
        rw [Template.outcome?, hbase, hrequest]
      have hverdict : r.template.verdict? base request
          = .ok (r.template.outcome b.path q).verdict := by
        rw [Template.verdict?, houtcome]
        rfl
      rw [search?_cons houtcome, List.findSome?_cons, hit?, hverdict]
      cases hsuccess : (r.template.outcome b.path q).verdict.success
      · cases hrest : search? base request rest with
        | error e => simp [hrest, Except.map] at ih
        | ok later =>
            have hselected : later.selected = rest.findSome? (hit? base request) := by
              simpa [hrest, Except.map] using ih
            simpa [hsuccess, Except.map] using hselected
      · simp [hsuccess, Except.map]

/-- A request that is refused is refused at the first route. -/
theorem search?_of_refused (hbase : base.target? = .ok b) {e : UriError}
    (hrequest : request.target? = .error e) {table : List Route} (hne : table ≠ []) :
    search? base request table = .error e := by
  obtain ⟨r, rest, rfl⟩ := List.exists_cons_of_ne_nil hne
  have houtcome : r.template.outcome? base request = .error e := by
    rw [Template.outcome?, hbase, hrequest]
  rw [search?, houtcome]
  rfl

/-- The first route that a request fits comes after routes that it does not fit. -/
theorem findSome?_hit?_eq_some_iff {table : List Route} {r : Route} {arguments : Table Text} :
    table.findSome? (hit? base request) = some (r, arguments) ↔
      ∃ before after v, table = before ++ r :: after ∧
        (∀ s ∈ before, ¬ s.template.Accepts base request) ∧
        r.template.verdict? base request = .ok v ∧ v.success = true ∧ arguments = v.captures := by
  simp only [List.findSome?_eq_some_iff, hit?_eq_some_iff, hit?_eq_none_iff]
  constructor
  · rintro ⟨before, s, after, htable, ⟨rfl, v, hverdict, hsuccess, hcaptures⟩, hbefore⟩
    exact ⟨before, after, v, htable, hbefore, hverdict, hsuccess, hcaptures⟩
  · rintro ⟨before, after, v, htable, hbefore, hverdict, hsuccess, hcaptures⟩
    exact ⟨before, r, after, htable, ⟨rfl, v, hverdict, hsuccess, hcaptures⟩, hbefore⟩

theorem findSome?_hit?_eq_none_iff {table : List Route} :
    table.findSome? (hit? base request) = none ↔
      ∀ r ∈ table, ¬ r.template.Accepts base request := by
  simp only [List.findSome?_eq_none_iff, hit?_eq_none_iff]

/-! ## Service -/

/-- The calls that are made for a request. -/
def calls (base : Uri) (routes : List Route) (request : Uri) : List Call :=
  ((serve base routes request).run []).2

/-- A request that can be read is answered by the route that is selected. -/
theorem serve_eq_answer (hbase : base.target? = .ok b) (hrequest : request.target? = .ok q)
    (table : List Route) :
    serve base table request = answer (table.findSome? (hit? base request)) := by
  have hselected := selected_search? hbase hrequest table
  rw [serve]
  cases hfound : search? base request table with
  | error e => simp [hfound, Except.map] at hselected
  | ok found =>
      rw [hfound] at hselected
      rw [← Except.ok.inj hselected]
      rfl

/-- For a request that is refused nothing is called. -/
theorem serve_of_refused (hbase : base.target? = .ok b) {e : UriError}
    (hrequest : request.target? = .error e) {table : List Route} (hne : table ≠ []) :
    serve base table request = throw (.uri e) := by
  rw [serve, search?_of_refused hbase hrequest hne]
  rfl

/-- The handler of a selected route is called once. -/
theorem run_answer_some (r : Route) (arguments : Table Text) :
    (answer (some (r, arguments))).run []
      = (((r.handler.call arguments).mapError .call).map some, [⟨r.handler, arguments⟩]) := by
  rw [answer, Handler.invoke]
  cases hcall : r.handler.call arguments <;> rfl

/-- **A request has one handler or none.**  Either there is a first route that it fits, whose
handler is called with the captures and with nothing else, or it fits no route and nothing is
called. -/
theorem run_serve_cases (hbase : base.target? = .ok b) (hrequest : request.target? = .ok q)
    (table : List Route) :
    (∃ before r after v, table = before ++ r :: after ∧
      (∀ s ∈ before, ¬ s.template.Accepts base request) ∧
      r.template.verdict? base request = .ok v ∧ v.success = true ∧
      (serve base table request).run []
        = (((r.handler.call v.captures).mapError .call).map some, [⟨r.handler, v.captures⟩])) ∨
    ((∀ r ∈ table, ¬ r.template.Accepts base request) ∧
      (serve base table request).run [] = (.ok none, [])) := by
  rw [serve_eq_answer hbase hrequest]
  cases hfound : table.findSome? (hit? base request) with
  | none => exact Or.inr ⟨findSome?_hit?_eq_none_iff.mp hfound, rfl⟩
  | some hit =>
      obtain ⟨r, arguments⟩ := hit
      obtain ⟨before, after, v, htable, hbefore, hverdict, hsuccess, rfl⟩ :=
        findSome?_hit?_eq_some_iff.mp hfound
      exact Or.inl ⟨before, r, after, v, htable, hbefore, hverdict, hsuccess, run_answer_some r _⟩

/-- Nothing is called exactly if a request fits no route. -/
theorem calls_eq_nil_iff (hbase : base.target? = .ok b) (hrequest : request.target? = .ok q)
    (table : List Route) :
    calls base table request = [] ↔ ∀ r ∈ table, ¬ r.template.Accepts base request := by
  rw [calls, serve_eq_answer hbase hrequest, ← findSome?_hit?_eq_none_iff]
  cases table.findSome? (hit? base request) with
  | none => exact iff_of_true rfl rfl
  | some hit =>
      rw [run_answer_some]
      simp

/-- There is no reply exactly if a request fits no route: a call has a reply or a reason. -/
theorem dispatch?_eq_none_iff (hbase : base.target? = .ok b) (hrequest : request.target? = .ok q)
    (table : List Route) :
    dispatch? base table request = .ok none ↔
      ∀ r ∈ table, ¬ r.template.Accepts base request := by
  rw [dispatch?, serve_eq_answer hbase hrequest, ← findSome?_hit?_eq_none_iff]
  cases table.findSome? (hit? base request) with
  | none => exact iff_of_true rfl rfl
  | some hit =>
      rw [run_answer_some]
      cases hit.1.handler.call hit.2 <;> simp [Except.map, Except.mapError]

/-- Routes at the end of a table make no difference to a request that is answered. -/
theorem serve_append (hbase : base.target? = .ok b) {table : List Route}
    (h : dispatch? base table request ≠ .ok none) (rest : List Route) :
    serve base (table ++ rest) request = serve base table request := by
  cases hrequest : request.target? with
  | error e =>
      have hne : table ≠ [] := by
        rintro rfl
        exact h rfl
      rw [serve_of_refused hbase hrequest hne,
        serve_of_refused hbase hrequest (List.append_ne_nil_of_left_ne_nil hne rest)]
  | ok q =>
      rw [dispatch?, serve_eq_answer hbase hrequest] at h
      rw [serve_eq_answer hbase hrequest, serve_eq_answer hbase hrequest, List.findSome?_append]
      cases hfound : table.findSome? (hit? base request) with
      | none =>
          rw [hfound] at h
          exact absurd rfl h
      | some hit => rfl

/-- Neighbours that do not both take a request can change places. -/
theorem serve_swap (hbase : base.target? = .ok b) {r s : Route}
    (h : ¬ (r.template.Accepts base request ∧ s.template.Accepts base request))
    (before after : List Route) :
    serve base (before ++ s :: r :: after) request
      = serve base (before ++ r :: s :: after) request := by
  cases hrequest : request.target? with
  | error e =>
      rw [serve_of_refused hbase hrequest (by simp), serve_of_refused hbase hrequest (by simp)]
  | ok q =>
      rw [serve_eq_answer hbase hrequest, serve_eq_answer hbase hrequest]
      simp only [List.findSome?_append, List.findSome?_cons]
      rcases not_and_or.mp h with hr | hs
      · rw [hit?_eq_none_iff.mpr hr]
      · rw [hit?_eq_none_iff.mpr hs]

end Route

/-! ## Routes that exclude each other -/

namespace Template

/-- Two templates are apart if their paths differ in length or, at some place, in a literal by more
than case. -/
def Apart (t u : Template) : Prop :=
  t.path.length ≠ u.path.length ∨
    ∃ (i : Nat) (x y : Text), t.path[i]? = some (.literal x) ∧ u.path[i]? = some (.literal y) ∧
      CaseFold.fold x ≠ CaseFold.fold y

/-- No request fits two templates that are apart. -/
theorem not_accepts_of_apart {t u : Template} (h : t.Apart u) {base request : Uri} {b : Target}
    (hbase : base.target? = .ok b) : ¬ (t.Accepts base request ∧ u.Accepts base request) := by
  rintro ⟨ht, hu⟩
  obtain ⟨hmeets, -⟩ := forall₂_meets_and_consistent_of_accepts hbase ht hu
  obtain hlength | ⟨i, x, y, hx, hy, hfold⟩ := h
  · exact hlength hmeets.length_eq
  · obtain ⟨hi, hxi⟩ := List.getElem?_eq_some_iff.mp hx
    obtain ⟨hj, hyj⟩ := List.getElem?_eq_some_iff.mp hy
    have hmeet : Part.Meets (t.path.get ⟨i, hi⟩) (u.path.get ⟨i, hj⟩) := hmeets.get hi hj
    rw [List.get_eq_getElem, List.get_eq_getElem, hxi, hyj] at hmeet
    exact hfold hmeet

end Template

/-! ## Tables -/

/-- The route that a registration adds, if it is not refused. -/
def Registration.route? (r : Registration) : Option Route :=
  match r.template with
  | .text source => some ⟨⟨source⟩, r.handler⟩
  | _ => none

/-- A registration is refused exactly if what it hands over is no text. -/
theorem Route.register?_eq (table : List Route) (r : Registration) :
    register? table r = match r.route? with
      | some route => .ok (table ++ [route])
      | none => .error (.notText r.template.kind) := by
  obtain ⟨template, handler⟩ := r
  cases template <;> rfl

/-- A registration puts its route at the end of the table, and nothing if it is refused. -/
theorem Route.register_eq (table : List Route) (r : Registration) :
    register table r = table ++ r.route?.toList := by
  rw [register, register?_eq]
  cases r.route? <;> simp

namespace Example

/-- The tables that are reached: the initial routes, followed by those that were registered. -/
theorem tableAfter_eq (registrations : List Registration) :
    tableAfter registrations = routes ++ registrations.filterMap Registration.route? := by
  have hrun : ∀ table, registrations.foldl Route.register table
      = table ++ registrations.filterMap Registration.route? := by
    induction registrations with
    | nil => simp
    | cons r rest ih =>
        intro table
        rw [List.foldl_cons, ih, Route.register_eq]
        cases hroute : r.route? <;> simp [hroute]
  exact hrun routes

theorem target?_base : base.target? = .ok ⟨"/app/".toList, ∅⟩ := rfl

/-- **First match.**  In every table that registrations lead to, a request that can be read is taken
by the first route that it fits: its handler is called once, with a value for each declared name,
and no other handler is; the reply, or the refusal of the arguments, is the answer. Nothing is
called and there is no reply exactly if the request fits no route. A registration that is refused
leaves the table as it is. A further route makes no difference to a request that has an answer, and
neighbours whose templates are apart can change places. -/
theorem dispatch?_first_match (registrations : List Registration) (request : Uri) :
    let table := tableAfter registrations
    (∀ q, request.target? = .ok q →
      ((∃ before r after v, table = before ++ r :: after ∧
          (∀ s ∈ before, ¬ s.template.Accepts base request) ∧
          r.template.verdict? base request = .ok v ∧ v.success = true ∧
          v.captures.names = r.template.variableNames.eraseDups ∧
          Route.calls base table request = [⟨r.handler, v.captures⟩] ∧
          Route.dispatch? base table request
            = ((r.handler.call v.captures).mapError .call).map some ∧
          ((∃ reply, r.handler.call v.captures = .ok reply) ↔
            ∀ parameters, r.handler.parameters = some parameters →
              ∀ n, n ∈ parameters ↔ n ∈ r.template.variableNames)) ∨
        ((∀ r ∈ table, ¬ r.template.Accepts base request) ∧
          Route.calls base table request = [] ∧
          Route.dispatch? base table request = .ok none)) ∧
      (Route.calls base table request = [] ↔
        ∀ r ∈ table, ¬ r.template.Accepts base request) ∧
      (Route.dispatch? base table request = .ok none ↔
        ∀ r ∈ table, ¬ r.template.Accepts base request)) ∧
    (∀ registration,
      ((∃ e, Route.register? table registration = .error e) ↔ registration.route? = none) ∧
        tableAfter (registrations ++ [registration]) = table ++ registration.route?.toList) ∧
    (Route.dispatch? base table request ≠ .ok none → ∀ r,
      Route.serve base (table ++ [r]) request = Route.serve base table request) ∧
    ∀ before r s after, table = before ++ r :: s :: after → r.template.Apart s.template →
      Route.serve base (before ++ s :: r :: after) request = Route.serve base table request := by
  intro table
  refine ⟨fun q hrequest => ⟨?_, Route.calls_eq_nil_iff target?_base hrequest table,
      Route.dispatch?_eq_none_iff target?_base hrequest table⟩, fun registration => ?_,
    fun hanswered r => ?_, fun before r s after htable hapart => ?_⟩
  · rcases Route.run_serve_cases target?_base hrequest table with
      ⟨before, r, after, v, htable, hbefore, hverdict, hsuccess, hrun⟩ | ⟨hnone, hrun⟩
    · have hnames := Template.names_of_success hverdict hsuccess
      refine Or.inl ⟨before, r, after, v, htable, hbefore, hverdict, hsuccess, hnames,
        congrArg Prod.snd hrun, congrArg Prod.fst hrun, ?_⟩
      rw [Handler.exists_call_eq_ok_iff, hnames]
      simp only [List.mem_eraseDups]
    · exact Or.inr ⟨hnone, congrArg Prod.snd hrun, congrArg Prod.fst hrun⟩
  · rw [Route.register?_eq]
    simp only [table, tableAfter_eq, List.filterMap_append, List.append_assoc]
    cases hroute : registration.route? <;> simp [hroute]
  · exact Route.serve_append target?_base hanswered [r]
  · rw [htable]
    exact Route.serve_swap target?_base (Template.not_accepts_of_apart hapart target?_base)
      before after

/-- Of two registrations the first is refused, and the handler of the second does not take what its
template declares. A request for it is answered by the refusal of the arguments, whatever is added,
and also if the two routes before it change places. -/
theorem dispatch?_first_match_unsuitable_handler :
    let orders : Route := ⟨⟨"/Orders/\x7bid\x7d?v=\x7bid\x7d".toList⟩, user⟩
    let registrations : List Registration :=
      [⟨.int 7, index⟩, ⟨.text orders.template.source, user⟩]
    let request : Uri := .text "http://localhost:9000/app/ORDERS/7?v=8".toList
    let table := tableAfter registrations
    table = routes ++ [orders] ∧
      Route.dispatch? base table request
        = .error (.call (.unexpected "user".toList "id".toList)) ∧
      Route.calls base table request ≠ [] ∧
      (∀ r, Route.serve base (table ++ [r]) request = Route.serve base table request) ∧
      Route.serve base [⟨⟨"/".toList⟩, index⟩,
          ⟨⟨"/users/\x7buser\x7d/orders?status=open&page=\x7bpage\x7d".toList⟩, openOrders⟩,
          ⟨⟨"/users/\x7buser\x7d".toList⟩, user⟩, orders] request
        = Route.serve base table request := by
  intro orders registrations request table
  have hreply : Route.dispatch? base table request
      = .error (.call (.unexpected "user".toList "id".toList)) := by rfl
  obtain ⟨hread, -, hfurther, hswap⟩ := dispatch?_first_match registrations request
  obtain ⟨-, hcalls, hanswer⟩ := hread _ rfl
  have hanswered : Route.dispatch? base table request ≠ .ok none := by
    simp [hreply]
  exact ⟨rfl, hreply, mt (hanswer.mpr ∘ hcalls.mp) hanswered, hfurther hanswered,
    hswap [_] _ _ [orders] rfl (Or.inl (by decide))⟩

end Example

end UriRouting
