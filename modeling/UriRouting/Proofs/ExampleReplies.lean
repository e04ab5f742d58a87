import UriRouting.Proofs.Dispatch
import UriRouting.Proofs.Meaning

/-!
# The replies of the example

The three routes of the example declare what is replied to a request: a greeting at the base address,
the name of a user below `users`, and the name with a page where the open orders are asked for. The
table computes this and nothing else. Every request that can be read is answered, by the declared
reply or by none.

## Main Definitions

- `Example.Segments`: the decoded segments of a path below `/app`.
- `Example.Page`: the page that a query asks for.
- `Example.Replies`: the declared replies.

## Main Statements

- `Route.dispatch?_of_first`: the reply of the first route that a request fits.
- `Example.dispatch?_of_replies`, `Example.exists_replies_of_accepts`: a declared reply is given, and
  a request that fits a route has one.
- `Example.dispatch?_routes`: the answers of the example.
-/

namespace UriRouting

/-- The reply of the first route that a request fits is that of its handler. -/
theorem Route.dispatch?_of_first {base request : Uri} {b q : Target}
    (hbase : base.target? = .ok b) (hrequest : request.target? = .ok q)
    (before : List Route) {r : Route} {after : List Route} {v : Verdict} {reply : Text}
    (hbefore : ∀ s ∈ before, ¬ s.template.Accepts base request)
    (hverdict : r.template.verdict? base request = .ok v) (hsuccess : v.success = true)
    (hreply : r.handler.call v.captures = .ok reply) :
    dispatch? base (before ++ r :: after) request = .ok (some reply) := by
  have hfirst : (before ++ r :: after).findSome? (hit? base request) = some (r, v.captures) :=
    findSome?_hit?_eq_some_iff.mpr ⟨before, after, v, rfl, hbefore, hverdict, hsuccess, rfl⟩
  rw [dispatch?, serve_eq_answer hbase hrequest, hfirst, run_answer_some, hreply]
  rfl

/-- The verdict on a request whose path and query match. -/
theorem Template.verdict?_of_admits {t : Template} {base request : Uri} {b q : Target}
    (hbase : base.target? = .ok b) (hrequest : request.target? = .ok q) {segments : List Text}
    (hbelow : Path.below? b.path q.path = some segments)
    (hadmits : List.Forall₂ Part.Admits t.path segments) (hmet : Query.Met t.query q.query) :
    t.verdict? base request = .ok ⟨true,
      (Table.ofList ((t.path.zip segments).filterMap Part.capture?)).putAll
        (Query.captures t.query q.query).entries⟩ := by
  rw [verdict?_of_target? hbase hrequest, outcome_of_admits hbelow hadmits, Outcome.verdict,
    Query.mismatches_eq_nil_iff.mpr hmet]
  rfl

namespace Example

/-! ## What is declared -/

/-- The decoded segments of a path below `/app`, without empty ones at either end. -/
def Segments (path : Text) (segments : List Text) : Prop :=
  ∃ rest, Path.Below "/app".toList path rest ∧
    segments = (trimWhile List.isEmpty rest).map Percent.unescape

/-- The page that a query asks for: the first value of its key, or the first page if there is none
or it is empty. -/
def Page (query page : Text) : Prop :=
  (Query.FirstValue query "page".toList page ∧ page ≠ []) ∨
    ((∀ value, Query.FirstValue query "page".toList value → value = []) ∧ page = ['1'])

/-- The declared replies to a request with a path and a query. -/
inductive Replies (path query : Text) : Text → Prop where
  /-- A greeting at the base address. -/
  | greeting (below : Segments path []) : Replies path query "Yo".toList
  /-- The name of a user. -/
  | user {users name : Text} (below : Segments path [users, name])
      (literal : CaseFold.fold users = "users".toList) (filled : name ≠ []) :
      Replies path query name
  /-- The name of a user and the page, where the open orders are asked for. -/
  | orders {users name orders page : Text} (below : Segments path [users, name, orders])
      (first : CaseFold.fold users = "users".toList) (filled : name ≠ [])
      (second : CaseFold.fold orders = "orders".toList)
      (status : Query.FirstValue query "status".toList "open".toList) (asked : Page query page) :
      Replies path query (name ++ '-' :: page)

/-! ## The routes -/

/-- The route of the greeting. -/
def indexRoute : Route := ⟨⟨"/".toList⟩, index⟩

/-- The route of a user. -/
def userRoute : Route := ⟨⟨"/users/\x7buser\x7d".toList⟩, user⟩

/-- The route of the open orders. -/
def ordersRoute : Route :=
  ⟨⟨"/users/\x7buser\x7d/orders?status=open&page=\x7bpage\x7d".toList⟩, openOrders⟩

theorem routes_eq : routes = [indexRoute, userRoute, ordersRoute] := rfl

theorem path_indexRoute : indexRoute.template.path = [] := rfl

theorem path_userRoute :
    userRoute.template.path = [.literal "users".toList, .variable "user".toList] := by rfl

theorem path_ordersRoute : ordersRoute.template.path
    = [.literal "users".toList, .variable "user".toList, .literal "orders".toList] := by rfl

theorem query_ordersRoute : ordersRoute.template.query
    = [⟨"status".toList, .literalValue "open".toList⟩, ⟨"page".toList, .variable "page".toList⟩] := by
  rfl

/-- The segments below the base address are those below `/app`. -/
theorem below?_eq_some_iff {path : Text} {segments : List Text} :
    Path.below? "/app/".toList path = some segments ↔ Segments path segments := by
  have hpieces : Path.pieces "/app/".toList = Path.pieces "/app".toList := by rfl
  rw [Path.below?_eq_some_iff]
  simp only [Segments, Path.Below, hpieces]

theorem Segments.unique {path : Text} {l m : List Text} (hl : Segments path l)
    (hm : Segments path m) : l = m :=
  Option.some.inj ((below?_eq_some_iff.mpr hl).symm.trans (below?_eq_some_iff.mpr hm))

/-- The page is the first value of its key unless this is empty. -/
theorem page_iff {query page : Text} :
    Page query page ↔
      page = let asked := (Query.firstValue? (Query.table query) "page".toList).getD []
        if asked.isEmpty then ['1'] else asked := by
  simp only [Page, ← Query.firstValue?_table_eq_some_iff]
  cases Query.firstValue? (Query.table query) "page".toList with
  | none => simp
  | some value =>
      cases value with
      | nil => simp
      | cons c rest =>
          simp only [Option.some.injEq, forall_eq', Option.getD_some, List.isEmpty_cons,
            Bool.false_eq_true, if_false, reduceCtorEq, false_and, or_false]
          constructor
          · rintro ⟨rfl, -⟩
            rfl
          · rintro rfl
            exact ⟨rfl, List.cons_ne_nil c rest⟩

/-! ## When a request fits a route -/

theorem forall₂_admits_indexRoute_iff {segments : List Text} :
    List.Forall₂ Part.Admits indexRoute.template.path segments ↔ segments = [] := by
  rw [path_indexRoute, List.forall₂_nil_left_iff]

theorem forall₂_admits_userRoute_iff {segments : List Text} :
    List.Forall₂ Part.Admits userRoute.template.path segments ↔
      ∃ users name, segments = [users, name] ∧ CaseFold.fold users = "users".toList ∧
        name ≠ [] := by
  rw [path_userRoute]
  constructor
  · rintro (_ | ⟨husers, _ | ⟨hname, _ | _⟩⟩)
    exact ⟨_, _, rfl, husers.symm, hname⟩
  · rintro ⟨users, name, rfl, husers, hname⟩
    exact .cons husers.symm (.cons hname .nil)

theorem forall₂_admits_ordersRoute_iff {segments : List Text} :
    List.Forall₂ Part.Admits ordersRoute.template.path segments ↔
      ∃ users name orders, segments = [users, name, orders] ∧
        CaseFold.fold users = "users".toList ∧ name ≠ [] ∧
        CaseFold.fold orders = "orders".toList := by
  rw [path_ordersRoute]
  constructor
  · rintro (_ | ⟨husers, _ | ⟨hname, _ | ⟨horders, _ | _⟩⟩⟩)
    exact ⟨_, _, _, rfl, husers.symm, hname, horders.symm⟩
  · rintro ⟨users, name, orders, rfl, husers, hname, horders⟩
    exact .cons husers.symm (.cons hname (.cons horders.symm .nil))

theorem met_ordersRoute_iff {query : Text} :
    Query.Met ordersRoute.template.query (Query.table query) ↔
      Query.FirstValue query "status".toList "open".toList := by
  rw [query_ordersRoute, ← Query.firstValue?_table_eq_some_iff]
  simp [Query.Met]

variable {request : Uri} {p : Parts}

/-- When a request fits a route. -/
theorem accepts_iff (hrequest : request.target? = .ok ⟨p.path, Query.table p.query⟩) (r : Route) :
    r.template.Accepts base request ↔
      (∃ segments, Segments p.path segments ∧ List.Forall₂ Part.Admits r.template.path segments) ∧
        Query.Met r.template.query (Query.table p.query) := by
  rw [Template.accepts_iff_of_target? target?_base hrequest]
  simp only [below?_eq_some_iff]

/-- A request with another number of segments does not fit a route. -/
theorem not_accepts_of_length_ne (hrequest : request.target? = .ok ⟨p.path, Query.table p.query⟩)
    {r : Route} {segments : List Text} (hbelow : Segments p.path segments)
    (hlength : r.template.path.length ≠ segments.length) : ¬ r.template.Accepts base request := by
  intro haccepts
  obtain ⟨⟨others, hothers, hadmits⟩, -⟩ := (accepts_iff hrequest r).mp haccepts
  exact hlength (hadmits.length_eq.trans (congrArg List.length (hothers.unique hbelow)))

/-! ## The answers -/

/-- A request that fits a route has a declared reply. -/
theorem exists_replies_of_accepts (hrequest : request.target? = .ok ⟨p.path, Query.table p.query⟩)
    {r : Route} (hr : r ∈ routes) (h : r.template.Accepts base request) :
    ∃ reply, Replies p.path p.query reply := by
  obtain ⟨⟨segments, hbelow, hadmits⟩, hmet⟩ := (accepts_iff hrequest r).mp h
  simp only [routes_eq, List.mem_cons, List.not_mem_nil, or_false] at hr
  obtain rfl | rfl | rfl := hr
  · obtain rfl := forall₂_admits_indexRoute_iff.mp hadmits
    exact ⟨_, .greeting hbelow⟩
  · obtain ⟨users, name, rfl, husers, hname⟩ := forall₂_admits_userRoute_iff.mp hadmits
    exact ⟨_, .user hbelow husers hname⟩
  · obtain ⟨users, name, orders, rfl, husers, hname, horders⟩ :=
      forall₂_admits_ordersRoute_iff.mp hadmits
    exact ⟨_, .orders hbelow husers hname horders (met_ordersRoute_iff.mp hmet) (page_iff.mpr rfl)⟩

/-- A declared reply is given. -/
theorem dispatch?_of_replies (hrequest : request.target? = .ok ⟨p.path, Query.table p.query⟩)
    {reply : Text} (h : Replies p.path p.query reply) :
    Route.dispatch? base routes request = .ok (some reply) := by
  -- The paths of the routes differ in length, so that no earlier route takes the request.
  cases h with
  | greeting below =>
      have hverdict := Template.verdict?_of_admits (t := indexRoute.template) target?_base hrequest
        (below?_eq_some_iff.mpr below) (forall₂_admits_indexRoute_iff.mpr rfl)
        (fun _ he => absurd he List.not_mem_nil)
      exact Route.dispatch?_of_first target?_base hrequest [] (by simp) hverdict rfl rfl
  | user below literal filled =>
      have hverdict := Template.verdict?_of_admits (t := userRoute.template) target?_base hrequest
        (below?_eq_some_iff.mpr below)
        (forall₂_admits_userRoute_iff.mpr ⟨_, _, rfl, literal, filled⟩)
        (fun _ he => absurd he List.not_mem_nil)
      have hindex := not_accepts_of_length_ne hrequest (r := indexRoute) below
        (by simp [path_indexRoute])
      exact Route.dispatch?_of_first target?_base hrequest [indexRoute] (by simpa using hindex)
        hverdict rfl rfl
  | orders below first filled second status asked =>
      have hverdict := Template.verdict?_of_admits (t := ordersRoute.template) target?_base hrequest
        (below?_eq_some_iff.mpr below)
        (forall₂_admits_ordersRoute_iff.mpr ⟨_, _, _, rfl, first, filled, second⟩)
        (met_ordersRoute_iff.mpr status)
      have hindex := not_accepts_of_length_ne hrequest (r := indexRoute) below
        (by simp [path_indexRoute])
      have huser := not_accepts_of_length_ne hrequest (r := userRoute) below
        (by simp [path_userRoute])
      refine Route.dispatch?_of_first target?_base hrequest [indexRoute, userRoute]
        (by simpa using ⟨hindex, huser⟩) hverdict rfl ?_
      rw [page_iff.mp asked]
      rfl

/-- **The example replies what it declares.**  A request that can be read is answered without a
failure, and the answer is a reply exactly if this reply is declared: otherwise there is none. -/
theorem dispatch?_routes (request : Text) {p : Parts} (h : Parts.ofText? request = .ok p) :
    ∃ answer, Route.dispatch? base routes (.text request) = .ok answer ∧
      ∀ reply, answer = some reply ↔ Replies p.path p.query reply := by
  have hrequest := Uri.target?_text h
  by_cases hdeclared : ∃ reply, Replies p.path p.query reply
  · obtain ⟨reply, hreply⟩ := hdeclared
    refine ⟨some reply, dispatch?_of_replies hrequest hreply, fun other => ⟨?_, fun hother => ?_⟩⟩
    · rintro ⟨⟩
      exact hreply
    · exact Except.ok.inj ((dispatch?_of_replies hrequest hreply).symm.trans
        (dispatch?_of_replies hrequest hother))
  · have hnone : Route.dispatch? base routes (.text request) = .ok none :=
      (Route.dispatch?_eq_none_iff target?_base hrequest routes).mpr fun r hr haccepts =>
        hdeclared (exists_replies_of_accepts hrequest hr haccepts)
    refine ⟨none, hnone, fun reply => iff_of_false (by simp) fun hreply => ?_⟩
    exact hdeclared ⟨reply, hreply⟩

/-- Open orders of a user with a slash in the name, below the base in capitals and with an empty
page. A second status makes no difference, as the first one counts. -/
theorem dispatch?_routes_open_orders :
    let request : Text := ("http://localhost:9000/APP//%75sers/a%2Fb/ORDERS/" ++
      "?page=&status=open&status=closed#top").toList
    let p : Parts := ⟨"http".toList, "localhost:9000".toList,
      "/APP//%75sers/a%2Fb/ORDERS/".toList, "page=&status=open&status=closed".toList,
      "top".toList⟩
    Parts.ofText? request = .ok p ∧
      Route.dispatch? base routes (.text request) = .ok (some "a/b-1".toList) ∧
      ∀ reply, Replies p.path p.query reply ↔ reply = "a/b-1".toList := by
  intro request p
  have hparts : Parts.ofText? request = .ok p := by rfl
  have hdispatch : Route.dispatch? base routes (.text request) = .ok (some "a/b-1".toList) := by rfl
  obtain ⟨answer, hanswer, hreplies⟩ := dispatch?_routes request hparts
  obtain rfl := Except.ok.inj (hanswer.symm.trans hdispatch)
  refine ⟨hparts, hdispatch, fun reply => ?_⟩
  rw [← hreplies, Option.some.injEq, eq_comm]

end Example

end UriRouting
