import IdmMw.Model.Routing

/-!
# Whether the guards cover the router

The guards compare the beginning of a request target with fixed texts; the router splits the path at
its slashes, ignores case and allows a slash at the end. Every path that the router dispatches to a
protected handler should be guarded.

* `firstSegment_of_matches`: a path that is dispatched begins with a segment that is the first one of
  the route, but for its case, and goes on;
* `guardsCover_iff`: the guards are in front of exactly the paths whose first segment is written as
  in the route; the integration guard needs the origin form as well, and the guard of the logout a
  path that is written as the route.
-/

namespace IdmMw

open List IntegrationAuthService AdminAuthMiddleware

variable {route : String} {pathname : List Char}

/-! ### First segments -/

/-- The route is the given first segment and more. -/
def beginsWith (segment : List Char) (route : String) : Bool :=
  match route.toList.splitOn '/' with
  | [] :: first :: _ :: _ => first == segment
  | _ => false

/-- The first segment of the path is written as in the route. -/
def WrittenAs (route : String) (pathname : List Char) : Prop :=
  (pathname.splitOn '/')[1]? = (route.toList.splitOn '/')[1]?

theorem splitOn_of_beginsWith {segment : List Char} (h : beginsWith segment route = true) :
    ∃ second rest, route.toList.splitOn '/' = [] :: segment :: second :: rest := by
  unfold beginsWith at h
  split at h
  · next first second rest heq =>
    obtain rfl : first = segment := by simpa using h
    exact ⟨second, rest, heq⟩
  · cases h

/-- A segment that is not a parameter is matched by itself, in any case. -/
theorem lower_eq_of_segmentMatches {pattern segment : List Char} (hpattern : ':' ∉ pattern)
    (h : segmentMatches pattern segment = true) :
    pattern.map Char.toLower = segment.map Char.toLower := by
  unfold segmentMatches at h
  split at h
  · exact absurd mem_cons_self hpattern
  · exact beq_iff_eq.1 h

/-- Where the segments of a route with a first segment and more match, the path has a first segment
and more. -/
theorem eq_of_segmentsMatch {segment second : List Char} {rest : List (List Char)}
    (hsegment : ':' ∉ segment)
    (h : segmentsMatch ([] :: segment :: second :: rest) (pathname.splitOn '/') = true) :
    ∃ first ys, pathname = '/' :: first ++ '/' :: ys ∧ '/' ∉ first ∧
      segment.map Char.toLower = first.map Char.toLower := by
  cases hsplit : pathname.splitOn '/' with
  | nil =>
    rw [hsplit] at h
    cases h
  | cons start others =>
    rw [hsplit] at h
    obtain ⟨hstart, hothers⟩ := (Bool.and_eq_true _ _).mp h
    obtain rfl : start = [] := by
      have hlower := lower_eq_of_segmentMatches not_mem_nil hstart
      exact map_eq_nil_iff.1 hlower.symm
    cases others with
    | nil => cases hothers
    | cons first others =>
      obtain ⟨hfirst, hothers⟩ := (Bool.and_eq_true _ _).mp hothers
      cases others with
      | nil => cases hothers
      | cons next others =>
        obtain ⟨xs, rfl, hxs, -⟩ := splitOn_eq_cons_cons hsplit
        obtain ⟨ys, rfl, -, hslash⟩ := splitOn_eq_cons_cons hxs
        exact ⟨first, ys, rfl, hslash, lower_eq_of_segmentMatches hsegment hfirst⟩

/-- A dispatched path begins with the first segment of its route, in some case, and goes on. -/
theorem firstSegment_of_matches {segment : List Char} (hroute : beginsWith segment route = true)
    (hsegment : ':' ∉ segment) (h : routeMatches route pathname = true) :
    ∃ first ys, pathname = '/' :: first ++ '/' :: ys ∧ '/' ∉ first ∧
      segment.map Char.toLower = first.map Char.toLower := by
  obtain ⟨second, rest, hsplit⟩ := splitOn_of_beginsWith hroute
  unfold routeMatches at h
  rw [hsplit, Bool.or_eq_true, Bool.and_eq_true] at h
  rcases h with h | ⟨hlast, h⟩
  · exact eq_of_segmentsMatch hsegment h
  · obtain ⟨first, ys, hpath, hslash, hlower⟩ := eq_of_segmentsMatch hsegment h
    have hsome : pathname.getLast? = some '/' := beq_iff_eq.1 hlast
    refine ⟨first, ys ++ ['/'], ?_, hslash, hlower⟩
    rw [← dropLast_append_getLast? '/' hsome, hpath]
    simp

theorem writtenAs_iff {segment first ys : List Char} (hroute : beginsWith segment route = true)
    (hfirst : '/' ∉ first) : WrittenAs route ('/' :: first ++ '/' :: ys) ↔ first = segment := by
  obtain ⟨second, rest, hsplit⟩ := splitOn_of_beginsWith hroute
  have hpath : ('/' :: first ++ '/' :: ys).splitOn '/' = [] :: first :: ys.splitOn '/' := by
    have hnil : '/' ∉ ([] : List Char) := not_mem_nil
    have hstart := splitOn_append_cons_self_of_not_mem hnil (first ++ '/' :: ys)
    rw [splitOn_append_cons_self_of_not_mem hfirst] at hstart
    exact hstart
  unfold WrittenAs
  rw [hsplit, hpath]
  exact Option.some_inj

/-! ### The guards on dispatched paths -/

section Paths

variable {first ys segment : List Char}

/-- A guarded prefix is a guarded first segment. -/
theorem isPrefixOf_iff (hsegment : '/' ∉ segment) (hfirst : '/' ∉ first) :
    ('/' :: (segment ++ ['/'])).isPrefixOf ('/' :: first ++ '/' :: ys) = true ↔
      first = segment := by
  rw [cons_append, isPrefixOf_cons_cons_self]
  exact isPrefixOf_append_sep_iff hsegment hfirst

/-- A path that goes on is no single segment. -/
theorem ne_segment (hsegment : '/' ∉ segment) : '/' :: first ++ '/' :: ys ≠ '/' :: segment := by
  intro h
  obtain ⟨-, rfl⟩ := List.cons.inj h
  exact hsegment (by simp)

theorem requiresAdminAuth_iff (hfirst : '/' ∉ first) :
    requiresAdminAuth ('/' :: first ++ '/' :: ys) = true ↔
      '/' :: first ++ '/' :: ys = "/auth/logout".toList ∨ first = "admin".toList := by
  unfold requiresAdminAuth
  have hstarts := @isPrefixOf_iff first ys "admin".toList (by decide) hfirst
  have hne := @ne_segment first ys "admin".toList (by decide)
  rw [Bool.or_eq_true, Bool.or_eq_true, beq_iff_eq, beq_iff_eq]
  constructor
  · rintro ((h | h) | h)
    · exact Or.inl h
    · exact absurd h hne
    · exact Or.inr (hstarts.1 h)
  · rintro (h | h)
    · exact Or.inl (Or.inl h)
    · exact Or.inr (hstarts.2 h)

/-- With the guard on, and a path that is not that of the metrics. -/
theorem requiresAuth_iff {config : GuardConfig} (henabled : config.integrationAuthEnabled = some true)
    {originalUrl : List Char} (hpath : path originalUrl = '/' :: first ++ '/' :: ys)
    (hfirst : '/' ∉ first) :
    requiresAuth config originalUrl = true ↔
      first = "idm".toList ∨ first = "webhooks".toList := by
  have hidm := @isPrefixOf_iff first ys "idm".toList (by decide) hfirst
  have hwebhooks := @isPrefixOf_iff first ys "webhooks".toList (by decide) hfirst
  have hne := @ne_segment first ys "idm".toList (by decide)
  have hmetrics : '/' :: first ++ '/' :: ys ≠ "/metrics".toList :=
    @ne_segment first ys "metrics".toList (by decide)
  unfold requiresAuth
  dsimp only
  rw [hpath, if_neg hmetrics, henabled, Option.getD_some, if_neg (by decide), Bool.or_eq_true,
    Bool.or_eq_true, beq_iff_eq]
  constructor
  · rintro ((h | h) | h)
    · exact absurd h hne
    · exact Or.inl (hidm.1 h)
    · exact Or.inr (hwebhooks.1 h)
  · rintro (h | h)
    · exact Or.inl (Or.inr (hidm.2 h))
    · exact Or.inr (hwebhooks.2 h)

end Paths

/-- In origin form the guard looks at the path that the router matches. -/
theorem path_originForm (text : List Char) (query : Option (List Char)) (plain : '?' ∉ text) :
    path (RequestTarget.originForm text query plain).originalUrl = '/' :: text := by
  have hall : ∀ c ∈ '/' :: text, (decide (c ≠ '?')) = true := by
    intro c hc
    rcases mem_cons.1 hc with rfl | hc
    · decide
    · exact decide_eq_true fun h => plain (h ▸ hc)
  unfold path RequestTarget.originalUrl
  cases query with
  | none =>
    dsimp only
    rw [takeWhile_eq_self_iff.2 hall]
  | some query =>
    dsimp only
    rw [takeWhile_append_of_pos hall, takeWhile_cons_of_neg (by decide), append_nil]

/-- In absolute form the guard sees no path. -/
theorem requiresAuth_absoluteForm (config : GuardConfig) (scheme : Char)
    (rest text : List Char) (h : scheme ≠ '/') :
    requiresAuth config (RequestTarget.absoluteForm scheme rest text h).originalUrl = false := by
  have hpath : ∃ c cs, path (scheme :: rest) = c :: cs ∧ (c ≠ '/' ∨ c :: cs = ['/']) := by
    unfold path
    by_cases hscheme : scheme = '?'
    · rw [takeWhile_cons_of_neg (by simpa using hscheme)]
      exact ⟨'/', [], rfl, Or.inr rfl⟩
    · rw [takeWhile_cons_of_pos (by simpa using hscheme)]
      exact ⟨scheme, _, rfl, Or.inl h⟩
  obtain ⟨c, cs, hpath, hc⟩ := hpath
  show requiresAuth config (scheme :: rest) = false
  unfold requiresAuth
  dsimp only
  rw [hpath]
  rcases hc with hc | hc
  · have hne : ∀ text : List Char, c :: cs ≠ '/' :: text := fun text heq =>
      hc (List.cons.inj heq).1
    have hstarts : ∀ text : List Char, ('/' :: text).isPrefixOf (c :: cs) = false := fun text => by
      rw [isPrefixOf_cons_cons, beq_false_of_ne hc.symm, Bool.false_and]
    have hmetrics : c :: cs ≠ "/metrics".toList := hne "metrics".toList
    have hroot : c :: cs ≠ "/idm".toList := hne "idm".toList
    have hidm : "/idm/".toList.isPrefixOf (c :: cs) = false := hstarts "idm/".toList
    have hwebhooks : "/webhooks/".toList.isPrefixOf (c :: cs) = false := hstarts "webhooks/".toList
    rw [if_neg hmetrics, beq_false_of_ne hroot, hidm, hwebhooks]
    split <;> rfl
  · rw [hc, if_neg (by decide)]
    split
    · rfl
    · decide

/-! ### The law -/

/-- The guard in front of a route: that of the integration with its setting on, or that of the
administration. -/
def Guarded (config : GuardConfig) (route : String) (target : RequestTarget) : Prop :=
  if route ∈ integrationRoutes then requiresAuth config target.originalUrl = true
  else requiresAdminAuth target.pathname = true

/-- The request is written as its route is: its first segment has the same case, it is in origin form
if the route is one of the integration, and it is the route if that is the logout. -/
def WrittenForGuard (route : String) (target : RequestTarget) : Prop :=
  if route ∈ integrationRoutes then
    target.isOriginForm = true ∧ WrittenAs route target.pathname
  else if route = logoutRoute then target.pathname = route.toList
  else WrittenAs route target.pathname

/-- A route of the integration is one of the IDM interface or of the webhooks. -/
theorem beginsWith_integration (h : route ∈ integrationRoutes) :
    beginsWith "idm".toList route = true ∨ beginsWith "webhooks".toList route = true := by
  have hall : ∀ route ∈ integrationRoutes,
      beginsWith "idm".toList route = true ∨ beginsWith "webhooks".toList route = true := by
    decide
  exact hall route h

theorem beginsWith_admin (h : route ∈ adminRoutes) : beginsWith "admin".toList route = true := by
  have hall : ∀ route ∈ adminRoutes, beginsWith "admin".toList route = true := by decide
  exact hall route h

/-- The integration guard and a dispatched path of a route that begins with one of its two
segments. -/
theorem requiresAuth_iff_writtenAs {config : GuardConfig} {segment other : List Char}
    (henabled : config.integrationAuthEnabled = some true) {target : RequestTarget}
    (hroute : beginsWith segment route = true) (hsegment : ':' ∉ segment)
    (hpair : segment = "idm".toList ∧ other = "webhooks".toList ∨
      segment = "webhooks".toList ∧ other = "idm".toList)
    (h : routeMatches route target.pathname = true) :
    requiresAuth config target.originalUrl = true ↔
      target.isOriginForm = true ∧ WrittenAs route target.pathname := by
  cases target with
  | absoluteForm scheme rest text hscheme =>
    rw [requiresAuth_absoluteForm]
    exact iff_of_false Bool.false_ne_true fun hcon => Bool.false_ne_true hcon.1
  | originForm text query plain =>
    obtain ⟨first, ys, hpath, hfirst, hlower⟩ := firstSegment_of_matches hroute hsegment h
    have htext : '/' :: text = '/' :: first ++ '/' :: ys := hpath
    rw [requiresAuth_iff henabled ((path_originForm text query plain).trans htext) hfirst]
    show _ ↔ true = true ∧ WrittenAs route ('/' :: text)
    rw [and_iff_right rfl, htext, writtenAs_iff hroute hfirst]
    have hother : first ≠ other := by
      rintro rfl
      rcases hpair with ⟨rfl, rfl⟩ | ⟨rfl, rfl⟩
      · exact absurd hlower (by decide)
      · exact absurd hlower (by decide)
    rcases hpair with ⟨rfl, rfl⟩ | ⟨rfl, rfl⟩
    · exact or_iff_left hother
    · exact or_iff_right hother

/-- A dispatched request is guarded exactly if it is written for the guard. -/
theorem guarded_iff {config : GuardConfig} (henabled : config.integrationAuthEnabled = some true)
    (hroute : route ∈ integrationRoutes ++ adminRoutes ++ [logoutRoute]) {target : RequestTarget}
    (h : routeMatches route target.pathname = true) :
    Guarded config route target ↔ WrittenForGuard route target := by
  unfold Guarded WrittenForGuard
  by_cases hintegration : route ∈ integrationRoutes
  · rw [if_pos hintegration, if_pos hintegration]
    rcases beginsWith_integration hintegration with hbegins | hbegins
    · exact requiresAuth_iff_writtenAs henabled hbegins (by decide) (Or.inl ⟨rfl, rfl⟩) h
    · exact requiresAuth_iff_writtenAs henabled hbegins (by decide) (Or.inr ⟨rfl, rfl⟩) h
  · rw [if_neg hintegration, if_neg hintegration]
    by_cases hlogout : route = logoutRoute
    · subst hlogout
      obtain ⟨first, ys, hpath, hfirst, hlower⟩ :=
        firstSegment_of_matches (show beginsWith "auth".toList logoutRoute = true by decide)
          (by decide) h
      rw [if_pos rfl, hpath, requiresAdminAuth_iff hfirst]
      refine or_iff_left ?_
      rintro rfl
      exact absurd hlower (by decide)
    · have hadmin : route ∈ adminRoutes := by
        rcases mem_append.1 hroute with hroute | hroute
        · exact (mem_append.1 hroute).resolve_left hintegration
        · exact absurd (mem_singleton.1 hroute) hlogout
      have hbegins := beginsWith_admin hadmin
      obtain ⟨first, ys, hpath, hfirst, hlower⟩ :=
        firstSegment_of_matches hbegins (by decide) h
      rw [if_neg hlogout, hpath, requiresAdminAuth_iff hfirst, writtenAs_iff hbegins hfirst]
      refine or_iff_right fun hcon => ?_
      have hauth := (@isPrefixOf_iff first ys "auth".toList (by decide) hfirst).1 (by
        rw [hcon]
        decide)
      rw [hauth] at hlower
      exact absurd hlower (by decide)

/-- Both guards on, with public metrics. -/
def GuardConfig.on : GuardConfig := ⟨none, some true⟩

/-- A webhook with a query and a slash at its end is guarded. -/
theorem guarded_webhook :
    Guarded .on "/webhooks/avanpost"
      (.originForm "webhooks/Avanpost/".toList (some "x=/IDM".toList) (by decide)) :=
  (guarded_iff rfl (by decide) (by decide)).2 ⟨rfl, by unfold WrittenAs; decide⟩

/-- The router dispatches paths in upper case that no guard knows. -/
theorem not_guarded :
    ∃ route ∈ integrationRoutes ++ adminRoutes ++ [logoutRoute], ∃ target : RequestTarget,
      routeMatches route target.pathname = true ∧ ¬ Guarded .on route target := by
  refine ⟨"/admin/stats", by decide, .originForm "ADMIN/stats".toList none (by decide), by decide, ?_⟩
  unfold Guarded
  decide

end IdmMw
