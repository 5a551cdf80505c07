import IdmMw.Library.Split
import Mathlib.Data.List.TakeWhile

/-!
# Requests, routes and the two guards in front of them

* `RequestTarget`: what a request asks for, as the guards and the router see it;
* `routeMatches`: which paths the router dispatches to the handler of a route, with the default
  settings (case is ignored, one slash may follow);
* `integrationRoutes`, `adminRoutes`, `logoutRoute`: the routes of the controllers under `/idm`,
  `/webhooks` and `/admin`, and `/auth/logout`;
* `IntegrationAuthService.requiresAuth`, `AdminAuthMiddleware.requiresAdminAuth`: the guards.
-/

namespace IdmMw

/-! ### Request targets -/

/-- A request target, which has no white space and no fragment. In origin form it is a path and
perhaps a query; in absolute form it begins with a scheme, and the path is what the URL parser finds
in it. -/
inductive RequestTarget
  | originForm (path : List Char) (query : Option (List Char)) (plain : '?' ∉ path)
  | absoluteForm (scheme : Char) (rest : List Char) (pathname : List Char) (noPath : scheme ≠ '/')

namespace RequestTarget

/-- `req.originalUrl`. -/
def originalUrl : RequestTarget → List Char
  | originForm path none _ => '/' :: path
  | originForm path (some query) _ => '/' :: path ++ '?' :: query
  | absoluteForm scheme rest _ _ => scheme :: rest

/-- `req.path`, which is also what the router matches. -/
def pathname : RequestTarget → List Char
  | originForm path _ _ => '/' :: path
  | absoluteForm _ _ pathname _ => pathname

def isOriginForm : RequestTarget → Bool
  | originForm _ _ _ => true
  | absoluteForm _ _ _ _ => false

end RequestTarget

/-! ### The router -/

/-- A segment of a path matches one of a route: a parameter takes any text, other segments are
compared without case. -/
def segmentMatches : (pattern segment : List Char) → Bool
  | ':' :: _, segment => !segment.isEmpty
  | pattern, segment => pattern.map Char.toLower == segment.map Char.toLower

def segmentsMatch : (patterns segments : List (List Char)) → Bool
  | [], [] => true
  | pattern :: patterns, segment :: segments =>
    segmentMatches pattern segment && segmentsMatch patterns segments
  | _, _ => false

/-- The router dispatches a path to the handler of a route. -/
def routeMatches (route : String) (pathname : List Char) : Bool :=
  segmentsMatch (route.toList.splitOn '/') (pathname.splitOn '/') ||
    (pathname.getLast? == some '/' &&
      segmentsMatch (route.toList.splitOn '/') (pathname.dropLast.splitOn '/'))

/-- The routes of `IdmController` and `WebhookController`. -/
def integrationRoutes : List String :=
  ["/idm/target-systems", "/idm/target-systems/:name", "/idm/:targetSystem/test",
    "/idm/:targetSystem/users", "/idm/:targetSystem/users/resolve", "/idm/:targetSystem/users/:id",
    "/idm/:targetSystem/groups", "/idm/:targetSystem/groups/:id", "/idm/:targetSystem/schema",
    "/idm/:targetSystem/sync", "/webhooks/avanpost"]

/-- The routes of `AdminController`, `TargetSystemController`, `LinuxFleetController`,
`RuntimeDiagnosticsController` and `RbacController`. -/
def adminRoutes : List String :=
  ["/admin/stats", "/admin/dlq", "/admin/dlq/retry", "/admin/dlq/:id/retry", "/admin/dlq/:id/skip",
    "/admin/target-systems", "/admin/target-systems/name/:name", "/admin/target-systems/:id",
    "/admin/target-systems/:id/test",
    "/admin/linux-fleet/target-systems/:targetSystemId/credential-profiles",
    "/admin/linux-fleet/credential-profiles/:id",
    "/admin/linux-fleet/target-systems/:targetSystemId/hosts", "/admin/linux-fleet/hosts/:id",
    "/admin/linux-fleet/target-systems/:targetSystemId/groups", "/admin/linux-fleet/groups/:id",
    "/admin/linux-fleet/groups/:id/hosts", "/admin/runtime/debug", "/admin/runtime/debug/:id",
    "/admin/runtime/logs", "/admin/rbac/effective", "/admin/rbac/roles", "/admin/rbac/roles/:id",
    "/admin/rbac/mappings", "/admin/rbac/mappings/:id"]

def logoutRoute : String := "/auth/logout"

/-! ### The guards -/

/-- The settings of the integration guard; `none` where one is not set. -/
structure GuardConfig where
  metricsPublicEnabled : Option Bool
  integrationAuthEnabled : Option Bool

namespace IntegrationAuthService

/-- The text before the first `?`, or `/`. -/
def path (originalUrl : List Char) : List Char :=
  match originalUrl.takeWhile (· ≠ '?') with
  | [] => ['/']
  | text => text

def requiresAuth (config : GuardConfig) (originalUrl : List Char) : Bool :=
  let path := path originalUrl
  if path = "/metrics".toList then !config.metricsPublicEnabled.getD true
  else if !config.integrationAuthEnabled.getD false then false
  else path == "/idm".toList || "/idm/".toList.isPrefixOf path ||
    "/webhooks/".toList.isPrefixOf path

end IntegrationAuthService

/-- `requiresAdminAuth(req.path)`. -/
def AdminAuthMiddleware.requiresAdminAuth (path : List Char) : Bool :=
  path == "/auth/logout".toList || path == "/admin".toList || "/admin/".toList.isPrefixOf path

end IdmMw
