import Mathlib.Data.List.Sort

/-!
# Hosts, paths and who may go where

`hostname-dispatch.ts`, `route-classifier.ts` and `selectAuth` of `routes/_middleware.ts`.  A host
belongs to the admin or to the customer surface; on the admin surface a page is served from below
`/admin`.  The class of a path is that of the longest prefix among the rules that cover it, and the
way it is authenticated is told from the path alone, apart from these rules.
-/

namespace ExpresSync

/-- `text.startsWith(beginning)` -/
def startsWith (text beginning : String) : Bool := beginning.toList.isPrefixOf text.toList

/-! ## Hosts -/

inductive Surface where
  | admin
  | customer
deriving DecidableEq

/-- `ADMIN_HOSTS` -/
def adminHosts : List String :=
  ["manage.example.com", "manage.polaris.localhost", "localhost", "127.0.0.1"]

/-- `CUSTOMER_HOSTS` -/
def customerHosts : List String := ["example.com", "polaris.localhost"]

def classifyAdminHostname (hostname : String) : Option Surface :=
  if hostname ∈ adminHosts then some .admin else none

def classifySurface (hostname : String) : Option Surface :=
  if hostname ∈ customerHosts then some .customer
  else if hostname ∈ adminHosts then some .admin
  else none

/-! ## The path rewrite of the admin surface -/

/-- The files that are served under the same path on both surfaces. -/
def shellFiles : List String :=
  ["/favicon.ico", "/favicon.svg", "/manifest.json", "/manifest.admin.json", "/robots.txt",
    "/apple-touch-icon.png", "/favicon-16.png", "/favicon-32.png", "/favicon-48.png",
    "/favicon-96.png", "/icon-192.png", "/icon-512.png", "/icon-maskable-192.png",
    "/icon-maskable-512.png"]

def isShellOrApiPath (pathname : String) : Bool :=
  startsWith pathname "/api/" || startsWith pathname "/_fresh" || startsWith pathname "/static" ||
    startsWith pathname "/assets" || shellFiles.contains pathname

def shouldRewriteAdminPath (pathname : String) : Bool :=
  !isShellOrApiPath pathname && !startsWith pathname "/.well-known/" &&
    !(pathname = "/admin" || startsWith pathname "/admin/")

/-- The path that `rewriteRequestForSurface` sets on the admin surface. -/
def adminPath (pathname : String) : String :=
  if pathname = "/" then "/admin"
  else
    let cs := pathname.toList
    String.ofList ("/admin".toList ++ if cs.getLast? = some '/' then cs.dropLast else cs)

/-- The path after `polarisCreateFetchHandler`. -/
def servedPath (hostname pathname : String) : String :=
  if classifyAdminHostname hostname = some .admin ∧ shouldRewriteAdminPath pathname then
    adminPath pathname
  else pathname

/-! ## Classes of paths -/

inductive RouteClassification where
  | publicRoute
  | shared
  | customerOnly
  | adminOnly
  | unknown
deriving DecidableEq

structure RouteRule where
  pathPrefix : String
  classification : RouteClassification
  surface : Option Surface

/-- `RULES` -/
def routeRules : List RouteRule :=
  [⟨"/api/auth", .publicRoute, none⟩, ⟨"/api/health", .publicRoute, none⟩,
    ⟨"/api/webhook/lago", .publicRoute, none⟩, ⟨"/api/ocpp", .publicRoute, none⟩,
    ⟨"/api/devices/register", .publicRoute, none⟩, ⟨"/admin/login", .publicRoute, some .admin⟩,
    ⟨"/admin/reset-password", .publicRoute, some .admin⟩,
    ⟨"/api/admin/forgot-password", .publicRoute, some .admin⟩,
    ⟨"/api/admin/reset-password", .publicRoute, some .admin⟩,
    ⟨"/login", .publicRoute, some .customer⟩, ⟨"/auth/verify", .publicRoute, some .customer⟩,
    ⟨"/auth/scan", .publicRoute, some .customer⟩, ⟨"/switch", .publicRoute, some .customer⟩,
    ⟨"/privacy", .publicRoute, none⟩, ⟨"/terms", .publicRoute, none⟩,
    ⟨"/c/", .publicRoute, some .customer⟩, ⟨"/u/", .publicRoute, some .customer⟩,
    ⟨"/admin", .adminOnly, some .admin⟩, ⟨"/api/admin", .adminOnly, some .admin⟩,
    ⟨"/sessions", .customerOnly, some .customer⟩, ⟨"/reservations", .customerOnly, some .customer⟩,
    ⟨"/cards", .customerOnly, some .customer⟩, ⟨"/subscription", .customerOnly, some .customer⟩,
    ⟨"/billing", .customerOnly, some .customer⟩, ⟨"/account", .customerOnly, some .customer⟩,
    ⟨"/api/customer", .customerOnly, some .customer⟩,
    ⟨"/api/stream/customer", .customerOnly, some .customer⟩, ⟨"/_fresh", .publicRoute, none⟩,
    ⟨"/static", .publicRoute, none⟩, ⟨"/assets", .publicRoute, none⟩,
    ⟨"/.well-known", .publicRoute, none⟩, ⟨"/favicon.ico", .publicRoute, none⟩,
    ⟨"/favicon.svg", .publicRoute, none⟩, ⟨"/favicon-16.png", .publicRoute, none⟩,
    ⟨"/favicon-32.png", .publicRoute, none⟩, ⟨"/favicon-48.png", .publicRoute, none⟩,
    ⟨"/favicon-96.png", .publicRoute, none⟩, ⟨"/icon-192.png", .publicRoute, none⟩,
    ⟨"/icon-512.png", .publicRoute, none⟩, ⟨"/icon-maskable-192.png", .publicRoute, none⟩,
    ⟨"/icon-maskable-512.png", .publicRoute, none⟩, ⟨"/apple-touch-icon.png", .publicRoute, none⟩,
    ⟨"/manifest.json", .publicRoute, none⟩, ⟨"/manifest.admin.json", .publicRoute, none⟩,
    ⟨"/robots.txt", .publicRoute, none⟩, ⟨"/", .shared, none⟩]

/-- The prefix without a `/` at its end. -/
def normalizedPrefix (pathPrefix : String) : List Char :=
  if pathPrefix.toList.getLast? = some '/' then pathPrefix.toList.dropLast else pathPrefix.toList

def isPrefixMatch (pathname pathPrefix : String) : Bool :=
  if pathPrefix = "/" then pathname = "/"
  else
    let normalized := normalizedPrefix pathPrefix
    pathname.toList = normalized || (normalized ++ ['/']).isPrefixOf pathname.toList

/-- The rule is one for this surface, and covers the path. -/
def RouteRule.covers (rule : RouteRule) (pathname : String) (surface : Surface) : Bool :=
  rule.surface.all (· = surface) && isPrefixMatch pathname rule.pathPrefix

def classifyRoute (pathname : String) (surface : Surface) : RouteClassification :=
  let candidates := (routeRules.filter fun rule => rule.covers pathname surface).insertionSort
    fun a b => b.pathPrefix.length ≤ a.pathPrefix.length
  match candidates with
  | [] => .unknown
  | rule :: _ => rule.classification

/-! ## Authentication -/

/-- The `AuthScheme` of the middleware. -/
inductive PathAuth where
  | bearer
  | cookie
  | ocppHmac
  | publicOrCookie
deriving DecidableEq

def chargerControlActions : List String :=
  ["start", "stop", "cancel-reservation", "session", "tags", "customers", "reservations"]

/-- The pattern of `/api/admin/devices/{deviceId}/{action}`. -/
def isChargerControlPath (pathname : String) : Bool :=
  let base := "/api/admin/devices/"
  startsWith pathname base &&
    let rest := pathname.toList.drop base.length
    let deviceId := rest.takeWhile (· ≠ '/')
    !deviceId.isEmpty && chargerControlActions.any fun action =>
      rest.drop deviceId.length = '/' :: action.toList

/-- The device paths that are listed one by one. -/
def devicePaths : List String :=
  ["/api/devices", "/api/devices/me", "/api/devices/me/state", "/api/devices/me/state/sync",
    "/api/devices/scan-stream", "/api/devices/scan-result", "/api/devices/scan-cancel"]

def selectAuth (pathname : String) : PathAuth :=
  if startsWith pathname "/api/ocpp/" then .ocppHmac
  else if pathname = "/api/devices/register" then .publicOrCookie
  else if devicePaths.contains pathname || startsWith pathname "/api/devices/scan-result/" then
    .bearer
  else if startsWith pathname "/api/devices/" then .bearer
  else if isChargerControlPath pathname then .bearer
  else if startsWith pathname "/api/admin/" then .cookie
  else if startsWith pathname "/api/customer/" then .cookie
  else .publicOrCookie

end ExpresSync
