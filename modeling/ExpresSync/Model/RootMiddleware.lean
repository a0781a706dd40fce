import ExpresSync.Model.DeviceRegistration
import ExpresSync.Model.RouteClassifier
import ExpresSync.Model.Types

/-!
# The middleware in front of every handler

`polarisCreateFetchHandler` of `main.ts` and `routes/_middleware.ts`, with `origin.ts` and the
bearer tokens of `bearer-auth.ts`.  What the data base, the session library and the rate limiter
answer is a parameter.
-/

namespace ExpresSync

/-- A request, and what its URL is made of. -/
structure HttpRequest where
  hostname : String
  pathname : String
  search : String
  /-- `url.searchParams.get("as")` -/
  asParam : Option String
  method : String
  /-- The headers, by their lower-case names. -/
  headers : String → Option String

structure MiddlewareConfig where
  authUrl : String
  adminBaseUrl : String
  customerBaseUrl : String
  isDevelopment : Bool
  customerSessionTtlSeconds : ℕ

structure DeviceContext where
  id : String
  ownerUserId : String
  capabilities : List String
  secret : String
  tokenId : String
deriving DecidableEq

/-- What `auth.api.getSession` returns. -/
structure SessionUser where
  id : String
  role : Option String
  createdAt : ℤ
deriving DecidableEq

/-- What the middleware asks for; a failed query for a token finds none. -/
structure MiddlewareEnv where
  now : ℤ
  checkRateLimit : String → ℕ → Bool
  sha256Hex : String → String
  /-- The live token with this hash, of a device that is not deleted. -/
  findToken : String → Option DeviceContext
  getSession : (String → Option String) → Option SessionUser
  /-- The role of a user. -/
  findRole : String → Option String

/-- The `ctx.state` of a handler. -/
structure MiddlewareState where
  surface : Surface
  device : Option DeviceContext
  /-- The id of the user, and their role. -/
  user : Option (String × String)
  actingAs : Option String
deriving DecidableEq

inductive MiddlewareOutcome where
  /-- `ctx.next()`, for the path that is routed. -/
  | runs (pathname : String) (state : MiddlewareState)
  | notFound
  | rateLimited
  | unauthorized
  | redirectToLogin (next : Option String)
  | redirectTo (location : String)
  | originMismatch
deriving DecidableEq

/-! ## The origin of a request -/

/-- `url.replace(/\/+$/, "")` -/
def stripTrailingSlashes (url : String) : List Char :=
  (url.toList.reverse.dropWhile (· = '/')).reverse

def MiddlewareConfig.getTrustedOrigins (config : MiddlewareConfig) : List (List Char) :=
  let development :=
    ["http://localhost:5173", "http://127.0.0.1:5173", "http://localhost:8000",
      "http://127.0.0.1:8000", "http://manage.polaris.localhost:5173",
      "http://polaris.localhost:5173", "http://manage.polaris.localhost:8000",
      "http://polaris.localhost:8000"]
  ([config.authUrl, config.adminBaseUrl] ++ if config.isDevelopment then development else []).map
    stripTrailingSlashes

/-- The methods whose origin the middleware checks. -/
def stateChangingMethods : List String := ["POST", "PUT", "PATCH", "DELETE"]

namespace HttpRequest

variable (request : HttpRequest)

def isStateChanging : Bool := stateChangingMethods.contains request.method.toUpper

/-- Whether `assertSameOrigin` returns for a method that changes state. -/
def isSameOrigin (config : MiddlewareConfig) : Bool :=
  (request.headers "origin").any fun origin =>
    !origin.isEmpty && config.getTrustedOrigins.contains (stripTrailingSlashes origin)

/-! ## Bearer tokens -/

def extractBearerToken : Option String :=
  let authorization := (request.headers "authorization").getD ""
  if startsWith authorization "Bearer " then
    let raw := String.ofList (trimChars (authorization.toList.drop "Bearer ".length))
    if startsWith raw "dev_" ∧ 6 ≤ codeUnits raw ∧ codeUnits raw ≤ 256 then some raw else none
  else none

def resolveBearer (env : MiddlewareEnv) : Option DeviceContext :=
  request.extractBearerToken.bind fun raw => env.findToken (env.sha256Hex raw)

/-! ## Rate limits -/

def getClientIp : String :=
  match request.headers "x-forwarded-for" with
  | some forwarded => String.ofList (trimChars (forwarded.toList.takeWhile (· ≠ ',')))
  | none =>
      (request.headers "x-real-ip" <|> request.headers "cf-connecting-ip").getD "unknown"

/-- The buckets that a path counts in, with their names and bounds. -/
def rateLimits : List (String × String × ℕ) :=
  [("", "general:", 100), ("/api/auth", "auth:", 10),
    ("/api/auth/magic-link/preflight", "mlpreflight:", 20),
    ("/api/auth/scan-login", "scanlogin:", 10)]

def applyRateLimits (env : MiddlewareEnv) : Bool :=
  startsWith request.pathname "/api/ocpp" ||
    rateLimits.all fun (beginning, bucket, max) =>
      !startsWith request.pathname beginning ||
        env.checkRateLimit (bucket ++ request.getClientIp) max

/-! ## The middleware -/

def redirectToLogin (originalPath : Option String) : MiddlewareOutcome :=
  .redirectToLogin <| originalPath.filter fun path =>
    startsWith path "/" && !startsWith path "//" && !startsWith path "/login" &&
      !startsWith path "/api/"

/-- The path as the browser has it. -/
def browserPath (surface : Surface) : String :=
  if surface = .admin ∧ startsWith request.pathname "/admin" then
    let rest := String.ofList (request.pathname.toList.drop "/admin".length)
    if rest.isEmpty then "/" else rest
  else request.pathname

/-- The user that an admin acts for. -/
def actingAs (env : MiddlewareEnv) (role : String) : Option String :=
  request.asParam.filter fun target =>
    !target.isEmpty && role = "admin" && env.findRole target = some "customer"

/-- What follows the checks of the session: the origin, and the handler. -/
def finish (config : MiddlewareConfig) (state : MiddlewareState) : MiddlewareOutcome :=
  if request.isStateChanging && !request.isSameOrigin config then .originMismatch
  else .runs request.pathname state

/-- From the session on. -/
def withSession (config : MiddlewareConfig) (env : MiddlewareEnv) (surface : Surface) :
    MiddlewareOutcome :=
  let isApi := startsWith request.pathname "/api/"
  match env.getSession request.headers with
  | none =>
      if isApi then .unauthorized
      else redirectToLogin (some (request.browserPath surface ++ request.search))
  | some session =>
      let role := session.role.getD "customer"
      let state : MiddlewareState := ⟨surface, none, some (session.id, role), none⟩
      if role = "customer" ∧
          (config.customerSessionTtlSeconds : ℤ) * 1000 < env.now - session.createdAt then
        if isApi then .unauthorized else redirectToLogin none
      else
        match surface with
        | .admin =>
            if role ≠ "admin" then
              if isApi then .notFound else .redirectTo (config.customerBaseUrl ++ "/")
            else request.finish config state
        | .customer =>
            match classifyRoute request.pathname .customer with
            | .adminOnly | .unknown => .notFound
            | _ => request.finish config { state with actingAs := request.actingAs env role }

/-- The handler of `_middleware.ts`. -/
def middleware (config : MiddlewareConfig) (env : MiddlewareEnv) : MiddlewareOutcome :=
  match classifySurface request.hostname.toLower with
  | none => .notFound
  | some surface =>
      if !request.applyRateLimits env then .rateLimited
      else if classifyRoute request.pathname surface = .publicRoute then
        .runs request.pathname ⟨surface, none, none, none⟩
      else if startsWith request.pathname "/api/admin/" ∧ surface ≠ .admin then .notFound
      else if startsWith request.pathname "/api/customer/" ∧ surface ≠ .customer then .notFound
      else if selectAuth request.pathname = .bearer then
        match request.resolveBearer env with
        | none => .unauthorized
        | some device => .runs request.pathname ⟨surface, some device, none, none⟩
      else request.withSession config env surface

/-- The request after the path rewrite. -/
def rewritten : HttpRequest :=
  { request with pathname := servedPath request.hostname.toLower request.pathname }

/-- The handler of `polarisCreateFetchHandler`. -/
def fetch (config : MiddlewareConfig) (env : MiddlewareEnv) : MiddlewareOutcome :=
  request.rewritten.middleware config env

end HttpRequest

end ExpresSync
