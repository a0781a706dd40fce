import ExpresSync.Properties.RouteGates

/-!
# Who runs an admin handler

What a request has passed when its handler runs (`Admitted`), and from it: below `/admin` and
`/api/admin` a handler that is not public runs for an admin session on an admin host, or for a
device at a path of `chargerControlActions`.  On the customer surface a path without a rule is
denied, unless it is one of a device.
-/

namespace ExpresSync

open HttpRequest

/-- A path at or below `/admin` or `/api/admin`. -/
def IsAdminPath (pathname : String) : Prop :=
  isPrefixMatch pathname "/admin" ∨ isPrefixMatch pathname "/api/admin"

section

variable (config : MiddlewareConfig) (env : MiddlewareEnv) (request : HttpRequest)

/-- The request has the session of an admin, and a trusted origin if it changes state. -/
def HasAdminSession : Prop :=
  (∃ session ∈ env.getSession request.headers, session.role = some "admin") ∧
    (request.isStateChanging = true → request.isSameOrigin config = true)

/-- The request has the live token of a device, which the handler is given. -/
def HasDeviceBearer (state : MiddlewareState) : Prop :=
  ∃ device ∈ request.resolveBearer env, state.device = some device

/-- A handler of the admin surface that is not public runs for admins, on an admin host, and for
devices at their paths. -/
def RunsForAdmins : Prop :=
  ∀ pathname state, request.fetch config env = .runs pathname state → IsAdminPath pathname →
    classifyRoute pathname state.surface ≠ .publicRoute →
      request.hostname.toLower ∈ adminHosts ∧
        (HasAdminSession config env request ∨
          isChargerControlPath pathname = true ∧ HasDeviceBearer env request state)

/-- The request is to the customer surface, and no rule covers the path. -/
def IsUnknownToCustomers (pathname : String) : Prop :=
  classifySurface request.hostname.toLower = some .customer ∧
    classifyRoute pathname .customer = .unknown

/-- On the customer surface no handler runs at a path without a rule. -/
def DeniesUnknown : Prop :=
  ∀ pathname state, request.fetch config env = .runs pathname state →
    ¬IsUnknownToCustomers request pathname

/-- On the customer surface a handler runs at a path without a rule for a device only. -/
def DeniesUnknownButDevices : Prop :=
  ∀ pathname state, request.fetch config env = .runs pathname state →
    IsUnknownToCustomers request pathname →
      selectAuth pathname = .bearer ∧ HasDeviceBearer env request state

end

/-! ## What a request has passed -/

/-- How a request has come to its handler. -/
inductive Admitted (config : MiddlewareConfig) (env : MiddlewareEnv) (request : HttpRequest)
    (surface : Surface) (state : MiddlewareState) : Prop
  | isPublic (h : classifyRoute request.pathname surface = .publicRoute)
  | bearer (hauth : selectAuth request.pathname = .bearer)
      (hdevice : HasDeviceBearer env request state)
      (hsurface : startsWith request.pathname "/api/admin/" = true → surface = .admin)
  | adminSession (hsurface : surface = .admin) (h : HasAdminSession config env request)
  | customerSession (hsurface : surface = .customer)
      (hadmin : classifyRoute request.pathname .customer ≠ .adminOnly)
      (hknown : classifyRoute request.pathname .customer ≠ .unknown)

section

variable {config : MiddlewareConfig} {env : MiddlewareEnv} {request : HttpRequest}
  {surface : Surface} {pathname : String} {state : MiddlewareState}

lemma redirectToLogin_ne_runs {next : Option String} :
    redirectToLogin next ≠ .runs pathname state := by
  intro h
  cases h

lemma finish_eq_runs {given : MiddlewareState}
    (h : request.finish config given = .runs pathname state) :
    pathname = request.pathname ∧ state = given ∧
      (request.isStateChanging = true → request.isSameOrigin config = true) := by
  unfold HttpRequest.finish at h
  split_ifs at h with hmismatch
  simp only [MiddlewareOutcome.runs.injEq] at h
  refine ⟨h.1.symm, h.2.symm, fun hchanging => ?_⟩
  by_contra horigin
  rw [Bool.not_eq_true] at horigin
  exact hmismatch (by rw [hchanging, horigin]; decide)

lemma role_eq_admin {role : Option String} (h : role.getD "customer" = "admin") :
    role = some "admin" := by
  cases role with
  | none => exact absurd h (by decide)
  | some role => rw [← h, Option.getD_some]

/-- What a request with a session has passed. -/
lemma admitted_of_withSession (h : request.withSession config env surface = .runs pathname state) :
    pathname = request.pathname ∧ state.surface = surface ∧
      Admitted config env request surface state := by
  unfold HttpRequest.withSession at h
  dsimp only at h
  split at h
  · split_ifs at h
    exact absurd h redirectToLogin_ne_runs
  · next session hsession =>
    cases surface with
    | admin =>
        dsimp only at h
        split_ifs at h with hexpired hapi hrole hapi'
        · exact absurd h redirectToLogin_ne_runs
        · obtain ⟨hpath, hstate, horigin⟩ := finish_eq_runs h
          have hadmin : session.role = some "admin" := role_eq_admin (not_not.mp hrole)
          exact ⟨hpath, by rw [hstate],
            .adminSession rfl ⟨⟨session, hsession, hadmin⟩, horigin⟩⟩
    | customer =>
        dsimp only at h
        by_cases hexpired : session.role.getD "customer" = "customer" ∧
            (config.customerSessionTtlSeconds : ℤ) * 1000 < env.now - session.createdAt
        · rw [if_pos hexpired] at h
          split_ifs at h
          exact absurd h redirectToLogin_ne_runs
        · rw [if_neg hexpired] at h
          split at h
          · cases h
          · cases h
          · next hadmin hknown =>
            obtain ⟨hpath, hstate, -⟩ := finish_eq_runs h
            exact ⟨hpath, by rw [hstate], .customerSession rfl hadmin hknown⟩

/-- What a request has passed when its handler runs. -/
lemma admitted_of_middleware (h : request.middleware config env = .runs pathname state) :
    pathname = request.pathname ∧ classifySurface request.hostname.toLower = some state.surface ∧
      Admitted config env request state.surface state := by
  unfold HttpRequest.middleware at h
  split at h
  · cases h
  · next surface hsurface =>
    split_ifs at h with hlimited hpublic hadmin hcustomer hbearer
    · simp only [MiddlewareOutcome.runs.injEq] at h
      obtain ⟨hpath, hstate⟩ := h
      subst hstate
      exact ⟨hpath.symm, hsurface, .isPublic hpublic⟩
    · split at h
      · cases h
      · next device hdevice =>
        simp only [MiddlewareOutcome.runs.injEq] at h
        obtain ⟨hpath, hstate⟩ := h
        subst hstate
        refine ⟨hpath.symm, hsurface, .bearer hbearer ⟨device, hdevice, rfl⟩ fun hapi => ?_⟩
        by_contra hother
        exact hadmin ⟨hapi, hother⟩
    · obtain ⟨hpath, hstate, hadmitted⟩ := admitted_of_withSession h
      subst hstate
      exact ⟨hpath, hsurface, hadmitted⟩

/-! ## Admin paths -/

lemma begins_of_isAdminPath (h : IsAdminPath pathname) :
    "/admin".toList <+: pathname.toList ∨ "/api/admin".toList <+: pathname.toList := by
  have hbegins : ∀ {pathPrefix : String}, pathPrefix ≠ "/" →
      normalizedPrefix pathPrefix = pathPrefix.toList → isPrefixMatch pathname pathPrefix = true →
        pathPrefix.toList <+: pathname.toList := by
    intro pathPrefix hroot hnormalized hmatch
    rcases (isPrefixMatch_iff hroot).mp hmatch with heq | hprefix
    · rw [heq, hnormalized]
    · rw [hnormalized] at hprefix
      exact (List.prefix_append _ _).trans hprefix
  rcases h with hadmin | hapi
  · exact Or.inl (hbegins (by decide) (by decide) hadmin)
  · exact Or.inr (hbegins (by decide) (by decide) hapi)

/-- The customer surface has no rule for an admin path. -/
lemma classifyRoute_customer_of_isAdminPath (h : IsAdminPath pathname) :
    classifyRoute pathname .customer = .unknown := by
  by_contra hknown
  obtain ⟨rule, hrule, hcovers, -⟩ := exists_rule_of_classifyRoute rfl hknown
  have hsurface := (Bool.and_eq_true_iff.mp hcovers).1
  have hnone : ∀ rule ∈ routeRules, rule.surface.all (· = .customer) = true →
      ¬rule.Meets "/admin".toList ∧ ¬rule.Meets "/api/admin".toList := by decide +kernel
  rcases begins_of_isAdminPath h with hadmin | hapi
  · exact (hnone rule hrule hsurface).1 (RouteRule.Meets.of_covers hcovers hadmin)
  · exact (hnone rule hrule hsurface).2 (RouteRule.Meets.of_covers hcovers hapi)

/-- A device is asked for its token at an admin path where it controls a charger. -/
lemma isChargerControlPath_of_isAdminPath (h : IsAdminPath pathname)
    (hbearer : selectAuth pathname = .bearer) : isChargerControlPath pathname = true := by
  have hdevices : ¬"/api/devices".toList <+: pathname.toList := by
    intro hdevices
    rcases begins_of_isAdminPath h with hadmin | hapi
    · exact absurd (List.prefix_or_prefix_of_prefix hdevices hadmin) (by decide)
    · exact absurd (List.prefix_or_prefix_of_prefix hdevices hapi) (by decide)
  rcases selectAuth_eq_bearer hbearer with ⟨hbegins, -⟩ | hcharger
  · exact absurd hbegins hdevices
  · exact hcharger

lemma mem_adminHosts {hostname : String} (h : classifySurface hostname = some .admin) :
    hostname ∈ adminHosts := by
  unfold classifySurface at h
  split_ifs at h with hcustomer hadmin
  · exact absurd (Option.some.inj h) (by decide)
  · exact hadmin

end

/-! ## Isolation -/

/-- Admin handlers run for admins and for devices at their paths, and on the customer surface only
the paths of devices need no rule. -/
theorem runsForAdmins_and_deniesUnknownButDevices (config : MiddlewareConfig)
    (env : MiddlewareEnv) (request : HttpRequest) :
    RunsForAdmins config env request ∧ DeniesUnknownButDevices config env request := by
  constructor
  · intro pathname state hruns hpath hpublic
    obtain ⟨rfl, hsurface, hadmitted⟩ := admitted_of_middleware hruns
    rcases hadmitted with hopen | ⟨hbearer, hdevice, hadmin⟩ | ⟨hadmin, hsession⟩ | ⟨-, -, hknown⟩
    · exact absurd hopen hpublic
    · have hcharger := isChargerControlPath_of_isAdminPath hpath hbearer
      have hshort : "/api/admin/".toList <+: "/api/admin/devices/".toList := by decide
      have hapi := hshort.trans (begins_of_isChargerControlPath hcharger)
      rw [hadmin (startsWith_iff.mpr hapi)] at hsurface
      exact ⟨mem_adminHosts hsurface, Or.inr ⟨hcharger, hdevice⟩⟩
    · rw [hadmin] at hsurface
      exact ⟨mem_adminHosts hsurface, Or.inl hsession⟩
    · exact absurd (classifyRoute_customer_of_isAdminPath hpath) hknown
  · intro pathname state hruns hunknown
    obtain ⟨rfl, hsurface, hadmitted⟩ := admitted_of_middleware hruns
    have hcustomer : state.surface = .customer :=
      Option.some.inj (hsurface.symm.trans hunknown.1)
    rw [hcustomer] at hadmitted
    rcases hadmitted with hopen | ⟨hbearer, hdevice, -⟩ | ⟨hadmin, -⟩ | ⟨-, -, hknown⟩
    · rw [hunknown.2] at hopen
      exact absurd hopen (by decide)
    · exact ⟨hbearer, hdevice⟩
    · exact absurd hadmin (by decide)
    · exact absurd hunknown.2 hknown

/-! ## A device on the customer surface -/

/-- A device that has registered, and nobody else. -/
def sampleEnv : MiddlewareEnv where
  now := 0
  checkRateLimit _ _ := true
  sha256Hex raw := raw
  findToken hash :=
    if hash = "dev_token" then some ⟨"phone", "owner", ["scanner"], "secret", "token"⟩ else none
  getSession _ := none
  findRole _ := none

/-- A device asks for its state under the name of the customer host. -/
def deviceRequest : HttpRequest where
  hostname := "example.com"
  pathname := "/api/devices/me"
  search := ""
  asParam := none
  method := "GET"
  headers name := if name = "authorization" then some "Bearer dev_token" else none

def sampleConfig : MiddlewareConfig where
  authUrl := "https://example.com"
  adminBaseUrl := "https://manage.example.com"
  customerBaseUrl := "https://example.com"
  isDevelopment := false
  customerSessionTtlSeconds := 28800

/-- No rule covers the paths of devices. -/
theorem not_deniesUnknown_deviceRequest :
    ¬(RunsForAdmins sampleConfig sampleEnv deviceRequest ∧
      DeniesUnknown sampleConfig sampleEnv deviceRequest) := by
  rintro ⟨-, hdenies⟩
  have hruns : deviceRequest.fetch sampleConfig sampleEnv =
      .runs "/api/devices/me"
        ⟨.customer, some ⟨"phone", "owner", ["scanner"], "secret", "token"⟩, none, none⟩ ∧
      classifySurface deviceRequest.hostname.toLower = some .customer ∧
        classifyRoute "/api/devices/me" .customer = .unknown := by decide +kernel
  exact hdenies _ _ hruns.1 hruns.2

end ExpresSync
