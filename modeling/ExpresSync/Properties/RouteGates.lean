import ExpresSync.Model.RootMiddleware

/-!
# Which handlers are reached

The rules of the route classifier and the patterns of `selectAuth` both speak of how a path begins,
and two beginnings of one path are comparable: whether a rule can cover a path that begins in some
way is a question about the rules alone (`RouteRule.Meets`), and they are few.
-/

namespace ExpresSync

/-! ## Beginnings -/

lemma startsWith_iff {text beginning : String} :
    startsWith text beginning = true ↔ beginning.toList <+: text.toList :=
  List.isPrefixOf_iff_prefix

/-- The rule can cover a path that begins with `beginning`. -/
def RouteRule.Meets (rule : RouteRule) (beginning : List Char) : Prop :=
  if rule.pathPrefix = "/" then beginning <+: ['/']
  else
    beginning <+: normalizedPrefix rule.pathPrefix ∨
      normalizedPrefix rule.pathPrefix ++ ['/'] <+: beginning

instance (rule : RouteRule) (beginning : List Char) : Decidable (rule.Meets beginning) :=
  inferInstanceAs (Decidable (ite _ _ _))

lemma isPrefixMatch_iff {pathname pathPrefix : String} (hroot : pathPrefix ≠ "/") :
    isPrefixMatch pathname pathPrefix = true ↔
      pathname.toList = normalizedPrefix pathPrefix ∨
        normalizedPrefix pathPrefix ++ ['/'] <+: pathname.toList := by
  rw [isPrefixMatch, if_neg hroot]
  simp only [Bool.or_eq_true, decide_eq_true_eq, List.isPrefixOf_iff_prefix]

section

variable {pathname : String} {surface : Surface} {rule : RouteRule} {beginning : List Char}

lemma RouteRule.Meets.of_covers (hcovers : rule.covers pathname surface = true)
    (hbegins : beginning <+: pathname.toList) : rule.Meets beginning := by
  obtain ⟨-, hmatch⟩ := Bool.and_eq_true_iff.mp hcovers
  unfold RouteRule.Meets
  by_cases hroot : rule.pathPrefix = "/"
  · rw [if_pos hroot]
    rw [isPrefixMatch, if_pos hroot, decide_eq_true_eq] at hmatch
    subst hmatch
    exact hbegins
  · rw [if_neg hroot]
    rcases (isPrefixMatch_iff hroot).mp hmatch with heq | hprefix
    · exact Or.inl (heq ▸ hbegins)
    · rcases List.prefix_or_prefix_of_prefix hbegins hprefix with hshort | hlong
      · rcases List.prefix_concat_iff.mp hshort with heq | hinside
        · exact Or.inr (heq ▸ List.prefix_refl _)
        · exact Or.inl hinside
      · exact Or.inr hlong

/-! ## The class of a path -/

lemma mem_candidates :
    rule ∈ (routeRules.filter fun rule => rule.covers pathname surface).insertionSort
        (fun a b => b.pathPrefix.length ≤ a.pathPrefix.length) ↔
      rule ∈ routeRules ∧ rule.covers pathname surface = true := by
  rw [List.mem_insertionSort, List.mem_filter]

/-- The class of a path is that of a rule that covers it. -/
lemma exists_rule_of_classifyRoute {classification : RouteClassification}
    (h : classifyRoute pathname surface = classification) (hknown : classification ≠ .unknown) :
    ∃ rule ∈ routeRules, rule.covers pathname surface = true ∧
      rule.classification = classification := by
  unfold classifyRoute at h
  dsimp only at h
  split at h
  · exact absurd h.symm hknown
  · next rule rest heq =>
    have hmem : rule ∈ rule :: rest := List.mem_cons_self
    rw [← heq] at hmem
    obtain ⟨hrule, hcovers⟩ := mem_candidates.mp hmem
    exact ⟨rule, hrule, hcovers, h⟩

/-- When all rules that can cover a path are of one class, so is the path, or it is unknown. -/
lemma classifyRoute_of_meets {classification : RouteClassification}
    (hbegins : beginning <+: pathname.toList)
    (hrules : ∀ rule ∈ routeRules, rule.surface.all (· = surface) = true → rule.Meets beginning →
      rule.classification = classification) :
    classifyRoute pathname surface = classification ∨
      classifyRoute pathname surface = .unknown := by
  by_cases hunknown : classifyRoute pathname surface = .unknown
  · exact Or.inr hunknown
  · obtain ⟨rule, hrule, hcovers, hclass⟩ := exists_rule_of_classifyRoute rfl hunknown
    have hsurface := (Bool.and_eq_true_iff.mp hcovers).1
    have hmeets := RouteRule.Meets.of_covers hcovers hbegins
    exact Or.inl (hclass.symm.trans (hrules rule hrule hsurface hmeets))

/-- A path that a rule covers is known. -/
lemma classifyRoute_ne_unknown (hrule : rule ∈ routeRules)
    (hcovers : rule.covers pathname surface = true)
    (hknown : ∀ rule ∈ routeRules, rule.classification ≠ .unknown) :
    classifyRoute pathname surface ≠ .unknown := by
  have hmem := mem_candidates.mpr ⟨hrule, hcovers⟩
  unfold classifyRoute
  dsimp only
  split
  · next heq =>
    rw [heq] at hmem
    exact absurd hmem List.not_mem_nil
  · next rule' rest heq =>
    have hmem' : rule' ∈ rule' :: rest := List.mem_cons_self
    rw [← heq] at hmem'
    exact hknown rule' (mem_candidates.mp hmem').1

end

/-! ## The bearer gate -/

/-- The middleware does not return before it has checked the bearer that the path asks for. -/
def BearerGateHolds (pathname : String) : Prop :=
  selectAuth pathname = .bearer → ∀ surface, classifyRoute pathname surface ≠ .publicRoute

section

variable {pathname : String} {surface : Surface}

/-- What is asked for a bearer. -/
lemma selectAuth_eq_bearer (h : selectAuth pathname = .bearer) :
    "/api/devices".toList <+: pathname.toList ∧ pathname ≠ "/api/devices/register" ∨
      isChargerControlPath pathname = true := by
  unfold selectAuth at h
  split_ifs at h with hocpp hregister hlisted hdevices hcharger hadmin hcustomer
  · rcases Bool.or_eq_true_iff.mp hlisted with hmem | hresult
    · have hall : ∀ pathname ∈ devicePaths, "/api/devices".toList <+: pathname.toList := by
        decide +kernel
      exact Or.inl ⟨hall pathname (List.contains_iff_mem.mp hmem), hregister⟩
    · have hlong := startsWith_iff.mp hresult
      have hshort : "/api/devices".toList <+: "/api/devices/scan-result/".toList := by
        decide +kernel
      exact Or.inl ⟨hshort.trans hlong, hregister⟩
  · have hshort : "/api/devices".toList <+: "/api/devices/".toList := by decide +kernel
    exact Or.inl ⟨hshort.trans (startsWith_iff.mp hdevices), hregister⟩
  · exact Or.inr hcharger

lemma begins_of_isChargerControlPath (h : isChargerControlPath pathname = true) :
    "/api/admin/devices/".toList <+: pathname.toList :=
  startsWith_iff.mp (Bool.and_eq_true_iff.mp h).1

lemma normalizedPrefix_register :
    normalizedPrefix "/api/devices/register" ++ ['/'] = "/api/devices/register/".toList := by
  decide

/-- Below the registration every path asks for a bearer, and is public. -/
lemma not_bearerGateHolds_of_register (h : startsWith pathname "/api/devices/register/" = true) :
    ¬BearerGateHolds pathname := by
  have hbegins := startsWith_iff.mp h
  have hdevices : startsWith pathname "/api/devices/" = true := by
    have hshort : "/api/devices/".toList <+: "/api/devices/register/".toList := by decide +kernel
    exact startsWith_iff.mpr (hshort.trans hbegins)
  have hocpp : ¬startsWith pathname "/api/ocpp/" = true := by
    intro hocpp
    have hcomparable := List.prefix_or_prefix_of_prefix (startsWith_iff.mp hocpp) hbegins
    exact absurd hcomparable (by decide +kernel)
  have hne : pathname ≠ "/api/devices/register" := by
    intro heq
    subst heq
    exact absurd hbegins (by decide +kernel)
  have hbearer : selectAuth pathname = .bearer := by
    unfold selectAuth
    rw [if_neg hocpp, if_neg hne, if_pos hdevices]
    exact ite_self _
  have hknown : classifyRoute pathname .admin ≠ .unknown := by
    have hmem : (⟨"/api/devices/register", .publicRoute, none⟩ : RouteRule) ∈ routeRules := by
      simp [routeRules]
    refine classifyRoute_ne_unknown hmem ?_ (by decide +kernel)
    rw [← normalizedPrefix_register] at hbegins
    have hmatch : isPrefixMatch pathname "/api/devices/register" = true :=
      (isPrefixMatch_iff (by decide +kernel)).mpr (Or.inr hbegins)
    exact Bool.and_eq_true_iff.mpr ⟨by decide +kernel, hmatch⟩
  have hpublic : classifyRoute pathname .admin = .publicRoute :=
    (classifyRoute_of_meets hbegins (by decide +kernel)).resolve_right hknown
  exact fun hgate => hgate hbearer .admin hpublic

/-- The bearer is checked first on exactly those paths that are not below the registration. -/
theorem bearerGateHolds_iff (pathname : String) :
    BearerGateHolds pathname ↔ startsWith pathname "/api/devices/register/" = false := by
  constructor
  · intro hgate
    by_contra hregister
    rw [Bool.not_eq_false] at hregister
    exact not_bearerGateHolds_of_register hregister hgate
  · intro hregister hbearer surface hpublic
    obtain ⟨rule, hrule, hcovers, hclass⟩ :=
      exists_rule_of_classifyRoute hpublic (by decide +kernel)
    -- only the registration begins so among the public rules
    have honly : ∀ rule ∈ routeRules, rule.classification = .publicRoute →
        (rule.Meets "/api/devices".toList → rule.pathPrefix = "/api/devices/register") ∧
          ¬rule.Meets "/api/admin/devices/".toList := by decide +kernel
    obtain ⟨hdevices, hadmin⟩ := honly rule hrule hclass
    rcases selectAuth_eq_bearer hbearer with ⟨hbegins, hne⟩ | hcharger
    · have hpath := hdevices (RouteRule.Meets.of_covers hcovers hbegins)
      have hmatch := (Bool.and_eq_true_iff.mp hcovers).2
      rw [hpath] at hmatch
      rcases (isPrefixMatch_iff (by decide +kernel)).mp hmatch with heq | hbelow
      · exact hne (String.toList_injective (heq.trans (by decide +kernel)))
      · rw [normalizedPrefix_register] at hbelow
        have htrue := startsWith_iff.mpr hbelow
        rw [hregister] at htrue
        exact absurd htrue (by decide +kernel)
    · exact hadmin (RouteRule.Meets.of_covers hcovers (begins_of_isChargerControlPath hcharger))

end

/-- The push token of a device by the name of `register`. -/
theorem not_bearerGateHolds_pushToken : ¬BearerGateHolds "/api/devices/register/push-token" :=
  not_bearerGateHolds_of_register (by decide +kernel)

end ExpresSync
