import ExpresSync.Model.BackLinks

/-!
# Where back links lead

A back link that is a URL leads where it says, to an allowed origin.  One that is a path stays on
the page's origin, unless the browser meets a second slash where the check of the prefix has not
(`NamesHost`): then it leads to whatever host comes next.
-/

namespace ExpresSync

open WebUrl

section

variable (p : Parser) (raw : Option String) (allowedOrigins : List String)

/-- A page of an allowed origin. -/
structure AllowedPage (page : Url) : Prop where
  read : ∃ s, p.parse s = some page
  web : page.IsWeb
  origin : page.origin ∈ originsOf p allowedOrigins

/-- A link to the origin of its page, or to an allowed one. -/
def LeadsHome (page : Url) (s : String) : Prop :=
  ∃ origin, p.resolveOrigin page s = some origin ∧
    (origin = page.origin ∨ origin ∈ originsOf p allowedOrigins)

/-- The back link leads home from all pages. -/
def StaysOnSite : Prop :=
  ∀ s, sanitiseBackHref p raw allowedOrigins = some s →
    ∀ page, AllowedPage p allowedOrigins page → LeadsHome p allowedOrigins page s

end

/-- A text that is let through as a path. -/
def IsBackPath (s : List Char) : Prop := ['/'] <+: s ∧ ¬['/', '/'] <+: s

/-- A text that names a host for the browser, by a second slash or backslash after the first. -/
def NamesHost (s : List Char) : Prop :=
  ∃ c rest, clean s = '/' :: c :: rest ∧ isSlash c = true

/-- A path that names a host names one of an allowed origin, or that of the page. -/
def NamesHomeHost (p : Parser) (raw : Option String) (allowedOrigins : List String) : Prop :=
  ∀ s, raw.map trim = some s → IsBackPath s.toList → NamesHost s.toList →
    ∀ page, AllowedPage p allowedOrigins page →
      ∃ u, p.afterScheme page.scheme (clean s.toList) = some u ∧
        (u.origin = page.origin ∨ u.origin ∈ originsOf p allowedOrigins)

section

variable {p : Parser} {raw : Option String} {allowedOrigins : List String} {s : String} {page : Url}

lemma IsBackPath.cons {s : List Char} (h : IsBackPath s) : ∃ rest, s = '/' :: rest := by
  obtain ⟨rest, hrest⟩ := h.1
  exact ⟨rest, hrest.symm⟩

/-- What comes back is the trimmed text as a path, or a URL with an allowed origin. -/
lemma sanitiseBackHref_eq_some (h : sanitiseBackHref p raw allowedOrigins = some s) :
    (raw.map trim = some s ∧ IsBackPath s.toList) ∨
      ∃ t url, p.parse t = some url ∧ url.origin ∈ originsOf p allowedOrigins ∧ s = url.href := by
  cases raw with
  | none => cases h
  | some raw =>
      unfold sanitiseBackHref at h
      dsimp only at h
      split at h
      · cases h
      split at h
      · cases h
      split at h
      · rename_i hpath
        obtain rfl := Option.some.inj h
        exact Or.inl ⟨rfl, hpath⟩
      · split at h
        · cases h
        · rename_i url hurl
          split at h
          · rename_i hallowed
            obtain rfl := Option.some.inj h
            exact Or.inr ⟨_, url, hurl, hallowed, rfl⟩
          · cases h

/-- A path is let through as it is. -/
lemma sanitiseBackHref_path (hraw : raw.map trim = some s) (hpath : IsBackPath s.toList) :
    sanitiseBackHref p raw allowedOrigins = some s := by
  obtain ⟨text, rfl, rfl⟩ := Option.map_eq_some_iff.mp hraw
  obtain ⟨rest, hrest⟩ := hpath.cons
  have hne : trim text ≠ "" := by
    intro hempty
    rw [hempty] at hrest
    cases hrest
  have htext : text ≠ "" := by
    rintro rfl
    exact hne (by decide)
  unfold sanitiseBackHref
  dsimp only
  rw [if_neg htext, if_neg hne]
  exact if_pos hpath

/-- A URL with an allowed origin leads there. -/
lemma leadsHome_href {t : String} {url : Url} (h : p.Serializes) (hpage : page.IsWeb)
    (hparse : p.parse t = some url) (hallowed : url.origin ∈ originsOf p allowedOrigins) :
    LeadsHome p allowedOrigins page url.href :=
  ⟨url.origin, Parser.resolveOrigin_href h hpage hparse, Or.inr hallowed⟩

/-- A path that names no host stays on the origin of the page. -/
lemma leadsHome_path (hpath : IsBackPath s.toList) (hhost : ¬NamesHost s.toList) :
    LeadsHome p allowedOrigins page s := by
  obtain ⟨rest, hrest⟩ := hpath.cons
  obtain ⟨after, hafter⟩ := Parser.clean_slash rest
  refine ⟨page.origin, ?_, Or.inl rfl⟩
  rw [Parser.resolveOrigin_slash hrest, hrest, hafter]
  cases after with
  | nil => rfl
  | cons c after =>
      have hslash : ¬(isSlash '/' && isSlash c) = true := by
        intro hboth
        rw [Bool.and_eq_true] at hboth
        exact hhost ⟨c, after, by rw [hrest, hafter], hboth.2⟩
      rw [Parser.relativeOrigin, if_neg hslash]

/-- A path that names a host leads to it. -/
lemma leadsHome_host_iff (hpath : IsBackPath s.toList) (hhost : NamesHost s.toList) :
    LeadsHome p allowedOrigins page s ↔
      ∃ u, p.afterScheme page.scheme (clean s.toList) = some u ∧
        (u.origin = page.origin ∨ u.origin ∈ originsOf p allowedOrigins) := by
  obtain ⟨rest, hrest⟩ := hpath.cons
  obtain ⟨c, after, hclean, hslash⟩ := hhost
  have hboth : (isSlash '/' && isSlash c) = true := by
    rw [hslash]
    rfl
  rw [LeadsHome, Parser.resolveOrigin_slash hrest, hclean, Parser.relativeOrigin, if_pos hboth]
  constructor
  · rintro ⟨origin, hmap, hhome⟩
    obtain ⟨u, hu, rfl⟩ := Option.map_eq_some_iff.mp hmap
    exact ⟨u, hu, hhome⟩
  · rintro ⟨u, hu, hhome⟩
    exact ⟨u.origin, Option.map_eq_some_iff.mpr ⟨u, hu, rfl⟩, hhome⟩

/-- The back link stays on the site just where a path that names a host names one of the site. -/
theorem staysOnSite_iff (h : p.Serializes) (raw : Option String) (allowedOrigins : List String) :
    StaysOnSite p raw allowedOrigins ↔ NamesHomeHost p raw allowedOrigins := by
  constructor
  · intro hstays s hraw hpath hhost page hpage
    have hhome := hstays s (sanitiseBackHref_path hraw hpath) page hpage
    exact (leadsHome_host_iff hpath hhost).mp hhome
  · intro hnames s hsanitised page hpage
    rcases sanitiseBackHref_eq_some hsanitised with ⟨hraw, hpath⟩ | ⟨t, url, hparse, hallowed, rfl⟩
    · by_cases hhost : NamesHost s.toList
      · exact (leadsHome_host_iff hpath hhost).mpr (hnames s hraw hpath hhost page hpage)
      · exact leadsHome_path hpath hhost
    · exact leadsHome_href h hpage.web hparse hallowed

/-- No path that the browser takes for one leaves the site. -/
theorem loginBackHref_staysOnSite (h : p.Serializes) {back : Option String}
    {customerBaseUrl adminBaseUrl : String}
    (hhost : ∀ s, back.map trim = some s → ¬NamesHost s.toList) (hpage : AllowedPage p
      [customerBaseUrl, adminBaseUrl] page) (hs :
        loginBackHref p back customerBaseUrl adminBaseUrl =
      some s) : LeadsHome p [customerBaseUrl, adminBaseUrl] page s :=
  (staysOnSite_iff h back _).mpr (fun t ht _ hnames => absurd hnames (hhost t ht)) s hs page hpage

end

/-! ## A backslash -/

/-- Two hosts, with no port and no path. -/
def twoHosts : Parser where
  afterScheme scheme after :=
    if scheme = "http" ∨ scheme = "https" then
      let rest := String.ofList (after.dropWhile isSlash)
      if rest = "example.com" ∨ rest = "example.com/" then
        some ⟨scheme, scheme ++ "://example.com", scheme ++ "://example.com/"⟩
      else if rest = "evil.com" ∨ rest = "evil.com/" then
        some ⟨scheme, scheme ++ "://evil.com", scheme ++ "://evil.com/"⟩
      else none
    else none

def twoHostUrls : List Url := [
  ⟨"http", "http://example.com", "http://example.com/"⟩,
  ⟨"https", "https://example.com", "https://example.com/"⟩,
  ⟨"http", "http://evil.com", "http://evil.com/"⟩,
  ⟨"https", "https://evil.com", "https://evil.com/"⟩]

lemma mem_twoHostUrls {s : String} {u : Url} (h : twoHosts.parse s = some u) : u ∈ twoHostUrls := by
  unfold Parser.parse at h
  split at h
  · cases h
  · rename_i scheme after _
    unfold twoHosts at h
    dsimp only at h
    split at h
    · rename_i hweb
      split at h
      · obtain rfl := Option.some.inj h
        rcases hweb with rfl | rfl <;> decide
      · split at h
        · obtain rfl := Option.some.inj h
          rcases hweb with rfl | rfl <;> decide
        · cases h
    · cases h

lemma serializes_twoHosts : twoHosts.Serializes where
  parse_href := by
    intro s u h
    have hall : ∀ u ∈ twoHostUrls, twoHosts.parse u.href = some u := by decide +kernel
    exact hall u (mem_twoHostUrls h)
  slashes := by
    intro s u scheme after h hscheme _
    have hall : ∀ u ∈ twoHostUrls, ∀ found ∈ schemeOf (clean u.href.toList),
        ['/', '/'] <+: found.2 := by decide +kernel
    exact hall u (mem_twoHostUrls h) (scheme, after) hscheme

/-- The back link of the account picker. -/
theorem staysOnSite_switch : StaysOnSite twoHosts (some "/switch") ["https://example.com"] := by
  refine (staysOnSite_iff serializes_twoHosts _ _).mpr fun s hs _ hhost => ?_
  obtain rfl : trim "/switch" = s := Option.some.inj hs
  obtain ⟨c, rest, hclean, hslash⟩ := hhost
  have hcleaned : clean (trim "/switch").toList = '/' :: 's' :: "witch".toList := by decide +kernel
  rw [hcleaned] at hclean
  obtain ⟨rfl, -⟩ := List.cons.inj (List.cons.inj hclean).2
  exact absurd hslash (by decide)

/-- A slash and a backslash are two slashes. -/
theorem not_staysOnSite_backslash :
    ¬∀ (p : Parser) (raw : Option String) (allowedOrigins : List String), p.Serializes →
      StaysOnSite p raw allowedOrigins := by
  intro hall
  have hpage : AllowedPage twoHosts ["https://example.com"]
      ⟨"https", "https://example.com", "https://example.com/"⟩ :=
    ⟨⟨"https://example.com/", by decide +kernel⟩, by decide, by decide +kernel⟩
  have hsanitised : sanitiseBackHref twoHosts (some "/\\evil.com") ["https://example.com"] =
      some "/\\evil.com" := by decide +kernel
  obtain ⟨origin, horigin, hhome⟩ := hall twoHosts (some "/\\evil.com") ["https://example.com"]
    serializes_twoHosts _ hsanitised _ hpage
  have hevil : twoHosts.resolveOrigin ⟨"https", "https://example.com", "https://example.com/"⟩
      "/\\evil.com" = some "https://evil.com" := by decide +kernel
  rw [hevil] at horigin
  obtain rfl := Option.some.inj horigin
  revert hhome
  decide +kernel

end ExpresSync
