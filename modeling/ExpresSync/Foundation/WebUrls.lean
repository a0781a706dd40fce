import Mathlib.Data.List.Basic

/-!
# The text of a link

How a browser reads a link on a page with the scheme `http` or `https`: control characters and
spaces at the ends are left out, and tabs and newlines everywhere; a text without a scheme goes by
the page, and a backslash is as good as a slash.  Hosts are read by an argument.
-/

namespace WebUrl

def isControlOrSpace (c : Char) : Bool := decide (c.toNat ≤ 0x20)

def isTabOrNewline (c : Char) : Bool := c == '\t' || c == '\n' || c == '\r'

def isSlash (c : Char) : Bool := c == '/' || c == '\\'

/-- What the parser gets to see of a text. -/
def clean (s : List Char) : List Char :=
  ((s.dropWhile isControlOrSpace).reverse.dropWhile isControlOrSpace).reverse.filter fun c =>
    !isTabOrNewline c

def isSchemeChar (c : Char) : Bool := c.isAlphanum || c == '+' || c == '-' || c == '.'

/-- The scheme in lower case, with what comes after the colon. -/
def schemeOf : List Char → Option (String × List Char)
  | [] => none
  | c :: rest =>
      if c.isAlpha then
        match rest.dropWhile isSchemeChar with
        | ':' :: after =>
            some (String.ofList ((c :: rest.takeWhile isSchemeChar).map Char.toLower), after)
        | _ => none
      else none

/-- What is read of a URL. -/
structure Url where
  scheme : String
  origin : String
  href : String
deriving DecidableEq

def Url.IsWeb (u : Url) : Prop := u.scheme = "http" ∨ u.scheme = "https"

instance (u : Url) : Decidable u.IsWeb := inferInstanceAs (Decidable (_ ∨ _))

structure Parser where
  /-- From the scheme on.  For `http` and `https` all slashes and backslashes at the start are
  passed over, and a host comes next. -/
  afterScheme : String → List Char → Option Url

namespace Parser

variable (p : Parser)

/-- `new URL(s)` -/
def parse (s : String) : Option Url :=
  match schemeOf (clean s.toList) with
  | none => none
  | some (scheme, after) => p.afterScheme scheme after

/-- The origin of a text that names no scheme, or that of the page. -/
def relativeOrigin (page : Url) : List Char → Option String
  | c :: d :: rest =>
      if isSlash c && isSlash d then (p.afterScheme page.scheme (c :: d :: rest)).map Url.origin
      else some page.origin
  | _ => some page.origin

/-- `new URL(s, page).origin` -/
def resolveOrigin (page : Url) (s : String) : Option String :=
  match schemeOf (clean s.toList) with
  | none => p.relativeOrigin page (clean s.toList)
  | some (scheme, after) =>
      if scheme = page.scheme ∧ ¬['/', '/'] <+: after then p.relativeOrigin page after
      else (p.afterScheme scheme after).map Url.origin

/-- How URLs are written. -/
structure Serializes : Prop where
  /-- What has been written is read as it was. -/
  parse_href : ∀ s u, p.parse s = some u → p.parse u.href = some u
  /-- Two slashes follow the schemes of the web. -/
  slashes : ∀ s u scheme after, p.parse s = some u →
    schemeOf (clean u.href.toList) = some (scheme, after) → scheme = "http" ∨ scheme = "https" →
    ['/', '/'] <+: after

variable {p} {page u : Url} {s t : String}

/-- A URL that has been read and written again does not depend on the page. -/
lemma resolveOrigin_href (h : p.Serializes) (hpage : page.IsWeb) (hparse : p.parse t = some u) :
    p.resolveOrigin page u.href = some u.origin := by
  have hagain := h.parse_href t u hparse
  unfold parse at hagain
  unfold resolveOrigin
  cases hscheme : schemeOf (clean u.href.toList) with
  | none =>
      rw [hscheme] at hagain
      cases hagain
  | some found =>
      obtain ⟨scheme, after⟩ := found
      rw [hscheme] at hagain
      replace hagain : p.afterScheme scheme after = some u := hagain
      dsimp only
      rw [if_neg, hagain]
      · rfl
      · rintro ⟨hsame, hslashes⟩
        exact hslashes (h.slashes t u scheme after hparse hscheme (hsame ▸ hpage))

/-- A slash at the start is kept. -/
lemma clean_slash (rest : List Char) : ∃ rest', clean ('/' :: rest) = '/' :: rest' := by
  have hstart : ('/' :: rest).dropWhile isControlOrSpace = '/' :: rest :=
    List.dropWhile_cons_of_neg (by decide)
  have hend : ∃ rest', (('/' :: rest).reverse.dropWhile isControlOrSpace).reverse =
      '/' :: rest' := by
    rw [List.reverse_cons, List.dropWhile_append]
    split
    · exact ⟨[], by decide⟩
    · exact ⟨(rest.reverse.dropWhile isControlOrSpace).reverse, List.reverse_concat⟩
  obtain ⟨rest', hrest'⟩ := hend
  refine ⟨rest'.filter fun c => !isTabOrNewline c, ?_⟩
  rw [clean, hstart, hrest', List.filter_cons_of_pos (by decide)]

lemma schemeOf_slash (rest : List Char) : schemeOf ('/' :: rest) = none := by
  rw [schemeOf, if_neg (by decide)]

/-- A text that starts with a slash names no scheme. -/
lemma parse_slash {rest : List Char} (h : s.toList = '/' :: rest) : p.parse s = none := by
  obtain ⟨rest', hclean⟩ := clean_slash rest
  rw [parse, h, hclean, schemeOf_slash]

lemma resolveOrigin_slash {rest : List Char} (h : s.toList = '/' :: rest) :
    p.resolveOrigin page s = p.relativeOrigin page (clean s.toList) := by
  obtain ⟨rest', hclean⟩ := clean_slash rest
  rw [resolveOrigin, h, hclean, schemeOf_slash]

end Parser

end WebUrl
