import Mathlib.Data.List.Infix
import Mathlib.Data.List.Sort
import Mathlib.Data.Finset.Max

/-!
# Text patterns and row selection in SQL

What PostgreSQL makes of `text LIKE pattern`, of `split_part(text, delimiter, n)`, and of
`ORDER BY key DESC` with `LIMIT` and `OFFSET`.  A pattern without `%`, `_` and the escape character
stands for itself; with one of them it matches other texts as well, and with an escape it need not
match itself.

Rows with the same key come in any order, and of several with the greatest key any may be the one
that is returned.
-/

namespace Sql

/-! ## `LIKE` -/

/-- What a pattern is made of. -/
inductive LikeToken where
  /-- `%` -/
  | anyText
  /-- `_` -/
  | anyChar
  | char (c : Char)
  /-- An escape character with nothing after it, which PostgreSQL refuses. -/
  | never
deriving DecidableEq

/-- The characters of a pattern that do not stand for themselves. -/
def IsMeta (c : Char) : Prop := c = '%' ∨ c = '_' ∨ c = '\\'

instance (c : Char) : Decidable (IsMeta c) := inferInstanceAs (Decidable (_ ∨ _ ∨ _))

def likeTokens : List Char → List LikeToken
  | [] => []
  | c :: pattern =>
      if c = '%' then .anyText :: likeTokens pattern
      else if c = '_' then .anyChar :: likeTokens pattern
      else if c = '\\' then
        match pattern with
        | [] => [.never]
        | d :: pattern => .char d :: likeTokens pattern
      else .char c :: likeTokens pattern

def matchTokens : List LikeToken → List Char → Bool
  | [], text => text.isEmpty
  | .anyText :: tokens, text => text.tails.any (matchTokens tokens)
  | .anyChar :: tokens, text =>
      match text with
      | [] => false
      | _ :: text => matchTokens tokens text
  | .char c :: tokens, text =>
      match text with
      | [] => false
      | d :: text => c == d && matchTokens tokens text
  | .never :: _, _ => false

/-- `text LIKE pattern` -/
def like (text pattern : List Char) : Bool := matchTokens (likeTokens pattern) text

variable {text pattern : List Char}

lemma likeTokens_cons_of_not_isMeta {c : Char} (hc : ¬IsMeta c) :
    likeTokens (c :: pattern) = .char c :: likeTokens pattern := by
  simp only [IsMeta, not_or] at hc
  rw [likeTokens.eq_def]
  simp only [if_neg hc.1, if_neg hc.2.1, if_neg hc.2.2]

lemma likeTokens_append_of_not_isMeta {literal : List Char} (hliteral : ∀ c ∈ literal, ¬IsMeta c) :
    likeTokens (literal ++ pattern) = literal.map .char ++ likeTokens pattern := by
  induction literal with
  | nil => rfl
  | cons c literal ih =>
      rw [List.cons_append, likeTokens_cons_of_not_isMeta (hliteral c List.mem_cons_self),
        ih fun d hd => hliteral d (List.mem_cons_of_mem c hd)]
      rfl

/-- Characters that stand for themselves match a prefix. -/
lemma matchTokens_literal {literal : List Char} {tokens : List LikeToken} :
    matchTokens (literal.map .char ++ tokens) text = true ↔
      ∃ rest, text = literal ++ rest ∧ matchTokens tokens rest = true := by
  induction literal generalizing text with
  | nil => simp
  | cons c literal ih =>
      cases text with
      | nil => simp [matchTokens]
      | cons d text =>
          simp only [List.map_cons, List.cons_append, matchTokens, Bool.and_eq_true, beq_iff_eq,
            List.cons.injEq, ih]
          constructor
          · rintro ⟨rfl, rest, rfl, hrest⟩
            exact ⟨rest, ⟨rfl, rfl⟩, hrest⟩
          · rintro ⟨rest, ⟨rfl, rfl⟩, hrest⟩
            exact ⟨rfl, rest, rfl, hrest⟩

lemma matchTokens_anyText (tokens : List LikeToken) :
    matchTokens (.anyText :: tokens) text = true ↔
      ∃ rest, rest <:+ text ∧ matchTokens tokens rest = true := by
  simp [matchTokens, List.any_eq_true, List.mem_tails]

/-- A literal pattern with `%` after it matches the texts it begins. -/
theorem like_literal_anyText {literal : List Char} (hliteral : ∀ c ∈ literal, ¬IsMeta c) :
    like text (literal ++ ['%']) = true ↔ literal <+: text := by
  rw [like, likeTokens_append_of_not_isMeta hliteral, matchTokens_literal]
  have hany : ∀ rest, matchTokens (likeTokens ['%']) rest = true := fun rest =>
    (matchTokens_anyText _).mpr ⟨[], List.nil_suffix, rfl⟩
  constructor
  · rintro ⟨rest, rfl, -⟩
    exact List.prefix_append literal rest
  · rintro ⟨rest, rfl⟩
    exact ⟨rest, rfl, hany rest⟩

/-- Literal text around `%` matches what begins and ends with it. -/
theorem like_literal_anyText_literal {literal last : List Char}
    (hliteral : ∀ c ∈ literal, ¬IsMeta c) (hlast : ∀ c ∈ last, ¬IsMeta c) :
    like text (literal ++ '%' :: last) = true ↔ ∃ inner, text = literal ++ inner ++ last := by
  have hany : likeTokens ('%' :: last) = .anyText :: last.map .char := by
    have htokens : likeTokens (last ++ []) = last.map .char ++ likeTokens [] :=
      likeTokens_append_of_not_isMeta hlast
    rw [List.append_nil] at htokens
    rw [likeTokens.eq_def]
    simp only [if_true, htokens, likeTokens, List.append_nil]
  have hend : ∀ rest, matchTokens (last.map .char) rest = true ↔ rest = last := by
    intro rest
    have hmatch : matchTokens (last.map .char ++ []) rest = true ↔
        ∃ tail, rest = last ++ tail ∧ matchTokens [] tail = true := matchTokens_literal
    rw [List.append_nil] at hmatch
    rw [hmatch]
    constructor
    · rintro ⟨tail, heq, hempty⟩
      rw [matchTokens, List.isEmpty_iff] at hempty
      rw [heq, hempty, List.append_nil]
    · intro heq
      exact ⟨[], by rw [heq, List.append_nil], by simp [matchTokens]⟩
  rw [like, likeTokens_append_of_not_isMeta hliteral, hany, matchTokens_literal]
  constructor
  · rintro ⟨rest, heq, hrest⟩
    obtain ⟨tail, ⟨inner, hinner⟩, htail⟩ := (matchTokens_anyText _).mp hrest
    rw [(hend tail).mp htail] at hinner
    exact ⟨inner, by rw [heq, ← hinner, List.append_assoc]⟩
  · rintro ⟨inner, heq⟩
    refine ⟨inner ++ last, by rw [heq, List.append_assoc], ?_⟩
    exact (matchTokens_anyText _).mpr ⟨last, List.suffix_append inner last, (hend last).mpr rfl⟩

/-- A text that does not begin as the pattern does, does not match. -/
lemma literal_prefix_of_like {literal : List Char} (hliteral : ∀ c ∈ literal, ¬IsMeta c)
    (h : like text (literal ++ pattern) = true) : literal <+: text := by
  rw [like, likeTokens_append_of_not_isMeta hliteral, matchTokens_literal] at h
  obtain ⟨rest, rfl, -⟩ := h
  exact List.prefix_append literal rest

/-! ## `split_part` -/

/-- `split_part(text, delimiter, n)`: the `n`-th field, counted from one, or the empty text. -/
def splitPart (text : List Char) (delimiter : Char) (n : ℕ) : List Char :=
  (text.splitOn delimiter).getD (n - 1) []

variable {delimiter : Char}

/-- What follows a delimiter does not change the first field. -/
lemma splitPart_one_append (text rest : List Char) :
    splitPart (text ++ delimiter :: rest) delimiter 1 = splitPart text delimiter 1 := by
  rw [splitPart, splitPart, List.splitOn_append_cons_self]
  cases hfields : text.splitOn delimiter with
  | nil => exact absurd hfields (List.splitOn_ne_nil _ _)
  | cons field fields => rfl

/-- The first field out of the way. -/
lemma splitPart_succ_append {field : List Char} (h : delimiter ∉ field) (rest : List Char) (n : ℕ) :
    splitPart (field ++ delimiter :: rest) delimiter (n + 2) =
      splitPart rest delimiter (n + 1) := by
  rw [splitPart, List.splitOn_append_cons_self_of_not_mem h]
  rfl

lemma splitPart_one_of_not_mem (h : delimiter ∉ text) : splitPart text delimiter 1 = text := by
  rw [splitPart, List.splitOn_eq_singleton h]
  rfl

/-- In a text with two fields, what follows a further delimiter does not change the second. -/
lemma splitPart_two_append (h : delimiter ∈ text) (rest : List Char) :
    splitPart (text ++ delimiter :: rest) delimiter 2 = splitPart text delimiter 2 := by
  obtain ⟨field, tail, rfl, hfield⟩ := List.eq_append_cons_of_mem h
  rw [List.append_assoc, List.cons_append, splitPart_succ_append hfield,
    splitPart_succ_append hfield, splitPart_one_append]

/-- Where the last delimiter is, is determined by the text. -/
lemma eq_of_append_delimiter {text' field field' : List Char} (hfield : delimiter ∉ field)
    (hfield' : delimiter ∉ field') (h : text ++ delimiter :: field = text' ++ delimiter :: field') :
    text = text' ∧ field = field' := by
  -- Either text is the other one with something after it, and that would hold a delimiter.
  rcases List.append_eq_append_iff.mp h with ⟨between, rfl, heq⟩ | ⟨between, rfl, heq⟩
  · cases between with
    | nil => simpa using heq
    | cons c between =>
        obtain ⟨-, rfl⟩ := List.cons.inj heq
        simp at hfield
  · cases between with
    | nil => simpa [eq_comm] using heq
    | cons c between =>
        obtain ⟨-, rfl⟩ := List.cons.inj heq
        simp at hfield'

/-- Where the first delimiter is, is determined by the text. -/
lemma eq_of_delimiter_append {field field' rest rest' : List Char} (hfield : delimiter ∉ field)
    (hfield' : delimiter ∉ field') (h : field ++ delimiter :: rest = field' ++ delimiter :: rest') :
    field = field' ∧ rest = rest' := by
  have hreverse := congrArg List.reverse h
  simp only [List.reverse_append, List.reverse_cons, List.append_assoc,
    List.singleton_append] at hreverse
  obtain ⟨hrest, hfields⟩ := eq_of_append_delimiter (by simpa using hfield) (by simpa using hfield')
    hreverse
  exact ⟨List.reverse_injective hfields, List.reverse_injective hrest⟩

/-- Of two delimiters at which a text is cut, one stands in what the other leaves. -/
lemma append_delimiter_eq_iff {before after before' after' : List Char} :
    before' ++ delimiter :: after' = before ++ delimiter :: after ↔
      (before' = before ∧ after' = after) ∨
        (∃ between, before = before' ++ delimiter :: between ∧
          after' = between ++ delimiter :: after) ∨
        ∃ between, before' = before ++ delimiter :: between ∧
          after = between ++ delimiter :: after' := by
  constructor
  · intro h
    rcases List.append_eq_append_iff.mp h with ⟨between, rfl, heq⟩ | ⟨between, rfl, heq⟩
    · cases between with
      | nil => exact Or.inl ⟨(List.append_nil before').symm, (List.cons.inj heq).2⟩
      | cons c between =>
          obtain ⟨rfl, rfl⟩ := List.cons.inj heq
          exact Or.inr (Or.inl ⟨between, rfl, rfl⟩)
    · cases between with
      | nil => exact Or.inl ⟨List.append_nil before, (List.cons.inj heq).2.symm⟩
      | cons c between =>
          obtain ⟨rfl, rfl⟩ := List.cons.inj heq
          exact Or.inr (Or.inr ⟨between, rfl, rfl⟩)
  · rintro (⟨rfl, rfl⟩ | ⟨between, rfl, rfl⟩ | ⟨between, rfl, rfl⟩)
    · rfl
    · rw [List.append_assoc, List.cons_append]
    · rw [List.append_assoc, List.cons_append]

/-! ## `ORDER BY key DESC LIMIT 1` -/

section Limit

variable {ρ : Type*} (key : ρ → ℕ) (p : ρ → Prop) (rows : List ρ)

/-- The row may be the one returned among those that satisfy `p`. -/
structure IsLast (row : ρ) : Prop where
  mem : row ∈ rows
  sat : p row
  le : ∀ other ∈ rows, p other → key other ≤ key row

instance [DecidablePred p] [DecidableEq ρ] (row : ρ) : Decidable (IsLast key p rows row) :=
  decidable_of_iff (row ∈ rows ∧ p row ∧ ∀ other ∈ rows, p other → key other ≤ key row)
    ⟨fun h => ⟨h.1, h.2.1, h.2.2⟩, fun h => ⟨h.mem, h.sat, h.le⟩⟩

/-- What may be returned: a row, or none where no row satisfies `p`. -/
def IsAnswer : Option ρ → Prop
  | none => ∀ row ∈ rows, ¬p row
  | some row => IsLast key p rows row

instance [DecidablePred p] [DecidableEq ρ] : (answer : Option ρ) →
    Decidable (IsAnswer key p rows answer)
  | none => inferInstanceAs (Decidable (∀ row ∈ rows, ¬p row))
  | some row => inferInstanceAs (Decidable (IsLast key p rows row))

variable {key p rows}

variable (key) in
/-- Some row at least as late as a given one may be returned. -/
lemma exists_isLast {row : ρ} (hrow : row ∈ rows) (hp : p row) :
    ∃ last, IsLast key p rows last ∧ key row ≤ key last := by
  classical
  have hne : (rows.toFinset.filter p).Nonempty :=
    ⟨row, Finset.mem_filter.mpr ⟨List.mem_toFinset.mpr hrow, hp⟩⟩
  obtain ⟨last, hlast, hmax⟩ := Finset.exists_max_image _ key hne
  simp only [Finset.mem_filter, List.mem_toFinset, and_imp] at hlast hmax
  exact ⟨last, ⟨hlast.1, hlast.2, hmax⟩, hmax row hrow hp⟩

variable (key p rows) in
/-- Every query has an answer. -/
lemma exists_isAnswer : ∃ answer, IsAnswer key p rows answer := by
  by_cases h : ∃ row ∈ rows, p row
  · obtain ⟨row, hrow, hp⟩ := h
    obtain ⟨last, hlast, -⟩ := exists_isLast key hrow hp
    exact ⟨some last, hlast⟩
  · exact ⟨none, fun row hrow hp => h ⟨row, hrow, hp⟩⟩

/-- Of two queries the narrower one answers what the wider one may, once one of its answers may be
that of the wider one. -/
lemma IsLast.of_narrower {q : ρ → Prop} {row other : ρ} (hqp : ∀ row, q row → p row)
    (hrow : IsLast key p rows row) (hq : q row) (hother : IsLast key q rows other) :
    IsLast key p rows other :=
  ⟨hother.mem, hqp other hother.sat, fun third hthird hp =>
    (hrow.le third hthird hp).trans (hother.le row hrow.mem hq)⟩

lemma IsLast.key_eq {row other : ρ} (hrow : IsLast key p rows row)
    (hother : IsLast key p rows other) : key row = key other :=
  Nat.le_antisymm (hother.le row hrow.mem hrow.sat) (hrow.le other hother.mem hother.sat)

/-- Whatever is returned has a property, exactly when every row that may be returned and has it not
is before one that has it. -/
theorem forall_isLast_iff {good : ρ → Prop} :
    (∀ row, IsLast key p rows row → good row) ↔
      ∀ row ∈ rows, p row → ¬good row →
        ∃ later ∈ rows, p later ∧ good later ∧ key row < key later := by
  constructor
  · intro hgood row hrow hp hbad
    obtain ⟨last, hlast, hle⟩ : ∃ last, IsLast key p rows last ∧ key row ≤ key last :=
      exists_isLast key hrow hp
    refine ⟨last, hlast.mem, hlast.sat, hgood last hlast, ?_⟩
    by_contra hnot
    have heq : key last = key row := by omega
    exact hbad (hgood row ⟨hrow, hp, fun other hother hpo => heq ▸ hlast.le other hother hpo⟩)
  · intro hlater row hrow
    by_contra hbad
    obtain ⟨later, hmem, hp, -, hlt⟩ := hlater row hrow.mem hrow.sat hbad
    exact absurd (hrow.le later hmem hp) (Nat.not_le.mpr hlt)

end Limit

/-! ## `ORDER BY key DESC LIMIT limit OFFSET offset` -/

section Page

variable {ρ : Type*} (key : ρ → ℕ) (p : ρ → Bool) (rows : List ρ)

/-- The rows that satisfy `p` may be returned as this page. -/
def IsPage (limit offset : ℕ) (page : List ρ) : Prop :=
  ∃ ordered : List ρ, ordered.Perm (rows.filter p) ∧
    ordered.Pairwise (fun a b => key b ≤ key a) ∧ page = (ordered.drop offset).take limit

variable {key p rows}

lemma mem_of_mem_page {limit offset : ℕ} {page : List ρ} {row : ρ}
    (hpage : IsPage key p rows limit offset page) (hrow : row ∈ page) :
    row ∈ rows ∧ p row = true := by
  obtain ⟨ordered, hperm, -, heq⟩ := hpage
  rw [heq] at hrow
  have hordered := List.mem_of_mem_drop (List.mem_of_mem_take hrow)
  exact List.mem_filter.mp (hperm.mem_iff.mp hordered)

/-- Every row that satisfies `p` is on some page. -/
lemma exists_page_of_mem {row : ρ} (hrow : row ∈ rows) (hp : p row = true) {limit : ℕ}
    (hlimit : 0 < limit) : ∃ offset page, IsPage key p rows limit offset page ∧ row ∈ page := by
  let le : ρ → ρ → Prop := fun a b => key b ≤ key a
  let ordered := (rows.filter p).insertionSort le
  have hperm : ordered.Perm (rows.filter p) := List.perm_insertionSort le _
  have hsorted : ordered.Pairwise le := by
    have : Std.Total le := ⟨fun a b => Nat.le_total (key b) (key a)⟩
    have : IsTrans ρ le := ⟨fun a b c hab hbc => Nat.le_trans hbc hab⟩
    exact List.pairwise_insertionSort le _
  have hordered : row ∈ ordered := hperm.mem_iff.mpr (List.mem_filter.mpr ⟨hrow, hp⟩)
  obtain ⟨offset, hoffset, hget⟩ := List.mem_iff_getElem.mp hordered
  refine ⟨offset, _, ⟨ordered, hperm, hsorted, rfl⟩, ?_⟩
  have hhead : (ordered.drop offset).take limit =
      ordered[offset] :: (ordered.drop (offset + 1)).take (limit - 1) := by
    have hsucc : limit = limit - 1 + 1 := by omega
    rw [List.drop_eq_getElem_cons hoffset, hsucc, List.take_succ_cons]
    rfl
  rw [hhead, hget]
  exact List.mem_cons_self

end Page

end Sql
