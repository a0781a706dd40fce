import Mathlib.Data.List.Basic
import Mathlib.Data.List.Nodup

/-!
# Tables with a serial key

Rows that are numbered as they are inserted.  That the numbers are different, and below the next
one, are fields of the structure.  Statements act on a table in three ways: `insert` adds a row
under the next number, `update` rewrites the rows a condition selects, and `delete` removes them.

`Pairs R` says that every two rows are related by `R`; the rules for it reduce what a statement
has to keep to the row it writes.
-/

/-- Rows with pairwise different keys, all below the next key. -/
structure SerialTable {ρ : Type*} (key : ρ → ℕ) where
  rows : List ρ
  next : ℕ
  key_lt : ∀ row ∈ rows, key row < next
  nodup : (rows.map key).Nodup

namespace SerialTable

variable {ρ : Type*} {key : ρ → ℕ}

/-- The table without rows. -/
def empty : SerialTable key := ⟨[], 0, by simp, List.nodup_nil⟩

/-- Insert the row `mk` makes of the next key. -/
def insert (table : SerialTable key) (mk : ℕ → ρ) (hmk : ∀ n, key (mk n) = n) :
    SerialTable key where
  rows := table.rows ++ [mk table.next]
  next := table.next + 1
  key_lt := by
    intro row hrow
    rcases List.mem_append.mp hrow with hrow | hrow
    · exact Nat.lt_succ_of_lt (table.key_lt row hrow)
    · obtain rfl := List.mem_singleton.mp hrow
      rw [hmk]
      exact Nat.lt_succ_self _
  nodup := by
    rw [List.map_append, List.map_singleton, List.nodup_append, hmk]
    refine ⟨table.nodup, List.nodup_singleton _, ?_⟩
    intro k hk k' hk' heq
    obtain ⟨row, hrow, rfl⟩ := List.mem_map.mp hk
    have hlt := table.key_lt row hrow
    rw [heq, List.mem_singleton.mp hk'] at hlt
    exact Nat.lt_irrefl _ hlt

/-- The rows, with those `sel` selects rewritten by `f`. -/
def rewrite (sel : ρ → Bool) (f : ρ → ρ) (rows : List ρ) : List ρ :=
  rows.map fun row => if sel row then f row else row

lemma map_key_rewrite {sel : ρ → Bool} {f : ρ → ρ} (hf : ∀ row, key (f row) = key row)
    (rows : List ρ) : (rewrite sel f rows).map key = rows.map key := by
  rw [rewrite, List.map_map]
  refine List.map_congr_left fun row _ => ?_
  show key (if sel row then f row else row) = key row
  split
  · exact hf row
  · rfl

/-- Rewrite the selected rows. -/
def update (table : SerialTable key) (sel : ρ → Bool) (f : ρ → ρ)
    (hf : ∀ row, key (f row) = key row) : SerialTable key where
  rows := rewrite sel f table.rows
  next := table.next
  key_lt := by
    intro row hrow
    have hkey : key row ∈ (rewrite sel f table.rows).map key := List.mem_map_of_mem hrow
    rw [map_key_rewrite hf] at hkey
    obtain ⟨old, hold, heq⟩ := List.mem_map.mp hkey
    exact heq ▸ table.key_lt old hold
  nodup := by
    rw [map_key_rewrite hf]
    exact table.nodup

/-- Remove the selected rows. -/
def delete (table : SerialTable key) (sel : ρ → Bool) : SerialTable key where
  rows := table.rows.filter fun row => !sel row
  next := table.next
  key_lt := fun row hrow => table.key_lt row (List.mem_of_mem_filter hrow)
  nodup := table.nodup.sublist (List.filter_sublist.map key)

/-- The row of a key. -/
def get? (table : SerialTable key) (k : ℕ) : Option ρ := table.rows.find? fun row => key row = k

variable {table : SerialTable key}

lemma eq_of_key {row row' : ρ} (hrow : row ∈ table.rows) (hrow' : row' ∈ table.rows)
    (h : key row = key row') : row = row' := List.inj_on_of_nodup_map table.nodup hrow hrow' h

lemma get?_eq_some {k : ℕ} {row : ρ} :
    table.get? k = some row ↔ row ∈ table.rows ∧ key row = k := by
  unfold get?
  constructor
  · intro h
    exact ⟨List.mem_of_find?_eq_some h, by simpa using List.find?_some h⟩
  · rintro ⟨hrow, hkey⟩
    have hfound : (table.rows.find? fun row => key row = k).isSome = true :=
      List.find?_isSome.mpr ⟨row, hrow, by simpa using hkey⟩
    obtain ⟨found, hfound⟩ := Option.isSome_iff_exists.mp hfound
    have hkey' : key found = k := by simpa using List.find?_some hfound
    rw [hfound, eq_of_key (List.mem_of_find?_eq_some hfound) hrow (hkey'.trans hkey.symm)]

/-- A condition that one row satisfies, and no row of another key, selects one row. -/
lemma countP_eq_one {sel : ρ → Bool} {row : ρ} (hrow : row ∈ table.rows) (hsel : sel row = true)
    (hkey : ∀ other ∈ table.rows, sel other = true → key other = key row) :
    table.rows.countP sel = 1 := by
  have hnodup : (table.rows.filter sel).Nodup := (table.nodup.of_map key).filter sel
  have hall : ∀ other ∈ table.rows.filter sel, other = row := by
    intro other hother
    obtain ⟨hmem, hsel'⟩ := List.mem_filter.mp hother
    exact eq_of_key hmem hrow (hkey other hmem hsel')
  have hmem : row ∈ table.rows.filter sel := List.mem_filter.mpr ⟨hrow, hsel⟩
  rw [List.countP_eq_length_filter]
  cases hfilter : table.rows.filter sel with
  | nil =>
      rw [hfilter] at hmem
      exact absurd hmem List.not_mem_nil
  | cons a rest =>
      cases rest with
      | nil => exact List.length_singleton
      | cons b rest =>
          rw [hfilter] at hnodup hall
          have hab : a = b := (hall a (by simp)).trans (hall b (by simp)).symm
          simp [hab] at hnodup

section Statements

variable {mk : ℕ → ρ} {hmk : ∀ n, key (mk n) = n} {sel : ρ → Bool} {f : ρ → ρ}
  {hf : ∀ row, key (f row) = key row}

lemma mem_insert {row : ρ} :
    row ∈ (table.insert mk hmk).rows ↔ row ∈ table.rows ∨ row = mk table.next := by
  simp [insert]

lemma mem_rewrite {row : ρ} {rows : List ρ} :
    row ∈ rewrite sel f rows ↔ ∃ old ∈ rows, row = if sel old then f old else old := by
  simp only [rewrite, List.mem_map, eq_comm]

lemma mem_update {row : ρ} :
    row ∈ (table.update sel f hf).rows ↔
      ∃ old ∈ table.rows, row = if sel old then f old else old :=
  mem_rewrite

lemma mem_delete {row : ρ} :
    row ∈ (table.delete sel).rows ↔ row ∈ table.rows ∧ sel row = false := by
  simp [delete]

/-- A row that no statement rewrites is still the one of its key. -/
lemma get?_update {k : ℕ} (hk : ∀ row ∈ table.rows, key row = k → sel row = false) :
    (table.update sel f hf).get? k = table.get? k := by
  refine Option.ext fun row => ?_
  rw [get?_eq_some, get?_eq_some, mem_update]
  constructor
  · rintro ⟨⟨old, hold, heq⟩, hkey⟩
    by_cases hsel : sel old = true
    · rw [if_pos hsel] at heq
      rw [heq, hf] at hkey
      have hnot : sel old = false := hk old hold hkey
      rw [hsel] at hnot
      exact absurd hnot (by decide)
    · rw [if_neg hsel] at heq
      rw [heq]
      exact ⟨hold, heq ▸ hkey⟩
  · rintro ⟨hrow, hkey⟩
    have hnot : ¬sel row = true := by
      rw [hk row hrow hkey]
      decide
    exact ⟨⟨row, hrow, by rw [if_neg hnot]⟩, hkey⟩

/-- A property of all rows is kept by an insert exactly when the new row has it. -/
theorem forall_insert {P : ρ → Prop} :
    (∀ row ∈ (table.insert mk hmk).rows, P row) ↔
      (∀ row ∈ table.rows, P row) ∧ P (mk table.next) := by
  simp only [mem_insert, or_imp, forall_and, forall_eq]

/-- A property of all rows, given before an update, holds after it exactly when every rewritten
row has it. -/
theorem forall_rewrite {P : ρ → Prop} {rows : List ρ} (h : ∀ row ∈ rows, P row) :
    (∀ row ∈ rewrite sel f rows, P row) ↔ ∀ row ∈ rows, sel row = true → P (f row) := by
  unfold rewrite
  rw [List.forall_mem_map]
  refine forall₂_congr fun row hrow => ?_
  by_cases hsel : sel row = true
  · rw [if_pos hsel, forall_prop_of_true hsel]
  · rw [if_neg hsel]
    exact iff_of_true (h row hrow) fun hsel' => absurd hsel' hsel

/-! ## Related rows -/

/-- Every two rows are related. -/
def Pairs (table : SerialTable key) (R : ρ → ρ → Prop) : Prop :=
  ∀ a ∈ table.rows, ∀ b ∈ table.rows, key a ≠ key b → R a b

instance {R : ρ → ρ → Prop} [DecidableRel R] : Decidable (table.Pairs R) :=
  inferInstanceAs (Decidable (∀ a ∈ table.rows, ∀ b ∈ table.rows, key a ≠ key b → R a b))

variable {R : ρ → ρ → Prop}

/-- An insert keeps a symmetric relation exactly when the new row is related to all others. -/
theorem pairs_insert (hsymm : ∀ a b, R a b → R b a) (h : table.Pairs R) :
    (table.insert mk hmk).Pairs R ↔ ∀ row ∈ table.rows, R (mk table.next) row := by
  constructor
  · intro hpairs row hrow
    refine hpairs _ (mem_insert.mpr (Or.inr rfl)) row (mem_insert.mpr (Or.inl hrow)) ?_
    rw [hmk]
    exact (Nat.ne_of_lt (table.key_lt row hrow)).symm
  · intro hnew a ha b hb hne
    rcases mem_insert.mp ha with ha | rfl
    · rcases mem_insert.mp hb with hb | rfl
      · exact h a ha b hb hne
      · exact hsymm _ _ (hnew a ha)
    · rcases mem_insert.mp hb with hb | rfl
      · exact hnew b hb
      · exact absurd rfl hne

/-- An update that rewrites one row at most keeps a symmetric relation when what it rewrites is
related to all other rows. -/
theorem pairs_update_of_single (hsymm : ∀ a b, R a b → R b a) (h : table.Pairs R)
    (hsingle : ∀ a ∈ table.rows, ∀ b ∈ table.rows, sel a = true → sel b = true → key a = key b)
    (hwritten : ∀ row ∈ table.rows, sel row = true →
      ∀ other ∈ table.rows, key other ≠ key row → R (f row) other) :
    (table.update sel f hf).Pairs R := by
  intro a ha b hb hne
  obtain ⟨a, hmema, rfl⟩ := mem_update.mp ha
  obtain ⟨b, hmemb, rfl⟩ := mem_update.mp hb
  by_cases hselA : sel a = true
  · by_cases hselB : sel b = true
    · rw [if_pos hselA, if_pos hselB, hf, hf] at hne
      exact absurd (hsingle a hmema b hmemb hselA hselB) hne
    · rw [if_pos hselA, if_neg hselB, hf] at hne
      rw [if_pos hselA, if_neg hselB]
      exact hwritten a hmema hselA b hmemb hne.symm
  · by_cases hselB : sel b = true
    · rw [if_neg hselA, if_pos hselB, hf] at hne
      rw [if_neg hselA, if_pos hselB]
      exact hsymm _ _ (hwritten b hmemb hselB a hmema hne)
    · rw [if_neg hselA, if_neg hselB] at hne ⊢
      exact h a hmema b hmemb hne

/-- Rewriting the row of one key keeps a symmetric relation exactly when the rewritten row is
related to all others. -/
theorem pairs_update_one (hsymm : ∀ a b, R a b → R b a) (h : table.Pairs R) {k : ℕ}
    (hsel : ∀ row, sel row = true ↔ key row = k) :
    (table.update sel f hf).Pairs R ↔
      ∀ row ∈ table.rows, key row = k → ∀ other ∈ table.rows, key other ≠ k → R (f row) other := by
  constructor
  · intro hpairs row hrow hk other hother hne
    refine hpairs _ (mem_update.mpr ⟨row, hrow, by rw [if_pos ((hsel row).mpr hk)]⟩) _
      (mem_update.mpr ⟨other, hother, by rw [if_neg fun hs => hne ((hsel other).mp hs)]⟩) ?_
    rw [hf, hk]
    exact hne.symm
  · intro hwritten
    refine pairs_update_of_single hsymm h ?_ ?_
    · intro a _ b _ hselA hselB
      rw [(hsel a).mp hselA, (hsel b).mp hselB]
    · intro row hrow hselRow other hother hne
      have hk : key row = k := (hsel row).mp hselRow
      exact hwritten row hrow hk other hother (hk ▸ hne)

/-- An update that only weakens what a row asks of the others keeps the relation. -/
theorem pairs_update_of_imp (hsymm : ∀ a b, R a b → R b a) (h : table.Pairs R)
    (himp : ∀ a b, sel a = true → R a b → R (f a) b) : (table.update sel f hf).Pairs R := by
  intro a ha b hb hne
  obtain ⟨a, hmema, rfl⟩ := mem_update.mp ha
  obtain ⟨b, hmemb, rfl⟩ := mem_update.mp hb
  have hkey : ∀ row, key (if sel row then f row else row) = key row := by
    intro row
    split
    · exact hf row
    · rfl
  rw [hkey, hkey] at hne
  have hleft : ∀ row other, R row other → R (if sel row then f row else row) other := by
    intro row other hrel
    split
    · next hsel => exact himp row other hsel hrel
    · exact hrel
  exact hleft a _ (hsymm _ _ (hleft b a (hsymm _ _ (h a hmema b hmemb hne))))

lemma pairs_delete (h : table.Pairs R) : (table.delete sel).Pairs R :=
  fun a ha b hb => h a (mem_delete.mp ha).1 b (mem_delete.mp hb).1

end Statements

end SerialTable
