import Mathlib.Algebra.BigOperators.Group.List.Basic
import Mathlib.Algebra.Group.Defs
import Mathlib.Algebra.Order.Monoid.Defs
import Mathlib.Data.List.Induction
import Mathlib.Data.List.Nodup
import Mathlib.Data.List.Perm.Subperm
import Mathlib.Order.MinMax

/-!
# Append-only logs with a unique key

A log whose entries carry pairwise different keys: a table with a `UNIQUE` column, or a store
that deduplicates what it receives.  Uniqueness is a field of the structure, so no operation can
lose it.  There are three ways to add an entry.

* `record` keeps the log as it is when the key is taken (deduplication, `ON CONFLICT DO NOTHING`);
* `insert?` fails when the key is taken (a plain `INSERT`);
* `insertAll?` inserts several entries or none.

`total sel f` sums `f` over the entries whose key is selected.
-/

/-- Entries in order of arrival, with pairwise different keys. -/
structure KeyedLog {κ ε : Type*} (key : ε → κ) where
  entries : List ε
  nodup : (entries.map key).Nodup

namespace KeyedLog

variable {κ ε : Type*} {key : ε → κ}

/-- The log without entries. -/
def empty : KeyedLog key := ⟨[], List.nodup_nil⟩

/-- Some entry carries the key `k`. -/
def Has (log : KeyedLog key) (k : κ) : Prop := k ∈ log.entries.map key

/-- The sum of `f` over the entries whose key is selected by `sel`. -/
def total {M : Type*} [AddCommMonoid M] (log : KeyedLog key) (sel : κ → Bool) (f : ε → M) : M :=
  ((log.entries.filter fun e => sel (key e)).map f).sum

@[simp] lemma not_has_empty (k : κ) : ¬(empty : KeyedLog key).Has k := by simp [Has, empty]

section Append

variable (log : KeyedLog key) (e : ε) (fresh : ¬log.Has (key e))

/-- Append an entry with a fresh key. -/
def append : KeyedLog key where
  entries := log.entries ++ [e]
  nodup := by
    rw [List.map_append, List.map_singleton, List.nodup_append]
    refine ⟨log.nodup, List.nodup_singleton _, ?_⟩
    intro k hk k' hk' hkk'
    obtain rfl : k' = key e := by simpa using hk'
    subst hkk'
    exact fresh hk

lemma has_append {k : κ} : (log.append e fresh).Has k ↔ log.Has k ∨ k = key e := by
  simp [Has, append]

lemma total_append {M : Type*} [AddCommMonoid M] (sel : κ → Bool) (f : ε → M) :
    (log.append e fresh).total sel f = log.total sel f + if sel (key e) then f e else 0 := by
  unfold total append
  cases hsel : sel (key e) <;> simp [List.filter_append, hsel]

end Append

/-- Remove the selected entries. -/
def remove (log : KeyedLog key) (sel : ε → Bool) : KeyedLog key where
  entries := log.entries.filter fun e => !sel e
  nodup := log.nodup.sublist (List.filter_sublist.map key)

lemma remove_of_forall {log : KeyedLog key} {sel : ε → Bool}
    (h : ∀ e ∈ log.entries, sel e = false) : log.remove sel = log := by
  obtain ⟨entries, nodup⟩ := log
  have hall : (entries.filter fun e => !sel e) = entries :=
    List.filter_eq_self.mpr fun e he => by simp [h e he]
  simp only [remove, hall]

/-- Change entries in place, their keys as they are. -/
def map (log : KeyedLog key) (f : ε → ε) (hf : ∀ e, key (f e) = key e) : KeyedLog key where
  entries := log.entries.map f
  nodup := by
    rw [List.map_map]
    have hkeys : key ∘ f = key := funext hf
    rw [hkeys]
    exact log.nodup

lemma mem_map {log : KeyedLog key} {f : ε → ε} {hf : ∀ e, key (f e) = key e} {e : ε} :
    e ∈ (log.map f hf).entries ↔ ∃ old ∈ log.entries, f old = e := List.mem_map

/-- Two entries with one key are the same entry. -/
lemma eq_of_key {log : KeyedLog key} {e e' : ε} (he : e ∈ log.entries) (he' : e' ∈ log.entries)
    (hkey : key e = key e') : e = e' :=
  List.inj_on_of_nodup_map log.nodup he he' hkey

variable [DecidableEq κ]

instance (log : KeyedLog key) (k : κ) : Decidable (log.Has k) :=
  inferInstanceAs (Decidable (k ∈ log.entries.map key))

/-! ## Deduplicating insertion -/

/-- Add an entry unless its key is taken. -/
def record (log : KeyedLog key) (e : ε) : KeyedLog key :=
  if fresh : log.Has (key e) then log else log.append e fresh

lemma record_of_has {log : KeyedLog key} {e : ε} (h : log.Has (key e)) : log.record e = log :=
  dif_pos h

lemma entries_record {log : KeyedLog key} {e : ε} (fresh : ¬log.Has (key e)) :
    (log.record e).entries = log.entries ++ [e] := by
  rw [record, dif_neg fresh]
  rfl

lemma has_record {log : KeyedLog key} {e : ε} {k : κ} :
    (log.record e).Has k ↔ log.Has k ∨ k = key e := by
  unfold record
  split
  · next h => exact ⟨Or.inl, fun hk => hk.elim id fun hk => hk ▸ h⟩
  · next h => exact has_append log e h

lemma total_record {M : Type*} [AddCommMonoid M] {log : KeyedLog key} {e : ε}
    (fresh : ¬log.Has (key e)) (sel : κ → Bool) (f : ε → M) :
    (log.record e).total sel f = log.total sel f + if sel (key e) then f e else 0 := by
  rw [record, dif_neg fresh, total_append]

/-- An entry that is not selected leaves the total as it is. -/
lemma total_record_of_not_sel {M : Type*} [AddCommMonoid M] {log : KeyedLog key} {e : ε}
    {sel : κ → Bool} (f : ε → M) (h : sel (key e) = false) :
    (log.record e).total sel f = log.total sel f := by
  by_cases hk : log.Has (key e)
  · rw [record_of_has hk]
  · rw [total_record hk, h]
    simp

/-- Recording an entry with a non-negative amount does not lower the total. -/
lemma total_le_record {M : Type*} [AddCommMonoid M] [PartialOrder M] [IsOrderedAddMonoid M]
    {log : KeyedLog key} {e : ε} {sel : κ → Bool} {f : ε → M} (hf : 0 ≤ f e) :
    log.total sel f ≤ (log.record e).total sel f := by
  by_cases hk : log.Has (key e)
  · rw [record_of_has hk]
  · rw [total_record hk]
    split
    · exact le_add_of_nonneg_right hf
    · rw [add_zero]

/-- The entries of a log after recording one are those of before, and the new one. -/
lemma mem_record {log : KeyedLog key} {e e' : ε} (h : e' ∈ (log.record e).entries) :
    e' ∈ log.entries ∨ e' = e := by
  unfold record at h
  split at h
  · exact Or.inl h
  · simpa [append] using h

/-- Record several entries, one after the other. -/
def recordAll (log : KeyedLog key) (es : List ε) : KeyedLog key := es.foldl record log

@[simp] lemma recordAll_nil (log : KeyedLog key) : log.recordAll [] = log := rfl

@[simp] lemma recordAll_cons (log : KeyedLog key) (e : ε) (es : List ε) :
    log.recordAll (e :: es) = (log.record e).recordAll es := rfl

lemma has_recordAll {log : KeyedLog key} {es : List ε} {k : κ} :
    (log.recordAll es).Has k ↔ log.Has k ∨ ∃ e ∈ es, k = key e := by
  induction es generalizing log with
  | nil => simp
  | cons e es ih =>
      rw [recordAll_cons, ih, has_record]
      simp only [List.mem_cons, exists_eq_or_imp]
      tauto

lemma mem_recordAll {log : KeyedLog key} {es : List ε} {e : ε}
    (h : e ∈ (log.recordAll es).entries) : e ∈ log.entries ∨ e ∈ es := by
  induction es generalizing log with
  | nil => exact Or.inl h
  | cons e' es ih =>
      rcases ih h with hrecord | hmem
      · rcases mem_record hrecord with hold | rfl
        · exact Or.inl hold
        · exact Or.inr List.mem_cons_self
      · exact Or.inr (List.mem_cons_of_mem _ hmem)

/-- A list whose selected entries all carry keys that are taken leaves the total as it is. -/
lemma total_recordAll_of_has {M : Type*} [AddCommMonoid M] {sel : κ → Bool} (f : ε → M)
    {es : List ε} {log : KeyedLog key} (h : ∀ e ∈ es, sel (key e) = true → log.Has (key e)) :
    (log.recordAll es).total sel f = log.total sel f := by
  induction es generalizing log with
  | nil => rfl
  | cons e es ih =>
      have htail : ∀ e' ∈ es, sel (key e') = true → (log.record e).Has (key e') := fun e' he' hs =>
        has_record.mpr (Or.inl (h e' (List.mem_cons_of_mem e he') hs))
      rw [recordAll_cons, ih htail]
      cases hs : sel (key e) with
      | false => exact total_record_of_not_sel f hs
      | true => rw [record_of_has (h e List.mem_cons_self hs)]

/-! ## Looking up -/

/-- The entry of a key. -/
def get? (log : KeyedLog key) (k : κ) : Option ε := log.entries.find? fun e => key e = k

lemma get?_eq_some {log : KeyedLog key} {k : κ} {e : ε} :
    log.get? k = some e ↔ e ∈ log.entries ∧ key e = k := by
  constructor
  · intro h
    exact ⟨List.mem_of_find?_eq_some h, by simpa using List.find?_some h⟩
  · rintro ⟨he, rfl⟩
    cases hfound : log.get? (key e) with
    | none =>
        have hne := List.find?_eq_none.mp hfound e he
        simp at hne
    | some e' =>
        have hkey : key e' = key e := by simpa using List.find?_some hfound
        rw [eq_of_key (List.mem_of_find?_eq_some hfound) he hkey]

/-- What is left of a key when the selected entries are removed. -/
lemma get?_remove {log : KeyedLog key} {sel : ε → Bool} {k : κ} :
    (log.remove sel).get? k = (log.get? k).filter fun e => !sel e := by
  ext e
  simp only [Option.filter_eq_some_iff, get?_eq_some, remove, List.mem_filter]
  tauto

/-! ## Replacing insertion -/

/-- Put an entry in the place of the one with its key, or at the end when there is none. -/
def upsert (log : KeyedLog key) (e : ε) : KeyedLog key :=
  if taken : log.Has (key e) then
    { entries := log.entries.map fun old => if key old = key e then e else old
      nodup := by
        rw [List.map_map]
        refine (List.map_congr_left fun old _ => ?_).symm ▸ log.nodup
        show key (if key old = key e then e else old) = key old
        split
        · next heq => exact heq.symm
        · rfl }
  else log.append e taken

lemma mem_upsert {log : KeyedLog key} {e e' : ε} :
    e' ∈ (log.upsert e).entries ↔ e' = e ∨ e' ∈ log.entries ∧ key e' ≠ key e := by
  unfold upsert
  split
  · next taken =>
    obtain ⟨old, hold, heq⟩ := List.mem_map.mp taken
    simp only [List.mem_map]
    constructor
    · rintro ⟨other, hother, rfl⟩
      split
      · exact Or.inl rfl
      · next hne => exact Or.inr ⟨hother, hne⟩
    · rintro (rfl | ⟨hmem, hne⟩)
      · exact ⟨old, hold, if_pos heq⟩
      · exact ⟨e', hmem, if_neg hne⟩
  · next fresh =>
    have hne : ∀ old ∈ log.entries, key old ≠ key e := fun old hold heq =>
      fresh (heq ▸ List.mem_map_of_mem hold)
    simp only [append, List.mem_append, List.mem_singleton]
    constructor
    · rintro (hmem | rfl)
      · exact Or.inr ⟨hmem, hne e' hmem⟩
      · exact Or.inl rfl
    · rintro (rfl | ⟨hmem, -⟩)
      · exact Or.inr rfl
      · exact Or.inl hmem

theorem get?_upsert {log : KeyedLog key} {e : ε} {k : κ} :
    (log.upsert e).get? k = if key e = k then some e else log.get? k := by
  ext found
  rw [get?_eq_some, mem_upsert]
  split
  · next heq =>
    subst heq
    simp only [Option.some.injEq, eq_comm (a := e)]
    constructor
    · rintro ⟨rfl | ⟨-, hne⟩, hkey⟩
      · rfl
      · exact absurd hkey hne
    · rintro rfl
      exact ⟨Or.inl rfl, rfl⟩
  · next hne =>
    rw [get?_eq_some]
    constructor
    · rintro ⟨rfl | ⟨hmem, -⟩, hkey⟩
      · exact absurd hkey hne
      · exact ⟨hmem, hkey⟩
    · rintro ⟨hmem, rfl⟩
      exact ⟨Or.inr ⟨hmem, Ne.symm hne⟩, rfl⟩

/-- Put several entries, one after the other. -/
def upsertAll (log : KeyedLog key) (es : List ε) : KeyedLog key := es.foldl upsert log

@[simp] lemma upsertAll_nil (log : KeyedLog key) : log.upsertAll [] = log := rfl

@[simp] lemma upsertAll_cons (log : KeyedLog key) (e : ε) (es : List ε) :
    log.upsertAll (e :: es) = (log.upsert e).upsertAll es := rfl

lemma mem_upsertAll {log : KeyedLog key} {es : List ε} {e : ε}
    (h : e ∈ (log.upsertAll es).entries) : e ∈ log.entries ∨ e ∈ es := by
  induction es generalizing log with
  | nil => exact Or.inl h
  | cons e' es ih =>
      rcases ih h with hupsert | hmem
      · rcases mem_upsert.mp hupsert with rfl | ⟨hold, -⟩
        · exact Or.inr List.mem_cons_self
        · exact Or.inl hold
      · exact Or.inr (List.mem_cons_of_mem _ hmem)

lemma get?_upsertAll_of_forall_ne {log : KeyedLog key} {es : List ε} {k : κ}
    (h : ∀ e ∈ es, key e ≠ k) : (log.upsertAll es).get? k = log.get? k := by
  induction es generalizing log with
  | nil => rfl
  | cons e es ih =>
      rw [upsertAll_cons, ih fun e' he' => h e' (List.mem_cons_of_mem _ he'), get?_upsert,
        if_neg (h e List.mem_cons_self)]

lemma get?_upsertAll_of_mem {log : KeyedLog key} {es : List ε} (hnodup : (es.map key).Nodup) {e : ε}
    (he : e ∈ es) : (log.upsertAll es).get? (key e) = some e := by
  induction es generalizing log with
  | nil => cases he
  | cons e' es ih =>
      obtain ⟨hnew, hnodup⟩ := List.nodup_cons.mp hnodup
      rcases List.mem_cons.mp he with rfl | he
      · have hne : ∀ other ∈ es, key other ≠ key e := fun other hother heq =>
          hnew (heq ▸ List.mem_map_of_mem hother)
        rw [upsertAll_cons, get?_upsertAll_of_forall_ne hne, get?_upsert, if_pos rfl]
      · exact ih hnodup he

/-- A key of several entries has one of them. -/
lemma exists_get?_upsertAll {log : KeyedLog key} {es : List ε} {e : ε} (he : e ∈ es) :
    ∃ e' ∈ es, (log.upsertAll es).get? (key e) = some e' := by
  induction es generalizing log e with
  | nil => cases he
  | cons first es ih =>
      by_cases hlater : ∃ other ∈ es, key other = key e
      · obtain ⟨other, hother, hkey⟩ := hlater
        obtain ⟨e', he', hget⟩ := ih hother
        rw [hkey] at hget
        exact ⟨e', List.mem_cons_of_mem _ he', hget⟩
      · have hne : ∀ other ∈ es, key other ≠ key e := fun other hother hkey =>
          hlater ⟨other, hother, hkey⟩
        rcases List.mem_cons.mp he with rfl | hmem
        · refine ⟨e, List.mem_cons_self, ?_⟩
          rw [upsertAll_cons, get?_upsertAll_of_forall_ne hne, get?_upsert, if_pos rfl]
        · exact absurd rfl (hne e hmem)

/-- The log of entries with different keys has just these entries. -/
theorem get?_upsertAll_empty {es : List ε} (hnodup : (es.map key).Nodup) {e : ε} {k : κ} :
    ((empty : KeyedLog key).upsertAll es).get? k = some e ↔ e ∈ es ∧ key e = k := by
  constructor
  · intro hget
    by_cases hk : ∃ e' ∈ es, key e' = k
    · obtain ⟨e', he', rfl⟩ := hk
      rw [get?_upsertAll_of_mem hnodup he'] at hget
      obtain rfl := Option.some.inj hget
      exact ⟨he', rfl⟩
    · rw [get?_upsertAll_of_forall_ne fun e' he' heq => hk ⟨e', he', heq⟩] at hget
      cases hget
  · rintro ⟨he, rfl⟩
    exact get?_upsertAll_of_mem hnodup he

lemma entries_upsertAll_of_fresh {log : KeyedLog key} {es : List ε}
    (hnodup : ((log.entries ++ es).map key).Nodup) :
    (log.upsertAll es).entries = log.entries ++ es := by
  induction es generalizing log with
  | nil => exact (List.append_nil _).symm
  | cons e es ih =>
      have hfresh : ¬log.Has (key e) := by
        rw [List.map_append, List.map_cons] at hnodup
        exact fun hhas => (List.nodup_append.mp hnodup).2.2 _ hhas _ List.mem_cons_self rfl
      have hentries : (log.upsert e).entries = log.entries ++ [e] := by
        rw [upsert, dif_neg hfresh]
        rfl
      rw [upsertAll_cons, ih (by rwa [hentries, List.append_assoc, List.singleton_append]),
        hentries, List.append_assoc, List.singleton_append]

/-! ## Failing insertion -/

/-- A plain `INSERT`: fails when the key is taken. -/
def insert? (log : KeyedLog key) (e : ε) : Option (KeyedLog key) :=
  if fresh : log.Has (key e) then none else some (log.append e fresh)

/-- Insert several entries, or none of them. -/
def insertAll? (log : KeyedLog key) : List ε → Option (KeyedLog key)
  | [] => some log
  | e :: es => (log.insert? e).bind fun log' => log'.insertAll? es

lemma insert?_eq_some {log log' : KeyedLog key} {e : ε} :
    log.insert? e = some log' ↔ ∃ fresh : ¬log.Has (key e), log' = log.append e fresh := by
  unfold insert?
  split
  · next h => simp [h]
  · next h => simp [h, eq_comm]

/-- A multi-row insert goes through exactly when the keys of the rows are pairwise different and
none of them is taken. -/
theorem insertAll?_isSome {log : KeyedLog key} {es : List ε} :
    (log.insertAll? es).isSome ↔ (es.map key).Nodup ∧ ∀ e ∈ es, ¬log.Has (key e) := by
  induction es generalizing log with
  | nil => simp [insertAll?]
  | cons e es ih =>
      by_cases hk : log.Has (key e)
      · simp [insertAll?, insert?, hk]
      · simp only [insertAll?, insert?, hk, dite_false, Option.bind_some, ih, has_append,
          List.map_cons, List.nodup_cons, List.mem_cons, forall_eq_or_imp, not_or, not_false_iff,
          true_and, List.mem_map, not_exists, not_and]
        constructor
        · rintro ⟨hnd, hall⟩
          exact ⟨⟨fun e' he' heq => (hall e' he').2 heq, hnd⟩, fun e' he' => (hall e' he').1⟩
        · rintro ⟨⟨hne, hnd⟩, hall⟩
          exact ⟨hnd, fun e' he' => ⟨hall e' he', hne e' he'⟩⟩

lemma has_of_insertAll? {log log' : KeyedLog key} {es : List ε} (h : log.insertAll? es = some log')
    {k : κ} : log'.Has k ↔ log.Has k ∨ ∃ e ∈ es, k = key e := by
  induction es generalizing log with
  | nil =>
      obtain rfl : log = log' := by simpa [insertAll?] using h
      simp
  | cons e es ih =>
      obtain ⟨mid, hmid, hrest⟩ := Option.bind_eq_some_iff.mp h
      obtain ⟨fresh, rfl⟩ := insert?_eq_some.mp hmid
      rw [ih hrest, has_append]
      simp only [List.mem_cons, exists_eq_or_imp]
      tauto

/-- The entries after inserting several are those of before, and the new ones. -/
lemma entries_of_insertAll? {log log' : KeyedLog key} {es : List ε}
    (h : log.insertAll? es = some log') : log'.entries = log.entries ++ es := by
  induction es generalizing log with
  | nil =>
      obtain rfl : log = log' := by simpa [insertAll?] using h
      rw [List.append_nil]
  | cons e es ih =>
      obtain ⟨mid, hmid, hrest⟩ := Option.bind_eq_some_iff.mp h
      obtain ⟨fresh, rfl⟩ := insert?_eq_some.mp hmid
      rw [ih hrest, append, List.append_assoc, List.singleton_append]

/-- Inserting entries that are not selected leaves the total as it is. -/
lemma total_of_insertAll? {M : Type*} [AddCommMonoid M] {sel : κ → Bool} (f : ε → M)
    {log log' : KeyedLog key} {es : List ε} (h : log.insertAll? es = some log')
    (hsel : ∀ e ∈ es, sel (key e) = false) : log'.total sel f = log.total sel f := by
  induction es generalizing log with
  | nil =>
      obtain rfl : log = log' := by simpa [insertAll?] using h
      rfl
  | cons e es ih =>
      obtain ⟨mid, hmid, hrest⟩ := Option.bind_eq_some_iff.mp h
      obtain ⟨fresh, rfl⟩ := insert?_eq_some.mp hmid
      rw [ih hrest fun e' he' => hsel e' (List.mem_cons_of_mem e he'), total_append,
        hsel e List.mem_cons_self]
      simp

/-! ## Bounded maps

A map of at most `cap` entries, in the order of insertion.  Before a new entry comes, room is made
by dropping the oldest; `reserve` is how many more entries one is sure to outlive. -/

/-- The keys, the oldest first. -/
def keys (log : KeyedLog key) : List κ := log.entries.map key

omit [DecidableEq κ] in
lemma length_keys (log : KeyedLog key) : log.keys.length = log.entries.length := List.length_map _

/-- The log without its oldest entry. -/
def dropOldest (log : KeyedLog key) : KeyedLog key where
  entries := log.entries.tail
  nodup := log.nodup.sublist ((List.tail_sublist _).map key)

/-- Put an entry, after making room for it. -/
def remember (cap : ℕ) (log : KeyedLog key) (e : ε) : KeyedLog key :=
  (if cap ≤ log.entries.length then log.dropOldest else log).upsert e

/-- The number of entries before the one of `k`, and of those there is room for after it. -/
def reserve (cap : ℕ) (log : KeyedLog key) (k : κ) : ℕ :=
  log.keys.idxOf k + (cap - log.entries.length)

lemma keys_upsert {log : KeyedLog key} {e : ε} :
    (log.upsert e).keys = if log.Has (key e) then log.keys else log.keys ++ [key e] := by
  unfold upsert keys
  split
  · rw [List.map_map]
    refine List.map_congr_left fun old _ => ?_
    show key (if key old = key e then e else old) = key old
    split
    · next heq => exact heq.symm
    · rfl
  · simp [append]

omit [DecidableEq κ] in
lemma keys_dropOldest (log : KeyedLog key) : log.dropOldest.keys = log.keys.tail :=
  List.map_tail

/-- The entry of a key is still there when an older one is dropped. -/
lemma get?_dropOldest {log : KeyedLog key} {k : κ} (h : 0 < log.keys.idxOf k) :
    log.dropOldest.get? k = log.get? k := by
  obtain ⟨entries, nodup⟩ := log
  cases entries with
  | nil => rfl
  | cons e entries =>
      have hne : key e ≠ k := by
        rintro rfl
        simp [keys] at h
      simp only [get?, dropOldest, List.tail_cons]
      rw [List.find?_cons_of_neg (by simpa using hne)]

lemma length_remember_le {cap : ℕ} {log : KeyedLog key} {e : ε} (hcap : 0 < cap)
    (h : log.entries.length ≤ cap) : (log.remember cap e).entries.length ≤ cap := by
  rw [← length_keys, remember, keys_upsert]
  split <;> split <;>
    simp only [keys_dropOldest, List.length_append, List.length_tail, List.length_singleton,
      length_keys] <;> omega

lemma mem_remember {cap : ℕ} {log : KeyedLog key} {e e' : ε}
    (h : e' ∈ (log.remember cap e).entries) : e' = e ∨ e' ∈ log.entries := by
  rcases mem_upsert.mp h with rfl | ⟨hmem, -⟩
  · exact Or.inl rfl
  · right
    split at hmem
    · exact List.mem_of_mem_tail hmem
    · exact hmem

/-- Dropping an older entry makes room: the reserve stays as it is. -/
lemma reserve_dropOldest {cap : ℕ} {log : KeyedLog key} {k : κ} (hfull : log.entries.length = cap)
    (h : 0 < log.keys.idxOf k) : log.dropOldest.reserve cap k = log.reserve cap k := by
  obtain ⟨entries, nodup⟩ := log
  cases entries with
  | nil => simp [keys] at h
  | cons e entries =>
      have hne : key e ≠ k := by
        rintro rfl
        simp [keys] at h
      simp only [List.length_cons] at hfull
      simp only [reserve, keys, dropOldest, List.tail_cons, List.map_cons, List.length_cons,
        List.idxOf_cons_ne _ hne]
      omega

/-- The entry that comes next takes one place of the reserve, or none. -/
lemma reserve_upsert {cap : ℕ} {log : KeyedLog key} {e : ε} {k : κ} (hk : log.Has k) :
    log.reserve cap k ≤ (log.upsert e).reserve cap k + 1 := by
  have hlength := length_keys (log.upsert e)
  simp only [reserve, ← length_keys]
  rw [keys_upsert] at hlength ⊢
  split
  · omega
  · rw [List.idxOf_append_of_mem (show k ∈ log.keys from hk), List.length_append,
      List.length_singleton]
    omega

/-- An entry with a reserve outlives the next one, and loses no more than one of its reserve. -/
theorem remember_of_reserve {cap : ℕ} {log : KeyedLog key} {e found : ε} {k : κ}
    (hlength : log.entries.length ≤ cap) (hne : key e ≠ k) (hget : log.get? k = some found)
    (hreserve : 0 < log.reserve cap k) :
    (log.remember cap e).get? k = some found ∧
      log.reserve cap k ≤ (log.remember cap e).reserve cap k + 1 := by
  have hhas : ∀ log : KeyedLog key, log.get? k = some found → log.Has k := by
    intro log hfound
    obtain ⟨hmem, rfl⟩ := get?_eq_some.mp hfound
    exact List.mem_map_of_mem hmem
  unfold remember
  split
  · next hfull =>
    have holder : 0 < log.keys.idxOf k := by
      unfold reserve at hreserve
      omega
    have hkept : log.dropOldest.get? k = some found := by rw [get?_dropOldest holder, hget]
    rw [get?_upsert, if_neg hne, ← reserve_dropOldest (by omega) holder]
    exact ⟨hkept, reserve_upsert (hhas _ hkept)⟩
  · rw [get?_upsert, if_neg hne]
    exact ⟨hget, reserve_upsert (hhas _ hget)⟩

/-- A new entry outlives as many as there is room for beside it. -/
lemma reserve_remember_self {cap : ℕ} {log : KeyedLog key} {e : ε} (hcap : 0 < cap)
    (hlength : log.entries.length ≤ cap) (hfresh : ¬log.Has (key e)) :
    (log.remember cap e).reserve cap (key e) = cap - 1 := by
  have hself : ∀ log : KeyedLog key, ¬log.Has (key e) → log.entries.length < cap →
      (log.upsert e).reserve cap (key e) = cap - 1 := by
    intro log hfresh hroom
    simp only [reserve, ← length_keys, keys_upsert, if_neg hfresh]
    rw [List.idxOf_append_of_notMem (show key e ∉ log.keys from hfresh), List.idxOf_cons_self,
      List.length_append, List.length_singleton, length_keys]
    omega
  unfold remember
  split
  · refine hself _ (fun hmem => hfresh ?_) ?_
    · exact List.mem_of_mem_tail ((keys_dropOldest log) ▸ hmem)
    · simp only [dropOldest, List.length_tail]
      omega
  · exact hself _ hfresh (by omega)

end KeyedLog

/-!
# Events numbered by their key

A log of events, each with a key and a number.  It is *numbered* when every event has the number
that is next among the events of its key, from 1 on: what a counter for each key would have
answered. Among the events of one key those with a number of at most `limit` are then the first
`limit` of them (`Numbered.countP_le`), so no more than `limit` of their bearers are let through
(`Numbered.length_le_of_bearers`).
-/

namespace Numbering

variable {ε κ ι : Type*} [DecidableEq κ] {key : ε → κ} {number : ε → ℕ} {log : List ε} {e : ε}
  {k : κ} {limit : ℕ}

/-- The events of a key. -/
def total (key : ε → κ) (log : List ε) (k : κ) : ℕ := log.countP fun e => key e = k

lemma total_concat : total key (log ++ [e]) k = total key log k + if key e = k then 1 else 0 := by
  simp [total, List.countP_append, List.countP_singleton]

/-- Every event has the next number of its key. -/
def Numbered (key : ε → κ) (number : ε → ℕ) (log : List ε) : Prop :=
  ∀ earlier e later, log = earlier ++ e :: later → number e = total key earlier (key e) + 1

lemma numbered_nil : Numbered key number [] := by
  intro earlier e later h
  simp at h

lemma Numbered.concat (h : Numbered key number log) (he : number e = total key log (key e) + 1) :
    Numbered key number (log ++ [e]) := by
  intro earlier e' later heq
  rcases List.eq_nil_or_concat later with rfl | ⟨later, last, rfl⟩
  · obtain ⟨rfl, hlast⟩ := List.append_inj' heq rfl
    obtain rfl := List.head_eq_of_cons_eq hlast
    exact he
  · rw [List.concat_eq_append, ← List.cons_append, ← List.append_assoc] at heq
    exact h earlier e' later (List.append_inj' heq rfl).1

lemma Numbered.of_concat (h : Numbered key number (log ++ [e])) :
    Numbered key number log ∧ number e = total key log (key e) + 1 := by
  refine ⟨fun earlier e' later heq => ?_, h log e [] rfl⟩
  apply h earlier e' (later ++ [e])
  rw [heq, List.append_assoc, List.cons_append]

/-- The events of a key with the numbers up to `limit` are the first `limit` of that key. -/
theorem Numbered.countP_le (h : Numbered key number log) (k : κ) (limit : ℕ) :
    (log.countP fun e => key e = k ∧ number e ≤ limit) = min limit (total key log k) := by
  induction log using List.reverseRecOn with
  | nil => simp [total]
  | append_singleton log e ih =>
      obtain ⟨hlog, he⟩ := h.of_concat
      rw [List.countP_append, ih hlog, total_concat, List.countP_singleton]
      by_cases hk : key e = k
      · subst hk
        simp only [true_and, he, decide_eq_true_eq, if_true]
        split <;> omega
      · simp [hk]

/-- Bearers of different names, each with an event of the key whose number is at most `limit`: there
are at most `limit`. -/
theorem Numbered.length_le_of_bearers (h : Numbered key number log) [DecidableEq ι] {bearer : ε → ι}
    {bearers : List ι} (hnodup : bearers.Nodup)
    (hbear : ∀ b ∈ bearers, ∃ e ∈ log, bearer e = b ∧ key e = k ∧ number e ≤ limit) :
    bearers.length ≤ limit := by
  let admitted := log.filter fun e => key e = k ∧ number e ≤ limit
  have hsub : bearers ⊆ admitted.map bearer := by
    intro b hb
    obtain ⟨e, he, rfl, hke⟩ := hbear b hb
    exact List.mem_map_of_mem (List.mem_filter.mpr ⟨he, by simpa using hke⟩)
  calc bearers.length ≤ (admitted.map bearer).length := (hnodup.subperm hsub).length_le
    _ = min limit (total key log k) := by
        rw [List.length_map, ← h.countP_le k limit, List.countP_eq_length_filter]
    _ ≤ limit := min_le_left _ _

end Numbering
