import Mathlib.Data.Option.Basic
import Mathlib.Logic.Function.Basic
import Mathlib.Order.Basic

/-!
# Transactions at READ COMMITTED

A table whose rows are inserted and rewritten in transactions.  A statement sees what has been
committed and what its own transaction has written; a row that a transaction has written is locked
until it ends.  Versions of a row carry a stamp: a committed one when it was committed, another when
its statement ran.

A check that each statement makes of the row it writes, against the rows it sees, holds of all
committed pairs, but for those of which one was committed after the statement for the other
(`Checked`).  What a commit has to satisfy for a relation on pairs is `pairs_commit`.
-/

/-- A committed version of a row. -/
structure Committed (ρ : Type*) where
  content : ρ
  stamp : ℕ

/-- A version of a row that a transaction has written. -/
structure Written (ρ : Type*) where
  txn : ℕ
  content : ρ
  stamp : ℕ

/-- A table with its open transactions. -/
structure ReadCommitted (ρ : Type*) where
  /-- The number of the next row. -/
  next : ℕ
  clock : ℕ
  committed : ℕ → Option (Committed ρ)
  written : ℕ → Option (Written ρ)

namespace ReadCommitted

variable {ρ : Type*}

def empty : ReadCommitted ρ := ⟨0, 0, fun _ => none, fun _ => none⟩

variable (s : ReadCommitted ρ) (t : ℕ)

/-- What the transaction has written of a row. -/
def own (i : ℕ) : Option (Written ρ) := (s.written i).filter fun p => p.txn = t

/-- The committed rows. -/
def rows (i : ℕ) : Option ρ := (s.committed i).map Committed.content

/-- The rows that a statement of the transaction sees. -/
def visible (i : ℕ) : Option ρ := ((s.own t i).map Written.content).or (s.rows i)

/-- No other transaction has locked the row. -/
def IsFree (i : ℕ) : Prop := ∀ p ∈ s.written i, p.txn = t

instance (i : ℕ) : Decidable (s.IsFree t i) :=
  match h : s.written i with
  | none => isTrue fun p hp => by
      rw [h] at hp
      exact absurd hp (Option.some_ne_none _).symm
  | some q => decidable_of_iff (q.txn = t) (by simp [IsFree, h])

def write (i : ℕ) (content : ρ) : ReadCommitted ρ :=
  { s with written := Function.update s.written i (some ⟨t, content, s.clock⟩) }

def insert (content : ρ) : ReadCommitted ρ :=
  { s.write t s.next content with next := s.next + 1 }

def commit : ReadCommitted ρ where
  next := s.next
  clock := s.clock + 1
  committed i :=
    match s.own t i with
    | some p => some ⟨p.content, s.clock + 1⟩
    | none => s.committed i
  written i := (s.written i).filter fun p => p.txn ≠ t

def rollback : ReadCommitted ρ :=
  { s with written := fun i => (s.written i).filter fun p => p.txn ≠ t }

section

variable {s t}

lemma mem_own {i : ℕ} {p : Written ρ} : p ∈ s.own t i ↔ p ∈ s.written i ∧ p.txn = t := by
  simp [own]

lemma own_eq_none {i : ℕ} (h : ∀ p ∈ s.written i, p.txn ≠ t) : s.own t i = none := by
  refine Option.eq_none_iff_forall_not_mem.mpr fun p hp => ?_
  obtain ⟨hmem, htxn⟩ := mem_own.mp hp
  exact h p hmem htxn

/-- A commit makes the rows what the transaction has seen. -/
lemma rows_commit (i : ℕ) : (s.commit t).rows i = s.visible t i := by
  unfold rows visible commit
  dsimp only
  cases s.own t i with
  | none => rfl
  | some p => rfl

lemma visible_of_own {i : ℕ} {p : Written ρ} (h : p ∈ s.own t i) :
    s.visible t i = some p.content := by
  rw [visible, Option.mem_def.mp h]
  rfl

lemma visible_of_none {i : ℕ} (h : s.own t i = none) : s.visible t i = s.rows i := by
  rw [visible, h]
  rfl

/-! ## Pairs of rows -/

/-- Every two rows are related. -/
def Pairs (R : ρ → ρ → Prop) (rows : ℕ → Option ρ) : Prop :=
  ∀ i j, i ≠ j → ∀ a ∈ rows i, ∀ b ∈ rows j, R a b

variable {R : ρ → ρ → Prop}

/-- A commit keeps a symmetric relation exactly when what it commits is related to what its
transaction sees. -/
theorem pairs_commit (hsymm : ∀ a b, R a b → R b a) (h : Pairs R s.rows) :
    Pairs R (s.commit t).rows ↔
      ∀ i, ∀ p ∈ s.own t i, ∀ j, j ≠ i → ∀ b ∈ s.visible t j, R p.content b := by
  have hrows : (s.commit t).rows = s.visible t := funext rows_commit
  rw [hrows]
  constructor
  · intro hpairs i p hp j hne b hb
    exact hpairs i j hne.symm p.content (visible_of_own hp) b hb
  · intro hall i j hne a ha b hb
    cases hi : s.own t i with
    | some p =>
        rw [visible_of_own hi, Option.mem_some_iff] at ha
        rw [← ha]
        exact hall i p hi j hne.symm b hb
    | none =>
        cases hj : s.own t j with
        | some q =>
            rw [visible_of_own hj, Option.mem_some_iff] at hb
            rw [← hb]
            exact hsymm _ _ (hall j q hj i hne a ha)
        | none =>
            rw [visible_of_none hi] at ha
            rw [visible_of_none hj] at hb
            exact h i j hne a ha b hb

/-! ## Checks against what is seen -/

/-- The rows that a statement of the transaction sees are related to what it is about to write. -/
def Sees (R : ρ → ρ → Prop) (s : ReadCommitted ρ) (t i : ℕ) (content : ρ) : Prop :=
  ∀ j < s.next, j ≠ i → ∀ b ∈ s.visible t j, R content b

instance [DecidableRel R] (s : ReadCommitted ρ) (t i : ℕ) (content : ρ) :
    Decidable (Sees R s t i content) :=
  inferInstanceAs (Decidable (∀ j < s.next, j ≠ i → ∀ b ∈ s.visible t j, R content b))

/-- What is known of rows that were written with such a check. -/
structure Checked (R : ρ → ρ → Prop) (s : ReadCommitted ρ) : Prop where
  lt : ∀ i, s.next ≤ i → s.committed i = none ∧ s.written i = none
  stamp : ∀ i, ∀ p ∈ s.written i, p.stamp ≤ s.clock
  together : ∀ i, ∀ p ∈ s.written i, ∀ j, j ≠ i → ∀ q ∈ s.written j, q.txn = p.txn →
    R p.content q.content
  seen : ∀ i, ∀ p ∈ s.written i, ∀ j, j ≠ i → s.own p.txn j = none → ∀ c ∈ s.committed j,
    c.stamp ≤ p.stamp → R p.content c.content

lemma checked_empty : Checked R empty :=
  ⟨fun _ _ => ⟨rfl, rfl⟩, fun _ _ h => absurd h (Option.some_ne_none _).symm,
    fun _ _ h => absurd h (Option.some_ne_none _).symm,
    fun _ _ h => absurd h (Option.some_ne_none _).symm⟩

/-- A row that a statement does not see has no version of its transaction. -/
lemma Checked.of_sees (h : Checked R s) {i : ℕ} {content : ρ} (hsees : Sees R s t i content) {j : ℕ}
    (hne : j ≠ i) {b : ρ} (hb : b ∈ s.visible t j) : R content b := by
  refine hsees j ?_ hne b hb
  by_contra hge
  obtain ⟨hcommitted, hwritten⟩ := h.lt j (Nat.le_of_not_lt hge)
  simp [visible, own, rows, hcommitted, hwritten] at hb

lemma mem_visible_of_written {i : ℕ} {p : Written ρ} (hp : p ∈ s.written i) (htxn : p.txn = t) :
    p.content ∈ s.visible t i :=
  visible_of_own (mem_own.mpr ⟨hp, htxn⟩)

lemma mem_visible_of_committed {i : ℕ} {c : Committed ρ} (hown : s.own t i = none)
    (hc : c ∈ s.committed i) : c.content ∈ s.visible t i := by
  rw [visible_of_none hown, rows, Option.mem_def.mp hc]
  rfl

lemma mem_written_write {i j : ℕ} {content : ρ} {p : Written ρ} :
    p ∈ (s.write t i content).written j ↔
      j = i ∧ p = ⟨t, content, s.clock⟩ ∨ j ≠ i ∧ p ∈ s.written j := by
  unfold write
  dsimp only
  by_cases hij : j = i
  · subst hij
    simp [eq_comm]
  · simp [hij]

lemma own_write_of_ne {i j : ℕ} {content : ρ} (hne : j ≠ i) (t' : ℕ) :
    (s.write t i content).own t' j = s.own t' j := by
  unfold own write
  dsimp only
  rw [Function.update_of_ne hne]

/-- A statement that has checked what it writes keeps what is known of such rows. -/
lemma Checked.put (hsymm : ∀ a b, R a b → R b a) (h : Checked R s) {i n : ℕ} {content : ρ}
    (hfree : s.IsFree t i) (hsees : Sees R s t i content) (hi : i < n) (hn : s.next ≤ n) :
    Checked R { s.write t i content with next := n } where
  lt := fun j hj => by
    obtain ⟨hcommitted, hwritten⟩ := h.lt j (Nat.le_trans hn hj)
    have hne : j ≠ i := by
      have hle : n ≤ j := hj
      omega
    refine ⟨hcommitted, ?_⟩
    rw [← hwritten]
    exact Function.update_of_ne hne _ _
  stamp := fun j p hp => by
    rcases mem_written_write.mp hp with ⟨-, hnew⟩ | ⟨-, hold⟩
    · rw [hnew]
      exact Nat.le_refl _
    · exact h.stamp j p hold
  together := fun j p hp k hne q hq htxn => by
    rcases mem_written_write.mp hp with ⟨hji, hnew⟩ | ⟨-, hold⟩
    · rcases mem_written_write.mp hq with ⟨hki, -⟩ | ⟨-, hqold⟩
      · exact absurd (hki.trans hji.symm) hne
      · rw [hnew] at htxn ⊢
        exact h.of_sees hsees (hji ▸ hne) (mem_visible_of_written hqold htxn)
    · rcases mem_written_write.mp hq with ⟨hki, hqnew⟩ | ⟨-, hqold⟩
      · rw [hqnew] at htxn ⊢
        exact hsymm _ _ (h.of_sees hsees (hki ▸ hne.symm) (mem_visible_of_written hold htxn.symm))
      · exact h.together j p hold k hne q hqold htxn
  seen := fun j p hp k hne hown c hc hstamp => by
    have hown' : (s.write t i content).own p.txn k = none := hown
    rcases mem_written_write.mp hp with ⟨hji, hnew⟩ | ⟨-, hold⟩
    · have hki : k ≠ i := hji ▸ hne
      rw [own_write_of_ne hki, hnew] at hown'
      rw [hnew]
      exact h.of_sees hsees hki (mem_visible_of_committed hown' hc)
    · refine h.seen j p hold k hne ?_ c hc hstamp
      by_cases hki : k = i
      · subst hki
        refine own_eq_none fun q hq htxn => ?_
        have hnone := Option.eq_none_iff_forall_not_mem.mp hown' ⟨t, content, s.clock⟩
        refine hnone (mem_own.mpr ⟨mem_written_write.mpr (Or.inl ⟨rfl, rfl⟩), ?_⟩)
        exact (hfree q hq).symm.trans htxn
      · rw [own_write_of_ne hki] at hown'
        exact hown'

lemma mem_written_drop {i : ℕ} {p : Written ρ} :
    p ∈ (s.written i).filter (fun p => p.txn ≠ t) ↔ p ∈ s.written i ∧ p.txn ≠ t := by
  simp

/-- The end of a transaction leaves the rows of the others alone. -/
lemma own_drop {i t' : ℕ} (hne : t' ≠ t) :
    ((s.written i).filter fun p => p.txn ≠ t).filter (fun p => p.txn = t') = s.own t' i := by
  unfold own
  cases s.written i with
  | none => rfl
  | some p =>
      by_cases ht : p.txn = t'
      · have hpt : p.txn ≠ t := ht ▸ hne
        simp [Option.filter, ht, hne]
      · by_cases hpt : p.txn = t
        · simp [Option.filter, hpt, Ne.symm hne]
        · simp [Option.filter, ht, hpt]

lemma Checked.rollback (h : Checked R s) (t : ℕ) : Checked R (s.rollback t) where
  lt := fun i hi => by
    obtain ⟨hcommitted, hwritten⟩ := h.lt i hi
    refine ⟨hcommitted, ?_⟩
    unfold ReadCommitted.rollback
    dsimp only
    rw [hwritten]
    rfl
  stamp := fun i p hp => h.stamp i p (mem_written_drop.mp hp).1
  together := fun i p hp j hne q hq =>
    h.together i p (mem_written_drop.mp hp).1 j hne q (mem_written_drop.mp hq).1
  seen := fun i p hp j hne hown => by
    obtain ⟨hmem, htxn⟩ := mem_written_drop.mp hp
    refine h.seen i p hmem j hne ?_
    rw [← own_drop htxn]
    exact hown

lemma Checked.commit (h : Checked R s) (t : ℕ) : Checked R (s.commit t) where
  lt := fun i hi => by
    obtain ⟨hcommitted, hwritten⟩ := h.lt i hi
    have hown : s.own t i = none := by
      rw [own, hwritten]
      rfl
    unfold ReadCommitted.commit
    dsimp only
    rw [hown, hwritten]
    exact ⟨hcommitted, rfl⟩
  stamp := fun i p hp => Nat.le_succ_of_le (h.stamp i p (mem_written_drop.mp hp).1)
  together := fun i p hp j hne q hq =>
    h.together i p (mem_written_drop.mp hp).1 j hne q (mem_written_drop.mp hq).1
  seen := fun i p hp j hne hown c hc hstamp => by
    obtain ⟨hmem, htxn⟩ := mem_written_drop.mp hp
    have hown' : s.own p.txn j = none := by
      rw [← own_drop htxn]
      exact hown
    unfold ReadCommitted.commit at hc
    dsimp only at hc
    cases howner : s.own t j with
    | none =>
        rw [howner] at hc
        exact h.seen i p hmem j hne hown' c hc hstamp
    | some q =>
        rw [howner, Option.mem_some_iff] at hc
        have hle := h.stamp i p hmem
        rw [← hc] at hstamp
        have hlt : s.clock + 1 ≤ p.stamp := hstamp
        omega

/-- Of what was checked, a commit has to satisfy the relation only against rows that were committed
since. -/
lemma Checked.own_iff (h : Checked R s) :
    (∀ i, ∀ p ∈ s.own t i, ∀ j, j ≠ i → ∀ b ∈ s.visible t j, R p.content b) ↔
      ∀ i, ∀ p ∈ s.own t i, ∀ j, j ≠ i → s.own t j = none → ∀ c ∈ s.committed j,
        p.stamp < c.stamp → R p.content c.content := by
  constructor
  · intro hall i p hp j hne hown c hc _
    exact hall i p hp j hne c.content (mem_visible_of_committed hown hc)
  · intro hall i p hp j hne b hb
    obtain ⟨hmem, htxn⟩ := mem_own.mp hp
    cases hown : s.own t j with
    | some q =>
        rw [visible_of_own hown, Option.mem_some_iff] at hb
        obtain ⟨hqmem, hqtxn⟩ := mem_own.mp (Option.mem_def.mpr hown)
        rw [← hb]
        exact h.together i p hmem j hne q hqmem (hqtxn.trans htxn.symm)
    | none =>
        rw [visible_of_none hown] at hb
        obtain ⟨c, hc, hcontent⟩ := Option.map_eq_some_iff.mp hb
        rw [← hcontent]
        by_cases hlt : p.stamp < c.stamp
        · exact hall i p hp j hne hown c hc hlt
        · exact h.seen i p hmem j hne (htxn ▸ hown) c hc (Nat.le_of_not_lt hlt)

end

end ReadCommitted

/-!
# Transactions that a failed statement aborts

A statement takes the tables of a transaction to what it leaves there and to what it returns, or
fails.  After a failure the transaction is aborted: every further statement fails, and a `COMMIT`
rolls it back.

A program may catch the errors of its statements and go on with the next.  Nothing of it reaches the
tables then unless all statements succeed (`catchEach_eq_running`).
-/

/-- A statement: the tables afterwards and what it returns, `none` when it fails. -/
abbrev SqlStatement (σ α : Type*) : Type _ := σ → Option (σ × α)

inductive SqlTransaction (σ : Type*) where
  | running (tables : σ)
  | aborted

namespace SqlTransaction

variable {σ α : Type*}

/-- A statement of the transaction, and its answer. -/
def exec (t : SqlTransaction σ) (statement : SqlStatement σ α) : SqlTransaction σ × Option α :=
  match t with
  | running tables =>
      match statement tables with
      | some (tables', answer) => (running tables', some answer)
      | none => (aborted, none)
  | aborted => (aborted, none)

/-- A loop that catches the errors of its statements, with the answers it gets. -/
def catchEach : List (SqlStatement σ α) → SqlTransaction σ → SqlTransaction σ × List α
  | [], t => (t, [])
  | statement :: statements, t =>
      let rest := catchEach statements (t.exec statement).1
      (rest.1, (t.exec statement).2.toList ++ rest.2)

/-- The statements one after the other, up to one that fails. -/
def execAll : List (SqlStatement σ α) → SqlStatement σ (List α)
  | [], tables => some (tables, [])
  | statement :: statements, tables =>
      (statement tables).bind fun first =>
        (execAll statements first.1).map fun rest => (rest.1, first.2 :: rest.2)

variable {statement : SqlStatement σ α} {statements : List (SqlStatement σ α)} {tables tables' : σ}
  {answer : α} {answers : List α}

@[simp] lemma exec_aborted : (aborted : SqlTransaction σ).exec statement = (aborted, none) := rfl

lemma exec_running_of_some (h : statement tables = some (tables', answer)) :
    (running tables).exec statement = (running tables', some answer) := by
  rw [exec, h]

lemma exec_running_of_none (h : statement tables = none) :
    (running tables).exec statement = (aborted, none) := by
  rw [exec, h]

/-- No statement of an aborted transaction is carried out. -/
lemma catchEach_aborted :
    catchEach statements (aborted : SqlTransaction σ) = (aborted, []) := by
  induction statements with
  | nil => rfl
  | cons statement statements ih =>
      rw [catchEach, exec_aborted, ih]
      rfl

/-- The loop leaves the transaction open exactly when none of its statements fails. -/
theorem catchEach_eq_running :
    catchEach statements (running tables) = (running tables', answers) ↔
      execAll statements tables = some (tables', answers) := by
  induction statements generalizing tables answers with
  | nil =>
      show (running tables, []) = (running tables', answers) ↔
        some (tables, []) = some (tables', answers)
      simp
  | cons statement statements ih =>
      rw [catchEach, execAll]
      cases hfirst : statement tables with
      | none =>
          rw [exec_running_of_none hfirst, catchEach_aborted, Option.bind_none]
          simp
      | some result =>
          obtain ⟨tables₁, first⟩ := result
          rw [exec_running_of_some hfirst, Option.bind_some]
          constructor
          · intro h
            obtain ⟨hrunning, hanswers⟩ := Prod.mk.inj h
            have hrest := ih.mp (Prod.ext hrunning rfl)
            rw [hrest, ← hanswers]
            rfl
          · intro h
            obtain ⟨⟨tables₂, rest⟩, hrest, heq⟩ := Option.map_eq_some_iff.mp h
            obtain ⟨rfl, rfl⟩ := Prod.mk.inj heq
            dsimp only
            rw [ih.mpr hrest]
            rfl

/-- Either all statements of the loop are carried out or the transaction is aborted. -/
theorem catchEach_running_or_aborted (statements : List (SqlStatement σ α)) (tables : σ) :
    (∃ tables' answers, execAll statements tables = some (tables', answers) ∧
        catchEach statements (running tables) = (running tables', answers)) ∨
      execAll statements tables = none ∧ (catchEach statements (running tables)).1 = aborted := by
  cases hloop : catchEach statements (running tables) with
  | mk t answers =>
      cases t with
      | running tables' =>
          exact Or.inl ⟨tables', answers, catchEach_eq_running.mp hloop, rfl⟩
      | aborted =>
          refine Or.inr ⟨Option.eq_none_iff_forall_ne_some.mpr fun result hall => ?_, rfl⟩
          rw [catchEach_eq_running.mpr hall] at hloop
          cases hloop

end SqlTransaction
