import ExpresSync.Foundation.Transition
import ExpresSync.Model.CustomerCards

/-!
# One Lago customer per user

The trigger asks whether another user has the Lago customer of a row, among the rows that its
statement sees.  It does not ask whether the user has another Lago customer, and it does not see
what other transactions have not committed.
-/

namespace ExpresSync

open Transition ReadCommitted

/-- The two rows are not of one user with different Lago customers. -/
def LinkColumns.SameLago (a b : LinkColumns) : Prop :=
  ∀ userId ∈ a.userId, b.userId = some userId → ∀ lagoId ∈ a.lagoCustomerExternalId,
    ∀ otherLagoId ∈ b.lagoCustomerExternalId, otherLagoId = lagoId

instance : DecidableRel LinkColumns.SameLago := fun a b =>
  inferInstanceAs (Decidable (∀ userId ∈ a.userId, b.userId = some userId →
    ∀ lagoId ∈ a.lagoCustomerExternalId, ∀ otherLagoId ∈ b.lagoCustomerExternalId,
      otherLagoId = lagoId))

lemma LinkColumns.SameLago.symm {a b : LinkColumns} (h : a.SameLago b) : b.SameLago a :=
  fun userId hb ha lagoId hlb lagoId' hla => (h userId ha hb lagoId' hla lagoId hlb).symm

lemma LinkColumns.SameUser.symm {a b : LinkColumns} (h : a.SameUser b) : b.SameUser a :=
  fun userId hb lagoId hlb hla userId' ha => (h userId' ha lagoId hla hlb userId hb).symm

lemma LinkColumns.SameLago.refl (a : LinkColumns) : a.SameLago a :=
  fun _ _ _ _ hla _ hlb => Option.mem_unique hlb hla

namespace MappingTransactions

variable (s : MappingTransactions)

/-- Whatever the order in which the rows are read, a user has the same Lago customer in his
scope. -/
def ScopeIsStable : Prop :=
  ∀ table table' : TagLinkTable, (∀ row ∈ table.rows, ∃ id, s.rows id = some row.linkColumns) →
    table.rows.Perm table'.rows → ∀ state,
      (resolveCustomerScope table state).lagoCustomerExternalId =
        (resolveCustomerScope table' state).lagoCustomerExternalId

/-- One Lago customer per user, one user per Lago customer, and one scope. -/
def OneCustomer : Prop :=
  Pairs LinkColumns.SameLago s.rows ∧ Pairs LinkColumns.SameUser s.rows ∧ s.ScopeIsStable

/-- What a transaction commits gives no user another Lago customer than the rows beside it, and no
Lago customer another user than the rows that were committed since it was written. -/
def CommitsOneCustomer : MappingTxnAction → Prop
  | .commits t => ∀ id, ∀ row ∈ s.own t id, ∀ other, other ≠ id →
      (∀ columns ∈ s.visible t other, row.content.SameLago columns) ∧
        (s.own t other = none → ∀ committed ∈ s.committed other, row.stamp < committed.stamp →
          row.content.SameUser committed.content)
  | _ => True

section

variable {s} {s' : MappingTransactions} {a : MappingTxnAction}

/-! ## Scopes -/

/-- Lists of one value at most, in any order, lead to the same choice. -/
lemma find?_eq_of_perm {l l' : List String} {p : String → Bool} (hperm : l.Perm l')
    (hall : ∀ x ∈ l, ∀ y ∈ l, x = y) : l.find? p = l'.find? p := by
  cases hfound : l.find? p with
  | none =>
      have hnone := List.find?_eq_none.mp hfound
      exact (List.find?_eq_none.mpr fun x hx => hnone x (hperm.mem_iff.mpr hx)).symm
  | some x =>
      have hx := List.mem_of_find?_eq_some hfound
      have hsome : (l'.find? p).isSome :=
        List.find?_isSome.mpr ⟨x, hperm.mem_iff.mp hx, List.find?_some hfound⟩
      obtain ⟨y, hy⟩ := Option.isSome_iff_exists.mp hsome
      have hmem := hperm.mem_iff.mpr (List.mem_of_find?_eq_some hy)
      rw [hy, hall x hx y hmem]

lemma scopeIsStable_of_sameLago (h : Pairs LinkColumns.SameLago s.rows) : s.ScopeIsStable := by
  intro table table' hrows hperm state
  unfold resolveCustomerScope
  split
  · rfl
  · next userId _ =>
      split
      · rfl
      · dsimp only
        refine find?_eq_of_perm ((hperm.filter _).filterMap _) ?_
        intro lagoId hlagoId lagoId' hlagoId'
        obtain ⟨row, hrow, hlago⟩ := List.mem_filterMap.mp hlagoId
        obtain ⟨row', hrow', hlago'⟩ := List.mem_filterMap.mp hlagoId'
        obtain ⟨hmem, huser⟩ := List.mem_filter.mp hrow
        obtain ⟨hmem', huser'⟩ := List.mem_filter.mp hrow'
        obtain ⟨id, hid⟩ := hrows row hmem
        obtain ⟨id', hid'⟩ := hrows row' hmem'
        have hsame : row'.linkColumns.SameLago row.linkColumns := by
          by_cases heq : id' = id
          · rw [heq, hid, Option.some.injEq] at hid'
            rw [hid']
            exact .refl _
          · exact h id' id heq _ hid' _ hid
        exact hsame userId (of_decide_eq_true huser') (of_decide_eq_true huser) lagoId' hlago'
          lagoId hlago

lemma oneCustomer_iff : s.OneCustomer ↔
    Pairs LinkColumns.SameLago s.rows ∧ Pairs LinkColumns.SameUser s.rows :=
  and_congr_right fun h => and_iff_left (scopeIsStable_of_sameLago h)

/-! ## Steps -/

lemma checked_step (h : Checked LinkColumns.SameUser s) (hstep : s.step a = some s') :
    Checked LinkColumns.SameUser s' := by
  cases a with
  | inserts t columns =>
      rw [← Option.some.inj hstep]
      split
      · next hsees =>
          have hfree : s.IsFree t s.next := by
            intro p hp
            rw [(h.lt s.next (Nat.le_refl _)).2] at hp
            exact absurd hp (Option.some_ne_none _).symm
          exact h.put (fun _ _ => LinkColumns.SameUser.symm) hfree hsees (Nat.lt_succ_self _)
            (Nat.le_succ _)
      · exact h.rollback t
  | updates t id columns =>
      rw [step] at hstep
      split_ifs at hstep with hrow hsees
      · have hlt : id < s.next := by
          by_contra hge
          obtain ⟨hcommitted, hwritten⟩ := h.lt id (Nat.le_of_not_lt hge)
          have hnone : s.visible t id = none := by
            rw [visible, own, rows, hcommitted, hwritten]
            rfl
          rw [hnone] at hrow
          exact absurd hrow.1 (by decide)
        rw [← Option.some.inj hstep]
        exact h.put (fun _ _ => LinkColumns.SameUser.symm) hrow.2 hsees hlt (Nat.le_refl _)
      · rw [← Option.some.inj hstep]
        exact h.rollback t
  | commits t =>
      rw [← Option.some.inj hstep]
      exact h.commit t
  | rollsBack t =>
      rw [← Option.some.inj hstep]
      exact h.rollback t

/-- Only a commit changes what is committed. -/
lemma rows_step (hstep : s.step a = some s') (hcommit : ∀ t, a ≠ .commits t) :
    s'.rows = s.rows := by
  cases a with
  | inserts t columns =>
      rw [← Option.some.inj hstep]
      split
      · rfl
      · rfl
  | updates t id columns =>
      rw [step] at hstep
      split_ifs at hstep
      all_goals
        rw [← Option.some.inj hstep]
        rfl
  | commits t => exact absurd rfl (hcommit t)
  | rollsBack t =>
      rw [← Option.some.inj hstep]
      rfl

/-- The condition on a step is exactly what keeps one Lago customer per user. -/
lemma commitsOneCustomer_iff (hchecked : Checked LinkColumns.SameUser s) (h : s.OneCustomer)
    (hstep : s.step a = some s') : s.CommitsOneCustomer a ↔ s'.OneCustomer := by
  obtain ⟨hlago, huser⟩ := oneCustomer_iff.mp h
  by_cases hcommit : ∃ t, a = .commits t
  · obtain ⟨t, ha⟩ := hcommit
    rw [ha] at hstep ⊢
    rw [← Option.some.inj hstep, oneCustomer_iff,
      pairs_commit (fun _ _ => LinkColumns.SameLago.symm) hlago,
      pairs_commit (fun _ _ => LinkColumns.SameUser.symm) huser, hchecked.own_iff]
    constructor
    · intro hall
      exact ⟨fun id row hrow other hne => (hall id row hrow other hne).1,
        fun id row hrow other hne => (hall id row hrow other hne).2⟩
    · rintro ⟨hall, hall'⟩ id row hrow other hne
      exact ⟨hall id row hrow other hne, hall' id row hrow other hne⟩
  · have hnot : ∀ t, a ≠ .commits t := fun t ha => hcommit ⟨t, ha⟩
    have htrue : s.CommitsOneCustomer a := by
      cases a with
      | commits t => exact absurd rfl (hnot t)
      | inserts t columns => trivial
      | updates t id columns => trivial
      | rollsBack t => trivial
    refine iff_of_true htrue (oneCustomer_iff.mpr ?_)
    rw [rows_step hstep hnot]
    exact ⟨hlago, huser⟩

end

end MappingTransactions

open MappingTransactions

/-- **One Lago customer per user**, in every state of a run, exactly when every commit finds it so
for the users of its rows, and for the Lago customers of rows that were committed meanwhile. -/
theorem oneCustomer_iff_commits (as : List MappingTxnAction) :
    Always MappingTransactions.step OneCustomer .empty as ↔
      Meets MappingTransactions.step CommitsOneCustomer .empty as := by
  have hempty : OneCustomer .empty := by
    refine oneCustomer_iff.mpr ⟨?_, ?_⟩
    · exact fun _ _ _ _ ha => absurd ha (Option.some_ne_none _).symm
    · exact fun _ _ _ _ ha => absurd ha (Option.some_ne_none _).symm
  have hiff : Meets MappingTransactions.step CommitsOneCustomer .empty as ↔
      EachStep MappingTransactions.step (fun _ _ s' => OneCustomer s') .empty as :=
        meets_iff_eachStep
    (I := fun s => Checked LinkColumns.SameUser s ∧ OneCustomer s) (A := fun _ _ => True)
    (fun s a s' h _ hcommits hstep =>
      ⟨checked_step h.1 hstep, (commitsOneCustomer_iff h.1 h.2 hstep).mp hcommits⟩)
    (fun s a s' h _ hstep => commitsOneCustomer_iff h.1 h.2 hstep) ⟨checked_empty, hempty⟩
    (meets_of_forall fun _ _ => trivial)
  rw [hiff, Always, and_iff_right hempty]

/-- Two rows of one user with different Lago customers are inserted, one after the other. -/
def twoLagoCustomers : List MappingTxnAction :=
  [.inserts 0 ⟨some "usr_1", some "cust_1"⟩, .commits 0,
    .inserts 1 ⟨some "usr_1", some "cust_2"⟩, .commits 1]

theorem not_oneCustomer_twoLagoCustomers :
    ¬Always MappingTransactions.step OneCustomer .empty twoLagoCustomers := by
  intro halways
  obtain ⟨s, hrun, hfirst, hsecond⟩ :
    ∃ s, run MappingTransactions.step .empty twoLagoCustomers = some s ∧
      s.rows 0 = some ⟨some "usr_1", some "cust_1"⟩ ∧
        s.rows 1 = some ⟨some "usr_1", some "cust_2"⟩ :=
    ⟨_, rfl, rfl, rfl⟩
  obtain ⟨hlago, -⟩ := halways.of_run hrun
  have heq : "cust_2" = "cust_1" :=
    hlago 0 1 (by decide) _ hfirst _ hsecond "usr_1" rfl rfl "cust_1" rfl "cust_2" rfl
  exact absurd heq (by decide)

end ExpresSync
