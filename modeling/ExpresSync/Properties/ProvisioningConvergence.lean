import ExpresSync.Properties.ProvisioningSteps

/-!
# Two calls for one Lago customer come to one account

Every run of two calls ends, and in the state in which it ends both have returned one account,
unless one of them has collided with the other's `INSERT`.
-/

namespace ExpresSync

variable {lower : String → String}

/-! ## Every run ends -/

namespace ProvisioningRace

variable {lagoId : String} {fetched : Except String LagoCustomer} {db : AccountDatabase lower}
  {s s' : ProvisioningRace lower} {i : Bool}

/-- The number of steps that a call has before it, at most. -/
def rank : ProvisionPoint → ℕ
  | .directLookup => 10
  | .siblingLookup => 9
  | .siblingAccount _ => 8
  | .fetch => 7
  | .emailLookup _ _ => 6
  | .conflictLookup _ _ | .insert _ _ => 5
  | .backfill _ | .retryDirect _ => 4
  | .retryEmail _ => 3
  | .retryConflict _ _ => 2
  | .ended _ => 1
  | .closed _ => 0

lemma LooksUp.rank_lt {point point' : ProvisionPoint} (h : LooksUp lagoId fetched db point point') :
    rank point' < rank point := by
  cases h <;> simp [rank]

lemma rank_retry {point : ProvisionPoint} (h : IsRetry point) :
    rank (lookUp lagoId fetched db point) < rank point := by
  cases point with
  | retryDirect email =>
      simp only [lookUp]
      split <;> simp [rank]
  | retryEmail email =>
      simp only [lookUp]
      split
      · simp [rank]
      · split <;> simp [rank]
  | retryConflict email retried =>
      simp only [lookUp]
      split <;> simp [rank]
  | _ => exact h.elim

lemma rank_statement {call call' : ProvisionCall} {otherWrote : Bool}
    (hended : ∀ outcome, call.point ≠ .ended outcome)
    (hclosed : ∀ outcome, call.point ≠ .closed outcome)
    (h : statement lagoId fetched db otherWrote call = some call') :
    rank call'.point < rank call.point := by
  simp only [statement] at h
  split at h
  · next existing hpoint =>
    rw [hpoint]
    split at h
    · obtain rfl := Option.some.inj h
      simp [rank]
    · split at h
      · cases h
      · split at h
        · obtain rfl := Option.some.inj h
          simp [rank]
        · obtain rfl := Option.some.inj h
          simp [rank]
  · next email customer hpoint =>
    rw [hpoint]
    split at h
    · cases h
    · split at h
      · obtain rfl := Option.some.inj h
        simp [rank]
      · obtain rfl := Option.some.inj h
        simp [rank]
  · next hbackfill hinsert =>
    have hcases : IsLookUp call.point ∨ IsRetry call.point := by
      cases hpoint : call.point with
      | backfill existing => exact absurd hpoint (hbackfill existing)
      | insert email customer => exact absurd hpoint (hinsert email customer)
      | ended outcome => exact absurd hpoint (hended outcome)
      | closed outcome => exact absurd hpoint (hclosed outcome)
      | retryDirect | retryEmail | retryConflict => exact Or.inr trivial
      | _ => exact Or.inl trivial
    split at h
    · obtain rfl := Option.some.inj h
      rcases hcases with hlooks | hretry
      · cases hpoint : call.point <;> simp_all [IsLookUp, rank]
      · cases hpoint : call.point <;> simp_all [IsRetry, rank]
    · obtain rfl := Option.some.inj h
      exact hcases.elim (fun hlooks => (looksUp_lookUp hlooks).rank_lt) rank_retry

/-- The steps that the two calls have before them, at most. -/
def stepsLeft (s : ProvisioningRace lower) : ℕ :=
  rank (s.calls true).point + rank (s.calls false).point

lemma stepsLeft_step (h : s.step lagoId fetched i = some s') : s'.stepsLeft < s.stepsLeft := by
  have hsum : ∀ t : ProvisioningRace lower,
      t.stepsLeft = rank (t.calls i).point + rank (t.calls !i).point := by
    intro t
    cases i
    · exact Nat.add_comm _ _
    · rfl
  rw [hsum, hsum]
  rcases step_cases h with ⟨failure, hpoint, rfl⟩ | ⟨result, hpoint, -, rfl⟩ |
    ⟨result, write, db', hpoint, -, -, rfl⟩ | ⟨hended, hclosed, call', hcall', rfl⟩
  · simp [hpoint, rank]
  · simp [hpoint, rank]
  · simp [hpoint, rank]
  · simpa using rank_statement hended hclosed hcall'

/-- Two calls are over after twenty steps. -/
theorem length_le_of_run {schedule : List Bool} {t : ProvisioningRace lower}
    (hrun : Transition.run (step lagoId fetched) (start db) schedule = some t) :
    schedule.length ≤ 20 := by
  have hlength : ∀ (schedule : List Bool) (s : ProvisioningRace lower),
      Transition.run (step lagoId fetched) s schedule = some t →
        schedule.length + t.stepsLeft ≤ s.stepsLeft := by
    intro schedule
    induction schedule with
    | nil =>
        intro s h
        obtain rfl : s = t := by simpa using h
        simp
    | cons i schedule ih =>
        intro s h
        obtain ⟨mid, hmid, hrest⟩ := Transition.run_cons_eq_some.mp h
        have hlt := stepsLeft_step hmid
        have hle := ih mid hrest
        rw [List.length_cons]
        omega
  have hle := hlength schedule (start db) hrun
  have hstart : (start db).stepsLeft = 20 := rfl
  omega

end ProvisioningRace

/-! ## Convergence -/

/-- The call is not one that the provisioner refuses: an account has the link, or a mapping of the
customer, or Lago has the customer, without an e-mail address or with one that is well formed and
that no admin and no account of another customer has. -/
def AccountDatabase.Accepts (db : AccountDatabase lower) (lagoId : String)
    (fetched : Except String LagoCustomer) : Prop :=
  db.directLinked lagoId ≠ none ∨ db.siblingAccount lagoId ≠ none ∨
    ∃ customer, fetched = .ok customer ∧ ∀ email, trimmed customer.email = some email →
      isMalformedEmail email = false ∧
        ∀ user, db.findExistingUserByEmail lower email = some user → user.role ≠ .admin ∧
          truthy (db.findConflictingLagoLink user.id lagoId) = false

/-- Both calls have returned one account; it is there, and no other account is new, or linked to the
customer. -/
def ProvisioningRace.Converged (db : AccountDatabase lower) (lagoId : String)
    (s : ProvisioningRace lower) : Prop :=
  ∃ id, (∀ i, ∃ result, (s.calls i).point = .closed (.ok result) ∧ result.userId = id) ∧
    s.db.HasUser id ∧ ∀ user ∈ s.db.users.rows, user.id = id ∨
      user ∈ db.users.rows ∧ user.lagoCustomerExternalId ≠ some lagoId

namespace ProvisioningRace

variable {lagoId : String} {fetched : Except String LagoCustomer} {db : AccountDatabase lower}
  {s : ProvisioningRace lower}

/-- A call that is accepted, and no other, comes to an account. -/
theorem accepts_iff : db.Accepts lagoId fetched ↔
    ∃ id, fateAt lagoId fetched db .directLookup = .account id := by
  cases hdirect : db.directLinked lagoId with
  | some user =>
      refine iff_of_true (Or.inl (by simp [hdirect])) ⟨user.id, ?_⟩
      simp only [fateAt, fateOfDirect, hdirect]
  | none =>
      have hbackfill : ∀ userId, fateOfBackfill lagoId db userId = .account userId := fun userId =>
        if_pos (AccountTables.sound_backfillLink db.sound hdirect)
      simp only [AccountDatabase.Accepts, hdirect, fateAt, fateOfDirect, fateOfSibling]
      cases hsibling : db.findExistingUserViaSibling lagoId with
      | some userId =>
          have hsome : db.siblingAccount lagoId ≠ none := by
            rw [ne_eq, AccountTables.siblingAccount_eq_none db.sound, hsibling]
            exact Option.some_ne_none userId
          obtain ⟨user, hmem, hid⟩ := AccountTables.hasUser_of_sibling db.sound hsibling
          refine iff_of_true (Or.inr (Or.inl hsome)) ⟨user.id, ?_⟩
          simp only [fateOfAccount, AccountTables.userById_eq_some.mpr ⟨hmem, hid⟩, hbackfill]
      | none =>
          have hnone := (AccountTables.siblingAccount_eq_none db.sound).mpr hsibling
          simp only [hnone, ne_eq, not_true_eq_false, false_or]
          constructor
          · rintro ⟨customer, rfl, hemail⟩
            have hinsert : ∀ email, trimmed customer.email = email →
                (∀ e, email = some e → db.findExistingUserByEmail lower e = none) →
                  fateOfInsert lagoId db email customer = .account db.users.next :=
              fun email _ hfree => if_pos ((AccountTables.sound_insertUser db.sound).mpr
                ⟨hdirect, hfree⟩)
            simp only [fateOfFetch]
            cases htrimmed : trimmed customer.email with
            | none => exact ⟨_, hinsert none htrimmed (by simp)⟩
            | some email =>
                obtain ⟨hvalid, huser⟩ := hemail email htrimmed
                simp only [hvalid, Bool.false_eq_true, if_false, fateOfEmail]
                cases hfound : db.findExistingUserByEmail lower email with
                | none => exact ⟨_, hinsert (some email) htrimmed (by simpa using hfound)⟩
                | some user =>
                    obtain ⟨hrole, hconflict⟩ := huser user hfound
                    refine ⟨user.id, ?_⟩
                    simp only [hrole, hconflict, if_false, fateOfConflict, hbackfill,
                      Bool.false_eq_true]
          · rintro ⟨id, hid⟩
            cases fetched with
            | error msg => cases hid
            | ok customer =>
                refine ⟨customer, rfl, fun email htrimmed => ?_⟩
                simp only [fateOfFetch, htrimmed] at hid
                split at hid
                · cases hid
                · next hvalid =>
                  refine ⟨by simpa using hvalid, fun user hfound => ?_⟩
                  simp only [fateOfEmail, hfound] at hid
                  split at hid
                  · cases hid
                  · next hrole =>
                    refine ⟨hrole, ?_⟩
                    simp only [fateOfConflict] at hid
                    split at hid
                    · cases hid
                    · next hconflict => simpa using hconflict

lemma raceSound_start (after : AccountDatabase lower) {id : ℕ}
    (hfate : fateAt lagoId fetched db .directLookup = .account id) :
    RaceSound db after lagoId fetched id (start db) := by
  refine ⟨Or.inl rfl, fun i => ⟨Or.inl ?_, trivial, ?_, ?_, fun hreturns => hreturns.elim⟩, ?_⟩
  · exact hfate
  · exact iff_of_false Bool.false_ne_true not_false
  · rintro write ⟨⟩
  · rintro i ⟨⟩

/-- Calls that are refused never return both. -/
lemma not_converged_of_refused {schedule : List Bool}
    (hfate : ∀ id, fateAt lagoId fetched db .directLookup ≠ .account id)
    (hrun : Transition.run (step lagoId fetched) (start db) schedule = some s) :
    ¬s.Converged db lagoId := by
  have hstart : RaceRefused lagoId fetched db (start db) :=
    ⟨rfl, fun i => ⟨hfate, rfl, fun h => absurd h Bool.false_ne_true, fun h => h.elim⟩⟩
  have hs : RaceRefused lagoId fetched db s :=
    Transition.Meets.invariant (C := fun _ _ => True)
      (fun _ _ _ hs _ hstep => raceRefused_step hs hstep) hstart
      (Transition.meets_of_forall fun _ _ => trivial) hrun
  rintro ⟨id, hclosed, -⟩
  obtain ⟨result, hpoint, -⟩ := hclosed true
  have hcall := hs.2 true
  have haborted : (s.calls true).aborted = false := Bool.eq_false_iff.mpr fun haborted => by
    have hfails := hcall.aborted haborted
    rw [hpoint] at hfails
    exact hfails
  refine hcall.fate result.userId ?_
  rw [ProvisioningRace.fate, haborted, hpoint]
  rfl

end ProvisioningRace

/-- Two calls for one Lago customer that have run until neither can go on come to one account
exactly when the call is one that the provisioner accepts, and no `INSERT` of one has come after
the commit of the other. -/
theorem concurrent_provisioning_converges_iff (db : AccountDatabase lower) (lagoId : String)
    (fetched : Except String LagoCustomer) (schedule : List Bool) (s : ProvisioningRace lower)
    (hrun : Transition.run (ProvisioningRace.step lagoId fetched) (.start db) schedule = some s)
    (hstuck : ∀ i, s.step lagoId fetched i = none) :
    s.Converged db lagoId ↔ db.Accepts lagoId fetched ∧
      Transition.Meets (ProvisioningRace.step lagoId fetched) (ProvisioningRace.InsertsFirst lagoId)
        (.start db) schedule := by
  have hagrees := ProvisioningRace.agrees_resolve lagoId fetched db
  cases hresolve : db.resolveOrCreateCustomerAccount lagoId fetched with
  | error failure =>
      rw [hresolve] at hagrees
      refine iff_of_false (ProvisioningRace.not_converged_of_refused hagrees hrun) fun h => ?_
      obtain ⟨id, hid⟩ := ProvisioningRace.accepts_iff.mp h.1
      exact hagrees id hid
  | ok resolved =>
      obtain ⟨after, result⟩ := resolved
      rw [hresolve] at hagrees
      have heffect := CallEffect.of_resolve hresolve
      have hstart := ProvisioningRace.raceSound_start after hagrees
      have hs := ProvisioningRace.raceSound_run heffect hstart hrun
      constructor
      · rintro ⟨id, hclosed, -⟩
        refine ⟨ProvisioningRace.accepts_iff.mpr ⟨_, hagrees⟩,
          ProvisioningRace.insertsFirst_of_not_aborted hrun fun i => ?_⟩
        obtain ⟨result', hpoint, -⟩ := hclosed i
        refine Bool.eq_false_iff.mpr fun haborted => ?_
        have hfails := (hs.call i).aborted.mp haborted
        rw [hpoint] at hfails
        exact hfails
      · rintro ⟨-, hfirst⟩
        have hnone := ProvisioningRace.not_aborted_run heffect hstart (fun _ => rfl) hfirst hrun
        have hreturned : ∀ i, ∃ result', (s.calls i).point = .closed (.ok result') ∧
            result'.userId = result.userId ∧ s.db = after := by
          intro i
          obtain ⟨outcome, hpoint⟩ := ProvisioningRace.closed_of_stuck hs hstuck i
          have hfate := (hs.call i).fate
          rw [ProvisioningRace.fate, hnone i, hpoint] at hfate
          cases outcome with
          | error failure => simp [ProvisioningRace.fateAt] at hfate
          | ok result' =>
              refine ⟨result', hpoint, by simpa [ProvisioningRace.fateAt] using hfate, ?_⟩
              refine ((hs.call i).returns (by rw [hpoint]; trivial)).resolve_left fun hwrote => ?_
              obtain ⟨write, hwrite⟩ := Option.isSome_iff_exists.mp hwrote
              obtain ⟨-, -, result'', hended⟩ := (hs.call i).pending write hwrite
              rw [hpoint] at hended
              cases hended
        obtain ⟨-, -, -, hdb⟩ := hreturned true
        refine ⟨result.userId, fun i => ?_, ?_, ?_⟩
        · obtain ⟨result', hpoint, hid, -⟩ := hreturned i
          exact ⟨result', hpoint, hid⟩
        · rw [hdb]
          exact heffect.account
        · rw [hdb]
          exact heffect.others

/-- One call, and then another, for a customer that is new. -/
theorem provisioning_in_turn_converges :
    ∃ s : ProvisioningRace String.toLower,
      s.Converged ⟨⟨.empty, .empty⟩, by decide⟩ "cust_a" := by
  let db : AccountDatabase String.toLower := ⟨⟨.empty, .empty⟩, by decide⟩
  let customer : LagoCustomer := ⟨some "eve@example.com", some "Eve", none, none⟩
  let schedule := [true, true, true, true, true, true, false, false]
  have hall : (Transition.run (ProvisioningRace.step "cust_a" (.ok customer)) (.start db)
      schedule).any (fun s => (s.step "cust_a" (.ok customer) true).isNone &&
        (s.step "cust_a" (.ok customer) false).isNone) = true := by
    decide +kernel
  obtain ⟨s, hs, hstuck⟩ := (Option.any_eq_true _ _).mp hall
  simp only [Bool.and_eq_true, Option.isNone_iff_eq_none] at hstuck
  refine ⟨s, (concurrent_provisioning_converges_iff db "cust_a" (.ok customer) schedule s hs
    (Bool.forall_bool.mpr ⟨hstuck.2, hstuck.1⟩)).mpr ⟨?_, by decide +kernel⟩⟩
  refine Or.inr (Or.inr ⟨customer, rfl, fun email hemail => ⟨?_, fun user huser => ?_⟩⟩)
  · obtain rfl : "eve@example.com" = email := by
      have htrimmed : trimmed customer.email = some "eve@example.com" := by decide +kernel
      exact Option.some.inj (htrimmed.symm.trans hemail)
    decide +kernel
  · cases huser

/-- Two calls for a customer that is new, each of which looks for the account before the other has
inserted it: the one that inserts second fails. -/
theorem late_insert_fails :
    ¬∀ (db : AccountDatabase String.toLower) (lagoId : String)
      (fetched : Except String LagoCustomer)
      (schedule : List Bool) (s : ProvisioningRace String.toLower),
      Transition.run (ProvisioningRace.step lagoId fetched) (.start db) schedule = some s →
        (∀ i, s.step lagoId fetched i = none) → s.Converged db lagoId := by
  intro h
  let db : AccountDatabase String.toLower := ⟨⟨.empty, .empty⟩, by decide⟩
  let fetched : Except String LagoCustomer := .ok ⟨some "eve@example.com", some "Eve", none, none⟩
  let schedule :=
    [true, true, true, true, false, false, false, false, true, true, false, false, false]
  have hall : (Transition.run (ProvisioningRace.step "cust_a" fetched) (.start db) schedule).any
      (fun s => (s.step "cust_a" fetched true).isNone && (s.step "cust_a" fetched false).isNone &&
        decide (ProvisioningRace.Fails (s.calls false).point)) = true := by
    decide +kernel
  obtain ⟨s, hs, hend⟩ := (Option.any_eq_true _ _).mp hall
  simp only [Bool.and_eq_true, Option.isNone_iff_eq_none, decide_eq_true_eq] at hend
  obtain ⟨hstuck, hfails⟩ := hend
  obtain ⟨id, hclosed, -⟩ := h db "cust_a" fetched schedule s hs
    (Bool.forall_bool.mpr ⟨hstuck.2, hstuck.1⟩)
  obtain ⟨result, hpoint, -⟩ := hclosed false
  rw [hpoint] at hfails
  exact hfails

end ExpresSync
