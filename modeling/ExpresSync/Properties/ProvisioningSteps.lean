import ExpresSync.Properties.ProvisioningFates

/-!
# The steps of two provisioning calls

No statement of a call changes its fate.  A call that collides ends in an error, because the
look-ups of the recovery fail in the aborted transaction.
-/

namespace ExpresSync

variable {lower : String → String}

namespace ProvisioningRace

variable {lagoId : String} {fetched : Except String LagoCustomer} {db after : AccountDatabase lower}

/-! ### One look-up -/

/-- The call has failed, or is in the recovery. -/
def Fails : ProvisionPoint → Prop
  | .retryDirect _ | .retryEmail _ | .retryConflict _ _ => True
  | .ended (.error _) | .closed (.error _) => True
  | _ => False

instance : DecidablePred Fails := fun point => by
  unfold Fails
  split <;> infer_instance

/-- The call has an account. -/
def Returns : ProvisionPoint → Prop
  | .ended (.ok _) | .closed (.ok _) => True
  | _ => False

/-- The look-ups before the first write. -/
def IsLookUp : ProvisionPoint → Prop
  | .directLookup | .siblingLookup | .siblingAccount _ | .fetch => True
  | .emailLookup _ _ | .conflictLookup _ _ => True
  | _ => False

/-- The look-ups of the recovery. -/
def IsRetry : ProvisionPoint → Prop
  | .retryDirect _ | .retryEmail _ | .retryConflict _ _ => True
  | _ => False

/-- What a look-up leads to. -/
inductive LooksUp (lagoId : String) (fetched : Except String LagoCustomer)
    (db : AccountDatabase lower) : ProvisionPoint → ProvisionPoint → Prop where
  | linked {user} (h : db.directLinked lagoId = some user) :
      LooksUp lagoId fetched db .directLookup (.ended (.ok user.reusedResult))
  | notLinked (h : db.directLinked lagoId = none) :
      LooksUp lagoId fetched db .directLookup .siblingLookup
  | sibling {userId} (h : db.findExistingUserViaSibling lagoId = some userId) :
      LooksUp lagoId fetched db .siblingLookup (.siblingAccount userId)
  | noSibling (h : db.findExistingUserViaSibling lagoId = none) :
      LooksUp lagoId fetched db .siblingLookup .fetch
  | account {userId user} (h : db.userById userId = some user) :
      LooksUp lagoId fetched db (.siblingAccount userId) (.backfill user)
  | noAccount {userId} (h : db.userById userId = none) :
      LooksUp lagoId fetched db (.siblingAccount userId) .fetch
  | fetchFails {msg} (h : fetched = .error msg) :
      LooksUp lagoId fetched db .fetch (.ended (.error (classifyLagoFetchError msg)))
  | noEmail {customer} (h : fetched = .ok customer) (hemail : trimmed customer.email = none) :
      LooksUp lagoId fetched db .fetch (.insert none customer)
  | malformed {customer email} (h : fetched = .ok customer)
      (hemail : trimmed customer.email = some email) (hmalformed : isMalformedEmail email = true) :
      LooksUp lagoId fetched db .fetch (.ended (.error (malformedEmailError email)))
  | hasEmail {customer email} (h : fetched = .ok customer)
      (hemail : trimmed customer.email = some email) (hvalid : isMalformedEmail email = false) :
      LooksUp lagoId fetched db .fetch (.emailLookup email customer)
  | newEmail {email customer} (h : db.findExistingUserByEmail lower email = none) :
      LooksUp lagoId fetched db (.emailLookup email customer) (.insert (some email) customer)
  | adminEmail {email customer existing}
      (h : db.findExistingUserByEmail lower email = some existing)
      (hrole : existing.role = .admin) :
      LooksUp lagoId fetched db (.emailLookup email customer) (.ended (.error adminEmailError))
  | knownEmail {email customer existing}
      (h : db.findExistingUserByEmail lower email = some existing)
      (hrole : existing.role ≠ .admin) :
      LooksUp lagoId fetched db (.emailLookup email customer) (.conflictLookup email existing)
  | conflict {email existing failure}
      (h : truthy (db.findConflictingLagoLink existing.id lagoId) = true) :
      LooksUp lagoId fetched db (.conflictLookup email existing) (.ended (.error failure))
  | noConflict {email existing}
      (h : truthy (db.findConflictingLagoLink existing.id lagoId) = false) :
      LooksUp lagoId fetched db (.conflictLookup email existing) (.backfill existing)

lemma looksUp_lookUp {point : ProvisionPoint} (h : IsLookUp point) :
    LooksUp lagoId fetched db point (lookUp lagoId fetched db point) := by
  cases point with
  | directLookup =>
      simp only [lookUp]
      split
      · next hdirect => exact .linked hdirect
      · next hdirect => exact .notLinked hdirect
  | siblingLookup =>
      simp only [lookUp]
      split
      · next hsibling => exact .sibling hsibling
      · next hsibling => exact .noSibling hsibling
  | siblingAccount userId =>
      simp only [lookUp]
      split
      · next huser => exact .account huser
      · next huser => exact .noAccount huser
  | fetch =>
      simp only [lookUp]
      split
      · exact .fetchFails rfl
      · split
        · next hemail => exact .noEmail rfl hemail
        · next hemail =>
          split
          · next hmalformed => exact .malformed rfl hemail hmalformed
          · next hvalid => exact .hasEmail rfl hemail (by simpa using hvalid)
  | emailLookup email customer =>
      simp only [lookUp]
      split
      · next huser => exact .newEmail huser
      · next huser =>
        split
        · next hrole => exact .adminEmail huser hrole
        · next hrole => exact .knownEmail huser hrole
  | conflictLookup email existing =>
      simp only [lookUp]
      split
      · next hconflict => exact .conflict hconflict
      · next hconflict => exact .noConflict (by simpa using hconflict)
  | _ => exact h.elim

namespace LooksUp

variable {point point' : ProvisionPoint} (h : LooksUp lagoId fetched db point point')

include h

/-- A look-up leads to where the call was going. -/
lemma fateAt_eq : fateAt lagoId fetched db point' = fateAt lagoId fetched db point := by
  cases h with
  | linked h => simp [fateAt, fateOfDirect, h, User.reusedResult]
  | notLinked h => simp [fateAt, fateOfDirect, h]
  | sibling h => simp [fateAt, fateOfSibling, h]
  | noSibling h => simp [fateAt, fateOfSibling, h]
  | account h => simp [fateAt, fateOfAccount, h]
  | noAccount h => simp [fateAt, fateOfAccount, h]
  | fetchFails h => simp [fateAt, fateOfFetch, h]
  | noEmail h hemail => simp [fateAt, fateOfFetch, h, hemail]
  | malformed h hemail hmalformed => simp [fateAt, fateOfFetch, h, hemail, hmalformed]
  | hasEmail h hemail hvalid => simp [fateAt, fateOfFetch, h, hemail, hvalid]
  | newEmail h => simp [fateAt, fateOfEmail, h]
  | adminEmail h hrole => simp [fateAt, fateOfEmail, h, hrole]
  | knownEmail h hrole => simp [fateAt, fateOfEmail, h, hrole]
  | conflict h => simp [fateAt, fateOfConflict, h]
  | noConflict h => simp [fateAt, fateOfConflict, h]

lemma pointSound (hpoint : PointSound lagoId fetched db.toAccountTables point) :
    PointSound lagoId fetched db.toAccountTables point' := by
  cases h with
  | sibling h => exact h
  | account h => exact ⟨_, (AccountTables.userById_eq_some.mp h).1, rfl⟩
  | noEmail h hemail => exact ⟨h, hemail⟩
  | hasEmail h hemail => exact ⟨h, hemail⟩
  | newEmail h => exact hpoint
  | knownEmail h => exact ⟨_, (AccountTables.of_findExistingUserByEmail h).1, rfl⟩
  | noConflict h => exact hpoint
  | _ => trivial

/-- A look-up that gives an account finds the link. -/
lemma of_returns (hreturns : Returns point') : ∃ user, db.directLinked lagoId = some user ∧
    fateAt lagoId fetched db point = .account user.id := by
  cases h with
  | linked h => exact ⟨_, h, by simp [fateAt, fateOfDirect, h]⟩
  | _ => exact hreturns.elim

lemma not_isRetry : ¬IsRetry point' := by
  cases h <;> exact not_false

lemma of_fails (hfails : Fails point') : fateAt lagoId fetched db point' = .refused := by
  cases h with
  | fetchFails | malformed | adminEmail | conflict => rfl
  | _ => exact hfails.elim

end LooksUp

/-! ### One statement -/

/-- A call in a run that takes the database `db` to `after`, the account being `id`; what is
committed is `now`. -/
structure CallSound (db after : AccountDatabase lower) (lagoId : String)
    (fetched : Except String LagoCustomer) (id : ℕ) (now : AccountDatabase lower)
    (call : ProvisionCall) : Prop where
  fate : fate lagoId fetched now call = .account id ∨
    now = after ∧ ProvisioningRace.fate lagoId fetched now call = .collides
  point : PointSound lagoId fetched now.toAccountTables call.point
  aborted : call.aborted = true ↔ Fails call.point
  pending : ∀ write, call.pending = some write →
    now = db ∧ write.apply db.toAccountTables lagoId = after.toAccountTables ∧
      ∃ result, call.point = .ended (.ok result)
  returns : Returns call.point → call.pending.isSome ∨ now = after

section

variable {id : ℕ} {now : AccountDatabase lower} {call call' : ProvisionCall} {otherWrote : Bool}
  (h : CallEffect db after lagoId fetched id) (hnow : now = db ∨ now = after)
  (hcall : CallSound db after lagoId fetched id now call)

include hcall

/-- A call that has neither failed nor returned has its fate before it, and has written nothing. -/
lemma of_underway (hfails : ¬Fails call.point) (hreturns : ¬Returns call.point) :
    call.aborted = false ∧ call.pending = none ∧
      (fateAt lagoId fetched now call.point = .account id ∨
        now = after ∧ fateAt lagoId fetched now call.point = .collides) := by
  have haborted : call.aborted = false :=
    Bool.eq_false_iff.mpr fun haborted => hfails (hcall.aborted.mp haborted)
  refine ⟨haborted, ?_, ?_⟩
  · cases hpending : call.pending with
    | none => rfl
    | some write =>
        obtain ⟨-, -, result, hended⟩ := hcall.pending write hpending
        rw [hended] at hreturns
        exact absurd trivial hreturns
  · have hfate := hcall.fate
    simpa only [ProvisioningRace.fate, haborted, Bool.false_eq_true, if_false] using hfate

include h hnow

lemma callSound_backfill {existing : User} (hpoint : call.point = .backfill existing)
    (hstatement : statement lagoId fetched now otherWrote call = some call') :
    CallSound db after lagoId fetched id now call' ∧
      (call'.pending.isSome → otherWrote = false) := by
  obtain ⟨haborted, hpending, hfate⟩ := of_underway hcall
    (by rw [hpoint]; exact not_false) (by rw [hpoint]; exact not_false)
  have huser : now.HasUser existing.id := by
    have hsound := hcall.point
    rwa [hpoint] at hsound
  have hsound : (now.backfillLink existing.id lagoId).Sound lower ∧ existing.id = id := by
    rw [hpoint] at hfate
    simp only [fateAt, fateOfBackfill] at hfate
    split at hfate
    · next hsound => exact ⟨hsound, by simpa using hfate⟩
    · simp at hfate
  obtain ⟨hsound, rfl⟩ := hsound
  simp only [statement, hpoint] at hstatement
  split at hstatement
  · next hlinked =>
    obtain rfl := Option.some.inj hstatement
    refine ⟨⟨Or.inl ?_, trivial, ?_, ?_, fun _ => Or.inr ?_⟩, ?_⟩
    · simp [ProvisioningRace.fate, haborted, fateAt, User.reusedResult]
    · simp [haborted, Fails]
    · intro write hwrite
      simp [hpending] at hwrite
    · rcases hnow with rfl | rfl
      · exact (eq_of_linked h huser hlinked).symm
      · rfl
    · simp [hpending]
  · next hunlinked =>
    split at hstatement
    · cases hstatement
    · next hfree =>
      split at hstatement
      · obtain rfl := Option.some.inj hstatement
        have hdb : now = db := by
          rcases hnow with rfl | rfl
          · rfl
          · exact absurd (not_not.mp hunlinked) h.not_unlinked
        subst hdb
        refine ⟨⟨Or.inl ?_, trivial, ?_, ?_, fun _ => Or.inl rfl⟩, fun _ => by simpa using hfree⟩
        · simp [ProvisioningRace.fate, haborted, fateAt, User.reusedResult]
        · simp [haborted, Fails]
        · rintro write ⟨⟩
          refine ⟨rfl, ?_, _, rfl⟩
          rcases h.wrote with ⟨-, hafter⟩ | ⟨hnext, -⟩
          · exact hafter.symm
          · obtain ⟨user, hmem, hid⟩ := huser
            exact absurd (hid.trans hnext) (now.users.key_lt user hmem).ne
      · next hrefused => exact absurd hsound hrefused

lemma callSound_insert {email : Option String} {customer : LagoCustomer}
    (hpoint : call.point = .insert email customer)
    (hstatement : statement lagoId fetched now otherWrote call = some call') :
    CallSound db after lagoId fetched id now call' ∧
      (call'.pending.isSome → otherWrote = false) := by
  obtain ⟨haborted, hpending, hfate⟩ := of_underway hcall
    (by rw [hpoint]; exact not_false) (by rw [hpoint]; exact not_false)
  obtain ⟨hfetched, hemail⟩ : fetched = .ok customer ∧ trimmed customer.email = email := by
    have hsound := hcall.point
    rwa [hpoint] at hsound
  rw [hpoint] at hfate
  simp only [fateAt, fateOfInsert] at hfate
  simp only [statement, hpoint] at hstatement
  split at hstatement
  · cases hstatement
  · next hfree =>
    split at hstatement
    · next hsound =>
      obtain rfl := Option.some.inj hstatement
      have hnext : now.users.next = id := by
        simp only [AccountWrite.apply] at hsound
        simpa [hsound] using hfate
      have hdb : now = db := by
        rcases hnow with rfl | rfl
        · rfl
        · obtain ⟨user, hmem, hid⟩ := h.account
          exact absurd (hid.trans hnext.symm) (now.users.key_lt user hmem).ne
      subst hdb
      refine ⟨⟨Or.inl ?_, trivial, ?_, ?_, fun _ => Or.inl rfl⟩, fun _ => by simpa using hfree⟩
      · simp [ProvisioningRace.fate, haborted, fateAt, hnext]
      · simp [haborted, Fails]
      · rintro write ⟨⟩
        refine ⟨rfl, ?_, _, rfl⟩
        rcases h.wrote with ⟨⟨user, hmem, hid⟩, -⟩ | ⟨-, customer', hfetched', hafter⟩
        · exact absurd (hid.trans hnext.symm) (now.users.key_lt user hmem).ne
        · obtain rfl : customer = customer' := Except.ok.inj (hfetched.symm.trans hfetched')
          rw [hafter, hemail]
          rfl
    · next hsound =>
      obtain rfl := Option.some.inj hstatement
      have hafter : now = after := by
        simp only [AccountWrite.apply] at hsound
        simpa [hsound] using hfate
      refine ⟨⟨Or.inr ⟨hafter, by simp [ProvisioningRace.fate]⟩, trivial, ?_, ?_, ?_⟩, ?_⟩
      · simp [Fails]
      · intro write hwrite
        simp at hwrite
      · exact fun hreturns => hreturns.elim
      · simp

lemma callSound_lookUp (hpoint : IsLookUp call.point) :
    CallSound db after lagoId fetched id now
      { call with point := lookUp lagoId fetched now call.point } := by
  have hunder : ¬Fails call.point ∧ ¬Returns call.point := by
    revert hpoint
    cases call.point <;> simp [IsLookUp, Fails, Returns]
  obtain ⟨haborted, hpending, hfate⟩ := of_underway hcall hunder.1 hunder.2
  have hlooks : LooksUp lagoId fetched now call.point (lookUp lagoId fetched now call.point) :=
    looksUp_lookUp hpoint
  have hsame := hlooks.fateAt_eq
  refine ⟨?_, hlooks.pointSound hcall.point, ?_, ?_, fun hreturns => Or.inr ?_⟩
  · simpa only [ProvisioningRace.fate, haborted, hsame, Bool.false_eq_true, if_false] using hfate
  · simp only [haborted, Bool.false_eq_true, false_iff]
    intro hfails
    rw [← hsame, hlooks.of_fails hfails] at hfate
    simp at hfate
  · intro write hwrite
    simp [hpending] at hwrite
  · obtain ⟨user, huser, hfound⟩ := hlooks.of_returns hreturns
    obtain ⟨hmem, hlink⟩ := AccountTables.of_directLinked huser
    obtain rfl : user.id = id := by simpa [hfound] using hfate
    rcases hnow with rfl | rfl
    · refine (eq_of_linked h ⟨user, hmem, rfl⟩ ?_).symm
      rintro ⟨row, hrow, hid, hnone⟩
      rw [SerialTable.eq_of_key hrow hmem hid, hlink] at hnone
      cases hnone
    · rfl

omit h hnow in
/-- In an aborted transaction every statement fails. -/
lemma callSound_aborted {failure : ProvisionFailure} (haborted : call.aborted = true) :
    CallSound db after lagoId fetched id now { call with point := .ended (.error failure) } := by
  have hfate : ProvisioningRace.fate lagoId fetched now call = .collides := if_pos haborted
  refine ⟨Or.inr ⟨?_, if_pos haborted⟩, trivial, iff_of_true haborted trivial, ?_, ?_⟩
  · simpa [hfate] using hcall.fate
  · intro write hwrite
    obtain ⟨-, -, result, hended⟩ := hcall.pending write hwrite
    rw [hcall.aborted, hended] at haborted
    exact haborted.elim
  · exact fun hreturns => hreturns.elim

/-- A statement keeps what is known of its call. -/
theorem callSound_statement (hended : ∀ outcome, call.point ≠ .ended outcome)
    (hclosed : ∀ outcome, call.point ≠ .closed outcome)
    (hstatement : statement lagoId fetched now otherWrote call = some call') :
    CallSound db after lagoId fetched id now call' ∧
      (call'.pending.isSome → otherWrote = false) := by
  have hnone : call.pending = none := by
    cases hpending : call.pending with
    | none => rfl
    | some write =>
        obtain ⟨-, -, result, hresult⟩ := hcall.pending write hpending
        exact absurd hresult (hended _)
  have hfails : ∀ {failure}, call' = { call with point := .ended (.error failure) } →
      call.aborted = true → CallSound db after lagoId fetched id now call' ∧
        (call'.pending.isSome → otherWrote = false) := by
    rintro failure rfl haborted
    exact ⟨callSound_aborted hcall haborted, by simp [hnone]⟩
  have hlooks :
      IsLookUp call.point → call' = { call with point := lookUp lagoId fetched now call.point } →
      CallSound db after lagoId fetched id now call' ∧
        (call'.pending.isSome → otherWrote = false) := by
    rintro hpoint rfl
    exact ⟨callSound_lookUp h hnow hcall hpoint, by simp [hnone]⟩
  have hread : (IsLookUp call.point ∨ Fails call.point) →
      (if call.aborted then some { call with point := .ended (.error .database) }
        else some { call with point := lookUp lagoId fetched now call.point }) = some call' →
      CallSound db after lagoId fetched id now call' ∧
        (call'.pending.isSome → otherWrote = false) := by
    intro hpoint hread
    split at hread
    · next haborted => exact hfails (Option.some.inj hread).symm haborted
    · next haborted =>
      refine hlooks (hpoint.resolve_right fun hfail => ?_) (Option.some.inj hread).symm
      exact haborted (hcall.aborted.mpr hfail)
  cases hpoint : call.point with
  | backfill existing => exact callSound_backfill h hnow hcall hpoint hstatement
  | insert email customer => exact callSound_insert h hnow hcall hpoint hstatement
  | ended outcome => exact absurd hpoint (hended outcome)
  | closed outcome => exact absurd hpoint (hclosed outcome)
  | directLookup | siblingLookup | siblingAccount | fetch | emailLookup | conflictLookup =>
      refine hread (Or.inl (by rw [hpoint]; trivial)) ?_
      simpa only [statement, hpoint] using hstatement
  | retryDirect | retryEmail | retryConflict =>
      refine hread (Or.inr (by rw [hpoint]; trivial)) ?_
      simpa only [statement, hpoint] using hstatement

end

/-! ### Runs of two calls -/

variable {s s' : ProvisioningRace lower} {i : Bool}

@[simp] lemma setCall_db {call : ProvisionCall} : (s.setCall i call).db = s.db := rfl

@[simp] lemma setCall_self {call : ProvisionCall} : (s.setCall i call).calls i = call :=
  Function.update_self ..

@[simp] lemma setCall_other {call : ProvisionCall} : (s.setCall i call).calls (!i) = s.calls !i :=
  Function.update_of_ne (by simp) ..

lemma forall_call {P : Bool → Prop} (i : Bool) : (∀ j, P j) ↔ P i ∧ P !i := by
  constructor
  · exact fun h => ⟨h i, h !i⟩
  · rintro ⟨hself, hother⟩ j
    rcases Bool.eq_or_eq_not j i with rfl | rfl
    · exact hself
    · exact hother

/-- What a step does. -/
lemma step_cases (h : s.step lagoId fetched i = some s') :
    (∃ failure, (s.calls i).point = .ended (.error failure) ∧
        s' = s.setCall i ⟨.closed (.error failure), (s.calls i).aborted, none⟩) ∨
      (∃ result, (s.calls i).point = .ended (.ok result) ∧ (s.calls i).pending = none ∧
        s' = s.setCall i { s.calls i with point := .closed (.ok result) }) ∨
      (∃ result write db', (s.calls i).point = .ended (.ok result) ∧
        (s.calls i).pending = some write ∧ db'.toAccountTables = write.apply s.db.toAccountTables
          lagoId ∧
        s' = { s.setCall i ⟨.closed (.ok result), (s.calls i).aborted, none⟩ with db := db' }) ∨
      (∀ outcome, (s.calls i).point ≠ .ended outcome) ∧
        (∀ outcome, (s.calls i).point ≠ .closed outcome) ∧
        ∃ call', statement lagoId fetched s.db (s.calls !i).pending.isSome (s.calls i) =
          some call' ∧
          s' = s.setCall i call' := by
  simp only [step] at h
  split at h
  · cases h
  · next failure hpoint => exact Or.inl ⟨failure, hpoint, (Option.some.inj h).symm⟩
  · next result hpoint =>
    split at h
    · next hpending =>
      exact Or.inr (Or.inl ⟨result, hpoint, hpending, (Option.some.inj h).symm⟩)
    · next write hpending =>
      obtain ⟨db', hdb', rfl⟩ := Option.map_eq_some_iff.mp h
      exact Or.inr (Or.inr (Or.inl ⟨result, write, db', hpoint, hpending,
        (AccountTables.checked_eq_some.mp hdb').2, rfl⟩))
  · next hclosed herror hok =>
    obtain ⟨call', hcall', rfl⟩ := Option.map_eq_some_iff.mp h
    refine Or.inr (Or.inr (Or.inr ⟨fun outcome hended => ?_, hclosed, call', hcall', rfl⟩))
    cases outcome with
    | error failure => exact herror failure hended
    | ok result => exact hok result hended

/-- Two calls in a run that takes the database `db` to `after`, the account being `id`. -/
structure RaceSound (db after : AccountDatabase lower) (lagoId : String)
    (fetched : Except String LagoCustomer) (id : ℕ) (s : ProvisioningRace lower) : Prop where
  committed : s.db = db ∨ s.db = after
  call : ∀ i, CallSound db after lagoId fetched id s.db (s.calls i)
  alone : ∀ i, (s.calls i).pending.isSome → (s.calls !i).pending = none

section

variable {id : ℕ} (h : CallEffect db after lagoId fetched id)
  (hs : RaceSound db after lagoId fetched id s)

include hs

/-- Replacing a call by a sound one that writes only when the other has not. -/
lemma raceSound_setCall {call : ProvisionCall}
    (hcall : CallSound db after lagoId fetched id s.db call)
    (hpending : call.pending.isSome → (s.calls !i).pending = none) :
    RaceSound db after lagoId fetched id (s.setCall i call) := by
  refine ⟨hs.committed, (forall_call i).mpr ⟨?_, ?_⟩, (forall_call i).mpr ⟨?_, ?_⟩⟩
  · simpa using hcall
  · simpa using hs.call !i
  · simpa using hpending
  · intro hother
    rw [setCall_other] at hother
    rw [Bool.not_not, setCall_self]
    cases hself : call.pending with
    | none => rfl
    | some write =>
        rw [hpending (by simp [hself])] at hother
        cases hother

include h

omit hs in
/-- The commit of one call is what the other may find. -/
lemma callSound_commit {call : ProvisionCall} (hdb : s.db = db) (hnone : call.pending = none)
    (hcall : CallSound db after lagoId fetched id s.db call) :
    CallSound db after lagoId fetched id after call := by
  refine ⟨?_, ?_, hcall.aborted, ?_, fun _ => Or.inr rfl⟩
  · rcases hcall.fate with hfate | ⟨hafter, hfate⟩
    · unfold ProvisioningRace.fate at hfate ⊢
      split at hfate
      · cases hfate
      · next haborted =>
        rw [if_neg haborted]
        rw [hdb] at hfate
        have hpoint := hcall.point
        rw [hdb] at hpoint
        exact (fateAt_after h hpoint hfate).imp_right fun hcollides => ⟨rfl, hcollides⟩
    · exact Or.inr ⟨rfl, hafter ▸ hfate⟩
  · have hpoint := hcall.point
    rw [hdb] at hpoint
    exact pointSound_after h hpoint
  · intro write hwrite
    rw [hnone] at hwrite
    cases hwrite

theorem raceSound_step (hstep : s.step lagoId fetched i = some s') :
    RaceSound db after lagoId fetched id s' := by
  have hcall := hs.call i
  rcases step_cases hstep with ⟨failure, hpoint, rfl⟩ | ⟨result, hpoint, hpending, rfl⟩ |
    ⟨result, write, db', hpoint, hpending, hdb', rfl⟩ | ⟨hended, hclosed, call', hcall', rfl⟩
  · refine raceSound_setCall hs ⟨?_, trivial, ?_, by simp, fun hreturns => hreturns.elim⟩ (by simp)
    · have hfate := hcall.fate
      simp only [ProvisioningRace.fate, hpoint] at hfate ⊢
      exact hfate
    · have haborted := hcall.aborted
      rw [hpoint] at haborted
      exact haborted
  · refine raceSound_setCall hs ⟨?_, trivial, ?_, ?_, fun _ => ?_⟩ (by simp [hpending])
    · have hfate := hcall.fate
      simp only [ProvisioningRace.fate, hpoint] at hfate ⊢
      exact hfate
    · have haborted := hcall.aborted
      rw [hpoint] at haborted
      exact haborted
    · intro write hwrite
      simp [hpending] at hwrite
    · exact hcall.returns (by rw [hpoint]; trivial)
  · obtain ⟨hdb, happly, -⟩ := hcall.pending write hpending
    obtain rfl : db' = after := CallEffect.ext_tables (hdb'.trans (hdb ▸ happly))
    have hnone : (s.calls !i).pending = none := hs.alone i (by simp [hpending])
    have hself : CallSound db db' lagoId fetched id db'
        ⟨.closed (.ok result), (s.calls i).aborted, none⟩ := by
      have hfate := hcall.fate
      have haborted := hcall.aborted
      rw [hpoint] at haborted
      refine ⟨?_, trivial, haborted, by simp, fun _ => Or.inr rfl⟩
      simp only [ProvisioningRace.fate, hpoint] at hfate ⊢
      exact hfate.imp_right fun hcollides => ⟨trivial, hcollides.2⟩
    refine ⟨Or.inr rfl, (forall_call i).mpr ⟨?_, ?_⟩, (forall_call i).mpr ⟨?_, ?_⟩⟩
    · simpa using hself
    · simpa using callSound_commit h hdb hnone (hs.call !i)
    · simp
    · simp [hnone]
  · obtain ⟨hsound, hfree⟩ := callSound_statement h hs.committed hcall hended hclosed hcall'
    exact raceSound_setCall hs hsound fun hwrote => by simpa using hfree hwrote

lemma raceSound_run {schedule : List Bool} {t : ProvisioningRace lower}
    (hrun : Transition.run (step lagoId fetched) s schedule = some t) :
    RaceSound db after lagoId fetched id t :=
  Transition.Meets.invariant (C := fun _ _ => True)
    (fun _ _ _ hs _ hstep => raceSound_step h hs hstep)
    hs (Transition.meets_of_forall fun _ _ => trivial) hrun

omit h in
/-- When neither call can go on, both are over: one that waits, waits for one that can commit. -/
lemma closed_of_stuck (hstuck : ∀ i, s.step lagoId fetched i = none) (i : Bool) :
    ∃ outcome, (s.calls i).point = .closed outcome := by
  have hnone : ∀ j, (s.calls j).pending = none := by
    intro j
    cases hpending : (s.calls j).pending with
    | none => rfl
    | some write =>
        obtain ⟨hdb, happly, result, hpoint⟩ := (hs.call j).pending write hpending
        have hsound : (write.apply s.db.toAccountTables lagoId).Sound lower := by
          rw [hdb, happly]
          exact after.sound
        have hstep := hstuck j
        simp [step, hpoint, hpending, AccountTables.checked_of_sound hsound] at hstep
  have hstep := hstuck i
  cases hpoint : (s.calls i).point with
  | closed outcome => exact ⟨outcome, rfl⟩
  | ended outcome =>
      cases outcome with
      | error failure => simp [step, hpoint] at hstep
      | ok result => simp [step, hpoint, hnone] at hstep
  | backfill existing =>
      simp only [step, hpoint, Option.map_eq_none_iff, statement, hnone, Option.isSome_none,
        Bool.false_eq_true, if_false] at hstep
      split at hstep
      · cases hstep
      · split at hstep
        · cases hstep
        · cases hstep
  | insert email customer =>
      simp only [step, hpoint, Option.map_eq_none_iff, statement, hnone, Option.isSome_none,
        Bool.false_eq_true, if_false] at hstep
      split at hstep
      · cases hstep
      · cases hstep
  | _ =>
      simp only [step, hpoint, Option.map_eq_none_iff, statement] at hstep
      split at hstep
      · cases hstep
      · cases hstep

end

/-! ### Inserts into a free table -/

/-- The e-mail address of the row that is to be inserted. -/
def insertEmail : ProvisionPoint → Option (Option String)
  | .insert email _ => some email
  | _ => none

/-- A call that is at its `INSERT` finds no account of the customer, and none with the e-mail
address. -/
def InsertsFirst (lagoId : String) (s : ProvisioningRace lower) (i : Bool) : Prop :=
  ∀ email ∈ (insertEmail (s.calls i).point).toList, s.db.directLinked lagoId = none ∧
    ∀ e ∈ email.toList, s.db.findExistingUserByEmail lower e = none

instance (lagoId : String) (s : ProvisioningRace lower) (i : Bool) :
    Decidable (InsertsFirst lagoId s i) :=
  inferInstanceAs (Decidable (∀ email ∈ (insertEmail (s.calls i).point).toList, _ ∧ ∀ e ∈ _, _))

lemma insertsFirst_of_insert {email : Option String} {customer : LagoCustomer}
    (hpoint : (s.calls i).point = .insert email customer) : InsertsFirst lagoId s i ↔
      (AccountWrite.apply s.db.toAccountTables lagoId
        (.insert (buildDisplayName customer email) email)).Sound lower := by
  simp only [InsertsFirst, hpoint, insertEmail, Option.toList_some, List.forall_mem_singleton,
    AccountWrite.apply, AccountTables.sound_insertUser s.db.sound, Option.mem_toList]

/-- An `INSERT` that comes late aborts its transaction. -/
lemma aborted_of_late (hstep : s.step lagoId fetched i = some s')
    (hlate : ¬InsertsFirst lagoId s i) :
    (s'.calls i).aborted = true := by
  cases hpoint : (s.calls i).point with
  | insert email customer =>
      rw [insertsFirst_of_insert hpoint] at hlate
      simp only [step, hpoint, statement] at hstep
      obtain ⟨call', hcall', rfl⟩ := Option.map_eq_some_iff.mp hstep
      split at hcall'
      · cases hcall'
      · obtain rfl := Option.some.inj hcall'
        simp
  | _ => exact absurd (by simp [InsertsFirst, hpoint, insertEmail]) hlate

/-- A transaction stays aborted. -/
lemma aborted_statement {call call' : ProvisionCall} {otherWrote : Bool}
    (h : statement lagoId fetched db otherWrote call = some call')
    (haborted : call.aborted = true) :
    call'.aborted = true := by
  simp only [statement] at h
  split at h
  · split at h
    · obtain rfl := Option.some.inj h
      exact haborted
    · split at h
      · cases h
      · split at h
        · obtain rfl := Option.some.inj h
          exact haborted
        · obtain rfl := Option.some.inj h
          rfl
  · split at h
    · cases h
    · split at h
      · obtain rfl := Option.some.inj h
        exact haborted
      · obtain rfl := Option.some.inj h
        rfl
  · split at h
    · obtain rfl := Option.some.inj h
      exact haborted
    · obtain rfl := Option.some.inj h
      exact haborted

lemma aborted_step {j : Bool} (hstep : s.step lagoId fetched i = some s')
    (haborted : (s.calls j).aborted = true) : (s'.calls j).aborted = true := by
  rcases Bool.eq_or_eq_not j i with rfl | rfl
  · rcases step_cases hstep with ⟨failure, -, rfl⟩ | ⟨result, -, -, rfl⟩ |
      ⟨result, write, db', -, -, -, rfl⟩ | ⟨-, -, call', hcall', rfl⟩
    · simpa using haborted
    · simpa using haborted
    · simpa using haborted
    · simpa using aborted_statement hcall' haborted
  · rcases step_cases hstep with ⟨failure, -, rfl⟩ | ⟨result, -, -, rfl⟩ |
      ⟨result, write, db', -, -, -, rfl⟩ | ⟨-, -, call', hcall', rfl⟩
    · simpa using haborted
    · simpa using haborted
    · simpa using haborted
    · simpa using haborted

/-- In a run that ends without an aborted transaction, no `INSERT` has come late. -/
lemma insertsFirst_of_not_aborted {schedule : List Bool} {t : ProvisioningRace lower}
    (hrun : Transition.run (step lagoId fetched) s schedule = some t)
    (hnone : ∀ i, (t.calls i).aborted = false) :
    Transition.Meets (step lagoId fetched) (InsertsFirst lagoId) s schedule := by
  induction schedule generalizing s with
  | nil => trivial
  | cons i schedule ih =>
      intro s' hstep
      obtain ⟨mid, hmid, hrest⟩ := Transition.run_cons_eq_some.mp hrun
      obtain rfl : mid = s' := Option.some.inj (hmid.symm.trans hstep)
      refine ⟨by_contra fun hlate => ?_, ih hrest⟩
      have hkept : (t.calls i).aborted = true :=
        Transition.Meets.invariant (I := fun s => (s.calls i).aborted = true) (C := fun _ _ => True)
          (fun _ _ _ haborted _ hstep => aborted_step hstep haborted) (aborted_of_late hstep hlate)
          (Transition.meets_of_forall fun _ _ => trivial) hrest
      rw [hnone i] at hkept
      cases hkept

section

variable {id : ℕ} (h : CallEffect db after lagoId fetched id)
  (hs : RaceSound db after lagoId fetched id s)

include hs

/-- A statement aborts a transaction when an `INSERT` comes late, and otherwise not. -/
lemma not_aborted_step (hnone : ∀ j, (s.calls j).aborted = false) (hfirst : InsertsFirst lagoId s i)
    (hstep : s.step lagoId fetched i = some s') : ∀ j, (s'.calls j).aborted = false := by
  have hset : ∀ {call' : ProvisionCall}, call'.aborted = false →
      ∀ j, ((s.setCall i call').calls j).aborted = false := fun hcall' =>
    (forall_call i).mpr ⟨by simpa using hcall', by simpa using hnone !i⟩
  rcases step_cases hstep with ⟨failure, -, rfl⟩ | ⟨result, -, -, rfl⟩ |
    ⟨result, write, db', -, -, -, rfl⟩ | ⟨-, -, call', hcall', rfl⟩
  · exact hset (hnone i)
  · exact hset (hnone i)
  · exact hset (hnone i)
  · refine hset ?_
    simp only [statement] at hcall'
    split at hcall'
    · next existing hpoint =>
      obtain ⟨-, -, hfate⟩ := of_underway (hs.call i) (by rw [hpoint]; exact not_false)
        (by rw [hpoint]; exact not_false)
      rw [hpoint] at hfate
      simp only [fateAt, fateOfBackfill] at hfate
      split at hcall'
      · obtain rfl := Option.some.inj hcall'
        exact hnone i
      · split at hcall'
        · cases hcall'
        · split at hcall'
          · obtain rfl := Option.some.inj hcall'
            exact hnone i
          · next hrefused =>
            simp only [AccountWrite.apply] at hrefused
            simp [hrefused] at hfate
    · next email customer hpoint =>
      split at hcall'
      · cases hcall'
      · split at hcall'
        · obtain rfl := Option.some.inj hcall'
          exact hnone i
        · next hrefused => exact absurd ((insertsFirst_of_insert hpoint).mp hfirst) hrefused
    · split at hcall'
      · obtain rfl := Option.some.inj hcall'
        exact hnone i
      · obtain rfl := Option.some.inj hcall'
        exact hnone i

include h

lemma not_aborted_run {schedule : List Bool} {t : ProvisioningRace lower}
    (hnone : ∀ j, (s.calls j).aborted = false)
    (hfirst : Transition.Meets (step lagoId fetched) (InsertsFirst lagoId) s schedule)
    (hrun : Transition.run (step lagoId fetched) s schedule = some t) :
    ∀ j, (t.calls j).aborted = false :=
  (Transition.Meets.invariant
    (I := fun s => RaceSound db after lagoId fetched id s ∧ ∀ j, (s.calls j).aborted = false)
    (fun _ _ _ hsound hfirst hstep => ⟨raceSound_step h hsound.1 hstep,
      not_aborted_step hsound.1 hsound.2 hfirst hstep⟩) ⟨hs, hnone⟩ hfirst hrun).2

end

/-! ### Calls that are refused -/

/-- A call that does not come to an account: it is refused, or fails. -/
structure CallRefused (lagoId : String) (fetched : Except String LagoCustomer)
    (db : AccountDatabase lower) (call : ProvisionCall) : Prop where
  fate : ∀ id, fate lagoId fetched db call ≠ .account id
  pending : call.pending = none
  aborted : call.aborted = true → Fails call.point
  recovery : IsRetry call.point → call.aborted = true

lemma callRefused_of_aborted {point : ProvisionPoint} (h : Fails point) :
    CallRefused lagoId fetched db ⟨point, true, none⟩ :=
  ⟨fun _ hfate => (by cases hfate), rfl, fun _ => h, fun _ => rfl⟩

lemma callRefused_statement {call call' : ProvisionCall} {otherWrote : Bool}
    (h : CallRefused lagoId fetched db call) (hended : ∀ outcome, call.point ≠ .ended outcome)
    (hclosed : ∀ outcome, call.point ≠ .closed outcome)
    (hstatement : statement lagoId fetched db otherWrote call = some call') :
    CallRefused lagoId fetched db call' := by
  have hfate : call.aborted = false → ∀ id, fateAt lagoId fetched db call.point ≠ .account id := by
    intro haborted id hid
    exact h.fate id (by rw [ProvisioningRace.fate, haborted]; exact hid)
  have hunder : ¬Fails call.point → call.aborted = false := fun hpoint =>
    Bool.eq_false_iff.mpr fun haborted => hpoint (h.aborted haborted)
  simp only [statement] at hstatement
  split at hstatement
  · next existing hpoint =>
    have hunsound : ¬(db.backfillLink existing.id lagoId).Sound lower := by
      intro hsound
      refine hfate (hunder (by rw [hpoint]; exact not_false)) existing.id ?_
      rw [hpoint]
      exact if_pos hsound
    split at hstatement
    · next hlinked =>
      rw [AccountTables.backfillLink_of_not_unlinked hlinked] at hunsound
      exact absurd db.sound hunsound
    · split at hstatement
      · cases hstatement
      · split at hstatement
        · next hsound => exact absurd hsound hunsound
        · obtain rfl := Option.some.inj hstatement
          exact callRefused_of_aborted trivial
  · next email customer hpoint =>
    split at hstatement
    · cases hstatement
    · split at hstatement
      · next hsound =>
        have hgoes : fateAt lagoId fetched db call.point = .account db.users.next := by
          rw [hpoint]
          exact if_pos hsound
        exact absurd hgoes (hfate (hunder (by rw [hpoint]; exact not_false)) db.users.next)
      · obtain rfl := Option.some.inj hstatement
        exact callRefused_of_aborted trivial
  · next hbackfill hinsert =>
    split at hstatement
    · next haborted =>
      obtain rfl := Option.some.inj hstatement
      rw [haborted, h.pending]
      exact callRefused_of_aborted trivial
    · next haborted =>
      obtain rfl := Option.some.inj hstatement
      have hpoint : IsLookUp call.point := by
        cases hcase : call.point with
        | backfill existing => exact hbackfill existing hcase
        | insert email customer => exact hinsert email customer hcase
        | ended outcome => exact hended outcome hcase
        | closed outcome => exact hclosed outcome hcase
        | retryDirect | retryEmail | retryConflict =>
            exact haborted (h.recovery (by rw [hcase]; trivial))
        | _ => trivial
      have hlooks : LooksUp lagoId fetched db call.point (lookUp lagoId fetched db call.point) :=
        looksUp_lookUp hpoint
      have hnot : call.aborted = false := Bool.eq_false_iff.mpr haborted
      refine ⟨fun id hid => hfate hnot id ?_, h.pending, fun h => absurd h haborted, fun h => ?_⟩
      · rw [ProvisioningRace.fate, hnot] at hid
        exact hlooks.fateAt_eq.symm.trans hid
      · exact absurd h hlooks.not_isRetry

/-- Two calls that do not come to an account. -/
def RaceRefused (lagoId : String) (fetched : Except String LagoCustomer)
    (db : AccountDatabase lower) (s : ProvisioningRace lower) : Prop :=
  s.db = db ∧ ∀ i, CallRefused lagoId fetched db (s.calls i)

lemma raceRefused_step (hs : RaceRefused lagoId fetched db s)
    (hstep : s.step lagoId fetched i = some s') : RaceRefused lagoId fetched db s' := by
  obtain ⟨rfl, hcalls⟩ := hs
  have hself := hcalls i
  have hset : ∀ {call' : ProvisionCall}, CallRefused lagoId fetched s.db call' →
      RaceRefused lagoId fetched s.db (s.setCall i call') := fun hcall' =>
    ⟨rfl, (forall_call i).mpr ⟨by simpa using hcall', by simpa using hcalls !i⟩⟩
  rcases step_cases hstep with ⟨failure, hpoint, rfl⟩ | ⟨result, hpoint, -, rfl⟩ |
    ⟨result, write, db', -, hpending, -, rfl⟩ | ⟨hended, hclosed, call', hcall', rfl⟩
  · refine hset ⟨fun id hid => hself.fate id ?_, rfl, fun _ => trivial, fun h => h.elim⟩
    rw [ProvisioningRace.fate, hpoint]
    exact hid
  · refine hset ⟨fun id hid => hself.fate id ?_, hself.pending, fun haborted => ?_, fun h => h.elim⟩
    · rw [ProvisioningRace.fate, hpoint]
      exact hid
    · have hfails := hself.aborted haborted
      rwa [hpoint] at hfails
  · rw [hself.pending] at hpending
    cases hpending
  · exact hset (callRefused_statement hself hended hclosed hcall')

end ProvisioningRace

end ExpresSync
