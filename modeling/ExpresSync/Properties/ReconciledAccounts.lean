import ExpresSync.Foundation.Transition
import ExpresSync.Properties.ProvisioningFates

/-!
# What a reconcile pass does to the accounts

`reconcileLocalState` is run on a schedule, over a cache that changes little between two runs.  A
customer's turn *settles* the customer: from then on a call for the customer comes to a linked
account or is refused, without writing, and the e-mail address of the cache is in place, or is
another account's.  The turns of the other customers leave that as it is.  So a second pass over
the same customers writes nothing, as long as Lago gives the same answers.
-/

namespace ExpresSync

variable {lower : String → String}

/-! ## What is never overwritten -/

/-- The account has kept its name, its role, and the e-mail address and the link that it had. -/
structure User.KeptAs (user after : User) : Prop where
  id : after.id = user.id
  name : after.name = user.name
  role : after.role = user.role
  email : user.email = none ∨ after.email = user.email
  link : user.lagoCustomerExternalId = none ∨
    after.lagoCustomerExternalId = user.lagoCustomerExternalId

namespace User.KeptAs

lemma refl (user : User) : user.KeptAs user := ⟨rfl, rfl, rfl, Or.inr rfl, Or.inr rfl⟩

lemma trans {a b c : User} (hab : a.KeptAs b) (hbc : b.KeptAs c) : a.KeptAs c := by
  refine ⟨hbc.id.trans hab.id, hbc.name.trans hab.name, hbc.role.trans hab.role, ?_, ?_⟩
  · rcases hab.email with hnone | heq
    · exact Or.inl hnone
    · rw [← heq]
      exact hbc.email
  · rcases hab.link with hnone | heq
    · exact Or.inl hnone
    · rw [← heq]
      exact hbc.link

end User.KeptAs

/-! ## The e-mail address of the cache -/

namespace AccountTables

variable {tables : AccountTables}

lemma mem_backfillEmail {userId : ℕ} {email : String} {user : User} :
    user ∈ (tables.backfillEmail userId email).users.rows ↔ ∃ old ∈ tables.users.rows,
      user = if old.id = userId ∧ old.email = none then { old with email := some email }
        else old := by
  simp only [backfillEmail, lacksEmail, SerialTable.mem_update,
    Bool.and_eq_true, decide_eq_true_eq, Option.isNone_iff_eq_none]

lemma directLinked_backfillEmail {lagoId : String} {userId : ℕ} {email : String}
    (hfree : tables.directLinked lagoId = none) :
    (tables.backfillEmail userId email).directLinked lagoId = none := by
  rw [directLinked_eq_none] at hfree ⊢
  intro user' huser'
  obtain ⟨user, huser, rfl⟩ := mem_backfillEmail.mp huser'
  split
  · exact hfree user huser
  · exact hfree user huser

/-- An account without an e-mail address gets one, unless another account has it. -/
lemma sound_backfillEmail {user : User} {email : String}
    (h : tables.Sound lower) (huser : user ∈ tables.users.rows) (hnone : user.email = none) :
    (tables.backfillEmail user.id email).Sound lower ↔
      tables.findExistingUserByEmail lower email = none := by
  constructor
  · rintro ⟨hemails, -, -⟩
    rw [findExistingUserByEmail_eq_none]
    intro other hother hemail
    have hne : other.id ≠ user.id := by
      intro hid
      rw [SerialTable.eq_of_key hother huser hid, hnone] at hemail
      cases hemail
    have hwritten : { user with email := some email } ∈
        (tables.backfillEmail user.id email).users.rows :=
      mem_backfillEmail.mpr ⟨user, huser, by rw [if_pos ⟨rfl, hnone⟩]⟩
    have hother' : other ∈ (tables.backfillEmail user.id email).users.rows :=
      mem_backfillEmail.mpr ⟨other, hother, by rw [if_neg fun hsel => hne hsel.1]⟩
    exact hemails _ hwritten other hother' hne.symm ⟨rfl, hemail.symm⟩
  · intro hfree
    rw [findExistingUserByEmail_eq_none] at hfree
    obtain ⟨hemails, hlinks, husers⟩ := h
    refine ⟨?_, ?_, ?_⟩
    · simp only [backfillEmail]
      refine SerialTable.pairs_update_of_single not_sameEmail_symm hemails ?_ ?_
      · intro a _ b _ ha hb
        simp only [lacksEmail, Bool.and_eq_true, decide_eq_true_eq] at ha hb
        rw [ha.1, hb.1]
      · intro row _ _ other hother _ hsame
        exact hfree other hother hsame.2.symm
    · simp only [backfillEmail]
      exact SerialTable.pairs_update_of_imp not_sameLink_symm hlinks
        fun a b _ hab => hab
    · intro mapping hmapping id hid
      obtain ⟨row, hrow, heq⟩ := husers mapping hmapping id hid
      refine ⟨_, mem_backfillEmail.mpr ⟨row, hrow, rfl⟩, ?_⟩
      split
      · exact heq
      · exact heq

/-- An account that has an e-mail address is not selected. -/
lemma lacksEmail_eq_false {user : User} (huser : user ∈ tables.users.rows)
    (hemail : user.email ≠ none) :
    ∀ row ∈ tables.users.rows, lacksEmail user.id row = false := by
  intro row hrow
  rw [lacksEmail, Bool.and_eq_false_iff, decide_eq_false_iff_not,
    Option.isNone_eq_false_iff, Option.isSome_iff_ne_none]
  by_cases hid : row.id = user.id
  · right
    rw [SerialTable.eq_of_key hrow huser hid]
    exact hemail
  · exact Or.inl hid

lemma backfillEmail_of_email {user : User}
    (huser : user ∈ tables.users.rows) (hemail : user.email ≠ none) (email : String) :
    tables.backfillEmail user.id email = tables := by
  have hrows : SerialTable.rewrite (lacksEmail user.id)
      (fun row : User => { row with email := some email }) tables.users.rows =
        tables.users.rows := by
    refine (List.map_congr_left fun row hrow => ?_).trans (List.map_id _)
    rw [if_neg]
    · rfl
    · rw [lacksEmail_eq_false huser hemail row hrow]
      exact Bool.false_ne_true
  obtain ⟨⟨rows, next, hlt, hnodup⟩, mappings⟩ := tables
  simp only [backfillEmail, SerialTable.update, AccountTables.mk.injEq,
    SerialTable.mk.injEq, and_true]
  exact hrows

lemma returnedByBackfill_of_email {user : User}
    (huser : user ∈ tables.users.rows) (hemail : user.email ≠ none) :
    tables.returnedByBackfill user.id = [] := by
  have hfilter := List.filter_eq_nil_iff.mpr fun row hrow =>
    (Bool.eq_false_iff.mp (lacksEmail_eq_false huser hemail row hrow))
  rw [returnedByBackfill, hfilter, List.map_nil]

end AccountTables

/-! ## The effect of a pass -/

/-- What the turns of the customers `lagoIds` do to the tables. -/
structure ReconcileEffect (lagoIds : List String) (before after : AccountTables) : Prop where
  mappings : after.mappings = before.mappings
  kept : ∀ user ∈ before.users.rows, ∃ user' ∈ after.users.rows, user.KeptAs user'
  /-- An account that was there has its old link, or one to such a customer; a new one is a
  customer's, and has one to such a customer. -/
  origin : ∀ user' ∈ after.users.rows,
    (∃ user ∈ before.users.rows, user.KeptAs user' ∧
      (user'.lagoCustomerExternalId = user.lagoCustomerExternalId ∨
        ∃ lagoId ∈ lagoIds, user'.lagoCustomerExternalId = some lagoId)) ∨
    user'.role = .customer ∧ ∃ lagoId ∈ lagoIds, user'.lagoCustomerExternalId = some lagoId

namespace ReconcileEffect

variable {lagoIds : List String} {lagoId : String} {a b c : AccountTables}

lemma refl (tables : AccountTables) : ReconcileEffect lagoIds tables tables where
  mappings := rfl
  kept := fun user huser => ⟨user, huser, .refl user⟩
  origin := fun user huser => Or.inl ⟨user, huser, .refl user, Or.inl rfl⟩

lemma trans (hab : ReconcileEffect lagoIds a b) (hbc : ReconcileEffect lagoIds b c) :
    ReconcileEffect lagoIds a c := by
  refine ⟨hbc.mappings.trans hab.mappings, ?_, ?_⟩
  · intro user huser
    obtain ⟨user', huser', hkept⟩ := hab.kept user huser
    obtain ⟨user'', huser'', hkept'⟩ := hbc.kept user' huser'
    exact ⟨user'', huser'', hkept.trans hkept'⟩
  · intro user'' huser''
    rcases hbc.origin user'' huser'' with ⟨user', huser', hkept', hlink'⟩ | hnew
    · rcases hab.origin user' huser' with ⟨user, huser, hkept, hlink⟩ | ⟨hrole, hlink⟩
      · refine Or.inl ⟨user, huser, hkept.trans hkept', ?_⟩
        rcases hlink' with heq | hcustomer
        · rw [heq]
          exact hlink
        · exact Or.inr hcustomer
      · right
        refine ⟨hkept'.role.trans hrole, ?_⟩
        rcases hlink' with heq | hcustomer
        · rw [heq]
          exact hlink
        · exact hcustomer
    · exact Or.inr hnew

lemma mono {lagoIds' : List String} (h : ReconcileEffect lagoIds a b) (hsub : lagoIds ⊆ lagoIds') :
    ReconcileEffect lagoIds' a b := by
  refine ⟨h.mappings, h.kept, fun user' huser' => ?_⟩
  rcases h.origin user' huser' with
    ⟨user, huser, hkept, heq | ⟨lagoId, hmem, hlink⟩⟩ | ⟨hrole, lagoId, hmem, hlink⟩
  · exact Or.inl ⟨user, huser, hkept, Or.inl heq⟩
  · exact Or.inl ⟨user, huser, hkept, Or.inr ⟨lagoId, hsub hmem, hlink⟩⟩
  · exact Or.inr ⟨hrole, lagoId, hsub hmem, hlink⟩

/-- No account is linked to another customer that was not before. -/
lemma directLinked_eq_none (h : ReconcileEffect lagoIds a b) (hother : lagoId ∉ lagoIds)
    (hfree : a.directLinked lagoId = none) : b.directLinked lagoId = none := by
  rw [AccountTables.directLinked_eq_none] at hfree ⊢
  intro user' huser' heq
  have hnot : ¬∃ id ∈ lagoIds, user'.lagoCustomerExternalId = some id := by
    rintro ⟨id, hid, hlink⟩
    obtain rfl : lagoId = id := Option.some.inj (heq.symm.trans hlink)
    exact hother hid
  rcases h.origin user' huser' with ⟨user, huser, -, hlink | hlink⟩ | ⟨-, hlink⟩
  · exact hfree user huser (hlink.symm.trans heq)
  · exact hnot hlink
  · exact hnot hlink

lemma of_backfillLink (tables : AccountTables) (userId : ℕ) :
    ReconcileEffect [lagoId] tables (tables.backfillLink userId lagoId) := by
  have hrow : ∀ user : User, user.KeptAs
      (if user.id = userId ∧ user.lagoCustomerExternalId = none then
        { user with lagoCustomerExternalId := some lagoId } else user) := by
    intro user
    split
    · next hsel => exact ⟨rfl, rfl, rfl, Or.inr rfl, Or.inl hsel.2⟩
    · exact .refl user
  refine ⟨rfl, ?_, ?_⟩
  · intro user huser
    exact ⟨_, AccountTables.mem_backfillLink.mpr ⟨user, huser, rfl⟩, hrow user⟩
  · intro user' huser'
    obtain ⟨user, huser, rfl⟩ := AccountTables.mem_backfillLink.mp huser'
    refine Or.inl ⟨user, huser, hrow user, ?_⟩
    split
    · exact Or.inr ⟨lagoId, by simp, rfl⟩
    · exact Or.inl rfl

lemma of_insertUser (tables : AccountTables) (name email : Option String) :
    ReconcileEffect [lagoId] tables (tables.insertUser name email .customer (some lagoId)) := by
  refine ⟨rfl, ?_, ?_⟩
  · intro user huser
    exact ⟨user, SerialTable.mem_insert.mpr (Or.inl huser), .refl user⟩
  · intro user' huser'
    rcases SerialTable.mem_insert.mp huser' with hold | rfl
    · exact Or.inl ⟨user', hold, .refl user', Or.inl rfl⟩
    · exact Or.inr ⟨rfl, lagoId, by simp, rfl⟩

lemma of_backfillEmail (tables : AccountTables) (userId : ℕ) (email : String) :
    ReconcileEffect lagoIds tables (tables.backfillEmail userId email) := by
  have hrow : ∀ user : User, user.KeptAs
      (if user.id = userId ∧ user.email = none then { user with email := some email }
        else user) := by
    intro user
    split
    · next hsel => exact ⟨rfl, rfl, rfl, Or.inl hsel.2, Or.inr rfl⟩
    · exact .refl user
  refine ⟨rfl, ?_, ?_⟩
  · intro user huser
    exact ⟨_, AccountTables.mem_backfillEmail.mpr ⟨user, huser, rfl⟩, hrow user⟩
  · intro user' huser'
    obtain ⟨user, huser, rfl⟩ := AccountTables.mem_backfillEmail.mp huser'
    refine Or.inl ⟨user, huser, hrow user, Or.inl ?_⟩
    split
    · rfl
    · rfl

/-- A call that returns. -/
lemma of_resolve {db after : AccountDatabase lower} {fetched : Except String LagoCustomer}
    {result : ResolveCustomerAccountResult}
    (h : db.resolveOrCreateCustomerAccount lagoId fetched = .ok (after, result)) :
    ReconcileEffect [lagoId] db.toAccountTables after.toAccountTables := by
  rcases (CallEffect.of_resolve h).wrote with ⟨-, hafter⟩ | ⟨-, customer, -, hafter⟩
  · rw [hafter]
    exact of_backfillLink _ _
  · rw [hafter]
    exact of_insertUser _ _ _

end ReconcileEffect

/-! ## Calls that are settled -/

namespace AccountDatabase

/-- Why a call is refused that finds neither a link nor a mapping of the customer. -/
inductive Refusal (db : AccountDatabase lower) (lagoId : String) :
    Except String LagoCustomer → ProvisionFailure → Prop where
  | fetch (msg : String) : Refusal db lagoId (.error msg) (classifyLagoFetchError msg)
  | malformed {customer : LagoCustomer} {email : String}
    (hemail : trimmed customer.email = some email)
      (hmalformed : isMalformedEmail email = true) :
      Refusal db lagoId (.ok customer) (malformedEmailError email)
  | admin {customer : LagoCustomer} {email : String} {user : User}
      (hemail : trimmed customer.email = some email) (hvalid : isMalformedEmail email = false)
      (hfound : db.findExistingUserByEmail lower email = some user) (hrole : user.role = .admin) :
      Refusal db lagoId (.ok customer) adminEmailError
  | linked {customer : LagoCustomer} {email : String} {user : User}
      (hemail : trimmed customer.email = some email) (hvalid : isMalformedEmail email = false)
      (hfound : db.findExistingUserByEmail lower email = some user) (hrole : user.role ≠ .admin)
      (hconflict : truthy (db.findConflictingLagoLink user.id lagoId) = true) :
      Refusal db lagoId (.ok customer)
        (linkedEmailError email ((db.findConflictingLagoLink user.id lagoId).getD ""))

variable {db after : AccountDatabase lower} {lagoId : String}
  {fetched : Except String LagoCustomer} {result : ResolveCustomerAccountResult}
  {failure : ProvisionFailure}

lemma createUser_ne_error {email : Option String} {customer : LagoCustomer}
    (hdirect : db.directLinked lagoId = none)
    (hemail : ∀ e, email = some e → db.findExistingUserByEmail lower e = none) :
    db.createUser email lagoId customer ≠ .error failure := by
  have hsound : (db.insertUser (buildDisplayName customer email) email .customer
      (some lagoId)).Sound lower :=
    (AccountTables.sound_insertUser db.sound).mpr ⟨hdirect, hemail⟩
  rw [createUser, AccountTables.checked_of_sound hsound]
  intro heq
  cases heq

lemma reuse_ne_error {user : User} (hdirect : db.directLinked lagoId = none) :
    db.reuse user lagoId ≠ .error failure := by
  obtain ⟨after, hafter⟩ := exists_reuse user hdirect
  rw [hafter]
  intro heq
  cases heq

/-- A call on its own never fails in a statement. -/
lemma refusal_of_resolve (h : db.resolveOrCreateCustomerAccount lagoId fetched = .error failure) :
    db.directLinked lagoId = none ∧ db.siblingAccount lagoId = none ∧
      db.Refusal lagoId fetched failure := by
  unfold resolveOrCreateCustomerAccount at h
  split at h
  · cases h
  · next hdirect =>
    split at h
    · exact absurd h (reuse_ne_error hdirect)
    · next hsibling =>
      refine ⟨hdirect, hsibling, ?_⟩
      split at h
      · next msg =>
        obtain rfl := Except.error.inj h
        exact .fetch msg
      · next customer =>
        split at h
        · refine absurd h (createUser_ne_error hdirect fun e he => ?_)
          cases he
        · next email hemail =>
          split at h
          · next hmalformed =>
            obtain rfl := Except.error.inj h
            exact .malformed hemail hmalformed
          · next hvalid =>
            rw [Bool.not_eq_true] at hvalid
            unfold resolveOrCreateForEmail at h
            split at h
            · next hnone =>
              refine absurd h (createUser_ne_error hdirect ?_)
              rintro e heq
              exact Option.some.inj heq ▸ hnone
            · next user hfound =>
              split at h
              · next hrole =>
                obtain rfl := Except.error.inj h
                exact .admin hemail hvalid hfound hrole
              · next hrole =>
                simp only at h
                split at h
                · next hconflict =>
                  obtain rfl := Except.error.inj h
                  exact .linked hemail hvalid hfound hrole hconflict
                · exact absurd h (reuse_ne_error hdirect)

lemma resolve_of_refusal (hdirect : db.directLinked lagoId = none)
    (hsibling : db.siblingAccount lagoId = none) (h : db.Refusal lagoId fetched failure) :
    db.resolveOrCreateCustomerAccount lagoId fetched = .error failure := by
  simp only [resolveOrCreateCustomerAccount, hdirect, hsibling]
  cases h with
  | fetch msg => rfl
  | malformed hemail hmalformed => simp only [hemail, hmalformed, if_true]
  | admin hemail hvalid hfound hrole =>
      simp only [hemail, hvalid, resolveOrCreateForEmail, hfound, hrole, if_true, if_false,
        Bool.false_eq_true]
  | linked hemail hvalid hfound hrole hconflict =>
      simp only [hemail, hvalid, resolveOrCreateForEmail, hfound, hrole, hconflict, if_true,
        if_false, Bool.false_eq_true]

lemma result_of_createUser {email : Option String} {customer : LagoCustomer}
    (h : db.createUser email lagoId customer = .ok (after, result)) :
    result = ⟨db.users.next, true, false, email⟩ := by
  unfold createUser at h
  split at h
  · cases h
  · exact (Prod.mk.inj (Except.ok.inj h)).2.symm

lemma result_of_reuse {user : User} (h : db.reuse user lagoId = .ok (after, result))
    (hdirect : db.directLinked lagoId = none) : result = user.reusedResult := by
  obtain ⟨after', hafter'⟩ := exists_reuse user hdirect
  rw [hafter'] at h
  exact (Prod.mk.inj (Except.ok.inj h)).2.symm

/-- What a call returns: an account that was there, or the one it creates. -/
lemma result_of_resolve
    (h : db.resolveOrCreateCustomerAccount lagoId fetched = .ok (after, result)) :
    (∃ user ∈ db.users.rows, result = user.reusedResult) ∨
      ∃ customer, fetched = .ok customer ∧
        result = ⟨db.users.next, true, false, trimmed customer.email⟩ := by
  unfold resolveOrCreateCustomerAccount at h
  split at h
  · next user hdirect =>
    exact Or.inl ⟨user, (AccountTables.of_directLinked hdirect).1,
      (Prod.mk.inj (Except.ok.inj h)).2.symm⟩
  · next hdirect =>
    split at h
    · next user hsibling =>
      exact Or.inl ⟨user, AccountTables.mem_of_siblingAccount hsibling,
        result_of_reuse h hdirect⟩
    · next hsibling =>
      split at h
      · cases h
      · next customer =>
        split at h
        · next hemail => exact Or.inr ⟨customer, rfl, hemail ▸ result_of_createUser h⟩
        · next email hemail =>
          split at h
          · cases h
          · unfold resolveOrCreateForEmail at h
            split at h
            · exact Or.inr ⟨customer, rfl, hemail ▸ result_of_createUser h⟩
            · next user hfound =>
              split at h
              · cases h
              · simp only at h
                split at h
                · cases h
                · exact Or.inl ⟨user, (AccountTables.of_findExistingUserByEmail hfound).1,
                    result_of_reuse h hdirect⟩

/-- The e-mail address that a call returns is the one in the row. -/
lemma email_of_resolve
    (h : db.resolveOrCreateCustomerAccount lagoId fetched = .ok (after, result)) {user : User}
    (huser : user ∈ after.users.rows) (hid : user.id = result.userId) :
    user.email = result.email := by
  have heffect := CallEffect.of_resolve h
  rcases result_of_resolve h with ⟨old, hold, rfl⟩ | ⟨customer, rfl, rfl⟩
  · obtain ⟨kept, hkept, hkeptId, hemail, -⟩ := heffect.kept old hold
    rw [SerialTable.eq_of_key huser hkept (hid.trans hkeptId.symm)]
    exact hemail
  · rcases heffect.wrote with ⟨⟨old, hold, hnext⟩, -⟩ | ⟨-, customer', hfetched, hafter⟩
    · exact absurd hnext (db.users.key_lt old hold).ne
    · obtain rfl := Except.ok.inj hfetched
      rw [hafter] at huser
      rcases SerialTable.mem_insert.mp huser with hold | rfl
      · exact absurd hid (db.users.key_lt user hold).ne
      · rfl

/-- After a call that returns, the customer comes to the account that it returned, and the account
is linked. -/
lemma comesTo_after
    (h : db.resolveOrCreateCustomerAccount lagoId fetched = .ok (after, result)) :
    ∃ user, after.ComesTo lagoId fetched user ∧ user.lagoCustomerExternalId ≠ none ∧
      user.id = result.userId ∧ user.email = result.email := by
  have heffect := CallEffect.of_resolve h
  have hcome : ∀ user, after.ComesTo lagoId fetched user → user.id = result.userId →
      ∃ user, after.ComesTo lagoId fetched user ∧ user.lagoCustomerExternalId ≠ none ∧
        user.id = result.userId ∧ user.email = result.email := by
    intro user hcomes hid
    have huser := mem_of_comesTo hcomes
    refine ⟨user, hcomes, fun hnone => ?_, hid, email_of_resolve h huser hid⟩
    exact heffect.not_unlinked ⟨user, huser, hid, hnone⟩
  rcases heffect.direct with rfl | ⟨user, huser, hid⟩
  · rcases of_resolve h with ⟨user, hcomes, hid, -⟩ | ⟨hnext, -⟩
    · exact hcome user hcomes hid.symm
    · obtain ⟨user, huser, hid⟩ := heffect.account
      exact absurd (hid.trans hnext) (after.users.key_lt user huser).ne
  · exact hcome user (.direct huser) hid

/-- A call for a customer that comes to a linked account writes nothing. -/
lemma resolve_of_linked {user : User} (hcomes : db.ComesTo lagoId fetched user)
    (hlinked : user.lagoCustomerExternalId ≠ none) :
    db.resolveOrCreateCustomerAccount lagoId fetched = .ok (db, user.reusedResult) := by
  obtain ⟨after, hafter⟩ := resolve_of_comesTo hcomes
  have hsame : after = db := by
    refine ProvisioningRace.eq_of_linked (CallEffect.of_resolve hafter)
      ⟨user, mem_of_comesTo hcomes, rfl⟩ ?_
    rintro ⟨row, hrow, hid, hnone⟩
    rw [SerialTable.eq_of_key hrow (mem_of_comesTo hcomes) hid] at hnone
    exact hlinked hnone
  rw [hafter, hsame]

/-! ## The turns of other customers -/

section

variable {lagoIds : List String}
  (h : ReconcileEffect lagoIds db.toAccountTables after.toAccountTables)

include h

lemma siblingAccount_turn {user : User} (hsibling : db.siblingAccount lagoId = some user) :
    ∃ user', after.siblingAccount lagoId = some user' ∧ user.KeptAs user' := by
  obtain ⟨id, hid, huser⟩ := Option.bind_eq_some_iff.mp hsibling
  obtain ⟨hmem, rfl⟩ := AccountTables.userById_eq_some.mp huser
  obtain ⟨user', hmem', hkept⟩ := h.kept user hmem
  refine ⟨user', Option.bind_eq_some_iff.mpr ⟨user.id, ?_, ?_⟩, hkept⟩
  · simpa only [AccountTables.findExistingUserViaSibling, AccountTables.siblingMappings, h.mappings]
      using hid
  · exact AccountTables.userById_eq_some.mpr ⟨hmem', hkept.id⟩

lemma siblingAccount_turn_none (hsibling : db.siblingAccount lagoId = none) :
    after.siblingAccount lagoId = none := by
  rw [AccountTables.siblingAccount_eq_none db.sound] at hsibling
  rw [AccountTables.siblingAccount_eq_none after.sound]
  simpa only [AccountTables.findExistingUserViaSibling, AccountTables.siblingMappings, h.mappings]
    using hsibling

lemma findExistingUserByEmail_turn {email : String} {user : User}
    (hfound : db.findExistingUserByEmail lower email = some user) :
    ∃ user', after.findExistingUserByEmail lower email = some user' ∧ user.KeptAs user' := by
  obtain ⟨hmem, hemail⟩ := AccountTables.of_findExistingUserByEmail hfound
  obtain ⟨user', hmem', hkept⟩ := h.kept user hmem
  refine ⟨user', (AccountTables.findExistingUserByEmail_eq_some after.sound).mpr ⟨hmem', ?_⟩, hkept⟩
  rcases hkept.email with hnone | heq
  · rw [hnone] at hemail
    cases hemail
  · rw [heq]
    exact hemail

lemma findConflictingLagoLink_turn (userId : ℕ) :
    after.findConflictingLagoLink userId lagoId = db.findConflictingLagoLink userId lagoId := by
  rw [AccountTables.findConflictingLagoLink, AccountTables.findConflictingLagoLink, h.mappings]

/-- A customer comes to the account it came to before. -/
lemma ComesTo.turn {user : User} (hcomes : db.ComesTo lagoId fetched user)
    (hfree : db.directLinked lagoId = none → after.directLinked lagoId = none) :
    ∃ user', after.ComesTo lagoId fetched user' ∧ user.KeptAs user' := by
  cases hcomes with
  | direct hdirect =>
      obtain ⟨hmem, hlink⟩ := AccountTables.of_directLinked hdirect
      obtain ⟨user', hmem', hkept⟩ := h.kept user hmem
      refine ⟨user', .direct ?_, hkept⟩
      rcases hkept.link with hnone | heq
      · rw [hnone] at hlink
        cases hlink
      · exact (AccountTables.directLinked_eq_some after.sound).mpr ⟨hmem', heq.trans hlink⟩
  | sibling hdirect hsibling =>
      obtain ⟨user', hsibling', hkept⟩ := siblingAccount_turn h hsibling
      exact ⟨user', .sibling (hfree hdirect) hsibling', hkept⟩
  | email hdirect hsibling hemail =>
      obtain ⟨hfound, hreuse⟩ := Option.filter_eq_some_iff.mp hemail
      obtain ⟨email, hfetched, huser⟩ := Option.bind_eq_some_iff.mp hfound
      obtain ⟨user', huser', hkept⟩ := findExistingUserByEmail_turn h huser
      refine ⟨user', .email (hfree hdirect) (siblingAccount_turn_none h hsibling) ?_, hkept⟩
      refine Option.filter_eq_some_iff.mpr
        ⟨Option.bind_eq_some_iff.mpr ⟨email, hfetched, huser'⟩, ?_⟩
      rw [hkept.role, hkept.id, findConflictingLagoLink_turn h]
      exact hreuse

lemma Refusal.turn (hrefusal : db.Refusal lagoId fetched failure) :
    after.Refusal lagoId fetched failure := by
  cases hrefusal with
  | fetch msg => exact .fetch msg
  | malformed hemail hmalformed => exact .malformed hemail hmalformed
  | admin hemail hvalid hfound hrole =>
      obtain ⟨user', hfound', hkept⟩ := findExistingUserByEmail_turn h hfound
      exact .admin hemail hvalid hfound' (hkept.role.trans hrole)
  | linked hemail hvalid hfound hrole hconflict =>
      obtain ⟨user', hfound', hkept⟩ := findExistingUserByEmail_turn h hfound
      rw [← findConflictingLagoLink_turn h, ← hkept.id] at hconflict ⊢
      exact .linked hemail hvalid hfound' (hkept.role ▸ hrole) hconflict

end

/-! ## One turn -/

variable {databaseMessage : String} {toLowerCase : String → String}
  {answers : String → Except String LagoCustomer} {s s' : AccountDatabase lower × ReconcileTally}
  {c : CachedCustomer}

/-- The turn has an e-mail address for an account without one. -/
def FillsEmail (c : CachedCustomer) (result : ResolveCustomerAccountResult) : Prop :=
  (truthy c.email && !truthy result.email) = true

/-- The counter of the accounts that have been created, after the call of a turn. -/
def provisionedBy (tally : ReconcileTally) (result : ResolveCustomerAccountResult) : ℕ :=
  if result.created then tally.provisioned + 1 else tally.provisioned

/-- What a turn can do. -/
inductive Turned (databaseMessage : String) (answers : String → Except String LagoCustomer)
    (s : AccountDatabase lower × ReconcileTally) (c : CachedCustomer) :
    AccountDatabase lower × ReconcileTally → Prop where
  | failed {failure : ProvisionFailure}
      (hcall : s.1.resolveOrCreateCustomerAccount c.externalId (answers c.externalId) =
        .error failure) :
      Turned databaseMessage answers s c (s.1, { s.2 with
        errors := s.2.errors ++ [provisionError databaseMessage c.externalId failure] })
  /-- The e-mail address is another account's. -/
  | refused {mid : AccountDatabase lower} {result : ResolveCustomerAccountResult}
      (hcall : s.1.resolveOrCreateCustomerAccount c.externalId (answers c.externalId) =
        .ok (mid, result))
      (hfills : FillsEmail c result)
      (hrefused : ¬(mid.backfillEmail result.userId (c.email.getD "")).Sound lower) :
      Turned databaseMessage answers s c (mid, { s.2 with
        provisioned := provisionedBy s.2 result
        errors := s.2.errors ++ [provisionError databaseMessage c.externalId .database] })
  | filled {mid updated : AccountDatabase lower} {result : ResolveCustomerAccountResult}
      (hcall : s.1.resolveOrCreateCustomerAccount c.externalId (answers c.externalId) =
        .ok (mid, result))
      (hfills : FillsEmail c result)
      (hupdated : updated.toAccountTables = mid.backfillEmail result.userId (c.email.getD "")) :
      Turned databaseMessage answers s c (updated, { s.2 with
        provisioned := provisionedBy s.2 result
        emailBackfilled :=
          if 0 < (mid.returnedByBackfill result.userId).length then s.2.emailBackfilled + 1
          else s.2.emailBackfilled })
  | left {mid : AccountDatabase lower} {result : ResolveCustomerAccountResult} (drift : ℕ)
      (hcall : s.1.resolveOrCreateCustomerAccount c.externalId (answers c.externalId) =
        .ok (mid, result))
      (hfills : ¬FillsEmail c result) :
      Turned databaseMessage answers s c (mid, { s.2 with
        provisioned := provisionedBy s.2 result
        driftDetected := drift })

lemma turned_reconcileCustomer :
    Turned databaseMessage answers s c
      (reconcileCustomer databaseMessage toLowerCase answers s c) := by
  obtain ⟨db, tally⟩ := s
  simp only [reconcileCustomer]
  split
  · next failure hcall => exact .failed hcall
  · next mid result hcall =>
    split
    · next hfills =>
      split
      · next hchecked =>
        refine .refused hcall hfills fun hsound => ?_
        rw [AccountTables.checked_of_sound hsound] at hchecked
        cases hchecked
      · next updated hchecked =>
        exact .filled hcall hfills (AccountTables.checked_eq_some.mp hchecked).2
    · next hfills =>
      split
      · exact .left (tally.driftDetected + 1) hcall hfills
      · exact .left tally.driftDetected hcall hfills

namespace Turned

variable (h : Turned databaseMessage answers s c s')

include h

lemma effect : ReconcileEffect [c.externalId] s.1.toAccountTables s'.1.toAccountTables := by
  cases h with
  | failed => exact .refl _
  | refused hcall => exact .of_resolve hcall
  | filled hcall _ hupdated =>
      refine (ReconcileEffect.of_resolve hcall).trans ?_
      rw [hupdated]
      exact .of_backfillEmail _ _ _
  | left _ hcall => exact .of_resolve hcall

/-- No error of an earlier turn is lost. -/
lemma errors_subset : s.2.errors ⊆ s'.2.errors := by
  cases h with
  | failed | refused => exact List.subset_append_left _ _
  | filled | left => exact List.Subset.refl _

end Turned

/-! ## Settled customers -/

section

variable (answers) (db : AccountDatabase lower) (c)

/-- A call for the customer comes to a linked account, which has an e-mail address unless the one
in the cache is another account's. -/
def Linked : Prop :=
  ∃ user, db.ComesTo c.externalId (answers c.externalId) user ∧
    user.lagoCustomerExternalId ≠ none ∧
    (truthy c.email = true → user.email ≠ none ∨
      db.findExistingUserByEmail lower (c.email.getD "") ≠ none)

/-- A call for the customer is refused. -/
def Refused : Prop :=
  db.directLinked c.externalId = none ∧ db.siblingAccount c.externalId = none ∧
    ∃ failure, db.Refusal c.externalId (answers c.externalId) failure

def Settled : Prop := db.Linked answers c ∨ db.Refused answers c

end

/-- The errors name the customer. -/
def Named (c : CachedCustomer) (tally : ReconcileTally) : Prop :=
  ∃ error ∈ tally.errors, error.lagoId = some c.externalId

/-- A turn leaves its customer with a linked account, or with a refusal and an error. -/
lemma Turned.linked_or_refused (h : Turned databaseMessage answers s c s') :
    s'.1.Linked answers c ∨ s'.1.Refused answers c ∧ Named c s'.2 := by
  cases h with
  | @failed failure hcall =>
      obtain ⟨hdirect, hsibling, hrefusal⟩ := refusal_of_resolve hcall
      exact Or.inr ⟨⟨hdirect, hsibling, failure, hrefusal⟩,
        provisionError databaseMessage c.externalId failure, by simp, rfl⟩
  | @refused mid result hcall hfills hrefused =>
      obtain ⟨user, hcomes, hlinked, hid, hemail⟩ := comesTo_after hcall
      refine Or.inl ⟨user, hcomes, hlinked, fun _ => ?_⟩
      by_contra hneither
      simp only [not_or, not_not] at hneither
      rw [← hid] at hrefused
      exact hrefused ((AccountTables.sound_backfillEmail mid.sound (mem_of_comesTo hcomes)
        hneither.1).mpr hneither.2)
  | @filled mid updated result hcall hfills hupdated =>
      obtain ⟨user, hcomes, hlinked, hid, hemail⟩ := comesTo_after hcall
      have heffect : ReconcileEffect [] mid.toAccountTables updated.toAccountTables := by
        rw [hupdated]
        exact .of_backfillEmail _ _ _
      have hfree : mid.directLinked c.externalId = none →
          updated.directLinked c.externalId = none := by
        rw [hupdated]
        exact AccountTables.directLinked_backfillEmail
      obtain ⟨user', hcomes', hkept⟩ := ComesTo.turn heffect hcomes hfree
      refine Or.inl ⟨user', hcomes', ?_, fun _ => Or.inl ?_⟩
      · rcases hkept.link with hnone | heq
        · exact absurd hnone hlinked
        · rw [heq]
          exact hlinked
      · have hmem := mem_of_comesTo hcomes'
        rw [hupdated] at hmem
        obtain ⟨old, -, rfl⟩ := AccountTables.mem_backfillEmail.mp hmem
        split
        · exact Option.some_ne_none _
        · next hsel =>
          rw [if_neg hsel] at hkept
          exact fun hnone => hsel ⟨hkept.id.trans hid, hnone⟩
  | @left mid result drift hcall hfills =>
      obtain ⟨user, hcomes, hlinked, hid, hemail⟩ := comesTo_after hcall
      refine Or.inl ⟨user, hcomes, hlinked, fun htruthy => Or.inl ?_⟩
      rw [hemail]
      rintro hnone
      exact hfills (by simp [FillsEmail, htruthy, hnone])

/-- A turn settles its customer. -/
lemma Turned.settled (h : Turned databaseMessage answers s c s') : s'.1.Settled answers c :=
  h.linked_or_refused.imp_right And.left

namespace Settled

/-- A call for a settled customer writes nothing. -/
lemma of_call {db mid : AccountDatabase lower} {result : ResolveCustomerAccountResult}
    (h : db.Settled answers c)
    (hcall : db.resolveOrCreateCustomerAccount c.externalId (answers c.externalId) =
      .ok (mid, result)) :
    mid = db ∧ ∃ user ∈ db.users.rows, result = user.reusedResult ∧
      (truthy c.email = true → user.email ≠ none ∨
        db.findExistingUserByEmail lower (c.email.getD "") ≠ none) := by
  rcases h with ⟨user, hcomes, hlinked, hemail⟩ | ⟨hdirect, hsibling, failure, hrefusal⟩
  · rw [resolve_of_linked hcomes hlinked] at hcall
    obtain ⟨rfl, rfl⟩ := Prod.mk.inj (Except.ok.inj hcall)
    exact ⟨rfl, user, mem_of_comesTo hcomes, rfl, hemail⟩
  · rw [resolve_of_refusal hdirect hsibling hrefusal] at hcall
    cases hcall

/-- The turn of another customer with the same id in Lago makes no link either. -/
lemma directLinked_eq_none {c' : CachedCustomer} (h : s.1.Settled answers c)
    (hturn : Turned databaseMessage answers s c' s')
    (hfree : s.1.directLinked c.externalId = none) :
    s'.1.directLinked c.externalId = none := by
  by_cases hid : c.externalId = c'.externalId
  · cases hturn with
    | failed => exact hfree
    | refused hcall | left _ hcall =>
        rw [← hid] at hcall
        obtain ⟨rfl, -⟩ := h.of_call hcall
        exact hfree
    | filled hcall _ hupdated =>
        rw [← hid] at hcall
        obtain ⟨rfl, -⟩ := h.of_call hcall
        rw [hupdated]
        exact AccountTables.directLinked_backfillEmail hfree
  · exact hturn.effect.directLinked_eq_none (by simpa using hid) hfree

/-- The turn of any customer leaves a linked one linked. -/
lemma linked_turn {c' : CachedCustomer} (h : s.1.Settled answers c) (hlinked : s.1.Linked answers c)
    (hturn : Turned databaseMessage answers s c' s') : s'.1.Linked answers c := by
  obtain ⟨user, hcomes, hlink, hemail⟩ := hlinked
  obtain ⟨user', hcomes', hkept⟩ := hcomes.turn hturn.effect (h.directLinked_eq_none hturn)
  refine ⟨user', hcomes', ?_, fun htruthy => ?_⟩
  · rcases hkept.link with hnone | heq
    · exact absurd hnone hlink
    · rw [heq]
      exact hlink
  · rcases hemail htruthy with hsome | htaken
    · left
      rcases hkept.email with hnone | heq
      · exact absurd hnone hsome
      · rw [heq]
        exact hsome
    · right
      obtain ⟨other, hother⟩ := Option.ne_none_iff_exists'.mp htaken
      obtain ⟨other', hother', -⟩ := findExistingUserByEmail_turn hturn.effect hother
      rw [hother']
      exact Option.some_ne_none _

/-- The turn of any customer leaves a settled one settled. -/
lemma turn {c' : CachedCustomer} (h : s.1.Settled answers c)
    (hturn : Turned databaseMessage answers s c' s') : s'.1.Settled answers c := by
  have hfree := h.directLinked_eq_none hturn
  rcases h with hlinked | ⟨hdirect, hsibling, failure, hrefusal⟩
  · exact Or.inl (linked_turn (Or.inl hlinked) hlinked hturn)
  · exact Or.inr ⟨hfree hdirect, siblingAccount_turn_none hturn.effect hsibling, failure,
      hrefusal.turn hturn.effect⟩

/-- Another turn of a settled customer changes no account, and counts none. -/
lemma turn_eq (h : s.1.Settled answers c) (hturn : Turned databaseMessage answers s c s') :
    s'.1 = s.1 ∧ s'.2.provisioned = s.2.provisioned ∧
      s'.2.emailBackfilled = s.2.emailBackfilled := by
  cases hturn with
  | failed => exact ⟨rfl, rfl, rfl⟩
  | refused hcall | left _ hcall =>
      obtain ⟨rfl, user, -, rfl, -⟩ := h.of_call hcall
      exact ⟨rfl, rfl, rfl⟩
  | @filled mid updated result hcall hfills hupdated =>
      obtain ⟨rfl, user, huser, rfl, hemail⟩ := h.of_call hcall
      have htruthy : truthy c.email = true := by
        rw [FillsEmail, Bool.and_eq_true] at hfills
        exact hfills.1
      have hsome : user.email ≠ none := by
        intro hnone
        have hsound : (s.1.backfillEmail user.id (c.email.getD "")).Sound lower :=
          hupdated ▸ updated.sound
        rcases hemail htruthy with hsome | htaken
        · exact hsome hnone
        · exact htaken ((AccountTables.sound_backfillEmail s.1.sound huser hnone).mp hsound)
      refine ⟨CallEffect.ext_tables ?_, rfl, ?_⟩
      · exact hupdated.trans (AccountTables.backfillEmail_of_email huser hsome _)
      · have hempty := AccountTables.returnedByBackfill_of_email huser hsome
        simp only [User.reusedResult, hempty, List.length_nil, Nat.lt_irrefl, if_false]

end Settled

/-! ## A pass -/

section

variable (databaseMessage toLowerCase answers)

/-- A pass settles every customer of the cache, and names those without a linked account in its
errors. -/
lemma settled_reconcileAccounts (db : AccountDatabase lower) {lagoCustomers : List CachedCustomer}
    (hc : c ∈ cachedCustomers lagoCustomers) :
    let s' := db.reconcileAccounts databaseMessage toLowerCase answers lagoCustomers
    s'.1.Settled answers c ∧ (s'.1.Linked answers c ∨ Named c s'.2) := by
  have hturned : ∀ (s : AccountDatabase lower × ReconcileTally) (c : CachedCustomer),
      Turned databaseMessage answers s c
        (reconcileCustomer databaseMessage toLowerCase answers s c) :=
    fun _ _ => turned_reconcileCustomer
  refine foldl_reaches (I := fun _ => True)
    (P := fun s : AccountDatabase lower × ReconcileTally =>
      s.1.Settled answers c ∧ (s.1.Linked answers c ∨ Named c s.2)) hc (fun _ _ _ _ => trivial)
    (fun s c' hs => ⟨hs.1.turn (hturned s c'), ?_⟩)
    (fun s _ => ⟨(hturned s c).settled, (hturned s c).linked_or_refused.imp_right And.right⟩)
    trivial
  rcases hs.2 with hlinked | ⟨error, herror, hid⟩
  · exact Or.inl (hs.1.linked_turn hlinked (hturned s c'))
  · exact Or.inr ⟨error, (hturned s c').errors_subset herror, hid⟩

/-- What a pass does to the tables. -/
lemma effect_reconcileAccounts (db : AccountDatabase lower) (lagoCustomers : List CachedCustomer) :
    ReconcileEffect ((cachedCustomers lagoCustomers).map CachedCustomer.externalId)
      db.toAccountTables
      (db.reconcileAccounts databaseMessage toLowerCase answers lagoCustomers).1.toAccountTables :=
  by
  refine List.foldlRecOn (motive := fun s : AccountDatabase lower × ReconcileTally =>
    ReconcileEffect ((cachedCustomers lagoCustomers).map CachedCustomer.externalId)
      db.toAccountTables s.1.toAccountTables) _ _ (.refl _) fun s hs c hc => hs.trans ?_
  have hturn : Turned databaseMessage answers s c
      (reconcileCustomer databaseMessage toLowerCase answers s c) := turned_reconcileCustomer
  refine hturn.effect.mono fun id hid => ?_
  obtain rfl := List.mem_singleton.mp hid
  exact List.mem_map_of_mem hc

/-- A pass over settled customers changes no account. -/
lemma reconcile_of_settled (cs : List CachedCustomer) (s : AccountDatabase lower × ReconcileTally)
    (h : ∀ c ∈ cs, s.1.Settled answers c) :
    let s' := cs.foldl (reconcileCustomer databaseMessage toLowerCase answers) s
    s'.1 = s.1 ∧ s'.2.provisioned = s.2.provisioned ∧
      s'.2.emailBackfilled = s.2.emailBackfilled := by
  induction cs generalizing s with
  | nil => exact ⟨rfl, rfl, rfl⟩
  | cons c cs ih =>
      have hturn : Turned databaseMessage answers s c
          (reconcileCustomer databaseMessage toLowerCase answers s c) := turned_reconcileCustomer
      obtain ⟨hdb, hprovisioned, hfilled⟩ := (h c List.mem_cons_self).turn_eq hturn
      obtain ⟨hdb', hprovisioned', hfilled'⟩ :=
        ih (reconcileCustomer databaseMessage toLowerCase answers s c) fun c' hc' => by
          rw [hdb]
          exact h c' (List.mem_cons_of_mem c hc')
      exact ⟨hdb'.trans hdb, hprovisioned'.trans hprovisioned, hfilled'.trans hfilled⟩

end

/-! ## The two passes -/

variable (databaseMessage : String) (toLowerCase : String → String)
  (fetched : String → Except String LagoCustomer) (db : AccountDatabase lower)

/-- A pass over customers that an earlier pass has been over, with the same answers of Lago, writes
nothing: neither an account nor an e-mail address. -/
theorem reconcileLocalState_twice (lagoCustomers lagoCustomers' : List CachedCustomer)
    (userMappings userMappings' : List SubscribedMapping)
    (lagoSubscriptions lagoSubscriptions' : List CachedSubscription)
    (hsub : lagoCustomers' ⊆ lagoCustomers) :
    let first := db.reconcileLocalState databaseMessage toLowerCase fetched lagoCustomers
      userMappings lagoSubscriptions
    let second := first.1.reconcileLocalState databaseMessage toLowerCase fetched lagoCustomers'
      userMappings' lagoSubscriptions'
    second.1 = first.1 ∧ second.2.upserted = 0 := by
  intro first second
  have hsettled : ∀ c ∈ cachedCustomers lagoCustomers', first.1.Settled fetched c := by
    intro c hc
    obtain ⟨hmem, hlive⟩ := List.mem_filter.mp hc
    exact (settled_reconcileAccounts databaseMessage toLowerCase fetched db
      (List.mem_filter.mpr ⟨hsub hmem, hlive⟩)).1
  obtain ⟨hdb, hprovisioned, hfilled⟩ := reconcile_of_settled databaseMessage toLowerCase fetched
    (cachedCustomers lagoCustomers') (first.1, ⟨0, 0, 0, []⟩) hsettled
  refine ⟨hdb, ?_⟩
  calc second.2.upserted
    _ = 0 + 0 := congrArg₂ (· + ·) hprovisioned hfilled
    _ = 0 := rfl

/-- The first pass creates an account without an e-mail address, and fills it in from the cache; the
second one does nothing. -/
theorem reconcileLocalState_twice_filled :
    let reconcile := fun db : AccountDatabase String.toLower =>
      db.reconcileLocalState "" String.toLower (fun _ => .ok ⟨none, some "Eve", none, none⟩)
        [⟨"cust_a", some "eve@example.com", none⟩] [] []
    let first := reconcile ⟨⟨.empty, .empty⟩, by decide⟩
    first.2.upserted = 2 ∧ (reconcile first.1).1 = first.1 ∧ (reconcile first.1).2.upserted = 0 :=
  ⟨rfl,
    reconcileLocalState_twice "" String.toLower _ _ _ _ [] [] [] [] (List.Subset.refl _)⟩

/-- A pass overwrites nothing that an account has, links accounts to cached customers only, and
leaves each cached customer that its errors do not name with a linked account, to which a call for
the customer comes. -/
theorem reconcileLocalState_keeps (lagoCustomers : List CachedCustomer)
    (userMappings : List SubscribedMapping) (lagoSubscriptions : List CachedSubscription) :
    let (after, result) := db.reconcileLocalState databaseMessage toLowerCase fetched lagoCustomers
      userMappings lagoSubscriptions
    ReconcileEffect ((cachedCustomers lagoCustomers).map CachedCustomer.externalId)
        db.toAccountTables after.toAccountTables ∧
      ∀ c ∈ cachedCustomers lagoCustomers,
        (∃ error ∈ result.errors, error.lagoId = some c.externalId) ∨
          ∃ user ∈ after.users.rows, user.lagoCustomerExternalId ≠ none ∧
            after.resolveOrCreateCustomerAccount c.externalId (fetched c.externalId) =
              .ok (after, user.reusedResult) := by
  refine ⟨effect_reconcileAccounts databaseMessage toLowerCase fetched db lagoCustomers, ?_⟩
  intro c hc
  rcases (settled_reconcileAccounts databaseMessage toLowerCase fetched db hc).2 with
    ⟨user, hcomes, hlinked, -⟩ | ⟨error, herror, hid⟩
  · exact Or.inr ⟨user, mem_of_comesTo hcomes, hlinked, resolve_of_linked hcomes hlinked⟩
  · exact Or.inl ⟨error, List.mem_append_left _ herror, hid⟩

end AccountDatabase

end ExpresSync
