import ExpresSync.Model.CustomerAccounts

/-!
# One account, one Lago customer

The link of an account to a Lago customer is in two places, its own row and its mappings.  The link
in the row is written once (`WriteOnce`), so an account that is returned for one customer only at a
time is returned for one customer only in a whole run.  Whether the call that returns it looks for
links to other customers is another matter: the look-up by e-mail looks at the mappings only, and
the direct and the sibling look-up look at neither.
-/

namespace ExpresSync

variable {lower : String → String}

namespace AccountTables

variable {tables : AccountTables} {lagoId : String}

/-! ## Look-ups -/

lemma of_directLinked {user : User} (h : tables.directLinked lagoId = some user) :
    user ∈ tables.users.rows ∧ user.lagoCustomerExternalId = some lagoId :=
  ⟨List.mem_of_find?_eq_some h, by simpa using List.find?_some h⟩

lemma directLinked_eq_none : tables.directLinked lagoId = none ↔
    ∀ user ∈ tables.users.rows, user.lagoCustomerExternalId ≠ some lagoId := by
  simp [directLinked]

lemma mem_of_siblingAccount {user : User} (h : tables.siblingAccount lagoId = some user) :
    user ∈ tables.users.rows := by
  obtain ⟨id, -, hid⟩ := Option.bind_eq_some_iff.mp h
  exact List.mem_of_find?_eq_some hid

lemma of_findExistingUserByEmail {user : User} {email : String}
    (h : tables.findExistingUserByEmail lower email = some user) :
    user ∈ tables.users.rows ∧ user.email.map lower = some (lower email) :=
  ⟨List.mem_of_find?_eq_some h, by simpa using List.find?_some h⟩

lemma findExistingUserByEmail_eq_none {email : String} :
    tables.findExistingUserByEmail lower email = none ↔
      ∀ user ∈ tables.users.rows, user.email.map lower ≠ some (lower email) := by
  simp [findExistingUserByEmail]

lemma findConflictingLagoLink_eq_none {userId : ℕ} :
    tables.findConflictingLagoLink userId lagoId = none ↔
      ∀ mapping ∈ tables.mappings.rows, mapping.userId = some userId →
        ∀ other, mapping.lagoCustomerExternalId = some other → other = lagoId := by
  simp only [findConflictingLagoLink, List.find?_eq_none, List.mem_filterMap,
    Option.ite_none_right_eq_some, decide_eq_true_eq, not_not]
  constructor
  · intro h mapping hmapping huser other hother
    exact h other ⟨mapping, hmapping, huser, hother⟩
  · rintro h other ⟨mapping, hmapping, huser, hother⟩
    exact h mapping hmapping huser other hother

lemma mem_carried {userId : ℕ} : lagoId ∈ tables.carried userId ↔
    (∃ mapping ∈ tables.mappings.rows, mapping.userId = some userId ∧
        mapping.lagoCustomerExternalId = some lagoId) ∨
      ∃ user ∈ tables.users.rows, user.id = userId ∧
        user.lagoCustomerExternalId = some lagoId := by
  simp only [carried, List.mem_append, List.mem_filterMap, Option.ite_none_right_eq_some]

/-- An account carries no customer but this one: no other is in its mappings, and none in its
row. -/
lemma forall_carried {user : User} (huser : user ∈ tables.users.rows) :
    (∀ other ∈ tables.carried user.id, other = lagoId) ↔
      tables.findConflictingLagoLink user.id lagoId = none ∧
        ∀ other, user.lagoCustomerExternalId = some other → other = lagoId := by
  rw [findConflictingLagoLink_eq_none]
  constructor
  · intro h
    refine ⟨fun mapping hmapping hid other hother => ?_, fun other hother => ?_⟩
    · exact h other (mem_carried.mpr (Or.inl ⟨mapping, hmapping, hid, hother⟩))
    · exact h other (mem_carried.mpr (Or.inr ⟨user, huser, rfl, hother⟩))
  · rintro ⟨hmappings, hrow⟩ other hother
    rcases mem_carried.mp hother with ⟨mapping, hmapping, hid, hlago⟩ | ⟨row, hmem, hid, hlago⟩
    · exact hmappings mapping hmapping hid other hlago
    · obtain rfl := SerialTable.eq_of_key hmem huser hid
      exact hrow other hlago

/-- An account that is not there yet carries nothing. -/
lemma not_mem_carried_next (h : tables.Sound lower) :
    lagoId ∉ tables.carried tables.users.next := by
  intro hmem
  have hold : tables.HasUser tables.users.next := by
    rcases mem_carried.mp hmem with ⟨mapping, hmapping, hid, -⟩ | ⟨row, hrow, hid, -⟩
    · exact h.2.2 mapping hmapping _ (by simp [hid])
    · exact ⟨row, hrow, hid⟩
  obtain ⟨row, hrow, hid⟩ := hold
  exact Nat.lt_irrefl _ (hid ▸ tables.users.key_lt row hrow)

/-! ## Statements -/

lemma checked_eq_some {db : AccountDatabase lower} :
    tables.checked lower = some db ↔ tables.Sound lower ∧ db.toAccountTables = tables := by
  obtain ⟨dbTables, hdb⟩ := db
  simp only [checked]
  split
  · next h =>
    simp only [Option.some.injEq, AccountDatabase.mk.injEq]
    constructor
    · intro heq
      exact ⟨h, heq.symm⟩
    · intro heq
      exact heq.2.symm
  · next h =>
    constructor
    · intro heq
      cases heq
    · intro heq
      exact absurd heq.1 h

lemma checked_of_sound (h : tables.Sound lower) : tables.checked lower = some ⟨tables, h⟩ :=
  dif_pos h

lemma not_sameEmail_symm (a b : User) (h : ¬a.SameEmail lower b) : ¬b.SameEmail lower a := by
  rintro ⟨hsome, heq⟩
  have hsome' : a.email.isSome = true := by
    have hmap := congrArg Option.isSome heq
    simpa [hsome] using hmap.symm
  exact h ⟨hsome', heq.symm⟩

lemma not_sameLink_symm (a b : User) (h : ¬a.SameLink b) : ¬b.SameLink a := by
  rintro ⟨hsome, heq⟩
  exact h ⟨heq ▸ hsome, heq.symm⟩

lemma mem_backfillLink {userId : ℕ} {user : User} :
    user ∈ (tables.backfillLink userId lagoId).users.rows ↔ ∃ old ∈ tables.users.rows,
      user = if old.id = userId ∧ old.lagoCustomerExternalId = none then
        { old with lagoCustomerExternalId := some lagoId } else old := by
  simp only [backfillLink, SerialTable.mem_update, Bool.and_eq_true, decide_eq_true_eq,
    Option.isNone_iff_eq_none]

/-- A link to a customer that no account is linked to keeps the constraints. -/
lemma sound_backfillLink {userId : ℕ} (h : tables.Sound lower)
    (hfree : tables.directLinked lagoId = none) :
    (tables.backfillLink userId lagoId).Sound lower := by
  obtain ⟨hemails, hlinks, husers⟩ := h
  refine ⟨?_, ?_, ?_⟩
  · simp only [backfillLink]
    exact SerialTable.pairs_update_of_imp not_sameEmail_symm hemails fun a b _ hab => hab
  · simp only [backfillLink]
    refine SerialTable.pairs_update_of_single not_sameLink_symm hlinks ?_ ?_
    · intro a _ b _ ha hb
      simp only [Bool.and_eq_true, decide_eq_true_eq] at ha hb
      rw [ha.1, hb.1]
    · intro user _ _ other hother _ hsame
      exact directLinked_eq_none.mp hfree other hother hsame.2.symm
  · intro mapping hmapping id hid
    obtain ⟨user, huser, heq⟩ := husers mapping hmapping id hid
    refine ⟨_, mem_backfillLink.mpr ⟨user, huser, rfl⟩, ?_⟩
    split
    · exact heq
    · exact heq

/-! ## The link in the row is written once -/

/-- Every account that was there already has kept its link, unless it had none. -/
def WriteOnce (before after : AccountTables) : Prop :=
  before.users.next ≤ after.users.next ∧
    ∀ user ∈ after.users.rows, user.id < before.users.next → ∃ old ∈ before.users.rows,
      old.id = user.id ∧
        (old.lagoCustomerExternalId = none ∨
          user.lagoCustomerExternalId = old.lagoCustomerExternalId)

lemma writeOnce_of_users_eq {after : AccountTables} (h : after.users = tables.users) :
    tables.WriteOnce after := by
  refine ⟨by rw [h], fun user huser _ => ⟨user, h ▸ huser, rfl, Or.inr rfl⟩⟩

lemma writeOnce_insertUser {name email : Option String} {role : UserRole} {link : Option String} :
    tables.WriteOnce (tables.insertUser name email role link) := by
  refine ⟨Nat.le_succ _, fun user huser hlt => ?_⟩
  rcases SerialTable.mem_insert.mp huser with hold | rfl
  · exact ⟨user, hold, rfl, Or.inr rfl⟩
  · exact absurd hlt (Nat.lt_irrefl _)

lemma writeOnce_update {sel : User → Bool} {f : User → User} {hf : ∀ user, (f user).id = user.id}
    {mappings : SerialTable AccountMapping.id}
    (hlink : ∀ user, sel user = true → user.lagoCustomerExternalId = none ∨
      (f user).lagoCustomerExternalId = user.lagoCustomerExternalId) :
    tables.WriteOnce ⟨tables.users.update sel f hf, mappings⟩ := by
  refine ⟨Nat.le_refl _, fun user huser _ => ?_⟩
  change user ∈ (tables.users.update sel f hf).rows at huser
  obtain ⟨old, hold, rfl⟩ := SerialTable.mem_update.mp huser
  refine ⟨old, hold, ?_⟩
  split
  · next hsel => exact ⟨(hf old).symm, hlink old hsel⟩
  · exact ⟨rfl, Or.inr rfl⟩

lemma writeOnce_backfillLink {userId : ℕ} :
    tables.WriteOnce (tables.backfillLink userId lagoId) := by
  refine writeOnce_update fun user hsel => Or.inl ?_
  simp only [Bool.and_eq_true, Option.isNone_iff_eq_none] at hsel
  exact hsel.2

lemma writeOnce_deleteUser {id : ℕ} : tables.WriteOnce (tables.deleteUser id) :=
  ⟨Nat.le_refl _, fun user huser _ =>
    ⟨user, (SerialTable.mem_delete.mp huser).1, rfl, Or.inr rfl⟩⟩

end AccountTables

/-! ## What a call returns -/

/-- The e-mail address Lago has for the customer, when it is one. -/
def fetchedEmail : Except String LagoCustomer → Option String
  | .error _ => none
  | .ok customer => (trimmed customer.email).filter fun email => !isMalformedEmail email

namespace AccountDatabase

variable {db after : AccountDatabase lower} {lagoId : String} {fetched : Except String LagoCustomer}
  {result : ResolveCustomerAccountResult}

lemma of_reuse {user : User} (h : db.reuse user lagoId = .ok (after, result)) :
    after.toAccountTables = db.backfillLink user.id lagoId ∧ result = user.reusedResult := by
  unfold reuse at h
  split at h
  · cases h
  · next checked hchecked =>
    obtain ⟨rfl, rfl⟩ : checked = after ∧ user.reusedResult = result := by simpa using h
    exact ⟨(AccountTables.checked_eq_some.mp hchecked).2, rfl⟩

lemma exists_reuse (user : User) (hfree : db.directLinked lagoId = none) :
    ∃ after, db.reuse user lagoId = .ok (after, user.reusedResult) := by
  have hsound : (db.backfillLink user.id lagoId).Sound lower :=
    AccountTables.sound_backfillLink db.sound hfree
  exact ⟨⟨_, hsound⟩, by rw [reuse, AccountTables.checked_of_sound hsound]⟩

lemma of_createUser {email : Option String} {customer : LagoCustomer}
    (h : db.createUser email lagoId customer = .ok (after, result)) :
    after.toAccountTables =
        db.insertUser (buildDisplayName customer email) email .customer (some lagoId) ∧
      result.userId = db.users.next := by
  unfold createUser at h
  split at h
  · cases h
  · next created hcreated =>
    simp only [Except.ok.injEq, Prod.mk.injEq] at h
    obtain ⟨rfl, rfl⟩ := h
    exact ⟨(AccountTables.checked_eq_some.mp hcreated).2, rfl⟩

/-- The account the e-mail address leads to, when the call reuses it. -/
def emailAccount (db : AccountDatabase lower) (lagoId : String)
    (fetched : Except String LagoCustomer) : Option User :=
  ((fetchedEmail fetched).bind (db.findExistingUserByEmail lower)).filter fun user =>
    decide (user.role ≠ .admin) && !truthy (db.findConflictingLagoLink user.id lagoId)

/-- The account that a call comes to, by the first look-up that finds one. -/
inductive ComesTo (db : AccountDatabase lower) (lagoId : String)
    (fetched : Except String LagoCustomer) : User → Prop where
  | direct {user} (h : db.directLinked lagoId = some user) : ComesTo db lagoId fetched user
  | sibling {user} (hdirect : db.directLinked lagoId = none)
      (h : db.siblingAccount lagoId = some user) : ComesTo db lagoId fetched user
  | email {user} (hdirect : db.directLinked lagoId = none)
      (hsibling : db.siblingAccount lagoId = none)
      (h : db.emailAccount lagoId fetched = some user) : ComesTo db lagoId fetched user

/-- What a call does that returns an account: it returns the account it comes to, and leaves the
link in its row if there is none, or it creates one. -/
lemma of_resolve
    (h : db.resolveOrCreateCustomerAccount lagoId fetched = .ok (after, result)) :
    (∃ user, db.ComesTo lagoId fetched user ∧ result.userId = user.id ∧
        (after = db ∧ user.lagoCustomerExternalId = some lagoId ∨
          after.toAccountTables = db.backfillLink user.id lagoId)) ∨
      result.userId = db.users.next ∧ ∃ customer, fetched = .ok customer ∧
        after.toAccountTables = db.insertUser (buildDisplayName customer (trimmed customer.email))
          (trimmed customer.email) .customer (some lagoId) := by
  unfold resolveOrCreateCustomerAccount at h
  split at h
  · next user hdirect =>
    obtain ⟨rfl, rfl⟩ : db = after ∧ user.reusedResult = result := by simpa using h
    exact Or.inl ⟨user, .direct hdirect, rfl,
      Or.inl ⟨rfl, (AccountTables.of_directLinked hdirect).2⟩⟩
  · next hdirect =>
    split at h
    · next user hsibling =>
      obtain ⟨hafter, rfl⟩ := of_reuse h
      exact Or.inl ⟨user, .sibling hdirect hsibling, rfl, Or.inr hafter⟩
    · next hsibling =>
      split at h
      · cases h
      · next customer =>
        split at h
        · next hemail =>
          obtain ⟨hafter, hid⟩ := of_createUser h
          exact Or.inr ⟨hid, customer, rfl, hemail ▸ hafter⟩
        · next email hemail =>
          split at h
          · cases h
          · next hvalid =>
            have hfetched : fetchedEmail (.ok customer) = some email := by
              simp [fetchedEmail, hemail, hvalid]
            unfold resolveOrCreateForEmail at h
            split at h
            · obtain ⟨hafter, hid⟩ := of_createUser h
              exact Or.inr ⟨hid, customer, rfl, hemail ▸ hafter⟩
            · next user huser =>
              split at h
              · cases h
              · next hrole =>
                simp only at h
                split at h
                · cases h
                · next hconflict =>
                  obtain ⟨hafter, rfl⟩ := of_reuse h
                  refine Or.inl ⟨user, .email hdirect hsibling ?_, rfl, Or.inr hafter⟩
                  rw [emailAccount, hfetched, Option.bind_some, huser, Option.filter_some,
                    if_pos]
                  simp [hrole, hconflict]

/-- A call that comes to an account returns it. -/
lemma resolve_of_comesTo {user : User} (h : db.ComesTo lagoId fetched user) :
    ∃ after, db.resolveOrCreateCustomerAccount lagoId fetched = .ok (after, user.reusedResult) := by
  cases h with
  | direct h => exact ⟨db, by simp only [resolveOrCreateCustomerAccount, h]⟩
  | sibling hdirect h =>
      obtain ⟨after, hafter⟩ := exists_reuse user hdirect
      exact ⟨after, by simpa only [resolveOrCreateCustomerAccount, hdirect, h] using hafter⟩
  | email hdirect hsibling h =>
      obtain ⟨after, hafter⟩ := exists_reuse user hdirect
      obtain ⟨hfound, hreuse⟩ := Option.filter_eq_some_iff.mp h
      obtain ⟨email, hemail, huser⟩ := Option.bind_eq_some_iff.mp hfound
      simp only [Bool.and_eq_true, decide_eq_true_eq, Bool.not_eq_true'] at hreuse
      refine ⟨after, ?_⟩
      cases fetched with
      | error msg => cases hemail
      | ok customer =>
          obtain ⟨htrimmed, hvalid⟩ := Option.filter_eq_some_iff.mp hemail
          simp only [Bool.not_eq_true'] at hvalid
          simp only [resolveOrCreateCustomerAccount, hdirect, hsibling, htrimmed, hvalid,
            resolveOrCreateForEmail, huser, hreuse.1, hreuse.2, if_false, Bool.false_eq_true]
          exact hafter

lemma mem_of_comesTo {user : User} (h : db.ComesTo lagoId fetched user) : user ∈ db.users.rows := by
  cases h with
  | direct h => exact (AccountTables.of_directLinked h).1
  | sibling _ h => exact AccountTables.mem_of_siblingAccount h
  | email _ _ h =>
      obtain ⟨email, -, huser⟩ := Option.bind_eq_some_iff.mp (Option.filter_eq_some_iff.mp h).1
      exact (AccountTables.of_findExistingUserByEmail huser).1

end AccountDatabase

/-! ## Runs -/

/-- No account has been returned for two Lago customers. -/
def OneCustomerEach (returned : List (ℕ × String)) : Prop :=
  ∀ r ∈ returned, ∀ r' ∈ returned, r.1 = r'.1 → r.2 = r'.2

instance (returned : List (ℕ × String)) : Decidable (OneCustomerEach returned) :=
  inferInstanceAs (Decidable (∀ r ∈ returned, ∀ r' ∈ returned, _ → _))

namespace AccountWorld

variable {w : AccountWorld lower} {a : AccountAction}

/-- An account that a call returns carries no other Lago customer. -/
def ReturnsUnclaimed (w : AccountWorld lower) (a : AccountAction) : Prop :=
  ∀ r ∈ (w.answer a).toList, ∀ lagoId ∈ w.db.carried r.1, lagoId = r.2

instance (w : AccountWorld lower) (a : AccountAction) : Decidable (w.ReturnsUnclaimed a) :=
  inferInstanceAs (Decidable (∀ r ∈ (w.answer a).toList, ∀ lagoId ∈ w.db.carried r.1, lagoId = r.2))

/-- The account that the link in its row leads to has no mapping of another Lago customer.  An
account that the mappings of the customer lead to, or else the e-mail address, has none either, and
no link in its row. -/
def FindsUnlinked (w : AccountWorld lower) : AccountAction → Prop
  | .resolves lagoId fetched =>
      (∀ user, w.db.directLinked lagoId = some user →
        w.db.findConflictingLagoLink user.id lagoId = none) ∧
      (w.db.directLinked lagoId = none → ∀ user, w.db.siblingAccount lagoId = some user →
        user.lagoCustomerExternalId = none ∧
          w.db.findConflictingLagoLink user.id lagoId = none) ∧
      (w.db.directLinked lagoId = none → w.db.siblingAccount lagoId = none →
        ∀ user, w.db.emailAccount lagoId fetched = some user →
          user.lagoCustomerExternalId = none ∧
            w.db.findConflictingLagoLink user.id lagoId = none)
  | _ => True

lemma returnsUnclaimed_resolves {lagoId : String} {fetched : Except String LagoCustomer} :
    w.ReturnsUnclaimed (.resolves lagoId fetched) ↔ ∀ user, w.db.ComesTo lagoId fetched user →
      ∀ other ∈ w.db.carried user.id, other = lagoId := by
  constructor
  · intro h user hcomes
    obtain ⟨after, hafter⟩ := AccountDatabase.resolve_of_comesTo hcomes
    exact h (user.id, lagoId) (by simp [answer, hafter, User.reusedResult])
  · intro h r hr other hother
    simp only [answer] at hr
    split at hr
    · simp at hr
    · next after result hresolve =>
      obtain rfl : r = (result.userId, lagoId) := by simpa using hr
      rcases AccountDatabase.of_resolve hresolve with ⟨user, hcomes, hid, -⟩ | ⟨hid, -⟩
      · exact h user hcomes other (hid ▸ hother)
      · rw [hid] at hother
        exact absurd hother (AccountTables.not_mem_carried_next w.db.sound)

/-- The call refuses every account that carries another customer exactly when the look-ups find
none. -/
theorem findsUnlinked_iff : w.FindsUnlinked a ↔ w.ReturnsUnclaimed a := by
  cases a with
  | resolves lagoId fetched =>
      rw [returnsUnclaimed_resolves]
      have hunlinked : ∀ user ∈ w.db.users.rows, w.db.directLinked lagoId = none →
          ((∀ other ∈ w.db.carried user.id, other = lagoId) ↔
            user.lagoCustomerExternalId = none ∧
              w.db.findConflictingLagoLink user.id lagoId = none) := by
        intro user huser hdirect
        have hother := AccountTables.directLinked_eq_none.mp hdirect user huser
        rw [AccountTables.forall_carried huser, and_comm]
        refine and_congr_left fun _ => ?_
        cases hlink : user.lagoCustomerExternalId with
        | none => simp
        | some other =>
            rw [hlink] at hother
            simpa using hother
      constructor
      · rintro ⟨hdirect, hsibling, hemail⟩ user hcomes
        have huser := AccountDatabase.mem_of_comesTo hcomes
        cases hcomes with
        | direct h =>
            have hlink := (AccountTables.of_directLinked h).2
            refine (AccountTables.forall_carried huser).mpr ⟨hdirect user h, fun other hother => ?_⟩
            exact Option.some.inj (hother.symm.trans hlink)
        | sibling hnone h => exact (hunlinked user huser hnone).mpr (hsibling hnone user h)
        | email hnone hnone' h =>
            exact (hunlinked user huser hnone).mpr (hemail hnone hnone' user h)
      · intro h
        refine ⟨fun user hdirect => ?_, fun hnone user hsibling => ?_,
          fun hnone hnone' user hemail => ?_⟩
        · have hcomes : w.db.ComesTo lagoId fetched user := .direct hdirect
          exact ((AccountTables.forall_carried (AccountDatabase.mem_of_comesTo hcomes)).mp
            (h user hcomes)).1
        · have hcomes : w.db.ComesTo lagoId fetched user := .sibling hnone hsibling
          exact (hunlinked user (AccountDatabase.mem_of_comesTo hcomes) hnone).mp (h user hcomes)
        · have hcomes : w.db.ComesTo lagoId fetched user := .email hnone hnone' hemail
          exact (hunlinked user (AccountDatabase.mem_of_comesTo hcomes) hnone).mp (h user hcomes)
  | _ => exact iff_of_true trivial fun r hr => absurd hr List.not_mem_nil

/-! ### The invariant -/

/-- Every account that has been returned, as long as it is there, is linked to the customer it was
returned for. -/
def ReturnedLinked (w : AccountWorld lower) : Prop :=
  ∀ r ∈ w.returned, r.1 < w.db.users.next ∧
    ∀ user ∈ w.db.users.rows, user.id = r.1 → user.lagoCustomerExternalId = some r.2

lemma returnedLinked_of_writeOnce {w' : AccountWorld lower} (h : w.ReturnedLinked)
    (honce : w.db.WriteOnce w'.db.toAccountTables) (hreturned : w'.returned = w.returned) :
    w'.ReturnedLinked := by
  intro r hr
  obtain ⟨hlt, hlinked⟩ := h r (hreturned ▸ hr)
  refine ⟨hlt.trans_le honce.1, fun user huser hid => ?_⟩
  obtain ⟨old, hold, holdId, hkept⟩ := honce.2 user huser (hid ▸ hlt)
  have hlink : old.lagoCustomerExternalId = some r.2 := hlinked old hold (holdId.trans hid)
  rcases hkept with hnone | hsame
  · rw [hnone] at hlink
    cases hlink
  · rw [hsame, hlink]

/-- What other code does to the tables leaves the links that are there. -/
lemma writeOnce_of_write {w' : AccountWorld lower} {tables : AccountTables}
    (h : w.write tables = some w') (honce : w.db.WriteOnce tables) :
    w.db.WriteOnce w'.db.toAccountTables ∧ w'.returned = w.returned := by
  obtain ⟨db, hdb, rfl⟩ := Option.map_eq_some_iff.mp h
  rw [(AccountTables.checked_eq_some.mp hdb).2]
  exact ⟨honce, rfl⟩

/-- A call that returns an account adds to the invariant that the account is linked to its customer
afterwards. -/
lemma returned_concat {after : AccountDatabase lower} {id : ℕ} {lagoId : String}
    (h : w.ReturnedLinked) (hone : OneCustomerEach w.returned)
    (honce : w.db.WriteOnce after.toAccountTables) (hlt : id < after.users.next)
    (hnew : ∀ user ∈ after.users.rows, user.id = id → user.lagoCustomerExternalId = some lagoId)
    (hold : ∀ r ∈ w.returned, r.1 = id → r.2 = lagoId) :
    ReturnedLinked ⟨after, w.returned ++ [(id, lagoId)]⟩ ∧
      OneCustomerEach (w.returned ++ [(id, lagoId)]) := by
  have hkept : ReturnedLinked ⟨after, w.returned⟩ := returnedLinked_of_writeOnce h honce rfl
  constructor
  · intro r hr
    rcases List.mem_append.mp hr with hr | hr
    · exact hkept r hr
    · obtain rfl := List.mem_singleton.mp hr
      exact ⟨hlt, hnew⟩
  · intro r hr r' hr' heq
    rcases List.mem_append.mp hr with hr | hr
    · rcases List.mem_append.mp hr' with hr' | hr'
      · exact hone r hr r' hr' heq
      · obtain rfl := List.mem_singleton.mp hr'
        exact hold r hr heq
    · obtain rfl := List.mem_singleton.mp hr
      rcases List.mem_append.mp hr' with hr' | hr'
      · exact (hold r' hr' heq.symm).symm
      · obtain rfl := List.mem_singleton.mp hr'
        rfl

lemma keeps_of_resolves {w' : AccountWorld lower} {lagoId : String}
    {fetched : Except String LagoCustomer} (h : w.ReturnedLinked)
    (hone : OneCustomerEach w.returned) (hunclaimed : w.ReturnsUnclaimed (.resolves lagoId fetched))
    (hstep : w.step (.resolves lagoId fetched) = some w') :
    w'.ReturnedLinked ∧ OneCustomerEach w'.returned := by
  simp only [step] at hstep
  split at hstep
  · obtain rfl := Option.some.inj hstep
    exact ⟨h, hone⟩
  · next after result hresolve =>
    obtain rfl := Option.some.inj hstep
    rcases AccountDatabase.of_resolve hresolve with
      ⟨user, hcomes, hid, hafter⟩ | ⟨hid, customer, -, hafter⟩
    · have huser := AccountDatabase.mem_of_comesTo hcomes
      have hcarried := returnsUnclaimed_resolves.mp hunclaimed user hcomes
      have hlink := ((AccountTables.forall_carried huser).mp hcarried).2
      rw [hid]
      rcases hafter with ⟨rfl, hlinked⟩ | hafter
      · refine returned_concat h hone (AccountTables.writeOnce_of_users_eq rfl)
          (w.db.users.key_lt user huser) ?_ ?_
        · intro row hrow hrowId
          rwa [SerialTable.eq_of_key hrow huser hrowId]
        · intro r hr hrId
          exact hlink r.2 ((h r hr).2 user huser hrId.symm)
      · refine returned_concat h hone (hafter ▸ AccountTables.writeOnce_backfillLink) ?_ ?_ ?_
        · rw [hafter]
          exact w.db.users.key_lt user huser
        · rw [hafter]
          intro row hrow hrowId
          obtain ⟨old, hold, rfl⟩ := AccountTables.mem_backfillLink.mp hrow
          split at hrowId
          · next hnull => rw [if_pos hnull]
          · next hkept =>
            rw [if_neg hkept]
            obtain rfl := SerialTable.eq_of_key hold huser hrowId
            obtain ⟨other, hother⟩ := Option.ne_none_iff_exists'.mp fun hnone =>
              hkept ⟨rfl, hnone⟩
            rw [hother, hlink other hother]
        · intro r hr hrId
          exact hlink r.2 ((h r hr).2 user huser hrId.symm)
    · rw [hid]
      refine returned_concat h hone (hafter ▸ AccountTables.writeOnce_insertUser) ?_ ?_ ?_
      · rw [hafter]
        exact Nat.lt_succ_self _
      · rw [hafter]
        intro row hrow hrowId
        rcases SerialTable.mem_insert.mp hrow with hold | rfl
        · exact absurd hrowId (w.db.users.key_lt row hold).ne
        · rfl
      · intro r hr hrId
        exact absurd hrId (h r hr).1.ne

theorem keeps_returned {w' : AccountWorld lower}
    (h : w.ReturnedLinked ∧ OneCustomerEach w.returned) (hunclaimed : w.ReturnsUnclaimed a)
    (hstep : w.step a = some w') : w'.ReturnedLinked ∧ OneCustomerEach w'.returned := by
  have hwrite : ∀ {tables : AccountTables}, w.write tables = some w' →
      w.db.WriteOnce tables → w'.ReturnedLinked ∧ OneCustomerEach w'.returned := by
    intro tables hwrite honce
    obtain ⟨honce', hreturned⟩ := writeOnce_of_write hwrite honce
    exact ⟨returnedLinked_of_writeOnce h.1 honce' hreturned, hreturned ▸ h.2⟩
  cases a with
  | resolves lagoId fetched => exact keeps_of_resolves h.1 h.2 hunclaimed hstep
  | mappingInserted userId lagoId createdAt =>
      simp only [step, Option.ite_none_right_eq_some] at hstep
      exact hwrite hstep.2 (AccountTables.writeOnce_of_users_eq rfl)
  | mappingUpdated id userId lagoId =>
      simp only [step, Option.ite_none_right_eq_some] at hstep
      exact hwrite hstep.2 (AccountTables.writeOnce_of_users_eq rfl)
  | mappingDeleted id => exact hwrite hstep (AccountTables.writeOnce_of_users_eq rfl)
  | userInserted name email role => exact hwrite hstep AccountTables.writeOnce_insertUser
  | userDeleted id => exact hwrite hstep AccountTables.writeOnce_deleteUser
  | emailSet id email =>
      exact hwrite hstep (AccountTables.writeOnce_update fun _ _ => Or.inr rfl)
  | roleSet id role =>
      exact hwrite hstep (AccountTables.writeOnce_update fun _ _ => Or.inr rfl)

end AccountWorld

/-- In every run in which the look-ups of each call come to an account without another link, every
account that carries a customer is refused for the others, and no account is returned for two of
them; in a run in which some look-up comes to another account, one of the two fails. -/
theorem provisioning_injective_iff (db : AccountDatabase lower) (as : List AccountAction) :
    Transition.Meets AccountWorld.step AccountWorld.FindsUnlinked ⟨db, []⟩ as ↔
      Transition.EachStep AccountWorld.step
        (fun w a w' => w.ReturnsUnclaimed a ∧ OneCustomerEach w'.returned) ⟨db, []⟩ as := by
  refine Transition.meets_iff_eachStep
    (I := fun w => w.ReturnedLinked ∧ OneCustomerEach w.returned) (A := fun _ _ => True) ?_ ?_ ?_ ?_
  · intro w a w' h _ hfinds hstep
    exact AccountWorld.keeps_returned h (AccountWorld.findsUnlinked_iff.mp hfinds) hstep
  · intro w a w' h _ hstep
    constructor
    · intro hfinds
      have hunclaimed := AccountWorld.findsUnlinked_iff.mp hfinds
      exact ⟨hunclaimed, (AccountWorld.keeps_returned h hunclaimed hstep).2⟩
    · intro hgoal
      exact AccountWorld.findsUnlinked_iff.mpr hgoal.1
  · exact ⟨fun r hr => absurd hr List.not_mem_nil, fun r hr => absurd hr List.not_mem_nil⟩
  · exact Transition.meets_of_forall fun _ _ => trivial

/-- Two Lago customers with one e-mail address: the account made for the first, which has no mapping
yet, is returned for the second. -/
theorem shared_email_shares_account :
    ¬∀ (db : AccountDatabase String.toLower) (as : List AccountAction),
      Transition.EachStep AccountWorld.step
        (fun w a w' => w.ReturnsUnclaimed a ∧ OneCustomerEach w'.returned) ⟨db, []⟩ as := by
  intro h
  have hrun := h ⟨⟨.empty, .empty⟩, by decide⟩
    [.resolves "cust_a" (.ok ⟨some "eve@example.com", some "Eve", none, none⟩),
      .resolves "cust_b" (.ok ⟨some "eve@example.com", some "Eve", none, none⟩)]
  revert hrun
  decide +kernel

end ExpresSync
