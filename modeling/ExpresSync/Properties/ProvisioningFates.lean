import ExpresSync.Model.ProvisioningRace
import ExpresSync.Properties.AccountLinks

/-!
# The fate of a provisioning call

What becomes of a call is decided by what is committed while it runs.  Its *fate* in a database is
what it comes to when nothing else is committed from now on: an account, a refusal, or a collision,
which is an `INSERT` that finds its row there.  The commit of the other call leaves a fate at the
account it had, or makes it a collision.
-/

namespace ExpresSync

variable {lower : String → String}

/-! ## Statements -/

namespace AccountTables

variable {tables : AccountTables} {lagoId : String}

/-- Of the rows that a constraint keeps apart, there is one with a given value. -/
lemma directLinked_eq_some (h : tables.Sound lower) {user : User} :
    tables.directLinked lagoId = some user ↔
      user ∈ tables.users.rows ∧ user.lagoCustomerExternalId = some lagoId := by
  refine ⟨of_directLinked, fun ⟨huser, hlink⟩ => ?_⟩
  cases hfound : tables.directLinked lagoId with
  | none => exact absurd hlink (directLinked_eq_none.mp hfound user huser)
  | some other =>
      obtain ⟨hother, hotherLink⟩ := of_directLinked hfound
      by_cases hid : other.id = user.id
      · rw [SerialTable.eq_of_key hother huser hid]
      · exact absurd ⟨by simp [hotherLink], hotherLink.trans hlink.symm⟩
          (h.2.1 other hother user huser hid)

lemma findExistingUserByEmail_eq_some (h : tables.Sound lower) {user : User} {email : String} :
    tables.findExistingUserByEmail lower email = some user ↔
      user ∈ tables.users.rows ∧ user.email.map lower = some (lower email) := by
  refine ⟨of_findExistingUserByEmail, fun ⟨huser, hemail⟩ => ?_⟩
  cases hfound : tables.findExistingUserByEmail lower email with
  | none => exact absurd hemail (findExistingUserByEmail_eq_none.mp hfound user huser)
  | some other =>
      obtain ⟨hother, hotherEmail⟩ := of_findExistingUserByEmail hfound
      by_cases hid : other.id = user.id
      · rw [SerialTable.eq_of_key hother huser hid]
      · have hsome : other.email.isSome = true := by
          have hmap := congrArg Option.isSome hotherEmail
          simpa using hmap
        exact absurd ⟨hsome, hotherEmail.trans hemail.symm⟩ (h.1 other hother user huser hid)

lemma userById_eq_some {user : User} {id : ℕ} :
    tables.userById id = some user ↔ user ∈ tables.users.rows ∧ user.id = id := by
  unfold userById SerialTable.get?
  constructor
  · intro h
    exact ⟨List.mem_of_find?_eq_some h, by simpa using List.find?_some h⟩
  · rintro ⟨huser, rfl⟩
    cases hfound : tables.users.rows.find? fun row => decide (row.id = user.id) with
    | none =>
        have hne := List.find?_eq_none.mp hfound user huser
        simp at hne
    | some other =>
        have hid : other.id = user.id := by simpa using List.find?_some hfound
        rw [SerialTable.eq_of_key (List.mem_of_find?_eq_some hfound) huser hid]

/-- An account is inserted exactly when no other is linked to the customer, or has the e-mail
address. -/
lemma sound_insertUser {name email : Option String} {role : UserRole} (h : tables.Sound lower) :
    (tables.insertUser name email role (some lagoId)).Sound lower ↔
      tables.directLinked lagoId = none ∧
        ∀ e, email = some e → tables.findExistingUserByEmail lower e = none := by
  obtain ⟨hemails, hlinks, husers⟩ := h
  have hkept : ∀ mapping ∈ (tables.insertUser name email role (some lagoId)).mappings.rows,
      ∀ id ∈ mapping.userId.toList,
        (tables.insertUser name email role (some lagoId)).HasUser id := by
    intro mapping hmapping id hid
    obtain ⟨user, huser, heq⟩ := husers mapping hmapping id hid
    exact ⟨user, SerialTable.mem_insert.mpr (Or.inl huser), heq⟩
  have hemails' : (tables.insertUser name email role (some lagoId)).users.Pairs
        (fun a b => ¬a.SameEmail lower b) ↔
      ∀ e, email = some e → tables.findExistingUserByEmail lower e = none := by
    refine (SerialTable.pairs_insert not_sameEmail_symm hemails).trans ?_
    simp only [User.SameEmail, findExistingUserByEmail_eq_none, not_and]
    constructor
    · rintro h e rfl user huser heq
      exact h user huser rfl heq.symm
    · intro h user huser hsome heq
      obtain ⟨e, rfl⟩ := Option.isSome_iff_exists.mp hsome
      exact h e rfl user huser heq.symm
  have hlinks' : (tables.insertUser name email role (some lagoId)).users.Pairs
        (fun a b => ¬a.SameLink b) ↔ tables.directLinked lagoId = none := by
    refine (SerialTable.pairs_insert not_sameLink_symm hlinks).trans ?_
    simp only [User.SameLink, directLinked_eq_none, Option.isSome_some, true_and]
    exact forall₂_congr fun user _ => not_congr eq_comm
  rw [Sound, hemails', hlinks']
  exact ⟨fun ⟨h, h', _⟩ => ⟨h', h⟩, fun ⟨h, h'⟩ => ⟨h', h, hkept⟩⟩

/-- A link that is there is left alone. -/
lemma backfillLink_of_not_unlinked {userId : ℕ} (h : ¬tables.Unlinked userId) :
    tables.backfillLink userId lagoId = tables := by
  have hrows : SerialTable.rewrite
      (fun user : User => decide (user.id = userId) && user.lagoCustomerExternalId.isNone)
      (fun user => { user with lagoCustomerExternalId := some lagoId }) tables.users.rows =
        tables.users.rows := by
    refine (List.map_congr_left fun user huser => ?_).trans (List.map_id _)
    show (if _ then _ else user) = user
    rw [if_neg]
    intro hsel
    simp only [Bool.and_eq_true, decide_eq_true_eq, Option.isNone_iff_eq_none] at hsel
    exact h ⟨user, huser, hsel.1, hsel.2⟩
  obtain ⟨⟨rows, next, hlt, hnodup⟩, mappings⟩ := tables
  simp only [backfillLink, SerialTable.update, mk.injEq, SerialTable.mk.injEq, and_true]
  exact hrows

/-- The account of a mapping is there. -/
lemma hasUser_of_sibling (h : tables.Sound lower) {userId : ℕ}
    (hsibling : tables.findExistingUserViaSibling lagoId = some userId) :
      tables.HasUser userId := by
  have hmapping : ∃ mapping ∈ tables.siblingMappings lagoId, mapping.userId = some userId := by
    simp only [findExistingUserViaSibling] at hsibling
    split at hsibling
    · cases hsibling
    · next id hids =>
      obtain rfl := Option.some.inj hsibling
      have hmem : id ∈ ((tables.siblingMappings lagoId).filterMap AccountMapping.userId).dedup := by
        rw [hids]
        exact List.mem_singleton_self id
      exact List.mem_filterMap.mp (List.mem_dedup.mp hmem)
    · obtain ⟨mapping, hlatest, hid⟩ := Option.bind_eq_some_iff.mp hsibling
      exact ⟨mapping, List.mem_of_mem_latest hlatest, hid⟩
  obtain ⟨mapping, hmem, hid⟩ := hmapping
  exact h.2.2 mapping (List.mem_of_mem_filter hmem) userId (by simp [hid])

lemma siblingAccount_eq_none (h : tables.Sound lower) :
    tables.siblingAccount lagoId = none ↔ tables.findExistingUserViaSibling lagoId = none := by
  constructor
  · intro hnone
    cases hsibling : tables.findExistingUserViaSibling lagoId with
    | none => rfl
    | some userId =>
        obtain ⟨user, huser, hid⟩ := hasUser_of_sibling h hsibling
        have hfound := userById_eq_some.mpr ⟨huser, hid⟩
        simp [siblingAccount, hsibling, hfound] at hnone
  · intro hnone
    rw [siblingAccount, hnone, Option.bind_none]

end AccountTables

/-! ## What a call does -/

/-- What a call leaves that comes to the account `id`, in the database `db` before and `after`. -/
structure CallEffect (db after : AccountDatabase lower) (lagoId : String)
    (fetched : Except String LagoCustomer) (id : ℕ) : Prop where
  mappings : after.mappings = db.mappings
  /-- The accounts that were there are there, but for their links. -/
  kept : ∀ user ∈ db.users.rows, ∃ user' ∈ after.users.rows,
    user'.id = user.id ∧ user'.email = user.email ∧ user'.role = user.role
  account : after.HasUser id
  /-- No other account is new, or linked to the customer. -/
  others : ∀ user ∈ after.users.rows, user.id = id ∨
    user ∈ db.users.rows ∧ user.lagoCustomerExternalId ≠ some lagoId
  not_unlinked : ¬after.Unlinked id
  direct : after = db ∨ ∃ user, after.directLinked lagoId = some user ∧ user.id = id
  wrote : db.HasUser id ∧ after.toAccountTables = db.backfillLink id lagoId ∨
    id = db.users.next ∧ ∃ customer, fetched = .ok customer ∧
      after.toAccountTables = db.insertUser (buildDisplayName customer (trimmed customer.email))
        (trimmed customer.email) .customer (some lagoId)

namespace CallEffect

variable {db after : AccountDatabase lower} {lagoId : String} {fetched : Except String LagoCustomer}
  {id : ℕ}

lemma ext_tables {db db' : AccountDatabase lower} (h : db.toAccountTables = db'.toAccountTables) :
    db = db' := by
  cases db
  cases db'
  cases h
  rfl

/-- The account was there: its link is filled in. -/
lemma of_backfill {user : User} (huser : user ∈ db.users.rows)
    (hlink : db.directLinked lagoId = none ∨ user.lagoCustomerExternalId = some lagoId)
    (hafter : after.toAccountTables = db.backfillLink user.id lagoId) :
    CallEffect db after lagoId fetched user.id := by
  have hrows : ∀ row, row ∈ after.users.rows ↔ ∃ old ∈ db.users.rows,
      row = if old.id = user.id ∧ old.lagoCustomerExternalId = none then
        { old with lagoCustomerExternalId := some lagoId } else old := by
    intro row
    rw [hafter]
    exact AccountTables.mem_backfillLink
  have hother : ∀ row ∈ db.users.rows, row.id ≠ user.id →
      row.lagoCustomerExternalId ≠ some lagoId := by
    intro row hrow hne hrowLink
    rcases hlink with hfree | huserLink
    · exact AccountTables.directLinked_eq_none.mp hfree row hrow hrowLink
    · exact db.sound.2.1 row hrow user huser hne
        ⟨by simp [hrowLink], hrowLink.trans huserLink.symm⟩
  refine ⟨by rw [hafter]; rfl, ?_, ?_, ?_, ?_, ?_, Or.inl ⟨⟨user, huser, rfl⟩, hafter⟩⟩
  · intro row hrow
    refine ⟨_, (hrows _).mpr ⟨row, hrow, rfl⟩, ?_⟩
    split
    · exact ⟨rfl, rfl, rfl⟩
    · exact ⟨rfl, rfl, rfl⟩
  · refine ⟨_, (hrows _).mpr ⟨user, huser, rfl⟩, ?_⟩
    split
    · rfl
    · rfl
  · intro row hrow
    obtain ⟨old, hold, rfl⟩ := (hrows row).mp hrow
    by_cases hid : old.id = user.id
    · left
      split
      · exact hid
      · exact hid
    · right
      rw [if_neg fun hsel => hid hsel.1]
      exact ⟨hold, hother old hold hid⟩
  · rintro ⟨row, hrow, hid, hnone⟩
    obtain ⟨old, hold, rfl⟩ := (hrows row).mp hrow
    split at hid
    · next hsel =>
      rw [if_pos hsel] at hnone
      cases hnone
    · next hsel =>
      rw [if_neg hsel] at hnone
      exact hsel ⟨hid, hnone⟩
  · by_cases hunlinked : db.Unlinked user.id
    · right
      obtain ⟨row, hrow, hid, hnone⟩ := hunlinked
      refine ⟨_, (AccountTables.directLinked_eq_some after.sound).mpr
        ⟨(hrows _).mpr ⟨row, hrow, rfl⟩, ?_⟩, ?_⟩
      · rw [if_pos ⟨hid, hnone⟩]
      · rw [if_pos ⟨hid, hnone⟩]
        exact hid
    · left
      rw [AccountTables.backfillLink_of_not_unlinked hunlinked] at hafter
      exact ext_tables hafter

/-- The account is new. -/
lemma of_insert {customer : LagoCustomer} (hfetched : fetched = .ok customer)
    (hafter : after.toAccountTables = db.insertUser
      (buildDisplayName customer (trimmed customer.email)) (trimmed customer.email) .customer
      (some lagoId)) :
    CallEffect db after lagoId fetched db.users.next := by
  have hfree : db.directLinked lagoId = none :=
    ((AccountTables.sound_insertUser db.sound).mp (hafter ▸ after.sound)).1
  have hrows : ∀ row, row ∈ after.users.rows ↔ row ∈ db.users.rows ∨
      row = ⟨db.users.next, buildDisplayName customer (trimmed customer.email),
        trimmed customer.email, .customer, some lagoId⟩ := by
    intro row
    rw [hafter]
    exact SerialTable.mem_insert
  refine ⟨by rw [hafter]; rfl, ?_, ?_, ?_, ?_, ?_, Or.inr ⟨rfl, customer, hfetched, hafter⟩⟩
  · intro row hrow
    exact ⟨row, (hrows row).mpr (Or.inl hrow), rfl, rfl, rfl⟩
  · exact ⟨_, (hrows _).mpr (Or.inr rfl), rfl⟩
  · intro row hrow
    rcases (hrows row).mp hrow with hold | rfl
    · exact Or.inr ⟨hold, AccountTables.directLinked_eq_none.mp hfree row hold⟩
    · exact Or.inl rfl
  · rintro ⟨row, hrow, hid, hnone⟩
    rcases (hrows row).mp hrow with hold | rfl
    · exact absurd hid (db.users.key_lt row hold).ne
    · cases hnone
  · exact Or.inr ⟨_, (AccountTables.directLinked_eq_some after.sound).mpr
      ⟨(hrows _).mpr (Or.inr rfl), rfl⟩, rfl⟩

theorem of_resolve {result : ResolveCustomerAccountResult}
    (h : db.resolveOrCreateCustomerAccount lagoId fetched = .ok (after, result)) :
    CallEffect db after lagoId fetched result.userId := by
  rcases AccountDatabase.of_resolve h with
    ⟨user, hcomes, hid, hafter⟩ | ⟨hid, customer, hfetched, hafter⟩
  · have huser := AccountDatabase.mem_of_comesTo hcomes
    rw [hid]
    rcases hafter with ⟨rfl, hlink⟩ | hafter
    · refine of_backfill huser (Or.inr hlink) (Eq.symm ?_)
      refine AccountTables.backfillLink_of_not_unlinked ?_
      rintro ⟨row, hrow, hrowId, hnone⟩
      rw [SerialTable.eq_of_key hrow huser hrowId, hlink] at hnone
      cases hnone
    · refine of_backfill huser ?_ hafter
      cases hcomes with
      | direct h => exact Or.inr (AccountTables.of_directLinked h).2
      | sibling hdirect _ => exact Or.inl hdirect
      | email hdirect _ _ => exact Or.inl hdirect
  · rw [hid]
    exact of_insert hfetched hafter

end CallEffect

/-! ## The fate of a call -/

/-- What a call comes to. -/
inductive Fate where
  | account (id : ℕ)
  | refused
  | collides

namespace ProvisioningRace

section

variable (lagoId : String) (fetched : Except String LagoCustomer) (db : AccountDatabase lower)

def fateOfBackfill (userId : ℕ) : Fate :=
  if (db.backfillLink userId lagoId).Sound lower then .account userId else .refused

def fateOfInsert (email : Option String) (customer : LagoCustomer) : Fate :=
  if (db.insertUser (buildDisplayName customer email) email .customer (some lagoId)).Sound lower
    then
    .account db.users.next
  else .collides

def fateOfConflict (userId : ℕ) : Fate :=
  if truthy (db.findConflictingLagoLink userId lagoId) then .refused
  else fateOfBackfill lagoId db userId

def fateOfEmail (email : String) (customer : LagoCustomer) : Fate :=
  match db.findExistingUserByEmail lower email with
  | none => fateOfInsert lagoId db (some email) customer
  | some existing => if existing.role = .admin then .refused else fateOfConflict lagoId db
    existing.id

def fateOfFetch : Fate :=
  match fetched with
  | .error _ => .refused
  | .ok customer =>
    match trimmed customer.email with
    | none => fateOfInsert lagoId db none customer
    | some email => if isMalformedEmail email then .refused else fateOfEmail lagoId db email
      customer

def fateOfAccount (userId : ℕ) : Fate :=
  match db.userById userId with
  | some user => fateOfBackfill lagoId db user.id
  | none => fateOfFetch lagoId fetched db

def fateOfSibling : Fate :=
  match db.findExistingUserViaSibling lagoId with
  | some userId => fateOfAccount lagoId fetched db userId
  | none => fateOfFetch lagoId fetched db

def fateOfDirect : Fate :=
  match db.directLinked lagoId with
  | some user => .account user.id
  | none => fateOfSibling lagoId fetched db

/-- What a call comes to that goes on alone, in a transaction in which nothing has failed. -/
def fateAt : ProvisionPoint → Fate
  | .directLookup => fateOfDirect lagoId fetched db
  | .siblingLookup => fateOfSibling lagoId fetched db
  | .siblingAccount userId => fateOfAccount lagoId fetched db userId
  | .fetch => fateOfFetch lagoId fetched db
  | .emailLookup email customer => fateOfEmail lagoId db email customer
  | .conflictLookup _ existing => fateOfConflict lagoId db existing.id
  | .backfill existing => fateOfBackfill lagoId db existing.id
  | .insert email customer => fateOfInsert lagoId db email customer
  | .retryDirect _ | .retryEmail _ | .retryConflict _ _ => .collides
  | .ended (.ok result) | .closed (.ok result) => .account result.userId
  | .ended (.error _) | .closed (.error _) => .refused

def fate (call : ProvisionCall) : Fate :=
  if call.aborted then .collides else fateAt lagoId fetched db call.point

end

variable {lagoId : String} {fetched : Except String LagoCustomer} {db after : AccountDatabase lower}

/-! ### The fate of a call that goes on alone -/

/-- The fate is what the call comes to. -/
def Agrees (resolved : AccountDatabase.Resolved lower) (fate : Fate) : Prop :=
  match resolved with
  | .ok (_, result) => fate = .account result.userId
  | .error _ => ∀ id, fate ≠ .account id

lemma agrees_refused (failure : ProvisionFailure) :
    Agrees (.error failure : AccountDatabase.Resolved lower) .refused :=
  fun _ heq => by cases heq

lemma agrees_reuse (user : User) :
    Agrees (db.reuse user lagoId) (fateOfBackfill lagoId db user.id) := by
  by_cases hsound : (db.backfillLink user.id lagoId).Sound lower
  · rw [AccountDatabase.reuse, AccountTables.checked_of_sound hsound, fateOfBackfill, if_pos hsound]
    rfl
  · have hrefused : (db.backfillLink user.id lagoId).checked lower = none := dif_neg hsound
    rw [AccountDatabase.reuse, hrefused, fateOfBackfill, if_neg hsound]
    exact agrees_refused _

lemma agrees_createUser (email : Option String) (customer : LagoCustomer) :
    Agrees (db.createUser email lagoId customer) (fateOfInsert lagoId db email customer) := by
  by_cases hsound : (db.insertUser (buildDisplayName customer email) email .customer
      (some lagoId)).Sound lower
  · rw [AccountDatabase.createUser, AccountTables.checked_of_sound hsound, fateOfInsert,
      if_pos hsound]
    rfl
  · have hrefused : (db.insertUser (buildDisplayName customer email) email .customer
        (some lagoId)).checked lower = none := dif_neg hsound
    rw [AccountDatabase.createUser, hrefused, fateOfInsert, if_neg hsound]
    intro id heq
    cases heq

lemma agrees_forEmail (email : String) (customer : LagoCustomer) :
    Agrees (db.resolveOrCreateForEmail lagoId email customer)
      (fateOfEmail lagoId db email customer) := by
  simp only [AccountDatabase.resolveOrCreateForEmail, fateOfEmail]
  cases db.findExistingUserByEmail lower email with
  | none => exact agrees_createUser _ _
  | some existing =>
      by_cases hrole : existing.role = .admin
      · simp only [hrole, if_true]
        exact agrees_refused _
      · simp only [hrole, if_false, fateOfConflict]
        by_cases hconflict : truthy (db.findConflictingLagoLink existing.id lagoId) = true
        · simp only [hconflict, if_true]
          exact agrees_refused _
        · simp only [hconflict, if_false, Bool.false_eq_true]
          exact agrees_reuse existing

/-- A call on its own comes to its fate. -/
theorem agrees_resolve (lagoId : String) (fetched : Except String LagoCustomer)
    (db : AccountDatabase lower) :
    Agrees (db.resolveOrCreateCustomerAccount lagoId fetched)
      (fateAt lagoId fetched db .directLookup) := by
  simp only [AccountDatabase.resolveOrCreateCustomerAccount, fateAt, fateOfDirect, fateOfSibling]
  cases db.directLinked lagoId with
  | some user => rfl
  | none =>
      have hfetch : Agrees
          (match fetched with
            | .error msg => .error (classifyLagoFetchError msg)
            | .ok customer =>
              match trimmed customer.email with
              | none => db.createUser none lagoId customer
              | some email =>
                  if isMalformedEmail email then .error (malformedEmailError email)
                  else db.resolveOrCreateForEmail lagoId email customer)
          (fateOfFetch lagoId fetched db) := by
        cases fetched with
        | error msg => exact agrees_refused _
        | ok customer =>
            simp only [fateOfFetch]
            cases trimmed customer.email with
            | none => exact agrees_createUser _ _
            | some email =>
                by_cases hmalformed : isMalformedEmail email = true
                · simp only [hmalformed, if_true]
                  exact agrees_refused _
                · simp only [hmalformed, if_false, Bool.false_eq_true]
                  exact agrees_forEmail email customer
      simp only [AccountTables.siblingAccount]
      cases hsibling : db.findExistingUserViaSibling lagoId with
      | none => exact hfetch
      | some userId =>
          simp only [Option.bind_some, fateOfAccount]
          cases db.userById userId with
          | none => exact hfetch
          | some user => exact agrees_reuse user

/-! ### The fate after the other call -/

/-- What a call has in hand comes from the tables, and from Lago. -/
def PointSound (lagoId : String) (fetched : Except String LagoCustomer) (tables : AccountTables) :
    ProvisionPoint → Prop
  | .siblingAccount userId => tables.findExistingUserViaSibling lagoId = some userId
  | .emailLookup email customer => fetched = .ok customer ∧ trimmed customer.email = some email
  | .conflictLookup _ existing | .backfill existing => tables.HasUser existing.id
  | .insert email customer => fetched = .ok customer ∧ trimmed customer.email = email
  | _ => True

section

variable {id : ℕ} (h : CallEffect db after lagoId fetched id)

include h

lemma fateOfBackfill_self : fateOfBackfill lagoId after id = .account id := by
  rw [fateOfBackfill, AccountTables.backfillLink_of_not_unlinked h.not_unlinked, if_pos after.sound]

lemma fateOfBackfill_after {userId : ℕ} (hfate : fateOfBackfill lagoId db userId = .account id) :
    fateOfBackfill lagoId after userId = .account id := by
  obtain rfl : userId = id := by
    unfold fateOfBackfill at hfate
    split at hfate
    · exact Fate.account.inj hfate
    · cases hfate
  exact fateOfBackfill_self h

lemma fateOfInsert_after {email : Option String} {customer : LagoCustomer}
    (hfate : fateOfInsert lagoId db email customer = .account id) :
    fateOfInsert lagoId after email customer = .account id ∨
      fateOfInsert lagoId after email customer = .collides := by
  rcases h.direct with rfl | ⟨user, huser, -⟩
  · exact Or.inl hfate
  · right
    rw [fateOfInsert, if_neg]
    intro hsound
    have hfree := ((AccountTables.sound_insertUser after.sound).mp hsound).1
    rw [huser] at hfree
    cases hfree

lemma findConflictingLagoLink_after {userId : ℕ} :
    after.findConflictingLagoLink userId lagoId = db.findConflictingLagoLink userId lagoId := by
  rw [AccountTables.findConflictingLagoLink, AccountTables.findConflictingLagoLink, h.mappings]

lemma fateOfConflict_after {userId : ℕ} (hfate : fateOfConflict lagoId db userId = .account id) :
    fateOfConflict lagoId after userId = .account id := by
  unfold fateOfConflict at hfate ⊢
  rw [findConflictingLagoLink_after h]
  split at hfate
  · cases hfate
  · next hconflict =>
    rw [if_neg hconflict]
    exact fateOfBackfill_after h hfate

/-- The e-mail address leads to the account that was there, or to the one that is new. -/
lemma fateOfEmail_after {email : String} {customer : LagoCustomer}
    (hfetched : fetched = .ok customer) (hemail : trimmed customer.email = some email)
    (hfate : fateOfEmail lagoId db email customer = .account id) :
    fateOfEmail lagoId after email customer = .account id := by
  unfold fateOfEmail at hfate ⊢
  split at hfate
  · next hnone =>
    obtain ⟨-, rfl⟩ : _ ∧ db.users.next = id := by
      unfold fateOfInsert at hfate
      split at hfate
      · next hsound => exact ⟨hsound, Fate.account.inj hfate⟩
      · cases hfate
    rcases h.wrote with ⟨⟨user, huser, hid⟩, -⟩ | ⟨-, customer', hfetched', hafter⟩
    · exact absurd hid (db.users.key_lt user huser).ne
    · obtain rfl : customer = customer' := Except.ok.inj (hfetched.symm.trans hfetched')
      rw [hemail] at hafter
      have hnew : after.findExistingUserByEmail lower email = some ⟨db.users.next,
          buildDisplayName customer (some email), some email, .customer, some lagoId⟩ := by
        refine (AccountTables.findExistingUserByEmail_eq_some after.sound).mpr ⟨?_, rfl⟩
        rw [hafter]
        exact SerialTable.mem_insert.mpr (Or.inr rfl)
      have hconflict : after.findConflictingLagoLink db.users.next lagoId = none := by
        rw [findConflictingLagoLink_after h, AccountTables.findConflictingLagoLink_eq_none]
        intro mapping hmapping hid other hother
        exact absurd (AccountTables.mem_carried.mpr (Or.inl ⟨mapping, hmapping, hid, hother⟩))
          (AccountTables.not_mem_carried_next db.sound)
      simp only [hnew, fateOfConflict, hconflict, truthy_none, reduceCtorEq, if_false,
        Bool.false_eq_true]
      exact fateOfBackfill_self h
  · next existing hexisting =>
    obtain ⟨hmem, hmail⟩ := AccountTables.of_findExistingUserByEmail hexisting
    obtain ⟨existing', hmem', hid, hmail', hrole⟩ := h.kept existing hmem
    have hfound : after.findExistingUserByEmail lower email = some existing' :=
      (AccountTables.findExistingUserByEmail_eq_some after.sound).mpr ⟨hmem', hmail' ▸ hmail⟩
    simp only [hfound, hrole, hid]
    split at hfate
    · cases hfate
    · next hcustomer =>
      rw [if_neg hcustomer]
      exact fateOfConflict_after h hfate

lemma fateOfFetch_after (hfate : fateOfFetch lagoId fetched db = .account id) :
    fateOfFetch lagoId fetched after = .account id ∨
      fateOfFetch lagoId fetched after = .collides := by
  cases hfetched : fetched with
  | error msg =>
      rw [hfetched] at hfate
      cases hfate
  | ok customer =>
      rw [hfetched] at hfate
      simp only [fateOfFetch] at hfate ⊢
      cases hemail : trimmed customer.email with
      | none =>
          simp only [hemail] at hfate ⊢
          exact fateOfInsert_after h hfate
      | some email =>
          simp only [hemail] at hfate ⊢
          split at hfate
          · cases hfate
          · next hvalid =>
            rw [if_neg hvalid]
            exact Or.inl (fateOfEmail_after h hfetched hemail hfate)

lemma fateOfAccount_after {userId : ℕ}
    (hsibling : db.findExistingUserViaSibling lagoId = some userId)
    (hfate : fateOfAccount lagoId fetched db userId = .account id) :
    fateOfAccount lagoId fetched after userId = .account id := by
  obtain ⟨user, huser, hid⟩ := AccountTables.hasUser_of_sibling db.sound hsibling
  obtain ⟨user', huser', hid', -⟩ := h.kept user huser
  have hfound := AccountTables.userById_eq_some.mpr ⟨huser, hid⟩
  have hfound' := AccountTables.userById_eq_some.mpr ⟨huser', hid'.trans hid⟩
  simp only [fateOfAccount, hfound, hfound', hid, hid'] at hfate ⊢
  exact fateOfBackfill_after h hfate

lemma findExistingUserViaSibling_after :
    after.findExistingUserViaSibling lagoId = db.findExistingUserViaSibling lagoId := by
  simp only [AccountTables.findExistingUserViaSibling, AccountTables.siblingMappings, h.mappings]

lemma fateOfSibling_after (hfate : fateOfSibling lagoId fetched db = .account id) :
    fateOfSibling lagoId fetched after = .account id ∨
      fateOfSibling lagoId fetched after = .collides := by
  unfold fateOfSibling at hfate ⊢
  rw [findExistingUserViaSibling_after h]
  split at hfate
  · next userId hsibling => exact Or.inl (fateOfAccount_after h hsibling hfate)
  · exact fateOfFetch_after h hfate

/-- After the other call, a call still comes to the account, or it collides. -/
theorem fateAt_after {point : ProvisionPoint}
    (hpoint : PointSound lagoId fetched db.toAccountTables point)
    (hfate : fateAt lagoId fetched db point = .account id) :
    fateAt lagoId fetched after point = .account id ∨
      fateAt lagoId fetched after point = .collides := by
  cases point with
  | directLookup =>
      rcases h.direct with rfl | ⟨user, huser, hid⟩
      · exact Or.inl hfate
      · left
        simp only [fateAt, fateOfDirect, huser, hid]
  | siblingLookup => exact fateOfSibling_after h hfate
  | siblingAccount userId => exact Or.inl (fateOfAccount_after h hpoint hfate)
  | fetch => exact fateOfFetch_after h hfate
  | emailLookup email customer => exact Or.inl (fateOfEmail_after h hpoint.1 hpoint.2 hfate)
  | conflictLookup email existing => exact Or.inl (fateOfConflict_after h hfate)
  | backfill existing => exact Or.inl (fateOfBackfill_after h hfate)
  | insert email customer => exact fateOfInsert_after h hfate
  | retryDirect | retryEmail | retryConflict => cases hfate
  | ended outcome =>
      cases outcome with
      | ok result => exact Or.inl hfate
      | error failure => cases hfate
  | closed outcome =>
      cases outcome with
      | ok result => exact Or.inl hfate
      | error failure => cases hfate

lemma pointSound_after {point : ProvisionPoint}
    (hpoint : PointSound lagoId fetched db.toAccountTables point) :
    PointSound lagoId fetched after.toAccountTables point := by
  have hkept : ∀ userId, db.HasUser userId → after.HasUser userId := by
    rintro userId ⟨user, huser, rfl⟩
    obtain ⟨user', huser', hid, -⟩ := h.kept user huser
    exact ⟨user', huser', hid⟩
  cases point with
  | siblingAccount userId => exact (findExistingUserViaSibling_after h).trans hpoint
  | conflictLookup email existing => exact hkept _ hpoint
  | backfill existing => exact hkept _ hpoint
  | emailLookup | insert => exact hpoint
  | _ => trivial

/-- When the account is linked already, a call for it changes nothing. -/
lemma eq_of_linked (huser : db.HasUser id) (hlinked : ¬db.Unlinked id) : after = db := by
  rcases h.wrote with ⟨-, hafter⟩ | ⟨rfl, -⟩
  · rw [AccountTables.backfillLink_of_not_unlinked hlinked] at hafter
    exact CallEffect.ext_tables hafter
  · obtain ⟨user, hmem, hid⟩ := huser
    exact absurd hid (db.users.key_lt user hmem).ne

end

end ProvisioningRace

end ExpresSync
