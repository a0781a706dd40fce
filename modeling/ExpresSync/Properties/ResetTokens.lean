import ExpresSync.Foundation.Transition
import ExpresSync.Model.PasswordResets

/-!
# Tokens of password resets

A password is written only for the account of a token that has been minted, and that had not expired
when it was looked up (`writes_are_minted`); an account that is an admin's no longer keeps its
password, but for requests that have judged it before (`demoted_keeps_password`).  A token is
deleted only after the password is written, so two requests with one token may both write.  It is
used once as long as no request looks a token up while another one holds it, and it is deleted
(`tokens_are_used_once`).
-/

namespace ExpresSync

open Transition

namespace ResetPoint

/-- The row of a token that has been found, until it is deleted. -/
def held : ResetPoint → Option ResetToken
  | .findingUser row | .selecting row | .writing row _ | .deleting row => some row
  | _ => none

/-- The row of a token whose account has been found to be an admin's, until the password is
written. -/
def judged : ResetPoint → Option ResetToken
  | .selecting row | .writing row _ => some row
  | _ => none

end ResetPoint

namespace PasswordWorld

/-! ## What a step does -/

section

variable {hashPassword : String → String} {ttlMs : ℕ} {w w' : PasswordWorld} {a : PasswordAction}
  {i : ℕ} {r : PasswordReset} {row : ResetToken}

/-- The step leaves the requests and their writes alone, and adds no token. -/
structure Quiet (w w' : PasswordWorld) : Prop where
  resets : w'.resets = w.resets
  writes : w'.writes = w.writes
  minted : w'.minted = w.minted
  rows : ∀ row ∈ w'.verifications.rows, row ∈ w.verifications.rows
  next : w'.verifications.next = w.verifications.next
  accounts : w'.accounts = w.accounts

/-- A request goes on, without a password or a token being written. -/
structure Moves (w w' : PasswordWorld) (a : PasswordAction) (i : ℕ) (r : PasswordReset)
    (point : ResetPoint) : Prop where
  request : w.resets[i]? = some r
  resets : w'.resets = w.resets.set i { r with point := point }
  held : ∀ row ∈ point.held, row ∈ r.point.held
  judged : ∀ row ∈ point.judged, row ∈ r.point.judged ∨ w.role row.userId = some .admin
  waits : ∀ row, point ≠ .deleting row
  deleted : ∀ row, r.point = .deleting row → a = .deletes i false
  writes : w'.writes = w.writes
  minted : w'.minted = w.minted
  verifications : w'.verifications = w.verifications
  accounts : w'.accounts = w.accounts
  selected : ∀ row id, point = .writing row (some id) →
    ∃ account ∈ w.accounts.rows, account.id = id ∧ account.userId = row.userId

/-- A request that has been answered holds nothing. -/
lemma moves_answered (hr : w.resets[i]? = some r) (hpoint : ∀ row, r.point ≠ .deleting row)
    (status : ℕ) (error : Option String) :
    Moves w (w.setPoint i r (.answered status error)) a i r (.answered status error) where
  request := hr
  resets := rfl
  held _ hrow := by cases hrow
  judged _ hrow := by cases hrow
  waits _ := nofun
  deleted row hrow := absurd hrow (hpoint row)
  writes := rfl
  minted := rfl
  verifications := rfl
  accounts := rfl
  selected _ _ := nofun

variable (w w' a hashPassword) in
/-- A request is answered or goes on, finds its token, writes its password, or deletes its
token. -/
def GoesOn (i : ℕ) (r : PasswordReset) : Prop :=
  (∃ point, Moves w w' a i r point) ∨
    (∃ row, a = .looksUp i true ∧ r.point = .lookingUp ∧
      w.verifications.get? r.token = some row ∧ w.now ≤ row.expiresAt ∧
      w' = w.setPoint i { r with lookedUpAt := w.now } (.findingUser row)) ∨
    (∃ row existing, r.point = .writing row existing ∧
      w' = w.write hashPassword i r row existing) ∨
    ∃ row, r.point = .deleting row ∧ w' = w.delete i r row

lemma goesOn_looksUp {ok : Bool} (hr : w.resets[i]? = some r)
    (h : w.goOn hashPassword i r (.looksUp i ok) = some w') :
    GoesOn hashPassword w w' (.looksUp i ok) i r := by
  simp only [goOn] at h
  split at h
  · next hpoint =>
    have hne : ∀ row, r.point ≠ .deleting row := by simp [hpoint]
    obtain rfl := Option.some.inj h
    cases ok with
    | false => exact Or.inl ⟨_, moves_answered hr hne 500 _⟩
    | true =>
        simp only [if_true, lookUp]
        split
        · exact Or.inl ⟨_, moves_answered hr hne 400 _⟩
        · next row hrow =>
          split
          · exact Or.inl ⟨_, moves_answered hr hne 400 _⟩
          · next hexpiry =>
            exact Or.inr (Or.inl ⟨row, rfl, hpoint, hrow, Nat.le_of_not_lt hexpiry, rfl⟩)
  · cases h

lemma goesOn_findsUser {ok : Bool} (hr : w.resets[i]? = some r)
    (h : w.goOn hashPassword i r (.findsUser i ok) = some w') :
    GoesOn hashPassword w w' (.findsUser i ok) i r := by
  simp only [goOn] at h
  split at h
  · next row hpoint =>
    have hne : ∀ row, r.point ≠ .deleting row := by simp [hpoint]
    obtain rfl := Option.some.inj h
    cases ok with
    | false => exact Or.inl ⟨_, moves_answered hr hne 500 _⟩
    | true =>
        simp only [if_true, findUser]
        split
        · next hrole =>
          have hheld : ∀ other ∈ (ResetPoint.selecting row).held, other ∈ r.point.held := by
            simp [hpoint, ResetPoint.held]
          have hjudged : ∀ other ∈ (ResetPoint.selecting row).judged,
              other ∈ r.point.judged ∨ w.role other.userId = some .admin := by
            rintro other hother
            obtain rfl := Option.some.inj hother
            exact Or.inr hrole
          exact Or.inl ⟨_, hr, rfl, hheld, hjudged, nofun, fun other hother =>
            absurd hother (hne other), rfl, rfl, rfl, rfl, nofun⟩
        · exact Or.inl ⟨_, moves_answered hr hne 400 _⟩
  · cases h

lemma goesOn_selects {ok : Bool} (hr : w.resets[i]? = some r)
    (h : w.goOn hashPassword i r (.selects i ok) = some w') :
    GoesOn hashPassword w w' (.selects i ok) i r := by
  simp only [goOn] at h
  split at h
  · next row hpoint =>
    have hne : ∀ row, r.point ≠ .deleting row := by simp [hpoint]
    obtain rfl := Option.some.inj h
    cases ok with
    | false => exact Or.inl ⟨_, moves_answered hr hne 500 _⟩
    | true =>
        refine Or.inl ⟨.writing row ((w.existingAccount row.userId).map CredentialAccount.id), hr,
          rfl, ?_, ?_, nofun, fun other hother => absurd hother (hne other), rfl, rfl, rfl, rfl, ?_⟩
        · simp [hpoint, ResetPoint.held]
        · simp [hpoint, ResetPoint.judged]
        · intro other id hother
          obtain ⟨rfl, hselected⟩ := ResetPoint.writing.inj hother
          obtain ⟨account, haccount, hid⟩ := Option.map_eq_some_iff.mp hselected
          exact ⟨account, List.mem_of_find?_eq_some haccount, hid,
            by simpa using List.find?_some haccount⟩
  · cases h

lemma goesOn_writes {ok : Bool} (hr : w.resets[i]? = some r)
    (h : w.goOn hashPassword i r (.writes i ok) = some w') :
    GoesOn hashPassword w w' (.writes i ok) i r := by
  simp only [goOn] at h
  split at h
  · next row existing hpoint =>
    obtain rfl := Option.some.inj h
    cases ok with
    | false => exact Or.inl ⟨_, moves_answered hr (by simp [hpoint]) 500 _⟩
    | true => exact Or.inr (Or.inr (Or.inl ⟨row, existing, hpoint, rfl⟩))
  · cases h

lemma goesOn_deletes {ok : Bool} (hr : w.resets[i]? = some r)
    (h : w.goOn hashPassword i r (.deletes i ok) = some w') :
    GoesOn hashPassword w w' (.deletes i ok) i r := by
  simp only [goOn] at h
  split at h
  · next row hpoint =>
    obtain rfl := Option.some.inj h
    cases ok with
    | false =>
        exact Or.inl ⟨.revoking row, hr, rfl, nofun, nofun, nofun, fun _ _ => rfl, rfl, rfl, rfl,
          rfl, nofun⟩
    | true => exact Or.inr (Or.inr (Or.inr ⟨row, hpoint, rfl⟩))
  · cases h

lemma goesOn_revokes {ok : Bool} (hr : w.resets[i]? = some r)
    (h : w.goOn hashPassword i r (.revokes i ok) = some w') :
    GoesOn hashPassword w w' (.revokes i ok) i r := by
  simp only [goOn] at h
  split at h
  · next row hpoint =>
    have hne : ∀ row, r.point ≠ .deleting row := by simp [hpoint]
    obtain rfl := Option.some.inj h
    cases ok with
    | false => exact Or.inl ⟨_, moves_answered hr hne 200 _⟩
    | true =>
        exact Or.inl ⟨.answered 200 none, hr, rfl, nofun, nofun, nofun,
          fun other hother => absurd hother (hne other), rfl, rfl, rfl, rfl, nofun⟩
  · cases h

lemma step_cases (h : w.step hashPassword ttlMs a = some w') :
    Quiet w w' ∨
    (∃ i userId expiresAt, a = .mints i true ∧ w' = w.mint i userId expiresAt) ∨
    (∃ r, r.point.held = none ∧ r.point.judged = none ∧
      w' = { w with resets := w.resets ++ [r] }) ∨
    ∃ i r, w.resets[i]? = some r ∧ GoesOn hashPassword w w' a i r := by
  cases a with
  | waits ms =>
      obtain rfl := Option.some.inj h
      exact Or.inl ⟨rfl, rfl, rfl, fun _ hrow => hrow, rfl, rfl⟩
  | setsRole userId role =>
      obtain rfl := Option.some.inj h
      exact Or.inl ⟨rfl, rfl, rfl, fun _ hrow => hrow, rfl, rfl⟩
  | signsIn userId =>
      obtain rfl := Option.some.inj h
      exact Or.inl ⟨rfl, rfl, rfl, fun _ hrow => hrow, rfl, rfl⟩
  | forgets userId =>
      obtain rfl := Option.some.inj h
      exact Or.inl ⟨rfl, rfl, rfl, fun _ hrow => hrow, rfl, rfl⟩
  | mints i ok =>
      obtain ⟨point, -, h⟩ := Option.bind_eq_some_iff.mp h
      cases point with
      | done => cases h
      | minting userId expiresAt =>
          obtain rfl := Option.some.inj h
          cases ok with
          | true => exact Or.inr (Or.inl ⟨i, userId, expiresAt, rfl, rfl⟩)
          | false => exact Or.inl ⟨rfl, rfl, rfl, fun _ hrow => hrow, rfl, rfl⟩
  | presents token newPassword =>
      obtain rfl := Option.some.inj h
      refine Or.inr (Or.inr (Or.inl ⟨_, ?_, ?_, rfl⟩))
      · dsimp only
        split <;> rfl
      · dsimp only
        split <;> rfl
  | cleansUp =>
      obtain rfl := Option.some.inj h
      exact Or.inl ⟨rfl, rfl, rfl, fun _ hrow => (SerialTable.mem_delete.mp hrow).1, rfl,
        rfl⟩
  | looksUp i ok =>
      obtain ⟨r, hr, h⟩ := Option.bind_eq_some_iff.mp h
      exact Or.inr (Or.inr (Or.inr ⟨i, r, hr, goesOn_looksUp hr h⟩))
  | findsUser i ok =>
      obtain ⟨r, hr, h⟩ := Option.bind_eq_some_iff.mp h
      exact Or.inr (Or.inr (Or.inr ⟨i, r, hr, goesOn_findsUser hr h⟩))
  | selects i ok =>
      obtain ⟨r, hr, h⟩ := Option.bind_eq_some_iff.mp h
      exact Or.inr (Or.inr (Or.inr ⟨i, r, hr, goesOn_selects hr h⟩))
  | writes i ok =>
      obtain ⟨r, hr, h⟩ := Option.bind_eq_some_iff.mp h
      exact Or.inr (Or.inr (Or.inr ⟨i, r, hr, goesOn_writes hr h⟩))
  | deletes i ok =>
      obtain ⟨r, hr, h⟩ := Option.bind_eq_some_iff.mp h
      exact Or.inr (Or.inr (Or.inr ⟨i, r, hr, goesOn_deletes hr h⟩))
  | revokes i ok =>
      obtain ⟨r, hr, h⟩ := Option.bind_eq_some_iff.mp h
      exact Or.inr (Or.inr (Or.inr ⟨i, r, hr, goesOn_revokes hr h⟩))

/-! ## What is written -/

/-- What is known of the tokens that are held, and of those of the passwords written. -/
structure Known (w : PasswordWorld) : Prop where
  rows : ∀ row ∈ w.verifications.rows, row ∈ w.minted
  held : ∀ r ∈ w.resets, ∀ row ∈ r.point.held, row ∈ w.minted ∧ r.lookedUpAt ≤ row.expiresAt
  writes : ∀ write ∈ w.writes, ∃ row ∈ w.minted, row.id = write.token ∧
    row.userId = write.userId ∧ write.lookedUpAt ≤ row.expiresAt
  selected : ∀ r ∈ w.resets, ∀ row id, r.point = .writing row (some id) →
    ∃ account ∈ w.accounts.rows, account.id = id ∧ account.userId = row.userId

lemma known_initial (role : ℕ → Option UserRole) : (initial role).Known where
  rows _ hrow := absurd hrow List.not_mem_nil
  held _ hr := absurd hr List.not_mem_nil
  writes _ hwrite := absurd hwrite List.not_mem_nil
  selected _ hr := absurd hr List.not_mem_nil

/-- A property of all requests, when one of them goes on. -/
lemma forall_set {P : PasswordReset → Prop} (h : ∀ r ∈ w.resets, P r) {r' : PasswordReset}
    (hr' : P r') : ∀ r ∈ w.resets.set i r', P r := by
  intro other hother
  rcases List.mem_or_eq_of_mem_set hother with hmem | rfl
  · exact h other hmem
  · exact hr'

/-- No account goes away. -/
lemma exists_setPassword {account : CredentialAccount} (h : account ∈ w.accounts.rows)
    (userId : ℕ) (existing : Option ℕ) (password : String) :
    ∃ account' ∈ (w.setPassword userId existing password).rows,
      account'.id = account.id ∧ account'.userId = account.userId := by
  cases existing with
  | none => exact ⟨account, SerialTable.mem_insert.mpr (Or.inl h), rfl, rfl⟩
  | some id =>
      refine ⟨if decide (account.id = id) then { account with password := password } else account,
        ?_, ?_, ?_⟩
      · rw [setPassword, SerialTable.mem_update]
        exact ⟨account, h, rfl⟩
      · split <;> rfl
      · split <;> rfl

lemma Known.goesOn (h : w.Known) (hr : w.resets[i]? = some r)
    (hgoes : GoesOn hashPassword w w' a i r) : w'.Known := by
  have hmem : r ∈ w.resets := List.mem_of_getElem? hr
  rcases hgoes with ⟨point, hmoves⟩ | ⟨row, -, -, hrow, hexpiry, rfl⟩ |
    ⟨row, existing, hpoint, rfl⟩ | ⟨row, hpoint, rfl⟩
  · refine ⟨?_, ?_, ?_, ?_⟩
    · rw [hmoves.verifications, hmoves.minted]
      exact h.rows
    · rw [hmoves.resets, hmoves.minted]
      exact forall_set h.held fun row hrow => h.held r hmem row (hmoves.held row hrow)
    · rw [hmoves.writes, hmoves.minted]
      exact h.writes
    · rw [hmoves.resets, hmoves.accounts]
      exact forall_set h.selected hmoves.selected
  · have hminted : row ∈ w.minted := h.rows row (SerialTable.get?_eq_some.mp hrow).1
    refine ⟨h.rows, forall_set h.held ?_, h.writes, forall_set h.selected nofun⟩
    intro other hother
    obtain rfl := Option.some.inj hother
    exact ⟨hminted, hexpiry⟩
  · have hheld : row ∈ r.point.held := by simp [hpoint, ResetPoint.held]
    obtain ⟨hminted, hexpiry⟩ := h.held r hmem row hheld
    refine ⟨h.rows, forall_set h.held ?_, ?_, forall_set ?_ nofun⟩
    · intro other hother
      obtain rfl := Option.some.inj hother
      exact ⟨hminted, hexpiry⟩
    · intro write hwrite
      rcases List.mem_append.mp hwrite with hold | hnew
      · exact h.writes write hold
      · obtain rfl := List.mem_singleton.mp hnew
        exact ⟨row, hminted, rfl, rfl, hexpiry⟩
    · intro other hother otherRow id hwriting
      obtain ⟨account, haccount, hid, huser⟩ := h.selected other hother otherRow id hwriting
      obtain ⟨account', haccount', hid', huser'⟩ := exists_setPassword haccount row.userId existing
        (hashPassword r.newPassword)
      exact ⟨account', haccount', hid'.trans hid, huser'.trans huser⟩
  · refine ⟨fun other hother => h.rows other (SerialTable.mem_delete.mp hother).1,
      forall_set h.held nofun, h.writes, forall_set h.selected nofun⟩

lemma Known.step (h : w.Known) (hstep : w.step hashPassword ttlMs a = some w') : w'.Known := by
  rcases step_cases hstep with hquiet | ⟨i, userId, expiresAt, -, rfl⟩ | ⟨r, hheld, -, rfl⟩ |
    ⟨i, r, hr, hgoes⟩
  · refine ⟨fun row hrow => ?_, ?_, ?_, ?_⟩
    · rw [hquiet.minted]
      exact h.rows row (hquiet.rows row hrow)
    · rw [hquiet.resets, hquiet.minted]
      exact h.held
    · rw [hquiet.writes, hquiet.minted]
      exact h.writes
    · rw [hquiet.resets, hquiet.accounts]
      exact h.selected
  · have hold : ∀ row ∈ w.minted, row ∈ (w.mint i userId expiresAt).minted := fun row hrow =>
      List.mem_append_left _ hrow
    refine ⟨fun row hrow => ?_, fun r hr row hrow => ?_, fun write hwrite => ?_, h.selected⟩
    · rcases SerialTable.mem_insert.mp hrow with hrow | rfl
      · exact hold row (h.rows row hrow)
      · exact List.mem_append_right _ (List.mem_singleton.mpr rfl)
    · obtain ⟨hminted, hexpiry⟩ := h.held r hr row hrow
      exact ⟨hold row hminted, hexpiry⟩
    · obtain ⟨row, hrow, hwritten⟩ := h.writes write hwrite
      exact ⟨row, hold row hrow, hwritten⟩
  · refine ⟨h.rows, ?_, h.writes, ?_⟩
    · intro other hother row hrow
      rcases List.mem_append.mp hother with hold | hnew
      · exact h.held other hold row hrow
      · rw [List.mem_singleton.mp hnew, hheld] at hrow
        cases hrow
    · intro other hother row id hwriting
      rcases List.mem_append.mp hother with hold | hnew
      · exact h.selected other hold row id hwriting
      · rw [List.mem_singleton.mp hnew] at hwriting
        rw [hwriting] at hheld
        cases hheld
  · exact h.goesOn hr hgoes

/-- The accounts of a user. -/
def accountsOf (w : PasswordWorld) (userId : ℕ) : List CredentialAccount :=
  w.accounts.rows.filter fun account => account.userId = userId

/-- A password is written into an account of its user only. -/
lemma filter_setPassword {userId other : ℕ} (hne : userId ≠ other) {existing : Option ℕ}
    (hexisting : ∀ id, existing = some id →
      ∃ account ∈ w.accounts.rows, account.id = id ∧ account.userId = userId) (password : String) :
    ((w.setPassword userId existing password).rows.filter fun account => account.userId = other) =
      w.accountsOf other := by
  cases existing with
  | none =>
      show (w.accounts.rows ++ [_]).filter _ = _
      rw [List.filter_append, accountsOf, List.filter_singleton]
      simp [hne]
  | some id =>
      obtain ⟨account, haccount, hid, huser⟩ := hexisting id rfl
      have hsame : ∀ row ∈ w.accounts.rows, row.id = id → row.userId = userId := by
        intro row hrow hrowId
        rw [SerialTable.eq_of_key hrow haccount (hrowId.trans hid.symm), huser]
      simp only [setPassword, SerialTable.update, SerialTable.rewrite, accountsOf]
      generalize w.accounts.rows = rows at hsame
      induction rows with
      | nil => rfl
      | cons row rows ih =>
          obtain ⟨hrow, hrows⟩ := List.forall_mem_cons.mp hsame
          rw [List.map_cons, List.filter_cons, List.filter_cons, ih hrows]
          by_cases hrowId : row.id = id
          · simp [hrowId, hrow hrowId, hne]
          · simp [hrowId]

/-! ## Accounts that are no admin's -/

/-- No request has found the account to be an admin's. -/
def Unjudged (userId : ℕ) (w : PasswordWorld) : Prop :=
  ∀ r ∈ w.resets, ∀ row ∈ r.point.judged, row.userId ≠ userId

instance (userId : ℕ) (w : PasswordWorld) : Decidable (w.Unjudged userId) :=
  inferInstanceAs (Decidable (∀ r ∈ w.resets, ∀ row ∈ r.point.judged, row.userId ≠ userId))

/-- A step that is taken while the account is no admin's leaves its password as it is. -/
lemma Unjudged.step {userId : ℕ} (h : w.Unjudged userId) (hknown : w.Known)
    (hrole : w.role userId ≠ some .admin) (hstep : w.step hashPassword ttlMs a = some w') :
    w'.Unjudged userId ∧ w'.accountsOf userId = w.accountsOf userId := by
  rcases step_cases hstep with hquiet | ⟨i, user, expiresAt, -, rfl⟩ | ⟨r, -, hjudged, rfl⟩ |
    ⟨i, r, hr, hgoes⟩
  · rw [Unjudged, hquiet.resets, accountsOf, hquiet.accounts]
    exact ⟨h, rfl⟩
  · exact ⟨h, rfl⟩
  · refine ⟨fun other hother row hrow => ?_, rfl⟩
    rcases List.mem_append.mp hother with hold | hnew
    · exact h other hold row hrow
    · rw [List.mem_singleton.mp hnew, hjudged] at hrow
      cases hrow
  · have hmem : r ∈ w.resets := List.mem_of_getElem? hr
    rcases hgoes with ⟨point, hmoves⟩ | ⟨row, -, -, -, -, rfl⟩ | ⟨row, existing, hpoint, rfl⟩ |
      ⟨row, -, rfl⟩
    · rw [Unjudged, hmoves.resets, accountsOf, hmoves.accounts]
      refine ⟨forall_set h fun row hrow heq => ?_, rfl⟩
      rcases hmoves.judged row hrow with hold | hadmin
      · exact h r hmem row hold heq
      · exact hrole (heq ▸ hadmin)
    · exact ⟨forall_set h nofun, rfl⟩
    · have hne : row.userId ≠ userId := h r hmem row (by simp [hpoint, ResetPoint.judged])
      refine ⟨forall_set h nofun, filter_setPassword hne (fun id hid => ?_) _⟩
      exact hknown.selected r hmem row id (hid ▸ hpoint)
    · exact ⟨forall_set h nofun, rfl⟩

/-! ## Tokens in turn -/

/-- No request looks a token up while another one holds it, and a token is deleted. -/
def InTurn (w : PasswordWorld) : PasswordAction → Prop
  | .looksUp i true =>
      ∀ r ∈ w.resets[i]?, ∀ other ∈ w.resets, ∀ row ∈ other.point.held, row.id ≠ r.token
  | .deletes _ ok => ok = true
  | _ => True

instance (w : PasswordWorld) (a : PasswordAction) : Decidable (InTurn w a) := by
  unfold InTurn
  split <;> infer_instance

/-- No two of the requests hold the same token. -/
def Distinct (resets : List PasswordReset) : Prop :=
  ∀ (i j : ℕ) (r r' : PasswordReset), resets[i]? = some r → resets[j]? = some r' →
    ∀ row ∈ r.point.held, ∀ row' ∈ r'.point.held, row.id = row'.id → i = j

/-- A request that goes on holds what it has held, or what no other one holds. -/
lemma Distinct.set {resets : List PasswordReset} {r' : PasswordReset} (h : Distinct resets)
    (hr : resets[i]? = some r)
    (hheld : ∀ row ∈ r'.point.held, row ∈ r.point.held ∨
      ∀ other ∈ resets, ∀ row' ∈ other.point.held, row'.id ≠ row.id) :
    Distinct (resets.set i r') := by
  have hother : ∀ (j : ℕ) (other : PasswordReset), i ≠ j → resets[j]? = some other →
      ∀ row ∈ r'.point.held, ∀ row' ∈ other.point.held, row.id ≠ row'.id := by
    intro j other hij hj row hrow row' hrow' heq
    rcases hheld row hrow with hold | hnew
    · exact hij (h i j r other hr hj row hold row' hrow' heq)
    · exact hnew other (List.mem_of_getElem? hj) row' hrow' heq.symm
  intro j k first second hj hk row hrow row' hrow' heq
  rw [List.getElem?_set] at hj hk
  by_cases hij : i = j <;> by_cases hik : i = k
  · exact hij.symm.trans hik
  · rw [if_pos hij, if_pos (hij ▸ (List.getElem?_eq_some_iff.mp hr).1)] at hj
    rw [if_neg hik] at hk
    obtain rfl := Option.some.inj hj
    exact absurd heq (hother k second hik hk row hrow row' hrow')
  · rw [if_pos hik, if_pos (hik ▸ (List.getElem?_eq_some_iff.mp hr).1)] at hk
    rw [if_neg hij] at hj
    obtain rfl := Option.some.inj hk
    exact absurd heq.symm (hother j first hij hj row' hrow' row hrow)
  · rw [if_neg hij] at hj
    rw [if_neg hik] at hk
    exact h j k first second hj hk row hrow row' hrow' heq

lemma Distinct.concat {resets : List PasswordReset} (h : Distinct resets)
    (hheld : r.point.held = none) : Distinct (resets ++ [r]) := by
  have hold : ∀ (j : ℕ) (other : PasswordReset), (resets ++ [r])[j]? = some other →
      ∀ row ∈ other.point.held, resets[j]? = some other := by
    intro j other hj row hrow
    rcases Nat.lt_or_ge j resets.length with hlt | hge
    · rwa [List.getElem?_append_left hlt] at hj
    · rw [List.getElem?_append_right hge, List.getElem?_singleton] at hj
      split at hj
      · obtain rfl := Option.some.inj hj
        rw [hheld] at hrow
        cases hrow
      · cases hj
  intro j k first second hj hk row hrow row' hrow' heq
  exact h j k first second (hold j first hj row hrow) (hold k second hk row' hrow') row hrow row'
    hrow' heq

/-- The token cannot be found any more. -/
def Gone (w : PasswordWorld) (token : ℕ) : Prop :=
  (∀ row ∈ w.verifications.rows, row.id ≠ token) ∧
    ∀ r ∈ w.resets, ∀ row ∈ r.point.held, row.id ≠ token

/-- The token is about to be deleted. -/
def Going (w : PasswordWorld) (token : ℕ) : Prop :=
  ∃ r ∈ w.resets, ∃ row, r.point = .deleting row ∧ row.id = token

/-- What holds as long as tokens are used in turn. -/
structure Single (w : PasswordWorld) : Prop where
  distinct : Distinct w.resets
  below : ∀ r ∈ w.resets, ∀ row ∈ r.point.held, row.id < w.verifications.next
  spent : ∀ write ∈ w.writes, write.token < w.verifications.next ∧
    (w.Going write.token ∨ w.Gone write.token)
  nodup : (w.writes.map PasswordWrite.token).Nodup

lemma single_initial (role : ℕ → Option UserRole) : (initial role).Single where
  distinct _ _ _ _ hr := by cases hr
  below _ hr := absurd hr List.not_mem_nil
  spent _ hwrite := absurd hwrite List.not_mem_nil
  nodup := List.nodup_nil

/-- The request that deletes a token is the only one that holds it. -/
lemma Single.eq_of_held (h : w.Single) (hr : w.resets[i]? = some r) (hrow : row ∈ r.point.held)
    {r' : PasswordReset} {row' : ResetToken} (hr' : r' ∈ w.resets) (hrow' : row' ∈ r'.point.held)
    (hid : row'.id = row.id) : r' = r := by
  obtain ⟨j, hj⟩ := List.mem_iff_getElem?.mp hr'
  obtain rfl := h.distinct j i r' r hj hr row' hrow' row hrow hid
  exact Option.some.inj (hj.symm.trans hr)

lemma held_deleting {r : PasswordReset} (h : r.point = .deleting row) : row ∈ r.point.held := by
  simp [h, ResetPoint.held]

/-- Another request that is about to delete its token still is. -/
lemma Going.set {token : ℕ} {r' : PasswordReset} (h : w.Going token) (hr : w.resets[i]? = some r)
    (hne : ∀ row, r.point = .deleting row → row.id ≠ token)
    (hresets : w'.resets = w.resets.set i r') : w'.Going token := by
  obtain ⟨other, hother, row, hdeleting, hid⟩ := h
  obtain ⟨j, hj⟩ := List.mem_iff_getElem?.mp hother
  have hij : i ≠ j := by
    rintro rfl
    obtain rfl := Option.some.inj (hr.symm.trans hj)
    exact hne row hdeleting hid
  refine ⟨other, ?_, row, hdeleting, hid⟩
  rw [hresets]
  exact List.mem_of_getElem? ((List.getElem?_set_ne hij).trans hj)

lemma Single.moves (h : w.Single) (hturn : InTurn w a) {point : ResetPoint}
    (hmoves : Moves w w' a i r point) : w'.Single := by
  have hmem : r ∈ w.resets := List.mem_of_getElem? hmoves.request
  have hne : ∀ row, r.point ≠ .deleting row := by
    intro row hrow
    have ha := hmoves.deleted row hrow
    subst ha
    cases hturn
  refine ⟨?_, ?_, ?_, ?_⟩
  · rw [hmoves.resets]
    exact h.distinct.set hmoves.request fun row hrow => Or.inl (hmoves.held row hrow)
  · rw [hmoves.resets, hmoves.verifications]
    exact forall_set h.below fun row hrow => h.below r hmem row (hmoves.held row hrow)
  · rw [hmoves.writes, hmoves.verifications]
    intro write hwrite
    obtain ⟨hlt, hgoing | ⟨hrows, hheld⟩⟩ := h.spent write hwrite
    · exact ⟨hlt, Or.inl
        (hgoing.set hmoves.request (fun row hrow => absurd hrow (hne row)) hmoves.resets)⟩
    · refine ⟨hlt, Or.inr ⟨?_, ?_⟩⟩
      · rw [hmoves.verifications]
        exact hrows
      · rw [hmoves.resets]
        exact forall_set hheld fun row hrow => hheld r hmem row (hmoves.held row hrow)
  · rw [hmoves.writes]
    exact h.nodup

lemma Single.looksUp (h : w.Single) (hturn : InTurn w (.looksUp i true))
    (hr : w.resets[i]? = some r) (hpoint : ∀ row, r.point ≠ .deleting row)
    (hrow : w.verifications.get? r.token = some row) :
    (w.setPoint i { r with lookedUpAt := w.now } (.findingUser row)).Single := by
  obtain ⟨hrows, hid⟩ := SerialTable.get?_eq_some.mp hrow
  refine ⟨h.distinct.set hr ?_, forall_set h.below ?_, ?_, h.nodup⟩
  · intro found hfound
    obtain rfl := Option.some.inj hfound
    exact Or.inr fun other hother row' hrow' => hid ▸ hturn r hr other hother row' hrow'
  · intro found hfound
    obtain rfl := Option.some.inj hfound
    exact w.verifications.key_lt row hrows
  · intro write hwrite
    obtain ⟨hlt, hgoing | ⟨hgone, hheld⟩⟩ := h.spent write hwrite
    · exact ⟨hlt, Or.inl (hgoing.set hr (fun row hrow => absurd hrow (hpoint row)) rfl)⟩
    · refine ⟨hlt, Or.inr ⟨hgone, forall_set hheld fun found hfound => ?_⟩⟩
      obtain rfl := Option.some.inj hfound
      exact hgone row hrows

lemma Single.write (h : w.Single) (hr : w.resets[i]? = some r) {existing : Option ℕ}
    (hpoint : r.point = .writing row existing) :
    (w.write hashPassword i r row existing).Single := by
  have hmem : r ∈ w.resets := List.mem_of_getElem? hr
  have hheld : row ∈ r.point.held := by simp [hpoint, ResetPoint.held]
  have hunused : ∀ write ∈ w.writes, write.token ≠ row.id := by
    intro write hwrite hid
    rcases (h.spent write hwrite).2 with ⟨other, hother, otherRow, hdeleting, hotherId⟩ | hgone
    · have hsame := h.eq_of_held hr hheld hother (held_deleting hdeleting) (hotherId.trans hid)
      rw [hsame, hpoint] at hdeleting
      cases hdeleting
    · exact hgone.2 r hmem row hheld hid.symm
  refine ⟨h.distinct.set hr ?_, forall_set h.below ?_, ?_, ?_⟩
  · intro other hother
    obtain rfl := Option.some.inj hother
    exact Or.inl hheld
  · intro other hother
    obtain rfl := Option.some.inj hother
    exact h.below r hmem row hheld
  · intro write hwrite
    rcases List.mem_append.mp hwrite with hold | hnew
    · obtain ⟨hlt, hgoing | ⟨hgone, hothers⟩⟩ := h.spent write hold
      · refine ⟨hlt, Or.inl (hgoing.set hr (fun other hother => ?_) rfl)⟩
        rw [hpoint] at hother
        cases hother
      · refine ⟨hlt, Or.inr ⟨hgone, forall_set hothers fun other hother => ?_⟩⟩
        obtain rfl := Option.some.inj hother
        exact (hunused write hold).symm
    · obtain rfl := List.mem_singleton.mp hnew
      refine ⟨h.below r hmem row hheld,
        Or.inl ⟨{ r with point := .deleting row }, ?_, row, rfl, rfl⟩⟩
      exact List.mem_of_getElem? (List.getElem?_set_self (List.getElem?_eq_some_iff.mp hr).1)
  · show ((w.writes ++ [_]).map PasswordWrite.token).Nodup
    rw [List.map_append, List.map_singleton, List.nodup_append]
    refine ⟨h.nodup, List.nodup_singleton _, fun token htoken other hother heq => ?_⟩
    obtain ⟨write, hwrite, rfl⟩ := List.mem_map.mp htoken
    exact hunused write hwrite (heq.trans (List.mem_singleton.mp hother))

lemma Single.delete (h : w.Single) (hr : w.resets[i]? = some r)
    (hpoint : r.point = .deleting row) : (w.delete i r row).Single := by
  have hheld := held_deleting hpoint
  refine ⟨h.distinct.set hr nofun, forall_set h.below nofun, ?_, h.nodup⟩
  intro write hwrite
  obtain ⟨hlt, hspent⟩ := h.spent write hwrite
  refine ⟨hlt, ?_⟩
  by_cases hid : row.id = write.token
  · refine Or.inr ⟨fun other hother => ?_, fun other hother otherRow hotherRow heq => ?_⟩
    · obtain ⟨-, hkept⟩ := SerialTable.mem_delete.mp hother
      exact hid ▸ of_decide_eq_false hkept
    · obtain ⟨j, hj⟩ := List.mem_iff_getElem?.mp hother
      have hj' : (w.resets.set i { r with point := .revoking row })[j]? = some other := hj
      rw [List.getElem?_set] at hj'
      split at hj'
      · split at hj'
        · obtain rfl := Option.some.inj hj'
          cases hotherRow
        · cases hj'
      · next hij =>
        exact hij (h.distinct i j r other hr hj' row hheld otherRow hotherRow (hid.trans heq.symm))
  · rcases hspent with hgoing | ⟨hgone, hothers⟩
    · refine Or.inl (hgoing.set hr (fun other hother => ?_) rfl)
      obtain rfl := ResetPoint.deleting.inj (hother.symm.trans hpoint)
      exact hid
    · exact Or.inr ⟨fun other hother => hgone other (SerialTable.mem_delete.mp hother).1,
        forall_set hothers nofun⟩

lemma Single.step (h : w.Single) (hturn : InTurn w a)
    (hstep : w.step hashPassword ttlMs a = some w') : w'.Single := by
  rcases step_cases hstep with hquiet | ⟨i, userId, expiresAt, -, rfl⟩ | ⟨r, hheld, -, rfl⟩ |
    ⟨i, r, hr, hgoes⟩
  · refine ⟨?_, ?_, ?_, ?_⟩
    · rw [hquiet.resets]
      exact h.distinct
    · rw [hquiet.resets, hquiet.next]
      exact h.below
    · rw [hquiet.writes, hquiet.next]
      intro write hwrite
      obtain ⟨hlt, hspent⟩ := h.spent write hwrite
      refine ⟨hlt, hspent.imp ?_ ?_⟩
      · rintro ⟨r, hr, hdeleting⟩
        exact ⟨r, hquiet.resets ▸ hr, hdeleting⟩
      · rintro ⟨hgone, hothers⟩
        rw [Gone, hquiet.resets]
        exact ⟨fun row hrow => hgone row (hquiet.rows row hrow), hothers⟩
    · rw [hquiet.writes]
      exact h.nodup
  · refine ⟨h.distinct, fun r hr row hrow => Nat.lt_succ_of_lt (h.below r hr row hrow), ?_, h.nodup⟩
    intro write hwrite
    obtain ⟨hlt, hspent⟩ := h.spent write hwrite
    refine ⟨Nat.lt_succ_of_lt hlt, hspent.imp_right ?_⟩
    rintro ⟨hgone, hothers⟩
    refine ⟨fun row hrow => ?_, hothers⟩
    rcases SerialTable.mem_insert.mp hrow with hold | rfl
    · exact hgone row hold
    · exact (Nat.ne_of_lt hlt).symm
  · have hempty : ∀ row ∈ r.point.held, False := by simp [hheld]
    refine ⟨h.distinct.concat hheld, ?_, ?_, h.nodup⟩
    · intro other hother row hrow
      rcases List.mem_append.mp hother with hold | hnew
      · exact h.below other hold row hrow
      · exact (hempty row (List.mem_singleton.mp hnew ▸ hrow)).elim
    · intro write hwrite
      obtain ⟨hlt, hspent⟩ := h.spent write hwrite
      refine ⟨hlt, hspent.imp ?_ ?_⟩
      · rintro ⟨other, hother, hdeleting⟩
        exact ⟨other, List.mem_append_left _ hother, hdeleting⟩
      · rintro ⟨hgone, hothers⟩
        refine ⟨hgone, fun other hother row hrow => ?_⟩
        rcases List.mem_append.mp hother with hold | hnew
        · exact hothers other hold row hrow
        · exact (hempty row (List.mem_singleton.mp hnew ▸ hrow)).elim
  · rcases hgoes with ⟨point, hmoves⟩ | ⟨row, rfl, hpoint, hrow, -, rfl⟩ |
      ⟨row, existing, hpoint, rfl⟩ | ⟨row, hpoint, rfl⟩
    · exact h.moves hturn hmoves
    · exact h.looksUp hturn hr (by simp [hpoint]) hrow
    · exact h.write hr hpoint
    · exact h.delete hr hpoint

/-! ## Runs -/

variable {role : ℕ → Option UserRole} {as bs : List PasswordAction}

lemma known_of_run (hrun : run (step hashPassword ttlMs) (initial role) as = some w) : w.Known :=
  (meets_of_forall (C := fun _ _ => True) fun _ _ => trivial).invariant
    (fun _ _ _ h _ hstep => h.step hstep) (known_initial role) hrun

/-- The account 1 is an admin's. -/
def oneAdmin (userId : ℕ) : Option UserRole := if userId = 1 then some .admin else none

def salted (password : String) : String := "salt:" ++ password

/-- A token of the account 1, which a request presents. -/
def onePresented : List PasswordAction :=
  [.forgets 1, .mints 0 true, .waits 60000, .presents 0 "correct horse"]

/-- The token is used. -/
def oneReset : List PasswordAction :=
  [.looksUp 0 true, .findsUser 0 true, .selects 0 true, .writes 0 true, .deletes 0 true,
    .revokes 0 true]

/-- Every password that has been written is that of the account of a token that has been minted, and
that had not expired when it was looked up. -/
theorem writes_are_minted (hrun : run (step hashPassword ttlMs) (initial role) as = some w) :
    ∀ write ∈ w.writes, ∃ row ∈ w.minted, row.id = write.token ∧ row.userId = write.userId ∧
      write.lookedUpAt ≤ row.expiresAt :=
  (known_of_run hrun).writes

theorem writes_are_minted_oneReset :
    ∃ w, run (step salted 86400000) (initial oneAdmin) (onePresented ++ oneReset) = some w ∧
      ∀ write ∈ w.writes, ∃ row ∈ w.minted, row.id = write.token ∧ row.userId = write.userId ∧
        write.lookedUpAt ≤ row.expiresAt := by
  obtain ⟨w, hrun⟩ : ∃ w, run (step salted 86400000) (initial oneAdmin)
      (onePresented ++ oneReset) = some w := Option.isSome_iff_exists.mp (by decide)
  exact ⟨w, hrun, writes_are_minted hrun⟩

/-- As long as an account is no admin's, its passwords stay as they are, unless a request has judged
it before. -/
theorem demoted_keeps_password {userId : ℕ}
    (hrun : run (step hashPassword ttlMs) (initial role) as = some w) (hjudged : w.Unjudged userId)
    (hrole : Meets (step hashPassword ttlMs) (fun w _ => w.role userId ≠ some .admin) w bs)
    (hrun' : run (step hashPassword ttlMs) w bs = some w') :
    w'.accountsOf userId = w.accountsOf userId := by
  have hkeep := hrole.invariant
    (I := fun s => (s.Known ∧ s.Unjudged userId) ∧ s.accountsOf userId = w.accountsOf userId)
    (fun s a s' h hdemoted hstep => by
      obtain ⟨⟨hknown, hunjudged⟩, haccounts⟩ := h
      obtain ⟨hunjudged', haccounts'⟩ := hunjudged.step hknown hdemoted hstep
      exact ⟨⟨hknown.step hstep, hunjudged'⟩, haccounts'.trans haccounts⟩)
    ⟨⟨known_of_run hrun, hjudged⟩, rfl⟩ hrun'
  exact hkeep.2

/-- The role is taken away while the request waits for its first look-up. -/
theorem demoted_keeps_password_oneReset :
    ∃ w w', run (step salted 86400000) (initial oneAdmin)
        (onePresented ++ [.setsRole 1 (some .customer)]) = some w ∧
      run (step salted 86400000) w [.looksUp 0 true, .findsUser 0 true] = some w' ∧
      w'.accountsOf 1 = w.accountsOf 1 := by
  let w := (run (step salted 86400000) (initial oneAdmin)
    (onePresented ++ [.setsRole 1 (some .customer)])).get (by decide)
  let w' := (run (step salted 86400000) w [.looksUp 0 true, .findsUser 0 true]).get (by decide)
  have hrun : run (step salted 86400000) (initial oneAdmin)
      (onePresented ++ [.setsRole 1 (some .customer)]) = some w := (Option.some_get _).symm
  have hrun' : run (step salted 86400000) w [.looksUp 0 true, .findsUser 0 true] = some w' :=
    (Option.some_get _).symm
  exact ⟨w, w', hrun, hrun', demoted_keeps_password hrun (by decide) (by decide) hrun'⟩

/-- Two requests that look the token up one after the other both write. -/
example : (run (step salted 86400000) (initial oneAdmin) (onePresented ++
    [.presents 0 "another horse", .looksUp 0 true, .looksUp 1 true, .findsUser 0 true,
      .findsUser 1 true, .selects 0 true, .writes 0 true, .deletes 0 true, .selects 1 true,
      .writes 1 true])).map (fun w => w.writes.map PasswordWrite.token) = some [0, 0] := by decide

end

end PasswordWorld

end ExpresSync
