import ExpresSync.Properties.ScanSteps

/-!
# Spent pairings

A pairing is spent once: `scan-result` claims it, or a `scan-login` request consumes it and takes
it to its session.  Both look for a row that is not `consumed` and leave it so, and no other
statement takes a row back from there.  What keeps a pairing from being spent twice also keeps a
device's login from its session: the row that `scan-result` has claimed is one that `scan-login`
does not consume.
-/

namespace ExpresSync

open Transition

namespace ScanWorld

/-- The pairings that requests in flight have consumed. -/
def held (logins : List Login) : List ℕ :=
  logins.filterMap fun login => login.point.row?.map Verification.id

variable (w : ScanWorld)

/-- The pairings that have been claimed, are held, or have brought a session. -/
def spent : List ℕ :=
  w.tagClaims.map (fun claim => claim.row.id) ++
    (held w.logins ++ w.sessions.map fun session => session.row.id)

end ScanWorld

/-- No pairing is spent twice, and what is spent is consumed. -/
structure SpentOnce (w : ScanWorld) : Prop where
  nodup : w.spent.Nodup
  below : ∀ id ∈ w.spent, id < w.table.next
  consumed : ∀ id ∈ w.spent, IsConsumed w.table id

section Spending

open ScanWorld

variable {keys : ScanKeys} {w w' : ScanWorld}

lemma held_append (logins logins' : List Login) :
    held (logins ++ logins') = held logins ++ held logins' := List.filterMap_append ..

lemma held_singleton (login : Login) :
    held [login] = (login.point.row?.map Verification.id).toList := by
  cases h : login.point.row? <;> simp [held, h]

lemma perm_held {i : ℕ} {login : Login} {logins : List Login} (h : logins[i]? = some login) :
    (held logins).Perm (held [login] ++ held (logins.eraseIdx i)) := by
  rw [← held_append]
  exact (InFlight.perm_eraseIdx h).filterMap _

lemma held_eraseIdx_sublist (logins : List Login) (i : ℕ) :
    (held (logins.eraseIdx i)).Sublist (held logins) :=
  (List.eraseIdx_sublist logins i).filterMap _

/-- A step that spends nothing. -/
lemma SpentOnce.of_sublist (h : SpentOnce w) (hevolves : Evolves w.table w'.table)
    (hnodup : w'.spent.Nodup) (hsubset : w'.spent ⊆ w.spent) : SpentOnce w' := by
  refine ⟨hnodup, fun id hid => (h.below id (hsubset hid)).trans_le hevolves.next_le, ?_⟩
  intro id hid row' hrow' heq
  rcases hevolves.kept row' hrow' with hnew | ⟨row, hrow, hkey, hstatus⟩
  · exact absurd (h.below id (hsubset hid)) (by omega)
  · exact hstatus (h.consumed id (hsubset hid) row hrow (hkey.trans heq))

/-- A step that spends an open row. -/
lemma SpentOnce.spend (h : SpentOnce w) (hevolves : Evolves w.table w'.table) {row : Verification}
    (hrow : row ∈ w.table.rows) (hopen : row.value.status ≠ some .consumed)
    (hspent : w'.spent.Perm (row.id :: w.spent)) (hclosed : IsConsumed w'.table row.id) :
    SpentOnce w' := by
  have hnew : row.id ∉ w.spent := fun hid => hopen (h.consumed row.id hid row hrow rfl)
  refine ⟨hspent.nodup_iff.mpr (List.nodup_cons.mpr ⟨hnew, h.nodup⟩), ?_, ?_⟩
  · intro id hid
    rcases List.mem_cons.mp (hspent.mem_iff.mp hid) with rfl | hold
    · exact (w.table.key_lt row hrow).trans_le hevolves.next_le
    · exact (h.below id hold).trans_le hevolves.next_le
  · intro id hid
    rcases List.mem_cons.mp (hspent.mem_iff.mp hid) with rfl | hold
    · exact hclosed
    · intro row' hrow' heq
      rcases hevolves.kept row' hrow' with hnew | ⟨old, hold', hkey, hstatus⟩
      · exact absurd (h.below id hold) (by omega)
      · exact hstatus (h.consumed id hold old hold' (hkey.trans heq))

lemma Verification.status_of_claimable {row : Verification} {identifier : String} {now : ℕ}
    (h : row.claimableBy identifier now = true) : row.value.status ≠ some .consumed := by
  intro hstatus
  simp [Verification.claimableBy, hstatus] at h

lemma Verification.status_of_consumable {row : Verification} {identifier idTag : String} {now : ℕ}
    (h : row.consumableBy identifier idTag now = true) : row.value.status ≠ some .consumed := by
  simp only [Verification.consumableBy, Bool.and_eq_true] at h
  exact Verification.status_of_canMatch h.2

/-- What a request holds as it goes on, apart from the consume. -/
lemma row?_of_goesOn {login : Login} {point : LoginPoint} (hgoes : w.GoesOn keys login point)
    (hpoint : ∀ row, point ≠ .consumed row) : point.row? = login.point.row? := by
  cases point with
  | posted => exact hgoes.elim
  | verified => rw [hgoes.1]; rfl
  | consumed row => exact absurd rfl (hpoint row)
  | mapped row userId => rw [hgoes.1]; rfl
  | authorized row user => rw [hgoes.1]; rfl

lemma spentOnce_step {a : ScanAction} (h : SpentOnce w) (hstep : w.step keys a = some w') :
    SpentOnce w' := by
  have hevolves := (ScanWorld.step_spec hstep).1.evolves
  cases (ScanWorld.step_spec hstep).2 with
  | rests hlogins hsessions hclaims =>
      have hspent : w'.spent = w.spent := by simp only [spent, hlogins, hsessions, hclaims]
      exact h.of_sublist hevolves (hspent ▸ h.nodup) (hspent ▸ List.Subset.refl _)
  | claims request row hrow hspent hlogins hsessions hclaims =>
      obtain ⟨hmem, hclaimable⟩ := List.mem_filter.mp (hrow ▸ List.mem_singleton_self row)
      refine h.spend hevolves hmem (Verification.status_of_claimable hclaimable) ?_ hspent
      simp only [spent, hlogins, hsessions, hclaims, List.map_append, List.map_cons, List.map_nil,
        List.append_assoc, List.singleton_append]
      exact List.perm_middle
  | arrives request hlogins hsessions hclaims =>
      have hspent : w'.spent = w.spent := by
        simp only [spent, hlogins, hsessions, hclaims, held_append, held_singleton,
          LoginPoint.row?, Option.map_none, Option.toList_none, List.append_nil]
      exact h.of_sublist hevolves (hspent ▸ h.nodup) (hspent ▸ List.Subset.refl _)
  | goesOn i login point hlogin hgoes hconsumed hlogins hsessions hclaims =>
      have hbefore := perm_held hlogin
      have hafter : (held w'.logins).Perm (held [⟨login.request, point⟩] ++
          held (w.logins.eraseIdx i)) := by
        rw [hlogins, held_append]
        exact List.perm_append_comm
      simp only [held_singleton] at hbefore hafter
      by_cases hpoint : ∃ row, point = .consumed row
      · obtain ⟨row, rfl⟩ := hpoint
        obtain ⟨hmem, hconsumable⟩ := List.mem_filter.mp (hgoes.2 ▸ List.mem_singleton_self row)
        rw [hgoes.1] at hbefore
        refine h.spend hevolves hmem (Verification.status_of_consumable hconsumable) ?_
          (hconsumed row rfl)
        simp only [spent, hsessions, hclaims]
        refine List.Perm.trans ?_ List.perm_middle
        exact ((hafter.trans (hbefore.symm.cons row.id)).append_right _).append_left _
      · have hrow := row?_of_goesOn hgoes fun row heq => hpoint ⟨row, heq⟩
        have hspent : w'.spent.Perm w.spent := by
          rw [hrow] at hafter
          simp only [spent, hsessions, hclaims]
          exact ((hafter.trans hbefore.symm).append_right _).append_left _
        exact h.of_sublist hevolves (hspent.nodup_iff.mpr h.nodup) hspent.subset
  | ends i hlogins hsessions hclaims =>
      have hspent : w'.spent.Sublist w.spent := by
        simp only [spent, hlogins, hsessions, hclaims]
        exact ((held_eraseIdx_sublist _ _).append_right _).append_left _
      exact h.of_sublist hevolves (h.nodup.sublist hspent) hspent.subset
  | mints i request row user hlogin hlogins hsessions hclaims =>
      have hspent : w'.spent.Perm w.spent := by
        simp only [spent, hlogins, hsessions, hclaims, List.map_append, List.map_cons, List.map_nil]
        refine List.Perm.append_left _ ?_
        refine List.Perm.trans ?_ ((perm_held hlogin).append_right _).symm
        rw [held_singleton, ← List.append_assoc]
        exact List.perm_append_comm
      exact h.of_sublist hevolves (hspent.nodup_iff.mpr h.nodup) hspent.subset

end Spending

/-! ## The login of a device -/

/-- The request has just what the stream of a claimed pairing has handed out, and it comes in
time. -/
def MayLogIn (w : ScanWorld) (request : LoginRequest) (claim : TagClaim) : Prop :=
  claim.row.value.purpose.getD "login" = "login" ∧
    (∃ message ∈ w.messages,
      message.stream.pairable = .device claim.request.deviceId ∧
        message.stream.pairingCode = claim.request.pairingCode ∧
        message.idTag = claim.request.idTag ∧
        request.pairable = message.stream.pairable ∧
        request.pairingCode = message.stream.pairingCode ∧
        request.idTag = message.idTag ∧ request.nonce = message.nonce ∧ request.t = message.t) ∧
    claim.row.isLive w.now = true ∧ request.isFresh w.now = true

instance (w : ScanWorld) (request : LoginRequest) (claim : TagClaim) :
    Decidable (MayLogIn w request claim) :=
  inferInstanceAs (Decidable (_ ∧ (∃ message ∈ w.messages, _) ∧ _ ∧ _))

/-- The consume of the request `i` lets it through with this pairing. -/
def LetsThrough (w' : ScanWorld) (request : LoginRequest) (claim : TagClaim) : Prop :=
  ∃ login ∈ w'.logins, login.request = request ∧ ∃ row ∈ login.point.row?, row.id = claim.row.id

instance (w' : ScanWorld) (request : LoginRequest) (claim : TagClaim) :
    Decidable (LetsThrough w' request claim) :=
  inferInstanceAs (Decidable (∃ login ∈ w'.logins, _ ∧ ∃ row ∈ login.point.row?, _))

/-- The consume of a request that may log in lets it through. -/
def CompletesDeviceLogin (w : ScanWorld) (a : ScanAction) (w' : ScanWorld) : Prop :=
  match a with
  | .loginConsumes i => ∀ login ∈ w.logins[i]?, ∀ claim ∈ w.tagClaims,
      MayLogIn w login.request claim → LetsThrough w' login.request claim
  | _ => True

instance (w : ScanWorld) (a : ScanAction) (w' : ScanWorld) :
    Decidable (CompletesDeviceLogin w a w') := by
  unfold CompletesDeviceLogin
  rcases a <;> infer_instance

/-- Every session is of a pairing of its own. -/
def OneSessionEach (w : ScanWorld) : Prop := (w.sessions.map fun session => session.row.id).Nodup

instance (w : ScanWorld) : Decidable (OneSessionEach w) :=
    inferInstanceAs (Decidable (List.Nodup _))

/-- No request is let through with a pairing that has been claimed, and none has its session. -/
def ClaimedStaysOut (w : ScanWorld) : Prop :=
  ∀ claim ∈ w.tagClaims,
    (∀ login ∈ w.logins, ∀ row ∈ login.point.row?, row.id ≠ claim.row.id) ∧
      ∀ session ∈ w.sessions, session.row.id ≠ claim.row.id

/-- The consume of a request that may log in does not let it through; and unless there is another
row of the same identifier, the request is answered there and then. -/
def RefusesDeviceLogin (w : ScanWorld) (a : ScanAction) (w' : ScanWorld) : Prop :=
  match a with
  | .loginConsumes i => ∀ login ∈ w.logins[i]?, ∀ claim ∈ w.tagClaims,
      MayLogIn w login.request claim → ¬LetsThrough w' login.request claim ∧
        ((∀ row ∈ w.table.rows, row.identifier = claim.row.identifier → row.id = claim.row.id) →
          w'.logins = w.logins.eraseIdx i)
  | _ => True

section Claims

open ScanWorld

variable {keys : ScanKeys} {w w' : ScanWorld}

lemma SpentOnce.oneSessionEach (h : SpentOnce w) : OneSessionEach w :=
  (List.nodup_append.mp (List.nodup_append.mp h.nodup).2.1).2.1

lemma SpentOnce.claimedStaysOut (h : SpentOnce w) : ClaimedStaysOut w := by
  intro claim hclaim
  have hid : claim.row.id ∈ w.tagClaims.map fun claim => claim.row.id := List.mem_map_of_mem hclaim
  have hother := (List.nodup_append.mp h.nodup).2.2 _ hid
  refine ⟨fun login hlogin row hrow heq => ?_, fun session hsession heq => ?_⟩
  · refine hother row.id (List.mem_append_left _ ?_) heq.symm
    exact List.mem_filterMap.mpr ⟨login, hlogin, by rw [hrow]; rfl⟩
  · refine hother session.row.id (List.mem_append_right _ ?_) heq.symm
    exact List.mem_map_of_mem hsession

lemma tagClaims_subset {a : ScanAction} (hstep : w.step keys a = some w') :
    w.tagClaims ⊆ w'.tagClaims := by
  cases (ScanWorld.step_spec hstep).2 with
  | claims request row hrow hspent hlogins hsessions hclaims =>
      rw [hclaims]
      exact List.subset_append_left _ _
  | rests hlogins hsessions hclaims => rw [hclaims]; exact List.Subset.refl _
  | arrives request hlogins hsessions hclaims => rw [hclaims]; exact List.Subset.refl _
  | goesOn i login point hlogin hgoes hspent hlogins hsessions hclaims =>
      rw [hclaims]
      exact List.Subset.refl _
  | ends i hlogins hsessions hclaims => rw [hclaims]; exact List.Subset.refl _
  | mints i request row user hlogin hlogins hsessions hclaims =>
      rw [hclaims]
      exact List.Subset.refl _

/-- What has been claimed was claimed under the identifier of the device. -/
def ClaimsOwn (w : ScanWorld) : Prop :=
  ∀ claim ∈ w.tagClaims, claim.row.identifier =
    devicePairingIdentifier claim.request.deviceId claim.request.pairingCode

lemma claimsOwn_step {a : ScanAction} (h : ClaimsOwn w) (hstep : w.step keys a = some w') :
    ClaimsOwn w' := by
  unfold ClaimsOwn
  cases (ScanWorld.step_spec hstep).2 with
  | claims request row hrow hspent hlogins hsessions hclaims =>
      obtain ⟨-, hclaimable⟩ := List.mem_filter.mp (hrow ▸ List.mem_singleton_self row)
      simp only [Verification.claimableBy, Bool.and_eq_true, beq_iff_eq] at hclaimable
      rw [hclaims]
      intro claim hclaim
      rcases List.mem_append.mp hclaim with hold | hnew
      · exact h claim hold
      · rw [List.mem_singleton.mp hnew]
        exact hclaimable.1.1
  | rests hlogins hsessions hclaims => rw [hclaims]; exact h
  | arrives request hlogins hsessions hclaims => rw [hclaims]; exact h
  | goesOn i login point hlogin hgoes hspent hlogins hsessions hclaims => rw [hclaims]; exact h
  | ends i hlogins hsessions hclaims => rw [hclaims]; exact h
  | mints i request row user hlogin hlogins hsessions hclaims => rw [hclaims]; exact h

/-- The consume finds no row of the identifier that is not spent. -/
lemma refusesDeviceLogin (hspent : SpentOnce w) (hown : ClaimsOwn w) {a : ScanAction}
    (hstep : w.step keys a = some w') : RefusesDeviceLogin w a w' := by
  cases a with
  | loginConsumes i =>
      have hspent' := spentOnce_step hspent hstep
      intro login hlogin claim hclaim hmay
      obtain ⟨-, ⟨message, -, hpairable, hcode, -, hpairable', hcode', -⟩, -⟩ := hmay
      have hclaim' : claim ∈ w'.tagClaims := tagClaims_subset hstep hclaim
      refine ⟨?_, fun hone => ?_⟩
      · rintro ⟨login', hlogin', -, row, hrow, hid⟩
        exact (hspent'.claimedStaysOut claim hclaim').1 login' hlogin' row hrow hid
      · obtain ⟨login', hlogin', hstep⟩ := Option.bind_eq_some_iff.mp hstep
        obtain rfl := Option.some.inj (hlogin.symm.trans hlogin')
        split at hstep
        · next hpoint =>
          obtain ⟨pairings, -, rfl⟩ := Option.map_eq_some_iff.mp hstep
          have hnone : w.table.rows.filter (Verification.consumableBy login.request.identifier
              login.request.idTag w.now) = [] := by
            refine List.filter_eq_nil_iff.mpr fun row hrow hconsumable => ?_
            refine Verification.status_of_consumable hconsumable ?_
            simp only [Verification.consumableBy, Bool.and_eq_true, beq_iff_eq] at hconsumable
            refine hspent.consumed claim.row.id ?_ row hrow (hone row hrow ?_)
            · exact List.mem_append_left _ (List.mem_map_of_mem hclaim)
            · rw [hconsumable.1.1, hown claim hclaim, LoginRequest.identifier, hpairable',
                hpairable, hcode', hcode]
              rfl
          rw [hnone]
          rfl
        · cases hstep
  | _ => trivial

lemma spentOnce_initial (mappings : List UserMapping) (users : List UserRow) :
    SpentOnce (.initial mappings users) :=
  ⟨List.nodup_nil, fun _ h => absurd h List.not_mem_nil, fun _ h => absurd h List.not_mem_nil⟩

end Claims

/-- In every run: a pairing brings one session at most; one that a device has claimed brings none,
and the request that may log in for it is refused at its consume. -/
theorem deviceLogin_never (keys : ScanKeys) (mappings : List UserMapping) (users : List UserRow)
    (as : List ScanAction) :
    Always (ScanWorld.step keys) (fun w => OneSessionEach w ∧ ClaimedStaysOut w)
        (.initial mappings users) as ∧
      EachStep (ScanWorld.step keys) RefusesDeviceLogin (.initial mappings users) as := by
  have hspent := spentOnce_initial mappings users
  have hkeep : ∀ w a w', SpentOnce w ∧ ClaimsOwn w → True → ScanWorld.step keys w a = some w' →
      SpentOnce w' ∧ ClaimsOwn w' := fun w a w' h _ hstep =>
    ⟨spentOnce_step h.1 hstep, claimsOwn_step h.2 hstep⟩
  have htrue : Meets (ScanWorld.step keys) (fun _ _ => True) (.initial mappings users) as :=
    meets_of_forall fun _ _ => trivial
  have hown : ClaimsOwn (.initial mappings users) := fun _ h => absurd h List.not_mem_nil
  refine ⟨⟨⟨hspent.oneSessionEach, hspent.claimedStaysOut⟩, ?_⟩, ?_⟩
  · refine Meets.eachStep hkeep ?_ ⟨hspent, hown⟩ htrue
    intro w a w' h _ hstep
    exact ⟨(spentOnce_step h.1 hstep).oneSessionEach, (spentOnce_step h.1 hstep).claimedStaysOut⟩
  · exact Meets.eachStep hkeep (fun w a w' h _ => refusesDeviceLogin h.1 h.2) ⟨hspent, hown⟩ htrue

namespace Scenario

def scanKeys : ScanKeys where
  sign := fun _ => "d819830a7c8b1e7d4256c7902253637717ec6d734407905988fc1c8733b2558f"
  signDevice := fun _ _ => "dd1bdd3514e107bb2d25ac2d0da4b3017513179b56a6d8ad714bd76f7cb3c34c"

def scanMapping : UserMapping where
  id := 1
  steveOcppTagPk := 1
  steveOcppIdTag := "TAG"
  lagoCustomerExternalId := none
  lagoSubscriptionExternalId := none
  displayName := none
  tagType := .evCard
  isActive := true
  steveParentIdTag := none
  steveExpiryDate := none
  userId := some "CUSTOMER"

def scanCustomer : UserRow := ⟨"CUSTOMER", "customer"⟩

/-- A customer arms a phone; the phone reports the card, the stream hands it out, and the browser
asks for the session with just that. -/
def deviceLogin : List ScanAction :=
  [.arms (.deviceArmStarts ⟨"PHONE", "login"⟩ (.ok none)), .arms (.deviceArmInserts 0 "ABC234"),
    .detectOpens (.device "PHONE") "ABC234", .arms (.pairing (.waits 1000)),
    .scanResult ⟨"PHONE", "TAG", "ABC234", 1,
      "dd1bdd3514e107bb2d25ac2d0da4b3017513179b56a6d8ad714bd76f7cb3c34c"⟩,
    .detectHears 0 0, .arms (.pairing (.waits 500)),
    .loginPosts ⟨"10.0.0.1", "ABC234", "", "PHONE", "TAG",
      "d819830a7c8b1e7d4256c7902253637717ec6d734407905988fc1c8733b2558f", 1000⟩ false,
    .loginVerifies 0 false, .loginConsumes 0]

end Scenario

/-- The row is consumed already, by the phone's report. -/
theorem not_completesDeviceLogin_deviceLogin :
    ¬EachStep (ScanWorld.step Scenario.scanKeys) CompletesDeviceLogin
      (.initial [Scenario.scanMapping] [Scenario.scanCustomer]) Scenario.deviceLogin := by
  decide +kernel

end ExpresSync
