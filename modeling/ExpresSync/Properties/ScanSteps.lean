import ExpresSync.Foundation.Transition
import ExpresSync.Model.ScanLogin
import ExpresSync.Properties.CardTaps
import ExpresSync.Properties.SingleFlight

/-!
# Steps of the scan login

What a step of `ScanWorld` does to the table, and what it does to the requests in flight and their
sessions.  The invariants of the system follow from these two accounts.
-/

namespace ExpresSync

/-! ## The table over a step -/

/-- Rows that are consumed stay so, and keys are not used again. -/
structure Evolves (table table' : VerificationTable) : Prop where
  next_le : table.next ≤ table'.next
  kept : ∀ row' ∈ table'.rows, table.next ≤ row'.id ∨ ∃ row ∈ table.rows, row.id = row'.id ∧
    (row.value.status = some .consumed → row'.value.status = some .consumed)

namespace Evolves

variable {table : VerificationTable}

lemma refl : Evolves table table :=
  ⟨le_refl _, fun row' hrow' => Or.inr ⟨row', hrow', rfl, fun hstatus => hstatus⟩⟩

lemma insert {mk : ℕ → Verification} (hmk : ∀ n, (mk n).id = n) :
    Evolves table (table.insert mk hmk) := by
  refine ⟨Nat.le_succ _, fun row' hrow' => ?_⟩
  rcases List.mem_append.mp hrow' with hold | hnew
  · exact Or.inr ⟨row', hold, rfl, fun hstatus => hstatus⟩
  · rw [List.mem_singleton.mp hnew, hmk]
    exact Or.inl (le_refl _)

lemma update {sel : Verification → Bool} {f : Verification → Verification}
    (hf : ∀ row, (f row).id = row.id)
    (hconsumed : ∀ row ∈ table.rows, sel row = true → row.value.status = some .consumed →
      (f row).value.status = some .consumed) : Evolves table (table.update sel f hf) := by
  refine ⟨le_refl _, fun row' hrow' => Or.inr ?_⟩
  obtain ⟨row, hrow, rfl⟩ := SerialTable.mem_rewrite.mp hrow'
  refine ⟨row, hrow, ?_, ?_⟩
  · split
    · exact (hf row).symm
    · rfl
  · intro hstatus
    split
    · next hsel => exact hconsumed row hrow hsel hstatus
    · exact hstatus

lemma delete {sel : Verification → Bool} : Evolves table (table.delete sel) :=
  ⟨le_refl _, fun row' hrow' => Or.inr
    ⟨row', (SerialTable.mem_delete.mp hrow').1, rfl, fun hstatus => hstatus⟩⟩

end Evolves

lemma Verification.status_of_canMatch {row : Verification} {idTag : String}
    (h : row.canMatch idTag = true) : row.value.status ≠ some .consumed := by
  intro hstatus
  simp [Verification.canMatch, hstatus] at h

lemma PairingWorld.evolves {w w' : PairingWorld} {a : PairingAction} (hstep : w.step a = some w') :
    Evolves w.table w'.table := by
  cases a with
  | armStarts arming found =>
      obtain ⟨existing, -, rfl⟩ := Option.map_eq_some_iff.mp hstep
      cases existing with
      | none => exact .refl
      | some code => exact .refl
  | armInserts i pairingCode =>
      obtain ⟨arming, -, rfl⟩ := Option.map_eq_some_iff.mp hstep
      exact .insert fun _ => rfl
  | preAuthorizes chargeBoxId idTag locked target =>
      simp only [PairingWorld.step] at hstep
      split at hstep
      · cases hstep
      · obtain ⟨target, htarget, rfl⟩ := Option.map_eq_some_iff.mp hstep
        cases target with
        | none => exact .refl
        | some row =>
            refine .update (f := Verification.matchTo idTag)
              (fun _ => rfl) fun old hold hsel hstatus => ?_
            obtain ⟨hrow, hcandidate⟩ := isCandidate_of_preAuthorizeTarget htarget
            obtain rfl : old = row := SerialTable.eq_of_key hold hrow (by simpa using hsel)
            exact absurd hstatus
              (Verification.status_of_canMatch (Verification.canMatch_of_isCandidate hcandidate))
  | logsIn identifier idTag =>
      obtain rfl := Option.some.inj hstep
      exact .update (f := Verification.consume) (fun _ => rfl) fun _ _ _ _ => rfl
  | scanResult identifier idTag =>
      obtain rfl := Option.some.inj hstep
      exact .update (f := Verification.claim idTag) (fun _ => rfl) fun _ _ _ _ => rfl
  | releases | cleansUp =>
      obtain rfl := Option.some.inj hstep
      exact .delete
  | armsDevice =>
      obtain rfl := Option.some.inj hstep
      exact .insert fun _ => rfl
  | waits | armFails =>
      obtain rfl := Option.some.inj hstep
      exact .refl

/-- The row is matched to the card. -/
def Verification.IsMatched (idTag : String) (row : Verification) : Prop :=
  row.value.status = some .matched ∧ row.value.matchedIdTag = some idTag

/-- Only a tap makes a row a matched one. -/
lemma PairingWorld.matched_of_step {w w' : PairingWorld} {a : PairingAction} {idTag : String}
    {row' : Verification} (hstep : w.step a = some w') (hrow' : row' ∈ w'.table.rows)
    (hmatched : row'.IsMatched idTag) :
    (∃ row ∈ w.table.rows, row.id = row'.id ∧ row.IsMatched idTag) ∨
      ∃ chargeBoxId locked target row, a = .preAuthorizes chargeBoxId idTag locked target ∧
        w.preAuthorizeTarget chargeBoxId idTag locked target = some (some row) ∧
          row.id = row'.id := by
  cases a with
  | armStarts arming found =>
      obtain ⟨existing, -, rfl⟩ := Option.map_eq_some_iff.mp hstep
      cases existing with
      | none => exact Or.inl ⟨row', hrow', rfl, hmatched⟩
      | some code => exact Or.inl ⟨row', hrow', rfl, hmatched⟩
  | armInserts i pairingCode =>
      obtain ⟨arming, -, rfl⟩ := Option.map_eq_some_iff.mp hstep
      rcases List.mem_append.mp hrow' with hold | hnew
      · exact Or.inl ⟨row', hold, rfl, hmatched⟩
      · rw [List.mem_singleton.mp hnew] at hmatched
        cases hmatched.1
  | armsDevice deviceId pairingCode purpose =>
      obtain rfl := Option.some.inj hstep
      rcases List.mem_append.mp hrow' with hold | hnew
      · exact Or.inl ⟨row', hold, rfl, hmatched⟩
      · rw [List.mem_singleton.mp hnew] at hmatched
        cases hmatched.1
  | preAuthorizes chargeBoxId card locked target =>
      simp only [PairingWorld.step] at hstep
      split at hstep
      · cases hstep
      · obtain ⟨row, htarget, rfl⟩ := Option.map_eq_some_iff.mp hstep
        cases row with
        | none => exact Or.inl ⟨row', hrow', rfl, hmatched⟩
        | some row =>
            obtain ⟨old, hold, rfl⟩ := SerialTable.mem_rewrite.mp hrow'
            split at hmatched
            · next hsel =>
              rw [if_pos hsel]
              obtain rfl : card = idTag := Option.some.inj hmatched.2
              exact Or.inr ⟨chargeBoxId, locked, target, row, rfl, htarget,
                (beq_iff_eq.mp hsel).symm⟩
            · next hsel =>
              rw [if_neg hsel]
              exact Or.inl ⟨old, hold, rfl, hmatched⟩
  | logsIn identifier card =>
      obtain rfl := Option.some.inj hstep
      obtain ⟨old, hold, rfl⟩ := SerialTable.mem_rewrite.mp hrow'
      split at hmatched
      · cases hmatched.1
      · next hsel =>
        rw [if_neg hsel]
        exact Or.inl ⟨old, hold, rfl, hmatched⟩
  | scanResult identifier card =>
      obtain rfl := Option.some.inj hstep
      obtain ⟨old, hold, rfl⟩ := SerialTable.mem_rewrite.mp hrow'
      split at hmatched
      · cases hmatched.1
      · next hsel =>
        rw [if_neg hsel]
        exact Or.inl ⟨old, hold, rfl, hmatched⟩
  | releases | cleansUp =>
      obtain rfl := Option.some.inj hstep
      exact Or.inl ⟨row', (SerialTable.mem_delete.mp hrow').1, rfl, hmatched⟩
  | waits | armFails =>
      obtain rfl := Option.some.inj hstep
      exact Or.inl ⟨row', hrow', rfl, hmatched⟩

/-! ## The requests over a step -/

/-- The request can have gone on to this point. -/
def ScanWorld.GoesOn (keys : ScanKeys) (w : ScanWorld) (login : Login) : LoginPoint → Prop
  | .posted => False
  | .verified =>
      login.point = .posted ∧ login.request.nonceMatches keys = true ∧
        login.request.isFresh w.now = true
  | .consumed row =>
      login.point = .verified ∧ w.table.rows.filter
        (Verification.consumableBy login.request.identifier login.request.idTag w.now) = [row]
  | .mapped row userId =>
      login.point = .consumed row ∧ ∃ mapping ∈ w.mappings,
        isMappingOf login.request.idTag mapping = true ∧ mapping.userId = some userId
  | .authorized row user =>
      login.point = .mapped row user.id ∧ user ∈ w.users ∧ user.role = "customer"

/-- What is left of the row is consumed. -/
def IsConsumed (table : VerificationTable) (id : ℕ) : Prop :=
  ∀ row ∈ table.rows, row.id = id → row.value.status = some .consumed

lemma isConsumed_of_update {table table' : VerificationTable} {sel : Verification → Bool}
    {f : Verification → Verification} {row : Verification}
    (hf : ∀ row, (f row).id = row.id ∧ (f row).value.status = some .consumed)
    (hrow : table.rows.filter sel = [row])
    (htable : table'.rows = SerialTable.rewrite sel f table.rows) : IsConsumed table' row.id := by
  have hmem : row ∈ table.rows ∧ sel row = true := by
    rw [← List.mem_filter, hrow]
    exact List.mem_singleton_self row
  intro row' hrow' hid
  rw [htable] at hrow'
  obtain ⟨old, hold, rfl⟩ := SerialTable.mem_rewrite.mp hrow'
  split
  · exact (hf old).2
  · next hsel =>
    rw [if_neg hsel] at hid
    exact absurd (SerialTable.eq_of_key hold hmem.1 hid ▸ hmem.2) hsel

/-- What a step does to the requests, the sessions and the claims. -/
inductive ScanStep (keys : ScanKeys) (w w' : ScanWorld) : Prop
  | rests (hlogins : w'.logins = w.logins) (hsessions : w'.sessions = w.sessions)
      (hclaims : w'.tagClaims = w.tagClaims)
  | claims (request : ScanResultRequest) (row : Verification)
      (hrow : w.table.rows.filter (Verification.claimableBy
        (devicePairingIdentifier request.deviceId request.pairingCode) w.now) = [row])
      (hspent : IsConsumed w'.table row.id) (hlogins : w'.logins = w.logins)
      (hsessions : w'.sessions = w.sessions)
      (hclaims : w'.tagClaims = w.tagClaims ++ [⟨row, request⟩])
  | arrives (request : LoginRequest) (hlogins : w'.logins = w.logins ++ [⟨request, .posted⟩])
      (hsessions : w'.sessions = w.sessions) (hclaims : w'.tagClaims = w.tagClaims)
  | goesOn (i : ℕ) (login : Login) (point : LoginPoint) (hlogin : w.logins[i]? = some login)
      (hgoes : w.GoesOn keys login point)
      (hspent : ∀ row, point = .consumed row → IsConsumed w'.table row.id)
      (hlogins : w'.logins = w.logins.eraseIdx i ++ [⟨login.request, point⟩])
      (hsessions : w'.sessions = w.sessions) (hclaims : w'.tagClaims = w.tagClaims)
  | ends (i : ℕ) (hlogins : w'.logins = w.logins.eraseIdx i) (hsessions : w'.sessions = w.sessions)
      (hclaims : w'.tagClaims = w.tagClaims)
  | mints (i : ℕ) (request : LoginRequest) (row : Verification) (user : UserRow)
      (hlogin : w.logins[i]? = some ⟨request, .authorized row user⟩)
      (hlogins : w'.logins = w.logins.eraseIdx i)
      (hsessions : w'.sessions = w.sessions ++ [⟨request, row, user.id⟩])
      (hclaims : w'.tagClaims = w.tagClaims)

section Steps

variable {keys : ScanKeys} {w w' : ScanWorld} {a : ScanAction}

/-- What has been published and handed out is kept, and what is handed out was reported. -/
structure ScanWorld.Hears (w w' : ScanWorld) : Prop where
  events : w.events ⊆ w'.events
  rejects : w.rejects ⊆ w'.rejects
  messages : w.messages ⊆ w'.messages
  reported : ∀ message ∈ w'.messages,
    message ∈ w.messages ∨ w'.Reported message.stream.pairable message.idTag

lemma ScanWorld.Hears.of_messages (hevents : w.events ⊆ w'.events)
    (hrejects : w'.rejects = w.rejects) (hmessages : w'.messages = w.messages) : w.Hears w' where
  events := hevents
  rejects := by rw [hrejects]; exact List.Subset.refl _
  messages := by rw [hmessages]; exact List.Subset.refl _
  reported := fun message hmessage => Or.inl (hmessages ▸ hmessage)

/-- A stream hands out what has been reported. -/
lemma ScanWorld.Hears.of_message {message : ScanMessage} (hevents : w.events ⊆ w'.events)
    (hrejects : w.rejects ⊆ w'.rejects) (hmessages : w'.messages = w.messages ++ [message])
    (hreported : w'.Reported message.stream.pairable message.idTag) : w.Hears w' where
  events := hevents
  rejects := hrejects
  messages := by rw [hmessages]; exact List.subset_append_left _ _
  reported := by
    intro other hother
    rw [hmessages] at hother
    rcases List.mem_append.mp hother with hold | hnew
    · exact Or.inl hold
    · rw [List.mem_singleton.mp hnew]
      exact Or.inr hreported

/-- What a step leaves as it is, or only adds to. -/
structure ScanWorld.Grows (w w' : ScanWorld) : Prop where
  hears : w.Hears w'
  evolves : Evolves w.table w'.table
  mappings : w'.mappings = w.mappings
  users : w'.users = w.users
  tagMatches : w.tagMatches ⊆ w'.tagMatches
  matched : ∀ row' ∈ w'.table.rows, ∀ idTag, row'.IsMatched idTag →
    (∃ row ∈ w.table.rows, row.id = row'.id ∧ row.IsMatched idTag) ∨
      ∃ tagMatch ∈ w'.tagMatches, tagMatch.row.id = row'.id ∧ tagMatch.idTag = idTag ∧
        tagMatch.row.isLive tagMatch.now = true

/-- Steps that do not write the table. -/
lemma ScanWorld.Grows.of_table (hhears : w.Hears w') (htable : w'.table = w.table)
    (hmappings : w'.mappings = w.mappings) (husers : w'.users = w.users)
    (hmatches : w'.tagMatches = w.tagMatches) : w.Grows w' where
  hears := hhears
  evolves := by
    rw [htable]
    exact .refl
  mappings := hmappings
  users := husers
  tagMatches := by rw [hmatches]; exact List.Subset.refl _
  matched := by
    intro row' hrow' idTag hmatched
    rw [htable] at hrow'
    exact Or.inl ⟨row', hrow', rfl, hmatched⟩

/-- Steps that are about a stream or a request only. -/
lemma ScanWorld.Grows.of_arm (harm : w'.arm = w.arm) (hevents : w'.events = w.events)
    (hrejects : w'.rejects = w.rejects) (hmessages : w'.messages = w.messages)
    (hmappings : w'.mappings = w.mappings) (husers : w'.users = w.users)
    (hmatches : w'.tagMatches = w.tagMatches) : w.Grows w' :=
  .of_table (.of_messages (by rw [hevents]; exact List.Subset.refl _) hrejects hmessages)
    (congrArg (fun arm : ArmWorld => arm.pairings.table) harm) hmappings husers hmatches

/-- Steps of the pairings, apart from taps. -/
lemma ScanWorld.Grows.of_pairings (hhears : w.Hears w') {action : PairingAction}
    {pairings : PairingWorld} (hpairings : w.arm.pairings.step action = some pairings)
    (haction : ∀ chargeBoxId idTag locked target,
      action ≠ .preAuthorizes chargeBoxId idTag locked target)
    (htable : w'.table = pairings.table) (hmappings : w'.mappings = w.mappings)
    (husers : w'.users = w.users) (hmatches : w'.tagMatches = w.tagMatches) : w.Grows w' where
  hears := hhears
  evolves := by
    rw [htable]
    exact PairingWorld.evolves hpairings
  mappings := hmappings
  users := husers
  tagMatches := by rw [hmatches]; exact List.Subset.refl _
  matched := by
    intro row' hrow' idTag hmatched
    rw [htable] at hrow'
    rcases PairingWorld.matched_of_step hpairings hrow' hmatched with hold |
      ⟨chargeBoxId, locked, target, row, rfl, -⟩
    · exact Or.inl hold
    · exact absurd rfl (haction chargeBoxId idTag locked target)

/-- A mapping that is found is one of the tag's. -/
lemma mem_of_findMapping {idTag : String} {found : Option UserMapping} {mapping : UserMapping}
    (h : w.findMapping idTag found = some (some mapping)) :
    mapping ∈ w.mappings ∧ isMappingOf idTag mapping = true := by
  cases found with
  | none =>
      simp only [ScanWorld.findMapping] at h
      split at h
      · cases h
      · cases Option.some.inj h
  | some found =>
      simp only [ScanWorld.findMapping] at h
      split at h
      · next hfound =>
        obtain rfl := Option.some.inj (Option.some.inj h)
        exact hfound
      · cases h

/-- What a step adds, and what it does to the requests. -/
theorem ScanWorld.step_spec (hstep : w.step keys a = some w') :
    w.Grows w' ∧ ScanStep keys w w' := by
  cases a with
  | arms action =>
      simp only [ScanWorld.step] at hstep
      split at hstep
      · cases hstep
      · next hscan =>
        obtain ⟨arm, harm, rfl⟩ := Option.map_eq_some_iff.mp hstep
        refine ⟨?_, .rests rfl rfl rfl⟩
        rcases ArmWorld.step_cases harm with ⟨action, hpairings, -, haction⟩ | ⟨hpairings, -⟩
        · refine .of_pairings (.of_messages (List.Subset.refl _) rfl rfl) hpairings ?_
            rfl rfl rfl rfl
          rintro chargeBoxId idTag locked target rfl
          rcases haction with rfl | hdevice
          · exact hscan rfl
          · cases hdevice
        · exact .of_table (.of_messages (List.Subset.refl _) rfl rfl)
            (congrArg PairingWorld.table hpairings) rfl rfl rfl
  | preAuthorizes chargeBoxId card locked target =>
      obtain ⟨pairings, hpairings, hstep⟩ := Option.bind_eq_some_iff.mp hstep
      obtain ⟨row, htarget, rfl⟩ := Option.map_eq_some_iff.mp hstep
      refine ⟨⟨.of_messages (List.subset_append_left _ _) rfl rfl, PairingWorld.evolves hpairings,
        rfl, rfl, List.subset_append_left _ _, ?_⟩, .rests rfl rfl rfl⟩
      intro row' hrow' idTag hmatched
      rcases PairingWorld.matched_of_step hpairings hrow' hmatched with hold |
        ⟨chargeBoxId', locked', target', row, haction, htarget', hid⟩
      · exact Or.inl hold
      · obtain ⟨rfl, rfl, rfl, rfl⟩ := PairingAction.preAuthorizes.inj haction
        obtain rfl := Option.some.inj (htarget.symm.trans htarget')
        obtain ⟨-, hcandidate⟩ := isCandidate_of_preAuthorizeTarget htarget'
        refine Or.inr ⟨⟨row, card, w.now⟩, ?_, hid, rfl,
          Verification.isLive_of_isCandidate hcandidate⟩
        exact List.mem_append_right _ List.mem_cons_self
  | scanResult request =>
      simp only [ScanWorld.step] at hstep
      split at hstep
      · obtain ⟨pairings, hpairings, rfl⟩ := Option.map_eq_some_iff.mp hstep
        unfold ScanWorld.scanResult
        split
        · next row hrow =>
          refine ⟨.of_pairings (.of_messages (List.subset_append_left _ _) rfl rfl) hpairings
            (by simp) rfl rfl rfl rfl, ?_⟩
          obtain rfl := Option.some.inj hpairings
          exact .claims request row hrow
            (isConsumed_of_update (f := Verification.claim request.idTag) (fun _ => ⟨rfl, rfl⟩)
              hrow rfl) rfl rfl rfl
        · exact ⟨.of_pairings (.of_messages (List.Subset.refl _) rfl rfl) hpairings (by simp)
            rfl rfl rfl rfl, .rests rfl rfl rfl⟩
      · obtain rfl := Option.some.inj hstep
        exact ⟨.of_arm rfl rfl rfl rfl rfl rfl rfl, .rests rfl rfl rfl⟩
  | detectOpens pairable pairingCode =>
      simp only [ScanWorld.step] at hstep
      split at hstep
      · obtain rfl := Option.some.inj hstep
        exact ⟨.of_arm rfl rfl rfl rfl rfl rfl rfl, .rests rfl rfl rfl⟩
      · obtain rfl := Option.some.inj hstep
        exact ⟨.of_arm rfl rfl rfl rfl rfl rfl rfl, .rests rfl rfl rfl⟩
  | detectEnds i =>
      obtain rfl := Option.some.inj hstep
      exact ⟨.of_arm rfl rfl rfl rfl rfl rfl rfl, .rests rfl rfl rfl⟩
  | detectHears i k =>
      obtain ⟨stream, -, hstep⟩ := Option.bind_eq_some_iff.mp hstep
      obtain ⟨event, hevent, hstep⟩ := Option.bind_eq_some_iff.mp hstep
      split at hstep
      · next hdelivers =>
        obtain rfl := Option.some.inj hstep
        simp only [DetectStream.delivers, Bool.and_eq_true, beq_iff_eq] at hdelivers
        refine ⟨.of_table (.of_message (List.Subset.refl _) (List.Subset.refl _) rfl ?_)
          rfl rfl rfl rfl, .rests rfl rfl rfl⟩
        exact Or.inl ⟨event, List.mem_of_getElem? hevent, hdelivers.1.1, rfl⟩
      · cases hstep
  | logRejects i idTag =>
      obtain ⟨stream, -, hstep⟩ := Option.bind_eq_some_iff.mp hstep
      split at hstep
      · next chargeBoxId hpairable =>
        split at hstep
        · obtain rfl := Option.some.inj hstep
          refine ⟨.of_table (.of_message (List.Subset.refl _) (List.subset_append_left _ _) rfl ?_)
            rfl rfl rfl rfl, .rests rfl rfl rfl⟩
          exact Or.inr ⟨⟨chargeBoxId, idTag⟩, List.mem_append_right _ List.mem_cons_self,
            hpairable.symm, rfl⟩
        · cases hstep
      · cases hstep
  | loginPosts request storeFails =>
      simp only [ScanWorld.step] at hstep
      split at hstep
      · obtain rfl := Option.some.inj hstep
        exact ⟨.of_arm rfl rfl rfl rfl rfl rfl rfl, .arrives request rfl rfl rfl⟩
      · obtain rfl := Option.some.inj hstep
        exact ⟨.of_arm rfl rfl rfl rfl rfl rfl rfl, .rests rfl rfl rfl⟩
  | loginVerifies i storeFails =>
      obtain ⟨login, hlogin, hstep⟩ := Option.bind_eq_some_iff.mp hstep
      split at hstep
      · next hpoint =>
        simp only at hstep
        split at hstep
        · next hchecks =>
          obtain rfl := Option.some.inj hstep
          simp only [Bool.and_eq_true] at hchecks
          exact ⟨.of_arm rfl rfl rfl rfl rfl rfl rfl,
            .goesOn i login .verified hlogin ⟨hpoint, hchecks.1.2, hchecks.2⟩
              (fun _ h => by cases h) rfl rfl rfl⟩
        · obtain rfl := Option.some.inj hstep
          exact ⟨.of_arm rfl rfl rfl rfl rfl rfl rfl, .ends i rfl rfl rfl⟩
      · cases hstep
  | loginConsumes i =>
      obtain ⟨login, hlogin, hstep⟩ := Option.bind_eq_some_iff.mp hstep
      split at hstep
      · next hpoint =>
        obtain ⟨pairings, hpairings, rfl⟩ := Option.map_eq_some_iff.mp hstep
        unfold ScanWorld.loginConsumes
        split
        · next row hrow =>
          refine ⟨.of_pairings (.of_messages (List.Subset.refl _) rfl rfl) hpairings (by simp)
            rfl rfl rfl rfl, ?_⟩
          obtain rfl := Option.some.inj hpairings
          refine .goesOn i login (.consumed row) hlogin ⟨hpoint, hrow⟩ ?_ rfl rfl rfl
          rintro _ ⟨⟩
          exact isConsumed_of_update (f := Verification.consume) (fun _ => ⟨rfl, rfl⟩) hrow rfl
        · exact ⟨.of_pairings (.of_messages (List.Subset.refl _) rfl rfl) hpairings (by simp)
            rfl rfl rfl rfl, .ends i rfl rfl rfl⟩
      · cases hstep
  | loginMaps i found =>
      obtain ⟨login, hlogin, hstep⟩ := Option.bind_eq_some_iff.mp hstep
      split at hstep
      · next row hpoint =>
        obtain ⟨mapping, hmapping, rfl⟩ := Option.map_eq_some_iff.mp hstep
        split
        · next userId huser =>
          split
          · obtain ⟨mapping, rfl, huser⟩ := Option.bind_eq_some_iff.mp huser
            exact ⟨.of_arm rfl rfl rfl rfl rfl rfl rfl,
              .goesOn i login (.mapped row userId) hlogin
                ⟨hpoint, mapping, (mem_of_findMapping hmapping).1, (mem_of_findMapping hmapping).2,
                  huser⟩ (fun _ h => by cases h) rfl rfl rfl⟩
          · exact ⟨.of_arm rfl rfl rfl rfl rfl rfl rfl, .ends i rfl rfl rfl⟩
        · exact ⟨.of_arm rfl rfl rfl rfl rfl rfl rfl, .ends i rfl rfl rfl⟩
      · cases hstep
  | loginFindsUser i =>
      obtain ⟨login, hlogin, hstep⟩ := Option.bind_eq_some_iff.mp hstep
      split at hstep
      · next row userId hpoint =>
        split at hstep
        · next user huser =>
          split at hstep
          · next hrole =>
            obtain rfl := Option.some.inj hstep
            have hid : user.id = userId := by simpa using List.find?_some huser
            exact ⟨.of_arm rfl rfl rfl rfl rfl rfl rfl,
              .goesOn i login (.authorized row user) hlogin
                ⟨hid ▸ hpoint, List.mem_of_find?_eq_some huser, hrole⟩ (fun _ h => by cases h)
                rfl rfl rfl⟩
          · obtain rfl := Option.some.inj hstep
            exact ⟨.of_arm rfl rfl rfl rfl rfl rfl rfl, .ends i rfl rfl rfl⟩
        · obtain rfl := Option.some.inj hstep
          exact ⟨.of_arm rfl rfl rfl rfl rfl rfl rfl, .ends i rfl rfl rfl⟩
      · cases hstep
  | loginMints i =>
      obtain ⟨login, hlogin, hstep⟩ := Option.bind_eq_some_iff.mp hstep
      split at hstep
      · next row user hpoint =>
        obtain rfl := Option.some.inj hstep
        exact ⟨.of_arm rfl rfl rfl rfl rfl rfl rfl,
          .mints i login.request row user (hpoint ▸ hlogin) rfl rfl rfl⟩
      · cases hstep
  | loginFails i =>
      obtain rfl := Option.some.inj hstep
      exact ⟨.of_arm rfl rfl rfl rfl rfl rfl rfl, .ends i rfl rfl rfl⟩
  | cleansUp k =>
      obtain ⟨session, -, hstep⟩ := Option.bind_eq_some_iff.mp hstep
      obtain ⟨pairings, hpairings, rfl⟩ := Option.map_eq_some_iff.mp hstep
      exact ⟨.of_pairings (.of_messages (List.Subset.refl _) rfl rfl) hpairings (by simp)
        rfl rfl rfl rfl, .rests rfl rfl rfl⟩

end Steps

end ExpresSync
