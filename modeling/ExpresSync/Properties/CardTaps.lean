import ExpresSync.Model.ScanPairing

/-!
# Taps of a card

A pairing of a charger captures a tap when it is armed, or matched to the card already.  The arm
routes look only for armed pairings, and their insert is a statement of its own, so a charger can
come to have two pairings that capture the same card; and a repeated tap goes to the newest row,
whichever that is.  `cardTaps_iff` says in which runs neither happens.
-/

namespace ExpresSync

open Transition

/-- Some card can be matched to both rows. -/
def Verification.SharesCard (a b : Verification) : Prop :=
  ∃ idTag, a.canMatch idTag = true ∧ b.canMatch idTag = true

/-- Some card can be matched to the row. -/
def Verification.IsOpen (row : Verification) : Prop := ∃ idTag, row.canMatch idTag = true

/-- Two rows share a card exactly when they share one that either is matched to, or the empty
one. -/
lemma Verification.sharesCard_iff (a b : Verification) :
    (∃ idTag ∈ "" :: (a.value.matchedIdTag.toList ++ b.value.matchedIdTag.toList),
      a.canMatch idTag = true ∧ b.canMatch idTag = true) ↔ a.SharesCard b := by
  constructor
  · rintro ⟨idTag, -, hshared⟩
    exact ⟨idTag, hshared⟩
  · rintro ⟨idTag, ha, hb⟩
    by_cases harmed : a.value.status = some .armed ∧ b.value.status = some .armed
    · refine ⟨"", List.mem_cons_self, ?_, ?_⟩
      · simp [canMatch, harmed.1]
      · simp [canMatch, harmed.2]
    · refine ⟨idTag, List.mem_cons_of_mem _ ?_, ha, hb⟩
      simp only [canMatch, Bool.or_eq_true, Bool.and_eq_true, beq_iff_eq] at ha hb
      simp only [List.mem_append, Option.mem_toList]
      rcases ha with ha | ha
      · rcases hb with hb | hb
        · exact absurd ⟨ha, hb⟩ harmed
        · exact Or.inr hb.2
      · exact Or.inl ha.2

instance (a b : Verification) : Decidable (a.SharesCard b) :=
  decidable_of_iff _ (Verification.sharesCard_iff a b)

/-- The rows are unexpired pairings of one charger, and could both capture a tap. -/
def Verification.Contends (now : ℕ) (a b : Verification) : Prop :=
  a.isLive now = true ∧ b.isLive now = true ∧
    (∃ chargeBoxId ∈ a.value.chargeBoxId, b.value.chargeBoxId = some chargeBoxId) ∧ a.SharesCard b

instance (now : ℕ) (a b : Verification) : Decidable (a.Contends now b) :=
  inferInstanceAs (Decidable (_ ∧ _ ∧ (∃ chargeBoxId ∈ a.value.chargeBoxId, _) ∧ _))

/-- No two unexpired pairings of a charger could capture the same tap. -/
def NoContention (w : PairingWorld) : Prop := w.table.Pairs fun a b => ¬a.Contends w.now b

instance (w : PairingWorld) : Decidable (NoContention w) :=
  inferInstanceAs (Decidable (w.table.Pairs fun a b => ¬a.Contends w.now b))

/-- The row is an unexpired pairing of the charger, matched to the card. -/
def Verification.IsMatchedTo (chargeBoxId idTag : String) (now : ℕ) (row : Verification) : Prop :=
  row.value.chargeBoxId = some chargeBoxId ∧ row.isLive now = true ∧
    row.value.status = some .matched ∧ row.value.matchedIdTag = some idTag

instance (chargeBoxId idTag : String) (now : ℕ) (row : Verification) :
    Decidable (row.IsMatchedTo chargeBoxId idTag now) :=
  inferInstanceAs (Decidable (_ ∧ _ ∧ _ ∧ _))

/-- If a pairing of the charger is matched to the card, a tap can be written to no other row. -/
def RepeatsChangeNothing (w : PairingWorld) : PairingAction → Prop
  | .preAuthorizes chargeBoxId idTag locked _ =>
      ∀ bound ∈ w.table.rows, bound.IsMatchedTo chargeBoxId idTag w.now →
        ∀ row ∈ w.table.rows, MayMatch chargeBoxId idTag w.now locked w.table.rows row →
          row.id = bound.id
  | _ => True

instance (w : PairingWorld) (a : PairingAction) : Decidable (RepeatsChangeNothing w a) := by
  unfold RepeatsChangeNothing
  rcases a <;> infer_instance

/-! ## The condition -/

/-- An arm route inserts its row when no unexpired pairing of the charger is armed or matched. -/
def ArmsFree (w : PairingWorld) : PairingAction → Prop
  | .armInserts i _ =>
      ∀ arming ∈ w.armings[i]?, ∀ row ∈ w.table.rows,
        row.value.chargeBoxId = some arming.chargeBoxId → row.isLive w.now = true → ¬row.IsOpen
  | _ => True

/-- When a pairing of the charger is matched to the card, the rows of others that a tap could be
written to are older, and the pairing is not locked nor missed. -/
def TapsOwn (w : PairingWorld) : PairingAction → Prop
  | .preAuthorizes chargeBoxId idTag locked _ =>
      ∀ bound ∈ w.table.rows, bound.IsMatchedTo chargeBoxId idTag w.now →
        ∀ row ∈ w.table.rows, row.isCandidate chargeBoxId idTag w.now locked = true →
          row.value.chargeBoxId ≠ some chargeBoxId →
            bound.isCandidate chargeBoxId idTag w.now locked = true ∧
              row.createdAt < bound.createdAt
  | _ => True

/-! ## What contends -/

section Contending

variable {now : ℕ} {a b : Verification}

lemma Verification.Contends.symm (h : a.Contends now b) : b.Contends now a := by
  obtain ⟨ha, hb, ⟨chargeBoxId, hcharger, hcharger'⟩, idTag, hmatch, hmatch'⟩ := h
  exact ⟨hb, ha, ⟨chargeBoxId, hcharger', hcharger⟩, idTag, hmatch', hmatch⟩

lemma not_contends_symm (a b : Verification) (h : ¬a.Contends now b) : ¬b.Contends now a :=
  fun hcontends => h hcontends.symm

/-- A row that is written so that it matches no more cards contends with no more rows. -/
lemma not_contends_of_canMatch {a' : Verification}
    (hcharger : a'.value.chargeBoxId = a.value.chargeBoxId) (hexpires : a'.expiresAt = a.expiresAt)
    (hmatch : ∀ idTag, a'.canMatch idTag = true → a.canMatch idTag = true)
    (h : ¬a.Contends now b) : ¬a'.Contends now b := by
  rintro ⟨hlive, hlive', hchargers, idTag, hcard, hcard'⟩
  rw [Verification.isLive, hexpires] at hlive
  rw [hcharger] at hchargers
  exact h ⟨hlive, hlive', hchargers, idTag, hmatch idTag hcard, hcard'⟩

/-- As time goes on rows expire, and none comes to contend. -/
lemma not_contends_of_le {later : ℕ} (hle : now ≤ later) (h : ¬a.Contends now b) :
    ¬a.Contends later b := by
  rintro ⟨ha, hb, hrest⟩
  simp only [Verification.isLive, decide_eq_true_eq] at ha hb
  refine h ⟨?_, ?_, hrest⟩
  · simpa [Verification.isLive] using lt_of_le_of_lt hle ha
  · simpa [Verification.isLive] using lt_of_le_of_lt hle hb

/-- Once matched to a card it could be matched to, a row matches no other. -/
lemma canMatch_of_matchTo {idTag other : String} (hcard : a.canMatch idTag = true)
    (h : (a.matchTo idTag).canMatch other = true) : a.canMatch other = true := by
  obtain rfl : idTag = other := by simpa [Verification.matchTo, Verification.canMatch] using h
  exact hcard

@[simp]
lemma canMatch_consume (idTag : String) : a.consume.canMatch idTag = false := by
  simp [Verification.consume, Verification.canMatch]

@[simp]
lemma canMatch_claim (card idTag : String) : (a.claim card).canMatch idTag = false := by
  simp [Verification.claim, Verification.canMatch]

/-- The row of an arming contends with the open rows of its charger. -/
lemma arming_contends_iff {arming : Arming} {pairingCode : String} {id : ℕ} :
    (arming.row pairingCode now id).Contends now b ↔
      b.value.chargeBoxId = some arming.chargeBoxId ∧ b.isLive now = true ∧ b.IsOpen := by
  have hlive : (arming.row pairingCode now id).isLive now = true := by
    simp [Verification.isLive, Arming.row, pairingTtlMs]
  have harmed : ∀ idTag, (arming.row pairingCode now id).canMatch idTag = true := by
    simp [Verification.canMatch, Arming.row]
  unfold Verification.Contends Verification.SharesCard Verification.IsOpen
  simp only [hlive, harmed, true_and]
  constructor
  · rintro ⟨hb, ⟨chargeBoxId, hcharger, hcharger'⟩, hopen⟩
    obtain rfl : arming.chargeBoxId = chargeBoxId := Option.some.inj hcharger
    exact ⟨hcharger', hb, hopen⟩
  · rintro ⟨hcharger, hb, hopen⟩
    exact ⟨hb, ⟨arming.chargeBoxId, rfl, hcharger⟩, hopen⟩

lemma not_contends_device {deviceId pairingCode purpose : String} {id : ℕ} :
    ¬(devicePairingRow deviceId pairingCode purpose now id).Contends now b := by
  rintro ⟨-, -, ⟨chargeBoxId, hcharger, -⟩, -⟩
  cases hcharger

end Contending

/-! ## Steps -/

section Steps

variable {w w' : PairingWorld} {a : PairingAction}

/-- The row a call writes is one of the candidates. -/
lemma isCandidate_of_preAuthorizeTarget {chargeBoxId idTag : String} {locked : List ℕ}
    {target : Option ℕ} {row : Verification}
    (h : w.preAuthorizeTarget chargeBoxId idTag locked target = some (some row)) :
    row ∈ w.table.rows ∧ row.isCandidate chargeBoxId idTag w.now locked = true := by
  cases target with
  | none =>
      simp only [PairingWorld.preAuthorizeTarget] at h
      split at h
      · cases h
      · cases Option.some.inj h
  | some id =>
      obtain ⟨found, hfound, h⟩ := Option.bind_eq_some_iff.mp h
      split at h
      · next hmay =>
          obtain rfl := Option.some.inj (Option.some.inj h)
          exact ⟨hmay.mem, hmay.sat⟩
      · cases h

lemma Verification.canMatch_of_isCandidate {row : Verification} {chargeBoxId idTag : String}
    {now : ℕ} {locked : List ℕ} (h : row.isCandidate chargeBoxId idTag now locked = true) :
    row.canMatch idTag = true := by
  simp only [Verification.isCandidate, Bool.and_eq_true] at h
  exact h.1.2

lemma Verification.isLive_of_isCandidate {row : Verification} {chargeBoxId idTag : String}
    {now : ℕ} {locked : List ℕ} (h : row.isCandidate chargeBoxId idTag now locked = true) :
    row.isLive now = true := by
  simp only [Verification.isCandidate, Bool.and_eq_true] at h
  exact h.1.1.2

/-- The row of an arming brings contention exactly when a row of its charger is open. -/
lemma pairs_armingRow_iff (hno : NoContention w) {arming : Arming} {pairingCode : String} :
    ((w.table.insert (arming.row pairingCode w.now) fun _ => rfl).Pairs
        fun a b => ¬a.Contends w.now b) ↔
      ∀ row ∈ w.table.rows, row.value.chargeBoxId = some arming.chargeBoxId →
        row.isLive w.now = true → ¬row.IsOpen := by
  refine (SerialTable.pairs_insert not_contends_symm hno).trans ?_
  refine forall₂_congr fun row _ => ?_
  rw [arming_contends_iff]
  simp only [not_and]

lemma pairs_devicePairingRow (hno : NoContention w) {deviceId pairingCode purpose : String} :
    (w.table.insert (devicePairingRow deviceId pairingCode purpose w.now) fun _ => rfl).Pairs
      fun a b => ¬a.Contends w.now b :=
  (SerialTable.pairs_insert not_contends_symm hno).mpr fun _ _ => not_contends_device

/-- Matching a candidate brings no contention. -/
lemma pairs_matchTo (hno : NoContention w) {chargeBoxId idTag : String} {locked : List ℕ}
    {row : Verification} (hrow : row ∈ w.table.rows)
    (hcandidate : row.isCandidate chargeBoxId idTag w.now locked = true) :
    (w.table.update (fun other => other.id == row.id) (Verification.matchTo idTag)
      fun _ => rfl).Pairs fun a b => ¬a.Contends w.now b := by
  refine (SerialTable.pairs_update_one not_contends_symm hno (k := row.id) (by simp)).mpr ?_
  intro old hold hid other hother hne
  obtain rfl : old = row := SerialTable.eq_of_key hold hrow hid
  exact not_contends_of_canMatch (a := old) rfl rfl
    (fun card => canMatch_of_matchTo (Verification.canMatch_of_isCandidate hcandidate))
    (hno old hold other hother (hid ▸ hne.symm))

lemma pairs_consume (hno : NoContention w) {sel : Verification → Bool} :
    (w.table.update sel Verification.consume fun _ => rfl).Pairs fun a b => ¬a.Contends w.now b :=
  SerialTable.pairs_update_of_imp not_contends_symm hno fun _ _ _ =>
    not_contends_of_canMatch rfl rfl (by simp)

lemma pairs_claim (hno : NoContention w) {sel : Verification → Bool} {card : String} :
    (w.table.update sel (Verification.claim card) fun _ => rfl).Pairs
      fun a b => ¬a.Contends w.now b :=
  SerialTable.pairs_update_of_imp not_contends_symm hno fun _ _ _ =>
    not_contends_of_canMatch rfl rfl (by simp)

/-- A tap brings no contention. -/
lemma noContention_preAuthorize (hno : NoContention w) {chargeBoxId idTag : String}
    {locked : List ℕ} {target : Option ℕ} {row : Option Verification}
    (h : w.preAuthorizeTarget chargeBoxId idTag locked target = some row) :
    NoContention { w with table := (preAuthorize chargeBoxId idTag row w.table).1 } := by
  cases row with
  | none => exact hno
  | some row =>
      obtain ⟨hrow, hcandidate⟩ := isCandidate_of_preAuthorizeTarget h
      exact pairs_matchTo hno hrow hcandidate

/-- Contention comes with an insert next to an open row, and with nothing else. -/
lemma armsFree_iff (hno : NoContention w) (hstep : w.step a = some w') :
    ArmsFree w a ↔ NoContention w' := by
  cases a with
  | waits ms =>
      obtain rfl := Option.some.inj hstep
      exact iff_of_true trivial fun a ha b hb hne =>
        not_contends_of_le (Nat.le_add_right w.now ms) (hno a ha b hb hne)
  | armStarts arming found =>
      obtain ⟨existing, -, rfl⟩ := Option.map_eq_some_iff.mp hstep
      cases existing with
      | none => exact iff_of_true trivial hno
      | some code => exact iff_of_true trivial hno
  | armInserts i pairingCode =>
      obtain ⟨arming, harming, rfl⟩ := Option.map_eq_some_iff.mp hstep
      simp only [ArmsFree, harming, Option.mem_some_iff, forall_eq']
      exact (pairs_armingRow_iff hno).symm
  | armFails i =>
      obtain rfl := Option.some.inj hstep
      exact iff_of_true trivial hno
  | armsDevice deviceId pairingCode purpose =>
      obtain rfl := Option.some.inj hstep
      exact iff_of_true trivial (pairs_devicePairingRow hno)
  | preAuthorizes chargeBoxId idTag locked target =>
      simp only [PairingWorld.step] at hstep
      split at hstep
      · cases hstep
      · obtain ⟨row, hrow, rfl⟩ := Option.map_eq_some_iff.mp hstep
        exact iff_of_true trivial (noContention_preAuthorize hno hrow)
  | logsIn identifier idTag =>
      obtain rfl := Option.some.inj hstep
      exact iff_of_true trivial (pairs_consume hno)
  | scanResult identifier idTag =>
      obtain rfl := Option.some.inj hstep
      exact iff_of_true trivial (pairs_claim hno)
  | releases identifier =>
      obtain rfl := Option.some.inj hstep
      exact iff_of_true trivial (SerialTable.pairs_delete hno)
  | cleansUp id =>
      obtain rfl := Option.some.inj hstep
      exact iff_of_true trivial (SerialTable.pairs_delete hno)

/-- As long as no rows contend, a repeated tap goes elsewhere exactly when a row of another charger
is the newest. -/
lemma tapsOwn_iff (hno : NoContention w) : TapsOwn w a ↔ RepeatsChangeNothing w a := by
  cases a with
  | preAuthorizes chargeBoxId idTag locked target =>
      refine forall₃_congr fun bound hbound hmatched => ?_
      have hcard : bound.canMatch idTag = true := by
        simp [Verification.canMatch, hmatched.2.2.1, hmatched.2.2.2]
      constructor
      · intro hown row hrow hlast
        by_contra hne
        have hcandidate : row.isCandidate chargeBoxId idTag w.now locked = true := hlast.sat
        by_cases hcharger : row.value.chargeBoxId = some chargeBoxId
        · refine hno bound hbound row hrow (Ne.symm hne) ⟨hmatched.2.1, ?_, ?_, idTag, hcard, ?_⟩
          · exact Verification.isLive_of_isCandidate hcandidate
          · exact ⟨chargeBoxId, hmatched.1, hcharger⟩
          · exact Verification.canMatch_of_isCandidate hcandidate
        · obtain ⟨hbc, hlt⟩ := hown row hrow hcandidate hcharger
          exact absurd (hlast.le bound hbound hbc) (Nat.not_le.mpr hlt)
      · intro hrepeat row hrow hcandidate hcharger
        obtain ⟨last, hlast, hle⟩ : ∃ last,
            MayMatch chargeBoxId idTag w.now locked w.table.rows last ∧
              row.createdAt ≤ last.createdAt := Sql.exists_isLast _ hrow hcandidate
        obtain rfl : last = bound :=
          SerialTable.eq_of_key hlast.mem hbound (hrepeat last hlast.mem hlast)
        refine ⟨hlast.sat, lt_of_le_of_ne hle fun heq => hcharger ?_⟩
        -- A row of the same age could be written as well.
        have hmay : MayMatch chargeBoxId idTag w.now locked w.table.rows row :=
          ⟨hrow, hcandidate, fun other hother hoc => heq ▸ hlast.le other hother hoc⟩
        obtain rfl : row = last := SerialTable.eq_of_key hrow hbound (hrepeat row hrow hmay)
        exact hmatched.1
  | waits | armStarts | armInserts | armFails | armsDevice | logsIn | scanResult | releases
  | cleansUp => exact Iff.rfl

end Steps

/-- In every run: no two pairings of a charger could capture the same tap, and a repeated tap is
written to no other row, exactly when all that is armed is armed next to no open row, and all that
is tapped again finds its own row the newest. -/
theorem cardTaps_iff (w : PairingWorld) (as : List PairingAction) :
    Always PairingWorld.step NoContention w as ∧ Meets PairingWorld.step RepeatsChangeNothing w as ↔
      NoContention w ∧ Meets PairingWorld.step (fun w a => ArmsFree w a ∧ TapsOwn w a) w as := by
  unfold Always Meets
  rw [and_assoc, ← eachStep_and]
  refine and_congr_right fun hno => ?_
  refine (meets_iff_eachStep (I := NoContention) (A := fun _ _ => True) ?_ ?_ hno
    (meets_of_forall fun _ _ => trivial)).symm
  · exact fun w a w' hno _ htaps hstep => (armsFree_iff hno hstep).mp htaps.1
  · exact fun w a w' hno _ hstep => and_congr (armsFree_iff hno hstep) (tapsOwn_iff hno)

namespace Scenario

/-- A card is tapped for the pairing a charger has armed; another pairing is armed for the charger,
and the card is tapped again. -/
def secondArming : List PairingAction :=
  [.armStarts ⟨"CB-1", none, none⟩ (.ok none), .armInserts 0 "first",
    .preAuthorizes "CB-1" "TAG" [] (some 0), .waits 1000,
    .armStarts ⟨"CB-1", some "admin-link", some "admin"⟩ (.ok none), .armInserts 0 "second",
    .preAuthorizes "CB-1" "TAG" [] (some 1)]

end Scenario

/-- The card that was tapped for the first pairing is bound to the second as well. -/
theorem not_cardTaps_secondArming :
    ¬Always PairingWorld.step NoContention .initial Scenario.secondArming ∧
      ¬Meets PairingWorld.step RepeatsChangeNothing .initial Scenario.secondArming := by
  decide +kernel

end ExpresSync
