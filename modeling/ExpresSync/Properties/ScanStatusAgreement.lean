import ExpresSync.Model.ArmRequests

/-!
# Whether a device is armed

The envelope of a device and the arm routes ask for its pairings in two ways: the envelope takes
any unexpired pairing for an armed one.  They say the same, whichever row each query returns, when
the pairing that expires last is armed, or there is none (`agreeOnArmed_iff`).
-/

namespace ExpresSync

variable {deviceId : String} {capabilities : List String} {now : ℕ} {rows : List Verification}
  {row : Verification}

/-- What the device is told, and what the arm routes find. -/
structure AgreeOnArmed (status : Option ScanStatus) (pairing : Option ArmedPairing) : Prop where
  armed : (∃ s ∈ status, s.armed = true) ↔ ∃ p, p ∈ pairing
  same : ∀ s ∈ status, ∀ p ∈ pairing, s.pairingCode = some p.pairingCode ∧
    s.expiresAt = some p.expiresAt

/-- Of the unexpired pairings, if there are any, one that expires last is armed, and no other code
expires last; and there is no armed one if the device cannot scan. -/
def LatestIsArmed (deviceId : String) (capabilities : List String) (now : ℕ)
    (rows : List Verification) : Prop :=
  if "scanner" ∈ capabilities then
    (∀ row ∈ rows, row.isLivePairingOf deviceId now = false) ∨
      ∃ row, MayAnswerStatus deviceId now rows (some row) ∧ row.isArmedOn deviceId now = true ∧
        ∀ other, MayAnswerStatus deviceId now rows (some other) →
          other.identifier = row.identifier
  else ∀ row ∈ rows, row.isArmedOn deviceId now = false

lemma Verification.isArmedOn_iff :
    row.isArmedOn deviceId now = true ↔
      row.isLivePairingOf deviceId now = true ∧ row.value.status = some .armed := by
  rw [isArmedOn, isLivePairingOf, Bool.and_eq_true, beq_iff_eq]

/-- The identifier of a pairing of the device is its prefix and the code. -/
lemma reportedDeviceCode_eq_some (device : DeviceUuid)
    (hlive : row.isLivePairingOf device.text now = true) :
    ∃ code, row.reportedDeviceCode device.text = some code ∧
      row.identifier.toList = (devicePairingIdentifier device.text "").toList ++ code.toList := by
  have hpattern : (devicePattern device.text).toList =
      (devicePairingIdentifier device.text "").toList ++ ['%'] := by
    simp [devicePattern, devicePairingIdentifier]
  have hplain : ∀ c ∈ (devicePairingIdentifier device.text "").toList, ¬Sql.IsMeta c := by
    have hscan : "device-scan:".toList.all (fun c => decide ¬Sql.IsMeta c) = true := by decide
    have hcolon : ":".toList.all (fun c => decide ¬Sql.IsMeta c) = true := by decide
    intro c hc
    simp only [devicePairingIdentifier, String.toList_append, List.mem_append] at hc
    rcases hc with ((hmem | hmem) | hmem) | hmem
    · exact of_decide_eq_true (List.all_eq_true.mp hscan c hmem)
    · rintro (rfl | rfl | rfl) <;> exact absurd (device.isUuid _ hmem) (by decide)
    · exact of_decide_eq_true (List.all_eq_true.mp hcolon c hmem)
    · cases hmem
  obtain ⟨hlike, -⟩ := (Bool.and_eq_true _ _).mp hlive
  rw [Verification.likeDevice, hpattern, Sql.like_literal_anyText hplain] at hlike
  refine ⟨_, if_pos hlike, ?_⟩
  rw [String.toList_ofList]
  exact (List.prefix_iff_eq_append.mp hlike).symm

/-- Two pairings of a device have the same code when they have the same identifier. -/
lemma reportedDeviceCode_eq_iff (device : DeviceUuid) {other : Verification}
    (hrow : row.isLivePairingOf device.text now = true)
    (hother : other.isLivePairingOf device.text now = true) :
    row.reportedDeviceCode device.text = other.reportedDeviceCode device.text ↔
      row.identifier = other.identifier := by
  obtain ⟨code, hcode, hid⟩ := reportedDeviceCode_eq_some device hrow
  obtain ⟨code', hcode', hid'⟩ := reportedDeviceCode_eq_some device hother
  constructor
  · intro h
    obtain rfl : code = code' := Option.some.inj (hcode.symm.trans (h.trans hcode'))
    exact String.toList_injective (hid.trans hid'.symm)
  · intro h
    rw [Verification.reportedDeviceCode, h, Verification.reportedDeviceCode]

lemma findArmedDevicePairing_some (device : DeviceUuid)
    (hlive : row.isLivePairingOf device.text now = true) :
    ∃ p, findArmedDevicePairing device.text (.ok (some row)) = some p ∧
      row.reportedDeviceCode device.text = some p.pairingCode ∧ p.expiresAt = row.expiresAt := by
  obtain ⟨code, hcode, -⟩ := reportedDeviceCode_eq_some device hlive
  exact ⟨⟨code, row.expiresAt⟩, by rw [findArmedDevicePairing, hcode]; rfl, hcode, rfl⟩

lemma isLivePairingOf_of_isArmedOn (h : row.isArmedOn deviceId now = true) :
    row.isLivePairingOf deviceId now = true := (Verification.isArmedOn_iff.mp h).1

/-- Where both queries find pairings, the envelope and the arm routes say the same when these have
the same code and expire together. -/
lemma agreeOnArmed_some_iff (device : DeviceUuid) {last found : Verification}
    (hlast : last.isLivePairingOf device.text now = true)
    (hfound : found.isLivePairingOf device.text now = true) :
    AgreeOnArmed (loadScanStatus device.text ["scanner"] (some last))
        (findArmedDevicePairing device.text (.ok (some found))) ↔
      last.identifier = found.identifier ∧ last.expiresAt = found.expiresAt := by
  obtain ⟨p, hp, hcode, hexpires⟩ := findArmedDevicePairing_some device hfound
  rw [← reportedDeviceCode_eq_iff device hlast hfound]
  constructor
  · intro h
    obtain ⟨hcode', hexpires'⟩ := h.same _ rfl p hp
    exact ⟨hcode'.trans hcode.symm, (Option.some.inj hexpires').trans hexpires⟩
  · rintro ⟨hcodes, hsame⟩
    refine ⟨iff_of_true ⟨_, rfl, rfl⟩ ⟨p, hp⟩, fun s hs p' hp' => ?_⟩
    obtain rfl := Option.some.inj hs
    obtain rfl := Option.some.inj (hp.symm.trans hp')
    exact ⟨hcodes.trans hcode, congrArg some (hsame.trans hexpires.symm)⟩

/-- Where the routes agree, the pairing that expires last is armed. -/
lemma latestIsArmed_of_agree (device : DeviceUuid)
    (h : ∀ status armed, MayAnswerStatus device.text now rows status →
      MayAnswerArmed device.text now rows armed →
        AgreeOnArmed (loadScanStatus device.text ["scanner"] status)
          (findArmedDevicePairing device.text (.ok armed))) :
    LatestIsArmed device.text ["scanner"] now rows := by
  rw [LatestIsArmed, if_pos (List.mem_singleton_self _)]
  obtain ⟨status, hstatus⟩ := Sql.exists_isAnswer Verification.expiresAt
    (fun row => row.isLivePairingOf device.text now = true) rows
  obtain ⟨armed, harmed⟩ := Sql.exists_isAnswer Verification.expiresAt
    (fun row => row.isArmedOn device.text now = true) rows
  cases status with
  | none => exact Or.inl fun row hrow => Bool.eq_false_iff.mpr (hstatus row hrow)
  | some last =>
      obtain ⟨p, hp⟩ := (h (some last) armed hstatus harmed).armed.mp ⟨_, rfl, rfl⟩
      cases armed with
      | none => cases hp
      | some row =>
          have hlive := isLivePairingOf_of_isArmedOn harmed.sat
          have hsame : ∀ other, MayAnswerStatus device.text now rows (some other) →
              other.identifier = row.identifier ∧ other.expiresAt = row.expiresAt :=
            fun other hother =>
              (agreeOnArmed_some_iff device hother.sat hlive).mp (h _ _ hother harmed)
          have hrow : MayAnswerStatus device.text now rows (some row) :=
            ⟨harmed.mem, hlive, fun other hother hlive' =>
              (hstatus.le other hother hlive').trans (hsame last hstatus).2.le⟩
          exact Or.inr ⟨row, hrow, harmed.sat, fun other hother => (hsame other hother).1⟩

/-- Where the pairing that expires last is armed, the routes agree. -/
lemma agree_of_latestIsArmed (device : DeviceUuid)
    (h : LatestIsArmed device.text ["scanner"] now rows) {status armed : Option Verification}
    (hstatus : MayAnswerStatus device.text now rows status)
    (harmed : MayAnswerArmed device.text now rows armed) :
    AgreeOnArmed (loadScanStatus device.text ["scanner"] status)
      (findArmedDevicePairing device.text (.ok armed)) := by
  rw [LatestIsArmed, if_pos (List.mem_singleton_self _)] at h
  rcases h with hnone | ⟨row, hrow, harmedRow, hsame⟩
  · cases status with
    | some last => exact absurd hstatus.sat (Bool.eq_false_iff.mp (hnone last hstatus.mem))
    | none =>
        cases armed with
        | some row =>
            exact absurd (isLivePairingOf_of_isArmedOn harmed.sat)
              (Bool.eq_false_iff.mp (hnone row harmed.mem))
        | none =>
            refine ⟨iff_of_false ?_ ?_, fun s _ p hp => nomatch hp⟩
            · rintro ⟨s, hs, harmed⟩
              obtain rfl := Option.some.inj hs
              cases harmed
            · rintro ⟨p, hp⟩
              cases hp
  · cases status with
    | none => exact absurd hrow.sat (hstatus row hrow.mem)
    | some last =>
        cases armed with
        | none => exact absurd harmedRow (harmed row hrow.mem)
        | some found =>
            have hfound : MayAnswerStatus device.text now rows (some found) :=
              Sql.IsLast.of_narrower (fun _ => isLivePairingOf_of_isArmedOn) hrow harmedRow harmed
            exact (agreeOnArmed_some_iff device hstatus.sat hfound.sat).mpr
              ⟨(hsame last hstatus).trans (hsame found hfound).symm,
                Sql.IsLast.key_eq hstatus hfound⟩

/-- For every device and all pairings: the envelope and the arm routes agree, whichever of their
possible answers the two queries give, just when the latest unexpired pairing is an armed one. -/
theorem agreeOnArmed_iff (device : DeviceUuid) (capabilities : List String) (now : ℕ)
    (rows : List Verification) :
    (∀ status armed, MayAnswerStatus device.text now rows status →
        MayAnswerArmed device.text now rows armed →
        AgreeOnArmed (loadScanStatus device.text capabilities status)
          (findArmedDevicePairing device.text (.ok armed))) ↔
      LatestIsArmed device.text capabilities now rows := by
  by_cases hscanner : "scanner" ∈ capabilities
  · have hload : ∀ status, loadScanStatus device.text capabilities status =
        loadScanStatus device.text ["scanner"] status := by
      intro status
      unfold loadScanStatus
      rw [List.contains_iff_mem.mpr hscanner]
      rfl
    have hcondition : LatestIsArmed device.text capabilities now rows ↔
        LatestIsArmed device.text ["scanner"] now rows := by
      rw [LatestIsArmed, LatestIsArmed, if_pos hscanner, if_pos (List.mem_singleton_self _)]
    simp only [hload]
    rw [hcondition]
    exact ⟨latestIsArmed_of_agree device, fun h _ _ => agree_of_latestIsArmed device h⟩
  · have hnone : ∀ status, loadScanStatus device.text capabilities status = none := by
      intro status
      refine if_pos ?_
      rw [Bool.not_eq_true', Bool.eq_false_iff]
      exact fun h => hscanner (List.contains_iff_mem.mp h)
    simp only [hnone]
    rw [LatestIsArmed, if_neg hscanner]
    constructor
    · intro h row hrow
      rw [Bool.eq_false_iff]
      intro harmed
      obtain ⟨last, hlast, -⟩ := Sql.exists_isLast Verification.expiresAt
        (p := fun row => row.isArmedOn device.text now = true) hrow harmed
      obtain ⟨p, hp, -⟩ := findArmedDevicePairing_some device
        (Verification.isArmedOn_iff.mp hlast.sat).1
      obtain ⟨status, hstatus⟩ := Sql.exists_isAnswer Verification.expiresAt
        (fun row => row.isLivePairingOf device.text now = true) rows
      obtain ⟨s, hs, -⟩ := (h status (some last) hstatus hlast).armed.mpr ⟨p, hp⟩
      cases hs
    · intro hunarmed status armed _ harmed
      cases armed with
      | none =>
          refine ⟨iff_of_false ?_ ?_, fun s hs => nomatch hs⟩
          · rintro ⟨s, hs, -⟩
            cases hs
          · rintro ⟨p, hp⟩
            cases hp
      | some row =>
          exact absurd harmed.sat (Bool.eq_false_iff.mp (hunarmed row harmed.mem))

/-! ## A pairing that has been used -/

def scanningPhone : DeviceUuid where
  text := "0b9d3a52-7c1e-4f7a-9f0e-5a4f7d1c2b3a"
  isUuid c hc := by
    have hall : "0b9d3a52-7c1e-4f7a-9f0e-5a4f7d1c2b3a".toList.all
        (fun c => decide (c.isAlphanum = true ∨ c = '-')) = true := by decide
    exact of_decide_eq_true (List.all_eq_true.mp hall c hc)

/-- The pairing has been consumed a few seconds after it was armed. -/
def usedPairing : Verification where
  id := 1
  identifier := devicePairingIdentifier scanningPhone.text "K7Q2MW"
  value := ⟨none, some scanningPhone.text, some .consumed, none, some "login", none⟩
  expiresAt := 90000
  createdAt := 0

lemma usedPairing_isLivePairingOf : usedPairing.isLivePairingOf scanningPhone.text 5000 = true := by
  decide +kernel

theorem not_agreeOnArmed_usedPairing :
    ¬∀ status armed, MayAnswerStatus scanningPhone.text 5000 [usedPairing] status →
      MayAnswerArmed scanningPhone.text 5000 [usedPairing] armed →
      AgreeOnArmed (loadScanStatus scanningPhone.text ["tap", "scanner"] status)
        (findArmedDevicePairing scanningPhone.text (.ok armed)) := by
  intro h
  have hstatus : MayAnswerStatus scanningPhone.text 5000 [usedPairing] (some usedPairing) := by
    refine ⟨List.mem_singleton_self _, usedPairing_isLivePairingOf, fun other hother _ => ?_⟩
    obtain rfl := List.mem_singleton.mp hother
    exact Nat.le_refl _
  have harmed : MayAnswerArmed scanningPhone.text 5000 [usedPairing] none := by
    intro row hrow hrowArmed
    obtain rfl := List.mem_singleton.mp hrow
    cases (Verification.isArmedOn_iff.mp hrowArmed).2
  obtain ⟨p, hp⟩ := (h (some usedPairing) none hstatus harmed).armed.mp ⟨_, rfl, rfl⟩
  cases hp

end ExpresSync
