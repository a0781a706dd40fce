import ExpresSync.Model.ScanPairing

/-!
# A charger's own pairings

An identifier is looked up with `LIKE` and taken apart by position, so the id of the charger is read
as a pattern in one place and as a field in the other.  `ownPairings_iff` says when the row
`pre-authorize` matches, and the one `findArmedChargerPairing` reports, are nevertheless the
charger's own and their code is read off right: when of the rows that qualify the last one is.  For
an id with no special character, on a site where no other id continues it with a colon, that is so
(`ownPairings_of_plain`).
-/

namespace ExpresSync

/-- The identifier is that of a pairing of the charger with that code.  Codes have no colon. -/
def IdentifiesPairing (identifier chargeBoxId pairingCode : String) : Prop :=
  identifier = chargerPairingIdentifier chargeBoxId pairingCode ∧ ':' ∉ pairingCode.toList

instance (identifier chargeBoxId pairingCode : String) :
    Decidable (IdentifiesPairing identifier chargeBoxId pairingCode) :=
  inferInstanceAs (Decidable (_ ∧ _))

/-- The charger and the code an identifier names are determined by it. -/
lemma IdentifiesPairing.unique {identifier chargeBoxId chargeBoxId' code code' : String}
    (h : IdentifiesPairing identifier chargeBoxId code)
    (h' : IdentifiesPairing identifier chargeBoxId' code') :
    chargeBoxId = chargeBoxId' ∧ code = code' := by
  obtain ⟨hidentifier, hcode⟩ := h
  obtain ⟨hidentifier', hcode'⟩ := h'
  have heq : chargeBoxId.toList ++ ':' :: code.toList =
      chargeBoxId'.toList ++ ':' :: code'.toList := by
    have htext := congrArg String.toList (hidentifier.symm.trans hidentifier')
    simpa [chargerPairingIdentifier] using htext
  obtain ⟨hid, hcodes⟩ := Sql.eq_of_append_delimiter hcode hcode' heq
  exact ⟨String.toList_inj.mp hid, String.toList_inj.mp hcodes⟩

/-- Whatever row the `UPDATE` of a call writes is a pairing of the charger, with the code that is
returned. -/
def BindsOwn (rows : List Verification) (chargeBoxId idTag : String) (now : ℕ) (locked : List ℕ) :
    Prop :=
  ∀ row ∈ rows, MayMatch chargeBoxId idTag now locked rows row →
    IdentifiesPairing row.identifier chargeBoxId row.pairingCode

instance (rows : List Verification) (chargeBoxId idTag : String) (now : ℕ) (locked : List ℕ) :
    Decidable (BindsOwn rows chargeBoxId idTag now locked) :=
  inferInstanceAs (Decidable (∀ row ∈ rows, _ → _))

/-- Whatever is reported as armed is a pairing of the charger, with the code that is reported. -/
def ReportsOwn (rows : List Verification) (chargeBoxId : String) (now : ℕ) : Prop :=
  ∀ row ∈ rows, MayFindArmed chargeBoxId now rows row →
    ∀ code ∈ row.reportedCode chargeBoxId, IdentifiesPairing row.identifier chargeBoxId code

instance (rows : List Verification) (chargeBoxId : String) (now : ℕ) :
    Decidable (ReportsOwn rows chargeBoxId now) :=
  inferInstanceAs (Decidable (∀ row ∈ rows, _ → ∀ code ∈ row.reportedCode chargeBoxId, _))

/-! ## The condition -/

/-- The row is a pairing of the charger, and the third field of its identifier is its code: the
charger's id has no colon, or the code is by chance the same as the field after its first colon. -/
def Verification.ReadsRight (row : Verification) (chargeBoxId : String) : Prop :=
  ∃ code, IdentifiesPairing row.identifier chargeBoxId code ∧
    (':' ∈ chargeBoxId.toList → Sql.splitPart chargeBoxId.toList ':' 2 = code.toList)

/-- The identifier continues the charger's prefix with a text that has a colon. -/
def Verification.Continues (row : Verification) (chargeBoxId : String) : Prop :=
  ∃ rest, row.identifier = chargerPairingIdentifier chargeBoxId rest ∧ ':' ∈ rest.toList

/-- Every row that can be matched and is not the charger's own, or not read right, is older than one
that is both. -/
def OwnCandidateLast (rows : List Verification) (chargeBoxId idTag : String) (now : ℕ)
    (locked : List ℕ) : Prop :=
  ∀ row ∈ rows, row.isCandidate chargeBoxId idTag now locked = true → ¬row.ReadsRight chargeBoxId →
    ∃ later ∈ rows, later.isCandidate chargeBoxId idTag now locked = true ∧
      later.ReadsRight chargeBoxId ∧ row.createdAt < later.createdAt

/-- Every armed row that the query finds and whose identifier only continues the charger's prefix
expires before one whose identifier does not. -/
def OwnArmedLast (rows : List Verification) (chargeBoxId : String) (now : ℕ) : Prop :=
  ∀ row ∈ rows, row.isArmedAt chargeBoxId now = true → row.Continues chargeBoxId →
    ∃ later ∈ rows, later.isArmedAt chargeBoxId now = true ∧ ¬later.Continues chargeBoxId ∧
      row.expiresAt < later.expiresAt

/-! ## Reading an identifier -/

section Reading

variable {row : Verification} {chargeBoxId : String}

/-- What is read off an identifier by position. -/
lemma pairingCode_of_identifier {code : String}
    (h : row.identifier = chargerPairingIdentifier chargeBoxId code) (hcode : ':' ∉ code.toList) :
    row.pairingCode.toList =
      if ':' ∈ chargeBoxId.toList then Sql.splitPart chargeBoxId.toList ':' 2 else code.toList := by
  have htext : row.identifier.toList =
      "scan-pair".toList ++ ':' :: (chargeBoxId.toList ++ ':' :: code.toList) := by
    simp [h, chargerPairingIdentifier]
  have hhead : ':' ∉ "scan-pair".toList := by decide +kernel
  rw [Verification.pairingCode, String.toList_ofList, htext, Sql.splitPart_succ_append hhead]
  by_cases hcolon : ':' ∈ chargeBoxId.toList
  · rw [if_pos hcolon, Sql.splitPart_two_append hcolon]
  · rw [if_neg hcolon, Sql.splitPart_succ_append hcolon, Sql.splitPart_one_of_not_mem hcode]

/-- The row and the code returned for it are right exactly when the row reads right. -/
lemma identifiesPairing_pairingCode_iff :
    IdentifiesPairing row.identifier chargeBoxId row.pairingCode ↔ row.ReadsRight chargeBoxId := by
  constructor
  · intro h
    refine ⟨row.pairingCode, h, fun hcolon => ?_⟩
    rw [pairingCode_of_identifier h.1 h.2, if_pos hcolon]
  · rintro ⟨code, hown, hfield⟩
    have hread : row.pairingCode = code := by
      rw [← String.toList_inj, pairingCode_of_identifier hown.1 hown.2]
      split
      · next hcolon => exact hfield hcolon
      · rfl
    rw [hread]
    exact hown

/-- What is reported of a row is right exactly when its identifier does not only continue the
charger's prefix. -/
lemma forall_reportedCode_iff :
    (∀ code ∈ row.reportedCode chargeBoxId, IdentifiesPairing row.identifier chargeBoxId code) ↔
      ¬row.Continues chargeBoxId := by
  simp only [mem_reportedCode_iff, Verification.Continues, not_exists, not_and]
  exact forall₂_congr fun code hidentifier => and_iff_right hidentifier

end Reading

/-! ## What is matched and what is reported -/

section Rows

variable {rows : List Verification} {chargeBoxId idTag : String} {now : ℕ} {locked : List ℕ}

lemma bindsOwn_iff :
    BindsOwn rows chargeBoxId idTag now locked ↔
      OwnCandidateLast rows chargeBoxId idTag now locked := by
  have hlast :
      (∀ row, MayMatch chargeBoxId idTag now locked rows row → row.ReadsRight chargeBoxId) ↔
        OwnCandidateLast rows chargeBoxId idTag now locked := Sql.forall_isLast_iff
  unfold BindsOwn
  rw [← hlast]
  constructor
  · exact fun h row hrow => identifiesPairing_pairingCode_iff.mp (h row hrow.mem hrow)
  · exact fun h row _ hrow => identifiesPairing_pairingCode_iff.mpr (h row hrow)

lemma reportsOwn_iff :
    ReportsOwn rows chargeBoxId now ↔ OwnArmedLast rows chargeBoxId now := by
  have hlast : (∀ row, MayFindArmed chargeBoxId now rows row → ¬row.Continues chargeBoxId) ↔
      OwnArmedLast rows chargeBoxId now := by
    refine Sql.forall_isLast_iff.trans ?_
    simp only [OwnArmedLast, not_not]
  unfold ReportsOwn
  rw [← hlast]
  constructor
  · exact fun h row hrow => forall_reportedCode_iff.mp (h row hrow.mem hrow)
  · exact fun h row _ hrow => forall_reportedCode_iff.mpr (h row hrow)

end Rows

/-- For every set of rows and every call: what is matched and what is reported is the charger's own,
with its code, exactly when the last rows that qualify are. -/
theorem ownPairings_iff (rows : List Verification) (chargeBoxId idTag : String) (now : ℕ)
    (locked : List ℕ) :
    BindsOwn rows chargeBoxId idTag now locked ∧ ReportsOwn rows chargeBoxId now ↔
      OwnCandidateLast rows chargeBoxId idTag now locked ∧ OwnArmedLast rows chargeBoxId now :=
  and_congr bindsOwn_iff reportsOwn_iff

/-- On a site where only pairings of the charger continue its prefix, an id without special
characters is always looked up and read right. -/
theorem ownPairings_of_plain {rows : List Verification} {chargeBoxId : String}
    (hplain : ∀ c ∈ chargeBoxId.toList, ¬Sql.IsMeta c ∧ c ≠ ':')
    (hown : ∀ row ∈ rows, ¬row.Continues chargeBoxId) (idTag : String) (now : ℕ) (locked : List ℕ) :
    BindsOwn rows chargeBoxId idTag now locked ∧ ReportsOwn rows chargeBoxId now := by
  refine ⟨bindsOwn_iff.mpr fun row hrow hcandidate hwrong => absurd ?_ hwrong,
    reportsOwn_iff.mpr fun row hrow _ hcontinues => absurd hcontinues (hown row hrow)⟩
  simp only [Verification.isCandidate, Bool.and_eq_true] at hcandidate
  obtain ⟨code, hcode⟩ := (likeCharger_iff_of_plain fun c hc => (hplain c hc).1).mp hcandidate.1.1.1
  refine ⟨code, ⟨hcode, fun hcolon => hown row hrow ⟨code, hcode, hcolon⟩⟩, fun hcolon => ?_⟩
  exact absurd rfl (hplain ':' hcolon).2

/-- A pairing of a device is never matched to a tap at a charger, nor reported for one. -/
theorem not_likeCharger_devicePairingRow (deviceId pairingCode purpose chargeBoxId : String)
    (now id : ℕ) :
    (devicePairingRow deviceId pairingCode purpose now id).likeCharger chargeBoxId = false := by
  by_contra hlike
  have hbegins := Verification.begins_of_likeCharger (Bool.not_eq_false _ ▸ hlike)
  simp [devicePairingRow, devicePairingIdentifier] at hbegins

namespace Scenario

/-- An armed row of a charger. -/
def armedPairing (id : ℕ) (chargeBoxId pairingCode : String) : Verification :=
  (Arming.mk chargeBoxId none none).row pairingCode 0 id

end Scenario

/-- A tap at `CB_1` binds a pairing of `CBX1`, one at `CB:1` returns `1` for the code, and what
`CB:1` has armed is reported for `CB`. -/
theorem not_ownPairings_similarIds :
    ¬BindsOwn [Scenario.armedPairing 0 "CBX1" "c0de"] "CB_1" "TAG" 0 [] ∧
      ¬BindsOwn [Scenario.armedPairing 0 "CB:1" "c0de"] "CB:1" "TAG" 0 [] ∧
      ¬ReportsOwn [Scenario.armedPairing 0 "CB:1" "c0de"] "CB" 0 := by
  decide +kernel

end ExpresSync
