import ExpresSync.Foundation.SerialTable
import ExpresSync.Foundation.Sql
import ExpresSync.Foundation.Transition

/-!
# Scan pairings

`scan-arm.service.ts` and the routes around it: `scan-pair` and the admin's `scan-arm` arm a
pairing, `pre-authorize` matches it to the card that is tapped, `scan-login` and `scan-result`
consume it, and both arm routes release it.

A pairing is a row of `verifications`, whose identifier joins the charger's id and the pairing's
code.  Of the rows a statement sees with `ORDER BY … DESC LIMIT 1` any with the greatest key may be
the one it works on, so that row is part of the action.  An arm route looks for an armed pairing
first and inserts its own in a later statement; in between it is an arming in flight.  Times are
epoch milliseconds.
-/

namespace ExpresSync

/-- `PAIRING_TTL_SEC`, in milliseconds. -/
def pairingTtlMs : ℕ := 90 * 1000

/-- `status` of a pairing. -/
inductive PairingStatus where
  | armed
  | matched
  | consumed
deriving DecidableEq

/-- The JSON in `value`.  Rows of other kinds have other fields. -/
structure PairingValue where
  chargeBoxId : Option String
  deviceId : Option String
  status : Option PairingStatus
  matchedIdTag : Option String
  purpose : Option String
  adminUserId : Option String
deriving DecidableEq

/-- A row of `verifications`. -/
structure Verification where
  id : ℕ
  identifier : String
  value : PairingValue
  expiresAt : ℕ
  createdAt : ℕ
deriving DecidableEq

abbrev VerificationTable := SerialTable Verification.id

/-! ## Identifiers -/

def chargerPairingIdentifier (chargeBoxId pairingCode : String) : String :=
  "scan-pair:" ++ chargeBoxId ++ ":" ++ pairingCode

def devicePairingIdentifier (deviceId pairingCode : String) : String :=
  "device-scan:" ++ deviceId ++ ":" ++ pairingCode

/-- What the queries compare identifiers with. -/
def chargerPattern (chargeBoxId : String) : String := "scan-pair:" ++ chargeBoxId ++ ":%"

namespace Verification

variable (row : Verification)

/-- `identifier LIKE 'scan-pair:<chargeBoxId>:%'` -/
def likeCharger (chargeBoxId : String) : Bool :=
  Sql.like row.identifier.toList (chargerPattern chargeBoxId).toList

/-- `expires_at > now()` -/
def isLive (now : ℕ) : Bool := decide (now < row.expiresAt)

/-- Armed, or already matched to the card. -/
def canMatch (idTag : String) : Bool :=
  row.value.status == some .armed ||
    row.value.status == some .matched && row.value.matchedIdTag == some idTag

/-- `split_part(identifier, ':', 3)` -/
def pairingCode : String := String.ofList (Sql.splitPart row.identifier.toList ':' 3)

end Verification

/-! ## `findArmedChargerPairing` -/

/-- The condition of the query. -/
def Verification.isArmedAt (chargeBoxId : String) (now : ℕ) (row : Verification) : Bool :=
  row.likeCharger chargeBoxId && row.isLive now && row.value.status == some .armed

/-- The row the query returns may be this one. -/
def MayFindArmed (chargeBoxId : String) (now : ℕ) (rows : List Verification) (row : Verification) :
    Prop :=
  Sql.IsLast Verification.expiresAt (fun row => row.isArmedAt chargeBoxId now = true) rows row

instance (chargeBoxId : String) (now : ℕ) (rows : List Verification) (row : Verification) :
    Decidable (MayFindArmed chargeBoxId now rows row) :=
  inferInstanceAs (Decidable (Sql.IsLast _ _ _ _))

/-- The code that is reported of the row: its identifier without the charger's prefix. -/
def Verification.reportedCode (chargeBoxId : String) (row : Verification) : Option String :=
  let pfx := (chargerPairingIdentifier chargeBoxId "").toList
  if pfx <+: row.identifier.toList then
    some (String.ofList (row.identifier.toList.drop pfx.length))
  else none

/-! ## `pre-authorize` -/

/-- The condition of the `UPDATE`.  Rows that other statements have locked are skipped. -/
def Verification.isCandidate (chargeBoxId idTag : String) (now : ℕ) (locked : List ℕ)
    (row : Verification) : Bool :=
  row.likeCharger chargeBoxId && row.isLive now && row.canMatch idTag && !locked.contains row.id

/-- The row the `UPDATE` writes may be this one. -/
def MayMatch (chargeBoxId idTag : String) (now : ℕ) (locked : List ℕ) (rows : List Verification)
    (row : Verification) : Prop :=
  Sql.IsLast Verification.createdAt (fun row => row.isCandidate chargeBoxId idTag now locked = true)
    rows row

instance (chargeBoxId idTag : String) (now : ℕ) (locked : List ℕ) (rows : List Verification)
    (row : Verification) : Decidable (MayMatch chargeBoxId idTag now locked rows row) :=
  inferInstanceAs (Decidable (Sql.IsLast _ _ _ _))

/-- The row, matched to the card. -/
def Verification.matchTo (idTag : String) (row : Verification) : Verification :=
  { row with value := { row.value with status := some .matched, matchedIdTag := some idTag } }

/-- The event `scan.intercepted`. -/
structure ScanIntercepted where
  idTag : String
  pairableId : String
  pairingCode : String
  purpose : String
deriving DecidableEq

structure PreAuthorizeResponse where
  override : Option String
  event : Option ScanIntercepted
deriving DecidableEq

/-- The answer to StEvE, and what is published, once the `UPDATE` has returned its row. -/
def preAuthorizeResponse (chargeBoxId idTag : String) : Option Verification → PreAuthorizeResponse
  | none => ⟨none, none⟩
  | some row =>
      { override := some "BLOCKED"
        event :=
          -- A repeated call finds the row matched already and publishes nothing.
          if row.value.status = some .armed then
            some
              { idTag := idTag
                pairableId := chargeBoxId
                pairingCode := row.pairingCode
                purpose := row.value.purpose.getD "login" }
          else none }

/-- The effect of a call whose `UPDATE` writes the row `target`. -/
def preAuthorize (chargeBoxId idTag : String) (target : Option Verification)
    (table : VerificationTable) : VerificationTable × PreAuthorizeResponse :=
  (match target with
    | none => table
    | some row => table.update (fun other => other.id == row.id) (Verification.matchTo idTag)
        fun _ => rfl,
    preAuthorizeResponse chargeBoxId idTag target)

/-! ## The other writers -/

/-- A request that has found no armed pairing and is about to insert its own. -/
structure Arming where
  chargeBoxId : String
  purpose : Option String
  adminUserId : Option String
deriving DecidableEq

/-- The row of `insertChargerPairingRow`. -/
def Arming.row (arming : Arming) (pairingCode : String) (now id : ℕ) : Verification where
  id := id
  identifier := chargerPairingIdentifier arming.chargeBoxId pairingCode
  value :=
    { chargeBoxId := some arming.chargeBoxId
      deviceId := none
      status := some .armed
      matchedIdTag := none
      purpose := arming.purpose
      adminUserId := arming.adminUserId }
  expiresAt := now + pairingTtlMs
  createdAt := now

/-- The row of `insertDevicePairingRow`. -/
def devicePairingRow (deviceId pairingCode purpose : String) (now id : ℕ) : Verification where
  id := id
  identifier := devicePairingIdentifier deviceId pairingCode
  value :=
    { chargeBoxId := none
      deviceId := some deviceId
      status := some .armed
      matchedIdTag := none
      purpose := some purpose
      adminUserId := none }
  expiresAt := now + pairingTtlMs
  createdAt := now

/-- The rows `scan-login` consumes. -/
def Verification.consumableBy (identifier idTag : String) (now : ℕ) (row : Verification) : Bool :=
  row.identifier == identifier && row.isLive now && row.canMatch idTag

/-- The row, consumed by `scan-login`. -/
def Verification.consume (row : Verification) : Verification :=
  { row with value := { row.value with status := some .consumed } }

/-- The rows `scan-result` consumes. -/
def Verification.claimableBy (identifier : String) (now : ℕ) (row : Verification) : Bool :=
  row.identifier == identifier && row.isLive now && row.value.status == some .armed

/-- The row, consumed by `scan-result`. -/
def Verification.claim (idTag : String) (row : Verification) : Verification :=
  { row with value := { row.value with status := some .consumed, matchedIdTag := some idTag } }

/-! ## The system -/

structure PairingWorld where
  table : VerificationTable
  now : ℕ
  armings : List Arming

namespace PairingWorld

def initial : PairingWorld := ⟨.empty, 0, []⟩

end PairingWorld

inductive PairingAction where
  | waits (ms : ℕ)
  /-- An arm route looks for an armed pairing.  `found` is the row of the query, and an error is
  taken for none. -/
  | armStarts (arming : Arming) (found : Except String (Option ℕ))
  /-- The arming `i` inserts its row. -/
  | armInserts (i : ℕ) (pairingCode : String)
  /-- The insert of the arming `i` fails. -/
  | armFails (i : ℕ)
  | armsDevice (deviceId pairingCode purpose : String)
  /-- A card is tapped.  `target` is the row the `UPDATE` writes. -/
  | preAuthorizes (chargeBoxId idTag : String) (locked : List ℕ) (target : Option ℕ)
  | logsIn (identifier idTag : String)
  | scanResult (identifier idTag : String)
  /-- `deletePairingRow`. -/
  | releases (identifier : String)
  /-- `scan-login` removes the row it has consumed. -/
  | cleansUp (id : ℕ)

namespace PairingWorld

variable (w : PairingWorld)

/-- The pairing an arm route finds: `none` when no such row can have been returned. -/
def findArmedChargerPairing (chargeBoxId : String) :
    Except String (Option ℕ) → Option (Option String)
  | .error _ => some none
  | .ok none =>
      if ∃ row ∈ w.table.rows, row.isArmedAt chargeBoxId w.now = true then none else some none
  | .ok (some id) =>
      (w.table.get? id).bind fun row =>
        if MayFindArmed chargeBoxId w.now w.table.rows row then some (row.reportedCode chargeBoxId)
        else none

/-- The row the `UPDATE` writes: `none` when it cannot have been that one. -/
def preAuthorizeTarget (chargeBoxId idTag : String) (locked : List ℕ) :
    Option ℕ → Option (Option Verification)
  | none =>
      if ∃ row ∈ w.table.rows, row.isCandidate chargeBoxId idTag w.now locked = true then none
      else some none
  | some id =>
      (w.table.get? id).bind fun row =>
        if MayMatch chargeBoxId idTag w.now locked w.table.rows row then some (some row) else none

def step : PairingAction → Option PairingWorld
  | .waits ms => some { w with now := w.now + ms }
  | .armStarts arming found =>
      (w.findArmedChargerPairing arming.chargeBoxId found).map fun existing =>
        match existing with
        | some _ => w
        | none => { w with armings := w.armings ++ [arming] }
  | .armInserts i pairingCode =>
      w.armings[i]?.map fun arming =>
        { w with
          table := w.table.insert (arming.row pairingCode w.now) fun _ => rfl
          armings := w.armings.eraseIdx i }
  | .armFails i => some { w with armings := w.armings.eraseIdx i }
  | .armsDevice deviceId pairingCode purpose =>
      some { w with
        table := w.table.insert (devicePairingRow deviceId pairingCode purpose w.now) fun _ => rfl }
  | .preAuthorizes chargeBoxId idTag locked target =>
      -- Without a card or a charger the request is refused.
      if idTag = "" ∨ chargeBoxId = "" then none
      else
        (w.preAuthorizeTarget chargeBoxId idTag locked target).map fun target =>
          { w with table := (preAuthorize chargeBoxId idTag target w.table).1 }
  | .logsIn identifier idTag =>
      some { w with
        table := w.table.update (Verification.consumableBy identifier idTag w.now)
          Verification.consume fun _ => rfl }
  | .scanResult identifier idTag =>
      some { w with
        table := w.table.update (Verification.claimableBy identifier w.now)
          (Verification.claim idTag) fun _ => rfl }
  | .releases identifier =>
      some { w with table := w.table.delete fun row => row.identifier == identifier }
  | .cleansUp id => some { w with table := w.table.delete fun row => row.id == id }

end PairingWorld

/-! ## What identifies a charger's pairing -/

section Identifiers

variable {row : Verification} {chargeBoxId : String}

/-- The code of an identifier the charger's prefix begins. -/
lemma mem_reportedCode_iff {code : String} :
    code ∈ row.reportedCode chargeBoxId ↔
      row.identifier = chargerPairingIdentifier chargeBoxId code := by
  have happend : ∀ code, chargerPairingIdentifier chargeBoxId code =
      chargerPairingIdentifier chargeBoxId "" ++ code := by
    intro code
    simp [chargerPairingIdentifier]
  unfold Verification.reportedCode
  simp only [happend code, ← String.toList_inj, String.toList_append]
  constructor
  · intro hmem
    split at hmem
    · next hprefix =>
        obtain rfl := Option.some.inj hmem
        rw [String.toList_ofList]
        exact (List.prefix_iff_eq_append.mp hprefix).symm
    · cases hmem
  · intro hidentifier
    rw [hidentifier, if_pos (List.prefix_append _ _), List.drop_left]
    simp

/-- Only identifiers of charger pairings are like a charger's pattern. -/
lemma Verification.begins_of_likeCharger (h : row.likeCharger chargeBoxId = true) :
    "scan-pair:".toList <+: row.identifier.toList := by
  have hliteral : ∀ c ∈ "scan-pair:".toList, ¬Sql.IsMeta c := by simp [Sql.IsMeta]
  have hpattern : (chargerPattern chargeBoxId).toList =
      "scan-pair:".toList ++ (chargeBoxId ++ ":%").toList := by
    rw [← String.toList_append, ← String.append_assoc, chargerPattern]
  rw [Verification.likeCharger, hpattern] at h
  exact Sql.literal_prefix_of_like hliteral h

/-- An id without special characters finds the identifiers its prefix begins. -/
lemma likeCharger_iff_of_plain (hplain : ∀ c ∈ chargeBoxId.toList, ¬Sql.IsMeta c) :
    row.likeCharger chargeBoxId = true ↔
      ∃ code, row.identifier = chargerPairingIdentifier chargeBoxId code := by
  have hliteral : ∀ c ∈ (chargerPairingIdentifier chargeBoxId "").toList, ¬Sql.IsMeta c := by
    intro c hc
    have hends : ∀ c ∈ "scan-pair:".toList ++ ":".toList, ¬Sql.IsMeta c := by simp [Sql.IsMeta]
    simp only [chargerPairingIdentifier, String.toList_append, List.mem_append] at hc hends
    rcases hc with ((hc | hc) | hc) | hc
    · exact hends c (Or.inl hc)
    · exact hplain c hc
    · exact hends c (Or.inr hc)
    · cases hc
  have hpattern : (chargerPattern chargeBoxId).toList =
      (chargerPairingIdentifier chargeBoxId "").toList ++ ['%'] := by
    simp [chargerPattern, chargerPairingIdentifier]
  rw [Verification.likeCharger, hpattern, Sql.like_literal_anyText hliteral]
  simp only [← mem_reportedCode_iff, Verification.reportedCode]
  by_cases hbegins : (chargerPairingIdentifier chargeBoxId "").toList <+: row.identifier.toList
  · simp [hbegins]
  · simp [hbegins]

end Identifiers

end ExpresSync
