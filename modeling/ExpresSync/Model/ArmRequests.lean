import ExpresSync.Model.ScanPairing

/-!
# Arm requests for chargers and devices

`scan-pair` arms chargers and devices, `tag/scan-arm` chargers and `devices/[deviceId]/scan-arm`
devices.  All of them look for an armed pairing of what they arm, and insert a row in a later
statement when they find none.  The charger's requests and all other writers are those of
`PairingWorld`; the device's requests are in flight next to them.
-/

namespace ExpresSync

/-- What a card is tapped on. -/
inductive Pairable where
  | charger (chargeBoxId : String)
  | device (deviceId : String)
deriving DecidableEq

/-! ## `findArmedDevicePairing` -/

/-- What the query compares identifiers with. -/
def devicePattern (deviceId : String) : String := "device-scan:" ++ deviceId ++ ":%"

namespace Verification

variable (row : Verification)

/-- `identifier LIKE 'device-scan:<deviceId>:%'` -/
def likeDevice (deviceId : String) : Bool :=
  Sql.like row.identifier.toList (devicePattern deviceId).toList

/-- The condition of the query. -/
def isArmedOn (deviceId : String) (now : ℕ) : Bool :=
  row.likeDevice deviceId && row.isLive now && row.value.status == some .armed

/-- The code that is reported of the row: its identifier without the device's prefix. -/
def reportedDeviceCode (deviceId : String) : Option String :=
  let pfx := (devicePairingIdentifier deviceId "").toList
  if pfx <+: row.identifier.toList then
    some (String.ofList (row.identifier.toList.drop pfx.length))
  else none

/-- What the row is a pairing of. -/
def pairable : Option Pairable :=
  match row.value.chargeBoxId, row.value.deviceId with
  | some chargeBoxId, _ => some (.charger chargeBoxId)
  | none, some deviceId => some (.device deviceId)
  | none, none => none

/-- What the row is an armed, unexpired pairing of. -/
def armedFor (now : ℕ) : Option Pairable :=
  if row.isLive now && row.value.status == some .armed then row.pairable else none

end Verification

/-- The row the query returns may be this one. -/
def MayFindArmedOn (deviceId : String) (now : ℕ) (rows : List Verification) (row : Verification) :
    Prop :=
  Sql.IsLast Verification.expiresAt (fun row => row.isArmedOn deviceId now = true) rows row

instance (deviceId : String) (now : ℕ) (rows : List Verification) (row : Verification) :
    Decidable (MayFindArmedOn deviceId now rows row) :=
  inferInstanceAs (Decidable (Sql.IsLast _ _ _ _))

/-! ## The system -/

/-- A request that has found no armed pairing of the device and is about to insert its own. -/
structure DeviceArming where
  deviceId : String
  purpose : String
deriving DecidableEq

structure ArmWorld where
  pairings : PairingWorld
  deviceArmings : List DeviceArming

inductive ArmAction where
  /-- A step of a charger's arm request, or of another writer. -/
  | pairing (action : PairingAction)
  /-- A route looks for an armed pairing of the device.  `found` is the row of the query, and an
  error is taken for none. -/
  | deviceArmStarts (arming : DeviceArming) (found : Except String (Option ℕ))
  /-- The request `i` inserts its row. -/
  | deviceArmInserts (i : ℕ) (pairingCode : String)
  /-- The insert of the request `i` fails, and it looks for an armed pairing once more to choose
  its answer. -/
  | deviceArmFails (i : ℕ)

/-- The step inserts the row of a device. -/
def PairingAction.isDeviceArm : PairingAction → Bool
  | .armsDevice _ _ _ => true
  | _ => false

namespace ArmWorld

def initial : ArmWorld := ⟨.initial, []⟩

variable (w : ArmWorld)

/-- The pairing a route finds: `none` when no such row can have been returned. -/
def findArmedDevicePairing (deviceId : String) :
    Except String (Option ℕ) → Option (Option String)
  | .error _ => some none
  | .ok none =>
      if ∃ row ∈ w.pairings.table.rows, row.isArmedOn deviceId w.pairings.now = true then none
      else some none
  | .ok (some id) =>
      (w.pairings.table.get? id).bind fun row =>
        if MayFindArmedOn deviceId w.pairings.now w.pairings.table.rows row then
          some (row.reportedDeviceCode deviceId)
        else none

def step : ArmAction → Option ArmWorld
  | .pairing action =>
      -- The row of a device is inserted by a request that has looked for one before.
      if action.isDeviceArm then none
      else (w.pairings.step action).map fun pairings => { w with pairings }
  | .deviceArmStarts arming found =>
      (w.findArmedDevicePairing arming.deviceId found).map fun existing =>
        match existing with
        | some _ => w
        | none => { w with deviceArmings := w.deviceArmings ++ [arming] }
  | .deviceArmInserts i pairingCode =>
      w.deviceArmings[i]?.bind fun arming =>
        (w.pairings.step (.armsDevice arming.deviceId pairingCode arming.purpose)).map
          fun pairings => { pairings, deviceArmings := w.deviceArmings.eraseIdx i }
  | .deviceArmFails i => some { w with deviceArmings := w.deviceArmings.eraseIdx i }

end ArmWorld

/-!
## The scan status of a device

`loadScanStatus` of `device-state.ts` tells a device whether it is armed.  It asks for its latest
unexpired pairing; `findArmedDevicePairing`, which the arm routes go by, asks for the latest of
those that are armed.  The answers of the two queries are arguments.
-/

/-- A `uuid` of the database, as text. -/
structure DeviceUuid where
  text : String
  isUuid : ∀ c ∈ text.toList, c.isAlphanum = true ∨ c = '-'

/-- `scanStatus` of the envelope. -/
structure ScanStatus where
  armed : Bool
  pairingCode : Option String
  expiresAt : Option ℕ
deriving DecidableEq

/-- What `findArmedDevicePairing` returns. -/
structure ArmedPairing where
  pairingCode : String
  expiresAt : ℕ
deriving DecidableEq

/-- The condition of the query in `loadScanStatus`. -/
def Verification.isLivePairingOf (deviceId : String) (now : ℕ) (row : Verification) : Bool :=
  row.likeDevice deviceId && row.isLive now

/-- The status; a device that cannot scan has none. -/
def loadScanStatus (deviceId : String) (capabilities : List String) (found : Option Verification) :
    Option ScanStatus :=
  if !capabilities.contains "scanner" then none
  else
    match found with
    | none => some ⟨false, none, none⟩
    | some row => some ⟨true, row.reportedDeviceCode deviceId, some row.expiresAt⟩

/-- The pairing, if the query has not failed. -/
def findArmedDevicePairing (deviceId : String) (found : Except String (Option Verification)) :
    Option ArmedPairing :=
  match found with
  | .error _ => none
  | .ok none => none
  | .ok (some row) =>
      (row.reportedDeviceCode deviceId).map fun pairingCode => ⟨pairingCode, row.expiresAt⟩

/-- The query of `loadScanStatus` may return this. -/
def MayAnswerStatus (deviceId : String) (now : ℕ) (rows : List Verification) :
    Option Verification → Prop :=
  Sql.IsAnswer Verification.expiresAt (fun row => row.isLivePairingOf deviceId now = true) rows

/-- The query of `findArmedDevicePairing` may return this. -/
def MayAnswerArmed (deviceId : String) (now : ℕ) (rows : List Verification) :
    Option Verification → Prop :=
  Sql.IsAnswer Verification.expiresAt (fun row => row.isArmedOn deviceId now = true) rows

end ExpresSync
