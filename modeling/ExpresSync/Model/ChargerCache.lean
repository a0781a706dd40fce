import ExpresSync.Foundation.KeyedLog
import ExpresSync.Model.Types

/-!
# The cache of chargers

`refreshCharger` (`charger.service.ts`): the chargers come from one call of `getChargeBoxes`
(`steve-client.ts`) and the operation log, their names from a second call.
-/

namespace ExpresSync

/-! ## Charge boxes -/

structure StEvEChargeBox where
  chargeBoxId : String
  chargeBoxPk : ℕ
  /-- `none` for `null` and for no field. -/
  description : Option String
deriving DecidableEq

/-- What `getChargeBoxes` reads of a transaction. -/
structure ListedTransaction where
  chargeBoxId : String
  chargeBoxPk : ℕ
deriving DecidableEq

/-- What StEvE answers to the two requests that `getChargeBoxes` may make. -/
structure ChargeBoxesAnswers where
  /-- `/v1/chargeBoxes` -/
  roster : Except String (List StEvEChargeBox)
  /-- `/v1/transactions?type=ALL&periodType=ALL` -/
  transactions : Except String (List ListedTransaction)

/-- The boxes of the transactions, each with the first of its numbers and no description. -/
def boxesOfTransactions (transactions : List ListedTransaction) : List StEvEChargeBox :=
  ((KeyedLog.empty : KeyedLog StEvEChargeBox.chargeBoxPk).recordAll
    (transactions.map fun tx => ⟨tx.chargeBoxId, tx.chargeBoxPk, none⟩)).entries

/-- Whatever error there is, the transactions are asked for. -/
def getChargeBoxes (answers : ChargeBoxesAnswers) : Except String (List StEvEChargeBox) :=
  match answers.roster with
  | .ok boxes => .ok boxes
  | .error _ =>
      match answers.transactions with
      | .ok transactions => .ok (boxesOfTransactions transactions)
      | .error e => .error e

/-! ## Chargers -/

/-- A row of `chargers`, with the columns that a refresh writes. -/
structure Charger where
  chargeBoxId : String
  chargeBoxPk : Option ℕ
  friendlyName : Option String
  firstSeenAt : ℕ
  lastSeenAt : ℕ
  capabilities : List String
deriving DecidableEq

abbrev ChargerTable := KeyedLog Charger.chargeBoxId

structure SeenRow where
  chargeBoxId : String
  chargeBoxPk : Option ℕ
deriving DecidableEq

/-- What a refresh meets. -/
structure RefreshRun where
  /-- For `collectSeenChargers`. -/
  first : ChargeBoxesAnswers
  /-- The `charge_box_id`s of `charger_operation_log`. -/
  operationLog : Except String (List String)
  /-- For the descriptions. -/
  second : ChargeBoxesAnswers
  now : ℕ

namespace RefreshRun

variable (run : RefreshRun)

def collectSeenChargers : KeyedLog SeenRow.chargeBoxId :=
  let seen : KeyedLog SeenRow.chargeBoxId :=
    match getChargeBoxes run.first with
    | .ok boxes =>
      KeyedLog.empty.upsertAll (boxes.map fun cb => ⟨cb.chargeBoxId, some cb.chargeBoxPk⟩)
    | .error _ => .empty
  match run.operationLog with
  | .ok ids => seen.recordAll ((ids.filter fun id => id ≠ "").map fun id => ⟨id, none⟩)
  | .error _ => seen

/-- `b.description`, trimmed; an empty one counts as none. -/
def trimmedDescription (description : Option String) : Option String :=
  let trimmed := trim (description.getD "")
  if trimmed = "" then none else some trimmed

/-- `descByChargeBoxId` -/
def descByChargeBoxId : KeyedLog (Prod.fst : String × Option String → String) :=
  match getChargeBoxes run.second with
  | .ok boxes =>
      KeyedLog.empty.upsertAll
        (boxes.map fun b => (b.chargeBoxId, trimmedDescription b.description))
  | .error _ => .empty

/-- One of the `values`. -/
def newCharger (row : SeenRow) : Charger where
  chargeBoxId := row.chargeBoxId
  chargeBoxPk := row.chargeBoxPk
  friendlyName := (run.descByChargeBoxId.get? row.chargeBoxId).bind Prod.snd
  firstSeenAt := run.now
  lastSeenAt := run.now
  capabilities := ["charger"]

/-- The `set` of `onConflictDoUpdate`. -/
def onConflict (excluded old : Charger) : Charger :=
  { old with
    chargeBoxPk := excluded.chargeBoxPk.or old.chargeBoxPk
    friendlyName := excluded.friendlyName
    lastSeenAt := run.now }

def upsertCharger (table : ChargerTable) (value : Charger) : ChargerTable :=
  match table.get? value.chargeBoxId with
  | none => table.upsert value
  | some old => table.upsert (run.onConflict value old)

def refreshCharger (table : ChargerTable) : ChargerTable :=
  if run.collectSeenChargers.entries = [] then table
  else (run.collectSeenChargers.entries.map run.newCharger).foldl run.upsertCharger table

end RefreshRun

end ExpresSync
