import ExpresSync.Model.CustomerAccounts
import ExpresSync.Model.IncrementalBilling

/-!
# Meter values from StEvE

`POST /api/ocpp/meter-values` from the parsed body on: the energy and the power of a list of
samples, the event that is published and the sample that the billing emitter gets, and the mapping
that both carry.  A field of the body that does not have the type that the handler asks for counts
as missing.
-/

namespace ExpresSync

/-- `null` and a missing field are the same to `??`. -/
structure SampledValue where
  value : String
  measurand : Option String
  unit : Option String
  context : Option String
  phase : Option String
  location : Option String
deriving DecidableEq

structure MeterHookBody where
  chargeBoxId : Option String
  /-- A finite number. -/
  transactionPk : Option ℕ
  connectorId : Option ℕ
  timestamp : Option String
  /-- Empty when it is no array. -/
  samples : List SampledValue

/-- The payload of `transaction.meter`. -/
structure TransactionMeter where
  transactionId : ℕ
  chargeBoxId : String
  kwh : Option ℚ
  powerKw : Option ℚ
  connectorId : Option ℕ
  meterTimestamp : Option String
  userMappingId : Option ℕ
  endedAt : Option String

section

-- `Number`, with `NaN` for the infinities too, which `Number.isFinite` does not tell from it
variable (number : String → JsNumber) (toLowerCase : String → String)

def extractEnergyKwh : List SampledValue → Option ℚ
  | [] => none
  | s :: samples =>
      if s.measurand.getD "Energy.Active.Import.Register" ≠ "Energy.Active.Import.Register" then
        extractEnergyKwh samples
      else
        match number s.value with
        | .nan => extractEnergyKwh samples
        | .fin n =>
            if toLowerCase (s.unit.getD "Wh") = "kwh" then some n
            -- `"wh"`, which an unknown unit is taken for
            else some (n / 1000)

/-- The loop of `extractPowerKw`, with `total` once there `any` is. -/
def sumPowerKw : Option ℚ → List SampledValue → Option ℚ
  | total, [] => total
  | total, s :: samples =>
      if s.measurand ≠ some "Power.Active.Import" then sumPowerKw total samples
      else
        match number s.value with
        | .nan => sumPowerKw total samples
        | .fin n =>
            let kw := if toLowerCase (s.unit.getD "W") = "kw" then n else n / 1000
            sumPowerKw (some (total.getD 0 + kw)) samples

def extractPowerKw (samples : List SampledValue) : Option ℚ :=
  sumPowerKw number toLowerCase none samples

def isFinalSample (samples : List SampledValue) : Bool :=
  samples.any fun s => s.context = some "Transaction.End"

/-- What is published and what is enqueued, unless the answer is `invalid_body`. -/
def postMeterValues (now : String) (userMappingId : ℕ → Option ℕ) (body : MeterHookBody) :
    Option (TransactionMeter × MeterSample) :=
  match trimmed body.chargeBoxId, body.transactionPk with
  | some chargeBoxId, some transactionPk =>
      if body.samples = [] then none
      else
        let kwh := extractEnergyKwh number toLowerCase body.samples
        let ended := isFinalSample body.samples
        some
          ({ transactionId := transactionPk
             chargeBoxId := chargeBoxId
             kwh := kwh
             powerKw := extractPowerKw number toLowerCase body.samples
             connectorId := body.connectorId
             meterTimestamp := body.timestamp
             userMappingId := userMappingId transactionPk
             endedAt := if ended then some (body.timestamp.getD now) else none },
           { steveTransactionId := transactionPk
             chargeBoxId := chargeBoxId
             kwh := kwh
             isFinal := ended
             userMappingId := userMappingId transactionPk })
  | _, _ => none

/-! ## The mapping of a transaction

`resolveUserMappingId` asks StEvE for the id tag of a transaction and the database for the mapping
of the tag, and keeps the answer, and also that there is none, in a map that all requests share.
-/

/-- `MAPPING_CACHE_MAX` -/
def mappingCacheMax : ℕ := 1024

/-- What the look-up reads of a row of `user_mappings`. -/
structure TaggedMapping where
  id : ℕ
  steveOcppIdTag : String
deriving DecidableEq

inductive MappingPoint where
  | steveLookup
  | mappingLookup (idTag : String)
deriving DecidableEq

/-- A request that waits for its mapping. -/
structure MeterRequest where
  body : MeterHookBody
  transactionPk : ℕ
  point : MappingPoint

structure MeterHookWorld where
  now : String
  mappingCache : KeyedLog (Prod.fst : ℕ × Option ℕ → ℕ)
  userMappings : List TaggedMapping
  requests : List MeterRequest
  /-- What has been published and enqueued, in order. -/
  published : List (TransactionMeter × MeterSample)
  /-- The id tags that StEvE has reported for transactions. -/
  reported : List (ℕ × String)
  /-- The rows of `user_mappings` that look-ups have found. -/
  found : List TaggedMapping
  /-- The number of calls of `rememberMapping`. -/
  remembered : ℕ

inductive MeterHookAction where
  | posts (body : MeterHookBody)
  /-- The id tags of the transactions that StEvE returns; `none` when the request fails. -/
  | steveAnswers (i : ℕ) (txs : Option (List (Option String)))
  /-- The row that the query returns, if any; `none` when it fails. -/
  | queryAnswers (i : ℕ) (row : Option (Option TaggedMapping))
  /-- Other code writes the mappings, and time goes on. -/
  | mappingsWritten (userMappings : List TaggedMapping)
  | ticks (now : String)

namespace MeterHookWorld

/-- A new process. -/
def initial (now : String) (userMappings : List TaggedMapping) : MeterHookWorld :=
  ⟨now, .empty, userMappings, [], [], [], [], 0⟩

variable (w : MeterHookWorld)

def rememberMapping (transactionPk : ℕ) (mappingId : Option ℕ) : MeterHookWorld :=
  { w with
    mappingCache := w.mappingCache.remember mappingCacheMax (transactionPk, mappingId)
    remembered := w.remembered + 1 }

/-- The handler goes on with the mapping of the transaction. -/
def publish (body : MeterHookBody) (mappingId : Option ℕ) : MeterHookWorld :=
  { w with
    published :=
      w.published ++ (postMeterValues number toLowerCase w.now (fun _ => mappingId) body).toList }

def dropRequest (i : ℕ) : MeterHookWorld := { w with requests := w.requests.eraseIdx i }

/-- The statement `SELECT id … WHERE steve_ocpp_id_tag = … LIMIT 1` can return this. -/
def Selects (idTag : String) (row : Option TaggedMapping) : Prop :=
  match row with
  | some row => row ∈ w.userMappings ∧ row.steveOcppIdTag = idTag
  | none => ∀ row ∈ w.userMappings, row.steveOcppIdTag ≠ idTag

instance (idTag : String) (row : Option TaggedMapping) : Decidable (w.Selects idTag row) := by
  cases row <;> unfold Selects <;> infer_instance

def step : MeterHookAction → Option MeterHookWorld
  | .posts body =>
      match postMeterValues number toLowerCase w.now (fun _ => none) body with
      -- `invalid_body`
      | none => some w
      | some (event, _) =>
          match w.mappingCache.get? event.transactionId with
          | some entry => some (w.publish number toLowerCase body entry.2)
          | none =>
              some { w with requests := w.requests ++ [⟨body, event.transactionId, .steveLookup⟩] }
  | .steveAnswers i txs =>
      (w.requests[i]?).bind fun request =>
        if request.point ≠ .steveLookup then none
        else
          match txs with
          -- an outage is not remembered
          | none => some ((w.dropRequest i).publish number toLowerCase request.body none)
          | some txs =>
              let idTag := txs.head?.join
              if truthy idTag then
                some { w with
                  requests := w.requests.set i
                    { request with point := .mappingLookup (idTag.getD "") }
                  reported := w.reported ++ [(request.transactionPk, idTag.getD "")] }
              else
                some (((w.dropRequest i).rememberMapping request.transactionPk none).publish number
                  toLowerCase request.body none)
  | .queryAnswers i row =>
      (w.requests[i]?).bind fun request =>
        match request.point with
        | .steveLookup => none
        | .mappingLookup idTag =>
            match row with
            | none => some ((w.dropRequest i).publish number toLowerCase request.body none)
            | some row =>
                if w.Selects idTag row then
                  let mappingId := row.map TaggedMapping.id
                  some (({ w.dropRequest i with found := w.found ++ row.toList }.rememberMapping
                    request.transactionPk mappingId).publish number toLowerCase request.body
                    mappingId)
                else none
  | .mappingsWritten userMappings => some { w with userMappings := userMappings }
  | .ticks now => some { w with now := now }

end MeterHookWorld

end

end ExpresSync
