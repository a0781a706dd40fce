import ExpresSync.Foundation.JsNumber
import ExpresSync.Model.MappingResolver

/-!
# Tariffs of customers

`customer-tariff.ts` with `derivePlanInfo` of `billing-derive.ts`: the tiers of a customer's plan,
and what a stretch of consumption costs under them.  A field of a plan is of any type; texts are
read as numbers and written by functions of the run-time, which are arguments here.
-/

namespace ExpresSync

/-! ## Plans -/

/-- A field of a plan that may be anything. -/
inductive PlanValue where
  /-- `null`, or no field. -/
  | missing
  | number (value : ℚ)
  | string (text : String)
  | other
deriving DecidableEq

/-- A range of a charge. -/
structure PlanRange where
  fromValue : PlanValue
  toValue : PlanValue
  perUnitAmount : PlanValue
  flatAmount : PlanValue

/-- A charge with its `properties`; what is no array of ranges is empty. -/
structure PlanCharge where
  chargeModel : Option String
  amount : PlanValue
  graduatedRanges : List PlanRange
  volumeRanges : List PlanRange
  perPackageSize : PlanValue

structure LagoPlan where
  name : PlanValue
  code : PlanValue
  amountCents : PlanValue
  amountCurrency : Option String
  charges : List PlanCharge

structure PlanTier where
  /-- How many kWh the tier covers. -/
  upToKwh : Option ℚ
  pricePerKwh : Option ℚ
  label : String

structure PlanInfo where
  name : String
  currencySymbol : String
  monthlyCharge : Option ℚ
  perKwhCharge : Option ℚ
  tiers : List PlanTier
  consumedKwh : ℚ
  hardCapKwh : Option ℚ

/-- Functions of the run-time. -/
structure NumberTexts where
  /-- `NaN` for the infinities too. -/
  parseFloat : String → JsNumber
  /-- With two to four digits after the point. -/
  toLocaleString : JsNumber → String
  toUpperCase : String → String

section

variable (texts : NumberTexts)

def currencySymbolFor (code : String) : String :=
  match texts.toUpperCase code with
  | "EUR" => "€"
  | "USD" => "$"
  | "GBP" => "£"
  | _ => code ++ " "

namespace PlanValue

/-- A number, or a text that is read as one; `fallback` for anything else. -/
def toNumber (fallback : JsNumber) : PlanValue → JsNumber
  | number value => .fin value
  | string text => texts.parseFloat text
  | _ => fallback

/-- `a ?? b` -/
def orElse : PlanValue → PlanValue → PlanValue
  | missing, b => b
  | a, _ => a

end PlanValue

/-- A number that `Number.isFinite` accepts. -/
def finiteNumber : JsNumber → Option ℚ
  | .nan => none
  | .fin value => some value

namespace PlanRange

variable (r : PlanRange)

def perUnit : JsNumber :=
  ((r.perUnitAmount.orElse r.flatAmount).orElse (.string "0")).toNumber texts (.fin 0)

def upTo : Option ℚ :=
  (finiteNumber (r.toValue.toNumber texts .nan)).map fun toValue =>
    toValue - (r.fromValue.toNumber texts (.fin 0)).toRat

def tier (currencySymbol : String) : PlanTier where
  upToKwh := r.upTo texts
  pricePerKwh := finiteNumber (r.perUnit texts)
  label :=
    if r.perUnit texts = .fin 0 then "Free"
    else currencySymbol ++ texts.toLocaleString (r.perUnit texts) ++ "/kWh"

end PlanRange

/-- One round of the loop over the charges. -/
def PlanInfo.addCharge (info : PlanInfo) (charge : PlanCharge) : PlanInfo :=
  match charge.chargeModel with
  | some "standard" =>
      match finiteNumber (charge.amount.toNumber texts .nan) with
      | some rate => { info with perKwhCharge := some rate }
      | none => info
  | some "graduated" =>
      { info with
        tiers :=
          info.tiers ++ charge.graduatedRanges.map fun r => r.tier texts info.currencySymbol }
  | some "volume" =>
      { info with
        tiers := info.tiers ++ charge.volumeRanges.map fun r => r.tier texts info.currencySymbol }
  | some "package" =>
      match finiteNumber (charge.perPackageSize.toNumber texts .nan) with
      | some size => if 0 < size then { info with hardCapKwh := some size } else info
      | none => info
  | _ => info

/-- `derivePlanInfo`, for a plan. -/
def derivePlanInfo (plan : LagoPlan) (consumedKwh : ℚ) (currencySymbol : String) : PlanInfo :=
  let name :=
    match plan.name, plan.code with
    | .string name, .string code => if name ≠ "" then name else code
    | .string name, _ => if name ≠ "" then name else "Plan"
    | _, .string code => code
    | _, _ => "Plan"
  let monthlyCharge :=
    match plan.amountCents with
    | .number amountCents => some (amountCents / 100)
    | _ => none
  plan.charges.foldl (PlanInfo.addCharge texts)
    ⟨name, currencySymbol, monthlyCharge, none, [], consumedKwh, none⟩

/-! ## Tariffs -/

structure CustomerTariff where
  perKwh : Option ℚ
  tiers : List PlanTier
  currency : String
  currencySymbol : String

/-- `FALLBACK` -/
def CustomerTariff.fallback : CustomerTariff := ⟨none, [], "EUR", "€"⟩

/-- `resolveCustomerTariff`, with what Lago answers. -/
def resolveCustomerTariff (externalCustomerId : Option String)
    (getSubscriptions : SubscriptionsAnswer) (getPlan : String → Except String LagoPlan) :
    CustomerTariff :=
  if externalCustomerId.getD "" = "" then .fallback
  else
    match getSubscriptions with
    | .error _ => .fallback
    | .ok subscriptions =>
        match subscriptions.find? fun s => s.status = .active with
        | none => .fallback
        | some active =>
            if active.planCode = "" then .fallback
            else
              match getPlan active.planCode with
              | .error _ => .fallback
              | .ok plan =>
                  let currency := plan.amountCurrency.getD "EUR"
                  let symbol := currencySymbolFor texts currency
                  let planInfo := derivePlanInfo texts plan 0 symbol
                  ⟨planInfo.perKwhCharge, planInfo.tiers, currency, symbol⟩

end

/-! ## The cost of a stretch -/

inductive CostCoverage where
  | included
  | billed
  | unknown
deriving DecidableEq

structure SessionCostEstimate where
  cents : Option ℤ
  coverage : CostCoverage
deriving DecidableEq

/-- The variables of the walk over the tiers that it ends with. -/
structure CostWalk where
  cost : ℚ
  position : ℚ
  anyPaidOverlap : Bool

/-- The body of `if (position < tierEnd)`. -/
def CostWalk.take (walk : CostWalk) (tierStart overlapEnd rate : ℚ) : CostWalk :=
  let overlapStart := max walk.position tierStart
  let overlap := max 0 (overlapEnd - overlapStart)
  { cost := walk.cost + overlap * rate
    position := overlapEnd
    anyPaidOverlap := walk.anyPaidOverlap || (decide (0 < overlap) && decide (0 < rate)) }

/-- The loop over the tiers, up to `finish`.  A tier without an end takes all there is left, and the
loop is over. -/
def walkTiers (finish : ℚ) : List PlanTier → ℚ → CostWalk → CostWalk
  | [], _, walk => walk
  | t :: tiers, cursor, walk =>
      match t.upToKwh with
      | none => walk.take cursor finish (t.pricePerKwh.getD 0)
      | some size =>
          let tierEnd := cursor + size
          let walk :=
            if walk.position < tierEnd then
              walk.take cursor (min finish tierEnd) (t.pricePerKwh.getD 0)
            else walk
          if finish ≤ walk.position then walk else walkTiers finish tiers tierEnd walk

/-- What is left past the last tier. -/
def CostWalk.payRemainder (walk : CostWalk) (finish : ℚ) (perKwh : Option ℚ) : CostWalk :=
  match perKwh with
  | none => walk
  | some rate =>
      if walk.position < finish then
        { walk with
          cost := walk.cost + (finish - walk.position) * rate
          anyPaidOverlap := decide (0 < rate) || walk.anyPaidOverlap }
      else walk

def costCentsForRange (tariff : CustomerTariff) (fromKwh : ℚ) (sessionKwh : JsNumber) :
    SessionCostEstimate :=
  match sessionKwh with
  | .nan => ⟨some 0, .included⟩
  | .fin sessionKwh =>
      if sessionKwh ≤ 0 then ⟨some 0, .included⟩
      else if tariff.tiers = [] then
        match tariff.perKwh with
        | none => ⟨none, .unknown⟩
        | some perKwh =>
            if perKwh = 0 then ⟨some 0, .included⟩
            else ⟨some (mathRound (sessionKwh * perKwh * 100)), .billed⟩
      else
        let finish := fromKwh + sessionKwh
        let walk := (walkTiers finish tariff.tiers 0 ⟨0, fromKwh, false⟩).payRemainder finish
          tariff.perKwh
        ⟨some (mathRound (walk.cost * 100)),
          if walk.anyPaidOverlap then .billed else .included⟩

/-! ## Events -/

/-- What is read of a row of `synced_transaction_events`. -/
structure BilledEvent where
  id : ℕ
  syncedAtMs : ℤ
  kwh : JsNumber
deriving DecidableEq

/-- The loop of `buildCumulativeMap`, with `running`: what is set, in order. -/
def cumulate : ℚ → List BilledEvent → List (ℕ × ℚ)
  | _, [] => []
  | running, r :: rows => (r.id, running) :: cumulate (running + r.kwh.toRat) rows

/-- `map.get`: what has been set last. -/
def mapGet (entries : List (ℕ × ℚ)) (id : ℕ) : Option ℚ :=
  ((entries.filter fun entry => decide (entry.1 = id)).getLast?).map Prod.snd

/-- `buildCumulativeMap`; the sort of arrays is stable. -/
def buildCumulativeMap (rows : List BilledEvent) : List (ℕ × ℚ) :=
  cumulate 0 (rows.mergeSort fun a b => decide (a.syncedAtMs ≤ b.syncedAtMs))

def estimateEventCost (tariff : CustomerTariff) (event : BilledEvent)
    (cumulativeInPeriod : List (ℕ × ℚ)) (periodFromMs periodToMs : ℤ) : SessionCostEstimate :=
  if tariff.tiers = [] then costCentsForRange tariff 0 event.kwh
  else if periodFromMs ≤ event.syncedAtMs ∧ event.syncedAtMs < periodToMs then
    costCentsForRange tariff ((mapGet cumulativeInPeriod event.id).getD 0) event.kwh
  else ⟨none, .unknown⟩

end ExpresSync
