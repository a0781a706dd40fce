import ExpresSync.Model.Types
import ExpresSync.Model.LagoCache

/-!
# Fees of invoices

`upsertInvoice` of `lago-reconcile/invoices.ts` with the table of fees that it keeps beside the
invoices.  The statements of one call are not in a transaction: a call that throws leaves what the
statements before have written.
-/

namespace ExpresSync

namespace JsonValue

/-- As it is printed. -/
def asNumber? : JsonValue → Option String
  | number text => some text
  | _ => none

def pickStr (obj : JsonValue) (key : String) : Option String := (obj.get? key).bind asString?

def pickNum (obj : JsonValue) (key : String) : Option String := (obj.get? key).bind asNumber?

end JsonValue

/-- An invoice as webhooks and detail requests have it; lists come without `fees`. -/
structure LagoInvoiceExtended extends LagoInvoicePayload where
  fees : Option (List JsonValue)

/-- A row of `lago_fees`. -/
structure LagoFeeRow where
  lagoId : String
  invoiceLagoId : Option String
  externalSubscriptionId : Option String
  itemCode : Option String
  itemName : Option String
  units : Option String
  amountCents : Option String
  currency : Option String
  payload : JsonValue
  syncedAt : ℕ
  deletedAt : Option ℕ

abbrev LagoFeeTable := KeyedLog LagoFeeRow.lagoId

/-- `f.item ?? {}` -/
def feeItem (f : JsonValue) : JsonValue :=
  match f.get? "item" with
  | none | some .null => .object []
  | some item => item

def feeRow (invoiceLagoId lagoId : String) (f : JsonValue) (now : ℕ) : LagoFeeRow where
  lagoId := lagoId
  invoiceLagoId := some invoiceLagoId
  externalSubscriptionId := f.pickStr "external_subscription_id"
  itemCode := (feeItem f).pickStr "code"
  itemName := (feeItem f).pickStr "name"
  units := f.pickStr "units"
  amountCents := f.pickNum "amount_cents"
  currency := f.pickStr "amount_currency"
  payload := f
  syncedAt := now
  deletedAt := none

/-- The string under `lago_id`, unless it is empty. -/
def feeLagoId (f : JsonValue) : Option String :=
  match f.pickStr "lago_id" with
  | none => none
  | some lagoId => if lagoId = "" then none else some lagoId

namespace LagoFeeTable

/-- The ids that the `SELECT` of active fees of an invoice returns. -/
def activeFeeIds (table : LagoFeeTable) (invoiceLagoId : String) : List String :=
  (table.entries.filter fun row =>
    row.invoiceLagoId = some invoiceLagoId ∧ row.deletedAt.isNone).map LagoFeeRow.lagoId

/-- `UPDATE … SET deleted_at = now WHERE lago_id IN (…)` -/
def softDelete (table : LagoFeeTable) (ids : List String) (now : ℕ) : LagoFeeTable :=
  table.map (fun row => if row.lagoId ∈ ids then { row with deletedAt := some now } else row)
    fun row => by split <;> rfl

end LagoFeeTable

/-- Which statements of a call get through. -/
structure InvoiceStatements where
  invoice : Bool
  /-- The upsert of a fee, by its place in the array. -/
  fee : ℕ → Bool
  select : Bool
  softDelete : Bool

/-- The loop over `fees`, from a place on, with the table and `freshFeeIds` so far.  An error has
the table as it is left. -/
def upsertFeeRows (invoiceLagoId : String) (now : ℕ) (succeeds : ℕ → Bool) :
    LagoFeeTable → List String → ℕ → List JsonValue →
      Except LagoFeeTable (LagoFeeTable × List String)
  | table, freshFeeIds, _, [] => .ok (table, freshFeeIds)
  -- a property of `null` is read
  | table, _, _, .null :: _ => .error table
  | table, freshFeeIds, place, f :: fees =>
      match feeLagoId f with
      | none => upsertFeeRows invoiceLagoId now succeeds table freshFeeIds (place + 1) fees
      | some lagoId =>
          if succeeds place then
            upsertFeeRows invoiceLagoId now succeeds
              (table.upsert (feeRow invoiceLagoId lagoId f now)) (freshFeeIds ++ [lagoId])
              (place + 1) fees
          else .error table

def upsertInvoiceFees (statements : InvoiceStatements) (now : ℕ) (table : LagoFeeTable)
    (invoiceLagoId : String) (fees : List JsonValue) : Except LagoFeeTable LagoFeeTable :=
  match upsertFeeRows invoiceLagoId now statements.fee table [] 0 fees with
  | .error table => .error table
  | .ok (table, freshFeeIds) =>
      if !statements.select then .error table
      else
        let orphanFeeIds := findOrphans freshFeeIds (table.activeFeeIds invoiceLagoId)
        if orphanFeeIds = [] then .ok table
        else if statements.softDelete then .ok (table.softDelete orphanFeeIds now)
        else .error table

/-- The tables of invoices and of fees. -/
structure InvoiceCache (parseDate : String → Option ℕ) where
  invoices : CacheTable (invoiceKind parseDate)
  fees : LagoFeeTable

/-- `upsertInvoice` with its fees; the number of the change is that of `LagoCache`. -/
def InvoiceCache.upsertInvoice {parseDate : String → Option ℕ} (statements : InvoiceStatements)
    (now version : ℕ) (cache : InvoiceCache parseDate) (inv : LagoInvoiceExtended) :
    Except (InvoiceCache parseDate) (InvoiceCache parseDate) :=
  match
    if statements.invoice then
      ExpresSync.upsertInvoice parseDate cache.invoices inv.toLagoInvoicePayload version now
    else none
  with
  | none => .error cache
  | some invoices =>
      match inv.fees with
      | none | some [] => .ok { cache with invoices := invoices }
      | some (f :: fees) =>
          match upsertInvoiceFees statements now cache.fees inv.lagoId (f :: fees) with
          | .error table => .error ⟨invoices, table⟩
          | .ok table => .ok ⟨invoices, table⟩

end ExpresSync
