import ExpresSync.Foundation.CommaSeparated
import ExpresSync.Model.Types

/-!
# The export of invoices

`GET /api/invoice/export.csv`, from the statuses of the query to the text of the body, and what it
uses of `invoice-ui.ts`.  Lago is asked for one page after the other; what it answers to the request
for a page is a parameter.
-/

namespace ExpresSync

/-! ## Invoices -/

structure InvoiceCustomer where
  externalId : Option String
  name : Option String
deriving DecidableEq

/-- `LagoInvoiceExtended`, as far as it is exported. -/
structure LagoInvoice where
  lagoId : String
  number : String
  status : String
  paymentStatus : String
  currency : String
  totalAmountCents : ℤ
  issuingDate : String
  paymentDueDate : Option String
  paymentOverdue : Option Bool
  customer : Option InvoiceCustomer
  /-- The external ids of the subscriptions. -/
  subscriptions : Option (List (Option String))
  invoiceType : String
deriving DecidableEq

inductive InvoiceUiStatus where
  | draft
  | finalized
  | paid
  | pending
  | failed
  | overdue
  | voided
deriving DecidableEq

def InvoiceUiStatus.text : InvoiceUiStatus → String
  | draft => "draft"
  | finalized => "finalized"
  | paid => "paid"
  | pending => "pending"
  | failed => "failed"
  | overdue => "overdue"
  | voided => "voided"

def deriveInvoiceUiStatus (status paymentStatus : String) (paymentOverdue : Option Bool) :
    InvoiceUiStatus :=
  if status = "draft" then .draft
  else if status = "voided" then .voided
  else if status = "failed" then .failed
  else if status = "pending" then .pending
  else if paymentStatus = "succeeded" then .paid
  else if paymentStatus = "failed" then .failed
  else if paymentOverdue = some true then .overdue
  else .finalized

namespace LagoInvoice

variable (inv : LagoInvoice)

def uiStatus : InvoiceUiStatus :=
  deriveInvoiceUiStatus inv.status inv.paymentStatus inv.paymentOverdue

/-- `extractInvoiceSubscription`; an empty id is falsy. -/
def subscription : Option String :=
  ((inv.subscriptions.bind List.head?).join).filter (· ≠ "")

/-- The fields of a row. -/
def row : List String :=
  [inv.lagoId, inv.number, inv.status, inv.paymentStatus, inv.uiStatus.text, inv.currency,
    toString inv.totalAmountCents, inv.issuingDate, inv.paymentDueDate.getD "",
    if inv.paymentOverdue = some true then "true" else "false",
    (inv.customer.bind InvoiceCustomer.externalId).getD "",
    (inv.customer.bind InvoiceCustomer.name).getD "", inv.subscription.getD "", inv.invoiceType]

end LagoInvoice

/-! ## The query -/

/-- The statuses that Lago's invoices can have. -/
def lagoInvoiceStatuses : List String := ["draft", "finalized", "voided", "failed", "pending"]

/-- What Lago is asked for, beside dates, customer and search term. -/
structure InvoiceQuery where
  status : List String
  paymentStatus : List String
  paymentOverdue : Option Bool
deriving DecidableEq

namespace InvoiceQuery

def addStatus (q : InvoiceQuery) (status : String) : InvoiceQuery :=
  if status ∈ q.status then q else { q with status := q.status ++ [status] }

def addPaymentStatus (q : InvoiceQuery) (status : String) : InvoiceQuery :=
  if status ∈ q.paymentStatus then q else { q with paymentStatus := q.paymentStatus ++ [status] }

/-- The turn of the loop for one status of the query string. -/
def addFilter (q : InvoiceQuery) (s : String) : InvoiceQuery :=
  if s ∈ lagoInvoiceStatuses then q.addStatus s
  else if s = "paid" then (q.addStatus "finalized").addPaymentStatus "succeeded"
  else if s = "overdue" then q.addStatus "finalized"
  else q

/-- What is sent for the statuses of the query string. -/
def ofFilter (statusFilter : List String) : InvoiceQuery :=
  { statusFilter.foldl addFilter ⟨[], [], none⟩ with
    paymentOverdue := if "overdue" ∈ statusFilter then some true else none }

end InvoiceQuery

/-! ## The body -/

def exportHeader : List String :=
  ["id", "number", "status", "payment_status", "ui_status", "currency", "total_cents",
    "issuing_date", "payment_due_date", "payment_overdue", "external_customer_id", "customer_name",
    "external_subscription_id", "invoice_type"]

/-- The row is left out unless its status is one of those asked for. -/
def isExported (statusFilter : List String) (inv : LagoInvoice) : Bool :=
  statusFilter.isEmpty || statusFilter.contains inv.uiStatus.text

/-- `row.map(csvEscape).join(",") + "\n"` -/
def csvLine (row : List String) : List Char := CommaSeparated.line (row.map String.toList)

/-- The last line break of a row of them becomes a blank, the others go. -/
def oneLine : List Char → List Char
  | [] => []
  | c :: cs =>
      if c ≠ '\r' ∧ c ≠ '\n' then c :: oneLine cs
      else if cs.head? = some '\r' ∨ cs.head? = some '\n' then oneLine cs
      else ' ' :: oneLine cs

def errorLine (message : String) : List Char :=
  "# error: ".toList ++ oneLine message.toList ++ ['\n']

/-- A page, and `meta.total_pages`. -/
structure InvoicePage where
  invoices : List LagoInvoice
  totalPages : ℕ
deriving DecidableEq

/-- What is enqueued from the request for `page` on; `none` when the fuel does not last. -/
def exportPages (listInvoices : ℕ → Except String InvoicePage) (statusFilter : List String) :
    ℕ → ℕ → Option (List Char)
  | 0, _ => none
  | fuel + 1, page =>
      match listInvoices page with
      | .error message => some (errorLine message)
      | .ok answer =>
          let rows := (answer.invoices.filter (isExported statusFilter)).flatMap fun inv =>
            csvLine inv.row
          if answer.totalPages ≤ page ∨ answer.invoices = [] then some rows
          else (exportPages listInvoices statusFilter fuel (page + 1)).map (rows ++ ·)

/-- The body of the response. -/
def exportCsv (listInvoices : ℕ → Except String InvoicePage) (statusFilter : List String)
    (fuel : ℕ) : Option (List Char) :=
  (exportPages listInvoices statusFilter fuel 1).map
    ([','].intercalate (exportHeader.map String.toList) ++ '\n' :: ·)

end ExpresSync
