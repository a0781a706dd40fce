import ExpresSync.Foundation.JsNumber
import ExpresSync.Foundation.KeyedLog
import Mathlib.Data.List.TakeWhile

/-!
# The records the billing paths exchange

StEvE transactions and tags, user mappings, Lago subscriptions and events, and the two tables
`transaction_sync_state` and `synced_transaction_events`.  Only the columns that some modelled
function reads or writes are kept.

Timestamps are epoch milliseconds.  Meter values of StEvE arrive as strings and are parsed where
the source parses them.  The identifiers under which events are sent to Lago are strings built
from a fixed set of templates; they are an inductive type here, and
`LagoEventTransactionId.render_injective` shows that two of them are equal exactly when the
strings are.
-/

namespace ExpresSync

/-! ## Truthiness -/

/-- A nullable string in a condition: `null` and the empty string are false. -/
def truthy : Option String → Bool
  | none => false
  | some s => s != ""

@[simp] lemma truthy_none : truthy none = false := rfl

lemma exists_of_truthy {s : Option String} (h : truthy s = true) : ∃ t, s = some t := by
  cases s with
  | none => simp at h
  | some t => exact ⟨t, rfl⟩

/-! ## StEvE -/

/-- A transaction as StEvE's REST API returns it. -/
structure StEvETransaction where
  id : ℕ
  chargeBoxId : String
  connectorId : ℕ
  ocppIdTag : String
  startTimestamp : ℕ
  /-- Wh, as a string. -/
  startValue : String
  /-- `none` while the transaction is active. -/
  stopTimestamp : Option ℕ
  stopValue : Option String
deriving DecidableEq

/-- An OCPP tag of StEvE. -/
structure StEvEOcppTag where
  idTag : String
  ocppTagPk : ℕ
  note : Option String
  parentIdTag : Option String
  expiryDate : Option String
  /-- `-1` is unlimited, `0` is blocked. -/
  maxActiveTransactionCount : Option ℤ
  inTransaction : Option Bool
deriving DecidableEq

/-- The digits at the head of a string, most significant first. -/
def leadingDigits (s : List Char) : List Char := s.takeWhile Char.isDigit

/-- The value of a string of decimal digits. -/
def digitsValue (s : List Char) : ℕ := s.foldl (fun n c => 10 * n + (c.toNat - '0'.toNat)) 0

/-- The number read off the head of an unsigned string, `none` when it does not start with a
digit. -/
def parseUnsigned (s : List Char) : Option ℕ :=
  if (leadingDigits s).isEmpty then none else some (digitsValue (leadingDigits s))

/-- White space and line terminators of ECMAScript. -/
def isStrWhiteSpace (c : Char) : Bool :=
  [0x09, 0x0A, 0x0B, 0x0C, 0x0D, 0x20, 0xA0, 0x1680, 0x2028, 0x2029, 0x202F, 0x205F, 0x3000,
    0xFEFF].contains c.toNat || (0x2000 ≤ c.toNat && c.toNat ≤ 0x200A)

/-- `s.trim()`. -/
def trimChars (s : List Char) : List Char :=
  ((s.dropWhile isStrWhiteSpace).reverse.dropWhile isStrWhiteSpace).reverse

/-- `trimChars` of a string. -/
def trim (s : String) : String := String.ofList (trimChars s.toList)

/-- `parseInt(s, 10)`: leading white space and one sign are skipped and everything after the
digits is ignored; `none` stands for `NaN`. -/
def parseInt (s : String) : Option ℤ :=
  match s.toList.dropWhile isStrWhiteSpace with
  | '-' :: rest => (parseUnsigned rest).map fun n => -(n : ℤ)
  | '+' :: rest => (parseUnsigned rest).map fun n => (n : ℤ)
  | rest => (parseUnsigned rest).map fun n => (n : ℤ)

example : parseInt "1500" = some 1500 := by decide +kernel
example : parseInt " -20Wh" = some (-20) := by decide +kernel
example : parseInt "Wh" = none := by decide +kernel

/-- The meter value StEvE reports for the start of a transaction. -/
def StEvETransaction.startMeter (tx : StEvETransaction) : Option ℤ := parseInt tx.startValue

/-- The meter value StEvE reports for its end; a missing value does not parse either. -/
def StEvETransaction.stopMeter (tx : StEvETransaction) : Option ℤ := tx.stopValue.bind parseInt

/-! ## Mappings and subscriptions -/

/-- `TAG_TYPES`. -/
inductive TagType where
  | evCard
  | keytag
  | app
  | metaTag
deriving DecidableEq

/-- A row of `user_mappings`. -/
structure UserMapping where
  id : ℕ
  steveOcppTagPk : ℕ
  steveOcppIdTag : String
  lagoCustomerExternalId : Option String
  lagoSubscriptionExternalId : Option String
  displayName : Option String
  tagType : TagType
  isActive : Bool
  /-- The mirror of StEvE's `parent_id_tag`. -/
  steveParentIdTag : Option String
  /-- The mirror of StEvE's `expiry_date`. -/
  steveExpiryDate : Option String
  userId : Option String
deriving DecidableEq

inductive SubscriptionStatus where
  | active
  | pending
  | terminated
  | canceled
deriving DecidableEq

/-- A subscription as Lago lists it. -/
structure LagoSubscription where
  externalId : String
  planCode : String
  status : SubscriptionStatus
deriving DecidableEq

/-- `NON_USAGE_PLAN_CODES`, the flat-rate plans; both billing paths hold the same set. -/
def nonUsagePlanCodes : List String := ["ExpressChargeM"]

/-- `planCode && NON_USAGE_PLAN_CODES.has(planCode)`. -/
def isNonUsagePlan : Option String → Bool
  | none => false
  | some code => nonUsagePlanCodes.contains code

/-! ## Lago events -/

/-- The identifiers events are sent under. -/
inductive LagoEventTransactionId where
  /-- `steve_tx_<id>_<unix-seconds>`: a flush of the incremental emitter. -/
  | incremental (steveTransactionId unixSeconds : ℕ)
  /-- `steve_tx_<id>_final`: the true-up after the transaction. -/
  | final (steveTransactionId : ℕ)
  /-- `steve_tx_<id>_final_noop`: nothing left to bill; never sent. -/
  | finalNoop (steveTransactionId : ℕ)
deriving DecidableEq

namespace LagoEventTransactionId

/-- The transaction an event belongs to. -/
def steveTransactionId : LagoEventTransactionId → ℕ
  | incremental id _ => id
  | final id => id
  | finalNoop id => id

/-- What follows the transaction's number in the identifier. -/
def suffix : LagoEventTransactionId → String
  | incremental _ seconds => "_" ++ Nat.repr seconds
  | final _ => "_final"
  | finalNoop _ => "_final_noop"

/-- The identifier as it goes over the wire. -/
def render (key : LagoEventTransactionId) : String :=
  "steve_tx_" ++ Nat.repr key.steveTransactionId ++ key.suffix

private lemma isDigit_repr {n : ℕ} {c : Char} (hc : c ∈ (Nat.repr n).toList) :
    c.isDigit = true := by
  rw [Nat.toList_repr] at hc
  exact Nat.isDigit_of_mem_toDigits (by norm_num) (by norm_num) hc

private lemma repr_injective {m n : ℕ} (h : (Nat.repr m).toList = (Nat.repr n).toList) :
    m = n := by
  rw [Nat.toList_repr, Nat.toList_repr] at h
  calc m = Nat.ofDigitChars 10 (Nat.toDigits 10 m) 0 :=
        (Nat.ofDigitChars_toDigits (by norm_num) (by norm_num)).symm
    _ = Nat.ofDigitChars 10 (Nat.toDigits 10 n) 0 := by rw [h]
    _ = n := Nat.ofDigitChars_toDigits (by norm_num) (by norm_num)

private lemma takeWhile_digits {digits rest : List Char} (hd : ∀ c ∈ digits, c.isDigit = true)
    (hr : ∃ tail, rest = '_' :: tail) :
    (digits ++ rest).takeWhile Char.isDigit = digits := by
  obtain ⟨tail, rfl⟩ := hr
  rw [List.takeWhile_append_of_pos hd]
  simp

private lemma suffix_underscore (key : LagoEventTransactionId) :
    ∃ tail, key.suffix.toList = '_' :: tail := by
  cases key with
  | incremental id seconds => exact ⟨(Nat.repr seconds).toList, by simp [suffix]⟩
  | final id => exact ⟨"final".toList, by simp [suffix]⟩
  | finalNoop id => exact ⟨"final_noop".toList, by simp [suffix]⟩

private lemma suffix_inj {a b : LagoEventTransactionId}
    (hid : a.steveTransactionId = b.steveTransactionId)
    (h : a.suffix.toList = b.suffix.toList) : a = b := by
  -- A decimal numeral starts with a digit, the two fixed suffixes with `f`.
  have hdigit : ∀ (n : ℕ) (tail : List Char), (Nat.repr n).toList ≠ 'f' :: tail :=
    fun n tail hc => by
    have hf : Char.isDigit 'f' = true :=
      isDigit_repr (n := n) (by rw [hc]; exact List.mem_cons_self)
    exact absurd hf (by decide)
  cases a <;> cases b <;> simp only [steveTransactionId] at hid <;> subst hid
  case incremental.incremental id s s' =>
    have hs : (Nat.repr s).toList = (Nat.repr s').toList := by simpa [suffix] using h
    rw [repr_injective hs]
  case incremental.final id s =>
    exact absurd (by simpa [suffix] using h) (hdigit s _)
  case incremental.finalNoop id s =>
    exact absurd (by simpa [suffix] using h) (hdigit s _)
  case final.incremental id s =>
    exact absurd (by simpa [suffix] using h.symm) (hdigit s _)
  case finalNoop.incremental id s =>
    exact absurd (by simpa [suffix] using h.symm) (hdigit s _)
  case final.finalNoop id => simp [suffix] at h
  case finalNoop.final id => simp [suffix] at h
  case final.final id => rfl
  case finalNoop.finalNoop id => rfl

/-- The templates never produce the same string twice. -/
theorem render_injective {a b : LagoEventTransactionId} (h : a.render = b.render) : a = b := by
  have htail : (Nat.repr a.steveTransactionId).toList ++ a.suffix.toList =
      (Nat.repr b.steveTransactionId).toList ++ b.suffix.toList := by
    have := congrArg String.toList h
    simpa [render, String.toList_append] using this
  have hdigits :
      (Nat.repr a.steveTransactionId).toList = (Nat.repr b.steveTransactionId).toList := by
    have ha := takeWhile_digits (fun c hc => isDigit_repr (n := a.steveTransactionId) hc)
      a.suffix_underscore
    have hb := takeWhile_digits (fun c hc => isDigit_repr (n := b.steveTransactionId) hc)
      b.suffix_underscore
    rw [← ha, ← hb, htail]
  rw [hdigits] at htail
  exact suffix_inj (repr_injective hdigits) (List.append_cancel_left htail)

end LagoEventTransactionId

/-- The properties a sync event carries when `SAFE_ENRICHMENT` is on. -/
structure SessionEnrichment where
  connectorId : ℕ
  sessionDurationMinutes : ℤ
  startTimestamp : ℕ
  stopTimestamp : Option ℕ
deriving DecidableEq

/-- The properties of an event.  `value` is the billed quantity (`LAGO_METRIC_FIELD_NAME`), `kwh`
its alias; both are the decimal number written by `toFixed(3)`. -/
structure LagoEventProperties where
  value : JsNumber
  kwh : JsNumber
  chargerId : Option String
  session : Option SessionEnrichment
deriving DecidableEq

/-- An event as it is posted to Lago. -/
structure LagoEvent where
  transactionId : LagoEventTransactionId
  externalSubscriptionId : String
  code : String
  /-- Unix seconds. -/
  timestamp : ℕ
  properties : LagoEventProperties
deriving DecidableEq

/-- The events Lago has accepted; Lago deduplicates by `transaction_id`. -/
abbrev LagoEvents := KeyedLog LagoEvent.transactionId

/-- The kWh of all events accepted for one StEvE transaction. -/
def billedKwh (lago : LagoEvents) (steveTransactionId : ℕ) : ℚ :=
  lago.total (fun key => key.steveTransactionId == steveTransactionId)
    fun event => event.properties.value.toRat

/-- `config.LAGO_METRIC_CODE`, at its default. -/
def lagoMetricCode : String := "ev_charging_kwh"

end ExpresSync

/-!
# JSON values

What `JSON.parse` returns, and what the source asks of it.
-/

namespace ExpresSync

inductive JsonValue where
  | null
  | bool (b : Bool)
  /-- As it is printed. -/
  | number (text : String)
  | string (s : String)
  | array (elements : List JsonValue)
  | object (fields : List (String × JsonValue))

namespace JsonValue

/-- `value[key]` for a key that no prototype has but `__proto__`. -/
def get? (key : String) : JsonValue → Option JsonValue
  | object fields =>
      match fields.find? fun field => decide (field.1 = key) with
      | some field => some field.2
      -- the prototype of objects, which has no field that is looked for
      | none => if key = "__proto__" then some (object []) else none
  | _ => none

def asString? : JsonValue → Option String
  | string s => some s
  | _ => none

/-- An object that is no array. -/
def asObject? : JsonValue → Option JsonValue
  | object fields => some (object fields)
  | _ => none

/-- `typeof value === "object"` -/
def isTypeofObject : JsonValue → Bool
  | null | array _ | object _ => true
  | _ => false

end JsonValue

end ExpresSync
