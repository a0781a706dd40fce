import ExpresSync.Foundation.KeyedLog
import ExpresSync.Model.Types

/-!
# Device logs

A sync request may carry log records of the device.  The route writes them to `device_logs` one by
one, under the device and the record's number, and acknowledges one number; the device then drops
what it has up to that number.

`J` is the JSON values that attributes hold beside strings and numbers.
-/

namespace ExpresSync

/-- The value of a digit. -/
def digitOf (base : ℕ) (c : Char) : Option ℕ :=
  let value :=
    if c.isDigit then c.toNat - '0'.toNat
    else if c.isLower then c.toNat - 'a'.toNat + 10
    else if c.isUpper then c.toNat - 'A'.toNat + 10
    else base
  if value < base then some value else none

/-- The number that a list of digits stands for; there is at least one. -/
def parseDigits (base : ℕ) : List Char → Option ℕ
  | [] => none
  | c :: cs => (c :: cs).foldlM (fun n c => (digitOf base c).map fun d => base * n + d) 0

/-- `BigInt(s)`; `none` stands for the `SyntaxError`. -/
def parseBigInt (s : String) : Option ℤ :=
  match trimChars s.toList with
  | [] => some 0
  | '0' :: 'x' :: digits | '0' :: 'X' :: digits => (parseDigits 16 digits).map Int.ofNat
  | '0' :: 'o' :: digits | '0' :: 'O' :: digits => (parseDigits 8 digits).map Int.ofNat
  | '0' :: 'b' :: digits | '0' :: 'B' :: digits => (parseDigits 2 digits).map Int.ofNat
  | '-' :: digits => (parseDigits 10 digits).map fun n => -(n : ℤ)
  | '+' :: digits => (parseDigits 10 digits).map Int.ofNat
  | digits => (parseDigits 10 digits).map Int.ofNat

example : parseBigInt " 18446744073709551615 " = some 18446744073709551615 := by decide +kernel
example : parseBigInt "0x1f" = some 31 := by decide +kernel
example : parseBigInt "1.5" = none := by decide +kernel

section

variable (J : Type*)

inductive AttributeValue where
  | string (s : String)
  /-- A number that is not finite counts as `NaN`. -/
  | number (x : JsNumber)
  | other (json : J)
deriving DecidableEq

/-- A log record after `otelLogRecordSchema`. -/
structure OTelLogRecord where
  /-- Nanoseconds -/
  timestamp : ℤ
  severityText : String
  severityNumber : ℕ
  body : String
  attributes : List (String × AttributeValue J)
  resource : List (String × AttributeValue J)
  traceId : Option String
  spanId : Option String
deriving DecidableEq

/-- A row of `device_logs`. -/
structure DeviceLog where
  deviceId : String
  seq : ℤ
  timestampNs : ℤ
  severityText : String
  severityNumber : ℕ
  body : String
  category : Option String
  traceId : Option String
  spanId : Option String
  attributes : List (String × AttributeValue J)
  resource : List (String × AttributeValue J)
deriving DecidableEq

end

variable {J : Type*}

/-- The primary key. -/
def DeviceLog.id (row : DeviceLog J) : String × ℤ := (row.deviceId, row.seq)

/-- The table `device_logs`. -/
abbrev LogTable (J : Type*) := KeyedLog (DeviceLog.id (J := J))

def OTelLogRecord.attribute (record : OTelLogRecord J) (name : String) :
    Option (AttributeValue J) :=
  (record.attributes.find? fun entry => entry.1 = name).map Prod.snd

def extractSeq (record : OTelLogRecord J) : Option ℤ :=
  match record.attribute "expressync.seq" with
  | some (.string s) => parseBigInt s
  | some (.number (.fin x)) => some (x.num.tdiv x.den)
  | _ => none

def extractCategory (record : OTelLogRecord J) : Option String :=
  match record.attribute "category" with
  | some (.string s) => some s
  | _ => none

def clampLogTimestampNs (ns nowMs : ℤ) : ℤ :=
  let ceilingNs := nowMs * 1000000 + 5000000000
  if ns > ceilingNs then ceilingNs else ns

/-- The row of a record; the schema has no longer body than is stored. -/
def OTelLogRecord.row (record : OTelLogRecord J) (deviceId : String) (seq nowMs : ℤ) :
    DeviceLog J where
  deviceId := deviceId
  seq := seq
  timestampNs := clampLogTimestampNs record.timestamp nowMs
  severityText := record.severityText
  severityNumber := record.severityNumber
  body := record.body
  category := extractCategory record
  traceId := record.traceId
  spanId := record.spanId
  attributes := record.attributes
  resource := record.resource

/-- The number fits into `numeric(20,0)` and the timestamp into `bigint`. -/
def DeviceLog.fits (row : DeviceLog J) : Bool :=
  decide (row.seq.natAbs < 10 ^ 20) && decide (-2 ^ 63 ≤ row.timestampNs) &&
    decide (row.timestampNs < 2 ^ 63)

/-- What the loop over the records has done. -/
structure LogIngest (J : Type*) where
  table : LogTable J
  logsAckedSeq : Option ℤ
  logsDroppedDuplicates : ℕ
  /-- `newlyInsertedRecords`, published after the loop. -/
  newlyInserted : List (DeviceLog J)

/-- A number is acknowledged when it is greater than those before. -/
def ackSeq (acked : Option ℤ) (seq : ℤ) : Option ℤ :=
  match acked with
  | none => some seq
  | some logsAckedSeq => if seq > logsAckedSeq then some seq else some logsAckedSeq

/-- One record; `fails` when its statement throws for another reason than its values. -/
def LogIngest.insertRecord (deviceId : String) (nowMs : ℤ) (ingest : LogIngest J)
    (record : OTelLogRecord J × Bool) : LogIngest J :=
  let (record, fails) := record
  match extractSeq record with
  | none => ingest
  | some seq =>
      let row := record.row deviceId seq nowMs
      if fails || !row.fits then ingest
      else if ingest.table.Has row.id then
        { ingest with
          logsDroppedDuplicates := ingest.logsDroppedDuplicates + 1
          logsAckedSeq := ackSeq ingest.logsAckedSeq seq }
      else
        { ingest with
          table := ingest.table.record row
          logsAckedSeq := ackSeq ingest.logsAckedSeq seq
          newlyInserted := ingest.newlyInserted ++ [row] }

/-- The loop over the records of a request, each with whether its statement throws. -/
def ingestLogs (deviceId : String) (nowMs : ℤ) (table : LogTable J)
    (logs : List (OTelLogRecord J × Bool)) : LogIngest J :=
  logs.foldl (LogIngest.insertRecord deviceId nowMs) ⟨table, none, 0, []⟩

end ExpresSync
