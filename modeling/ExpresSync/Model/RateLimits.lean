import ExpresSync.Foundation.KeyedLog
import ExpresSync.Model.CustomerAccounts
import ExpresSync.Model.ScanLogin

/-!
# Rate limits

`checkRateLimit` of `rate-limit.ts` with its table, the job of `sync-worker.ts` that clears it, and
the two routes that mail a link to an address anybody may name: `magic-link/preflight.ts` and
`admin/forgot-password.ts`, from the point at which a body is accepted and has its address in lower
case.  Several processes share the table, each with a clock of its own, and a statement reaches the
database some time after the clock has been read for it.  `checkRateLimit` of `Model.ScanLogin` is
the counter that all this stands for.
-/

namespace ExpresSync

/-! ## The table -/

/-- The start of the window of a moment. -/
def windowStart (now : ℕ) : ℕ := now / rateLimitWindowMs * rateLimitWindowMs

/-- A row of `rate_limits`. -/
structure RateLimitRow where
  key : String
  windowStart : ℕ
  count : ℕ
  updatedAt : ℕ
deriving DecidableEq

/-- The columns of `rate_limits_key_window_start_unique`. -/
def RateLimitRow.bucket (row : RateLimitRow) : String × ℕ := (row.key, row.windowStart)

abbrev RateLimitTable := KeyedLog RateLimitRow.bucket

/-- The largest `integer` of the database. -/
def maxInteger : ℕ := 2147483647

namespace RateLimitTable

variable (table : RateLimitTable)

/-- The row that the statement of `checkRateLimit` leaves: `updated_at` is the database's `now()` in
a new row, and the process's date in one that is there.  It fails where the count does not fit. -/
def counted (key : String) (clock now : ℕ) : Option RateLimitRow :=
  match table.get? (key, windowStart clock) with
  | none => some ⟨key, windowStart clock, 1, now⟩
  | some row =>
      if row.count < maxInteger then some { row with count := row.count + 1, updatedAt := clock }
      else none

/-- How long a row is kept. -/
def keptMs : ℕ := 120 * 1000

/-- `DELETE FROM rate_limits WHERE updated_at < now() - interval '120 seconds'` -/
def cleanUp (now : ℕ) : RateLimitTable :=
  table.remove fun row => decide (row.updatedAt + keptMs < now)

end RateLimitTable

/-! ## Requests -/

/-- The arguments of `checkRateLimit`. -/
structure RateCheck where
  key : String
  maxRequests : ℕ
deriving DecidableEq

/-- A request that is limited: one of those that mail a link, or another one. -/
inductive LimitedRequest where
  | preflight (ip email : String)
  | forgotPassword (ip email : String)
  | other (checks : List RateCheck)
deriving DecidableEq

/-- Its checks, in their order. -/
def LimitedRequest.checks : LimitedRequest → List RateCheck
  | .preflight ip email =>
      [⟨"mlpreflight:ip:" ++ ip, 20⟩, ⟨"mlpreflight:email:" ++ email, 5⟩,
        ⟨"mlpreflight:ip+email:" ++ ip ++ ":" ++ email, 3⟩]
  | .forgotPassword ip email =>
      [⟨"forgotpw:ip:" ++ ip, 10⟩, ⟨"forgotpw:email:" ++ email, 3⟩]
  | .other checks => checks

/-- The account that a request finds is one to which its link is mailed. -/
def LimitedRequest.mailsTo : LimitedRequest → UserRole → Bool
  | .preflight _ _, role => role != .admin
  | .forgotPassword _ _, role => role == .admin
  | .other _, _ => false

/-- Where a request stands. -/
inductive LimitedPoint where
  /-- Before the first of the checks. -/
  | checking (checks : List RateCheck)
  /-- The statement of a check is on its way, and `rest` is still to be checked. -/
  | counting (check : RateCheck) (rest : List RateCheck) (clock : ℕ)
  | rateLimited
  /-- All checks are passed. -/
  | lookingUp
  | mailed
  /-- Over without a mail. -/
  | finished
deriving DecidableEq

/-- On to the next check, or past the last one. -/
def LimitedPoint.next : List RateCheck → LimitedPoint
  | [] => .lookingUp
  | check :: rest => .checking (check :: rest)

/-- A statement of `checkRateLimit` that the database has carried out. -/
structure CountedCheck where
  request : ℕ
  bucket : String × ℕ
  count : ℕ
  /-- The count has come back. -/
  answered : Bool
deriving DecidableEq

structure LimitWorld where
  /-- The database's clock. -/
  now : ℕ
  table : RateLimitTable
  requests : List (LimitedRequest × LimitedPoint)
  /-- The checks that have been counted, in that order. -/
  counted : List CountedCheck
  /-- The checks that came through on an error: the request and the key. -/
  storeErrors : List (ℕ × String)

/-- What becomes of a statement. -/
inductive CountFate where
  | answered
  /-- It is carried out, and the answer is lost. -/
  | lost
  | failed
deriving DecidableEq

inductive LimitAction where
  | waits (ms : ℕ)
  | arrives (request : LimitedRequest)
  /-- A process reads its clock for a check. -/
  | readsClock (i clock : ℕ)
  | counts (i : ℕ) (fate : CountFate)
  /-- The look-up of the account; there is none, or an error comes before the mail, without a
  role. -/
  | looksUp (i : ℕ) (role : Option UserRole)
  /-- The job's statement, with its `now()`. -/
  | cleansUp (now : ℕ)
deriving DecidableEq

namespace LimitWorld

def initial (now : ℕ) : LimitWorld := ⟨now, .empty, [], [], []⟩

variable (w : LimitWorld)

def setPoint (i : ℕ) (request : LimitedRequest) (point : LimitedPoint) : LimitWorld :=
  { w with requests := w.requests.set i (request, point) }

/-- A check fails open. -/
def failOpen (i : ℕ) (request : LimitedRequest) (check : RateCheck) (rest : List RateCheck) :
    LimitWorld :=
  { w.setPoint i request (.next rest) with storeErrors := w.storeErrors ++ [(i, check.key)] }

/-- The statement of a check is carried out. -/
def store (i : ℕ) (row : RateLimitRow) (answered : Bool) : LimitWorld :=
  { w with
    table := w.table.upsert row
    counted := w.counted ++ [⟨i, row.bucket, row.count, answered⟩] }

def count (i : ℕ) (request : LimitedRequest) (check : RateCheck) (rest : List RateCheck)
    (clock : ℕ) (fate : CountFate) : LimitWorld :=
  match fate, w.table.counted check.key clock w.now with
  | .answered, some row =>
      (w.store i row true).setPoint i request
        (if row.count > check.maxRequests then .rateLimited else .next rest)
  | .lost, some row => (w.store i row false).failOpen i request check rest
  | _, _ => w.failOpen i request check rest

def step : LimitAction → Option LimitWorld
  | .waits ms => some { w with now := w.now + ms }
  | .arrives request =>
      some { w with requests := w.requests ++ [(request, .next request.checks)] }
  | .readsClock i clock =>
      (w.requests[i]?).bind fun (request, point) =>
        match point with
        | .checking (check :: rest) => some (w.setPoint i request (.counting check rest clock))
        | _ => none
  | .counts i fate =>
      (w.requests[i]?).bind fun (request, point) =>
        match point with
        | .counting check rest clock => some (w.count i request check rest clock fate)
        | _ => none
  | .looksUp i role =>
      (w.requests[i]?).bind fun (request, point) =>
        match point with
        | .lookingUp =>
            some (w.setPoint i request (if role.any request.mailsTo then .mailed else .finished))
        | _ => none
  | .cleansUp now =>
      if now ≤ w.now then some { w with table := RateLimitTable.cleanUp w.table now } else none

end LimitWorld

end ExpresSync
