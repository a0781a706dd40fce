import Mathlib.Data.List.Sort

/-!
# Charging profiles

The profile of a subscription and the OCPP payload `buildOcppPayload` makes of it.  Windows are
those the route of the admins accepts, each by itself.  An instant stands for its ISO text; the
call to StEvE is not there yet, so the payload is all that `applyToCharger` comes to.
-/

namespace ExpresSync

/-- What `WindowSchema` accepts. -/
structure ChargingWindow where
  /-- `0` is Sunday. -/
  dayOfWeek : ℕ
  /-- Minutes from midnight. -/
  startMin : ℕ
  endMin : ℕ
  maxW : Option ℕ
  dayOfWeek_le : dayOfWeek ≤ 6
  startMin_lt : startMin < endMin
  endMin_le : endMin ≤ 1440
  maxW_pos : ∀ w ∈ maxW, 0 < w

inductive ChargingProfilePreset where
  | unlimited
  | offpeak
  | cap7kw
  | cap11kw
  | solar
  | custom
deriving DecidableEq

/-- A row of `charging_profiles`. -/
structure ChargingProfile where
  preset : ChargingProfilePreset
  windows : List ChargingWindow
  maxWGlobal : Option ℕ
  ocppChargingProfileId : ℕ
  maxWGlobal_pos : ∀ w ∈ maxWGlobal, 0 < w

inductive ChargingProfilePurpose where
  | txDefaultProfile
  | txProfile
deriving DecidableEq

inductive ChargingProfileKind where
  | absolute
  | recurring
deriving DecidableEq

inductive RecurrencyKind where
  | weekly
deriving DecidableEq

structure ApplyContext where
  chargingProfilePurpose : ChargingProfilePurpose
  validFrom : Option ℕ
  validUntil : Option ℕ
  connectorId : Option ℤ
  transactionId : Option ℤ

structure ChargingSchedulePeriod where
  startPeriod : ℕ
  limit : ℕ
  numberPhases : ℕ
deriving DecidableEq

/-- `OcppSetChargingProfilePayload`, in watts. -/
structure OcppSetChargingProfilePayload where
  connectorId : ℤ
  chargingProfileId : ℕ
  stackLevel : ℕ
  chargingProfilePurpose : ChargingProfilePurpose
  chargingProfileKind : ChargingProfileKind
  recurrencyKind : Option RecurrencyKind
  validFrom : Option ℕ
  validTo : Option ℕ
  transactionId : Option ℤ
  chargingSchedulePeriod : List ChargingSchedulePeriod
deriving DecidableEq

/-- `Number.MAX_SAFE_INTEGER` -/
def noCap : ℕ := 9007199254740991

def weekSeconds : ℕ := 7 * 24 * 60 * 60

namespace ChargingWindow

variable (w : ChargingWindow)

/-- Seconds from the start of the week. -/
def winStart : ℕ := (w.dayOfWeek * 24 * 60 + w.startMin) * 60

def winEnd : ℕ := (w.dayOfWeek * 24 * 60 + w.endMin) * 60

/-- The order `sort` is given. -/
def Before (a b : ChargingWindow) : Prop :=
  a.dayOfWeek < b.dayOfWeek ∨ a.dayOfWeek = b.dayOfWeek ∧ a.startMin ≤ b.startMin

instance : DecidableRel Before := fun _ _ => inferInstanceAs (Decidable (_ ∨ _))

end ChargingWindow

namespace ChargingProfile

variable (profile : ChargingProfile)

def hasWindows : Bool := !profile.windows.isEmpty

def hasCap : Bool := profile.maxWGlobal.any fun w => decide (0 < w)

/-- `w.maxW ?? profile.maxWGlobal ?? NO_CAP` -/
def limitOf (w : ChargingWindow) : ℕ := (w.maxW.or profile.maxWGlobal).getD noCap

/-- The windows, sorted. -/
def sortedWindows : List ChargingWindow := profile.windows.insertionSort ChargingWindow.Before

/-- The body of the loop over the windows: the cursor and the periods. -/
def addWindow (state : ℕ × List ChargingSchedulePeriod) (w : ChargingWindow) :
    ℕ × List ChargingSchedulePeriod :=
  let periods := if state.1 < w.winStart then state.2 ++ [⟨state.1, 0, 3⟩] else state.2
  (w.winEnd, periods ++ [⟨w.winStart, profile.limitOf w, 3⟩])

/-- The periods of the payload. -/
def periods : List ChargingSchedulePeriod :=
  if !profile.hasWindows && !profile.hasCap then [⟨0, noCap, 3⟩]
  else if !profile.hasWindows && profile.hasCap then [⟨0, profile.maxWGlobal.getD 0, 3⟩]
  else
    let state := profile.sortedWindows.foldl profile.addWindow (0, [])
    if state.1 < weekSeconds then state.2 ++ [⟨state.1, 0, 3⟩] else state.2

/-- `buildOcppPayload` -/
def buildOcppPayload (ctx : ApplyContext) : OcppSetChargingProfilePayload :=
  let kind : ChargingProfileKind :=
    if ctx.validFrom.isSome || ctx.validUntil.isSome then .absolute else .recurring
  { connectorId := ctx.connectorId.getD 0
    chargingProfileId := profile.ocppChargingProfileId
    stackLevel := 1
    chargingProfilePurpose := ctx.chargingProfilePurpose
    chargingProfileKind := kind
    recurrencyKind := if kind = .recurring then some .weekly else none
    validFrom := ctx.validFrom
    validTo := ctx.validUntil
    transactionId := ctx.transactionId
    chargingSchedulePeriod := profile.periods }

end ChargingProfile

/-- `OnReservationCreatedInput`, of a reservation with a subscription. -/
structure OnReservationCreatedInput where
  connectorId : ℤ
  startAt : ℕ
  endAt : ℕ

/-- `onReservationCreated`: the payload for the reservation, if its subscription has a profile that
says something. -/
def onReservationCreated (getProfile : Option ChargingProfile)
    (input : OnReservationCreatedInput) : Option OcppSetChargingProfilePayload :=
  match getProfile with
  | none => none
  | some profile =>
      if profile.preset = .unlimited then none
      else
        some (profile.buildOcppPayload
          { chargingProfilePurpose := .txDefaultProfile
            connectorId := some input.connectorId
            validFrom := some input.startAt
            validUntil := some input.endAt
            transactionId := none })

/-- The limit of the last period that starts at a second or before it. -/
def OcppSetChargingProfilePayload.limitAt (payload : OcppSetChargingProfilePayload)
    (second : ℕ) : Option ℕ :=
  ((payload.chargingSchedulePeriod.filter fun p => decide (p.startPeriod ≤ second)).getLast?).map
    (·.limit)

end ExpresSync
