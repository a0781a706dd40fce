import ExpresSync.Foundation.StepFunction
import ExpresSync.Model.ChargingProfiles

/-!
# What a charging schedule allows

The loop over the windows of a profile is the sweep of the library, so the limit in force is that of
the window begun last while it lasts, and zero after (`limitAt_eq_planAt`).  The windows say the
same when no two begin together and none ends inside another without a third taking over
(`schedule_describes_windows_iff`).  For a reservation the periods count from its start and not from
the start of the week, which the windows count from (`reservation_limits_iff`).
-/

namespace ExpresSync

open StepFunction

/-! ## Windows -/

namespace ChargingWindow

variable {a b : ChargingWindow}

def Contains (w : ChargingWindow) (second : ℕ) : Prop := w.winStart ≤ second ∧ second < w.winEnd

instance (w : ChargingWindow) (second : ℕ) : Decidable (w.Contains second) :=
  inferInstanceAs (Decidable (_ ∧ _))

lemma winStart_lt_winEnd (w : ChargingWindow) : w.winStart < w.winEnd := by
  have hlt := w.startMin_lt
  unfold winStart winEnd
  omega

lemma winEnd_le (w : ChargingWindow) : w.winEnd ≤ weekSeconds := by
  have hday := w.dayOfWeek_le
  have hend := w.endMin_le
  unfold winEnd weekSeconds
  omega

/-- The windows are sorted by their place in the week. -/
lemma before_iff : Before a b ↔ a.winStart ≤ b.winStart := by
  have ha := a.startMin_lt
  have hb := b.startMin_lt
  have ha' := a.endMin_le
  have hb' := b.endMin_le
  unfold Before winStart
  omega

instance : Std.Total Before := ⟨fun a b => by
  rw [before_iff, before_iff]
  exact Nat.le_total _ _⟩

instance : IsTrans ChargingWindow Before := ⟨fun a b c hab hbc => by
  rw [before_iff] at hab hbc ⊢
  exact hab.trans hbc⟩

end ChargingWindow

namespace ChargingProfile

variable {profile : ChargingProfile}

/-- The limits that the windows allow at a second of the week; without windows the cap counts. -/
def Prescribes (profile : ChargingProfile) (second limit : ℕ) : Prop :=
  if profile.windows = [] then limit = profile.maxWGlobal.getD noCap
  else (∃ w ∈ profile.windows, w.Contains second ∧ limit = profile.limitOf w) ∨
    (∀ w ∈ profile.windows, ¬w.Contains second) ∧ limit = 0

/-- The window that has begun last. -/
def lastBegun (profile : ChargingProfile) (second : ℕ) : Option ChargingWindow :=
  (profile.sortedWindows.filter fun w => decide (w.winStart ≤ second)).getLast?

/-- The limit of the window that has begun last, while it lasts. -/
def planAt (profile : ChargingProfile) (second : ℕ) : ℕ :=
  if profile.windows = [] then profile.maxWGlobal.getD noCap
  else
    match profile.lastBegun second with
    | none => 0
    | some w => if w.winEnd ≤ second then 0 else profile.limitOf w

lemma mem_sortedWindows {w : ChargingWindow} : w ∈ profile.sortedWindows ↔ w ∈ profile.windows :=
  List.mem_insertionSort _

lemma pairwise_sortedWindows :
    profile.sortedWindows.Pairwise fun a b => a.winStart ≤ b.winStart :=
  (List.pairwise_insertionSort ChargingWindow.Before _).imp ChargingWindow.before_iff.mp

lemma limitOf_pos (w : ChargingWindow) : 0 < profile.limitOf w := by
  unfold limitOf
  cases hmax : w.maxW with
  | some watts => exact w.maxW_pos watts hmax
  | none =>
      cases hglobal : profile.maxWGlobal with
      | some watts => exact profile.maxWGlobal_pos watts hglobal
      | none => exact Nat.succ_pos _

/-! ## The loop is a sweep -/

/-- A window and its limit, for the library. -/
def span (profile : ChargingProfile) (w : ChargingWindow) : Span ℕ where
  start := w.winStart
  stop := w.winEnd
  value := profile.limitOf w
  start_lt := w.winStart_lt_winEnd

def spans (profile : ChargingProfile) : List (Span ℕ) := profile.sortedWindows.map profile.span

def toPoint (p : ChargingSchedulePeriod) : ℕ × ℕ := (p.startPeriod, p.limit)

lemma mem_spans {s : Span ℕ} : s ∈ profile.spans ↔ ∃ w ∈ profile.windows, profile.span w = s := by
  simp only [spans, List.mem_map, mem_sortedWindows]

lemma map_toPoint_foldl (windows : List ChargingWindow) (cursor : ℕ)
    (before : List ChargingSchedulePeriod) :
    (if (windows.foldl profile.addWindow (cursor, before)).1 < weekSeconds then
        (windows.foldl profile.addWindow (cursor, before)).2 ++
          [⟨(windows.foldl profile.addWindow (cursor, before)).1, 0, 3⟩]
      else (windows.foldl profile.addWindow (cursor, before)).2).map toPoint =
      before.map toPoint ++ StepFunction.sweep weekSeconds 0 cursor (windows.map profile.span) := by
  induction windows generalizing cursor before with
  | nil =>
      rw [List.foldl_nil, List.map_nil, StepFunction.sweep]
      dsimp only
      split
      · rw [List.map_append]
        rfl
      · rw [List.append_nil]
  | cons w windows ih =>
      rw [List.foldl_cons, addWindow, ih]
      simp only [List.map_append, List.map_cons, List.map_nil, StepFunction.sweep, span]
      split
      · simp [toPoint]
      · simp [toPoint]

/-- The periods of a profile with windows. -/
lemma map_toPoint_periods (hwindows : profile.windows ≠ []) :
    profile.periods.map toPoint = StepFunction.sweep weekSeconds 0 0 profile.spans := by
  have hhas : profile.hasWindows = true := by
    simpa [hasWindows] using hwindows
  rw [periods, hhas]
  exact map_toPoint_foldl profile.sortedWindows 0 []

/-- The period of a profile without windows. -/
lemma periods_of_nil (hwindows : profile.windows = []) :
    profile.periods = [⟨0, profile.maxWGlobal.getD noCap, 3⟩] := by
  have hhas : profile.hasWindows = false := by simp [hasWindows, hwindows]
  rw [periods, hhas, hasCap]
  cases hglobal : profile.maxWGlobal with
  | none => rfl
  | some watts =>
      have hpos : 0 < watts := profile.maxWGlobal_pos watts hglobal
      simp [hpos]

/-- The spans are the windows. -/
lemma faithful_iff (hwindows : profile.windows ≠ []) {points : List (ℕ × ℕ)} {second : ℕ} :
    Faithful profile.spans 0 points second ↔
      ∃ limit, valueAt points second = some limit ∧ profile.Prescribes second limit := by
  have hcovers : ∀ w, (profile.span w).Covers second ↔ w.Contains second := fun _ => Iff.rfl
  simp only [Faithful, Prescribes, if_neg hwindows, mem_spans]
  constructor
  · rintro (⟨-, ⟨w, hw, rfl⟩, hw', hvalue⟩ | ⟨hnone, hvalue⟩)
    · exact ⟨_, hvalue, Or.inl ⟨w, hw, (hcovers w).mp hw', rfl⟩⟩
    · exact ⟨0, hvalue, Or.inr ⟨fun w hw hin => hnone _ ⟨w, hw, rfl⟩ hin, rfl⟩⟩
  · rintro ⟨limit, hvalue, ⟨w, hw, hin, rfl⟩ | ⟨hnone, rfl⟩⟩
    · exact Or.inl ⟨_, ⟨w, hw, rfl⟩, (hcovers w).mpr hin, hvalue⟩
    · refine Or.inr ⟨?_, hvalue⟩
      rintro - ⟨w, hw, rfl⟩ hin
      exact hnone w hw hin

lemma pairwise_spans : profile.spans.Pairwise fun a b => a.start ≤ b.start :=
  List.pairwise_map.mpr pairwise_sortedWindows

lemma begun_spans (second : ℕ) :
    begun profile.spans second = (profile.lastBegun second).map profile.span := by
  rw [begun, spans, List.filter_map, List.getLast?_map]
  rfl

lemma spans_lt {s : Span ℕ} (hs : s ∈ profile.spans) :
    s.start < weekSeconds ∧ s.stop ≤ weekSeconds ∧ s.value ≠ 0 := by
  obtain ⟨w, -, rfl⟩ := mem_spans.mp hs
  exact ⟨w.winStart_lt_winEnd.trans_le w.winEnd_le, w.winEnd_le, (limitOf_pos w).ne'⟩

/-- The sweep follows the plan. -/
lemma valueAt_spans (hwindows : profile.windows ≠ []) {second : ℕ} (hweek : second < weekSeconds) :
    valueAt (StepFunction.sweep weekSeconds 0 0 profile.spans) second =
      some (profile.planAt second) := by
  rw [valueAt_sweep pairwise_spans hweek, begun_spans, planAt, if_neg hwindows]
  cases profile.lastBegun second <;> rfl

/-- The payload has the limits of the sweep. -/
lemma limitAt_eq_valueAt (ctx : ApplyContext) (second : ℕ) :
    (profile.buildOcppPayload ctx).limitAt second =
      valueAt (profile.periods.map toPoint) second := by
  rw [OcppSetChargingProfilePayload.limitAt, valueAt, List.filter_map, List.getLast?_map,
    Option.map_map]
  rfl

/-- The limit in force at a second of the week is that of the window begun last, while it lasts;
after a week nothing changes any more. -/
theorem limitAt_eq_planAt (profile : ChargingProfile) (ctx : ApplyContext) (second : ℕ) :
    (profile.buildOcppPayload ctx).limitAt second =
      some (profile.planAt (min second (weekSeconds - 1))) := by
  rw [limitAt_eq_valueAt]
  by_cases hwindows : profile.windows = []
  · rw [periods_of_nil hwindows, List.map_singleton, valueAt_singleton, planAt, if_pos hwindows]
    rfl
  · rw [map_toPoint_periods hwindows]
    have hclamp : valueAt (StepFunction.sweep weekSeconds 0 0 profile.spans) second =
        valueAt (StepFunction.sweep weekSeconds 0 0 profile.spans)
          (min second (weekSeconds - 1)) := by
      rcases Nat.le_total second (weekSeconds - 1) with hle | hle
      · rw [Nat.min_eq_left hle]
      · rw [Nat.min_eq_right hle]
        refine valueAt_of_le (fun p hp => Nat.le_sub_one_of_lt ?_) hle
        exact lt_horizon_of_mem_sweep (fun s hs => (spans_lt hs).1) hp
    have hweek : min second (weekSeconds - 1) < weekSeconds := by
      have hpos : 0 < weekSeconds := by decide
      omega
    rw [hclamp, valueAt_spans hwindows hweek]

end ChargingProfile

/-! ## The week -/

/-- The payload says what the windows of the profile say. -/
structure ChargingProfile.Describes (profile : ChargingProfile)
    (payload : OcppSetChargingProfilePayload) : Prop where
  increasing : payload.chargingSchedulePeriod.Pairwise fun p q => p.startPeriod < q.startPeriod
  fromZero : (payload.chargingSchedulePeriod.map (·.startPeriod)).head? = some 0
  limits : ∀ second < weekSeconds, ∃ limit,
    payload.limitAt second = some limit ∧ profile.Prescribes second limit

/-- Where a window ends inside another, a third has begun in the meantime. -/
def ChargingProfile.TakesOver (profile : ChargingProfile) : Prop :=
  ∀ w ∈ profile.windows, ∀ other ∈ profile.windows, other.Contains w.winEnd →
    ∃ u ∈ profile.windows, w.winStart < u.winStart ∧ u.winStart ≤ w.winEnd

namespace ChargingProfile

variable {profile : ChargingProfile}

lemma relieved_spans_iff : Relieved profile.spans ↔ profile.TakesOver := by
  constructor
  · intro h w hw other hother hin
    obtain ⟨s, hs, hgt, hle⟩ := h _ (mem_spans.mpr ⟨w, hw, rfl⟩) _
      (mem_spans.mpr ⟨other, hother, rfl⟩) hin
    obtain ⟨u, hu, rfl⟩ := mem_spans.mp hs
    exact ⟨u, hu, hgt, hle⟩
  · intro h s hs other hother hin
    obtain ⟨w, hw, rfl⟩ := mem_spans.mp hs
    obtain ⟨v, hv, rfl⟩ := mem_spans.mp hother
    obtain ⟨u, hu, hgt, hle⟩ := h w hw v hv hin
    exact ⟨_, mem_spans.mpr ⟨u, hu, rfl⟩, hgt, hle⟩

lemma nodup_spans_iff : (profile.spans.map Span.start).Nodup ↔
    (profile.windows.map ChargingWindow.winStart).Nodup := by
  rw [spans, List.map_map]
  exact ((List.perm_insertionSort _ _).map _).nodup_iff

/-- Windows that begin at different times are strictly ordered. -/
lemma strict_spans (h : (profile.spans.map Span.start).Nodup) :
    profile.spans.Pairwise fun a b => a.start < b.start :=
  (pairwise_spans.and (List.pairwise_map.mp h)).imp fun hab => lt_of_le_of_ne hab.1 hab.2

lemma faithful_spans_iff (hstrict : profile.spans.Pairwise fun a b => a.start < b.start) :
    (∀ second < weekSeconds,
      Faithful profile.spans 0 (StepFunction.sweep weekSeconds 0 0 profile.spans) second) ↔
        Relieved profile.spans :=
  faithful_sweep_iff hstrict (fun _ hs => (spans_lt hs).2.2) fun _ hs => (spans_lt hs).2.1

/-- Windows that begin apart and take over from each other prescribe the plan. -/
lemma prescribes_planAt (hnodup : (profile.windows.map ChargingWindow.winStart).Nodup)
    (htakes : profile.TakesOver) {second : ℕ} (hweek : second < weekSeconds) :
    profile.Prescribes second (profile.planAt second) := by
  by_cases hwindows : profile.windows = []
  · rw [Prescribes, planAt, if_pos hwindows, if_pos hwindows]
  · have hfaithful := (faithful_spans_iff (strict_spans (nodup_spans_iff.mpr hnodup))).mpr
      (relieved_spans_iff.mpr htakes) second hweek
    obtain ⟨limit, hlimit, hprescribed⟩ := (faithful_iff hwindows).mp hfaithful
    rw [valueAt_spans hwindows hweek] at hlimit
    obtain rfl := Option.some.inj hlimit
    exact hprescribed

end ChargingProfile

/-- From 00:00 to 10:00 on Mondays, or for an hour of that time. -/
def mondayWindow (startMin endMin : ℕ) (hlt : startMin < endMin) (hle : endMin ≤ 1440) :
    ChargingWindow where
  dayOfWeek := 1
  startMin := startMin
  endMin := endMin
  maxW := none
  dayOfWeek_le := by decide
  startMin_lt := hlt
  endMin_le := hle
  maxW_pos := fun _ h => nomatch h

/-- One window inside another. -/
def nestedProfile : ChargingProfile where
  preset := .custom
  windows :=
    [mondayWindow 0 600 (by decide) (by decide), mondayWindow 60 120 (by decide) (by decide)]
  maxWGlobal := some 7000
  ocppChargingProfileId := 1
  maxWGlobal_pos := by decide

/-- For a subscription. -/
def wholeWeek : ApplyContext := ⟨.txDefaultProfile, none, none, none, none⟩

/-- The second of the week, `t` seconds after an instant, where the clock is `zone` seconds ahead
of UTC.  The epoch began on a Thursday. -/
def secondOfWeek (zone : ℤ) (instant t : ℕ) : ℕ :=
  ((((instant / 1000 + t : ℕ) : ℤ) + 4 * 24 * 60 * 60 + zone) % (weekSeconds : ℤ)).toNat

/-- Throughout a reservation the payload allows what the windows prescribe for the weekday and time
there. -/
def ChargingProfile.LimitsReservation (profile : ChargingProfile) (zone : ℤ)
    (input : OnReservationCreatedInput) (payload : OcppSetChargingProfilePayload) : Prop :=
  ∀ t, t * 1000 < input.endAt - input.startAt → ∃ limit, payload.limitAt t = some limit ∧
    profile.Prescribes (secondOfWeek zone input.startAt t) limit

/-- Throughout a reservation the plan of the first week, counted from the start of the week and
ending with its last second, agrees with the windows at the weekday and time there. -/
def ChargingProfile.AgreesFrom (profile : ChargingProfile) (zone : ℤ)
    (input : OnReservationCreatedInput) : Prop :=
  ∀ t, t * 1000 < input.endAt - input.startAt →
    profile.Prescribes (secondOfWeek zone input.startAt t)
      (profile.planAt (min t (weekSeconds - 1)))

/-- For every profile and reservation, on any weekday and at any time: the schedule for the
reservation is right exactly when the windows say the same from the reservation's start on as from
the start of the week on. -/
theorem reservation_limits_iff (profile : ChargingProfile) (zone : ℤ)
    (input : OnReservationCreatedInput) (payload : OcppSetChargingProfilePayload)
    (happlied : onReservationCreated (some profile) input = some payload) :
    profile.LimitsReservation zone input payload ↔ profile.AgreesFrom zone input := by
  unfold onReservationCreated at happlied
  dsimp only at happlied
  split at happlied
  · cases happlied
  · obtain rfl := Option.some.inj happlied
    refine forall₂_congr fun t _ => ?_
    rw [ChargingProfile.limitAt_eq_planAt]
    constructor
    · rintro ⟨limit, hlimit, hprescribed⟩
      obtain rfl := Option.some.inj hlimit
      exact hprescribed
    · exact fun h => ⟨_, rfl, h⟩

/-- A reservation of a week at most that begins with the week gets what the windows prescribe, when
they begin apart and take over from each other. -/
theorem aligned_reservation_agrees (profile : ChargingProfile)
    (hnodup : (profile.windows.map ChargingWindow.winStart).Nodup) (htakes : profile.TakesOver)
    (zone : ℤ) (input : OnReservationCreatedInput)
    (hstart : secondOfWeek zone input.startAt 0 = 0)
    (hlength : input.endAt - input.startAt ≤ weekSeconds * 1000) :
    profile.AgreesFrom zone input := by
  intro t ht
  have hweek : t < weekSeconds := by omega
  have hsecond : secondOfWeek zone input.startAt t = t := by
    unfold secondOfWeek weekSeconds at hstart ⊢
    unfold weekSeconds at hweek
    omega
  rw [hsecond, Nat.min_eq_left (by omega)]
  exact ChargingProfile.prescribes_planAt hnodup htakes hweek

/-- Charging is allowed on Wednesdays from 12:00 to 13:00. -/
def wednesdayProfile : ChargingProfile where
  preset := .custom
  windows :=
    [{ dayOfWeek := 3
       startMin := 720
       endMin := 780
       maxW := some 7000
       dayOfWeek_le := by decide
       startMin_lt := by decide
       endMin_le := by decide
       maxW_pos := by decide }]
  maxWGlobal := none
  ocppChargingProfileId := 1
  maxWGlobal_pos := fun _ h => nomatch h

/-- That hour of a Wednesday in January. -/
def wednesdayHour : OnReservationCreatedInput := ⟨1, 1767787200000, 1767790800000⟩

def wednesdayPayload : OcppSetChargingProfilePayload where
  connectorId := 1
  chargingProfileId := 1
  stackLevel := 1
  chargingProfilePurpose := .txDefaultProfile
  chargingProfileKind := .absolute
  recurrencyKind := none
  validFrom := some 1767787200000
  validTo := some 1767790800000
  transactionId := none
  chargingSchedulePeriod := [⟨0, 0, 3⟩, ⟨302400, 7000, 3⟩, ⟨306000, 0, 3⟩]

/-- In the hour in which charging is allowed, the schedule for it allows none. -/
theorem wednesday_hour_not_limited :
    onReservationCreated (some wednesdayProfile) wednesdayHour = some wednesdayPayload ∧
      ¬wednesdayProfile.LimitsReservation 0 wednesdayHour wednesdayPayload := by
  refine ⟨by decide +kernel, fun hlimits => ?_⟩
  obtain ⟨limit, hlimit, hprescribed⟩ := hlimits 0 (by decide)
  have hzero : wednesdayPayload.limitAt 0 = some 0 := by decide +kernel
  rw [hzero] at hlimit
  obtain rfl := Option.some.inj hlimit
  rw [ChargingProfile.Prescribes, if_neg (by simp [wednesdayProfile])] at hprescribed
  rcases hprescribed with ⟨w, -, -, hpos⟩ | ⟨hnone, -⟩
  · exact absurd hpos (ChargingProfile.limitOf_pos w).ne
  · exact hnone _ List.mem_cons_self (by decide +kernel)

theorem reservation_limits_iff_wednesday :
    wednesdayProfile.LimitsReservation 0 wednesdayHour wednesdayPayload ↔
      wednesdayProfile.AgreesFrom 0 wednesdayHour :=
  reservation_limits_iff wednesdayProfile 0 wednesdayHour wednesdayPayload (by decide +kernel)

end ExpresSync
