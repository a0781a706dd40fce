import ExpresSync.Model.Reservations

/-!
# What a customer is offered

The candidates are the ends of the conflicts, and the free ones among the first are offered, two at
most.  They are ascending, free and near, but two conflicts that end together offer one window twice
(`suggestions_usable_iff`).
-/

namespace ExpresSync

/-- In an ascending list what comes before the first too large element is what is not too large. -/
lemma takeWhile_le_eq_filter {l : List ℕ} (hl : l.Pairwise (· ≤ ·)) (c : ℕ) :
    l.takeWhile (fun n => decide (n ≤ c)) = l.filter fun n => decide (n ≤ c) := by
  induction l with
  | nil => rfl
  | cons n l ih =>
      obtain ⟨hle, hl⟩ := List.pairwise_cons.mp hl
      by_cases hn : n ≤ c
      · rw [List.takeWhile_cons_of_pos (by simpa using hn), ih hl,
          List.filter_cons_of_pos (by simpa using hn)]
      · rw [List.takeWhile_cons_of_neg (by simpa using hn),
          List.filter_cons_of_neg (by simpa using hn), eq_comm, List.filter_eq_nil_iff]
        intro m hm
        have hnm := hle m hm
        simpa using by omega

namespace SuggestionInput

variable {input : SuggestionInput} {table : ReservationTable}

/-! ## The loop -/

/-- The loop takes free candidates before the cutoff until there are two. -/
lemma tryStarts_eq (starts : List ℕ) (suggestions : List ReservationSuggestion) :
    input.tryStarts table starts suggestions = suggestions ++
      (((starts.takeWhile fun n => decide (n ≤ input.cutoff)).filter
        (input.isFree table)).take (2 - suggestions.length)).map input.suggestion := by
  induction starts generalizing suggestions with
  | nil => simp [tryStarts]
  | cons n starts ih =>
      unfold tryStarts
      split
      · next hfull =>
        have hzero : 2 - suggestions.length = 0 := by omega
        simp [hzero]
      · next hroom =>
        split
        · next hlate =>
          rw [List.takeWhile_cons_of_neg (by simpa using hlate)]
          simp
        · next hearly =>
          rw [List.takeWhile_cons_of_pos (by simpa using hearly)]
          obtain ⟨more, hmore⟩ : ∃ more, 2 - suggestions.length = more + 1 :=
            ⟨1 - suggestions.length, by omega⟩
          split
          · next hfree =>
            have hrest : 2 - (suggestions ++ [input.suggestion n]).length = more := by
              rw [List.length_append, List.length_singleton]
              omega
            rw [ih, hrest, hmore, List.filter_cons_of_pos hfree, List.take_succ_cons,
              List.map_cons, List.append_assoc, List.singleton_append]
          · next htaken => rw [ih, List.filter_cons_of_neg htaken]

/-- The conflicts that end at a free time in the next 24 hours, by their ends. -/
def usable (input : SuggestionInput) (table : ReservationTable) : List Reservation :=
  (input.conflicts.insertionSort fun a b => a.endAt ≤ b.endAt).filter fun row =>
    decide (row.endAt ≤ input.cutoff) && input.isFree table row.endAt

instance : Std.Total fun a b : Reservation => a.endAt ≤ b.endAt := ⟨fun _ _ => Nat.le_total _ _⟩

instance : IsTrans Reservation fun a b => a.endAt ≤ b.endAt := ⟨fun _ _ _ => Nat.le_trans⟩

lemma mem_usable {row : Reservation} : row ∈ input.usable table ↔
    row ∈ input.conflicts ∧ row.endAt ≤ input.cutoff ∧ input.isFree table row.endAt = true := by
  simp [usable, List.mem_filter]

lemma pairwise_usable : (input.usable table).Pairwise fun a b => a.endAt ≤ b.endAt :=
  (List.pairwise_insertionSort (fun a b : Reservation => a.endAt ≤ b.endAt) _).filter _

lemma nodup_usable (hnodup : input.conflicts.Nodup) : (input.usable table).Nodup :=
  ((List.perm_insertionSort _ _).nodup_iff.mpr hnodup).filter _

/-- What is offered are the first two of their ends. -/
lemma suggestAlternatives_eq (hwindow : input.requestedStartAt < input.requestedEndAt) :
    input.suggestAlternatives table =
      (((input.usable table).take 2).map (·.endAt)).map input.suggestion := by
  have hends : input.conflictEnds =
      (input.conflicts.insertionSort fun a b => a.endAt ≤ b.endAt).map (·.endAt) :=
    (List.map_insertionSort (fun a b : Reservation => a.endAt ≤ b.endAt)
      (fun a b : ℕ => a ≤ b) (·.endAt) input.conflicts fun _ _ _ _ => Iff.rfl).symm
  have hsorted : input.conflictEnds.Pairwise (· ≤ ·) := List.pairwise_insertionSort _ _
  rw [suggestAlternatives, if_neg (by omega), tryStarts_eq, takeWhile_le_eq_filter hsorted,
    List.filter_filter, hends, List.filter_map, ← List.map_take, List.nil_append]
  have husable : (input.conflicts.insertionSort fun a b => a.endAt ≤ b.endAt).filter
      ((fun n => input.isFree table n && decide (n ≤ input.cutoff)) ∘ (·.endAt)) =
        input.usable table := List.filter_congr fun row _ => Bool.and_comm _ _
  rw [husable]
  rfl

/-! ## The windows -/

/-- What a customer is offered can be booked. -/
structure AreUsable (input : SuggestionInput) (table : ReservationTable)
    (suggestions : List ReservationSuggestion) : Prop where
  atMostTwo : suggestions.length ≤ 2
  distinct : suggestions.Nodup
  ascending : suggestions.Pairwise fun a b => a.startAt ≤ b.startAt
  duration : ∀ s ∈ suggestions,
    s.endAt = s.startAt + (input.requestedEndAt - input.requestedStartAt)
  horizon : ∀ s ∈ suggestions, input.requestedStartAt ≤ s.startAt ∧
    s.startAt ≤ input.requestedStartAt + 24 * 60 * 60 * 1000
  free : ∀ s ∈ suggestions, checkConflicts table (input.toCheck s) = []

/-- The first of the ends of the conflicts from which on the window is free, within 24 hours. -/
def IsEarliestFree (input : SuggestionInput) (table : ReservationTable) (start : ℕ) : Prop :=
  start ≤ input.cutoff ∧ input.isFree table start = true ∧
    ∀ row ∈ input.conflicts, input.isFree table row.endAt = true → start ≤ row.endAt

/-- A list of rows without repetition, by their ends: the first two end together when two rows do
that end before all others. -/
lemma nodup_take_two_iff {rows : List Reservation} (hnodup : rows.Nodup)
    (hsorted : rows.Pairwise fun a b => a.endAt ≤ b.endAt) :
    ((rows.take 2).map (·.endAt)).Nodup ↔ ∀ row ∈ rows, ∀ row' ∈ rows, row.endAt = row'.endAt →
      (∀ other ∈ rows, row.endAt ≤ other.endAt) → row = row' := by
  match rows with
  | [] => simp
  | [first] => simp
  | first :: second :: rest =>
      obtain ⟨hfirst, hsorted⟩ := List.pairwise_cons.mp hsorted
      obtain ⟨hsecond, -⟩ := List.pairwise_cons.mp hsorted
      obtain ⟨hnew, -⟩ := List.nodup_cons.mp hnodup
      have htwo : (((first :: second :: rest).take 2).map (·.endAt)).Nodup ↔
          first.endAt ≠ second.endAt := by simp
      have hnext : ∀ row ∈ second :: rest, second.endAt ≤ row.endAt := by
        intro row hrow
        rcases List.mem_cons.mp hrow with rfl | hrow
        · exact Nat.le_refl _
        · exact hsecond row hrow
      rw [htwo]
      constructor
      · intro hne row hrow row' hrow' heq hmin
        have hbefore := hfirst second List.mem_cons_self
        have hle := hmin first List.mem_cons_self
        -- no row but the first ends as early
        have hearly : ∀ r ∈ first :: second :: rest, r.endAt = row.endAt → r = first := by
          intro r hr hend
          rcases List.mem_cons.mp hr with rfl | hr
          · rfl
          · have hlate := hnext r hr
            omega
        rw [hearly row hrow rfl, hearly row' hrow' heq.symm]
      · intro hone heq
        have hsame : first = second := hone first List.mem_cons_self second
          (List.mem_cons_of_mem _ List.mem_cons_self) heq fun other hother => by
            rcases List.mem_cons.mp hother with rfl | hother
            · exact Nat.le_refl _
            · exact hfirst other hother
        exact hnew (hsame ▸ List.mem_cons_self)

end SuggestionInput

open SuggestionInput

/-- For every table and requested window with conflicts: what is offered is usable, and all
different exactly when no two conflicts end together at the first free time. -/
theorem suggestions_usable_iff (table : ReservationTable) (requested : ConflictCheckInput)
    (hwindow : requested.startAt < requested.endAt) :
    (requested.toSuggest table).AreUsable table
        ((requested.toSuggest table).suggestAlternatives table) ↔
      ∀ row ∈ checkConflicts table requested, ∀ row' ∈ checkConflicts table requested,
        row.endAt = row'.endAt → (requested.toSuggest table).IsEarliestFree table row.endAt →
          row = row' := by
  set input := requested.toSuggest table with hinput
  have hnodup : input.conflicts.Nodup := (table.nodup.of_map _).filter _
  have hfound : ∀ row ∈ input.conflicts, requested.startAt < row.endAt := by
    intro row hrow
    have hfinds := (List.mem_filter.mp hrow).2
    simp only [ConflictCheckInput.finds, Bool.and_eq_true, decide_eq_true_eq] at hfinds
    exact hfinds.1.2
  have hmem : ∀ s ∈ input.suggestAlternatives table, ∃ row ∈ input.usable table,
      input.suggestion row.endAt = s := by
    intro s hs
    rw [suggestAlternatives_eq hwindow] at hs
    obtain ⟨start, hstart, rfl⟩ := List.mem_map.mp hs
    obtain ⟨row, hrow, rfl⟩ := List.mem_map.mp hstart
    exact ⟨row, List.mem_of_mem_take hrow, rfl⟩
  have hdistinct : (input.suggestAlternatives table).Nodup ↔
      (((input.usable table).take 2).map (·.endAt)).Nodup := by
    rw [suggestAlternatives_eq hwindow]
    refine List.nodup_map_iff fun a b hab => ?_
    exact congrArg ReservationSuggestion.startAt hab
  have hcondition : (((input.usable table).take 2).map (·.endAt)).Nodup ↔
      ∀ row ∈ input.conflicts, ∀ row' ∈ input.conflicts, row.endAt = row'.endAt →
        input.IsEarliestFree table row.endAt → row = row' := by
    rw [nodup_take_two_iff (nodup_usable hnodup) pairwise_usable]
    constructor
    · intro hone row hrow row' hrow' heq ⟨hnear, hfree, hfirst⟩
      refine hone row (mem_usable.mpr ⟨hrow, hnear, hfree⟩) row'
        (mem_usable.mpr ⟨hrow', heq ▸ hnear, heq ▸ hfree⟩) heq fun other hother => ?_
      obtain ⟨hmem, -, hfree'⟩ := mem_usable.mp hother
      exact hfirst other hmem hfree'
    · intro hone row hrow row' hrow' heq hmin
      obtain ⟨hmem, hnear, hfree⟩ := mem_usable.mp hrow
      refine hone row hmem row' (mem_usable.mp hrow').1 heq ⟨hnear, hfree, ?_⟩
      intro other hother hfree'
      by_contra hlt
      exact hlt (hmin other (mem_usable.mpr ⟨hother, by omega, hfree'⟩))
  refine Iff.trans ?_ hcondition
  rw [← hdistinct]
  constructor
  · exact fun h => h.distinct
  · intro hdistinct
    refine ⟨?_, hdistinct, ?_, ?_, ?_, ?_⟩
    · rw [suggestAlternatives_eq hwindow, List.length_map, List.length_map]
      exact List.length_take_le _ _
    · rw [suggestAlternatives_eq hwindow, List.pairwise_map, List.pairwise_map]
      exact pairwise_usable.sublist (List.take_sublist 2 _)
    · intro s hs
      obtain ⟨row, -, rfl⟩ := hmem s hs
      rfl
    · intro s hs
      obtain ⟨row, hrow, rfl⟩ := hmem s hs
      obtain ⟨hconflict, hnear, -⟩ := mem_usable.mp hrow
      exact ⟨(hfound row hconflict).le, hnear⟩
    · intro s hs
      obtain ⟨row, hrow, rfl⟩ := hmem s hs
      exact List.isEmpty_iff.mp (mem_usable.mp hrow).2.2

/-- A booking of the first connector, or of the second. -/
def bookedConnector (connectorId : ℤ) (id : ℕ) : Reservation where
  id := id
  chargeBoxId := "CP1"
  connectorId := connectorId
  steveOcppTagPk := 7
  steveOcppIdTag := "CARD"
  lagoSubscriptionExternalId := none
  startAt := 3600000
  endAt := 7200000
  durationMinutes := 60
  status := .confirmed
  steveReservationId := some 4
  chargingProfileTaskId := none
  createdByUserId := none
  cancelledAt := none
  forced := false

/-- Both connectors are booked for one hour. -/
def bothBooked : ReservationTable :=
  (SerialTable.empty.insert (bookedConnector 1) fun _ => rfl).insert (bookedConnector 2)
    fun _ => rfl

/-- The whole charger, for that hour. -/
def wholeCharger : ConflictCheckInput := ⟨"CP1", 0, 3600000, 7200000, none⟩

/-- The next hour is offered, and offered once more. -/
theorem one_window_offered_twice :
    (wholeCharger.toSuggest bothBooked).suggestAlternatives bothBooked =
        [⟨7200000, 10800000⟩, ⟨7200000, 10800000⟩] ∧
      ¬(wholeCharger.toSuggest bothBooked).AreUsable bothBooked
        ((wholeCharger.toSuggest bothBooked).suggestAlternatives bothBooked) := by
  have hoffered : (wholeCharger.toSuggest bothBooked).suggestAlternatives bothBooked =
      [⟨7200000, 10800000⟩, ⟨7200000, 10800000⟩] := by decide +kernel
  refine ⟨hoffered, fun husable => ?_⟩
  have hdistinct := husable.distinct
  rw [hoffered] at hdistinct
  exact absurd hdistinct (by decide)

theorem suggestions_usable_iff_charger :
    (wholeCharger.toSuggest bothBooked).AreUsable bothBooked
        ((wholeCharger.toSuggest bothBooked).suggestAlternatives bothBooked) ↔
      ∀ row ∈ checkConflicts bothBooked wholeCharger,
        ∀ row' ∈ checkConflicts bothBooked wholeCharger, row.endAt = row'.endAt →
          (wholeCharger.toSuggest bothBooked).IsEarliestFree bothBooked row.endAt → row = row' :=
  suggestions_usable_iff bothBooked wholeCharger (by decide)

end ExpresSync
