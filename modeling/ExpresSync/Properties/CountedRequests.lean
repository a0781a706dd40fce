import ExpresSync.Foundation.KeyedLog
import ExpresSync.Foundation.Transition
import ExpresSync.Model.RateLimits

/-!
# Requests are counted once

The table of the rate limits is cleared under the statements that count in it.  As long as a
statement comes no later than two minutes after the start of its window, each one is numbered as by
a counter that is never cleared (`counts_as_one_counter`), and decides as that counter does
(`counts_as_checkRateLimit`).  So no check lets more requests through in a window than its limit,
however the processes interleave (`mails_within_limits`).
-/

namespace ExpresSync

open Transition Numbering

/-- The clock that a request has read. -/
def LimitedPoint.clock? : LimitedPoint → Option ℕ
  | .counting _ _ clock => some clock
  | _ => none

/-- The checks that a request has before it. -/
def LimitedPoint.ahead (request : LimitedRequest) : LimitedPoint → List RateCheck
  | .checking checks => checks
  | .counting check rest _ => check :: rest
  | .rateLimited => request.checks
  | _ => []

namespace LimitWorld

/-! ## The condition -/

/-- The processes' clocks are ahead of the database's by at most `skew` milliseconds, and a row is
kept for the statement's window until the statement has come. -/
def OnTime (skew : ℕ) (w : LimitWorld) : LimitAction → Prop
  | .counts i fate =>
      fate = .failed ∨ ∀ entry ∈ w.requests[i]?, ∀ clock ∈ entry.2.clock?,
        windowStart clock ≤ w.now + skew ∧
          w.now + skew ≤ windowStart clock + RateLimitTable.keptMs
  | _ => True

instance (skew : ℕ) (w : LimitWorld) (a : LimitAction) : Decidable (OnTime skew w a) := by
  unfold OnTime
  split <;> infer_instance

/-! ## The counter -/

/-- The rows count the statements, as long as they are there. -/
structure Counts (skew : ℕ) (w : LimitWorld) : Prop where
  stored : ∀ bucket row, w.table.get? bucket = some row →
    row.count = total CountedCheck.bucket w.counted bucket ∧ bucket.2 ≤ row.updatedAt + skew
  gone : ∀ bucket, w.table.get? bucket = none →
    total CountedCheck.bucket w.counted bucket = 0 ∨
      bucket.2 + RateLimitTable.keptMs < w.now + skew
  numbered : Numbered CountedCheck.bucket CountedCheck.count w.counted

variable {skew : ℕ} {w w' : LimitWorld} {i : ℕ} {request : LimitedRequest} {point : LimitedPoint}
  {check : RateCheck} {rest : List RateCheck} {clock : ℕ} {row : RateLimitRow} {a : LimitAction}

lemma counts_initial (now : ℕ) : (initial now).Counts skew where
  stored _ _ h := by cases h
  gone _ _ := Or.inl rfl
  numbered := numbered_nil

/-- What becomes of the requests does not matter to the rows. -/
lemma Counts.of_eq (h : w.Counts skew) (hnow : w.now ≤ w'.now) (htable : w'.table = w.table)
    (hcounted : w'.counted = w.counted) : w'.Counts skew where
  stored := by
    rw [htable, hcounted]
    exact h.stored
  gone bucket hnone := by
    rw [htable] at hnone
    rw [hcounted]
    have hgone := h.gone bucket hnone
    omega
  numbered := hcounted ▸ h.numbered

lemma Counts.setPoint (h : w.Counts skew) (i : ℕ) (request : LimitedRequest)
    (point : LimitedPoint) : (w.setPoint i request point).Counts skew :=
  h.of_eq le_rfl rfl rfl

lemma Counts.failOpen (h : w.Counts skew) (i : ℕ) (request : LimitedRequest) (check : RateCheck)
    (rest : List RateCheck) : (w.failOpen i request check rest).Counts skew :=
  h.of_eq le_rfl rfl rfl

/-- A statement that comes on time continues the numbers of its window. -/
lemma Counts.next (h : w.Counts skew) (hrow : w.table.counted check.key clock w.now = some row)
    (hearly : windowStart clock ≤ w.now + skew)
    (hlate : w.now + skew ≤ windowStart clock + RateLimitTable.keptMs) :
    row.bucket = (check.key, windowStart clock) ∧
      row.count = total CountedCheck.bucket w.counted row.bucket + 1 ∧
      row.windowStart ≤ row.updatedAt + skew := by
  have hclock : windowStart clock ≤ clock := Nat.div_mul_le_self clock rateLimitWindowMs
  unfold RateLimitTable.counted at hrow
  split at hrow
  · next hnone =>
    obtain rfl := Option.some.inj hrow
    rcases h.gone _ hnone with hzero | hgone
    · exact ⟨rfl, by simp [RateLimitRow.bucket, hzero], hearly⟩
    · dsimp only at hgone
      omega
  · next old hold =>
    obtain ⟨hcount, -⟩ := h.stored _ _ hold
    obtain ⟨-, hbucket⟩ := KeyedLog.get?_eq_some.mp hold
    split at hrow
    · obtain rfl := Option.some.inj hrow
      have hwindow : old.windowStart = windowStart clock := congrArg Prod.snd hbucket
      refine ⟨hbucket, ?_, ?_⟩
      · show old.count + 1 = total CountedCheck.bucket w.counted old.bucket + 1
        rw [hbucket, hcount]
      · show old.windowStart ≤ clock + skew
        omega
    · cases hrow

lemma Counts.store (h : w.Counts skew)
    (hcount : row.count = total CountedCheck.bucket w.counted row.bucket + 1)
    (hstamp : row.windowStart ≤ row.updatedAt + skew) (i : ℕ) (answered : Bool) :
    (w.store i row answered).Counts skew where
  stored bucket found hfound := by
    simp only [LimitWorld.store] at hfound ⊢
    rw [total_concat]
    rw [KeyedLog.get?_upsert] at hfound
    split at hfound
    · next hbucket =>
      obtain rfl := Option.some.inj hfound
      subst hbucket
      exact ⟨by simpa using hcount, hstamp⟩
    · next hne =>
      obtain ⟨hold, hwindow⟩ := h.stored bucket found hfound
      exact ⟨by simpa [hne] using hold, hwindow⟩
  gone bucket hnone := by
    simp only [LimitWorld.store] at hnone ⊢
    rw [total_concat]
    rw [KeyedLog.get?_upsert] at hnone
    split at hnone
    · cases hnone
    · next hne => simpa [hne] using h.gone bucket hnone
  numbered := h.numbered.concat hcount

/-- Rows are cleared only when no statement of their window can come on time any more. -/
lemma Counts.cleanUp (h : w.Counts skew) {now : ℕ} (hnow : now ≤ w.now) :
    Counts skew { w with table := RateLimitTable.cleanUp w.table now } where
  stored bucket row hrow := by
    simp only [RateLimitTable.cleanUp, KeyedLog.get?_remove, Option.filter_eq_some_iff] at hrow
    exact h.stored bucket row hrow.1
  gone bucket hnone := by
    simp only [RateLimitTable.cleanUp, KeyedLog.get?_remove, Option.filter_eq_none_iff] at hnone
    show _ ∨ bucket.2 + RateLimitTable.keptMs < w.now + skew
    cases hold : w.table.get? bucket with
    | none => exact h.gone bucket hold
    | some row =>
        have hstamp := (h.stored bucket row hold).2
        have hcleared : row.updatedAt + RateLimitTable.keptMs < now := by
          simpa using hnone row hold
        omega
  numbered := h.numbered

lemma Counts.count (h : w.Counts skew)
    (hpoint : w.requests[i]? = some (request, .counting check rest clock)) {fate : CountFate}
    (htime : OnTime skew w (.counts i fate)) :
    (w.count i request check rest clock fate).Counts skew := by
  have hnext : fate ≠ .failed → ∀ row, w.table.counted check.key clock w.now = some row →
      ∀ answered, (w.store i row answered).Counts skew := by
    intro hfate row hrow answered
    obtain ⟨hearly, hlate⟩ := (htime.resolve_left hfate) _ hpoint clock rfl
    obtain ⟨-, hcount, hstamp⟩ := h.next hrow hearly hlate
    exact h.store hcount hstamp i answered
  unfold LimitWorld.count
  split
  · next row hrow => exact (hnext nofun row hrow true).setPoint _ _ _
  · next row hrow => exact (hnext nofun row hrow false).failOpen _ _ _ _
  · exact h.failOpen _ _ _ _

/-! ## What a step does -/

/-- A step waits, lets a request arrive, clears the table, or takes one request further. -/
lemma step_cases (h : w.step a = some w') :
    (∃ ms, a = .waits ms ∧ w' = { w with now := w.now + ms }) ∨
    (∃ request, a = .arrives request ∧
      w' = { w with requests := w.requests ++ [(request, .next request.checks)] }) ∨
    (∃ now, a = .cleansUp now ∧ now ≤ w.now ∧
      w' = { w with table := RateLimitTable.cleanUp w.table now }) ∨
    (∃ i request check rest clock, a = .readsClock i clock ∧
      w.requests[i]? = some (request, .checking (check :: rest)) ∧
      w' = w.setPoint i request (.counting check rest clock)) ∨
    (∃ i request check rest clock fate, a = .counts i fate ∧
      w.requests[i]? = some (request, .counting check rest clock) ∧
      w' = w.count i request check rest clock fate) ∨
    ∃ i request role, a = .looksUp i role ∧ w.requests[i]? = some (request, .lookingUp) ∧
      w' = w.setPoint i request (if role.any request.mailsTo then .mailed else .finished) := by
  cases a with
  | waits ms => exact Or.inl ⟨ms, rfl, (Option.some.inj h).symm⟩
  | arrives request => exact Or.inr (Or.inl ⟨request, rfl, (Option.some.inj h).symm⟩)
  | readsClock i clock =>
      obtain ⟨⟨request, point⟩, hpoint, h⟩ := Option.bind_eq_some_iff.mp h
      dsimp only at h
      split at h
      · next check rest =>
        exact Or.inr (Or.inr (Or.inr (Or.inl
          ⟨i, request, check, rest, clock, rfl, hpoint, (Option.some.inj h).symm⟩)))
      · cases h
  | counts i fate =>
      obtain ⟨⟨request, point⟩, hpoint, h⟩ := Option.bind_eq_some_iff.mp h
      dsimp only at h
      split at h
      · next check rest clock =>
        exact Or.inr (Or.inr (Or.inr (Or.inr (Or.inl
          ⟨i, request, check, rest, clock, fate, rfl, hpoint, (Option.some.inj h).symm⟩))))
      · cases h
  | looksUp i role =>
      obtain ⟨⟨request, point⟩, hpoint, h⟩ := Option.bind_eq_some_iff.mp h
      dsimp only at h
      split at h
      · exact Or.inr (Or.inr (Or.inr (Or.inr (Or.inr
          ⟨i, request, role, rfl, hpoint, (Option.some.inj h).symm⟩))))
      · cases h
  | cleansUp now =>
      simp only [step] at h
      split at h
      · next hnow =>
        exact Or.inr (Or.inr (Or.inl ⟨now, rfl, hnow, (Option.some.inj h).symm⟩))
      · cases h

lemma Counts.step (h : w.Counts skew) (htime : OnTime skew w a) (hstep : w.step a = some w') :
    w'.Counts skew := by
  obtain ⟨ms, -, rfl⟩ | ⟨request, -, rfl⟩ | ⟨now, -, hnow, rfl⟩ |
    ⟨i, request, check, rest, clock, -, -, rfl⟩ |
    ⟨i, request, check, rest, clock, fate, rfl, hpoint, rfl⟩ |
    ⟨i, request, role, -, -, rfl⟩ := step_cases hstep
  · exact h.of_eq (Nat.le_add_right _ _) rfl rfl
  · exact h.of_eq le_rfl rfl rfl
  · exact h.cleanUp hnow
  · exact h.setPoint _ _ _
  · exact h.count hpoint htime
  · exact h.setPoint _ _ _

/-! ## Requests that pass -/

/-- The count of the check has come back to the request, within the limit. -/
def Passed (w : LimitWorld) (i : ℕ) (check : RateCheck) (window : ℕ) : Prop :=
  ∃ c ∈ w.counted, c.request = i ∧ c.bucket = (check.key, window) ∧ c.answered = true ∧
    c.count ≤ check.maxRequests

instance (w : LimitWorld) (i : ℕ) (check : RateCheck) (window : ℕ) :
    Decidable (w.Passed i check window) :=
  inferInstanceAs (Decidable (∃ c ∈ w.counted, _))

/-- The requests that have passed a check in a window. -/
def passing (w : LimitWorld) (check : RateCheck) (window : ℕ) : List ℕ :=
  (List.range w.requests.length).filter fun i => w.Passed i check window

/-- A request is past a check, whose count came back or which failed open. -/
def Through (w : LimitWorld) (i : ℕ) (check : RateCheck) : Prop :=
  (∃ window, w.Passed i check window) ∨ (i, check.key) ∈ w.storeErrors

/-- A check has been counted more often than its limit. -/
def Exhausted (w : LimitWorld) (check : RateCheck) : Prop :=
  ∃ c ∈ w.counted, c.bucket.1 = check.key ∧ check.maxRequests < c.count

/-- What holds of a request. -/
structure Checked (w : LimitWorld) (i : ℕ) (request : LimitedRequest) (point : LimitedPoint) :
    Prop where
  ahead : ∀ check ∈ point.ahead request, check ∈ request.checks
  through : ∀ check ∈ request.checks, check ∈ point.ahead request ∨ w.Through i check
  blocked : point = .rateLimited → ∃ check ∈ request.checks, w.Exhausted check

def AllChecked (w : LimitWorld) : Prop :=
  ∀ i request point, w.requests[i]? = some (request, point) → w.Checked i request point

/-- What has been counted and what has failed stays. -/
structure Extends (w w' : LimitWorld) : Prop where
  counted : w.counted ⊆ w'.counted
  storeErrors : w.storeErrors ⊆ w'.storeErrors

lemma Extends.through (h : w.Extends w') (hthrough : w.Through i check) : w'.Through i check := by
  rcases hthrough with ⟨window, c, hc, hpassed⟩ | herror
  · exact Or.inl ⟨window, c, h.counted hc, hpassed⟩
  · exact Or.inr (h.storeErrors herror)

lemma Extends.exhausted (h : w.Extends w') (hexhausted : w.Exhausted check) :
    w'.Exhausted check := by
  obtain ⟨c, hc, hover⟩ := hexhausted
  exact ⟨c, h.counted hc, hover⟩

lemma Extends.checked (h : w.Extends w') (hchecked : w.Checked i request point) :
    w'.Checked i request point where
  ahead := hchecked.ahead
  through check hcheck := (hchecked.through check hcheck).imp_right h.through
  blocked hpoint := by
    obtain ⟨check, hcheck, hexhausted⟩ := hchecked.blocked hpoint
    exact ⟨check, hcheck, h.exhausted hexhausted⟩

lemma Checked.of_eq (h : w.Checked i request point) (hcounted : w'.counted = w.counted)
    (herrors : w'.storeErrors = w.storeErrors) : w'.Checked i request point :=
  Extends.checked ⟨hcounted ▸ List.Subset.refl _, herrors ▸ List.Subset.refl _⟩ h

/-- One request goes on. -/
lemma AllChecked.set (h : w.AllChecked) (hextends : w.Extends w')
    (hrequests : w'.requests = w.requests.set i (request, point))
    (hchecked : w'.Checked i request point) : w'.AllChecked := by
  intro j other otherPoint hj
  rw [hrequests, List.getElem?_set] at hj
  split at hj
  · next hij =>
    subst hij
    split at hj
    · obtain ⟨rfl, rfl⟩ := Prod.mk.inj (Option.some.inj hj)
      exact hchecked
    · cases hj
  · exact hextends.checked (h j other otherPoint hj)

lemma ahead_next (request : LimitedRequest) (rest : List RateCheck) :
    (LimitedPoint.next rest).ahead request = rest := by
  cases rest <;> rfl

lemma next_ne_rateLimited (rest : List RateCheck) : LimitedPoint.next rest ≠ .rateLimited := by
  cases rest <;> nofun

/-- The request is past the check that it has come from. -/
lemma Checked.next (h : w.Checked i request (.counting check rest clock)) (hextends : w.Extends w')
    (hthrough : w'.Through i check) : w'.Checked i request (.next rest) where
  ahead other hother := by
    rw [ahead_next] at hother
    exact h.ahead other (List.mem_cons_of_mem _ hother)
  through other hother := by
    rw [ahead_next]
    rcases h.through other hother with hahead | hold
    · rcases List.mem_cons.mp hahead with rfl | hrest
      · exact Or.inr hthrough
      · exact Or.inl hrest
    · exact Or.inr (hextends.through hold)
  blocked hpoint := absurd hpoint (next_ne_rateLimited rest)

lemma AllChecked.count (h : w.AllChecked)
    (hpoint : w.requests[i]? = some (request, .counting check rest clock)) (fate : CountFate)
    (hbucket : ∀ row, w.table.counted check.key clock w.now = some row →
      row.bucket = (check.key, windowStart clock)) :
    (w.count i request check rest clock fate).AllChecked := by
  have hchecked := h i request _ hpoint
  unfold LimitWorld.count
  split
  · next row hrow =>
    have hextends : w.Extends (w.store i row true) :=
      ⟨List.subset_append_left _ _, List.Subset.refl _⟩
    have hmem : (⟨i, row.bucket, row.count, true⟩ : CountedCheck) ∈
        (w.store i row true).counted := by
      simp [store]
    split
    · next hover =>
      refine h.set ⟨hextends.counted, hextends.storeErrors⟩ rfl
        ⟨fun _ hother => hother, fun _ hother => Or.inl hother, fun _ => ?_⟩
      have hexhausted : (w.store i row true).Exhausted check :=
        ⟨_, hmem, congrArg Prod.fst (hbucket row hrow), hover⟩
      exact ⟨check, hchecked.ahead check List.mem_cons_self, hexhausted⟩
    · next hover =>
      refine h.set ⟨hextends.counted, hextends.storeErrors⟩ rfl
        (hchecked.next ⟨hextends.counted, hextends.storeErrors⟩ (Or.inl ⟨windowStart clock, ?_⟩))
      exact ⟨_, hmem, rfl, hbucket row hrow, rfl, Nat.le_of_not_lt hover⟩
  · next row hrow =>
    have hextends : w.Extends ((w.store i row false).failOpen i request check rest) :=
      ⟨List.subset_append_left _ _, List.subset_append_left _ _⟩
    exact h.set hextends rfl (hchecked.next hextends (Or.inr (by simp [failOpen])))
  · have hextends : w.Extends (w.failOpen i request check rest) :=
      ⟨List.Subset.refl _, List.subset_append_left _ _⟩
    exact h.set hextends rfl (hchecked.next hextends (Or.inr (by simp [failOpen])))

/-- A row has the key of its check. -/
lemma bucket_counted {table : RateLimitTable} {key : String} {now : ℕ}
    (h : table.counted key clock now = some row) : row.bucket = (key, windowStart clock) := by
  unfold RateLimitTable.counted at h
  split at h
  · obtain rfl := Option.some.inj h
    rfl
  · next old hold =>
    split at h
    · obtain rfl := Option.some.inj h
      exact (KeyedLog.get?_eq_some.mp hold).2
    · cases h

lemma AllChecked.step (h : w.AllChecked) (hstep : w.step a = some w') : w'.AllChecked := by
  have hsame : ∀ i request point, w.Extends (w.setPoint i request point) := fun _ _ _ =>
    ⟨List.Subset.refl _, List.Subset.refl _⟩
  obtain ⟨ms, -, rfl⟩ | ⟨request, -, rfl⟩ | ⟨now, -, -, rfl⟩ |
    ⟨i, request, check, rest, clock, -, hpoint, rfl⟩ |
    ⟨i, request, check, rest, clock, fate, -, hpoint, rfl⟩ |
    ⟨i, request, role, -, hpoint, rfl⟩ := step_cases hstep
  · exact fun j other point hj => (h j other point hj).of_eq rfl rfl
  · intro j other point hj
    dsimp only at hj
    rcases Nat.lt_or_ge j w.requests.length with hlt | hge
    · rw [List.getElem?_append_left hlt] at hj
      exact (h j other point hj).of_eq rfl rfl
    · rw [List.getElem?_append_right hge, List.getElem?_singleton] at hj
      split at hj
      · obtain ⟨rfl, rfl⟩ := Prod.mk.inj (Option.some.inj hj)
        refine ⟨fun _ hcheck => ?_, fun _ hcheck => Or.inl ?_, fun hblocked => ?_⟩
        · rwa [ahead_next] at hcheck
        · rwa [ahead_next]
        · exact absurd hblocked (next_ne_rateLimited _)
      · cases hj
  · exact fun j other point hj => (h j other point hj).of_eq rfl rfl
  · obtain ⟨hahead, hthrough, -⟩ := h i request _ hpoint
    exact h.set (hsame i request _) rfl ⟨hahead, hthrough, nofun⟩
  · exact h.count hpoint fate fun row hrow => bucket_counted hrow
  · obtain ⟨-, hthrough, -⟩ := h i request _ hpoint
    refine h.set (hsame i request _) rfl ⟨?_, ?_, ?_⟩
    · split <;> exact fun _ hcheck => absurd hcheck List.not_mem_nil
    · intro check hcheck
      exact Or.inr ((hthrough check hcheck).resolve_left List.not_mem_nil)
    · split <;> nofun

/-! ## Runs -/

/-- The counts of all keys and windows. -/
def limits (w : LimitWorld) : RateLimits := total CountedCheck.bucket w.counted

lemma limits_store (i : ℕ) (row : RateLimitRow) (answered : Bool)
    (hcount : row.count = w.limits row.bucket + 1) :
    (w.store i row answered).limits = Function.update w.limits row.bucket row.count := by
  funext bucket
  rw [limits, LimitWorld.store, total_concat, Function.update_apply]
  dsimp only
  by_cases hbucket : bucket = row.bucket
  · rw [if_pos hbucket.symm, if_pos hbucket, hbucket, hcount]
    rfl
  · rw [if_neg (Ne.symm hbucket), if_neg hbucket]
    rfl

/-- A statement that comes on time finds a row that fits, unless the counter has run over. -/
lemma Counts.exists_counted (h : w.Counts skew)
    (hfits : w.limits (check.key, windowStart clock) < maxInteger) :
    ∃ row, w.table.counted check.key clock w.now = some row := by
  unfold RateLimitTable.counted
  split
  · exact ⟨_, rfl⟩
  · next row hrow =>
    rw [if_pos ((h.stored _ row hrow).1 ▸ hfits)]
    exact ⟨_, rfl⟩

/-- Two requests of one minute, with a clean-up between them. -/
def twoRequests : List LimitAction :=
  [.arrives (.forgotPassword "10.0.0.1" "ada@x.org"), .readsClock 0 60500, .counts 0 .answered,
    .readsClock 0 60500, .counts 0 .answered, .looksUp 0 (some .admin), .waits 59000,
    .cleansUp 119000, .arrives (.forgotPassword "10.0.0.2" "ada@x.org"), .readsClock 1 119100,
    .counts 1 .answered, .readsClock 1 119100, .counts 1 .lost, .looksUp 1 (some .admin)]

/-- What a check comes to is what the counter makes of the counts so far. -/
def DecidesAsCounter (w : LimitWorld) (a : LimitAction) (w' : LimitWorld) : Prop :=
  ∀ i request check rest clock storeFails,
    a = .counts i (if storeFails then .failed else .answered) →
    w.requests[i]? = some (request, .counting check rest clock) →
    w.limits (check.key, windowStart clock) < maxInteger →
      let (allowed, limits) := checkRateLimit check.key check.maxRequests clock storeFails w.limits
      w'.requests[i]? = some (request, if allowed then .next rest else .rateLimited) ∧
        w'.limits = limits

/-- Every mail is behind all checks of its request, each of which has either come back within its
limit or failed open; a check comes back within its limit for no more requests of a window than the
limit; and no request is turned away before a check of it has been counted more often than that. -/
theorem mails_within_limits {start : ℕ} {as : List LimitAction}
    (hrun : run step (initial start) as = some w)
    (htime : Meets step (OnTime skew) (initial start) as) :
    (∀ i request, w.requests[i]? = some (request, .mailed) → ∀ check ∈ request.checks,
        (∃ window, w.Passed i check window) ∨ (i, check.key) ∈ w.storeErrors) ∧
      (∀ check window, (w.passing check window).length ≤ check.maxRequests) ∧
      ∀ (i : ℕ) (request : LimitedRequest), w.requests[i]? = some (request, .rateLimited) →
        ∃ check ∈ request.checks, ∃ window, check.maxRequests < w.counted.countP fun c => c.bucket =
          (check.key, window) := by
  have hcounts : w.Counts skew :=
    htime.invariant (fun _ _ _ h htime hstep => h.step htime hstep) (counts_initial start) hrun
  have hchecked : w.AllChecked :=
    htime.invariant (fun _ _ _ h _ hstep => h.step hstep)
      (fun i request point h => by simp [initial] at h) hrun
  refine ⟨fun i request hmailed check hcheck => ?_, fun check window => ?_,
    fun i request hblocked => ?_⟩
  · exact ((hchecked i request _ hmailed).through check hcheck).resolve_left List.not_mem_nil
  · have hbear : ∀ i ∈ w.passing check window, ∃ c ∈ w.counted, c.request = i ∧
        c.bucket = (check.key, window) ∧ c.count ≤ check.maxRequests := by
      intro i hi
      obtain ⟨c, hc, hrequest, hbucket, -, hle⟩ := of_decide_eq_true (List.mem_filter.mp hi).2
      exact ⟨c, hc, hrequest, hbucket, hle⟩
    exact hcounts.numbered.length_le_of_bearers (List.nodup_range.filter _) hbear
  · obtain ⟨check, hcheck, c, hc, hkey, hover⟩ := (hchecked i request _ hblocked).blocked rfl
    refine ⟨check, hcheck, c.bucket.2, ?_⟩
    obtain ⟨earlier, later, hsplit⟩ := List.append_of_mem hc
    have hnumber := hcounts.numbered earlier c later hsplit
    have hbucket : c.bucket = (check.key, c.bucket.2) := Prod.ext hkey rfl
    rw [← hbucket, hsplit, List.countP_append, List.countP_cons]
    simp only [total] at hnumber
    simp only [decide_true, if_true]
    omega

theorem mails_within_limits_twoRequests : ∃ w, run step (initial 60000) twoRequests = some w ∧
    (w.passing ⟨"forgotpw:email:ada@x.org", 3⟩ 60000).length ≤ 3 := by
  obtain ⟨w, hrun⟩ : ∃ w, run step (initial 60000) twoRequests = some w :=
    Option.isSome_iff_exists.mp (by decide)
  have htime : Meets step (OnTime 1000) (initial 60000) twoRequests := by decide
  exact ⟨w, hrun, (mails_within_limits hrun htime).2.1 ⟨"forgotpw:email:ada@x.org", 3⟩ 60000⟩

/-- A statement that is more than two minutes late may find its window cleared. -/
example : ((run step (initial 0) [.arrives (.other [⟨"scanpair:global", 1⟩]),
    .arrives (.other [⟨"scanpair:global", 1⟩]), .readsClock 0 0, .readsClock 1 0,
    .counts 0 .answered, .waits 120001, .cleansUp 120001, .counts 1 .answered]).map fun w =>
      w.passing ⟨"scanpair:global", 1⟩ 0) = some [0, 1] := by decide

end LimitWorld

end ExpresSync
