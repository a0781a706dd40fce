import Mathlib.Data.List.Nodup
import Mathlib.Data.List.Sort
import Mathlib.Order.Basic

/-!
# Step functions from spans

A step function is a list of points, and its value is that of the last point not after the argument.
`sweep` flattens spans, which may touch, overlap or lie in each other, into points: a gap is put
wherever a span begins after the end of the one before it.  Its value is that of the span that has
begun last until that span ends, and the gap's from then on (`valueAt_sweep`).  So the sweep is
faithful to the spans only where no other span still goes on at the end of one
(`faithful_sweep_iff`).
-/

namespace StepFunction

variable {β : Type*}

/-- A value from `start` on, up to `stop`. -/
structure Span (β : Type*) where
  start : ℕ
  stop : ℕ
  value : β
  start_lt : start < stop

def Span.Covers (s : Span β) (t : ℕ) : Prop := s.start ≤ t ∧ t < s.stop

instance (s : Span β) (t : ℕ) : Decidable (s.Covers t) := inferInstanceAs (Decidable (_ ∧ _))

/-- The value of the last point not after `t`. -/
def valueAt (points : List (ℕ × β)) (t : ℕ) : Option β :=
  ((points.filter fun p => decide (p.1 ≤ t)).getLast?).map Prod.snd

/-- The span that has begun last. -/
def begun (spans : List (Span β)) (t : ℕ) : Option (Span β) :=
  (spans.filter fun s => decide (s.start ≤ t)).getLast?

/-- Points for the spans and for the gaps between them, up to `horizon`. -/
def sweep (horizon : ℕ) (gap : β) : ℕ → List (Span β) → List (ℕ × β)
  | cursor, [] => if cursor < horizon then [(cursor, gap)] else []
  | cursor, s :: spans =>
      (if cursor < s.start then [(cursor, gap)] else []) ++
        (s.start, s.value) :: sweep horizon gap s.stop spans

/-! ## Values -/

section Values

variable {points points' : List (ℕ × β)} {t : ℕ}

lemma valueAt_append :
    valueAt (points ++ points') t = (valueAt points' t).or (valueAt points t) := by
  rw [valueAt, List.filter_append, List.getLast?_append, Option.map_or]
  rfl

lemma valueAt_singleton (p : ℕ × β) : valueAt [p] t = if p.1 ≤ t then some p.2 else none := by
  unfold valueAt
  split
  · next h => rw [List.filter_cons_of_pos (by simpa using h)]; rfl
  · next h => rw [List.filter_cons_of_neg (by simpa using h)]; rfl

lemma valueAt_cons (p : ℕ × β) :
    valueAt (p :: points) t =
      (valueAt points t).or (if p.1 ≤ t then some p.2 else none) := by
  rw [← List.singleton_append, valueAt_append, valueAt_singleton]

/-- After the last point nothing changes. -/
lemma valueAt_of_le {m : ℕ} (hpoints : ∀ p ∈ points, p.1 ≤ m) (ht : m ≤ t) :
    valueAt points t = valueAt points m := by
  have hall : ∀ n, m ≤ n → (points.filter fun p => decide (p.1 ≤ n)) = points := fun n hn =>
    List.filter_eq_self.mpr fun p hp => decide_eq_true ((hpoints p hp).trans hn)
  rw [valueAt, valueAt, hall t ht, hall m (Nat.le_refl m)]

end Values

/-! ## Spans in order -/

section Begun

variable {spans : List (Span β)} {s : Span β} {t : ℕ}

lemma begun_eq_none : begun spans t = none ↔ ∀ s ∈ spans, t < s.start := by
  rw [begun, List.getLast?_eq_none_iff, List.filter_eq_nil_iff]
  simp only [decide_eq_true_eq, Nat.not_le]

/-- In spans that are ordered by their starts, those after the one begun last have not begun. -/
lemma begun_eq_some (hsorted : spans.Pairwise fun a b => a.start ≤ b.start)
    (h : begun spans t = some s) :
    ∃ before after, spans = before ++ s :: after ∧ s.start ≤ t ∧
      (∀ u ∈ before, u.start ≤ s.start) ∧ ∀ u ∈ after, t < u.start := by
  induction spans with
  | nil => cases h
  | cons first spans ih =>
      obtain ⟨hfirst, hsorted⟩ := List.pairwise_cons.mp hsorted
      cases hrest : begun spans t with
      | some u =>
          have hbegun : begun (first :: spans) t = begun spans t := by
            unfold begun at hrest ⊢
            by_cases hle : first.start ≤ t
            · rw [List.filter_cons_of_pos (by simpa using hle), List.getLast?_cons, hrest]
              rfl
            · rw [List.filter_cons_of_neg (by simpa using hle)]
          rw [hbegun] at h
          obtain ⟨before, after, rfl, hle, hbefore, hafter⟩ := ih hsorted h
          refine ⟨first :: before, after, rfl, hle, fun u hu => ?_, hafter⟩
          rcases List.mem_cons.mp hu with rfl | hu
          · exact hfirst s (List.mem_append_right _ List.mem_cons_self)
          · exact hbefore u hu
      | none =>
          have hnone := begun_eq_none.mp hrest
          have hfilter : (spans.filter fun s => decide (s.start ≤ t)) = [] :=
            List.filter_eq_nil_iff.mpr fun u hu => by simpa using hnone u hu
          unfold begun at h
          by_cases hle : first.start ≤ t
          · rw [List.filter_cons_of_pos (by simpa using hle), hfilter] at h
            obtain rfl := Option.some.inj h
            exact ⟨[], spans, rfl, hle, by simp, hnone⟩
          · rw [List.filter_cons_of_neg (by simpa using hle), hfilter] at h
            cases h

/-- No span has begun after the one begun last. -/
lemma le_of_begun (hsorted : spans.Pairwise fun a b => a.start ≤ b.start)
    (h : begun spans t = some s) {u : Span β} (hu : u ∈ spans) (hle : u.start ≤ t) :
    u.start ≤ s.start := by
  obtain ⟨before, after, rfl, -, hbefore, hafter⟩ := begun_eq_some hsorted h
  rcases List.mem_append.mp hu with hu | hu
  · exact hbefore u hu
  · rcases List.mem_cons.mp hu with rfl | hu
    · exact Nat.le_refl _
    · exact absurd hle (Nat.not_le.mpr (hafter u hu))

lemma mem_of_begun (h : begun spans t = some s) : s ∈ spans ∧ s.start ≤ t := by
  have hmem := List.mem_of_getLast? h
  simpa using List.mem_filter.mp hmem

end Begun

/-! ## The sweep -/

section Sweep

variable {horizon : ℕ} {gap : β} {spans : List (Span β)} {t cursor : ℕ}

/-- Before all spans there is the gap, from the cursor on. -/
lemma valueAt_sweep_of_lt (hlt : ∀ s ∈ spans, t < s.start) (ht : t < horizon) :
    valueAt (sweep horizon gap cursor spans) t = if cursor ≤ t then some gap else none := by
  induction spans generalizing cursor with
  | nil =>
      unfold sweep
      split
      · exact valueAt_singleton _
      · rw [if_neg (by omega)]
        rfl
  | cons s spans ih =>
      have hs := hlt s List.mem_cons_self
      have hstop := s.start_lt
      unfold sweep
      rw [valueAt_append, valueAt_cons, ih fun u hu => hlt u (List.mem_cons_of_mem _ hu),
        if_neg (by omega), if_neg (by omega), Option.none_or, Option.none_or]
      split
      · exact valueAt_singleton _
      · rw [if_neg (by omega)]
        rfl

/-- The value of the sweep is that of the span begun last, as long as it lasts. -/
theorem valueAt_sweep (hsorted : spans.Pairwise fun a b => a.start ≤ b.start) (ht : t < horizon) :
    valueAt (sweep horizon gap 0 spans) t =
      some (match begun spans t with
        | none => gap
        | some s => if s.stop ≤ t then gap else s.value) := by
  cases hbegun : begun spans t with
  | none =>
      rw [valueAt_sweep_of_lt (begun_eq_none.mp hbegun) ht, if_pos (Nat.zero_le t)]
  | some s =>
      obtain ⟨before, after, rfl, hle, -, hafter⟩ := begun_eq_some hsorted hbegun
      have hskip : ∀ cursor, valueAt (sweep horizon gap cursor (before ++ s :: after)) t =
          some (if s.stop ≤ t then gap else s.value) := by
        clear hsorted hbegun
        induction before with
        | nil =>
            intro cursor
            rw [List.nil_append, sweep, valueAt_append, valueAt_cons,
              valueAt_sweep_of_lt hafter ht, if_pos hle]
            split <;> rfl
        | cons first before ih =>
            intro cursor
            rw [List.cons_append, sweep, valueAt_append, valueAt_cons, ih, Option.some_or,
              Option.some_or]
      exact hskip 0

/-- No point is at the horizon or after. -/
lemma lt_horizon_of_mem_sweep (hspans : ∀ s ∈ spans, s.start < horizon) {p : ℕ × β}
    (hp : p ∈ sweep horizon gap cursor spans) : p.1 < horizon := by
  induction spans generalizing cursor with
  | nil =>
      unfold sweep at hp
      split at hp
      · next h =>
        obtain rfl := List.mem_singleton.mp hp
        exact h
      · cases hp
  | cons s spans ih =>
      have hs := hspans s List.mem_cons_self
      unfold sweep at hp
      rcases List.mem_append.mp hp with hp | hp
      · split at hp
        · obtain rfl := List.mem_singleton.mp hp
          dsimp only
          omega
        · cases hp
      · rcases List.mem_cons.mp hp with rfl | hp
        · exact hs
        · exact ih (fun u hu => hspans u (List.mem_cons_of_mem _ hu)) hp

/-- Spans with different starts give points that go up. -/
lemma pairwise_sweep (hsorted : spans.Pairwise fun a b => a.start < b.start) {low : ℕ}
    (hspans : ∀ s ∈ spans, low ≤ s.start) (hcursor : low ≤ cursor) :
    (sweep horizon gap cursor spans).Pairwise (fun p q => p.1 < q.1) ∧
      ∀ p ∈ sweep horizon gap cursor spans, low ≤ p.1 := by
  induction spans generalizing cursor low with
  | nil =>
      unfold sweep
      split <;> simp [hcursor]
  | cons s spans ih =>
      obtain ⟨hs, hsorted⟩ := List.pairwise_cons.mp hsorted
      have hlow := hspans s List.mem_cons_self
      have hstop := s.start_lt
      obtain ⟨hrest, hafter⟩ := ih hsorted (fun u hu => Nat.succ_le_of_lt (hs u hu))
        (Nat.succ_le_of_lt hstop)
      have hbody : ((s.start, s.value) :: sweep horizon gap s.stop spans).Pairwise
          (fun p q => p.1 < q.1) := List.pairwise_cons.mpr ⟨hafter, hrest⟩
      have habove : ∀ p ∈ (s.start, s.value) :: sweep horizon gap s.stop spans,
          s.start ≤ p.1 := by
        intro p hp
        rcases List.mem_cons.mp hp with rfl | hp
        · exact Nat.le_refl _
        · exact (Nat.le_succ _).trans (hafter p hp)
      unfold sweep
      split
      · next hgap =>
        refine ⟨List.pairwise_cons.mpr ⟨fun p hp => hgap.trans_le (habove p hp), hbody⟩, ?_⟩
        intro p hp
        rcases List.mem_cons.mp hp with rfl | hp
        · exact hcursor
        · exact hlow.trans (habove p hp)
      · exact ⟨hbody, fun p hp => hlow.trans (habove p hp)⟩

/-- Every span has its point. -/
lemma starts_sublist_sweep :
    (spans.map Span.start).Sublist ((sweep horizon gap cursor spans).map Prod.fst) := by
  induction spans generalizing cursor with
  | nil => exact List.nil_sublist _
  | cons s spans ih =>
      rw [sweep, List.map_append, List.map_cons, List.map_cons]
      exact (ih.cons_cons s.start).trans (List.sublist_append_right _ _)

/-- A sweep of something begins at its cursor, or with its first span. -/
lemma head?_sweep_zero (hspans : spans ≠ []) :
    ((sweep horizon gap 0 spans).map Prod.fst).head? = some 0 := by
  cases spans with
  | nil => exact absurd rfl hspans
  | cons s spans =>
      unfold sweep
      split
      · rfl
      · next h =>
        have hzero : s.start = 0 := by omega
        rw [List.nil_append, List.map_cons, List.head?_cons, hzero]

/-- The value is that of a span there, or the gap's where there is none. -/
def Faithful (spans : List (Span β)) (gap : β) (points : List (ℕ × β)) (t : ℕ) : Prop :=
  (∃ s ∈ spans, s.Covers t ∧ valueAt points t = some s.value) ∨
    (∀ s ∈ spans, ¬s.Covers t) ∧ valueAt points t = some gap

/-- Where a span ends and another goes on, a third has begun in the meantime. -/
def Relieved (spans : List (Span β)) : Prop :=
  ∀ s ∈ spans, ∀ other ∈ spans, other.Covers s.stop → ∃ u ∈ spans, s.start < u.start ∧
    u.start ≤ s.stop

/-- At any time the sweep is faithful to the spans unless the one begun last has ended and another
one goes on. -/
lemma faithful_sweep_iff_at (hsorted : spans.Pairwise fun a b => a.start ≤ b.start)
    (hvalue : ∀ s ∈ spans, s.value ≠ gap) (ht : t < horizon) :
    Faithful spans gap (sweep horizon gap 0 spans) t ↔
      ∀ s, begun spans t = some s → s.stop ≤ t → ∀ other ∈ spans, ¬other.Covers t := by
  unfold Faithful
  rw [valueAt_sweep hsorted ht]
  cases hbegun : begun spans t with
  | none =>
      have hnone := begun_eq_none.mp hbegun
      refine iff_of_true (Or.inr ⟨fun s hs hcovers => ?_, rfl⟩) fun s h => nomatch h
      exact absurd hcovers.1 (Nat.not_le.mpr (hnone s hs))
  | some s =>
      obtain ⟨hs, hle⟩ := mem_of_begun hbegun
      by_cases hstop : s.stop ≤ t
      · simp only [if_pos hstop, Option.some.injEq]
        constructor
        · rintro (⟨other, hother, -, hgap⟩ | ⟨hnone, -⟩) u rfl _
          · exact absurd hgap.symm (hvalue other hother)
          · exact hnone
        · exact fun h => Or.inr ⟨h s rfl hstop, trivial⟩
      · simp only [if_neg hstop]
        refine iff_of_true (Or.inl ⟨s, hs, ⟨hle, Nat.not_le.mp hstop⟩, rfl⟩) ?_
        intro u hu hended
        obtain rfl := Option.some.inj hu
        exact absurd hended hstop

/-- The sweep of spans with different starts is faithful to them everywhere exactly when each of
them is relieved where it ends. -/
theorem faithful_sweep_iff (hsorted : spans.Pairwise fun a b => a.start < b.start)
    (hvalue : ∀ s ∈ spans, s.value ≠ gap) (hspans : ∀ s ∈ spans, s.stop ≤ horizon) :
    (∀ t < horizon, Faithful spans gap (sweep horizon gap 0 spans) t) ↔ Relieved spans := by
  have hweak : spans.Pairwise fun a b => a.start ≤ b.start := hsorted.imp Nat.le_of_lt
  constructor
  · intro hfaithful s hs other hother hcovers
    by_contra hnone
    have hlt : s.stop < horizon := hcovers.2.trans_le (hspans other hother)
    have hstart := s.start_lt
    -- nothing has begun since `s`
    have hbegun : begun spans s.stop = some s := by
      cases hlast : begun spans s.stop with
      | none => exact absurd (begun_eq_none.mp hlast s hs) (by omega)
      | some u =>
          obtain ⟨hu, hule⟩ := mem_of_begun hlast
          have hle := le_of_begun hweak hlast hs hstart.le
          have hsame : u.start = s.start :=
            Nat.le_antisymm (Nat.le_of_not_lt fun hgt => hnone ⟨u, hu, hgt, hule⟩) hle
          have hnodup : (spans.map Span.start).Nodup := by
            rw [List.Nodup, List.pairwise_map]
            exact hsorted.imp Nat.ne_of_lt
          rw [List.inj_on_of_nodup_map hnodup hu hs hsame]
    exact (faithful_sweep_iff_at hweak hvalue hlt).mp (hfaithful _ hlt) s hbegun (Nat.le_refl _)
      other hother hcovers
  · intro hrelieved t ht
    refine (faithful_sweep_iff_at hweak hvalue ht).mpr fun s hbegun hstop other hother hcovers => ?_
    obtain ⟨hs, hle⟩ := mem_of_begun hbegun
    have hover_le := le_of_begun hweak hbegun hother hcovers.1
    have hstart := s.start_lt
    obtain ⟨u, hu, hgt, hule⟩ := hrelieved s hs other hother ⟨by omega, by
      have hlast := hcovers.2
      omega⟩
    exact absurd (le_of_begun hweak hbegun hu (hule.trans hstop)) (Nat.not_le.mpr hgt)

end Sweep

end StepFunction
