import ExpresSync.Properties.ObjectTally

/-!
# Readings that dip and climb back

The monotonic guard lets a meter value pass that is up to 50 Wh below the last one, and the last
value is lowered with it, so the way back up is added to the pending delta a second time.

The values a record has accepted are not part of the source.  `MeterWatch` keeps them beside the
emitter, one list for each object.  `countsOnce_of_risesFromTop` says which runs are free of the
defect: those in which a record only ever rises from the highest value it has accepted.
-/

namespace ExpresSync

open Transition

/-! ## The values a record has accepted -/

/-- The emitter and, for every object, the meter values it has accepted, the newest first. -/
structure MeterWatch where
  world : World
  accepted : ℕ → List ℤ

/-- A value passes the monotonic guard of a record. -/
def TxObject.Accepts (obj : TxObject) (meterValueWh : ℤ) : Prop :=
  ∀ last ∈ obj.st.lastMeterValueWh, last - monotonicGuardWh ≤ meterValueWh

instance (obj : TxObject) (meterValueWh : ℤ) : Decidable (obj.Accepts meterValueWh) := by
  unfold TxObject.Accepts
  infer_instance

namespace MeterWatch

/-- The values accepted after an action. -/
def noteAccepted (s : MeterWatch) : Action → ℕ → List ℤ
  | .sample sample =>
      match sample.kwh with
      | none => s.accepted
      | some kwh =>
          match stateIndex s.world.heap sample.steveTransactionId with
          | some i =>
              if ∃ obj ∈ s.world.heap[i]?, obj.Accepts (meterWh kwh) then
                Function.update s.accepted i (meterWh kwh :: s.accepted i)
              else s.accepted
          | none => Function.update s.accepted s.world.heap.length [meterWh kwh]
  | _ => s.accepted

/-- One step of the emitter and of the other parties, watched. -/
def step (s : MeterWatch) (a : Action) : Option MeterWatch :=
  (World.step s.world a).map fun world => ⟨world, s.noteAccepted a⟩

/-- Nothing has been accepted before the first step. -/
def initial (userMappings : List UserMapping) (clock : ℕ) : MeterWatch where
  world := World.initial userMappings clock
  accepted := fun _ => []

/-- With no flush in flight, what is sent and what is pending is no more than the highest accepted
meter value is above the first one. -/
def CountsOnce (s : MeterWatch) : Prop :=
  ∀ (i : ℕ) (obj : TxObject), s.world.heap[i]? = some obj → obj.flushing = none →
    ∃ first ∈ (s.accepted i).getLast?, ∃ top ∈ (s.accepted i).max?,
      obj.st.totalBilledKwh + obj.st.pendingDeltaKwh ≤ ((top : ℚ) - first) / 1000

/-- A sample that raises the meter value of a record raises it from the highest value the record has
accepted: it is not on its way back from a dip. -/
def RisesFromTop (s : MeterWatch) : Action → Prop
  | .sample sample =>
      ∀ kwh ∈ sample.kwh, ∀ i ∈ stateIndex s.world.heap sample.steveTransactionId,
        ∀ obj ∈ s.world.heap[i]?, ∀ last ∈ obj.st.lastMeterValueWh, last < meterWh kwh →
          ∀ value ∈ s.accepted i, value ≤ last
  | _ => True

instance (s : MeterWatch) (a : Action) : Decidable (s.RisesFromTop a) := by
  unfold RisesFromTop
  rcases a <;> infer_instance

lemma step_eq_some {s s' : MeterWatch} {a : Action} :
    s.step a = some s' ↔
      World.step s.world a = some s'.world ∧ s'.accepted = s.noteAccepted a := by
  unfold step
  rw [Option.map_eq_some_iff]
  constructor
  · rintro ⟨world, hstep, rfl⟩
    exact ⟨hstep, rfl⟩
  · rintro ⟨hstep, haccepted⟩
    exact ⟨s'.world, hstep, by rw [← haccepted]⟩

end MeterWatch

/-! ## Accounts of a record -/

/-- The books of a record against the values it has accepted: its meter shows the newest, and what
is sent and pending is covered by the span from the first to the highest. -/
structure CoveredBy (t : Tally) (accepted : List ℤ) : Prop where
  newest : t.last = accepted.head?
  span : ∃ first ∈ accepted.getLast?, ∃ top ∈ accepted.max?,
    t.total + t.pending ≤ ((top : ℚ) - first) / 1000

namespace CoveredBy

variable {t t' : Tally} {accepted : List ℤ}

/-- A step that does not move the meter and counts nothing new keeps the books covered. -/
lemma of_le (h : CoveredBy t accepted) (hlast : t'.last = t.last)
    (hsum : t'.total + t'.pending ≤ t.total + t.pending) : CoveredBy t' accepted := by
  obtain ⟨hnewest, first, hfirst, top, htop, hle⟩ := h
  exact ⟨hlast.trans hnewest, first, hfirst, top, htop, hsum.trans hle⟩

/-- A first sample counts nothing. -/
lemma of_first (m : ℤ) : CoveredBy ⟨some m, some m, m, 0, 0⟩ [m] := by
  refine ⟨rfl, m, by simp, m, by simp, ?_⟩
  simp

/-- An accepted value keeps the books covered when it does not rise, or rises from the highest value
so far. -/
lemma add {last m : ℤ} (h : CoveredBy t accepted)
    (hrise : last < m → ∀ value ∈ accepted, value ≤ last) :
    CoveredBy (t.add last m) (m :: accepted) := by
  obtain ⟨hnewest, first, hfirst, top, htop, hle⟩ := h
  have hne : accepted ≠ [] := by
    rintro rfl
    simp at hfirst
  obtain ⟨htopMem, htopMax⟩ := List.max?_eq_some_iff.mp htop
  have hfirst' : (m :: accepted).getLast? = some first := by
    rw [List.getLast?_cons_of_ne_nil hne]
    exact hfirst
  refine ⟨rfl, first, hfirst', max m top, ?_, ?_⟩
  · refine List.max?_eq_some_iff.mpr ⟨?_, ?_⟩
    · rcases max_choice m top with hm | ht
      · rw [hm]
        exact List.mem_cons_self
      · rw [ht]
        exact List.mem_cons_of_mem m htopMem
    · intro value hvalue
      rcases List.mem_cons.mp hvalue with rfl | hvalue
      · exact le_max_left _ _
      · exact (htopMax value hvalue).trans (le_max_right _ _)
  · have htop' : (top : ℚ) ≤ ((max m top : ℤ) : ℚ) := by exact_mod_cast le_max_right m top
    have hm' : (m : ℚ) ≤ ((max m top : ℤ) : ℚ) := by exact_mod_cast le_max_left m top
    simp only [Tally.add]
    split
    · next hlt =>
        -- The meter was at its highest value, so the new span is longer by the whole rise.
        have hlow : (top : ℚ) ≤ last := by exact_mod_cast hrise hlt top htopMem
        linarith
    · linarith

end CoveredBy

/-! ## The invariant -/

/-- The books of every record are covered by what it has accepted. -/
def MeterWatch.Covered (s : MeterWatch) : Prop :=
  ∀ (i : ℕ) (obj : TxObject), s.world.heap[i]? = some obj →
    obj.Regular ∧ CoveredBy obj.tally (s.accepted i)

/-- An object step that is no sample of the object counts nothing new and leaves the meter alone. -/
lemma TxObject.Regular.tally_le {w : World} {i : ℕ} {a : Action} {obj obj' : TxObject}
    (hreg : obj.Regular) (h : ObjectStep w i a obj obj')
    (hsample : ∀ sample kwh, a = .sample sample → sample.kwh = some kwh → obj.held = true →
      obj.st.steveTransactionId ≠ sample.steveTransactionId) :
    obj'.tally.last = obj.tally.last ∧
      obj'.tally.total + obj'.tally.pending ≤ obj.tally.total + obj.tally.pending := by
  have hnonneg := hreg.pending_nonneg
  cases h.tallyStep hreg.anchored with
  | idle htally hflush => exact ⟨by rw [htally], by rw [htally]⟩
  | sent ha hflush hpoint hsub htally hflush' => exact ⟨by rw [htally], by rw [htally]⟩
  | answered ha hflush hpoint hhas htally hflush' => exact ⟨by rw [htally], by rw [htally]⟩
  | committed ha hflush hpoint htally hflush' => exact ⟨by rw [htally], by rw [htally]⟩
  | sampled ha hkwh hheld hid hlast hguard htally hflush =>
      exact absurd hid (hsample _ _ ha hkwh hheld)
  | dropped ha hflush hpoint hdrop htally hflush' =>
      rw [htally]
      exact ⟨rfl, by simpa using hnonneg⟩
  | succeeded ha hflush hpoint htally hflush' =>
      have hargs := hreg.flight _ hflush
      rw [hpoint] at hargs
      obtain ⟨-, -, hpending, hnew, -⟩ := hargs
      rw [htally]
      refine ⟨rfl, ?_⟩
      simp only [hnew]
      linarith

/-- What a sample does to the books of the record it reaches. -/
lemma TxObject.takeSample_tally {obj : TxObject} {last : ℤ}
    (hlast : obj.st.lastMeterValueWh = some last) (sample : MeterSample) (m : ℤ) (now : ℕ) :
    (obj.takeSample sample m now).tally =
      if last - monotonicGuardWh ≤ m then obj.tally.add last m else obj.tally := by
  unfold TxObject.takeSample
  rw [hlast]
  dsimp only
  by_cases hguard : m < last - monotonicGuardWh
  · rw [if_pos hguard, if_neg (not_le.mpr hguard)]
  · rw [if_neg hguard, if_pos (not_lt.mp hguard)]
    split
    · rw [TxObject.startFlush_tally]
      rfl
    · rfl

lemma TxObject.accepts_iff {obj : TxObject} {last : ℤ} (hlast : obj.st.lastMeterValueWh = some last)
    (m : ℤ) : obj.Accepts m ↔ last - monotonicGuardWh ≤ m := by
  simp [TxObject.Accepts, hlast]

/-- Where the state map has no entry for a transaction, no held object is one of it. -/
lemma not_held_of_stateIndex {heap : List TxObject} {id i : ℕ} {obj : TxObject}
    (h : stateIndex heap id = none) (hobj : heap[i]? = some obj)
    (hid : obj.st.steveTransactionId = id) : obj.held = false := by
  have hnone := List.findIdx?_eq_none_iff.mp h obj (List.mem_of_getElem? hobj)
  simpa [hid] using hnone

namespace MeterWatch

variable {s s' : MeterWatch} {a : Action}

/-- A sample of a transaction that has an entry keeps the books covered. -/
lemma Covered.sampled {sample : MeterSample} {kwh : ℚ} {i : ℕ} (h : s.Covered)
    (hrise : s.RisesFromTop (.sample sample)) (hkwh : sample.kwh = some kwh)
    (hidx : stateIndex s.world.heap sample.steveTransactionId = some i)
    (hstep : s.step (.sample sample) = some s') {j : ℕ} {obj' : TxObject}
    (hobj' : s'.world.heap[j]? = some obj') : CoveredBy obj'.tally (s'.accepted j) := by
  obtain ⟨hworld, haccepted⟩ := step_eq_some.mp hstep
  have hheap : s'.world.heap = s.world.heap.modify i fun obj =>
      obj.takeSample sample (meterWh kwh) s.world.clock := by
    obtain hw := Option.some.inj hworld
    rw [← hw]
    simp [enqueueMeterSample, hkwh, hidx]
  rw [hheap, List.getElem?_modify] at hobj'
  obtain ⟨obj, hobj, rfl⟩ := Option.map_eq_some_iff.mp hobj'
  obtain ⟨hreg, hcovered⟩ := h j obj hobj
  rw [haccepted]
  simp only [noteAccepted, hkwh, hidx]
  by_cases hij : i = j
  · subst hij
    obtain ⟨last, hlast⟩ := Option.isSome_iff_exists.mp hreg.anchored.2
    have hlast' : obj.st.lastMeterValueWh = some last := hlast
    rw [if_pos rfl, TxObject.takeSample_tally hlast']
    have hnoted : (∃ obj ∈ s.world.heap[i]?, obj.Accepts (meterWh kwh)) ↔
        last - monotonicGuardWh ≤ meterWh kwh := by
      simp [hobj, TxObject.accepts_iff hlast']
    by_cases hguard : last - monotonicGuardWh ≤ meterWh kwh
    · rw [if_pos (hnoted.mpr hguard), if_pos hguard, Function.update_self]
      exact hcovered.add (hrise kwh hkwh i hidx obj hobj last hlast')
    · rw [if_neg (hnoted.not.mpr hguard), if_neg hguard]
      exact hcovered
  · rw [if_neg hij]
    split
    · rw [Function.update_of_ne (Ne.symm hij)]
      exact hcovered
    · exact hcovered

/-- A step whose sample, if it is one, reaches no entry adds to no list of an object there is. -/
lemma noteAccepted_of_ne {j : ℕ} (hj : j < s.world.heap.length)
    (hidx : ∀ sample, a = .sample sample → sample.kwh.isSome →
      stateIndex s.world.heap sample.steveTransactionId = none) :
    s.noteAccepted a j = s.accepted j := by
  cases a with
  | sample sample =>
      cases hkwh : sample.kwh with
      | none => simp [noteAccepted, hkwh]
      | some kwh =>
          have hnone := hidx sample rfl (by rw [hkwh]; rfl)
          simp only [noteAccepted, hkwh, hnone]
          exact Function.update_of_ne hj.ne _ _
  | _ => rfl

/-- A step that meets the condition keeps the books covered. -/
theorem Covered.step (h : s.Covered) (hrise : s.RisesFromTop a) (hstep : s.step a = some s') :
    s'.Covered := by
  obtain ⟨hworld, haccepted⟩ := step_eq_some.mp hstep
  have hregular : s'.world.Regular :=
    World.Regular.step (fun i obj hobj => (h i obj hobj).1) hworld
  intro j obj' hobj'
  refine ⟨hregular j obj' hobj', ?_⟩
  -- Either the action is a sample for an entry of the state map, or no object accepts a value.
  by_cases hsampled : ∃ sample kwh i, a = .sample sample ∧ sample.kwh = some kwh ∧
      stateIndex s.world.heap sample.steveTransactionId = some i
  · obtain ⟨sample, kwh, i, rfl, hkwh, hidx⟩ := hsampled
    exact h.sampled hrise hkwh hidx hstep hobj'
  · have hidx : ∀ sample, a = .sample sample → sample.kwh.isSome →
        stateIndex s.world.heap sample.steveTransactionId = none := by
      intro sample ha hkwh
      obtain ⟨kwh, hkwh⟩ := Option.isSome_iff_exists.mp hkwh
      by_contra hne
      obtain ⟨i, hi⟩ := Option.ne_none_iff_exists'.mp hne
      exact hsampled ⟨sample, kwh, i, ha, hkwh, hi⟩
    rw [haccepted]
    rcases World.step_object hworld hobj' with
      ⟨obj, hobj, hobjStep⟩ | ⟨sample, kwh, rfl, hkwh, hnone, hnew, rfl⟩
    · obtain ⟨hreg, hcovered⟩ := h j obj hobj
      rw [noteAccepted_of_ne (List.getElem?_eq_some_iff.mp hobj).1 hidx]
      obtain ⟨hlast, hsum⟩ := hreg.tally_le hobjStep fun sample kwh ha hkwh hheld hid => by
        have hnone := hidx sample ha (by rw [hkwh]; rfl)
        rw [not_held_of_stateIndex hnone hobj hid] at hheld
        cases hheld
      exact hcovered.of_le hlast hsum
    · have hlast : j = s.world.heap.length := by
        have hw := Option.some.inj hworld
        have hlt := (List.getElem?_eq_some_iff.mp hobj').1
        rw [← hw] at hlt
        simp only [enqueueMeterSample, hkwh, hnone, List.length_append, List.length_singleton,
          World.length_evict] at hlt
        have hge := List.getElem?_eq_none_iff.mp hnew
        omega
      obtain ⟨htally, -, -⟩ := firstSample_eq sample (meterWh kwh) s.world.clock
      subst hlast
      simp only [noteAccepted, hkwh, hnone, Function.update_self]
      rw [htally]
      exact CoveredBy.of_first _

lemma initial_covered (userMappings : List UserMapping) (clock : ℕ) :
    (initial userMappings clock).Covered := fun i obj hobj => by
  simp [initial, World.initial] at hobj

lemma Covered.countsOnce (h : s.Covered) : s.CountsOnce := fun i obj hobj _ => (h i obj hobj).2.span

end MeterWatch

end ExpresSync
