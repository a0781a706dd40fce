import ExpresSync.Foundation.Transition
import ExpresSync.Model.SseStreams
import ExpresSync.Properties.BusNetwork
import Mathlib.Data.List.Nodup

/-!
# What a resumed stream replays

A client that comes back is to get what has been published for it meanwhile, once.  The number it
presents is compared with the numbers of all events that its worker keeps, and these are given by
their own publishers: `exactResumption_iff` says how they have to compare.
-/

namespace ExpresSync

open Transition

variable {P : Type*}

/-- A client that comes back gets what it has missed, in so far as it is not too old. -/
def ResumesExactly (w : SseWorld P) (a : SseAction P) (w' : SseWorld P) : Prop :=
  match a with
  | .connects => 0 < w.lastEventId → w'.wire.Nodup ∧
      ∀ e, e ∈ w'.wire ↔ e ∈ w.since ∧ e ∉ w.received ∧ ¬e.IsOld w.now
  | _ => True

lemma resumesExactly_connects_iff {w w' : SseWorld P} :
    (w.lastEventId = 0 ∨ w'.wire.Nodup ∧
        (∀ e ∈ w'.wire, e ∈ w.since ∧ e ∉ w.received ∧ ¬e.IsOld w.now) ∧
        ∀ e ∈ w.since, e ∉ w.received → ¬e.IsOld w.now → e ∈ w'.wire) ↔
      ResumesExactly w .connects w' := by
  rw [or_iff_not_imp_left, ← ne_eq, ← Nat.pos_iff_ne_zero]
  simp only [ResumesExactly, iff_def, forall_and, and_imp]

instance [DecidableEq P] (w : SseWorld P) (a : SseAction P) (w' : SseWorld P) :
    Decidable (ResumesExactly w a w') :=
  match a with
  | .connects => decidable_of_iff _ resumesExactly_connects_iff
  | .waits _ | .publishes .. | .hears .. | .receives | .disconnects => isTrue trivial

def NoneTwice (w : SseWorld P) : Prop := (w.received ++ w.wire).Nodup

/-- A connected client has got, or is about to get, what has been published for it. -/
def NoneSkipped (w : SseWorld P) : Prop :=
  w.connected = true → ∀ e ∈ w.since, e ∈ w.received ∨ e ∈ w.wire ∨ e.IsOld w.now

/-- All along a run the client gets what it is to get. -/
def ExactResumption (bytes : DeliveredEvent P → ℕ) (w : SseWorld P) (as : List (SseAction P)) :
    Prop :=
  EachStep (SseWorld.step bytes) ResumesExactly w as ∧
    Always (SseWorld.step bytes) (fun w => NoneTwice w ∧ NoneSkipped w) w as

/-- When the client comes back, the recent events it has missed are kept and have greater numbers
than the last one it has got, and the other recent events for it that are kept have not. -/
def InSequence (w : SseWorld P) : SseAction P → Prop
  | .connects => 0 < w.lastEventId →
      (∀ e ∈ w.since, e ∉ w.received → ¬e.IsOld w.now →
        e ∈ (w.bus w.home).buffer ∧ w.lastEventId < e.seq) ∧
      ∀ e ∈ (w.bus w.home).buffer, w.opts.wants e = true → ¬e.IsOld w.now →
        w.lastEventId < e.seq → e ∈ w.since ∧ e ∉ w.received
  | _ => True

/-! ## Steps as the client's worker sees them -/

/-- The event has arrived at the client's worker. -/
def SseWorld.HasArrived (w : SseWorld P) (e : DeliveredEvent P) : Prop :=
  w.toBusNetwork.HasArrived w.home e

/-- What the worker keeps and what the client has to do with has arrived. -/
structure Traced (w : SseWorld P) : Prop where
  numbered : w.Numbered
  buffer : ∀ e ∈ (w.bus w.home).buffer, w.HasArrived e
  nodup : (w.bus w.home).buffer.Nodup
  received : ∀ e ∈ w.received, w.HasArrived e
  wire : ∀ e ∈ w.wire, w.HasArrived e
  since : ∀ e ∈ w.since, w.HasArrived e ∧ w.opts.wants e = true

/-- What stays the same in every step. -/
structure Continues (w w' : SseWorld P) : Prop where
  network : w.Extends w'.toBusNetwork
  home : w'.home = w.home
  opts : w'.opts = w.opts

lemma Continues.arrived {w w' : SseWorld P} (h : Continues w w') {e : DeliveredEvent P}
    (he : w.HasArrived e) : w'.HasArrived e := by
  unfold SseWorld.HasArrived
  rw [h.home]
  exact h.network.arrived w.home e he

/-- Nothing happens at the client's worker. -/
structure Quiet (w w' : SseWorld P) : Prop where
  buffer : (w'.bus w.home).buffer = (w.bus w.home).buffer
  connected : w'.connected = w.connected
  wire : w'.wire = w.wire
  received : w'.received = w.received
  since : w'.since = w.since

/-- The client's worker gets a new event. -/
structure Arrives (w : SseWorld P) (e : DeliveredEvent P) (w' : SseWorld P) : Prop where
  fresh : ¬w.HasArrived e
  arrived : w'.HasArrived e
  buffer : (w'.bus w.home).buffer = trimBuffer w.now ((w.bus w.home).buffer ++ [e])
  connected : w'.connected = w.connected
  wire : w'.wire = if w.opts.wants e && w.connected then w.wire ++ [e] else w.wire
  received : w'.received = w.received
  since : w'.since = if w.opts.wants e then w.since ++ [e] else w.since

section Steps

open SseWorld

variable {bytes : DeliveredEvent P → ℕ} {w w' : SseWorld P} {a : SseAction P}
  {e : DeliveredEvent P}

lemma mem_prologue (hlast : 0 < w.lastEventId) :
    e ∈ w.prologue ↔ e ∈ (w.bus w.home).buffer ∧ w.lastEventId < e.seq ∧ ¬e.IsOld w.now ∧
      w.opts.wants e = true := by
  have htypes : ((w.opts.types.getD []).isEmpty || (w.opts.types.getD []).contains e.type) =
      w.opts.types.all fun types => types.contains e.type := by
    have hne := w.opts.types_ne
    cases htypes : w.opts.types with
    | none => rfl
    | some types =>
        have : types ≠ [] := fun h => hne (by rw [htypes, h])
        simp [this]
  simp only [prologue, gt_iff_lt, hlast, if_true, EventBus.replay, SseStreamOptions.wants, htypes,
    List.mem_filter, Bool.and_eq_true, decide_eq_true_eq, Bool.not_eq_true',
    decide_eq_false_iff_not]
  tauto

/-- The conditions on a step of a run are what makes it resume exactly. -/
lemma inSequence_iff (h : Traced w) (hstep : w.step bytes a = some w') :
    InSequence w a ↔ ResumesExactly w a w' := by
  cases a with
  | connects =>
      have hconnect : w' = w.connect := by
        simp only [step] at hstep
        split at hstep
        · cases hstep
        · exact (Option.some.inj hstep).symm
      subst hconnect
      refine forall_congr' fun hlast => ?_
      have hmem : ∀ e, e ∈ w.connect.wire ↔ e ∈ (w.bus w.home).buffer ∧ w.lastEventId < e.seq ∧
          ¬e.IsOld w.now ∧ w.opts.wants e = true := fun _ => mem_prologue hlast
      constructor
      · rintro ⟨hmissed, hother⟩
        refine ⟨?_, fun e => ?_⟩
        · show w.prologue.Nodup
          rw [prologue, if_pos hlast]
          exact (h.nodup.filter _).filter _
        · rw [hmem]
          constructor
          · rintro ⟨hbuffer, hseq, hrecent, hwants⟩
            obtain ⟨hsince, hnew⟩ := hother e hbuffer hwants hrecent hseq
            exact ⟨hsince, hnew, hrecent⟩
          · rintro ⟨hsince, hnew, hrecent⟩
            obtain ⟨hbuffer, hseq⟩ := hmissed e hsince hnew hrecent
            exact ⟨hbuffer, hseq, hrecent, (h.since e hsince).2⟩
      · rintro ⟨-, hexact⟩
        constructor
        · intro e hsince hnew hrecent
          obtain ⟨hbuffer, hseq, -⟩ := (hmem e).mp ((hexact e).mpr ⟨hsince, hnew, hrecent⟩)
          exact ⟨hbuffer, hseq⟩
        · intro e hbuffer hwants hrecent hseq
          obtain ⟨hsince, hnew, -⟩ := (hexact e).mp ((hmem e).mpr ⟨hbuffer, hseq, hrecent, hwants⟩)
          exact ⟨hsince, hnew⟩
  | _ => exact Iff.rfl

/-! ## One step -/

/-- An event at another worker is nothing to the client. -/
lemma quiet_fanOut {net : BusNetwork P} {worker : String} (hworker : worker ≠ w.home)
    (hbus : net.bus w.home = w.bus w.home) :
    Quiet w ({ w with toBusNetwork := net }.fanOut worker e) := by
  refine ⟨congrArg EventBus.buffer hbus, rfl, ?_, rfl, ?_⟩ <;> simp [fanOut, hworker]

/-- An event at the client's worker is handed to the client. -/
lemma arrives_fanOut {net : BusNetwork P} (hfresh : ¬w.HasArrived e)
    (harrived : net.HasArrived w.home e)
    (hbus : (net.bus w.home).buffer = trimBuffer w.now ((w.bus w.home).buffer ++ [e])) :
    Arrives w e ({ w with toBusNetwork := net }.fanOut w.home e) := by
  refine ⟨hfresh, harrived, hbus, rfl, ?_, rfl, ?_⟩ <;> simp [fanOut]

/-- What a step is for the client: nothing, a new event, or a step of its own. -/
lemma step_cases (h : w.Numbered) (hstep : w.step bytes a = some w') :
    Continues w w' ∧ (Quiet w w' ∨ (∃ e, Arrives w e w') ∨ a = .connects ∧ w' = w.connect ∨
      (∃ e rest, w.wire = e :: rest ∧
        w' = { w with wire := rest, received := w.received ++ [e] }) ∨
      w' = { w with connected := false, wire := [] }) := by
  have hrefl : w.Extends w.toBusNetwork := ⟨le_rfl, h, fun _ => le_rfl, fun _ _ he => he⟩
  cases a with
  | waits ms =>
      obtain rfl := Option.some.inj hstep
      exact ⟨⟨.waits h ms, rfl, rfl⟩, Or.inl ⟨rfl, rfl, rfl, rfl, rfl⟩⟩
  | publishes worker type payload =>
      obtain rfl := Option.some.inj hstep
      refine ⟨⟨BusNetwork.extends_publish h, rfl, rfl⟩, ?_⟩
      by_cases hworker : worker = w.home
      · subst hworker
        obtain ⟨hfresh, harrived⟩ := BusNetwork.fresh_publish (P := P)
        refine Or.inr (Or.inl ⟨_, arrives_fanOut hfresh harrived ?_⟩)
        rw [BusNetwork.bus_publish_self]
        rfl
      · exact Or.inl (quiet_fanOut hworker (BusNetwork.bus_publish_of_ne (Ne.symm hworker)))
  | hears worker source =>
      obtain ⟨e, hnext, hstep⟩ := Option.bind_eq_some_iff.mp hstep
      have hextends : w.Extends (w.hear worker source e) := BusNetwork.extends_hear h
      dsimp only at hstep
      split at hstep
      · next hhanded =>
        obtain rfl := Option.some.inj hstep
        refine ⟨⟨hextends, rfl, rfl⟩, ?_⟩
        by_cases hworker : worker = w.home
        · subst hworker
          obtain ⟨hfresh, harrived⟩ := BusNetwork.fresh_hear h hnext hhanded
          refine Or.inr (Or.inl ⟨e, arrives_fanOut hfresh harrived ?_⟩)
          rw [BusNetwork.bus_hear_self hhanded]
          rfl
        · exact Or.inl (quiet_fanOut hworker (BusNetwork.bus_hear_of_ne (Ne.symm hworker)))
      · next hecho =>
        obtain rfl := Option.some.inj hstep
        refine ⟨⟨hextends, rfl, rfl⟩, Or.inl ⟨?_, rfl, rfl, rfl, rfl⟩⟩
        show ((w.hear worker source e).bus w.home).buffer = _
        by_cases hworker : w.home = worker
        · subst hworker
          rw [BusNetwork.bus_hear_of_not (Bool.eq_false_iff.mpr hecho)]
        · rw [BusNetwork.bus_hear_of_ne hworker]
  | connects =>
      simp only [step] at hstep
      split at hstep
      · cases hstep
      · obtain rfl := Option.some.inj hstep
        exact ⟨⟨hrefl, rfl, rfl⟩, Or.inr (Or.inr (Or.inl ⟨rfl, rfl⟩))⟩
  | receives =>
      simp only [step] at hstep
      split at hstep
      · cases hstep
      · next e rest hwire =>
        obtain rfl := Option.some.inj hstep
        exact ⟨⟨hrefl, rfl, rfl⟩, Or.inr (Or.inr (Or.inr (Or.inl ⟨e, rest, hwire, rfl⟩)))⟩
  | disconnects =>
      simp only [step] at hstep
      split at hstep
      · obtain rfl := Option.some.inj hstep
        exact ⟨⟨hrefl, rfl, rfl⟩, Or.inr (Or.inr (Or.inr (Or.inr rfl)))⟩
      · cases hstep

lemma Traced.continue (h : Traced w) (hcontinues : Continues w w')
    (hbuffer : ∀ e ∈ (w'.bus w.home).buffer, e ∈ (w.bus w.home).buffer ∨ w'.HasArrived e)
    (hnodup : (w'.bus w.home).buffer.Nodup)
    (hreceived : ∀ e ∈ w'.received, e ∈ w.received ∨ e ∈ w.wire)
    (hwire : ∀ e ∈ w'.wire, e ∈ w.wire ∨ e ∈ (w.bus w.home).buffer ∨ w'.HasArrived e)
    (hsince : ∀ e ∈ w'.since, e ∈ w.since ∨ w'.HasArrived e ∧ w.opts.wants e = true) :
    Traced w' := by
  have harrived := fun e => hcontinues.arrived (e := e)
  refine ⟨hcontinues.network.numbered, ?_, ?_, ?_, ?_, ?_⟩
  · rw [hcontinues.home]
    exact fun e he => (hbuffer e he).elim (fun hold => harrived e (h.buffer e hold)) id
  · rwa [hcontinues.home]
  · exact fun e he => (hreceived e he).elim (fun hold => harrived e (h.received e hold))
      fun hold => harrived e (h.wire e hold)
  · intro e he
    rcases hwire e he with hold | hold | hnew
    · exact harrived e (h.wire e hold)
    · exact harrived e (h.buffer e hold)
    · exact hnew
  · intro e he
    rw [hcontinues.opts]
    exact (hsince e he).elim (fun hold => (h.since e hold).imp_left (harrived e)) id

lemma mem_buffer_of_mem_prologue (he : e ∈ w.prologue) : e ∈ (w.bus w.home).buffer := by
  unfold prologue at he
  split at he
  · exact List.mem_of_mem_filter (List.mem_of_mem_filter he)
  · cases he

lemma Arrives.mem_wire (h : Arrives w e w') {e' : DeliveredEvent P} (he' : e' ∈ w'.wire) :
    e' ∈ w.wire ∨ e' = e := by
  rw [h.wire] at he'
  split at he'
  · exact (List.mem_append.mp he').imp_right List.mem_singleton.mp
  · exact Or.inl he'

lemma traced_step (h : Traced w) (hstep : w.step bytes a = some w') : Traced w' := by
  obtain ⟨hcontinues, hcases⟩ := step_cases h.numbered hstep
  rcases hcases with hquiet | ⟨e, harrives⟩ | ⟨-, rfl⟩ | ⟨e, rest, hwire, rfl⟩ | rfl
  · refine h.continue hcontinues ?_ ?_ ?_ ?_ ?_
    · exact fun e he => Or.inl (hquiet.buffer ▸ he)
    · rw [hquiet.buffer]
      exact h.nodup
    · exact fun e he => Or.inl (hquiet.received ▸ he)
    · exact fun e he => Or.inl (hquiet.wire ▸ he)
    · exact fun e he => Or.inl (hquiet.since ▸ he)
  · have hsub : (w'.bus w.home).buffer.Sublist ((w.bus w.home).buffer ++ [e]) := by
      rw [harrives.buffer]
      exact BusNetwork.trimBuffer_sublist _ _
    refine h.continue hcontinues ?_ ?_ ?_ ?_ ?_
    · intro e' he'
      rcases List.mem_append.mp (hsub.subset he') with hold | hnew
      · exact Or.inl hold
      · rw [List.mem_singleton.mp hnew]
        exact Or.inr harrives.arrived
    · refine List.Nodup.sublist hsub ?_
      rw [← List.concat_eq_append]
      exact List.Nodup.concat (fun hmem => harrives.fresh (h.buffer e hmem)) h.nodup
    · exact fun e' he' => Or.inl (harrives.received ▸ he')
    · intro e' he'
      rcases harrives.mem_wire he' with hold | rfl
      · exact Or.inl hold
      · exact Or.inr (Or.inr harrives.arrived)
    · intro e' he'
      rw [harrives.since] at he'
      split at he'
      · next hwants =>
        rcases List.mem_append.mp he' with hold | hnew
        · exact Or.inl hold
        · rw [List.mem_singleton.mp hnew]
          exact Or.inr ⟨harrives.arrived, hwants⟩
      · exact Or.inl he'
  · refine h.continue hcontinues (fun _ => Or.inl) h.nodup (fun _ => Or.inl) ?_ ?_
    · exact fun e he => Or.inr (Or.inl (mem_buffer_of_mem_prologue he))
    · intro e he
      simp only [connect] at he
      split at he
      · exact Or.inl he
      · cases he
  · refine h.continue hcontinues (fun _ => Or.inl) h.nodup ?_ ?_ fun _ => Or.inl
    · intro e' he'
      refine (List.mem_append.mp he').imp_right fun hnew => ?_
      rw [hwire, List.mem_singleton.mp hnew]
      exact List.mem_cons_self
    · intro e' he'
      rw [hwire]
      exact Or.inl (List.mem_cons_of_mem _ he')
  · exact h.continue hcontinues (fun _ => Or.inl) h.nodup (fun _ => Or.inl)
      (fun _ he => absurd he List.not_mem_nil) fun _ => Or.inl

lemma noneTwice_step (h : Traced w) (hnone : NoneTwice w) (hexact : ResumesExactly w a w')
    (hstep : w.step bytes a = some w') : NoneTwice w' := by
  obtain ⟨-, hcases⟩ := step_cases h.numbered hstep
  unfold NoneTwice at hnone ⊢
  rcases hcases with hquiet | ⟨e, harrives⟩ | ⟨rfl, rfl⟩ | ⟨e, rest, hwire, rfl⟩ | rfl
  · rwa [hquiet.received, hquiet.wire]
  · rw [harrives.received, harrives.wire]
    split
    · rw [← List.append_assoc, ← List.concat_eq_append]
      refine List.Nodup.concat (fun hmem => harrives.fresh ?_) hnone
      exact (List.mem_append.mp hmem).elim (h.received e) (h.wire e)
    · exact hnone
  · have hreceived : w.received.Nodup := List.Nodup.of_append_left hnone
    show (w.received ++ w.prologue).Nodup
    by_cases hlast : 0 < w.lastEventId
    · obtain ⟨hwire, hmem⟩ := hexact hlast
      exact List.nodup_append.mpr ⟨hreceived, hwire, fun e he e' he' heq =>
        ((hmem e').mp he').2.1 (heq ▸ he)⟩
    · rw [prologue, if_neg hlast, List.append_nil]
      exact hreceived
  · rw [hwire] at hnone
    show ((w.received ++ [e]) ++ rest).Nodup
    rwa [List.append_assoc]
  · show (w.received ++ []).Nodup
    rw [List.append_nil]
    exact List.Nodup.of_append_left hnone

lemma noneSkipped_step (h : Traced w) (hnone : NoneSkipped w) (hexact : ResumesExactly w a w')
    (hstep : w.step bytes a = some w') : NoneSkipped w' := by
  obtain ⟨hcontinues, hcases⟩ := step_cases h.numbered hstep
  have hold : ∀ e : DeliveredEvent P, e.IsOld w.now → e.IsOld w'.now := fun e he =>
    lt_of_lt_of_le he hcontinues.network.now_le
  intro hconnected e he
  rcases hcases with hquiet | ⟨e', harrives⟩ | ⟨rfl, rfl⟩ | ⟨e', rest, hwire, rfl⟩ | rfl
  · rw [hquiet.connected] at hconnected
    rw [hquiet.since] at he
    rw [hquiet.received, hquiet.wire]
    exact (hnone hconnected e he).imp_right (Or.imp_right (hold e))
  · rw [harrives.connected] at hconnected
    rw [harrives.since] at he
    rw [harrives.received, harrives.wire]
    split at he
    · next hwants =>
      rw [if_pos (by rw [hwants, hconnected]; rfl)]
      rcases List.mem_append.mp he with hsince | hnew
      · exact (hnone hconnected e hsince).imp_right
          (Or.imp (List.mem_append_left _) (hold e))
      · exact Or.inr (Or.inl (List.mem_append_right _ hnew))
    · next hwants =>
      rw [if_neg (by simp [hwants])]
      exact (hnone hconnected e he).imp_right (Or.imp_right (hold e))
  · simp only [connect, gt_iff_lt] at he
    split at he
    · next hlast =>
      by_cases hreceived : e ∈ w.received
      · exact Or.inl hreceived
      · by_cases hrecent : e.IsOld w.now
        · exact Or.inr (Or.inr hrecent)
        · exact Or.inr (Or.inl (((hexact hlast).2 e).mpr ⟨he, hreceived, hrecent⟩))
    · cases he
  · rcases hnone hconnected e he with hreceived | hmem | hrecent
    · exact Or.inl (List.mem_append_left _ hreceived)
    · rw [hwire] at hmem
      rcases List.mem_cons.mp hmem with rfl | hrest
      · exact Or.inl (List.mem_append_right _ List.mem_cons_self)
      · exact Or.inr (Or.inl hrest)
    · exact Or.inr (Or.inr hrecent)
  · cases hconnected

end Steps

lemma traced_initial (now : ℕ) (home : String) (opts : SseStreamOptions P) :
    Traced (SseWorld.initial now home opts) := by
  refine ⟨BusNetwork.numbered_initial now, fun _ h => ?_, List.nodup_nil, fun _ h => ?_,
    fun _ h => ?_, fun _ h => ?_⟩ <;> cases h

/-- A client gets what it is to get exactly when the number it presents separates the recent events
it has missed from the others that its worker keeps. -/
theorem exactResumption_iff (bytes : DeliveredEvent P → ℕ) (now : ℕ) (home : String)
    (opts : SseStreamOptions P) (as : List (SseAction P)) :
    ExactResumption bytes (.initial now home opts) as ↔
      Meets (SseWorld.step bytes) InSequence (.initial now home opts) as := by
  let I : SseWorld P → Prop := fun w => Traced w ∧ NoneTwice w ∧ NoneSkipped w
  have hstart : I (.initial now home opts) :=
    ⟨traced_initial now home opts, List.nodup_nil, fun h => by cases h⟩
  have hkeep : ∀ w a w', I w → InSequence w a → w.step bytes a = some w' → I w' := by
    intro w a w' hw hC hstep
    have hexact := (inSequence_iff hw.1 hstep).mp hC
    exact ⟨traced_step hw.1 hstep, noneTwice_step hw.1 hw.2.1 hexact hstep,
      noneSkipped_step hw.1 hw.2.2 hexact hstep⟩
  have hiff : Meets (SseWorld.step bytes) InSequence (.initial now home opts) as ↔
      EachStep (SseWorld.step bytes) ResumesExactly (.initial now home opts) as :=
    meets_iff_eachStep (A := fun _ _ => True) (fun w a w' hw _ => hkeep w a w' hw)
      (fun _ _ _ hw _ => inSequence_iff hw.1) hstart (meets_of_forall fun _ _ => trivial)
  constructor
  · exact fun h => hiff.mpr h.1
  · intro h
    refine ⟨hiff.mp h, hstart.2, ?_⟩
    exact Meets.eachStep (Q := fun _ _ w' => NoneTwice w' ∧ NoneSkipped w') hkeep
      (fun w a w' hw hC hstep => (hkeep w a w' hw hC hstep).2) hstart h

namespace Scenario

def streamOptions : SseStreamOptions ℕ := ⟨none, fun _ => true, by simp⟩

/-- While the client is away, its worker gets the first event of another worker. -/
def otherWorker : List (SseAction ℕ) :=
  [.connects, .publishes "A" .tagSeen 1, .receives, .publishes "A" .tagSeen 2, .receives,
    .disconnects, .publishes "B" .tagSeen 3, .hears "A" "B", .connects]

end Scenario

open Scenario

/-- The first event of another worker has a number that the client has already passed. -/
theorem not_exactResumption_otherWorker :
    ¬ExactResumption (fun _ => 100) (.initial 0 "A" streamOptions) otherWorker :=
  fun h => absurd h.1 (by decide +kernel)

end ExpresSync
