import ExpresSync.Foundation.Transition
import ExpresSync.Model.SseStreams

/-!
# What a slow client recovers

An event that is dropped is to be replayed when the client comes back.  It is when the client has
received nothing with a greater number, and when the replay, which stops at the same ceiling, gets
as far.
-/

namespace ExpresSync

open Transition

variable {P : Type*}

namespace SlowSseWorld

/-- A client that comes back with a `Last-Event-ID` has received, or is sent, what has been
published for it since it first connected, in so far as it is not too old. -/
def Recovers (w : SlowSseWorld P) (a : SlowSseAction P) (w' : SlowSseWorld P) : Prop :=
  match a with
  | .connects => 0 < w.lastEventId → ∀ e ∈ w.since, ¬e.IsOld w.now →
      e ∈ w.received ∨ SseFrame.event e ∈ w'.wire
  | _ => True

instance [DecidableEq P] (w : SlowSseWorld P) (a : SlowSseAction P) (w' : SlowSseWorld P) :
    Decidable (w.Recovers a w') :=
  match a with
  | .connects =>
      inferInstanceAs (Decidable (0 < w.lastEventId → ∀ e ∈ w.since, ¬e.IsOld w.now →
        e ∈ w.received ∨ SseFrame.event e ∈ w'.wire))
  | .waits _ | .publishes .. | .hears .. | .heartbeats | .completes | .receives | .disconnects =>
      isTrue trivial

/-- When the client comes back, what it lacks has a greater number than the last event it has
received, is still kept, and is among the first of the replay: one frame is the retry hint. -/
def LacksOnlyLater (w : SlowSseWorld P) : SlowSseAction P → Prop
  | .connects => 0 < w.lastEventId → ∀ e ∈ w.since, e ∉ w.received → ¬e.IsOld w.now →
      w.lastEventId < e.seq ∧ e ∈ (w.bus w.home).buffer ∧
        ∀ earlier later, w.replayed = earlier ++ e :: later → e ∉ earlier →
          earlier.length + 1 < w.maxPending
  | _ => True

section

variable {bytes : DeliveredEvent P → ℕ} {w w' : SlowSseWorld P} {a : SlowSseAction P}
  {e : DeliveredEvent P}

/-! ## The prologue -/

lemma mem_replayed (hlast : 0 < w.lastEventId) (hwants : w.opts.wants e = true) :
    e ∈ w.replayed ↔ e ∈ (w.bus w.home).buffer ∧ w.lastEventId < e.seq ∧ ¬e.IsOld w.now := by
  unfold SseStreamOptions.wants at hwants
  obtain ⟨htype, hfilter⟩ := Bool.and_eq_true_iff.mp hwants
  have htypes :
      ((w.opts.types.getD []).isEmpty || (w.opts.types.getD []).contains e.type) = true := by
    cases htypes : w.opts.types with
    | none => rfl
    | some types =>
        rw [htypes, Option.all_some] at htype
        rw [Option.getD_some, htype, Bool.or_true]
  unfold replayed
  rw [if_pos hlast, List.mem_filter, and_iff_left hfilter, EventBus.replay, List.mem_filter,
    Bool.and_eq_true, Bool.and_eq_true, and_iff_left htypes, decide_eq_true_eq, Bool.not_eq_true',
    decide_eq_false_iff_not, gt_iff_lt]

/-- Events are written up to the ceiling. -/
lemma wire_foldl_writeEvent (es : List (DeliveredEvent P)) (w : SlowSseWorld P) :
    (es.foldl writeEvent w).wire =
      w.wire ++ (es.take (w.maxPending - w.pendingWrites)).map SseFrame.event := by
  induction es generalizing w with
  | nil => simp
  | cons e es ih =>
      rw [List.foldl_cons, ih]
      by_cases hfull : w.pendingWrites ≥ w.maxPending
      · have hzero : w.maxPending - w.pendingWrites = 0 := by omega
        rw [writeEvent, if_pos hfull, hzero, List.take_zero, List.take_zero]
      · have hsucc : w.maxPending - w.pendingWrites =
            (w.maxPending - (w.pendingWrites + 1)) + 1 := by omega
        rw [writeEvent, if_neg hfull, hsucc, List.take_succ_cons, List.map_cons]
        show (w.wire ++ [SseFrame.event e]) ++ _ = _
        rw [List.append_assoc, List.singleton_append]
        rfl

lemma mem_wire_connect :
    SseFrame.event e ∈ w.connect.wire ↔ e ∈ w.replayed.take (w.maxPending - 1) := by
  unfold connect
  rw [wire_foldl_writeEvent]
  show SseFrame.event e ∈ [SseFrame.retry] ++
    (w.replayed.take (w.maxPending - 1)).map SseFrame.event ↔ _
  have hinj : Function.Injective (SseFrame.event (P := P)) := fun a b h => SseFrame.event.inj h
  rw [List.singleton_append, List.mem_cons, List.mem_map_of_injective hinj]
  exact or_iff_right (by simp)

/-- An element is among the first of a list when it is preceded by few. -/
lemma mem_take_iff {α : Type*} {l : List α} {x : α} {n : ℕ} :
    x ∈ l.take n ↔ x ∈ l ∧ ∀ earlier later, l = earlier ++ x :: later → x ∉ earlier →
      earlier.length < n := by
  constructor
  · intro h
    refine ⟨List.mem_of_mem_take h, fun earlier later heq hnot => ?_⟩
    by_contra hge
    rw [heq, List.take_append_of_le_length (Nat.le_of_not_lt hge)] at h
    exact hnot (List.mem_of_mem_take h)
  · rintro ⟨hmem, hall⟩
    obtain ⟨earlier, later, heq, hnot⟩ := List.eq_append_cons_of_mem hmem
    have hlt := hall earlier later heq hnot
    rw [heq]
    refine List.mem_take_iff_getElem.mpr ⟨earlier.length, ?_, ?_⟩
    · rw [List.length_append, List.length_cons]
      omega
    · simp

/-! ## Steps -/

/-- What the events for the client are. -/
def Wanted (w : SlowSseWorld P) : Prop := ∀ e ∈ w.since, w.opts.wants e = true

lemma writeEvent_frame (w : SlowSseWorld P) (e : DeliveredEvent P) :
    (w.writeEvent e).since = w.since ∧ (w.writeEvent e).opts = w.opts := by
  unfold writeEvent
  split
  · exact ⟨rfl, rfl⟩
  · exact ⟨rfl, rfl⟩

lemma foldl_writeEvent_frame (es : List (DeliveredEvent P)) (w : SlowSseWorld P) :
    (es.foldl writeEvent w).since = w.since ∧ (es.foldl writeEvent w).opts = w.opts := by
  induction es generalizing w with
  | nil => exact ⟨rfl, rfl⟩
  | cons e es ih =>
      obtain ⟨hsince, hopts⟩ := ih (w.writeEvent e)
      obtain ⟨hsince', hopts'⟩ := writeEvent_frame w e
      exact ⟨hsince.trans hsince', hopts.trans hopts'⟩

lemma Wanted.fanOut {net : BusNetwork P} (h : w.Wanted) (worker : String) (e : DeliveredEvent P) :
    ({ w with toBusNetwork := net }.fanOut worker e).Wanted := by
  unfold SlowSseWorld.fanOut
  dsimp only
  split
  · next hclient =>
      obtain ⟨-, hwants⟩ := Bool.and_eq_true_iff.mp hclient
      have hnew : ∀ e' ∈ if w.known then w.since ++ [e] else w.since, w.opts.wants e' = true := by
        intro e' he'
        split at he'
        · rcases List.mem_append.mp he' with hold | hmem
          · exact h e' hold
          · rw [List.mem_singleton.mp hmem]
            exact hwants
        · exact h e' he'
      split
      · unfold Wanted
        obtain ⟨hsince, hopts⟩ := writeEvent_frame
          { w with toBusNetwork := net, since := if w.known then w.since ++ [e] else w.since } e
        rw [hsince, hopts]
        exact hnew
      · exact hnew
  · exact h

lemma wanted_step (h : w.Wanted) (hstep : w.step bytes a = some w') : w'.Wanted := by
  cases a with
  | waits ms =>
      rw [← Option.some.inj hstep]
      exact h
  | publishes worker type payload =>
      rw [← Option.some.inj hstep]
      exact h.fanOut worker _
  | hears worker source =>
      obtain ⟨e, -, hstep⟩ := Option.bind_eq_some_iff.mp hstep
      dsimp only at hstep
      split_ifs at hstep
      · rw [← Option.some.inj hstep]
        exact h.fanOut worker e
      · rw [← Option.some.inj hstep]
        exact h
  | connects =>
      rw [step] at hstep
      split_ifs at hstep
      rw [← Option.some.inj hstep]
      unfold connect Wanted
      obtain ⟨hsince, hopts⟩ := foldl_writeEvent_frame w.replayed
        ({ w with connected := true, known := true, wire := [], pendingWrites := 0 }.writeRaw
          .retry)
      rw [hsince, hopts]
      exact h
  | heartbeats =>
      rw [step] at hstep
      split_ifs at hstep
      rw [← Option.some.inj hstep]
      exact h
  | completes =>
      rw [step] at hstep
      split_ifs at hstep
      rw [← Option.some.inj hstep]
      exact h
  | receives =>
      rw [step] at hstep
      split at hstep
      · exact absurd hstep (Option.some_ne_none _).symm
      · split_ifs at hstep
        rw [← Option.some.inj hstep]
        exact h
  | disconnects =>
      rw [step] at hstep
      split_ifs at hstep
      rw [← Option.some.inj hstep]
      exact h

/-- A reconnect recovers all that is lacking exactly when it lacks only what comes later. -/
lemma lacksOnlyLater_iff (h : w.Wanted) (hstep : w.step bytes a = some w') :
    w.LacksOnlyLater a ↔ w.Recovers a w' := by
  by_cases hconnects : a = .connects
  · rw [hconnects] at hstep ⊢
    rw [step] at hstep
    split_ifs at hstep
    rw [← Option.some.inj hstep]
    unfold LacksOnlyLater Recovers
    refine forall_congr' fun hlast => forall₂_congr fun e he => ?_
    have hwire : SseFrame.event e ∈ w.connect.wire ↔
        (e ∈ (w.bus w.home).buffer ∧ w.lastEventId < e.seq ∧ ¬e.IsOld w.now) ∧
          ∀ earlier later, w.replayed = earlier ++ e :: later → e ∉ earlier →
            earlier.length < w.maxPending - 1 := by
      rw [mem_wire_connect, mem_take_iff, mem_replayed hlast (h e he)]
    constructor
    · intro hlater hrecent
      by_cases hreceived : e ∈ w.received
      · exact Or.inl hreceived
      · obtain ⟨hseq, hbuffer, hfirst⟩ := hlater hreceived hrecent
        refine Or.inr (hwire.mpr ⟨⟨hbuffer, hseq, hrecent⟩, fun earlier later heq hnot => ?_⟩)
        have hlt := hfirst earlier later heq hnot
        omega
    · intro hrecovers hlacks hrecent
      obtain ⟨⟨hbuffer, hseq, -⟩, hfirst⟩ := hwire.mp ((hrecovers hrecent).resolve_left hlacks)
      refine ⟨hseq, hbuffer, fun earlier later heq hnot => ?_⟩
      have hlt := hfirst earlier later heq hnot
      omega
  · have htrue : w.LacksOnlyLater a ∧ w.Recovers a w' := by
      cases a with
      | connects => exact absurd rfl hconnects
      | _ => exact ⟨trivial, trivial⟩
    exact iff_of_true htrue.1 htrue.2

end

end SlowSseWorld

open SlowSseWorld

/-- **A slow client recovers what was dropped**, in the runs in which it comes back lacking only
what was published after the last event it has received, and no more of it than the ceiling lets
through a replay. -/
theorem recovers_iff_lacksOnlyLater (bytes : DeliveredEvent P → ℕ) (now : ℕ) (home : String)
    (opts : SseStreamOptions P) (maxPending : ℕ) (as : List (SlowSseAction P)) :
    EachStep (SlowSseWorld.step bytes) Recovers (.initial now home opts maxPending) as ↔
      Meets (SlowSseWorld.step bytes) LacksOnlyLater (.initial now home opts maxPending) as := by
  refine (meets_iff_eachStep (I := Wanted) (A := fun _ _ => True) ?_ ?_ ?_ ?_).symm
  · exact fun w a w' h _ _ hstep => wanted_step h hstep
  · exact fun w a w' h _ hstep => lacksOnlyLater_iff h hstep
  · exact fun _ h => absurd h List.not_mem_nil
  · exact meets_of_forall fun _ _ => trivial

/-- With a ceiling of two, the second event is dropped; the third is written, and received. -/
def droppedBetween : List (SlowSseAction ℕ) :=
  [.connects, .publishes "A" .tagSeen 1, .publishes "A" .tagSeen 2, .completes, .receives,
    .completes, .receives, .publishes "A" .tagSeen 3, .completes, .receives, .disconnects,
    .connects]

theorem not_recovers_droppedBetween :
    ¬EachStep (SlowSseWorld.step fun _ => 100) Recovers
      (.initial 0 "A" ⟨none, fun _ => true, by simp⟩ 2) droppedBetween := by
  decide +kernel

end ExpresSync
