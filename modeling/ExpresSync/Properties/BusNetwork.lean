import ExpresSync.Model.EventBus
import Mathlib.Data.List.Infix
import Mathlib.Order.Basic

/-!
# Events that arrive at a worker

Each worker numbers its own events, and gets the payloads of another one in order; so an event that
arrives at a worker has not arrived there before.
-/

namespace ExpresSync

variable {P : Type*}

namespace BusNetwork

/-- The worker `home` has published the event, or has got it from the transport. -/
def HasArrived (net : BusNetwork P) (home : String) (e : DeliveredEvent P) : Prop :=
  if e.workerId = home then e.seq ≤ (net.bus home).seq
  else e ∈ (net.notified e.workerId).take (net.heard home e.workerId)

/-- Workers number the payloads they send in order. -/
structure Numbered (net : BusNetwork P) : Prop where
  increasing : ∀ worker, (net.notified worker).Pairwise fun e e' => e.seq < e'.seq
  publisher : ∀ worker, ∀ e ∈ net.notified worker,
    e.workerId = worker ∧ e.seq ≤ (net.bus worker).seq

/-- A step of the network: workers go on numbering, and what has arrived stays. -/
structure Extends (net net' : BusNetwork P) : Prop where
  now_le : net.now ≤ net'.now
  numbered : Numbered net'
  seq_le : ∀ worker, (net.bus worker).seq ≤ (net'.bus worker).seq
  arrived : ∀ home e, HasArrived net home e → HasArrived net' home e

variable {net net' : BusNetwork P} {home worker source : String} {e : DeliveredEvent P}

lemma numbered_initial (now : ℕ) : Numbered (initial now : BusNetwork P) :=
  ⟨fun _ => List.Pairwise.nil, fun _ _ h => by cases h⟩

lemma hasArrived_own (h : e.workerId = home) :
    HasArrived net home e ↔ e.seq ≤ (net.bus home).seq := by
  rw [HasArrived, if_pos h]

lemma hasArrived_foreign (h : e.workerId ≠ home) :
    HasArrived net home e ↔ e ∈ (net.notified e.workerId).take (net.heard home e.workerId) := by
  rw [HasArrived, if_neg h]

lemma HasArrived.mono (hseq : (net.bus home).seq ≤ (net'.bus home).seq)
    (hnotified : ∀ worker, net.notified worker <+: net'.notified worker)
    (hheard : ∀ source, net.heard home source ≤ net'.heard home source)
    (h : HasArrived net home e) : HasArrived net' home e := by
  by_cases hown : e.workerId = home
  · exact (hasArrived_own hown).mpr (((hasArrived_own hown).mp h).trans hseq)
  · have hmem := (hasArrived_foreign hown).mp h
    have hold : e ∈ (net'.notified e.workerId).take (net.heard home e.workerId) :=
      ((hnotified e.workerId).take _).subset hmem
    exact (hasArrived_foreign hown).mpr (List.take_subset_take_left _ (hheard e.workerId) hold)

lemma Extends.waits (h : Numbered net) (ms : ℕ) : Extends net { net with now := net.now + ms } :=
  ⟨Nat.le_add_right _ _, ⟨h.increasing, h.publisher⟩, fun _ => le_rfl, fun _ _ he => he⟩

lemma trimBuffer_sublist (now : ℕ) (buffer : List (DeliveredEvent P)) :
    (trimBuffer now buffer).Sublist buffer :=
  (List.drop_sublist _ _).trans (List.dropWhile_sublist _)

/-! ## Publishing -/

variable {bytes : DeliveredEvent P → ℕ} {type : EventBusEventType} {payload : P}

lemma bus_publish_self : (net.publish bytes worker type payload).bus worker =
    (net.bus worker).publish worker net.now type payload := Function.update_self ..

lemma bus_publish_of_ne (h : home ≠ worker) :
    (net.publish bytes worker type payload).bus home = net.bus home := Function.update_of_ne h ..

lemma notified_publish (net : BusNetwork P) (bytes : DeliveredEvent P → ℕ) (worker : String)
    (type : EventBusEventType) (payload : P) (other : String) :
    (net.publish bytes worker type payload).notified other = net.notified other ∨
      other = worker ∧ (net.publish bytes worker type payload).notified other =
        net.notified other ++ [net.nextEvent worker type payload] := by
  unfold publish
  dsimp only
  split
  · exact Or.inl rfl
  · by_cases hother : other = worker
    · subst hother
      exact Or.inr ⟨rfl, Function.update_self ..⟩
    · exact Or.inl (Function.update_of_ne hother ..)

lemma seq_le_publish (other : String) :
    (net.bus other).seq ≤ ((net.publish bytes worker type payload).bus other).seq := by
  by_cases hother : other = worker
  · subst hother
    rw [bus_publish_self]
    exact Nat.le_succ _
  · rw [bus_publish_of_ne hother]

/-- A worker publishes an event. -/
theorem extends_publish (h : Numbered net) :
    Extends net (net.publish bytes worker type payload) := by
  refine ⟨le_rfl, ⟨fun other => ?_, fun other e he => ?_⟩, seq_le_publish, fun home e => ?_⟩
  · rcases notified_publish net bytes worker type payload other with hsame | ⟨rfl, hnew⟩
    · rw [hsame]
      exact h.increasing other
    · rw [hnew, List.pairwise_append]
      refine ⟨h.increasing other, List.pairwise_singleton _ _, fun e he e' he' => ?_⟩
      rw [List.mem_singleton.mp he']
      exact Nat.lt_succ_of_le (h.publisher other e he).2
  · have hold : e ∈ net.notified other →
        e.workerId = other ∧ e.seq ≤ ((net.publish bytes worker type payload).bus other).seq :=
      fun he => (h.publisher other e he).imp_right fun hle => hle.trans (seq_le_publish other)
    rcases notified_publish net bytes worker type payload other with hsame | ⟨rfl, hnew⟩
    · exact hold (hsame ▸ he)
    · rw [hnew] at he
      rcases List.mem_append.mp he with he | he
      · exact hold he
      · rw [List.mem_singleton.mp he, bus_publish_self]
        exact ⟨rfl, le_rfl⟩
  · refine HasArrived.mono (seq_le_publish home) (fun other => ?_) fun _ => le_rfl
    rcases notified_publish net bytes worker type payload other with hsame | ⟨-, hnew⟩
    · rw [hsame]
    · rw [hnew]
      exact List.prefix_append _ _

/-- The event that is published is new. -/
lemma fresh_publish :
    ¬HasArrived net worker (net.nextEvent worker type payload) ∧
      HasArrived (net.publish bytes worker type payload) worker
        (net.nextEvent worker type payload) := by
  refine ⟨fun harrived => Nat.not_succ_le_self _ ((hasArrived_own rfl).mp harrived),
    (hasArrived_own rfl).mpr ?_⟩
  show _ ≤ ((net.publish bytes worker type payload).bus worker).seq
  rw [bus_publish_self]
  exact le_rfl

/-! ## Hearing -/

lemma bus_hear_of_ne (h : home ≠ worker) : (net.hear worker source e).bus home = net.bus home :=
  Function.update_of_ne h ..

lemma bus_hear_self (h : net.isHanded worker e = true) :
    (net.hear worker source e).bus worker = (net.bus worker).push net.now e := by
  unfold isHanded EventBus.onTransportEvent at h
  unfold hear EventBus.onTransportEvent
  dsimp only at h ⊢
  rw [Function.update_self]
  split at h
  · cases h
  · next hne => rw [if_neg hne]

lemma bus_hear_of_not (h : net.isHanded worker e = false) :
    (net.hear worker source e).bus worker = net.bus worker := by
  unfold isHanded EventBus.onTransportEvent at h
  unfold hear EventBus.onTransportEvent
  dsimp only at h ⊢
  rw [Function.update_self]
  split at h
  · next heq => rw [if_pos heq]
  · cases h

lemma isHanded_eq_true : net.isHanded worker e = true ↔ e.workerId ≠ worker := by
  unfold isHanded EventBus.onTransportEvent
  dsimp only
  split
  · next heq => simp [heq]
  · next hne => simp [hne]

lemma heard_hear_self :
    (net.hear worker source e).heard worker source = net.heard worker source + 1 := by
  simp [hear]

lemma heard_le_hear (home other : String) :
    net.heard home other ≤ (net.hear worker source e).heard home other := by
  unfold hear
  dsimp only
  by_cases hworker : home = worker
  · subst hworker
    rw [Function.update_self]
    by_cases hsource : other = source
    · subst hsource
      rw [Function.update_self]
      exact Nat.le_succ _
    · rw [Function.update_of_ne hsource]
  · rw [Function.update_of_ne hworker]

lemma seq_hear (other : String) :
    ((net.hear worker source e).bus other).seq = (net.bus other).seq := by
  by_cases hother : other = worker
  · subst hother
    cases hhanded : net.isHanded other e with
    | true =>
        rw [bus_hear_self hhanded]
        rfl
    | false => rw [bus_hear_of_not hhanded]
  · rw [bus_hear_of_ne hother]

/-- A worker gets a payload of another one. -/
theorem extends_hear (h : Numbered net) : Extends net (net.hear worker source e) := by
  refine ⟨le_rfl, ⟨h.increasing, fun other e' he' => ?_⟩, fun other => (seq_hear other).ge, ?_⟩
  · rw [seq_hear]
    exact h.publisher other e' he'
  · exact fun home _ =>
      HasArrived.mono (seq_hear home).ge (fun _ => List.prefix_rfl) (heard_le_hear home)

/-- The payload that is heard is new. -/
lemma fresh_hear (h : Numbered net) (hnext : net.nextHeard worker source = some e)
    (hhanded : net.isHanded worker e = true) :
    ¬HasArrived net worker e ∧ HasArrived (net.hear worker source e) worker e := by
  have hid : e.workerId = source := (h.publisher source e (List.mem_of_getElem? hnext)).1
  have hforeign : e.workerId ≠ worker := isHanded_eq_true.mp hhanded
  constructor
  · rw [hasArrived_foreign hforeign, hid]
    intro hmem
    obtain ⟨j, hj⟩ := List.mem_iff_getElem?.mp hmem
    rw [List.getElem?_take] at hj
    split at hj
    · next hlt =>
      obtain ⟨hj', hje⟩ := List.getElem?_eq_some_iff.mp hj
      obtain ⟨hn', hne⟩ := List.getElem?_eq_some_iff.mp hnext
      have hseq := List.pairwise_iff_getElem.mp (h.increasing source) j _ hj' hn' hlt
      rw [hje, hne] at hseq
      exact Nat.lt_irrefl _ hseq
    · cases hj
  · rw [hasArrived_foreign hforeign, hid, heard_hear_self]
    refine List.mem_iff_getElem?.mpr ⟨net.heard worker source, ?_⟩
    rw [List.getElem?_take, if_pos (Nat.lt_succ_self _)]
    exact hnext

end BusNetwork

end ExpresSync
