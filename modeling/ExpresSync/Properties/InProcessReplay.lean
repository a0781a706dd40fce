import ExpresSync.Model.EventBus
import Mathlib.Data.List.DropRight
import Mathlib.Order.Basic

/-!
# The replay of a process alone

With the in-memory transport a bus hears nothing but its own events.  Its buffer is cut by age and
by number, at every event, and `replay` looks at the age again: as long as the clock does not go
back, what it returns is what a record of all events would give (`replay_publishInProcess`).
-/

namespace ExpresSync

variable {P : Type*} {workerId : String} {bus : EventBus P} {pubs : List (Publication P)}
  {p : Publication P} {now : ℕ}

/-- The clock in the order in which it is read. -/
def clockReadings (pubs : List (Publication P)) : List ℕ :=
  pubs.flatMap fun p => [p.ts, p.trimmedAt]

/-- All events, numbered from one. -/
def publishedEvents (workerId : String) (pubs : List (Publication P)) : List (DeliveredEvent P) :=
  (pubs.zipIdx 1).map fun (p, seq) => ⟨seq, p.ts, p.type, p.payload, workerId⟩

/-- The bus has published `events`, and of the last of them it keeps those that were not too old
when it was last trimmed. -/
structure KeepsRecent (bus : EventBus P) (events : List (DeliveredEvent P)) (trimmedAt : ℕ) :
    Prop where
  seq : bus.seq = events.length
  suffix : bus.buffer <:+ events.rtake bufferMax
  dropped : ∀ e ∈ events.rtake bufferMax, e ∈ bus.buffer ∨ e.IsOld trimmedAt

lemma DeliveredEvent.IsOld.mono {e : DeliveredEvent P} {now' : ℕ} (h : e.IsOld now)
    (hle : now ≤ now') : e.IsOld now' :=
  Nat.lt_of_lt_of_le h hle

lemma KeepsRecent.mono {events : List (DeliveredEvent P)} {t t' : ℕ} (h : KeepsRecent bus events t)
    (hle : t ≤ t') : KeepsRecent bus events t' :=
  ⟨h.seq, h.suffix, fun e he => (h.dropped e he).imp_right fun hold => hold.mono hle⟩

/-! ## Trimming -/

lemma length_rtake_le {α : Type*} (l : List α) (n : ℕ) : (l.rtake n).length ≤ n := by
  rw [List.rtake, List.length_drop]
  omega

/-- A short end of a list is an end of its last elements. -/
lemma suffix_rtake {α : Type*} {l l' : List α} {n : ℕ} (h : l <:+ l') (hlength : l.length ≤ n) :
    l <:+ l'.rtake n := by
  refine List.suffix_of_suffix_length_le h (List.drop_suffix _ _) ?_
  have hle := h.length_le
  rw [List.rtake, List.length_drop]
  omega

lemma rtake_suffix_append_singleton {α : Type*} (l : List α) (a : α) (n : ℕ) :
    (l ++ [a]).rtake n <:+ l.rtake n ++ [a] := by
  cases n with
  | zero =>
      rw [List.rtake_zero]
      exact List.nil_suffix
  | succ n =>
      rw [List.rtake_concat_succ]
      refine List.suffix_append_self_iff.mpr (suffix_rtake (List.drop_suffix _ _) ?_)
      exact (length_rtake_le l n).trans (Nat.le_succ n)

lemma trimBuffer_suffix (now : ℕ) (buffer : List (DeliveredEvent P)) :
    trimBuffer now buffer <:+ buffer :=
  (List.drop_suffix _ _).trans (List.dropWhile_suffix _)

lemma length_trimBuffer_le (now : ℕ) (buffer : List (DeliveredEvent P)) :
    (trimBuffer now buffer).length ≤ bufferMax := by
  rw [trimBuffer, List.length_drop]
  omega

variable (now) in
/-- What is dropped is too old, or there are as many later ones as are kept. -/
lemma mem_trimBuffer_or {buffer : List (DeliveredEvent P)} {e : DeliveredEvent P}
    (he : e ∈ buffer) :
    e ∈ trimBuffer now buffer ∨ e.IsOld now ∨ (trimBuffer now buffer).length = bufferMax := by
  rw [← List.takeWhile_append_dropWhile (p := fun e => e.IsOld now) (l := buffer),
    List.mem_append] at he
  rcases he with hold | hrecent
  · have hdecide : decide (e.IsOld now) = true :=
      List.mem_takeWhile_imp (p := fun e : DeliveredEvent P => decide (e.IsOld now)) hold
    exact Or.inr (Or.inl (of_decide_eq_true hdecide))
  · by_cases hmany : bufferMax ≤ (buffer.dropWhile fun e => e.IsOld now).length
    · refine Or.inr (Or.inr ?_)
      rw [trimBuffer, List.length_drop]
      omega
    · refine Or.inl ?_
      rwa [trimBuffer, Nat.sub_eq_zero_of_le (Nat.le_of_not_le hmany), List.drop_zero]

/-! ## Publishing -/

lemma publishedEvents_append_singleton :
    publishedEvents workerId (pubs ++ [p]) = publishedEvents workerId pubs ++
      [⟨pubs.length + 1, p.ts, p.type, p.payload, workerId⟩] := by
  rw [publishedEvents, List.zipIdx_append, List.map_append, Nat.add_comm 1]
  rfl

lemma length_publishedEvents : (publishedEvents workerId pubs).length = pubs.length := by
  rw [publishedEvents, List.length_map, List.length_zipIdx]

lemma clockReadings_append_singleton :
    clockReadings (pubs ++ [p]) = clockReadings pubs ++ [p.ts, p.trimmedAt] := by
  rw [clockReadings, List.flatMap_append, List.flatMap_singleton, clockReadings]

/-- What a publication keeps: the buffer ends as the record of all events does. -/
lemma KeepsRecent.publishInProcess {t : ℕ}
    (h : KeepsRecent bus (publishedEvents workerId pubs) t) (ht : t ≤ p.trimmedAt) :
    KeepsRecent (bus.publishInProcess workerId p) (publishedEvents workerId (pubs ++ [p]))
      p.trimmedAt := by
  have hseq : bus.seq = pubs.length := h.seq.trans length_publishedEvents
  have hbuffer : (bus.publishInProcess workerId p).buffer = trimBuffer p.trimmedAt
      (bus.buffer ++ [⟨pubs.length + 1, p.ts, p.type, p.payload, workerId⟩]) := by
    rw [← hseq]
    rfl
  rw [publishedEvents_append_singleton]
  set e : DeliveredEvent P := ⟨pubs.length + 1, p.ts, p.type, p.payload, workerId⟩
  set events := publishedEvents workerId pubs
  have hsuffix : (bus.publishInProcess workerId p).buffer <:+ (events ++ [e]).rtake bufferMax := by
    rw [hbuffer]
    refine suffix_rtake ?_ (length_trimBuffer_le _ _)
    refine (trimBuffer_suffix _ _).trans (List.suffix_append_self_iff.mpr ?_)
    exact h.suffix.trans (List.drop_suffix _ _)
  refine ⟨?_, hsuffix, fun e' he' => ?_⟩
  · show bus.seq + 1 = (events ++ [e]).length
    rw [h.seq, List.length_append, List.length_singleton]
  · have hkept : e' ∈ bus.buffer ++ [e] ∨ e'.IsOld t := by
      have hmem := (rtake_suffix_append_singleton events e bufferMax).subset he'
      rcases List.mem_append.mp hmem with hevents | hlast
      · exact (h.dropped e' hevents).imp_left fun hbuffer => List.mem_append_left _ hbuffer
      · exact Or.inl (List.mem_append_right _ hlast)
    rcases hkept with hmem | hold
    · rcases mem_trimBuffer_or p.trimmedAt hmem with hkept | hold | hfull
      · exact Or.inl (hbuffer ▸ hkept)
      · exact Or.inr hold
      · left
        rw [hsuffix.eq_of_length_le (by rw [hbuffer, hfull]; exact length_rtake_le _ _)]
        exact he'
    · exact Or.inr (hold.mono ht)

variable (workerId) in
/-- The invariant after all publications. -/
lemma keepsRecent_publishInProcess (hclock : (clockReadings pubs ++ [now]).Pairwise (· ≤ ·)) :
    KeepsRecent (pubs.foldl (EventBus.publishInProcess workerId) .initial)
      (publishedEvents workerId pubs) now := by
  induction pubs using List.reverseRecOn generalizing now with
  | nil =>
      refine ⟨rfl, List.nil_suffix, fun e he => ?_⟩
      rw [publishedEvents, List.zipIdx_nil, List.map_nil, List.rtake_nil] at he
      cases he
  | append_singleton pubs p ih =>
      rw [clockReadings_append_singleton, List.append_assoc] at hclock
      have hbefore : (clockReadings pubs ++ [p.trimmedAt]).Pairwise (· ≤ ·) :=
        hclock.sublist ((List.Sublist.refl _).append (by simp))
      have hnow : p.trimmedAt ≤ now := by
        have := (List.pairwise_append.mp hclock).2.1
        simp only [List.cons_append, List.nil_append, List.pairwise_cons] at this
        exact this.2.1 now (List.mem_singleton_self now)
      rw [List.foldl_append, List.foldl_cons, List.foldl_nil]
      exact ((ih hbefore).publishInProcess (Nat.le_refl _)).mono hnow

/-! ## Replaying -/

lemma sorted_publishedEvents :
    (publishedEvents workerId pubs).Pairwise fun a b => a.seq < b.seq := by
  induction pubs using List.reverseRecOn with
  | nil => exact List.Pairwise.nil
  | append_singleton pubs p ih =>
      rw [publishedEvents_append_singleton]
      refine List.pairwise_append.mpr ⟨ih, List.pairwise_singleton _ _, fun a ha b hb => ?_⟩
      obtain rfl := List.mem_singleton.mp hb
      obtain ⟨⟨q, seq⟩, hq, rfl⟩ := List.mem_map.mp ha
      have hlt := List.snd_lt_add_of_mem_zipIdx hq
      show seq < pubs.length + 1
      omega

lemma mem_replay {after : ℕ} {types : List EventBusEventType} {e : DeliveredEvent P} :
    e ∈ bus.replay after now types ↔
      e ∈ bus.buffer ∧ after < e.seq ∧ ¬e.IsOld now ∧ (types = [] ∨ e.type ∈ types) := by
  simp only [EventBus.replay, List.mem_filter, Bool.and_eq_true, Bool.or_eq_true, decide_eq_true_eq,
    Bool.not_eq_true', decide_eq_false_iff_not, List.isEmpty_iff, List.contains_iff_mem, gt_iff_lt,
    and_assoc]

/-- After all publications in a process, as long as its clock does not go back, `replay` returns in
order, and each once, those of the last events that are asked for and not too old. -/
theorem replay_publishInProcess (workerId : String) (pubs : List (Publication P)) (now after : ℕ)
    (types : List EventBusEventType) (hclock : (clockReadings pubs ++ [now]).Pairwise (· ≤ ·)) :
    let replayed :=
      (pubs.foldl (EventBus.publishInProcess workerId) .initial).replay after now types
    (replayed.Pairwise fun a b => a.seq < b.seq) ∧
      ∀ e, e ∈ replayed ↔ e ∈ (publishedEvents workerId pubs).rtake bufferMax ∧
        after < e.seq ∧ ¬e.IsOld now ∧ (types = [] ∨ e.type ∈ types) := by
  intro replayed
  have hkeeps := keepsRecent_publishInProcess workerId hclock
  constructor
  · have hsublist : replayed.Sublist (publishedEvents workerId pubs) :=
      List.filter_sublist.trans (hkeeps.suffix.sublist.trans (List.drop_sublist _ _))
    exact sorted_publishedEvents.sublist hsublist
  · intro e
    rw [mem_replay]
    constructor
    · rintro ⟨hbuffer, hrest⟩
      exact ⟨hkeeps.suffix.subset hbuffer, hrest⟩
    · rintro ⟨hlast, hafter, hnew, htypes⟩
      refine ⟨(hkeeps.dropped e hlast).resolve_right hnew, hafter, hnew, htypes⟩

/-- An event that has got too old is dropped when the next is published. -/
theorem replay_publishInProcess_minutes :
    let pubs : List (Publication Unit) :=
      [⟨.heartbeat, (), 0, 1⟩, ⟨.chargerState, (), 60001, 60001⟩, ⟨.heartbeat, (), 60002, 60004⟩]
    let replayed := (pubs.foldl (EventBus.publishInProcess "worker") .initial).replay 0 70000 []
    (replayed.Pairwise fun a b => a.seq < b.seq) ∧
      ∀ e, e ∈ replayed ↔ e ∈ (publishedEvents "worker" pubs).rtake bufferMax ∧
        0 < e.seq ∧ ¬e.IsOld 70000 ∧ (([] : List EventBusEventType) = [] ∨ e.type ∈ []) :=
  replay_publishInProcess "worker" _ 70000 0 [] (by decide)

end ExpresSync
