import ExpresSync.Foundation.Transition
import ExpresSync.Model.DockerLogSubscriber

/-!
# Lines of the log while somebody listens

Every event of the log is to come to all who are subscribed, and nobody is to be subscribed to a
stream that has stopped.  An error of the stream stops it under its subscribers until the next one
comes; `subscribersServed` says what holds beyond that, as long as nobody subscribes while the
stream is about to stop.
-/

namespace ExpresSync

open Transition LogSubscriber

/-- Somebody is subscribed only while the stream runs. -/
def LogSubscriber.IsAttended (s : LogSubscriber) : Prop :=
  s.subscribers ≠ [] → s.streamRunning = true

instance (s : LogSubscriber) : Decidable s.IsAttended := inferInstanceAs (Decidable (_ → _))

/-- What a line says comes to all who are subscribed, once. -/
def DeliversLine (s : LogSubscriber) (a : LogAction) (s' : LogSubscriber) : Prop :=
  match a with
  | .yields line now _ => s.subscribers ≠ [] → ∀ said ∈ lineEvent line now,
      s'.delivered = s.delivered ++ s.subscribers.map fun sub => (sub.id, said.1)
  | _ => True

instance (s : LogSubscriber) (a : LogAction) (s' : LogSubscriber) :
    Decidable (DeliversLine s a s') := by
  unfold DeliversLine
  split <;> infer_instance

/-- No line is lost, and nobody is left with a stream that has stopped. -/
def NoLineLost (s : LogSubscriber) (as : List LogAction) : Prop :=
  EachStep LogSubscriber.step DeliversLine s as ∧
    Always LogSubscriber.step LogSubscriber.IsAttended s as

/-- A line, an error and a new subscriber are seen to. -/
def ServesSubscribers (s : LogSubscriber) (a : LogAction) (s' : LogSubscriber) : Prop :=
  match a with
  | .subscribes true hasOnError => s'.streamRunning = true ∧
      s'.subscribers = s.subscribers ++ [⟨s.subscriptions, hasOnError⟩]
  | .throws message _ => s'.errors = s.errors ++
      s.subscribers.filterMap fun sub => if sub.hasOnError then some (sub.id, message) else none
  | a => DeliversLine s a s'

/-- Nobody subscribes to a stream that still runs when no subscriber is left. -/
def JoinsOthers (s : LogSubscriber) : LogAction → Prop
  | .subscribes true _ => s.streamRunning = true → s.subscribers ≠ []
  | _ => True

instance (s : LogSubscriber) (a : LogAction) : Decidable (JoinsOthers s a) := by
  unfold JoinsOthers
  split <;> infer_instance

/-- The stream is over, or it throws. -/
def LogAction.stopsStream : LogAction → Bool
  | .throws _ _ | .ends => true
  | _ => false

/-- Somebody subscribes, and Docker is there. -/
def LogAction.attaches : LogAction → Bool
  | .subscribes dockerAvailable _ => dockerAvailable
  | _ => false

/-- The stream has been over, or has thrown, and nobody has subscribed since. -/
def StoppedSince (as : List LogAction) : Prop :=
  ∃ before a after, as = before ++ a :: after ∧ a.stopsStream = true ∧
    ∀ a' ∈ after, a'.attaches = false

/-- A stream that runs is to stop exactly when nobody is subscribed. -/
structure Attentive (s : LogSubscriber) : Prop where
  running : s.streamRunning = true ↔ s.loop ≠ .idle
  stopping : s.streamRunning = true → (s.stopRequested = true ↔ s.subscribers = [])
  returning : s.loop = .awaitsReturn → s.subscribers = []

/-! ## What handlers do -/

/-- Subscribers have been detached, and nothing else has changed but what they have been told. -/
structure Detaches (s s' : LogSubscriber) : Prop where
  subset : ∀ sub ∈ s'.subscribers, sub ∈ s.subscribers
  running : s'.streamRunning = s.streamRunning
  loop : s'.loop = s.loop
  stopping : (s.stopRequested = true ↔ s.subscribers = []) →
    (s'.stopRequested = true ↔ s'.subscribers = [])

section Handlers

variable {s s' s'' : LogSubscriber} {leaving : List ℕ} {sub : Subscriber}

lemma Detaches.refl : Detaches s s := ⟨fun _ h => h, rfl, rfl, id⟩

lemma Detaches.trans (h : Detaches s s') (h' : Detaches s' s'') : Detaches s s'' :=
  ⟨fun sub hsub => h.subset sub (h'.subset sub hsub), h'.running.trans h.running,
    h'.loop.trans h.loop, fun hstop => h'.stopping (h.stopping hstop)⟩

lemma Detaches.attentive (h : Detaches s s') (hs : Attentive s) : Attentive s' := by
  refine ⟨?_, fun hrunning => ?_, fun hloop => ?_⟩
  · rw [h.running, h.loop]
    exact hs.running
  · exact h.stopping (hs.stopping (h.running ▸ hrunning))
  · have hnone := hs.returning (h.loop ▸ hloop)
    refine List.eq_nil_iff_forall_not_mem.mpr fun sub hsub => ?_
    have hmem := h.subset sub hsub
    rw [hnone] at hmem
    cases hmem

lemma detaches_unsubscribe (s : LogSubscriber) (i : ℕ) : Detaches s (s.unsubscribe i) := by
  unfold unsubscribe
  split
  · next hany =>
    refine ⟨fun sub hsub => List.mem_of_mem_filter hsub, rfl, rfl, fun hstop => ?_⟩
    obtain ⟨sub, hsub, -⟩ := List.any_eq_true.mp hany
    have hsome : s.subscribers ≠ [] := List.ne_nil_of_mem hsub
    have hgoing : s.stopRequested = false := by
      rw [← Bool.not_eq_true, hstop]
      exact hsome
    dsimp only
    split
    · next hempty => exact iff_of_true rfl (List.isEmpty_iff.mp hempty)
    · next hrest =>
      refine iff_of_false (by rw [hgoing]; exact Bool.false_ne_true) fun hnil => hrest ?_
      exact List.isEmpty_iff.mpr hnil
  · exact .refl

lemma unsubscribe_told (s : LogSubscriber) (i : ℕ) :
    (s.unsubscribe i).delivered = s.delivered ∧ (s.unsubscribe i).errors = s.errors := by
  unfold unsubscribe
  split <;> exact ⟨rfl, rfl⟩

lemma detaches_afterHandler (s : LogSubscriber) (leaving : List ℕ) (sub : Subscriber) :
    Detaches s (s.afterHandler leaving sub) := by
  unfold afterHandler
  split
  · exact detaches_unsubscribe s sub.id
  · exact .refl

lemma afterHandler_told (s : LogSubscriber) (leaving : List ℕ) (sub : Subscriber) :
    (s.afterHandler leaving sub).delivered = s.delivered ∧
      (s.afterHandler leaving sub).errors = s.errors := by
  unfold afterHandler
  split
  · exact unsubscribe_told s sub.id
  · exact ⟨rfl, rfl⟩

section Calls

variable {call : LogSubscriber → Subscriber → LogSubscriber}

/-- Handlers that only detach subscribers are called one after another. -/
lemma detaches_foldl (hcall : ∀ s sub, Detaches s (call s sub)) (subs : List Subscriber)
    (s : LogSubscriber) : Detaches s (subs.foldl call s) := by
  induction subs generalizing s with
  | nil => exact .refl
  | cons sub subs ih => exact (hcall s sub).trans (ih _)

/-- Each subscriber is told what it is to be told. -/
lemma told_foldl {β : Type*} (told : LogSubscriber → List β) {tells : Subscriber → Option β}
    (hcall : ∀ s sub, told (call s sub) = told s ++ (tells sub).toList) (subs : List Subscriber)
    (s : LogSubscriber) : told (subs.foldl call s) = told s ++ subs.filterMap tells := by
  induction subs generalizing s with
  | nil => exact (List.append_nil _).symm
  | cons sub subs ih =>
      rw [List.foldl_cons, ih, hcall, List.append_assoc]
      cases htells : tells sub with
      | none => rw [List.filterMap_cons_none htells, Option.toList_none, List.nil_append]
      | some b => rw [List.filterMap_cons_some htells, Option.toList_some, List.singleton_append]

end Calls

lemma detaches_dispatch (s : LogSubscriber) (leaving : List ℕ) (event : ScanLogEvent) :
    Detaches s (s.dispatch leaving event) := by
  refine detaches_foldl (fun s sub => ?_) _ _
  obtain ⟨hsubset, hrunning, hloop, hstopping⟩ := detaches_afterHandler
    { s with delivered := s.delivered ++ [(sub.id, event)] } leaving sub
  exact ⟨hsubset, hrunning, hloop, hstopping⟩

lemma delivered_dispatch (s : LogSubscriber) (leaving : List ℕ) (event : ScanLogEvent) :
    (s.dispatch leaving event).delivered =
      s.delivered ++ s.subscribers.map fun sub => (sub.id, event) := by
  rw [← List.filterMap_eq_map]
  exact told_foldl LogSubscriber.delivered
    (fun s sub => (afterHandler_told _ leaving sub).1) s.subscribers s

lemma errors_dispatchError (s : LogSubscriber) (leaving : List ℕ) (message : String) :
    (s.dispatchError leaving message).errors = s.errors ++ s.subscribers.filterMap fun sub =>
      if sub.hasOnError then some (sub.id, message) else none := by
  refine told_foldl LogSubscriber.errors (fun s sub => ?_) s.subscribers s
  split
  · exact (afterHandler_told _ leaving sub).2
  · exact (List.append_nil _).symm

lemma delivered_dispatchError (s : LogSubscriber) (leaving : List ℕ) (message : String) :
    (s.dispatchError leaving message).delivered = s.delivered := by
  have hnone : s.subscribers.filterMap (fun _ => (none : Option (ℕ × ScanLogEvent))) = [] :=
    List.filterMap_eq_nil_iff.mpr fun _ _ => rfl
  rw [← List.append_nil s.delivered, ← hnone]
  refine told_foldl LogSubscriber.delivered (fun s sub => ?_) s.subscribers s
  rw [Option.toList_none, List.append_nil]
  split
  · exact (afterHandler_told _ leaving sub).1
  · rfl

end Handlers

/-! ## Steps -/

section Steps

variable {s s' : LogSubscriber} {a : LogAction}

/-- What a step can do. -/
inductive LogStep (s : LogSubscriber) : LogAction → LogSubscriber → Prop
  | refuses {hasOnError} : LogStep s (.subscribes false hasOnError) s
  | joins {hasOnError} : LogStep s (.subscribes true hasOnError) (s.subscribe hasOnError)
  | detaches {i} : LogStep s (.unsubscribes i) (s.unsubscribe i)
  | reads {line now leaving} (hloop : s.loop = .awaitsLine) :
      LogStep s (.yields line now leaving) (s.handleLine line now leaving)
  | breaks {message leaving} :
      LogStep s (.throws message leaving) (s.dispatchError leaving message).finish
  | ends : LogStep s .ends s.finish
  | returns (hloop : s.loop = .awaitsReturn) : LogStep s .returns s.finish

lemma logStep_of_step (hstep : s.step a = some s') : LogStep s a s' := by
  cases a with
  | subscribes dockerAvailable hasOnError =>
      obtain rfl := Option.some.inj hstep
      cases dockerAvailable with
      | true => exact .joins
      | false => exact .refuses
  | unsubscribes i =>
      obtain rfl := Option.some.inj hstep
      exact .detaches
  | yields line now leaving =>
      obtain ⟨hloop, hline⟩ := Option.ite_none_right_eq_some.mp hstep
      obtain rfl := Option.some.inj hline
      exact .reads hloop
  | throws message leaving =>
      obtain ⟨-, hthrows⟩ := Option.ite_none_right_eq_some.mp hstep
      obtain rfl := Option.some.inj hthrows
      exact .breaks
  | ends =>
      obtain ⟨-, hends⟩ := Option.ite_none_right_eq_some.mp hstep
      obtain rfl := Option.some.inj hends
      exact .ends
  | returns =>
      obtain ⟨hloop, hreturns⟩ := Option.ite_none_right_eq_some.mp hstep
      obtain rfl := Option.some.inj hreturns
      exact .returns hloop

lemma attentive_initial : Attentive .initial :=
  ⟨by decide, fun h => absurd h (by decide), fun h => absurd h (by decide)⟩

/-- Nothing is known of the subscribers of a stream that has stopped. -/
lemma attentive_finish (s : LogSubscriber) : Attentive s.finish :=
  ⟨by simp [finish], fun h => Bool.noConfusion h, fun h => StreamLoop.noConfusion h⟩

lemma attentive_subscribe (h : Attentive s) (hjoins : s.streamRunning = true → s.subscribers ≠ [])
    (hasOnError : Bool) : Attentive (s.subscribe hasOnError) := by
  unfold subscribe
  dsimp only
  split
  · next hrunning =>
    refine ⟨h.running, fun _ => ?_, fun hloop => absurd (h.returning hloop) (hjoins hrunning)⟩
    rw [h.stopping hrunning]
    exact iff_of_false (hjoins hrunning) (by simp)
  · next hstopped =>
    unfold LogSubscriber.runStream
    rw [if_neg hstopped]
    exact ⟨by simp, fun _ => by simp, fun hloop => StreamLoop.noConfusion hloop⟩

/-- Somebody who subscribes has a stream that runs. -/
lemma subscribe_serves (s : LogSubscriber) (hasOnError : Bool) :
    (s.subscribe hasOnError).streamRunning = true ∧
      (s.subscribe hasOnError).subscribers = s.subscribers ++ [⟨s.subscriptions, hasOnError⟩] := by
  unfold subscribe
  dsimp only
  split
  · next hrunning => exact ⟨hrunning, rfl⟩
  · next hstopped =>
    unfold LogSubscriber.runStream
    rw [if_neg hstopped]
    exact ⟨rfl, rfl⟩

/-- A line is dispatched as what it says, or the loop leaves since nobody is subscribed. -/
lemma handleLine_cases (h : Attentive s) (hloop : s.loop = .awaitsLine) (line : String) (now : ℕ)
    (leaving : List ℕ) :
    (s.subscribers = [] ∧ s.handleLine line now leaving = { s with loop := .awaitsReturn }) ∨
      s.subscribers ≠ [] ∧ Detaches s (s.handleLine line now leaving) ∧
        ∀ said ∈ lineEvent line now, (s.handleLine line now leaving).delivered =
          s.delivered ++ s.subscribers.map fun sub => (sub.id, said.1) := by
  have hrunning : s.streamRunning = true := by
    rw [h.running, hloop]
    exact StreamLoop.noConfusion
  by_cases hnone : s.subscribers = []
  · refine Or.inl ⟨hnone, ?_⟩
    simp [handleLine, hnone]
  · have hgoing : s.stopRequested = false := by
      rw [← Bool.not_eq_true, h.stopping hrunning]
      exact hnone
    have hreads : (s.stopRequested || s.subscribers.isEmpty) = false := by
      simp [hgoing, hnone]
    refine Or.inr ⟨hnone, ?_⟩
    unfold handleLine
    rw [hreads, if_neg Bool.false_ne_true]
    cases hsaid : lineEvent line now with
    | none => exact ⟨.refl, fun _ h => by cases h⟩
    | some said =>
        obtain ⟨hsubset, hrunning', hloop', hstopping⟩ := detaches_dispatch
          { s with published := s.published ++ said.2.toList } leaving said.1
        refine ⟨⟨hsubset, hrunning', hloop', hstopping⟩, ?_⟩
        rintro _ ⟨⟩
        exact delivered_dispatch _ leaving said.1

lemma attentive_step (h : Attentive s) (hjoins : JoinsOthers s a) (hstep : s.step a = some s') :
    Attentive s' := by
  cases logStep_of_step hstep with
  | refuses => exact h
  | joins => exact attentive_subscribe h hjoins _
  | detaches => exact (detaches_unsubscribe s _).attentive h
  | reads hloop =>
      rcases handleLine_cases h hloop _ _ _ with ⟨hnone, hleaves⟩ | ⟨-, hdetaches, -⟩
      · have hrunning : s.streamRunning = true := by
          rw [h.running, hloop]
          exact StreamLoop.noConfusion
        rw [hleaves]
        exact ⟨iff_of_true hrunning StreamLoop.noConfusion, h.stopping, fun _ => hnone⟩
      · exact hdetaches.attentive h
  | breaks | ends | returns => exact attentive_finish _

/-- While a stream that runs is to stop only for want of subscribers, they are served. -/
lemma servesSubscribers_step (h : Attentive s) (hstep : s.step a = some s') :
    ServesSubscribers s a s' := by
  cases logStep_of_step hstep with
  | joins => exact subscribe_serves s _
  | reads hloop =>
      intro hsome
      rcases handleLine_cases h hloop _ _ _ with ⟨hnone, -⟩ | ⟨-, -, hdelivered⟩
      · exact absurd hnone hsome
      · exact hdelivered
  | breaks => exact errors_dispatchError s _ _
  | refuses | detaches | ends | returns => trivial

/-- Somebody is left with a stream that has stopped only by the stream. -/
lemma stopped_step (h : Attentive s) (hstep : s.step a = some s') (hleft : ¬s'.IsAttended) :
    a.stopsStream = true ∨ ¬s.IsAttended ∧ a.attaches = false := by
  obtain ⟨hsome, hstopped⟩ := Classical.not_imp.mp hleft
  have hkept : Detaches s s' → ¬s.IsAttended := by
    intro hdetaches hattended
    obtain ⟨sub, hsub⟩ := List.exists_mem_of_ne_nil _ hsome
    refine hstopped (hdetaches.running.trans (hattended ?_))
    exact List.ne_nil_of_mem (hdetaches.subset sub hsub)
  cases logStep_of_step hstep with
  | refuses => exact Or.inr ⟨hleft, rfl⟩
  | joins => exact absurd (subscribe_serves s _).1 hstopped
  | detaches => exact Or.inr ⟨hkept (detaches_unsubscribe s _), rfl⟩
  | reads hloop =>
      rcases handleLine_cases h hloop _ _ _ with ⟨hnone, hleaves⟩ | ⟨-, hdetaches, -⟩
      · rw [hleaves] at hsome
        exact absurd hnone hsome
      · exact Or.inr ⟨hkept hdetaches, rfl⟩
  | breaks | ends => exact Or.inl rfl
  | returns hloop => exact absurd (h.returning hloop) hsome

end Steps

/-! ## What is delivered -/

/-- An event names a charge box by the characters an id may have, and the tag or the transaction
that it is about. -/
structure ScanLogEvent.IsWellFormed (event : ScanLogEvent) : Prop where
  chargeBox : ∀ box ∈ event.chargeBoxId, box ≠ "" ∧ ∀ c ∈ box.toList, Pattern.isIdChar c = true
  reject : event.type = .reject → event.transactionId = none ∧ ∃ tag ∈ event.idTag, tag ≠ ""
  startTx : event.type = .startTx → event.transactionId ≠ none ∧ event.chargeBoxId ≠ none
  rawLine : event.rawLine.length ≤ 500

lemma chargeBoxId_wellFormed {line box : String} (h : extractChargeBoxId line = some box) :
    box ≠ "" ∧ ∀ c ∈ box.toList, Pattern.isIdChar c = true := by
  have hpatterns : ∀ pattern ∈ chargeBoxIdPatterns, ∀ p least isLazy,
      .many p least isLazy true ∈ pattern.pieces → p = Pattern.isIdChar ∧ 1 ≤ least := by
    simp +contextual [chargeBoxIdPatterns, Pattern.separator, Pattern.quote, Pattern.someSpaces]
  obtain ⟨run, hrun, rfl⟩ := Option.map_eq_some_iff.mp h
  obtain ⟨pattern, hpattern, hmatch⟩ := List.exists_of_findSome?_eq_some hrun
  obtain ⟨captures, hcaptures, hhead⟩ := Option.bind_eq_some_iff.mp hmatch
  obtain ⟨p, least, isLazy, hpiece, hleast, hall⟩ :=
    (captures_matchLine hcaptures).of_mem (List.mem_of_head? hhead)
  obtain ⟨rfl, hone⟩ := hpatterns pattern hpattern p least isLazy hpiece
  rw [String.toList_ofList]
  refine ⟨fun hempty => ?_, hall⟩
  have hnil : run = [] := by simpa using congrArg String.toList hempty
  rw [hnil] at hleast
  exact absurd (hone.trans hleast) (by simp)

lemma lineEvent_wellFormed {line : String} {now : ℕ} {said : ScanLogEvent × Option TxStarted}
    (h : lineEvent line now = some said) : said.1.IsWellFormed := by
  have hline : (truncatedLine line).length ≤ 500 := by simp [truncatedLine]
  unfold lineEvent at h
  dsimp only at h
  split at h
  · next tag htag =>
    obtain rfl := Option.some.inj h
    obtain ⟨-, hne⟩ := Option.filter_eq_some_iff.mp htag
    refine ⟨fun box hbox => chargeBoxId_wellFormed hbox, fun _ => ⟨rfl, tag, rfl, ?_⟩, ?_, hline⟩
    · exact of_decide_eq_true hne
    · exact fun htype => ScanLogEventType.noConfusion htype
  · split at h
    · next startTx box hstart hbox =>
      obtain rfl := Option.some.inj h
      refine ⟨?_, fun htype => ScanLogEventType.noConfusion htype, ?_, hline⟩
      · rintro _ ⟨⟩
        exact chargeBoxId_wellFormed (Option.filter_eq_some_iff.mp hbox).1
      · exact fun _ => ⟨Option.some_ne_none _, Option.some_ne_none _⟩
    · cases h

lemma delivered_subscribe (s : LogSubscriber) (hasOnError : Bool) :
    (s.subscribe hasOnError).delivered = s.delivered := by
  unfold subscribe LogSubscriber.runStream
  dsimp only
  split <;> rfl

lemma wellFormed_step {s s' : LogSubscriber} {a : LogAction} (hstep : s.step a = some s')
    (h : ∀ told ∈ s.delivered, told.2.IsWellFormed) :
    ∀ told ∈ s'.delivered, told.2.IsWellFormed := by
  cases logStep_of_step hstep with
  | refuses => exact h
  | joins =>
      rw [delivered_subscribe]
      exact h
  | detaches =>
      rw [(unsubscribe_told s _).1]
      exact h
  | @reads line now leaving =>
      unfold handleLine
      split
      · exact h
      · cases hsaid : lineEvent line now with
        | none => exact h
        | some said =>
            dsimp only
            rw [delivered_dispatch]
            refine List.forall_mem_append.mpr ⟨h, fun told htold => ?_⟩
            obtain ⟨sub, -, rfl⟩ := List.mem_map.mp htold
            exact lineEvent_wellFormed hsaid
  | @breaks message leaving =>
      show ∀ told ∈ (s.dispatchError leaving message).delivered, _
      rw [delivered_dispatchError]
      exact h
  | ends | returns => exact h

/-- All that is delivered in a run is well-formed. -/
theorem delivered_wellFormed {s : LogSubscriber} {as : List LogAction}
    (hrun : run LogSubscriber.step .initial as = some s) :
    ∀ told ∈ s.delivered, told.2.IsWellFormed :=
  Meets.invariant (C := fun _ _ => True) (fun _ _ _ h _ hstep => wellFormed_step hstep h)
    (fun _ h => absurd h List.not_mem_nil) (meets_of_forall fun _ _ => trivial) hrun

/-! ## Runs -/

/-- In a run from a state in which somebody may already be left with a stream that has stopped. -/
lemma stopped_run {s t : LogSubscriber} {as : List LogAction} (h : Attentive s)
    (hjoins : Meets LogSubscriber.step JoinsOthers s as)
    (hrun : run LogSubscriber.step s as = some t) (hleft : ¬t.IsAttended) :
    StoppedSince as ∨ ¬s.IsAttended ∧ ∀ a ∈ as, a.attaches = false := by
  induction as generalizing s with
  | nil =>
      obtain rfl : s = t := by simpa using hrun
      exact Or.inr ⟨hleft, fun _ h => absurd h List.not_mem_nil⟩
  | cons a as ih =>
      obtain ⟨s', hstep, hrest⟩ := run_cons_eq_some.mp hrun
      obtain ⟨hC, hjoins'⟩ := hjoins s' hstep
      rcases ih (attentive_step h hC hstep) hjoins' hrest with
        ⟨before, stop, after, rfl, hstop, hafter⟩ | ⟨hleft', hnone⟩
      · exact Or.inl ⟨a :: before, stop, after, rfl, hstop, hafter⟩
      · rcases stopped_step h hstep hleft' with hstop | ⟨hbefore, ha⟩
        · exact Or.inl ⟨[], a, as, rfl, hstop, hnone⟩
        · exact Or.inr ⟨hbefore, List.forall_mem_cons.mpr ⟨ha, hnone⟩⟩

/-- As long as nobody subscribes to a stream that is about to stop: what lines say comes to all
subscribers, an error to all who want to know, and somebody who subscribes has a stream that runs;
nobody is left with a stream that has stopped, unless it has been over, or has thrown, since the
last one subscribed. -/
theorem subscribersServed (as : List LogAction)
    (h : Meets LogSubscriber.step JoinsOthers .initial as) :
    EachStep LogSubscriber.step ServesSubscribers .initial as ∧
      ∀ s, run LogSubscriber.step .initial as = some s → ¬s.IsAttended → StoppedSince as := by
  constructor
  · exact Meets.eachStep (fun _ _ _ hs hC hstep => attentive_step hs hC hstep)
      (fun _ _ _ hs _ hstep => servesSubscribers_step hs hstep) attentive_initial h
  · intro s hrun hleft
    refine (stopped_run attentive_initial h hrun hleft).resolve_right fun hstart => hstart.1 ?_
    exact fun hsome => absurd rfl hsome

/-- Who subscribes to a stream that is about to stop misses the line that stops it. -/
example : ¬EachStep LogSubscriber.step DeliversLine .initial [.subscribes true true,
    .unsubscribes 0, .subscribes true true, .yields "Unknown idTag: ABC123" 1000 []] := by
  decide +kernel

namespace Scenario

/-- Two listen while a tag is rejected, and one has left when the stream throws. -/
def brokenStream : List LogAction :=
  [.subscribes true true, .subscribes true false, .yields "Unknown idTag: ABC123" 1000 [1],
    .throws "Connection reset by peer" []]

end Scenario

open Scenario

theorem subscribersServed_brokenStream :
    EachStep LogSubscriber.step ServesSubscribers .initial brokenStream ∧
      ∀ s, run LogSubscriber.step .initial brokenStream = some s → ¬s.IsAttended →
        StoppedSince brokenStream :=
  subscribersServed brokenStream (by decide +kernel)

/-- The subscriber that is left has no stream, and nothing starts it again. -/
theorem not_noLineLost_brokenStream : ¬NoLineLost .initial brokenStream :=
  fun h => absurd h.2 (by decide +kernel)

end ExpresSync
