import ExpresSync.Model.WebhookDispatch

/-!
# The circuit breaker in every run

What a run has to do to the breaker: open it when five reactions in a row have failed, leave it
alone while it is open, and start no reaction meanwhile.  A dispatch acts on what it has seen before
its last await, so the guarantee is one about order: which recordings and starts fall between the
counting of a failure, the decision on it, and the end of the cooldown.
-/

namespace ExpresSync

open Transition

/-! ## The guarantee -/

/-- Only an admin touches an open breaker. -/
def StaysOpen (w : WebhookDispatcher) (a : DispatchAction) (w' : WebhookDispatcher) : Prop :=
  a ≠ .resets → w.isOpen = true → w'.breaker.disabledUntilMs = w.breaker.disabledUntilMs

/-- No reaction starts while the breaker is open. -/
def StartsWhenClosed (w : WebhookDispatcher) : DispatchAction → Prop
  | .starts _ => w.isOpen = false
  | _ => True

/-- A failure that is the fifth in a row, or a later one, leaves the breaker open. -/
def OpensWhenDue (w : WebhookDispatcher) (a : DispatchAction) (w' : WebhookDispatcher) : Prop :=
  match a with
  | .decides i =>
      ∀ point ∈ w.dispatches[i]?, circuitBreakerThreshold ≤ point.inARow → w'.isOpen = true
  | _ => True

/-- A breaker that opens does so by a stored state that is read, or when five reactions in a row
have failed. -/
def OpensOnlyWhenDue (w : WebhookDispatcher) (a : DispatchAction) (w' : WebhookDispatcher) : Prop :=
  w.isOpen = false → w'.isOpen = true →
    match a with
    | .hydrates _ _ => True
    | _ => circuitBreakerThreshold ≤ w.failedInARow

/-- What a step may do to the breaker. -/
def BreakerKept (w : WebhookDispatcher) (a : DispatchAction) (w' : WebhookDispatcher) : Prop :=
  StaysOpen w a w' ∧ StartsWhenClosed w a ∧ OpensWhenDue w a w' ∧ OpensOnlyWhenDue w a w'

instance (w : WebhookDispatcher) (a : DispatchAction) (w' : WebhookDispatcher) :
    Decidable (BreakerKept w a w') := by
  have : Decidable (StaysOpen w a w') := inferInstanceAs (Decidable (_ → _ → _))
  have : Decidable (StartsWhenClosed w a) := by
    unfold StartsWhenClosed
    rcases a <;> infer_instance
  have : Decidable (OpensWhenDue w a w') := by
    unfold OpensWhenDue
    rcases a <;> infer_instance
  have : Decidable (OpensOnlyWhenDue w a w') := by
    unfold OpensOnlyWhenDue
    rcases a <;> infer_instance
  exact inferInstanceAs (Decidable (_ ∧ _))

/-! ## The condition -/

/-- No reaction that was under way when the breaker opened succeeds while it is open.  When a
failure that is due is decided on, the successes have not undone it and no cooldown that is over is
still in place; if it opens the breaker, no dispatch is between its check and its reaction.  The
stored state comes in before anything is recorded, and if it is open, before anything has passed the
check. -/
def InOrder (w : WebhookDispatcher) : DispatchAction → Prop
  | .succeeds _ => w.isOpen = false
  | .decides i =>
      (∀ point ∈ w.dispatches[i]?, circuitBreakerThreshold ≤ point.inARow →
        circuitBreakerThreshold ≤ w.breaker.consecutiveFailures ∧
          (w.breaker.disabledUntilMs = none ∨ w.isOpen = true)) ∧
      (circuitBreakerThreshold ≤ w.breaker.consecutiveFailures →
        w.breaker.disabledUntilMs = none → .passed ∉ w.dispatches)
  | .hydrates _ row =>
      ∀ stored ∈ row, w.recorded = false ∧ (stored.isOpen w.now = true → .passed ∉ w.dispatches)
  | _ => True

instance (w : WebhookDispatcher) (a : DispatchAction) : Decidable (InOrder w a) := by
  unfold InOrder
  rcases a <;> infer_instance

/-! ## What a step does -/

/-- What a step does. -/
inductive WebhookDispatcher.Steps (w : WebhookDispatcher) :
    DispatchAction → WebhookDispatcher → Prop
  | waits (ms : ℕ) : Steps w (.waits ms) { w with now := w.now + ms }
  | arrives :
      Steps w .arrives
        { w with
          hydrated := true
          dispatches := w.dispatches ++ [if w.hydrated then .checking else .hydrating] }
  | findsNoRow {i : ℕ} (hi : w.dispatches[i]? = some .hydrating) :
      Steps w (.hydrates i none) { w with dispatches := w.dispatches.set i .checking }
  | hydrates {i : ℕ} {row : CircuitBreaker} (hi : w.dispatches[i]? = some .hydrating) :
      Steps w (.hydrates i (some row))
        { w with
          breaker := row
          dispatches := w.dispatches.set i .checking
          failedInARow := if w.recorded then w.failedInARow else row.consecutiveFailures
          recorded := true }
  | checks {i : ℕ} (hi : w.dispatches[i]? = some .checking) :
      Steps w (.checks i)
        { w with
          breaker := (w.breaker.isDispatchDisabled w.now).2
          dispatches :=
            if (w.breaker.isDispatchDisabled w.now).1 then w.dispatches.eraseIdx i
            else w.dispatches.set i .passed }
  | starts {i : ℕ} (hi : w.dispatches[i]? = some .passed) :
      Steps w (.starts i) { w with dispatches := w.dispatches.set i .reacting }
  | succeeds {i : ℕ} (hi : w.dispatches[i]? = some .reacting) :
      Steps w (.succeeds i)
        { w with
          breaker := w.breaker.recordDispatchSuccess
          dispatches := w.dispatches.eraseIdx i
          failedInARow := 0
          recorded := true }
  | fails {i : ℕ} (hi : w.dispatches[i]? = some .reacting) :
      Steps w (.fails i)
        { w with
          breaker := w.breaker.recordDispatchFailure
          dispatches := w.dispatches.set i (.failing (w.failedInARow + 1))
          failedInARow := w.failedInARow + 1
          recorded := true }
  | decides {i n : ℕ} (hi : w.dispatches[i]? = some (.failing n)) :
      Steps w (.decides i)
        { w with
          breaker := w.breaker.openIfDue w.now
          dispatches := w.dispatches.eraseIdx i }
  | resets :
      Steps w .resets
        { w with
          breaker := .closed
          dispatches := w.dispatches.map DispatchPoint.reset
          failedInARow := 0
          recorded := true }

lemma WebhookDispatcher.steps_of_step {w w' : WebhookDispatcher} {a : DispatchAction}
    (hstep : w.step a = some w') : w.Steps a w' := by
  cases a with
  | waits ms =>
      obtain rfl := Option.some.inj hstep
      exact .waits ms
  | arrives =>
      obtain rfl := Option.some.inj hstep
      exact .arrives
  | hydrates i row =>
      rw [step] at hstep
      split at hstep
      · next hi =>
          cases row with
          | none =>
              obtain rfl := Option.some.inj hstep
              exact .findsNoRow hi
          | some row =>
              obtain rfl := Option.some.inj hstep
              exact .hydrates hi
      · cases hstep
  | checks i =>
      rw [step] at hstep
      split_ifs at hstep with hi
      obtain rfl := Option.some.inj hstep
      exact .checks hi
  | starts i =>
      rw [step] at hstep
      split_ifs at hstep with hi
      obtain rfl := Option.some.inj hstep
      exact .starts hi
  | succeeds i =>
      rw [step] at hstep
      split_ifs at hstep with hi
      obtain rfl := Option.some.inj hstep
      exact .succeeds hi
  | fails i =>
      rw [step] at hstep
      split_ifs at hstep with hi
      obtain rfl := Option.some.inj hstep
      exact .fails hi
  | decides i =>
      rw [step] at hstep
      split at hstep
      · next hi =>
          obtain rfl := Option.some.inj hstep
          exact .decides hi
      · cases hstep
  | resets =>
      obtain rfl := Option.some.inj hstep
      exact .resets

/-! ## The invariant -/

/-- The counter counts the failures in a row, and no dispatch is between its check and its reaction
while the breaker is open. -/
structure BreakerCounts (w : WebhookDispatcher) : Prop where
  counted : w.breaker.consecutiveFailures = w.failedInARow
  fresh : w.recorded = false → w.breaker = .closed
  noneBetween : w.isOpen = true → .passed ∉ w.dispatches

lemma breakerCounts_start (now : ℕ) : BreakerCounts (.start now) where
  counted := rfl
  fresh := fun _ => rfl
  noneBetween := fun _ => by simp [WebhookDispatcher.start]

section Step

variable {w w' : WebhookDispatcher} {a : DispatchAction}

lemma not_mem_set {ds : List DispatchPoint} {i : ℕ} {point : DispatchPoint} (h : .passed ∉ ds)
    (hne : point ≠ .passed) : .passed ∉ ds.set i point := by
  intro hmem
  rcases List.mem_or_eq_of_mem_set hmem with hmem | heq
  · exact h hmem
  · exact hne heq.symm

lemma not_mem_eraseIdx {ds : List DispatchPoint} {i : ℕ} (h : .passed ∉ ds) :
    .passed ∉ ds.eraseIdx i := fun hmem => h (List.mem_of_mem_eraseIdx hmem)

/-- A dispatch that has passed the check finds the breaker not open. -/
lemma BreakerCounts.not_open_of_passed (hcounts : BreakerCounts w) {i : ℕ}
    (hpassed : w.dispatches[i]? = some .passed) : w.isOpen = false := by
  by_contra hopen
  exact hcounts.noneBetween (Bool.not_eq_false _ ▸ hopen) (List.mem_of_getElem? hpassed)

lemma breakerCounts_step (hcounts : BreakerCounts w) (horder : InOrder w a)
    (hstep : w.step a = some w') : BreakerCounts w' := by
  cases WebhookDispatcher.steps_of_step hstep with
  | waits ms =>
      exact ⟨hcounts.counted, hcounts.fresh, fun hopen =>
        hcounts.noneBetween (CircuitBreaker.isOpen_of_later hopen)⟩
  | arrives =>
      refine ⟨hcounts.counted, hcounts.fresh, fun hopen hmem => ?_⟩
      rcases List.mem_append.mp hmem with hmem | hmem
      · exact hcounts.noneBetween hopen hmem
      · have := List.mem_singleton.mp hmem
        split at this <;> cases this
  | findsNoRow =>
      exact ⟨hcounts.counted, hcounts.fresh, fun hopen =>
        not_mem_set (hcounts.noneBetween hopen) (by decide)⟩
  | @hydrates i stored =>
      obtain ⟨hfresh, hbetween⟩ := horder stored rfl
      refine ⟨?_, by simp, fun hopen => not_mem_set (hbetween hopen) (by decide)⟩
      simp [hfresh]
  | checks =>
      refine ⟨?_, fun hrecorded => ?_, fun hopen => ?_⟩
      · exact CircuitBreaker.consecutiveFailures_isDispatchDisabled_snd.trans hcounts.counted
      · simp only [hcounts.fresh hrecorded]
        rfl
      · -- what is still open was open, and the dispatch is turned away
        have hwas : w.isOpen = true := by
          rw [← hopen]
          exact CircuitBreaker.isOpen_isDispatchDisabled_snd.symm
        have hdisabled : (w.breaker.isDispatchDisabled w.now).1 = true :=
          CircuitBreaker.isDispatchDisabled_fst.trans hwas
        simp only [hdisabled, if_true]
        exact not_mem_eraseIdx (hcounts.noneBetween hwas)
  | starts hpassed =>
      have hclosed := hcounts.not_open_of_passed hpassed
      refine ⟨hcounts.counted, hcounts.fresh, fun hopen => ?_⟩
      rw [show w.isOpen = true from hopen] at hclosed
      cases hclosed
  | succeeds =>
      refine ⟨rfl, fun _ => rfl, ?_⟩
      simp [WebhookDispatcher.isOpen, CircuitBreaker.recordDispatchSuccess]
  | fails =>
      refine ⟨congrArg (· + 1) hcounts.counted, by simp, fun hopen => ?_⟩
      exact not_mem_set (hcounts.noneBetween hopen) (by simp)
  | decides =>
      refine ⟨?_, fun hrecorded => ?_, fun hopen => not_mem_eraseIdx ?_⟩
      · exact CircuitBreaker.consecutiveFailures_openIfDue.trans hcounts.counted
      · simp only [hcounts.fresh hrecorded]
        rfl
      · by_cases hwas : w.isOpen = true
        · exact hcounts.noneBetween hwas
        · obtain ⟨hdue, hnone⟩ :=
            (CircuitBreaker.isOpen_openIfDue_of_not_open (Bool.not_eq_true _ ▸ hwas)).mp hopen
          exact horder.2 hdue hnone
  | resets => exact ⟨rfl, by simp, by simp [WebhookDispatcher.isOpen]⟩

/-! ## What a step does to the breaker -/

/-- A step that changes neither the breaker nor the clock. -/
lemma breakerKept_of_eq (hne : ∀ i, a ≠ .starts i ∧ a ≠ .decides i)
    (hbreaker : w'.breaker = w.breaker) (hnow : w'.now = w.now) : BreakerKept w a w' := by
  have hopen : w'.isOpen = w.isOpen := by
    unfold WebhookDispatcher.isOpen
    rw [hbreaker, hnow]
  refine ⟨fun _ _ => by rw [hbreaker], ?_, ?_, fun hclosed hopen' => ?_⟩
  · cases a <;> first | trivial | exact absurd rfl (hne _).1
  · cases a <;> first | trivial | exact absurd rfl (hne _).2
  · rw [hopen, hclosed] at hopen'
    cases hopen'

lemma breakerKept_step (hcounts : BreakerCounts w) (horder : InOrder w a)
    (hstep : w.step a = some w') : BreakerKept w a w' := by
  cases WebhookDispatcher.steps_of_step hstep with
  | waits ms =>
      refine ⟨fun _ _ => rfl, trivial, trivial, fun hclosed hopen => ?_⟩
      rw [show w.isOpen = true from CircuitBreaker.isOpen_of_later hopen] at hclosed
      cases hclosed
  | arrives => exact breakerKept_of_eq (fun i => ⟨by simp, by simp⟩) rfl rfl
  | findsNoRow => exact breakerKept_of_eq (fun i => ⟨by simp, by simp⟩) rfl rfl
  | @hydrates i stored =>
      have hclosed : w.breaker = .closed := hcounts.fresh (horder stored rfl).1
      refine ⟨fun _ hopen => ?_, trivial, trivial, fun _ _ => trivial⟩
      rw [WebhookDispatcher.isOpen, hclosed] at hopen
      cases hopen
  | checks =>
      refine ⟨fun _ hopen => ?_, trivial, trivial, fun hclosed hopen => ?_⟩
      · exact congrArg _ (CircuitBreaker.isDispatchDisabled_snd_of_open hopen)
      · rw [WebhookDispatcher.isOpen, CircuitBreaker.isOpen_isDispatchDisabled_snd] at hopen
        rw [WebhookDispatcher.isOpen, hopen] at hclosed
        cases hclosed
  | starts hpassed =>
      have hclosed := hcounts.not_open_of_passed hpassed
      refine ⟨fun _ _ => rfl, hclosed, trivial, fun _ hopen => ?_⟩
      rw [show w.isOpen = true from hopen] at hclosed
      cases hclosed
  | succeeds =>
      have hclosed : w.isOpen = false := horder
      refine ⟨fun _ hopen => ?_, trivial, trivial, fun _ hopen => ?_⟩
      · rw [hopen] at hclosed
        cases hclosed
      · simp [WebhookDispatcher.isOpen, CircuitBreaker.recordDispatchSuccess] at hopen
  | fails =>
      refine ⟨fun _ _ => rfl, trivial, trivial, fun hclosed hopen => ?_⟩
      rw [show w.isOpen = true from hopen] at hclosed
      cases hclosed
  | decides =>
      refine ⟨fun _ hopen => ?_, trivial, fun point hpoint hdue => ?_, fun hclosed hopen => ?_⟩
      · exact congrArg _ (CircuitBreaker.openIfDue_of_open hopen)
      · obtain ⟨hcount, hplace⟩ := horder.1 point hpoint hdue
        by_cases hopen : w.isOpen = true
        · rw [WebhookDispatcher.isOpen, CircuitBreaker.openIfDue_of_open hopen]
          exact hopen
        · exact (CircuitBreaker.isOpen_openIfDue_of_not_open (Bool.not_eq_true _ ▸ hopen)).mpr
            ⟨hcount, hplace.resolve_right hopen⟩
      · rw [← hcounts.counted]
        exact ((CircuitBreaker.isOpen_openIfDue_of_not_open hclosed).mp hopen).1
  | resets =>
      refine ⟨fun hne => absurd rfl hne, trivial, trivial, fun _ hopen => ?_⟩
      simp [WebhookDispatcher.isOpen] at hopen

end Step

/-! ## Runs -/

/-- In a run whose recordings, decisions and starts are in order, the breaker opens when five
reactions in a row have failed and only then, and once open it is left alone and no reaction starts,
until the cooldown is over or an admin resets it. -/
theorem breakerKept_of_inOrder (now : ℕ) (as : List DispatchAction)
    (horder : Meets WebhookDispatcher.step InOrder (.start now) as) :
    EachStep WebhookDispatcher.step BreakerKept (.start now) as :=
  horder.eachStep (fun _ _ _ => breakerCounts_step) (fun _ _ _ => breakerKept_step)
    (breakerCounts_start now)

namespace Scenario

/-- The first `n` webhooks are received, and their reactions started. -/
def received (n : ℕ) : List DispatchAction :=
  List.replicate n .arrives ++ [.hydrates 0 none] ++ (List.range n).map .checks ++
    (List.range n).map .starts

/-- The reaction to the first webhook fails. -/
def failure : List DispatchAction := [.fails 0, .decides 0]

/-- Five reactions fail, a sixth webhook is turned away, and after the cooldown a seventh is reacted
to. -/
def fiveFailures : List DispatchAction :=
  received 5 ++ (List.replicate 5 failure).flatten ++
    [.arrives, .checks 0, .waits 300000, .arrives, .checks 0, .starts 0, .succeeds 0]

/-- Five reactions fail and the sixth, begun with them, succeeds. -/
def lateSuccess : List DispatchAction :=
  received 6 ++ (List.replicate 5 failure).flatten ++ [.succeeds 0]

/-- A reaction succeeds between the fifth failure and the decision on it. -/
def successBeforeDecision : List DispatchAction :=
  received 6 ++ (List.replicate 4 failure).flatten ++ [.fails 0, .succeeds 1, .decides 0]

end Scenario

/-- The breaker is open for the length of the cooldown. -/
theorem breakerKept_fiveFailures :
    EachStep WebhookDispatcher.step BreakerKept (.start 0) Scenario.fiveFailures ∧
      (run WebhookDispatcher.step (.start 0) Scenario.fiveFailures).isSome = true :=
  ⟨breakerKept_of_inOrder 0 _ (by decide +kernel), by decide +kernel⟩

/-- The success closes the breaker. -/
theorem not_breakerKept_lateSuccess :
    ¬EachStep WebhookDispatcher.step BreakerKept (.start 0) Scenario.lateSuccess := by
  decide +kernel

/-- The breaker does not open. -/
theorem not_breakerKept_successBeforeDecision :
    ¬EachStep WebhookDispatcher.step BreakerKept (.start 0) Scenario.successBeforeDecision := by
  decide +kernel

end ExpresSync
