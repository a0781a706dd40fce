import ExpresSync.Model.RemoteStops
import ExpresSync.Properties.OwnPairings

/-!
# What the watchdog stops

A pairing that is still armed stops whatever starts at its charger: the hook may have missed the
tap, and then nothing says which card it was.  A matched or consumed pairing stops the transaction
of its own card only (`interceptableStops`).  The charger of a pairing is looked up with `LIKE`, so
this is said of chargers whose id is no pattern and is continued by no other one.
-/

namespace ExpresSync

open Transition

namespace WatchdogWorld

/-- The RemoteStops of a step. -/
def sentBy (w w' : WatchdogWorld) : List TxStartedCall := w'.stopped.drop w.stopped.length

/-- The row is a live pairing of the charger. -/
def IsPairingOf (w : WatchdogWorld) (chargeBoxId : String) (row : Verification) : Prop :=
  row ∈ w.pairing.table.rows ∧ row.isLive w.pairing.now = true ∧
    ∃ code, IdentifiesPairing row.identifier chargeBoxId code

/-- A transaction of a known card is stopped only when a live pairing of its charger is matched to
that card. -/
def StopsIntercepted (w : WatchdogWorld) (_ : WatchdogAction) (w' : WatchdogWorld) : Prop :=
  ∀ call ∈ w.sentBy w', ∀ idTag ∈ call.idTag,
    ∃ row, w.IsPairingOf call.chargeBoxId row ∧ row.value.matchedIdTag = some idTag

/-- The id of a charger is read as it is written: it holds no special character, and no identifier
continues it with a further colon. -/
def ReadsLiterally (w : WatchdogWorld) (chargeBoxId : String) : Prop :=
  (∀ c ∈ chargeBoxId.toList, ¬Sql.IsMeta c) ∧
    ∀ row ∈ w.pairing.table.rows, ¬row.Continues chargeBoxId

/-- The pairing may be the one the transaction was started for: it is still armed, or it was matched
to the card, or consumed with it, in the last ten seconds. -/
def MayBeIntercepted (w : WatchdogWorld) (call : TxStartedCall) (idTag : String)
    (row : Verification) : Prop :=
  row.value.status = some .armed ∨
    (row.value.status = some .matched ∨ row.value.status = some .consumed) ∧
      row.value.matchedIdTag = some idTag ∧
        call.calledAt < w.updatedAt row.id + matchWindowMs

/-- A transaction of a known card is stopped only when a live pairing of its charger is still armed
or has just been matched to that card. -/
def StopsInterceptable (w : WatchdogWorld) (_ : WatchdogAction) (w' : WatchdogWorld) : Prop :=
  ∀ call ∈ w.sentBy w', ∀ idTag ∈ call.idTag, w.ReadsLiterally call.chargeBoxId →
    ∃ row, w.IsPairingOf call.chargeBoxId row ∧ w.MayBeIntercepted call idTag row

variable {w w' : WatchdogWorld} {a : WatchdogAction}

/-- Only an answered query sends a RemoteStop, for a call that finds a row. -/
lemma findsIntent_of_sentBy (hstep : w.step a = some w') {call : TxStartedCall}
    (hsent : call ∈ w.sentBy w') : w.findsIntent call = true := by
  have hquiet : w'.stopped = w.stopped → w.findsIntent call = true := by
    intro hsame
    rw [sentBy, hsame, List.drop_length] at hsent
    cases hsent
  cases a with
  | pairs action =>
      obtain ⟨pairing, -, rfl⟩ := Option.map_eq_some_iff.mp hstep
      exact hquiet rfl
  | txStarted payload =>
      obtain rfl := Option.some.inj hstep
      refine hquiet ?_
      unfold handleTxStarted
      split
      · rfl
      · split <;> rfl
  | queryAnswered i ok =>
      obtain ⟨waiting, hwaiting, rfl⟩ := Option.map_eq_some_iff.mp hstep
      by_cases hfinds : (ok && w.findsIntent waiting) = true
      · rw [if_pos hfinds] at hsent
        simp only [sentBy, stop, List.drop_left, List.mem_singleton] at hsent
        rw [hsent]
        exact (Bool.and_eq_true_iff.mp hfinds).2
      · rw [if_neg hfinds] at hquiet
        exact hquiet rfl
  | timerFires i =>
      obtain ⟨timer, -, hfires⟩ := Option.bind_eq_some_iff.mp hstep
      dsimp only at hfires
      split at hfires
      · obtain rfl := Option.some.inj hfires
        exact hquiet rfl
      · cases hfires

/-- What a row that is found for a known card is. -/
lemma mayBeIntercepted_of_interceptedBy {call : TxStartedCall} {idTag : String}
    {row : Verification} (htag : idTag ∈ call.idTag)
    (hrow : row.interceptedBy call w.pairing.now (w.updatedAt row.id) = true) :
    w.MayBeIntercepted call idTag row := by
  simp only [Verification.interceptedBy, Bool.and_eq_true, Bool.or_eq_true, beq_iff_eq,
    decide_eq_true_eq, Option.mem_def.mp htag] at hrow
  rcases hrow.2 with harmed | ⟨⟨hstatus, hwindow⟩, hmatched⟩
  · exact Or.inl harmed
  · exact Or.inr ⟨hstatus, by simpa using hmatched, hwindow⟩

/-- Where the id is read as it is written, a row that is found is one of the charger's pairings. -/
lemma isPairingOf_of_likeCharger {chargeBoxId : String} {row : Verification}
    (hliteral : w.ReadsLiterally chargeBoxId) (hrow : row ∈ w.pairing.table.rows)
    (hlike : row.likeCharger chargeBoxId = true) (hlive : row.isLive w.pairing.now = true) :
    w.IsPairingOf chargeBoxId row := by
  obtain ⟨code, hcode⟩ := (likeCharger_iff_of_plain hliteral.1).mp hlike
  refine ⟨hrow, hlive, code, hcode, fun hcolon => ?_⟩
  exact hliteral.2 row hrow ⟨code, hcode, hcolon⟩

/-- One step. -/
lemma stopsInterceptable_of_step (hstep : w.step a = some w') : w.StopsInterceptable a w' := by
  intro call hsent idTag htag hliteral
  obtain ⟨row, hrow, hfound⟩ := List.any_eq_true.mp (findsIntent_of_sentBy hstep hsent)
  refine ⟨row, ?_, mayBeIntercepted_of_interceptedBy htag hfound⟩
  simp only [Verification.interceptedBy, Bool.and_eq_true] at hfound
  exact isPairingOf_of_likeCharger hliteral hrow hfound.1.1 hfound.1.2

end WatchdogWorld

/-- Whatever rows there are and whatever happens to them, a transaction of a known card is stopped
only while a pairing of its charger is armed or has just been matched to that card. -/
theorem interceptableStops (w : WatchdogWorld) (as : List WatchdogAction) :
    EachStep WatchdogWorld.step WatchdogWorld.StopsInterceptable w as := by
  refine EachStep.of_invariant (I := fun _ => True) (R := fun _ _ _ => True) ?_ ?_ trivial
    (meets_of_forall (C := fun _ _ => True) fun _ _ => trivial)
  · exact fun _ _ _ _ _ _ => trivial
  · exact fun _ _ _ _ _ hstep => WatchdogWorld.stopsInterceptable_of_step hstep

namespace Scenario

/-- A pairing is armed at CB-1, and no card has been tapped yet. -/
def waitingPairing : WatchdogWorld :=
  .startedBeside
    ⟨SerialTable.empty.insert (Arming.row ⟨"CB-1", none, none⟩ "c0de" 0) fun _ => rfl, 1000, []⟩
    fun _ => 0

end Scenario

open Scenario in
/-- A transaction that somebody starts with another card while a pairing waits for its tap. -/
theorem not_stopsIntercepted_waitingPairing :
    ¬∀ (w : WatchdogWorld) (as : List WatchdogAction),
      EachStep WatchdogWorld.step WatchdogWorld.StopsIntercepted w as := by
  intro h
  have hsteps := h waitingPairing
    [.txStarted ⟨"CB-1", some 7, some "OTHER"⟩, .queryAnswered 0 true]
  obtain ⟨hstop, -⟩ := (hsteps _ rfl).2 _ rfl
  obtain ⟨row, ⟨hrow, -⟩, hmatched⟩ := hstop ⟨"CB-1", 7, some "OTHER", 1000⟩ (by decide +kernel)
    "OTHER" rfl
  have hnone : ∀ row ∈ waitingPairing.pairing.table.rows, row.value.matchedIdTag = none := by
    decide +kernel
  rw [hnone row hrow] at hmatched
  cases hmatched

end ExpresSync
