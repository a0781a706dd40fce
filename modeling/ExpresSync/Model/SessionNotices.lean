import ExpresSync.Model.World

/-!
# Notifications of finished sessions

`notifyFinalizedTransactions`, and the two billing paths with it.  A pass of the sync calls it after
its writes, for the transactions it has written, and the loop makes one notification after the
other.  The emitter goes on meanwhile, but it makes no such notification.

Of a notification the data are kept from which its texts and those of the email are made.
-/

namespace ExpresSync

/-! ## The notification -/

/-- A notification of kind `session.complete`. -/
structure SessionComplete where
  /-- `sourceId` -/
  steveTransactionId : ℕ
  userId : String
  chargerName : String
  cardLabel : String
  /-- The number that `energyStr` shows. -/
  kwh : JsNumber
  durationMin : ℕ
  startedAt : ℕ
  endedAt : ℕ
deriving DecidableEq

/-- The number that `energyStr` shows for a transaction. -/
def ProcessedTransaction.energy (pt : ProcessedTransaction) : JsNumber :=
  pt.kwhDelta.map (toFixed 2)

/-- The turn of one transaction in `notifyFinalizedTransactions`: without a user there is no
notification. -/
def ProcessedTransaction.sessionComplete (pt : ProcessedTransaction)
    (userMappings : List UserMapping) (friendlyName : Option String) (now : ℕ) :
    Option SessionComplete :=
  (userMappings.find? fun m => m.id = pt.userMappingId).bind fun mappingRow =>
    (mappingRow.userId.filter (· ≠ "")).map fun userId =>
      let endedAt := pt.stopTimestamp.getD now
      { steveTransactionId := pt.steveTransactionId
        userId := userId
        chargerName := friendlyName.getD pt.chargeBoxId
        cardLabel := mappingRow.displayName.getD mappingRow.steveOcppIdTag
        kwh := pt.energy
        durationMin := (mathRound (((endedAt : ℚ) - pt.startTimestamp) / 60000)).toNat
        startedAt := pt.startTimestamp
        endedAt := endedAt }

/-- `newlyFinalized` -/
def SyncRun.newlyFinalized (run : SyncRun) (processed : List ProcessedTransaction) :
    List ProcessedTransaction :=
  processed.filter fun pt =>
    pt.isFinal && !((run.syncStates pt.steveTransactionId).map (·.isFinalized)).getD false

/-- The transactions that a pass hands over as it ends: it has written what was sent, or it has
saved all that was skipped. -/
def World.announces (w : World) : Action → List ProcessedTransaction
  | .syncPersists successfulBatchIndices =>
      match w.sync with
      | some (.sending run) =>
          if (run.persistSent successfulBatchIndices w.db).isSome then
            run.newlyFinalized
              (run.successfullySent successfulBatchIndices ++ run.transactionsSkipped)
          else []
      | _ => []
  | .syncEnds =>
      match w.sync with
      | some (.saving run []) => run.newlyFinalized run.transactionsSkipped
      | _ => []
  | _ => []

/-! ## The billing paths with their notifications -/

structure NotifyingWorld where
  world : World
  /-- What the loop has left. -/
  notifying : List ProcessedTransaction
  notifications : List SessionComplete

inductive NotifyingAction where
  | billing (action : Action)
  /-- The next turn of the loop, which ends with an error unless `created`. -/
  | notifies (friendlyName : Option String) (created : Bool)
  /-- The sync worker ends in the middle of the loop. -/
  | dies

namespace NotifyingWorld

/-- Before the first step. -/
def initial (userMappings : List UserMapping) (clock : ℕ) : NotifyingWorld :=
  ⟨World.initial userMappings clock, [], []⟩

/-- No pass is under way. -/
def Idle (s : NotifyingWorld) : Prop := s.world.sync = none ∧ s.notifying = []

/-- The next pass does not begin before the loop of the last one is over. -/
def MayAct (s : NotifyingWorld) : Action → Prop
  | .syncReads _ _ => s.notifying = []
  | _ => True

instance (s : NotifyingWorld) (a : Action) : Decidable (s.MayAct a) := by
  unfold MayAct
  rcases a <;> infer_instance

def step (s : NotifyingWorld) : NotifyingAction → Option NotifyingWorld
  | .billing a =>
      if s.MayAct a then
        (World.step s.world a).map fun world =>
          { s with world := world, notifying := s.notifying ++ s.world.announces a }
      else none
  | .notifies friendlyName created =>
      match s.notifying with
      | [] => none
      | pt :: rest =>
          let notice := pt.sessionComplete s.world.db.userMappings friendlyName s.world.clock
          some { s with
            notifying := rest
            notifications := s.notifications ++ if created then notice.toList else [] }
  | .dies => some { s with notifying := [] }

end NotifyingWorld

end ExpresSync
