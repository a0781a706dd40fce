import ExpresSync.Foundation.Transition
import ExpresSync.Model.AutoStop
import ExpresSync.Model.World

/-!
# Sessions of an ended subscription

Billing finds the subscription of a session through the tag's mapping, its own or an ancestor's, and
through the list of Lago when the mapping names none.  The sweep of an ended subscription finds
sessions through the rows that name the subscription, by their own tags only.
`coversBilled_iff` says when it finds all that billing would have found.
-/

namespace ExpresSync

/-! ## What is billed, what is stopped -/

/-- What billing reads besides the rows. -/
structure BillingInputs where
  allTags : List StEvEOcppTag
  /-- What Lago lists for a customer. -/
  getSubscriptions : String → SubscriptionsAnswer

namespace BillingInputs

variable (billing : BillingInputs) (table : MappingTable)

/-- The subscription that the transactions of a tag are billed to. -/
def subscription (idTag : String) : Option String :=
  (buildMappingLookupWithInheritance (table.userMappings.filter (·.isActive)) billing.allTags
    idTag).bind fun m =>
      (resolveSubscription m .empty
        (billing.getSubscriptions (m.lagoCustomerExternalId.getD ""))).1.map (·.externalId)

end BillingInputs

namespace SweepInputs

variable (inputs : SweepInputs) (billing : BillingInputs) (table : MappingTable)
  (recentlyStopped : RecentStops) (externalSubscriptionId : String)

/-- Every call of `getTransactions` is answered. -/
def Answers : Prop := ∀ idTag, inputs.answers idTag = true

/-- The transaction is in progress and billed to the subscription, and it has not been stopped in
the minute before the sweep. -/
structure IsDue (tx : StEvETransaction) : Prop where
  known : tx ∈ inputs.transactions.entries
  inProgress : tx.stopTimestamp = none
  billed : billing.subscription table tx.ocppIdTag = some externalSubscriptionId
  notRecent : recentlyStopped.wasRecentlyStopped tx.id inputs.startedAt = false

/-- The sweep asks to stop the transaction, at its charger. -/
def Stops (sweep : Sweep) (tx : StEvETransaction) : Prop :=
  ∃ outcome ∈ sweep.result.results,
    outcome.transactionPk = tx.id ∧ outcome.chargeBoxId = tx.chargeBoxId

/-- Every transaction that is due is stopped. -/
def CoversBilled : Prop :=
  ∀ tx, inputs.IsDue billing table recentlyStopped externalSubscriptionId tx →
    Stops (inputs.stopsEnded externalSubscriptionId table recentlyStopped) tx

/-- Some active row names the subscription, and some row that names it, active or not, has the tag
itself. -/
def FoundByRow (idTag : String) : Prop :=
  (∃ t ∈ table.rows, t.flips externalSubscriptionId false = true) ∧
    ∃ t ∈ table.rows, t.row.lagoSubscriptionExternalId = some externalSubscriptionId ∧
      (t.row.steveOcppIdTag = "" ∨ idTag = t.row.steveOcppIdTag)

end SweepInputs

/-! ## One turn of a sweep -/

section Turn

variable {inputs : SweepInputs} {sweep : Sweep} {tx : StEvETransaction} {recent : RecentStops}

lemma RecentStops.wasRecentlyStopped_iff {txId now : ℕ} :
    recent.wasRecentlyStopped txId now = true ↔
      ∃ stoppedAt, (txId, stoppedAt) ∈ recent.entries ∧ now ≤ stoppedAt + recentTtlMs := by
  simp only [wasRecentlyStopped, Option.any_eq_true, KeyedLog.get?_eq_some, decide_eq_true_eq]
  constructor
  · rintro ⟨⟨txId, stoppedAt⟩, ⟨hentry, rfl⟩, hnow⟩
    exact ⟨stoppedAt, hentry, hnow⟩
  · rintro ⟨stoppedAt, hentry, hnow⟩
    exact ⟨_, ⟨hentry, rfl⟩, hnow⟩

/-- Marking a transaction adds its entry and no other. -/
lemma RecentStops.mem_markRecent {txId now : ℕ} {entry : ℕ × ℕ}
    (h : entry ∈ (recent.markRecent txId now).entries) :
    entry.1 = txId ∨ entry ∈ recent.entries := by
  have hupsert : entry ∈ (recent.upsert (txId, now)).entries := by
    unfold markRecent at h
    dsimp only at h
    split at h
    · exact List.mem_of_mem_filter h
    · exact h
  rcases KeyedLog.mem_upsert.mp hupsert with rfl | ⟨hold, -⟩
  · exact Or.inl rfl
  · exact Or.inr hold

lemma RecentStops.mem_checked {txId now : ℕ} {entry : ℕ × ℕ}
    (h : entry ∈ (recent.checked txId now).entries) : entry ∈ recent.entries := by
  unfold checked at h
  split at h
  · exact h
  · exact List.mem_of_mem_filter h

lemma SweepInputs.stopOne_of (look : ℕ) :
    (inputs.stopOne look tx).transactionPk = tx.id ∧
      (inputs.stopOne look tx).chargeBoxId = tx.chargeBoxId := by
  unfold stopOne
  split <;> exact ⟨rfl, rfl⟩

/-- A transaction is passed over because it has been stopped a moment ago, or it is stopped now. -/
lemma SweepInputs.visit_cases (inputs : SweepInputs) (sweep : Sweep) (tx : StEvETransaction) :
    (sweep.recentlyStopped.wasRecentlyStopped tx.id (inputs.lookedAt sweep.looks) = true ∧
      (inputs.visit sweep tx).recentlyStopped = sweep.recentlyStopped ∧
        (inputs.visit sweep tx).result = sweep.result) ∨
    ((inputs.visit sweep tx).result.results =
        sweep.result.results ++ [inputs.stopOne sweep.looks tx] ∧
      ∀ entry ∈ (inputs.visit sweep tx).recentlyStopped.entries,
        entry.1 = tx.id ∨ entry ∈ sweep.recentlyStopped.entries) := by
  unfold visit
  dsimp only
  split
  · next hrecent => exact Or.inl ⟨hrecent, if_pos hrecent, rfl⟩
  · refine Or.inr ⟨rfl, fun entry hentry => ?_⟩
    split at hentry
    · exact (RecentStops.mem_markRecent hentry).imp_right RecentStops.mem_checked
    · exact Or.inr (RecentStops.mem_checked hentry)

/-- What has been stopped stays so. -/
lemma SweepInputs.mem_results_visit {outcome : StopOutcome}
    (h : outcome ∈ sweep.result.results) :
    outcome ∈ (inputs.visit sweep tx).result.results := by
  rcases inputs.visit_cases sweep tx with ⟨-, -, hsame⟩ | ⟨hmore, -⟩
  · rwa [hsame]
  · rw [hmore]
    exact List.mem_append_left _ h

end Turn

/-! ## A whole sweep -/

section Run

/-- What a sweep remembers it remembered before, or it has stopped it; what it has stopped are
transactions in progress, at their chargers. -/
structure SweepInputs.Accounts (inputs : SweepInputs) (recentlyStopped : RecentStops)
    (visited : List StEvETransaction) (sweep : Sweep) : Prop where
  remembered : ∀ entry ∈ sweep.recentlyStopped.entries, entry ∈ recentlyStopped.entries ∨
    ∃ outcome ∈ sweep.result.results, outcome.transactionPk = entry.1
  stopped : ∀ outcome ∈ sweep.result.results, ∃ tx ∈ visited,
    outcome.transactionPk = tx.id ∧ outcome.chargeBoxId = tx.chargeBoxId

variable {inputs : SweepInputs} {recentlyStopped : RecentStops} {visited : List StEvETransaction}
  {sweep : Sweep} {tx : StEvETransaction}

lemma SweepInputs.Accounts.visit (h : inputs.Accounts recentlyStopped visited sweep)
    (hvisited : tx ∈ visited) :
    inputs.Accounts recentlyStopped visited (inputs.visit sweep tx) := by
  rcases inputs.visit_cases sweep tx with ⟨-, hsame, hresult⟩ | ⟨hmore, hentries⟩
  · constructor
    · rw [hsame, hresult]
      exact h.remembered
    · rw [hresult]
      exact h.stopped
  · have hstopped : (inputs.stopOne sweep.looks tx).transactionPk = tx.id ∧
        (inputs.stopOne sweep.looks tx).chargeBoxId = tx.chargeBoxId :=
          inputs.stopOne_of sweep.looks
    constructor
    · intro entry hentry
      rw [hmore]
      rcases hentries entry hentry with hnew | hold
      · exact Or.inr ⟨_, List.mem_append_right _ (List.mem_singleton_self _),
          hstopped.1.trans hnew.symm⟩
      · rcases h.remembered entry hold with hbefore | ⟨outcome, houtcome, heq⟩
        · exact Or.inl hbefore
        · exact Or.inr ⟨outcome, List.mem_append_left _ houtcome, heq⟩
    · intro outcome houtcome
      rw [hmore] at houtcome
      rcases List.mem_append.mp houtcome with hold | hnew
      · exact h.stopped outcome hold
      · obtain rfl := List.mem_singleton.mp hnew
        exact ⟨tx, hvisited, hstopped⟩

/-- After its turn a transaction has been stopped, in the sweep or in the minute before. -/
lemma SweepInputs.Accounts.stopped_of_turn (h : inputs.Accounts recentlyStopped visited sweep)
    (hnot : recentlyStopped.wasRecentlyStopped tx.id inputs.startedAt = false) :
    ∃ outcome ∈ (inputs.visit sweep tx).result.results, outcome.transactionPk = tx.id := by
  rcases inputs.visit_cases sweep tx with ⟨hrecent, -, hresult⟩ | ⟨hmore, -⟩
  · rw [hresult]
    obtain ⟨stoppedAt, hentry, hnow⟩ := RecentStops.wasRecentlyStopped_iff.mp hrecent
    refine (h.remembered _ hentry).resolve_left fun hbefore => ?_
    have hstart := (inputs.startedAt_le sweep.looks).trans hnow
    rw [RecentStops.wasRecentlyStopped_iff.mpr ⟨stoppedAt, hbefore, hstart⟩] at hnot
    cases hnot
  · rw [hmore]
    exact ⟨_, List.mem_append_right _ (List.mem_singleton_self _), (inputs.stopOne_of _).1⟩

/-- The transactions that a sweep over the rows looks at. -/
def SweepInputs.visits (inputs : SweepInputs) (rows : List UserMapping) : List StEvETransaction :=
  rows.flatMap fun m => inputs.getTransactions m.steveOcppIdTag

lemma SweepInputs.foldl_visitMapping (hanswers : inputs.Answers) (rows : List UserMapping)
    (sweep : Sweep) :
    rows.foldl inputs.visitMapping sweep = (inputs.visits rows).foldl inputs.visit sweep := by
  rw [visits, List.foldl_flatMap]
  refine List.foldl_ext _ _ _ fun s m _ => ?_
  rw [visitMapping, if_pos (hanswers m.steveOcppIdTag)]

lemma SweepInputs.mem_getTransactions {idTag : String} :
    tx ∈ inputs.getTransactions idTag ↔ tx ∈ inputs.transactions.entries ∧
      tx.stopTimestamp = none ∧ (idTag = "" ∨ tx.ocppIdTag = idTag) := by
  simp [getTransactions]

/-- A sweep stops exactly what it looks at, but for what was stopped in the minute before. -/
theorem SweepInputs.stops_sweep_iff (hanswers : inputs.Answers) (rows : List UserMapping)
    (hknown : tx ∈ inputs.transactions.entries)
    (hnot : recentlyStopped.wasRecentlyStopped tx.id inputs.startedAt = false) :
    Stops (rows.foldl inputs.visitMapping ⟨recentlyStopped, .empty, 0⟩) tx ↔
      tx ∈ inputs.visits rows := by
  have hinitial : inputs.Accounts recentlyStopped (inputs.visits rows)
      ⟨recentlyStopped, .empty, 0⟩ := ⟨fun entry => Or.inl, fun outcome h => nomatch h⟩
  have hvisits : ∀ other ∈ inputs.visits rows, other ∈ inputs.transactions.entries := by
    intro other hother
    obtain ⟨m, -, hother⟩ := List.mem_flatMap.mp hother
    exact (mem_getTransactions.mp hother).1
  rw [foldl_visitMapping hanswers]
  have hfinal : inputs.Accounts recentlyStopped (inputs.visits rows)
      ((inputs.visits rows).foldl inputs.visit ⟨recentlyStopped, .empty, 0⟩) :=
    List.foldlRecOn _ _ hinitial fun s hs other hother => hs.visit hother
  constructor
  · rintro ⟨outcome, houtcome, hid, -⟩
    obtain ⟨other, hother, hsame, -⟩ := hfinal.stopped outcome houtcome
    rwa [KeyedLog.eq_of_key hknown (hvisits other hother) (hid.symm.trans hsame)]
  · intro hvisited
    have hstays : ∀ (s : Sweep) (other : StEvETransaction),
        (∃ outcome ∈ s.result.results, outcome.transactionPk = tx.id) →
          ∃ outcome ∈ (inputs.visit s other).result.results, outcome.transactionPk = tx.id :=
      fun s other ⟨outcome, houtcome, hid⟩ => ⟨outcome, mem_results_visit houtcome, hid⟩
    obtain ⟨outcome, houtcome, hid⟩ := foldl_reaches hvisited
      (fun s other hother hs => SweepInputs.Accounts.visit hs hother) hstays
      (fun s hs => hs.stopped_of_turn hnot) hinitial
    obtain ⟨other, hother, hsame, hcharger⟩ := hfinal.stopped outcome houtcome
    obtain rfl := KeyedLog.eq_of_key hknown (hvisits other hother) (hid.symm.trans hsame)
    exact ⟨outcome, houtcome, hid, hcharger⟩

end Run

/-! ## The sweep of an ended subscription -/

section Ended

variable {inputs : SweepInputs} {table : MappingTable} {recentlyStopped : RecentStops}
  {externalSubscriptionId : String} {tx : StEvETransaction}

/-- Switching rows off changes neither their tags nor what they name. -/
lemma exists_userMapping_iff {P : Option String → String → Prop} :
    (∃ m ∈ (handleSubscriptionStateChange externalSubscriptionId false table).1.userMappings,
        P m.lagoSubscriptionExternalId m.steveOcppIdTag) ↔
      ∃ t ∈ table.rows, P t.row.lagoSubscriptionExternalId t.row.steveOcppIdTag := by
  simp only [handleSubscriptionStateChange, MappingTable.userMappings, SerialTable.update,
    SerialTable.rewrite, List.map_map, List.mem_map, exists_exists_and_eq_and, Function.comp_apply]
  refine exists_congr fun t => and_congr_right fun _ => ?_
  split <;> rfl

/-- The sweep looks at the transactions in progress with the tag of a row that names the
subscription. -/
lemma SweepInputs.stops_stopActive_iff (hanswers : inputs.Answers) (userMappings : List UserMapping)
    (hnodup : (userMappings.map (·.id)).Nodup) (hknown : tx ∈ inputs.transactions.entries)
    (hprogress : tx.stopTimestamp = none)
    (hnot : recentlyStopped.wasRecentlyStopped tx.id inputs.startedAt = false) :
    Stops (inputs.stopActiveTransactionsForSubscription userMappings externalSubscriptionId
        recentlyStopped) tx ↔
      ∃ m ∈ userMappings, m.lagoSubscriptionExternalId = some externalSubscriptionId ∧
        (m.steveOcppIdTag = "" ∨ tx.ocppIdTag = m.steveOcppIdTag) := by
  have hrow : ∀ m ∈ userMappings,
      (((userMappings.filter fun m =>
        m.lagoSubscriptionExternalId == some externalSubscriptionId).map (·.id)).contains m.id =
          true ↔ m.lagoSubscriptionExternalId = some externalSubscriptionId) := by
    intro m hm
    simp only [List.contains_iff_mem, List.mem_map, List.mem_filter, beq_iff_eq]
    constructor
    · rintro ⟨other, ⟨hother, hnames⟩, hid⟩
      rwa [List.inj_on_of_nodup_map hnodup hother hm hid] at hnames
    · exact fun hnames => ⟨m, ⟨hm, hnames⟩, rfl⟩
  rw [stopActiveTransactionsForSubscription, stopActiveTransactionsForMappings,
    stops_sweep_iff hanswers _ hknown hnot]
  simp only [visits, List.mem_flatMap, List.mem_filter, mem_getTransactions, hknown, hprogress,
    true_and]
  refine exists_congr fun m => ?_
  rw [and_assoc]
  exact and_congr_right fun hm => and_congr_left fun _ => hrow m hm

/-- Which transactions the reaction to the end of a subscription stops. -/
theorem SweepInputs.stops_stopsEnded_iff (hanswers : inputs.Answers)
    (hknown : tx ∈ inputs.transactions.entries) (hprogress : tx.stopTimestamp = none)
    (hnot : recentlyStopped.wasRecentlyStopped tx.id inputs.startedAt = false) :
    Stops (inputs.stopsEnded externalSubscriptionId table recentlyStopped) tx ↔
      FoundByRow table externalSubscriptionId tx.ocppIdTag := by
  unfold stopsEnded FoundByRow
  split
  · next hflips =>
      have hnodup : ((handleSubscriptionStateChange externalSubscriptionId false
          table).1.userMappings.map (·.id)).Nodup := by
        rw [MappingTable.userMappings, List.map_map]
        exact (handleSubscriptionStateChange externalSubscriptionId false table).1.nodup
      rw [stops_stopActive_iff hanswers _ hnodup hknown hprogress hnot, exists_userMapping_iff
        (P := fun names idTag => names = some externalSubscriptionId ∧
          (idTag = "" ∨ tx.ocppIdTag = idTag))]
      exact (and_iff_right (List.any_eq_true.mp hflips)).symm
  · next hflips =>
      refine iff_of_false ?_ fun h => hflips (List.any_eq_true.mpr h.1)
      rintro ⟨outcome, houtcome, -⟩
      cases houtcome

/-- The sweep of an ended subscription stops every session that is billed to it if and only if each
of these is on the tag of a row that names the subscription, some such row being active. -/
theorem coversBilled_iff (inputs : SweepInputs) (billing : BillingInputs) (table : MappingTable)
    (recentlyStopped : RecentStops) (externalSubscriptionId : String)
    (hanswers : inputs.Answers) :
    inputs.CoversBilled billing table recentlyStopped externalSubscriptionId ↔
      ∀ tx, inputs.IsDue billing table recentlyStopped externalSubscriptionId tx →
        SweepInputs.FoundByRow table externalSubscriptionId tx.ocppIdTag :=
  forall₂_congr fun _ hdue =>
    SweepInputs.stops_stopsEnded_iff hanswers hdue.known hdue.inProgress hdue.notRecent

end Ended

/-! ## Concrete sweeps -/

namespace Scenario

/-- The card has a row of its own. -/
def ownTable : MappingTable := ⟨[.inserted .admin cardMapping], 2, by decide, by decide⟩

/-- The tag above the card, with the only row. -/
def fleetMapping : UserMapping := { cardMapping with steveOcppIdTag := "FLEET" }

def fleetTable : MappingTable :=
  ⟨[.inserted .admin fleetMapping], 2, by decide, by decide⟩

/-- The card is a child of the fleet's tag. -/
def fleetBilling : BillingInputs where
  allTags := [⟨"FLEET", 11, none, none, none, none, none⟩,
    ⟨"CARD-1", 12, none, some "FLEET", none, none, none⟩]
  getSubscriptions _ := .ok []

/-- A session of the card is in progress, and StEvE answers. -/
def fleetSweep : SweepInputs where
  transactions := KeyedLog.empty.record (transaction 7 "0" none)
  answers _ := true
  remoteStop _ := .ok ()
  startedAt := 0
  lookedAt look := look
  stoppedAt look := look
  startedAt_le := Nat.zero_le

end Scenario

open Scenario in
/-- With a row of its own the card's session is stopped. -/
theorem coversBilled_ownRow :
    fleetSweep.CoversBilled fleetBilling ownTable .empty "sub-1" := by
  refine (coversBilled_iff fleetSweep fleetBilling ownTable .empty "sub-1" fun _ => rfl).mpr ?_
  intro tx hdue
  obtain rfl := List.mem_singleton.mp hdue.known
  exact ⟨⟨_, List.mem_singleton_self _, rfl⟩, _, List.mem_singleton_self _, rfl, Or.inr rfl⟩

open Scenario in
/-- The card's session is billed to the subscription of the fleet and goes on when that ends. -/
theorem not_coversBilled_inherited :
    ¬∀ (inputs : SweepInputs) (billing : BillingInputs) (table : MappingTable)
      (recentlyStopped : RecentStops) (externalSubscriptionId : String),
      inputs.Answers →
        inputs.CoversBilled billing table recentlyStopped externalSubscriptionId := by
  intro h
  have hdue : fleetSweep.IsDue fleetBilling fleetTable .empty "sub-1" (transaction 7 "0" none) :=
    ⟨List.mem_singleton_self _, rfl, by decide +kernel, rfl⟩
  obtain ⟨outcome, houtcome, -⟩ :=
    h fleetSweep fleetBilling fleetTable .empty "sub-1" (fun _ => rfl) _ hdue
  have hnone : (fleetSweep.stopsEnded "sub-1" fleetTable .empty).result.results = [] := by
    decide +kernel
  rw [hnone] at houtcome
  cases houtcome

end ExpresSync
