import ExpresSync.Properties.LagoCacheSteps
import Mathlib.Data.List.Perm.Basic

/-!
# The rows that a reconcile pass marks as deleted

A pass fetches `maxPages` pages at most and takes what it has not fetched to be gone, so the
entities behind the page bound are lost: the active rows that it marks as deleted are exactly
absent from Lago in those runs in which no entity behind the bound is an active row when a pass
ends (`soft_deletes_absent_iff`).
-/

namespace ExpresSync

open Transition

variable {E C : Type} {K : LagoEntityKind E C}

/-! ## Listings -/

lemma LagoRecord.about_of_listed {record : LagoRecord E} {asOf : ℕ} {item : ListedEntity E}
    (h : record.listed asOf = some item) : record.change = .saved item.entity := by
  obtain ⟨change, version⟩ := record
  cases change with
  | saved entity =>
      obtain rfl := Option.some.inj h
      rfl
  | deleted lagoId => cases h

/-- No entity is there twice. -/
lemma LagoEntityKind.nodup_existing (lago : LagoTable K) (asOf : ℕ) :
    ((K.existing lago asOf).map fun item => K.lagoId item.entity).Nodup := by
  have hkeys : (K.existing lago asOf).map (fun item => K.lagoId item.entity) =
      (lago.entries.filter fun record => (record.listed asOf).isSome).map
        fun record => record.change.about K := by
    unfold LagoEntityKind.existing
    induction lago.entries with
    | nil => rfl
    | cons record records ih =>
        cases hlisted : record.listed asOf with
        | none => simpa [hlisted] using ih
        | some item =>
            have habout := LagoRecord.about_of_listed hlisted
            simpa [hlisted, habout, LagoChange.about] using ih
  rw [hkeys]
  exact lago.nodup.sublist (List.filter_sublist.map _)

namespace LagoListing

variable (source : LagoListing K)

/-- The ids, in the order of the pages. -/
def ids : List String := source.listed.map fun item => K.lagoId item.entity

lemma nodup_ids : source.ids.Nodup :=
  ((source.complete.map _).nodup_iff).mpr (LagoEntityKind.nodup_existing _ _)

/-- The ids of the pages that a pass asks for. -/
def fetchedIds : List String := source.ids.take (K.maxPages * lagoPerPage)

/-- What stands behind the last page that a pass asks for. -/
def beyondBound : List (ListedEntity E) := source.listed.drop (K.maxPages * lagoPerPage)

/-- What is listed and not fetched stands behind the bound. -/
lemma mem_ids_and_not_mem_fetchedIds {id : String} :
    (id ∈ source.ids ∧ id ∉ source.fetchedIds) ↔
      ∃ item ∈ source.beyondBound, K.lagoId item.entity = id := by
  have hids : source.ids = source.fetchedIds ++
      source.beyondBound.map fun item => K.lagoId item.entity := by
    unfold fetchedIds beyondBound
    rw [List.map_drop, ← ids, List.take_append_drop]
  have hnodup := source.nodup_ids
  rw [hids, List.nodup_append] at hnodup
  rw [hids, List.mem_append, List.mem_map]
  constructor
  · rintro ⟨hfetched | hbeyond, hnot⟩
    · exact absurd hfetched hnot
    · exact hbeyond
  · intro hbeyond
    refine ⟨Or.inr hbeyond, fun hfetched => ?_⟩
    exact hnodup.2.2 id hfetched id (List.mem_map.mpr hbeyond) rfl

end LagoListing

namespace LagoCacheWorld

variable {w w' : LagoCacheWorld K}

/-- An entity keeps its id between the first page and its own. -/
lemma lagoId_refreshed (item : ListedEntity E) :
    K.lagoId (w.refreshed item).entity = K.lagoId item.entity := by
  unfold refreshed
  cases hget : (w.lago.get? (K.lagoId item.entity)).bind (LagoRecord.listed w.changes.length) with
  | none => rfl
  | some fresh =>
      obtain ⟨record, hrecord, hlisted⟩ := Option.bind_eq_some_iff.mp hget
      have hid := (KeyedLog.get?_eq_some.mp hrecord).2
      rw [LagoRecord.about_of_listed hlisted] at hid
      exact hid

/-! ## Passes -/

variable (w) in
/-- A pass has fetched the ids of its pages, and no others. -/
def FetchesPages : Prop :=
  match w.pass with
  | .idle => True
  | .listing source pages allItems => pages ≤ K.maxPages ∧
      allItems.map (fun item => K.lagoId item.entity) = source.ids.take (pages * lagoPerPage)
  | .upserting source fetched _ | .deleting source fetched _ =>
      fetched.map (fun item => K.lagoId item.entity) = source.fetchedIds

/-- One round of the loop takes over the next page. -/
lemma fetchesPages_fetchesPage {source : LagoListing K} {pages : ℕ}
    {allItems : List (ListedEntity E)} (hpages : pages ≤ K.maxPages)
    (hids : allItems.map (fun item => K.lagoId item.entity) =
      source.ids.take (pages * lagoPerPage)) :
    FetchesPages { w with pass := w.fetchesPage source pages allItems } := by
  have hmore : (allItems ++ (Chunks.chunkAt lagoPerPage source.listed pages).map w.refreshed).map
      (fun item => K.lagoId item.entity) = source.ids.take ((pages + 1) * lagoPerPage) := by
    have hpage : ((Chunks.chunkAt lagoPerPage source.listed pages).map w.refreshed).map
        (fun item => K.lagoId item.entity) = Chunks.chunkAt lagoPerPage source.ids pages := by
      rw [List.map_map, Chunks.chunkAt, Chunks.chunkAt, LagoListing.ids, ← List.map_drop,
        ← List.map_take]
      exact List.map_congr_left fun item _ => lagoId_refreshed item
    rw [List.map_append, hids, hpage, Chunks.take_append_chunkAt]
  unfold fetchesPage
  split
  · next hbound =>
    have hlast : pages = K.maxPages := by omega
    show allItems.map _ = source.fetchedIds
    rw [hids, hlast, LagoListing.fetchedIds]
  · next hbound =>
    dsimp only
    split
    · next hlast =>
      rw [List.length_map, Chunks.length_chunkAt] at hlast
      have hall := K.isLastPage_sound _ _ hlast
      have hlength : source.ids.length ≤ (pages + 1) * lagoPerPage := by
        rw [LagoListing.ids, List.length_map]
        exact hall
      have hmono : (pages + 1) * lagoPerPage ≤ K.maxPages * lagoPerPage :=
        Nat.mul_le_mul_right _ (by omega)
      show List.map _ _ = source.fetchedIds
      rw [hmore, LagoListing.fetchedIds, List.take_of_length_le hlength,
        List.take_of_length_le (hlength.trans hmono)]
    · exact ⟨by omega, hmore⟩

variable [DecidableEq E]

/-- Every step leaves a pass with the ids of its pages. -/
lemma FetchesPages.step {a : LagoCacheAction E} (h : w.FetchesPages) (hstep : w.step a = some w') :
    w'.FetchesPages := by
  have hsame : ∀ {w₂ : LagoCacheWorld K}, w₂.pass = w.pass → w₂.FetchesPages := by
    intro w₂ heq
    unfold FetchesPages
    rw [heq]
    exact h
  have hpass : ∀ {pass : ReconcilePass K}, w.pass = pass →
      FetchesPages { w with pass := pass } := by
    rintro pass rfl
    exact h
  cases a with
  | waits ms =>
      obtain rfl := Option.some.inj hstep
      exact hsame rfl
  | lagoSaves entity =>
      obtain rfl := Option.some.inj hstep
      exact hsame rfl
  | lagoDeletes lagoId =>
      obtain rfl := Option.some.inj hstep
      exact hsame rfl
  | webhook number succeeds =>
      obtain ⟨entity, -, rfl⟩ | ⟨lagoId, -, -, rfl⟩ := step_webhook.mp hstep
      · exact hsame pass_upserts
      · exact hsame (by split <;> rfl)
  | passStarts listed =>
      obtain ⟨-, complete, rfl⟩ := step_passStarts.mp hstep
      refine ⟨Nat.zero_le _, ?_⟩
      simp
  | passFetchesPage =>
      obtain ⟨source, pages, allItems, heq, rfl⟩ := step_passFetchesPage.mp hstep
      obtain ⟨hpages, hids⟩ := hpass heq
      exact fetchesPages_fetchesPage hpages hids
  | passUpserts succeeds =>
      obtain ⟨source, fetched, item, remaining, heq, rfl⟩ := step_passUpserts.mp hstep
      exact hpass heq
  | passReadsLocal =>
      obtain ⟨source, fetched, heq, rfl⟩ := step_passReadsLocal.mp hstep
      have hfetched : fetched.map (fun item => K.lagoId item.entity) = source.fetchedIds :=
        hpass heq
      exact hfetched
  | passDeletesOrphans =>
      obtain ⟨source, fetched, localActive, -, rfl⟩ := step_passDeletesOrphans.mp hstep
      trivial
  | passFails =>
      obtain rfl := step_passFails hstep
      trivial

/-! ## The end of a pass -/

omit [DecidableEq E] in
/-- The update marks those active rows that were read as active and were not fetched. -/
lemma exists_deleted_iff (source : LagoListing K) {fetched : List (ListedEntity E)}
    {localActive : List String} {row : CacheRow E C} (hrow : row ∈ w.cache.entries)
    (hactive : row.deletedAt = none) :
    (∃ row' ∈ (w.deletesOrphans source fetched localActive).cache.entries,
      K.lagoId row'.payload = K.lagoId row.payload ∧ row'.deletedAt.isSome = true) ↔
      K.lagoId row.payload ∈ localActive ∧
        K.lagoId row.payload ∉ fetched.map fun item => K.lagoId item.entity := by
  rw [← mem_findOrphans]
  simp only [deletesOrphans, LagoEntityKind.mem_softDeleteOrphans]
  constructor
  · rintro ⟨row', ⟨old, hold, rfl⟩, hkey, hdeleted⟩
    split at hdeleted
    · next horphan =>
      rw [if_pos horphan] at hkey
      exact hkey ▸ horphan
    · next hkept =>
      rw [if_neg hkept] at hkey
      obtain rfl := KeyedLog.eq_of_key hold hrow hkey
      rw [hactive] at hdeleted
      cases hdeleted
  · intro horphan
    refine ⟨_, ⟨row, hrow, rfl⟩, ?_⟩
    rw [if_pos horphan]
    exact ⟨rfl, rfl⟩

omit [DecidableEq E] in
variable (w) in
/-- An active row that a pass marks as deleted belongs to an entity the pass did not find in
Lago. -/
def DeletesAbsent : LagoCacheAction E → LagoCacheWorld K → Prop
  | .passDeletesOrphans, w' =>
      match w.pass with
      | .deleting source _ _ => ∀ row ∈ w.cache.entries, row.deletedAt = none →
          (∃ row' ∈ w'.cache.entries,
            K.lagoId row'.payload = K.lagoId row.payload ∧ row'.deletedAt.isSome = true) →
          K.lagoId row.payload ∉ source.ids
      | _ => True
  | _, _ => True

omit [DecidableEq E] in
variable (w) in
/-- When a pass marks its orphans, no entity that Lago listed behind the last page asked for is an
active row, or it was not one when the pass read the active rows. -/
def WithinPageBound : LagoCacheAction E → Prop
  | .passDeletesOrphans =>
      match w.pass with
      | .deleting source _ localActive => ∀ item ∈ source.beyondBound,
          K.lagoId item.entity ∈ localActive →
            ∀ row ∈ w.cache.entries, K.lagoId row.payload = K.lagoId item.entity →
              row.deletedAt ≠ none
      | _ => True
  | _ => True

lemma withinPageBound_iff {a : LagoCacheAction E} (h : w.FetchesPages)
    (hstep : w.step a = some w') : w.WithinPageBound a ↔ w.DeletesAbsent a w' := by
  cases a with
  | passDeletesOrphans =>
      obtain ⟨source, fetched, localActive, heq, rfl⟩ := step_passDeletesOrphans.mp hstep
      have hfetched : fetched.map (fun item => K.lagoId item.entity) = source.fetchedIds := by
        unfold FetchesPages at h
        rw [heq] at h
        exact h
      simp only [WithinPageBound, DeletesAbsent, heq]
      constructor
      · intro hbound row hrow hactive hdeleted hlisted
        obtain ⟨hlocal, hnot⟩ := (exists_deleted_iff source hrow hactive).mp hdeleted
        rw [hfetched] at hnot
        obtain ⟨item, hitem, hid⟩ := source.mem_ids_and_not_mem_fetchedIds.mp ⟨hlisted, hnot⟩
        exact hbound item hitem (hid ▸ hlocal) row hrow hid.symm hactive
      · intro habsent item hitem hlocal row hrow hid hactive
        obtain ⟨hlisted, hnot⟩ :=
          source.mem_ids_and_not_mem_fetchedIds.mpr ⟨item, hitem, hid.symm⟩
        have hdeleted :=
          (exists_deleted_iff source hrow hactive).mpr ⟨hid ▸ hlocal, hfetched ▸ hnot⟩
        exact habsent row hrow hactive hdeleted hlisted
  | _ => exact Iff.rfl

/-- From any tables, and through any webhooks and changes in Lago in the meantime: the passes mark
only rows of absent entities exactly when, whenever one ends, none of the entities behind its page
bound is an active row. -/
theorem soft_deletes_absent_iff (K : LagoEntityKind E C) (w : LagoCacheWorld K)
    (as : List (LagoCacheAction E)) :
    Meets step WithinPageBound { w with pass := .idle } as ↔
      EachStep step DeletesAbsent { w with pass := .idle } as :=
  meets_iff_eachStep (I := FetchesPages) (A := fun _ _ => True)
    (fun _ _ _ hI _ _ hstep => hI.step hstep)
    (fun _ _ _ hI _ hstep => withinPageBound_iff hI hstep) trivial
      (meets_of_forall fun _ _ => trivial)

/-! ## A pass over more pages than it asks for -/

/-- As long as there is more to list, the loop runs into the page bound. -/
lemma run_fetchesPages {source : LagoListing K}
    (hmore : K.maxPages * lagoPerPage < source.listed.length) (rounds pages : ℕ)
    (hrounds : pages + rounds = K.maxPages) (allItems : List (ListedEntity E))
    (w : LagoCacheWorld K) :
    ∃ fetched, run step { w with pass := .listing source pages allItems }
        (List.replicate (rounds + 1) .passFetchesPage) =
      some { w with pass := .upserting source fetched fetched } := by
  induction rounds generalizing pages allItems with
  | zero =>
      refine ⟨allItems, ?_⟩
      have hbound : K.maxPages < pages + 1 := by omega
      simp [run, step, fetchesPage, hbound]
  | succ rounds ih =>
      have hbound : ¬K.maxPages < pages + 1 := by omega
      have hlast : ∀ items : List (ListedEntity E),
          items.length = min lagoPerPage (source.listed.length - pages * lagoPerPage) →
          K.isLastPage (pages + 1) (lagoTotalPages source.listed.length) items.length = false := by
        intro items hitems
        by_contra hlast
        rw [Bool.not_eq_false, hitems] at hlast
        have hall := K.isLastPage_sound _ _ hlast
        have hmono : (pages + 1) * lagoPerPage ≤ K.maxPages * lagoPerPage :=
          Nat.mul_le_mul_right _ (by omega)
        omega
      obtain ⟨fetched, hrun⟩ := ih (pages + 1) (by omega)
        (allItems ++ (Chunks.chunkAt lagoPerPage source.listed pages).map w.refreshed)
      refine ⟨fetched, run_cons_eq_some.mpr ⟨_, step_passFetchesPage.mpr ⟨_, _, _, rfl, rfl⟩, ?_⟩⟩
      have hround : fetchesPage { w with pass := .listing source pages allItems } source pages
          allItems = .listing source (pages + 1)
            (allItems ++ (Chunks.chunkAt lagoPerPage source.listed pages).map w.refreshed) := by
        unfold fetchesPage
        rw [if_neg hbound]
        dsimp only
        rw [hlast]
        · rfl
        · rw [List.length_map, Chunks.length_chunkAt]
      rw [hround]
      exact hrun

/-- The upserts of a pass leave the rows of other entities alone. -/
lemma run_passUpserts (source : LagoListing K) (fetched : List (ListedEntity E))
    (remaining : List (ListedEntity E)) (w : LagoCacheWorld K) :
    ∃ w', run step { w with pass := .upserting source fetched remaining }
        (List.replicate remaining.length (.passUpserts true)) = some w' ∧
      w'.pass = .upserting source fetched [] ∧
      ∀ row ∈ w.cache.entries,
        (∀ item ∈ remaining, K.lagoId item.entity ≠ K.lagoId row.payload) →
          row ∈ w'.cache.entries := by
  induction remaining generalizing w with
  | nil => exact ⟨_, rfl, rfl, fun row hrow _ => hrow⟩
  | cons item remaining ih =>
      obtain ⟨w', hrun, hpass, hkept⟩ := ih (w.upserts item.entity item.version true)
      refine ⟨w', ?_, hpass, fun row hrow hother => ?_⟩
      · refine run_cons_eq_some.mpr ⟨_, step_passUpserts.mpr ⟨_, _, _, _, rfl, rfl⟩, ?_⟩
        rw [← hrun]
        congr 1
        rw [upserts_cases, upserts_cases]
        split <;> rfl
      · apply hkept row
        · rw [upserts_cases]
          split
          · have hne :
                K.lagoId row.payload ≠ K.lagoId (K.row item.entity item.version w.now).payload :=
              Ne.symm (hother item List.mem_cons_self)
            exact KeyedLog.mem_upsert.mpr (Or.inr ⟨hrow, hne⟩)
          · exact hrow
        · exact fun other hmem => hother other (List.mem_cons_of_mem item hmem)

variable (K) in
/-- A pass without anything else in between, over a list of more pages than it asks for. -/
def overflowingPass (listed : List (ListedEntity E)) : List (LagoCacheAction E) :=
  .passStarts listed :: (List.replicate (K.maxPages + 1) .passFetchesPage ++
    (List.replicate (K.maxPages * lagoPerPage) (.passUpserts true) ++
      [.passReadsLocal, .passDeletesOrphans]))

/-- An active row of an entity behind the page bound is marked as deleted. -/
theorem not_deletesAbsent_of_overflow {w : LagoCacheWorld K} (hidle : w.pass = .idle)
    {listed : List (ListedEntity E)} (complete : listed.Perm (K.existing w.lago w.changes.length))
    (item : ListedEntity E) (hitem : item ∈ listed.drop (K.maxPages * lagoPerPage))
    {row : CacheRow E C} (hrow : row ∈ w.cache.entries)
    (hid : K.lagoId row.payload = K.lagoId item.entity) (hactive : row.deletedAt = none) :
    ¬EachStep step DeletesAbsent w (overflowingPass K listed) := by
  intro heach
  set source : LagoListing K := ⟨w.lago, w.changes.length, listed, complete⟩ with hsource
  obtain ⟨hlisted, hnot⟩ := source.mem_ids_and_not_mem_fetchedIds.mpr ⟨item, hitem, rfl⟩
  have hmore : K.maxPages * lagoPerPage < source.listed.length := by
    have hlength := List.length_pos_of_mem hitem
    rw [List.length_drop] at hlength
    show K.maxPages * lagoPerPage < listed.length
    omega
  have hstart := (heach _ (step_passStarts.mpr ⟨hidle, complete, rfl⟩)).2
  obtain ⟨fetched, hfetch⟩ := run_fetchesPages hmore K.maxPages 0 (by omega) [] w
  have hids : fetched.map (fun item => K.lagoId item.entity) = source.fetchedIds :=
    Meets.invariant (I := FetchesPages) (C := fun _ _ => True)
      (fun _ _ _ hI _ hstep => hI.step hstep)
      (s := { w with pass := .listing source 0 [] }) ⟨Nat.zero_le _, by simp⟩
      (meets_of_forall fun _ _ => trivial) hfetch
  have hlength : fetched.length = K.maxPages * lagoPerPage := by
    have hsame := congrArg List.length hids
    rw [List.length_map, LagoListing.fetchedIds, List.length_take, LagoListing.ids,
      List.length_map] at hsame
    omega
  have hupserts := hstart.of_append hfetch
  obtain ⟨w', hrun, hpass, hkept⟩ := run_passUpserts source fetched fetched w
  rw [hlength] at hrun
  have hend := hupserts.of_append hrun
  have hother : ∀ other ∈ fetched, K.lagoId other.entity ≠ K.lagoId row.payload := by
    intro other hmem heq
    apply hnot
    rw [← hids, ← hid, ← heq]
    exact List.mem_map_of_mem hmem
  have hrow' := hkept row hrow hother
  have hread := (hend _ (step_passReadsLocal.mpr ⟨source, fetched, hpass, rfl⟩)).2
  have hdelete := (hread _ (step_passDeletesOrphans.mpr ⟨_, _, _, rfl, rfl⟩)).1
  have hlocal : K.lagoId row.payload ∈ K.activeIds w'.cache := by
    apply List.mem_map_of_mem
    rw [List.mem_filter, hactive]
    exact ⟨hrow', rfl⟩
  have hdeleted := (exists_deleted_iff (w := { w' with
    pass := .deleting source fetched (K.activeIds w'.cache) }) source hrow' hactive).mpr
      ⟨hlocal, by rw [hids, hid]; exact hnot⟩
  exact hdelete row hrow' hactive hdeleted (hid ▸ hlisted)

end LagoCacheWorld

/-! ## 10001 subscriptions -/

/-- A customer's subscription, one for each number. -/
def numberedSubscription (i : ℕ) : LagoSubscriptionPayload where
  lagoId := String.ofList (List.replicate i 's')
  externalId := String.ofList (List.replicate i 's')
  externalCustomerId := "customer"
  lagoCustomerId := "customer-1"
  planCode := "standard"
  status := .active
  startedAt := none
  terminatedAt := none
  createdAt := ""

lemma lagoId_numberedSubscription_injective :
    Function.Injective fun i => (numberedSubscription i).lagoId := by
  intro i j heq
  have hlist : List.replicate i 's' = List.replicate j 's' := String.ofList_injective heq
  simpa using congrArg List.length hlist

/-- Lago has the first `n` subscriptions, and the cache has a row of the last of them. -/
def numberedWorld (n : ℕ) : LagoCacheWorld (subscriptionKind fun _ => none) where
  now := 0
  changes := (List.range n).map fun i => .saved (numberedSubscription i)
  lago :=
    { entries := (List.range n).map fun i => ⟨.saved (numberedSubscription i), i⟩
      nodup := by
        rw [List.map_map]
        exact List.nodup_range.map lagoId_numberedSubscription_injective }
  cache :=
    { entries := [(subscriptionKind fun _ => none).row (numberedSubscription (n - 1)) (n - 1) 0]
      nodup := List.nodup_singleton _ }
  applied := [((numberedSubscription (n - 1)).lagoId, n - 1)]
  pass := .idle

def numberedListing (n : ℕ) : List (ListedEntity LagoSubscriptionPayload) :=
  (List.range n).map fun i => ⟨numberedSubscription i, i, n⟩

lemma perm_numberedListing (n : ℕ) : (numberedListing n).Perm
    ((subscriptionKind fun _ => none).existing (numberedWorld n).lago
      (numberedWorld n).changes.length) := by
  have hlength : (numberedWorld n).changes.length = n := by simp [numberedWorld]
  rw [hlength, LagoEntityKind.existing, numberedWorld, List.filterMap_map]
  have hlisted : LagoRecord.listed n ∘ (fun i => (⟨.saved (numberedSubscription i), i⟩ :
      LagoRecord LagoSubscriptionPayload)) = fun i => some ⟨numberedSubscription i, i, n⟩ := rfl
  rw [hlisted, List.filterMap_eq_map']
  exact List.Perm.refl _

/-- The last of 10001 subscriptions is in Lago and in the cache, and a pass marks its row as
deleted. -/
theorem listed_subscription_soft_deleted : ¬EachStep LagoCacheWorld.step
    LagoCacheWorld.DeletesAbsent (numberedWorld 10001)
      (LagoCacheWorld.overflowingPass (subscriptionKind fun _ => none)
        (numberedListing 10001)) := by
  apply LagoCacheWorld.not_deletesAbsent_of_overflow rfl (perm_numberedListing 10001)
    ⟨numberedSubscription 10000, 10000, 10001⟩ _ List.mem_cons_self rfl rfl
  show _ ∈ (numberedListing 10001).drop 10000
  rw [numberedListing, ← List.map_drop]
  apply List.mem_map_of_mem (f := fun i => (⟨numberedSubscription i, i, 10001⟩ :
    ListedEntity LagoSubscriptionPayload))
  rw [List.range_eq_range', List.drop_range', List.mem_range']
  exact ⟨0, by omega, by omega⟩

end ExpresSync
