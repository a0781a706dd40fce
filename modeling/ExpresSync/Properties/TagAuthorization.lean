import ExpresSync.Model.CustomerMetaTags
import ExpresSync.Model.TagSync
import ExpresSync.Model.World

/-!
# The limit of a tag

Three paths decide whether a tag may charge.  The background pass looks for a live row at the tag
or above it; the inline push goes by the one row it is given; the customer's parent tag follows
the customer's subscription, and is given the limit `1` where the pass wants `-1`.

The lookup of a run only sees active rows, so a row that is switched off and a row that never was
are the same to it, and inheritance fills both gaps.  `staysBlockedWhenOff_iff` says when a card
that was switched off stays blocked, and `agrees_iff` when an inline push and the pass after it
want the same limit.
-/

namespace ExpresSync

/-- A row of `idTag` is active and carries a Lago id. -/
def LiveRow (userMappings : List UserMapping) (idTag : String) : Prop :=
  ∃ m ∈ userMappings, m.steveOcppIdTag = idTag ∧ isDirectMapping m = true

/-- A row of the tag, or of one of its ancestors, is live. -/
def LiveAbove (userMappings : List UserMapping) (allTags : List StEvEOcppTag) (idTag : String) :
    Prop :=
  LiveRow userMappings idTag ∨
    ∃ tag ∈ allTags.find? (fun t => t.idTag = idTag), ∃ ancestor ∈ getAllAncestorTags tag allTags,
      LiveRow userMappings ancestor.idTag

/-- The tag's own row is switched off. -/
def SwitchedOff (userMappings : List UserMapping) (idTag : String) : Prop :=
  ∃ m ∈ userMappings, m.steveOcppIdTag = idTag ∧ m.isActive = false

/-- The tags a run puts to StEvE. -/
def SyncInputs.tagRequests (inputs : SyncInputs) (tagSync : TagSyncInputs) (db : Db) :
    List StEvEOcppTag :=
  (syncTagStatus tagSync db.getActiveMappings inputs.allTags).requests

/-- A run that reads `db` treats the tag as blocked. -/
structure StaysBlocked (inputs : SyncInputs) (tagSync : TagSyncInputs) (db : Db) (idTag : String) :
    Prop where
  unmapped : inputs.mappings db idTag = none
  /-- Its limit is `0` already, or is put to `0`. -/
  blocked : ∀ tag ∈ inputs.allTags, tag.idTag = idTag →
    tag.maxActiveTransactionCount = some 0 ∨
      ∃ request ∈ inputs.tagRequests tagSync db, request.ocppTagPk = tag.ocppTagPk ∧
        request.idTag = idTag ∧ request.maxActiveTransactionCount = some 0
  /-- No other limit is put. -/
  onlyBlocked : ∀ request ∈ inputs.tagRequests tagSync db, request.idTag = idTag →
    request.maxActiveTransactionCount = some 0
  /-- No session of the tag is billed. -/
  unbilled : ∀ tx ∈ transactionMap inputs.recentlyCompleted, tx.ocppIdTag = idTag →
    ∀ pt ∈ inputs.process db, pt.steveTransactionId ≠ tx.id

section Lookup

variable {userMappings : List UserMapping} {allTags : List StEvEOcppTag} {idTag : String}

instance : Decidable (LiveRow userMappings idTag) :=
  inferInstanceAs
    (Decidable (∃ m ∈ userMappings, m.steveOcppIdTag = idTag ∧ isDirectMapping m = true))

lemma directMappingsByTag_eq_none_iff :
    directMappingsByTag userMappings idTag = none ↔ ¬LiveRow userMappings idTag := by
  rw [directMappingsByTag_eq_none]
  unfold LiveRow
  push Not
  simp only [Bool.not_eq_true]

/-- The lookup of the active rows is empty exactly at the tags with no live row at or above
them. -/
theorem lookup_eq_none_iff :
    buildMappingLookupWithInheritance (userMappings.filter (·.isActive)) allTags idTag = none ↔
      ¬LiveAbove userMappings allTags idTag := by
  rw [buildMappingLookup_eq_none, directMappingsByTag_filter_active,
    directMappingsByTag_eq_none_iff]
  unfold LiveAbove
  rw [not_or]
  refine and_congr_right fun _ => ?_
  simp only [directMappingsByTag_eq_none_iff, Option.mem_def, not_exists, not_and]

lemma lookup_isSome_iff :
    (buildMappingLookupWithInheritance (userMappings.filter (·.isActive)) allTags idTag).isSome ↔
      LiveAbove userMappings allTags idTag := by
  rw [← Option.ne_none_iff_isSome, ne_eq, lookup_eq_none_iff, not_not]

end Lookup

section Blocked

variable {inputs : SyncInputs} {tagSync : TagSyncInputs} {db : Db} {idTag : String}

/-- A tag without mapping is treated as blocked. -/
lemma staysBlocked_of_unmapped (tagSync : TagSyncInputs) (h : inputs.mappings db idTag = none) :
    StaysBlocked inputs tagSync db idTag := by
  have hlimit : ∀ tag : StEvEOcppTag, tag.idTag = idTag →
      desiredLimit (inputs.mappings db tag.idTag) = 0 := by
    intro tag htag
    rw [htag, h]
    rfl
  have hrequests : inputs.tagRequests tagSync db =
      (inputs.allTags.filter (tagSync.needsUpdate (inputs.mappings db))).map
        (tagSync.updatedTag (inputs.mappings db)) := syncTagStatus_requests _ _ _
  refine ⟨h, ?_, ?_, ?_⟩
  · intro tag hmem htag
    by_cases hcurrent : TagSyncInputs.currentLimit tag = 0
    · left
      unfold TagSyncInputs.currentLimit at hcurrent
      cases hcount : tag.maxActiveTransactionCount with
      | none => simp [hcount] at hcurrent
      | some limit => simpa [hcount] using hcurrent
    · right
      refine ⟨tagSync.updatedTag (inputs.mappings db) tag, ?_, rfl, htag, ?_⟩
      · rw [hrequests]
        refine List.mem_map_of_mem (List.mem_filter.mpr ⟨hmem, ?_⟩)
        simp [TagSyncInputs.needsUpdate, TagSyncInputs.statusChanged, hlimit tag htag, hcurrent]
      · rw [TagSyncInputs.updatedTag, hlimit tag htag]
  · intro request hrequest htag
    rw [hrequests] at hrequest
    obtain ⟨tag, -, rfl⟩ := List.mem_map.mp hrequest
    rw [TagSyncInputs.updatedTag, hlimit tag htag]
  · intro tx htx htag pt hpt heq
    obtain ⟨tx', htx', m, cache, hid, -, hmapping, -⟩ := SyncInputs.mem_process hpt
    have hsame : tx' = tx :=
      List.inj_on_of_nodup_map (transactionMap_ids_nodup _) htx' htx (hid.symm.trans heq)
    rw [hsame, htag, h] at hmapping
    cases hmapping

/-- A card that was switched off stays blocked in every run exactly when, whenever its own row is
off, no row at or above it is live. -/
theorem staysBlockedWhenOff_iff (inputs : SyncInputs) (tagSync : TagSyncInputs) (db : Db)
    (idTag : String) :
    (SwitchedOff db.userMappings idTag → StaysBlocked inputs tagSync db idTag) ↔
      (SwitchedOff db.userMappings idTag → ¬LiveAbove db.userMappings inputs.allTags idTag) := by
  refine imp_congr_right fun _ => ?_
  constructor
  · intro hblocked
    exact lookup_eq_none_iff.mp hblocked.unmapped
  · intro hdead
    exact staysBlocked_of_unmapped tagSync (lookup_eq_none_iff.mpr hdead)

end Blocked

namespace Scenario

/-- A customer's parent tag, whose mapping is live. -/
def parentMapping : UserMapping :=
  { customerMapping with steveOcppTagPk := 20, steveOcppIdTag := "META-1", tagType := .metaTag }

/-- A card that was reported lost. -/
def lostMapping : UserMapping := { cardMapping with isActive := false }

/-- The parent tag and a card below it, as StEvE lists them right after the card was blocked. -/
def familyTags : List StEvEOcppTag :=
  [⟨"META-1", 20, none, none, none, some (-1), none⟩,
    ⟨"CARD-1", 11, none, some "META-1", none, some 0, none⟩]

/-- A run with nothing to bill, over these tags. -/
def familyInputs : SyncInputs := ⟨[], familyTags, fun _ => .ok [], true⟩

/-- A pass in which every request goes through. -/
def quietTagSync : TagSyncInputs := ⟨fun _ => none, "12:00", none, fun _ => true, fun _ => .ok ()⟩

end Scenario

/-- The next run takes the block off a lost card, because its parent tag is live. -/
theorem not_staysBlocked_of_lost_card :
    SwitchedOff [Scenario.parentMapping, Scenario.lostMapping] "CARD-1" ∧
      ¬StaysBlocked Scenario.familyInputs Scenario.quietTagSync
        (Db.empty [Scenario.parentMapping, Scenario.lostMapping]) "CARD-1" ∧
      ((Scenario.familyInputs.tagRequests Scenario.quietTagSync
          (Db.empty [Scenario.parentMapping, Scenario.lostMapping])).filter
            (·.idTag = "CARD-1")).map (·.maxActiveTransactionCount) = [some (-1)] := by
  refine ⟨⟨Scenario.lostMapping, by decide, by decide, by decide⟩, ?_, by decide +kernel⟩
  intro hblocked
  have hmapped : (Scenario.familyInputs.mappings
      (Db.empty [Scenario.parentMapping, Scenario.lostMapping]) "CARD-1").isSome := by
    decide +kernel
  rw [hblocked.unmapped] at hmapped
  cases hmapped

/-! ## Inline pushes -/

/-- The two ways a limit is pushed outside the pass. -/
inductive InlinePush where
  /-- `syncSingleTagToSteve`. -/
  | single (timestamp : String) (mapping : UserMapping)
  /-- `ensureCustomerMetaTag`. -/
  | ensureMetaTag (externalId : String) (inputs : MetaTagInputs)

namespace InlinePush

/-- The tag that is pushed. -/
def idTag : InlinePush → String
  | single _ mapping => mapping.steveOcppIdTag
  | ensureMetaTag externalId inputs => inputs.idTag externalId

/-- The limit the push gives the tag. -/
def limit : InlinePush → Option ℤ
  | single timestamp mapping => (singleTagUpdate timestamp mapping).maxActiveTransactionCount
  | ensureMetaTag _ inputs => some inputs.maxActiveTransactionCount

/-- The push and the background pass agree, when the rows and the tags are those given: the pass
wants the limit of the push, and never puts another one. -/
structure Agrees (push : InlinePush) (userMappings : List UserMapping)
    (allTags : List StEvEOcppTag) :
    Prop where
  chosen : push.limit = some (desiredLimit
    (buildMappingLookupWithInheritance (userMappings.filter (·.isActive)) allTags push.idTag))
  kept : ∀ tagSync, ∀ request ∈
    (syncTagStatus tagSync (userMappings.filter (·.isActive)) allTags).requests,
      request.idTag = push.idTag → request.maxActiveTransactionCount = push.limit

/-- A single push is for a row that is active exactly when some row at or above its tag is live; a
parent tag is pushed for a customer without active subscription, and has no live row at or above
it. -/
def FollowsRows (push : InlinePush) (userMappings : List UserMapping)
    (allTags : List StEvEOcppTag) :
    Prop :=
  match push with
  | single _ mapping =>
      mapping.isActive = true ↔ LiveAbove userMappings allTags mapping.steveOcppIdTag
  | ensureMetaTag externalId inputs =>
      (∀ subscriptions, inputs.getSubscriptions = .ok subscriptions →
        ∀ s ∈ subscriptions, s.status ≠ .active) ∧
        ¬LiveAbove userMappings allTags (inputs.idTag externalId)

end InlinePush

lemma desiredLimit_lookup (userMappings : List UserMapping) (allTags : List StEvEOcppTag)
    (idTag : String) :
    (LiveAbove userMappings allTags idTag ∧ desiredLimit (buildMappingLookupWithInheritance
        (userMappings.filter (·.isActive)) allTags idTag) = -1) ∨
      (¬LiveAbove userMappings allTags idTag ∧ desiredLimit (buildMappingLookupWithInheritance
        (userMappings.filter (·.isActive)) allTags idTag) = 0) := by
  by_cases hlive : LiveAbove userMappings allTags idTag
  · exact Or.inl ⟨hlive, if_pos (lookup_isSome_iff.mpr hlive)⟩
  · exact Or.inr ⟨hlive, if_neg fun hsome => hlive (lookup_isSome_iff.mp hsome)⟩

/-- An inline push and the background pass agree exactly when the push follows the rows; for the
parent tag of a customer with an active subscription they never do. -/
theorem agrees_iff (push : InlinePush) (userMappings : List UserMapping)
    (allTags : List StEvEOcppTag) :
    push.Agrees userMappings allTags ↔ push.FollowsRows userMappings allTags := by
  have hchosen : push.Agrees userMappings allTags ↔ push.limit = some (desiredLimit
      (buildMappingLookupWithInheritance (userMappings.filter (·.isActive)) allTags
        push.idTag)) := by
    refine ⟨fun h => h.chosen, fun h => ⟨h, ?_⟩⟩
    intro tagSync request hrequest htag
    rw [syncTagStatus_requests] at hrequest
    obtain ⟨tag, -, rfl⟩ := List.mem_map.mp hrequest
    have hid : tag.idTag = push.idTag := htag
    rw [TagSyncInputs.updatedTag, h, hid]
  rw [hchosen]
  cases push with
  | single timestamp mapping =>
      rcases desiredLimit_lookup userMappings allTags mapping.steveOcppIdTag with
        ⟨hlive, hlimit⟩ | ⟨hdead, hlimit⟩
      · cases hactive : mapping.isActive <;>
          simp [InlinePush.FollowsRows, InlinePush.limit, InlinePush.idTag, singleTagUpdate,
            hactive, hlimit, hlive]
      · cases hactive : mapping.isActive <;>
          simp [InlinePush.FollowsRows, InlinePush.limit, InlinePush.idTag, singleTagUpdate,
            hactive, hlimit, hdead]
  | ensureMetaTag externalId inputs =>
      show _ ↔ _ ∧ ¬LiveAbove userMappings allTags (inputs.idTag externalId)
      rw [← MetaTagInputs.isActive_eq_false]
      rcases desiredLimit_lookup userMappings allTags (inputs.idTag externalId) with
        ⟨hlive, hlimit⟩ | ⟨hdead, hlimit⟩
      · cases hactive : inputs.isActive <;>
          simp [InlinePush.limit, InlinePush.idTag, MetaTagInputs.maxActiveTransactionCount,
            hactive, hlimit, hlive]
      · cases hactive : inputs.isActive <;>
          simp [InlinePush.limit, InlinePush.idTag, MetaTagInputs.maxActiveTransactionCount,
            hactive, hlimit, hdead]

namespace Scenario

/-- A card that is switched on before it is linked to a customer. -/
def unlinkedMapping : UserMapping := { cardMapping with lagoSubscriptionExternalId := none }

/-- A customer with an active subscription, whose parent tag StEvE has. -/
def metaTagInputs : MetaTagInputs where
  owner := some ⟨"user-1", "1"⟩
  getSubscriptions := .ok [⟨"sub-1", "ExpressChargeS", .active⟩]
  getOcppTags := fun idTag => .ok (familyTags.filter (·.idTag = idTag))
  getChildren := fun parentIdTag => .ok (familyTags.filter (·.parentIdTag = some parentIdTag))
  createOcppTag := .error "exists"
  newMappingId := 9

end Scenario

/-- An unlinked card is let through and then blocked; a lost card below a live parent is blocked
and then let through; the parent tag of an active customer, with the rows its own push leaves, is
put to `1` and then to `-1`. -/
theorem not_agrees :
    ¬(InlinePush.single "12:00" Scenario.unlinkedMapping).Agrees [Scenario.unlinkedMapping] [] ∧
      ¬(InlinePush.single "12:00" Scenario.lostMapping).Agrees
        [Scenario.parentMapping, Scenario.lostMapping] Scenario.familyTags ∧
      ¬(InlinePush.ensureMetaTag "customer-1" Scenario.metaTagInputs).Agrees
        (ensureCustomerMetaTag Scenario.metaTagInputs "customer-1" none
          [Scenario.parentMapping]).userMappings Scenario.familyTags :=
  ⟨fun h => absurd h.chosen (by decide +kernel), fun h => absurd h.chosen (by decide +kernel),
    fun h => absurd h.chosen (by decide +kernel)⟩

end ExpresSync
