import ExpresSync.Model.TagSync

/-!
# The second pass has nothing to do

The note a pass wants on a tag differs from pass to pass in the line with its time only, and that
line is cut off before two notes are compared.  So a pass over tags that StEvE stores as they were
written changes nothing, as long as Lago answers as before (`second_pass_settled`).  The names alone
are not enough for that, since a note links to the dashboard by the ids of Lago
(`moved_customer_updates_again`).
-/

namespace ExpresSync

/-! ## Notes -/

/-- What `toISOString` writes: one line, and not an empty one. -/
def IsTimestamp (timestamp : String) : Prop :=
  timestamp ≠ "" ∧ ∀ c ∈ timestamp.toList, isLineTerminator c = false

instance (timestamp : String) : Decidable (IsTimestamp timestamp) :=
  inferInstanceAs (Decidable (_ ∧ _))

lemma isLastSynced_iff {s : List Char} : isLastSynced s = true ↔
    ∃ rest, s = "Last synced on ".toList ++ rest ∧ rest ≠ [] ∧
      ∀ c ∈ rest, isLineTerminator c = false := by
  unfold isLastSynced
  simp only [Bool.and_eq_true, List.isPrefixOf_iff_prefix, Bool.not_eq_true',
    List.isEmpty_eq_false_iff, List.any_eq_false, Bool.not_eq_true]
  constructor
  · rintro ⟨⟨⟨rest, rfl⟩, hne⟩, hline⟩
    rw [List.drop_left] at hne hline
    exact ⟨rest, rfl, hne, hline⟩
  · rintro ⟨rest, rfl, hne, hline⟩
    rw [List.drop_left]
    exact ⟨⟨List.prefix_append _ _, hne⟩, hline⟩

/-- The match does not go beyond a line. -/
lemma isLastSynced_of_newline {s : List Char} (h : '\n' ∈ s) : isLastSynced s = false := by
  refine Bool.eq_false_iff.mpr fun hmatch => ?_
  obtain ⟨rest, rfl, -, hline⟩ := isLastSynced_iff.mp hmatch
  rcases List.mem_append.mp h with hlabel | hrest
  · exact absurd hlabel (by decide +kernel)
  · exact absurd (hline '\n' hrest) (by decide)

/-- What comes before the last line stays. -/
lemma cutLastSynced_append (before after : List Char) :
    cutLastSynced (before ++ '\n' :: after) = before ++ '\n' :: cutLastSynced after := by
  induction before with
  | nil => rw [List.nil_append, cutLastSynced, isLastSynced_of_newline List.mem_cons_self]; rfl
  | cons c before ih =>
      rw [List.cons_append, cutLastSynced, isLastSynced_of_newline (by simp), ih]
      rfl

lemma cutLastSynced_timestamp {timestamp : String} (h : IsTimestamp timestamp) :
    cutLastSynced ("Last synced on " ++ timestamp).toList = [] := by
  have hmatch : isLastSynced ("Last synced on " ++ timestamp).toList = true := by
    refine isLastSynced_iff.mpr ⟨timestamp.toList, String.toList_append, ?_, h.2⟩
    exact fun hnil => h.1 (String.toList_inj.mp hnil)
  revert hmatch
  cases ("Last synced on " ++ timestamp).toList with
  | nil => exact fun _ => rfl
  | cons c rest => exact fun hmatch => by rw [cutLastSynced, if_pos hmatch]

/-- A text with the time below. -/
lemma stripTimestamp_line {text timestamp : String} (h : IsTimestamp timestamp) :
    stripTimestamp (text ++ "\n" ++ ("Last synced on " ++ timestamp)) =
      trimChars (text.toList ++ ['\n']) := by
  have hlist : (text ++ "\n" ++ ("Last synced on " ++ timestamp)).toList =
      text.toList ++ '\n' :: ("Last synced on " ++ timestamp).toList := by
    rw [String.toList_append, String.toList_append, List.append_assoc]
    rfl
  rw [stripTimestamp, hlist, cutLastSynced_append, cutLastSynced_timestamp h]

/-- A note is a text that says nothing of the time, and a line that does. -/
lemma generateLinkedNote_eq (mapping : UserMapping) (entityInfo : Option EntityInfo) :
    ∃ text, ∀ timestamp, generateLinkedNote mapping entityInfo timestamp =
      text ++ "\n" ++ ("Last synced on " ++ timestamp) := by
  have hlast : ∀ (lines : List String) (last : String),
      String.intercalate "\n" (lines ++ ["---", last]) =
        String.intercalate "\n" (lines ++ ["---"]) ++ "\n" ++ last := by
    intro lines last
    rw [← List.singleton_append (l := [last]), ← List.append_assoc,
      String.intercalate_append_of_ne_nil (by simp) (by simp), String.intercalate_singleton]
  unfold generateLinkedNote
  dsimp only
  exact ⟨_, fun timestamp => hlast _ _⟩

lemma generateUnlinkedNote_eq (timestamp : String) : generateUnlinkedNote timestamp =
    "No active subscription\n---" ++ "\n" ++ ("Last synced on " ++ timestamp) := by
  unfold generateUnlinkedNote
  rw [← String.append_assoc]
  rfl

namespace TagSyncInputs

variable {first second : TagSyncInputs} {mappingLookup : String → Option UserMapping}
  {tag : StEvEOcppTag}

/-- Two passes with the same names want the same note, but for the time. -/
lemma stripTimestamp_desiredNote (hinfo : second.entityInfo = first.entityInfo)
    (hfirst : IsTimestamp first.syncTimestamp) (hsecond : IsTimestamp second.syncTimestamp) :
    stripTimestamp (second.desiredNote mappingLookup tag) =
      stripTimestamp (first.desiredNote mappingLookup tag) := by
  unfold desiredNote
  rw [hinfo]
  split
  · next mapping _ =>
    obtain ⟨text, htext⟩ := generateLinkedNote_eq mapping (first.entityInfo
      (mapping.lagoCustomerExternalId.getD "null" ++ ":" ++
        mapping.lagoSubscriptionExternalId.getD "null"))
    dsimp only
    rw [htext, htext, stripTimestamp_line hfirst, stripTimestamp_line hsecond]
  · rw [generateUnlinkedNote_eq, generateUnlinkedNote_eq, stripTimestamp_line hfirst,
      stripTimestamp_line hsecond]

/-- A pass leaves a tag as the next one wants it. -/
lemma needsUpdate_storedTag (hinfo : second.entityInfo = first.entityInfo)
    (hfirst : IsTimestamp first.syncTimestamp) (hsecond : IsTimestamp second.syncTimestamp)
    (hstores : first.needsUpdate mappingLookup tag = true →
      first.updateOcppTag (first.updatedTag mappingLookup tag) = .ok ()) :
    second.needsUpdate mappingLookup (first.storedTag mappingLookup tag) = false := by
  have hnote : stripTimestamp (second.desiredNote mappingLookup tag) =
      stripTimestamp (first.desiredNote mappingLookup tag) :=
    stripTimestamp_desiredNote hinfo hfirst hsecond
  by_cases hneeds : first.needsUpdate mappingLookup tag = true
  · have hstored : first.storedTag mappingLookup tag = first.updatedTag mappingLookup tag := by
      rw [storedTag, if_pos hneeds, hstores hneeds]
    rw [hstored, needsUpdate, Bool.or_eq_false_iff]
    constructor
    · simp [statusChanged, currentLimit, updatedTag]
    · have hsame : second.desiredNote mappingLookup (first.updatedTag mappingLookup tag) =
          second.desiredNote mappingLookup tag := rfl
      rw [noteChanged, hsame, hnote]
      simp [updatedTag]
  · have hstored : first.storedTag mappingLookup tag = tag := by rw [storedTag, if_neg hneeds]
    rw [hstored]
    rw [Bool.not_eq_true, needsUpdate, Bool.or_eq_false_iff] at hneeds
    rw [needsUpdate, Bool.or_eq_false_iff]
    refine ⟨hneeds.1, ?_⟩
    rw [noteChanged, hnote]
    exact hneeds.2

end TagSyncInputs

/-! ## Mappings -/

section

variable {f : StEvEOcppTag → StEvEOcppTag} {allTags : List StEvEOcppTag}

/-- Tags that keep their ids keep their place among the others. -/
lemma find?_map_idTag (hid : ∀ t, (f t).idTag = t.idTag) (idTag : String) :
    (allTags.map f).find? (fun t => t.idTag = idTag) =
      (allTags.find? fun t => t.idTag = idTag).map f := by
  rw [List.find?_map]
  congr 2
  funext t
  simp [hid]

/-- The walk over the ancestors goes by the id tags and the parents. -/
lemma ancestorWalk_map (hid : ∀ t, (f t).idTag = t.idTag)
    (hparent : ∀ t, (f t).parentIdTag = t.parentIdTag) (fuel : ℕ) (visited : List String)
    (current : StEvEOcppTag) :
    ancestorWalk (allTags.map f) fuel visited (f current) =
      (ancestorWalk allTags fuel visited current).map f := by
  induction fuel generalizing visited current with
  | zero => rfl
  | succ fuel ih =>
      unfold ancestorWalk
      rw [hparent]
      cases current.parentIdTag with
      | none => rfl
      | some parentIdTag =>
          dsimp only
          split
          · rfl
          · rw [find?_map_idTag hid]
            cases allTags.find? (fun t => t.idTag = parentIdTag) with
            | none => rfl
            | some parent => simp only [Option.map_some, List.map_cons, ih]

/-- So does the lookup of the mappings. -/
lemma buildMappingLookup_map (hid : ∀ t, (f t).idTag = t.idTag)
    (hparent : ∀ t, (f t).parentIdTag = t.parentIdTag) (mappings : List UserMapping) :
    buildMappingLookupWithInheritance mappings (allTags.map f) =
      buildMappingLookupWithInheritance mappings allTags := by
  funext idTag
  rw [buildMappingLookup_eq_resolve, buildMappingLookup_eq_resolve]
  unfold resolveMappingWithInheritance
  split
  · rfl
  · rw [find?_map_idTag hid]
    cases allTags.find? (fun t => t.idTag = idTag) with
    | none => rfl
    | some tag =>
        simp only [Option.map_some, hparent, getAllAncestorTags, hid, List.length_map,
          ancestorWalk_map hid hparent, List.findSome?_map, Function.comp_def]

end

/-! ## Passes -/

namespace TagSyncInputs

variable {inputs : TagSyncInputs} {mappingLookup : String → Option UserMapping}

lemma storedTag_keys (tag : StEvEOcppTag) :
    (inputs.storedTag mappingLookup tag).idTag = tag.idTag ∧
      (inputs.storedTag mappingLookup tag).parentIdTag = tag.parentIdTag := by
  unfold storedTag
  split
  · split <;> exact ⟨rfl, rfl⟩
  · exact ⟨rfl, rfl⟩

/-- A turn of the loop for a tag that is as it should be. -/
lemma changeLog_syncTag {tag : StEvEOcppTag} (h : inputs.needsUpdate mappingLookup tag = false)
    (pass : TagSyncPass) : (inputs.syncTag mappingLookup tag pass).changeLog = pass.changeLog := by
  rw [needsUpdate, Bool.or_eq_false_iff] at h
  unfold syncTag
  rw [if_pos (by simp [h])]

end TagSyncInputs

/-- Tags that are as they should be leave a pass nothing to write. -/
lemma syncTagStatus_settled {inputs : TagSyncInputs} {mappings : List UserMapping}
    {allTags : List StEvEOcppTag}
    (h : ∀ tag ∈ allTags,
      inputs.needsUpdate (buildMappingLookupWithInheritance mappings allTags) tag = false) :
    (syncTagStatus inputs mappings allTags).requests = [] ∧
      (syncTagStatus inputs mappings allTags).changeLog = [] := by
  constructor
  · rw [syncTagStatus_requests, List.map_eq_nil_iff, List.filter_eq_nil_iff]
    exact fun tag htag => by rw [h tag htag]; decide
  · unfold syncTagStatus
    dsimp only
    refine List.foldlRecOn (motive := fun pass : TagSyncPass => pass.changeLog = []) allTags _ rfl
      ?_
    intro pass hpass tag htag
    rw [TagSyncInputs.changeLog_syncTag (h tag htag), hpass]

/-- For all tags and mappings and any two times: when StEvE accepts what the first pass writes and
Lago gives the same answers to both passes, the second pass puts no tag and logs no change. -/
theorem second_pass_settled (lago : LagoEntities) (mappings : List UserMapping)
    (allTags : List StEvEOcppTag) (first second : TagSyncInputs)
    (hfirst : IsTimestamp first.syncTimestamp) (hsecond : IsTimestamp second.syncTimestamp)
    (hstores : ∀ tag ∈ (syncTagStatus (first.asking lago mappings) mappings allTags).requests,
      first.updateOcppTag tag = .ok ()) :
    (syncTagStatus (second.asking lago mappings) mappings
        (storedTags (first.asking lago mappings) mappings allTags)).requests = [] ∧
      (syncTagStatus (second.asking lago mappings) mappings
        (storedTags (first.asking lago mappings) mappings allTags)).changeLog = [] := by
  refine syncTagStatus_settled fun stored hstored => ?_
  unfold storedTags at hstored ⊢
  rw [buildMappingLookup_map (fun t => (TagSyncInputs.storedTag_keys t).1)
    fun t => (TagSyncInputs.storedTag_keys t).2]
  obtain ⟨tag, htag, rfl⟩ := List.mem_map.mp hstored
  have hinfo : (second.asking lago mappings).entityInfo =
      (first.asking lago mappings).entityInfo := rfl
  refine TagSyncInputs.needsUpdate_storedTag hinfo hfirst hsecond fun hneeds => hstores _ ?_
  rw [syncTagStatus_requests]
  exact List.mem_map_of_mem (List.mem_filter.mpr ⟨htag, hneeds⟩)

/-! ## A household -/

namespace Scenario

/-- The mapping of a household's card. -/
def homeCardMapping : UserMapping :=
  ⟨1, 20, "CARD", some "cust-1", some "sub-1", none, .evCard, true, none, none, none⟩

/-- The card, still blocked. -/
def homeCardTags : List StEvEOcppTag := [⟨"CARD", 20, none, none, none, some 0, none⟩]

/-- What Lago says of the household, which has the given id. -/
def householdLago (lagoId : String) : LagoEntities where
  lagoDashboard := "https://lago"
  getCustomers := some [⟨"cust-1", some "Home", lagoId⟩]
  getSubscriptions _ := some []

def hourlyPass (syncTimestamp : String) : TagSyncInputs where
  entityInfo _ := none
  syncTimestamp := syncTimestamp
  syncRunId := none
  logAccepts _ := true
  updateOcppTag _ := .ok ()

end Scenario

open Scenario

theorem second_pass_settled_household :
    (syncTagStatus ((hourlyPass "2026-01-01T11:00:00.000Z").asking (householdLago "c-1")
        [homeCardMapping]) [homeCardMapping]
        (storedTags ((hourlyPass "2026-01-01T10:00:00.000Z").asking (householdLago "c-1")
          [homeCardMapping]) [homeCardMapping] homeCardTags)).requests = [] ∧
      (syncTagStatus ((hourlyPass "2026-01-01T11:00:00.000Z").asking (householdLago "c-1")
        [homeCardMapping]) [homeCardMapping]
        (storedTags ((hourlyPass "2026-01-01T10:00:00.000Z").asking (householdLago "c-1")
          [homeCardMapping]) [homeCardMapping] homeCardTags)).changeLog = [] :=
  second_pass_settled (householdLago "c-1") [homeCardMapping] homeCardTags
    (hourlyPass "2026-01-01T10:00:00.000Z") (hourlyPass "2026-01-01T11:00:00.000Z")
    (by simp [IsTimestamp, isLineTerminator, hourlyPass])
    (by simp [IsTimestamp, isLineTerminator, hourlyPass]) fun _ _ => rfl

/-- Lago gives the same names, though not the same ids. -/
def LagoEntities.SameNames (lago lago' : LagoEntities) : Prop :=
  lago.lagoDashboard = lago'.lagoDashboard ∧
    lago.getCustomers.map (List.map fun e => (e.externalId, e.name)) =
      lago'.getCustomers.map (List.map fun e => (e.externalId, e.name)) ∧
    ∀ customerId,
      (lago.getSubscriptions customerId).map (List.map fun e => (e.externalId, e.name)) =
      (lago'.getSubscriptions customerId).map (List.map fun e => (e.externalId, e.name))

/-- The customer is created anew under its name: the second pass writes the new link. -/
theorem moved_customer_updates_again :
    (householdLago "c-1").SameNames (householdLago "c-2") ∧
      ¬((syncTagStatus ((hourlyPass "2026-01-01T11:00:00.000Z").asking (householdLago "c-2")
          [homeCardMapping]) [homeCardMapping]
          (storedTags ((hourlyPass "2026-01-01T10:00:00.000Z").asking (householdLago "c-1")
            [homeCardMapping]) [homeCardMapping] homeCardTags)).requests = [] ∧
        (syncTagStatus ((hourlyPass "2026-01-01T11:00:00.000Z").asking (householdLago "c-2")
          [homeCardMapping]) [homeCardMapping]
          (storedTags ((hourlyPass "2026-01-01T10:00:00.000Z").asking (householdLago "c-1")
            [homeCardMapping]) [homeCardMapping] homeCardTags)).changeLog = []) :=
  ⟨⟨rfl, rfl, fun _ => rfl⟩, by decide +kernel⟩

end ExpresSync
