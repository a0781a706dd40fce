import ExpresSync.Model.LinkPosts
import ExpresSync.Properties.LinkPushes
import ExpresSync.Properties.TagTrees

/-!
# The mappings that `POST` creates

A request that links a tag is to create a mapping for the tag and for those tags below it that have
none.  It creates one for each of them or none at all: a tag below that has a mapping already fails
the whole transaction.  The other way to break the promise is after the transaction, where an
`UPDATE` that fails answers 500 for mappings that are there to stay (`coversUnmapped_iff`).
-/

namespace ExpresSync

namespace TagWorld

variable {w found linked : TagWorld} {env : LinkPostEnv} {db : LinkDatabase} {request : LinkPost}
  {tagType : TagType} {userId : String} {effectiveTagPk : ℕ} {created : LinkCreated}

/-! ## What is promised -/

/-- The tag that the request would link if no tag below it had a mapping: it is found, the account
is resolved, its own mapping can be inserted and the connection lasts. -/
def linkable? (w : TagWorld) (env : LinkPostEnv) (db : LinkDatabase) (request : LinkPost) :
    Option ℕ :=
  match w.findTag env request,
      env.resolveOrCreateCustomerAccount (some request.lagoCustomerId) with
  | some (tagType, _, effectiveTagPk), .ok userId =>
      if ¬w.mappings.HasPk effectiveTagPk ∧
          env.Admits w.mappings
            (request.parentRow tagType userId effectiveTagPk w.tags.table.rows) ∧
          db.commits = true then
        some effectiveTagPk
      else none
  | _, _ => none

/-- The tag is below the linked one, and has no mapping. -/
def IsUnmappedBelow (w : TagWorld) (idTag : String) (ocppTagPk : ℕ) : Prop :=
  (∃ tag, w.tags.hierarchy.Descends idTag tag ∧ tag.ocppTagPk = ocppTagPk) ∧
    ¬w.mappings.HasPk ocppTagPk

/-- A mapping of the response is there afterwards. -/
def Persists (w : TagWorld) (m : UserMapping) : Prop :=
  ∃ m' ∈ w.mappings.table.rows, m'.id = m.id ∧ m'.steveOcppTagPk = m.steveOcppTagPk

/-- The outcome of a request that links the tag `linkable?`, if that can be linked. -/
structure Covers (w : TagWorld) (idTag : String) (linkable? : Option ℕ) (outcome : LinkOutcome) :
    Prop where
  /-- A 201 has created the mappings of the tag and of those below it that had none. -/
  exact : ∀ created, outcome.response = .ok created →
    (∀ ocppTagPk, ocppTagPk ∈ created.all.map UserMapping.steveOcppTagPk ↔
      ocppTagPk ∈ linkable? ∨ w.IsUnmappedBelow idTag ocppTagPk) ∧
    (created.all.map UserMapping.steveOcppTagPk).Nodup ∧
    ∀ m ∈ created.all, outcome.world.Persists m
  /-- An error has created none. -/
  untouched : ∀ refusal, outcome.response = .error refusal →
    ∀ ocppTagPk, outcome.world.mappings.HasPk ocppTagPk → w.mappings.HasPk ocppTagPk
  /-- Whatever mappings there are below, the tag is linked if it can be. -/
  undisturbed : linkable?.isSome = true → outcome.committed = true

/-- The request links its tag and the unmapped tags below. -/
def CoversUnmapped (w : TagWorld) (env : LinkPostEnv) (db : LinkDatabase) (request : LinkPost) :
    Prop :=
  w.Covers request.ocppTagId (w.linkable? env db request) (w.postLinkRequest env db request)

/-- No tag below the linked one has a mapping, nor is one of them the tag that is linked. -/
def NoneMappedBelow (w : TagWorld) (idTag : String) (effectiveTagPk : ℕ) : Prop :=
  ∀ tag, w.tags.hierarchy.Descends idTag tag →
    ¬w.mappings.HasPk tag.ocppTagPk ∧ tag.ocppTagPk ≠ effectiveTagPk

/-- If the tag can be linked, no tag below has a mapping, nor is one of them the tag that is linked,
and the parent of the mapping can be written. -/
def LinksUnmapped (w : TagWorld) (env : LinkPostEnv) (db : LinkDatabase) (request : LinkPost) :
    Prop :=
  ∀ effectiveTagPk ∈ w.linkable? env db request,
    w.NoneMappedBelow request.ocppTagId effectiveTagPk ∧
    (startsWith request.ocppTagId "OCPP-" = true ∨ db.updatesParent = true)

/-! ## The inserts -/

lemma execAll_insertMapping {env : PushEnv} {rows : List UserMapping} :
    SqlTransaction.execAll (rows.map env.insertMapping) w = env.insertRows rows w := by
  induction rows generalizing w with
  | nil => rfl
  | cons row rows ih =>
      rw [List.map_cons, SqlTransaction.execAll, PushEnv.insertRows, PushEnv.insertMapping]
      split
      · rfl
      · rw [Option.bind_some, ih]

/-- A row with the account and the customer of another is admitted along with it. -/
lemma admits_insertMapping {env : PushEnv} {row row₀ : UserMapping}
    (hfree : ¬w.mappings.HasPk row.steveOcppTagPk) (hlt : row.steveOcppTagPk < w.tags.table.next)
    (huser : row.userId = row₀.userId) (h : env.Admits w.mappings row₀) :
    env.Admits (w.insertMapping row).mappings row₀ := by
  intro userId huserId
  obtain ⟨hcustomer, hothers⟩ := h userId huserId
  refine ⟨hcustomer, fun lagoId hlago other hother hsame otherUserId hotherUser => ?_⟩
  rcases (mem_insertMapping hfree hlt).mp hother with hold | rfl
  · exact hothers lagoId hlago other hold hsame otherUserId hotherUser
  · exact Option.some.inj ((hotherUser.symm.trans huser).trans huserId)

/-- The inserts of rows of one account and one customer succeed when their tags are different and
have no mappings. -/
lemma isSome_insertRows {env : PushEnv} {row₀ : UserMapping} {rows : List UserMapping}
    (hsame : ∀ row ∈ rows, row.userId = row₀.userId ∧
      row.lagoCustomerExternalId = row₀.lagoCustomerExternalId)
    (hlt : ∀ row ∈ rows, row.steveOcppTagPk < w.tags.table.next)
    (hadmits : env.Admits w.mappings row₀) :
    (env.insertRows rows w).isSome = true ↔
      (rows.map UserMapping.steveOcppTagPk).Nodup ∧
        ∀ row ∈ rows, ¬w.mappings.HasPk row.steveOcppTagPk := by
  constructor
  · intro h
    obtain ⟨⟨linked, inserted⟩, hinsert⟩ := Option.isSome_iff_exists.mp h
    obtain ⟨-, -, -, hnodup, hfree⟩ := inserted_insertRows hinsert hlt
    exact ⟨hnodup, hfree⟩
  · rintro ⟨hnodup, hfree⟩
    induction rows generalizing w with
    | nil => rfl
    | cons row rows ih =>
        obtain ⟨hsameRow, hsameRest⟩ := List.forall_mem_cons.mp hsame
        obtain ⟨hltRow, hltRest⟩ := List.forall_mem_cons.mp hlt
        obtain ⟨hfreeRow, hfreeRest⟩ := List.forall_mem_cons.mp hfree
        obtain ⟨hnotMem, hnodupRest⟩ := List.nodup_cons.mp hnodup
        have hadmitsRow : env.Admits w.mappings row := by
          unfold PushEnv.Admits at hadmits ⊢
          rw [hsameRow.1, hsameRow.2]
          exact hadmits
        rw [PushEnv.insertRows, if_neg (not_or.mpr ⟨hfreeRow, not_not.mpr hadmitsRow⟩),
          Option.isSome_map]
        refine ih hsameRest (fun row' hrow' => ?_)
          (admits_insertMapping hfreeRow hltRow hsameRow.1 hadmits) hnodupRest
          fun row' hrow' hpk => ?_
        · rw [tags_insertMapping]
          exact hltRest row' hrow'
        · obtain ⟨m, hm, hpk⟩ := hpk
          rcases (mem_insertMapping hfreeRow hltRow).mp hm with hold | rfl
          · exact hfreeRest row' hrow' ⟨m, hold, hpk⟩
          · exact hnotMem (List.mem_map.mpr ⟨row', hrow', hpk.symm⟩)

/-- The tags below have different numbers. -/
lemma nodup_childPks : ((getAllChildTags request.ocppTagId w.tags.table.rows).map
    StEvEOcppTag.ocppTagPk).Nodup := by
  refine List.Nodup.map_on ?_ nodup_getAllChildTags
  intro tag htag tag' htag' heq
  exact SerialTable.eq_of_key (mem_of_mem_getAllChildTags htag)
    (mem_of_mem_getAllChildTags htag') heq

lemma mem_childTags {tag : StEvEOcppTag} :
    tag ∈ getAllChildTags request.ocppTagId w.tags.table.rows ↔
      w.tags.hierarchy.Descends request.ocppTagId tag :=
  @mem_getAllChildTags w.tags.hierarchy _ _

lemma map_pk_rows : (request.rows tagType userId effectiveTagPk w.tags.table.rows).map
      UserMapping.steveOcppTagPk =
    effectiveTagPk ::
      (getAllChildTags request.ocppTagId w.tags.table.rows).map StEvEOcppTag.ocppTagPk := by
  rw [LinkPost.rows, List.map_cons, List.map_map]
  rfl

lemma lt_next_of_mem_rows (hfound : Found w request effectiveTagPk found) :
    ∀ row ∈ request.rows tagType userId effectiveTagPk w.tags.table.rows,
      row.steveOcppTagPk < found.tags.table.next := by
  intro row hrow
  rcases List.mem_cons.mp hrow with rfl | hchild
  · exact hfound.lt
  · obtain ⟨child, hmem, rfl⟩ := List.mem_map.mp hchild
    exact (w.tags.table.key_lt child (mem_of_mem_getAllChildTags hmem)).trans_le
      hfound.follows.next_le

/-- When the mapping of the tag can be inserted, all inserts succeed exactly when no tag below has a
mapping. -/
lemma isSome_insertRows_iff (hfound : Found w request effectiveTagPk found)
    (hfree : ¬w.mappings.HasPk effectiveTagPk)
    (hadmits : env.Admits w.mappings
      (request.parentRow tagType userId effectiveTagPk w.tags.table.rows)) :
    (env.insertRows (request.rows tagType userId effectiveTagPk w.tags.table.rows)
        found).isSome = true ↔
      ∀ tag, w.tags.hierarchy.Descends request.ocppTagId tag →
        ¬w.mappings.HasPk tag.ocppTagPk ∧ tag.ocppTagPk ≠ effectiveTagPk := by
  have hsame : ∀ row ∈ request.rows tagType userId effectiveTagPk w.tags.table.rows,
      row.userId =
          (request.parentRow tagType userId effectiveTagPk w.tags.table.rows).userId ∧
        row.lagoCustomerExternalId =
          (request.parentRow tagType userId effectiveTagPk w.tags.table.rows).lagoCustomerExternalId
      := by
    intro row hrow
    rcases List.mem_cons.mp hrow with rfl | hchild
    · exact ⟨rfl, rfl⟩
    · obtain ⟨child, -, rfl⟩ := List.mem_map.mp hchild
      exact ⟨rfl, rfl⟩
  rw [isSome_insertRows hsame (lt_next_of_mem_rows hfound) (hfound.mappings ▸ hadmits), map_pk_rows,
    hfound.mappings]
  constructor
  · rintro ⟨hnodup, hall⟩ tag htag
    have hmem := mem_childTags.mpr htag
    refine ⟨hall _ (List.mem_cons_of_mem _ (List.mem_map_of_mem hmem)), fun hself => ?_⟩
    exact (List.nodup_cons.mp hnodup).1 (List.mem_map.mpr ⟨tag, hmem, hself⟩)
  · intro hall
    refine ⟨List.nodup_cons.mpr ⟨fun hself => ?_, nodup_childPks⟩, fun row hrow => ?_⟩
    · obtain ⟨tag, htag, hself⟩ := List.mem_map.mp hself
      exact (hall tag (mem_childTags.mp htag)).2 hself
    · rcases List.mem_cons.mp hrow with rfl | hchild
      · exact hfree
      · obtain ⟨tag, htag, rfl⟩ := List.mem_map.mp hchild
        exact (hall tag (mem_childTags.mp htag)).1

/-! ## The transaction -/

/-- The callback throws when the mapping of the tag cannot be inserted. -/
lemma linkBody_of_refused (hmappings : found.mappings = w.mappings)
    (haccount : env.resolveOrCreateCustomerAccount (some request.lagoCustomerId) = .ok userId)
    (hrefused : ¬(¬w.mappings.HasPk effectiveTagPk ∧ env.Admits w.mappings
      (request.parentRow tagType userId effectiveTagPk w.tags.table.rows))) :
    w.linkBody env request tagType found effectiveTagPk = .error .failed := by
  have hinsert : env.insertMapping
      (request.parentRow tagType userId effectiveTagPk w.tags.table.rows) found = none := by
    rw [PushEnv.insertMapping, hmappings]
    refine if_pos ?_
    by_cases hfree : w.mappings.HasPk effectiveTagPk
    · exact Or.inl hfree
    · exact Or.inr fun hadmits => hrefused ⟨hfree, hadmits⟩
  simp only [linkBody, haccount, SqlTransaction.exec_running_of_none hinsert]

/-- Otherwise it leaves the transaction open with all rows inserted, or aborted. -/
lemma linkBody_of_admitted (hmappings : found.mappings = w.mappings)
    (haccount : env.resolveOrCreateCustomerAccount (some request.lagoCustomerId) = .ok userId)
    (hfree : ¬w.mappings.HasPk effectiveTagPk)
    (hadmits : env.Admits w.mappings
      (request.parentRow tagType userId effectiveTagPk w.tags.table.rows)) :
    (∃ linked created, w.linkBody env request tagType found effectiveTagPk =
        .ok (.running linked, created) ∧
      env.insertRows (request.rows tagType userId effectiveTagPk w.tags.table.rows) found =
        some (linked, created.all)) ∨
    (∃ created, w.linkBody env request tagType found effectiveTagPk = .ok (.aborted, created)) ∧
      env.insertRows (request.rows tagType userId effectiveTagPk w.tags.table.rows) found =
        none := by
  set parentRow := request.parentRow tagType userId effectiveTagPk w.tags.table.rows with hparentRow
  have hinserts : ¬(found.mappings.HasPk parentRow.steveOcppTagPk ∨
      ¬env.Admits found.mappings parentRow) := by
    rw [hmappings]
    exact not_or.mpr ⟨hfree, not_not.mpr hadmits⟩
  have hinsert : env.insertMapping parentRow found =
      some (found.insertMapping parentRow, { parentRow with id := found.mappings.table.next }) :=
    if_neg hinserts
  have hchildren : w.insertChildren env request tagType userId =
      ((getAllChildTags request.ocppTagId w.tags.table.rows).map
        (request.childRow tagType userId)).map env.insertMapping := by
    rw [insertChildren, List.map_map]
    rfl
  have hrows : env.insertRows (request.rows tagType userId effectiveTagPk w.tags.table.rows) found =
      (env.insertRows ((getAllChildTags request.ocppTagId w.tags.table.rows).map
        (request.childRow tagType userId)) (found.insertMapping parentRow)).map
          fun linked =>
            (linked.1, { parentRow with id := found.mappings.table.next } :: linked.2) := by
    rw [LinkPost.rows, PushEnv.insertRows, if_neg hinserts]
  simp only [linkBody, haccount, ← hparentRow, SqlTransaction.exec_running_of_some hinsert]
  rw [hchildren, hrows]
  rcases SqlTransaction.catchEach_running_or_aborted
      (((getAllChildTags request.ocppTagId w.tags.table.rows).map
        (request.childRow tagType userId)).map env.insertMapping)
      (found.insertMapping parentRow) with ⟨linked, childMappings, hall, hloop⟩ | ⟨hnone, haborted⟩
  · rw [execAll_insertMapping] at hall
    rw [hloop, hall]
    exact Or.inl ⟨linked, _, rfl, rfl⟩
  · rw [execAll_insertMapping] at hnone
    rw [haborted, hnone]
    exact Or.inr ⟨⟨_, rfl⟩, rfl⟩

/-! ## After the transaction -/

lemma keepsRows_ensureParent : w.KeepsRows (w.ensureParent env request).1 := by
  unfold ensureParent
  split
  · exact .of_mappings rfl
  · exact CustomerMetaTagCall.keepsRows_ensureCustomerMetaTag

lemma ensureParent_snd : (w.ensureParent env request).2 = desiredParentIdTag env request := by
  unfold ensureParent desiredParentIdTag
  cases env.owner <;> rfl

variable (env db request) in
/-- The mappings stay, and the response lists them, unless the `UPDATE` fails.  That of the tag gets
its parent. -/
lemma finishLink_spec (hself : created.parentMapping ∈ w.mappings.table.rows) :
    w.KeepsRows (w.finishLink env db request created).1 ∧
      ((startsWith request.ocppTagId "OCPP-" = true ∨ db.updatesParent = true) ∧
          (∃ parentMapping, (w.finishLink env db request created).2 =
              .ok { created with parentMapping := parentMapping } ∧
            parentMapping.id = created.parentMapping.id ∧
            parentMapping.steveOcppTagPk = created.parentMapping.steveOcppTagPk ∧
            parentMapping.steveParentIdTag =
              if startsWith request.ocppTagId "OCPP-" then created.parentMapping.steveParentIdTag
              else some (desiredParentIdTag env request)) ∨
        ¬(startsWith request.ocppTagId "OCPP-" = true ∨ db.updatesParent = true) ∧
          (w.finishLink env db request created).2 = .error .failed) := by
  by_cases hname : startsWith request.ocppTagId "OCPP-" = true
  · rw [finishLink, if_pos hname, if_pos hname]
    exact ⟨.of_mappings rfl, Or.inl ⟨Or.inl hname, _, rfl, rfl, rfl, rfl⟩⟩
  · rw [finishLink, if_neg hname, if_neg hname]
    by_cases hupdates : db.updatesParent = true
    · simp only [if_pos hupdates]
      set updated := (w.ensureParent env request).1.setParent created.parentMapping.id
        (w.ensureParent env request).2 with hupdated
      have hkeeps : w.KeepsRows updated := keepsRows_ensureParent.trans keepsRows_updateMappings
      obtain ⟨row, hrow, hid, hpk⟩ := hkeeps _ hself
      have hget : updated.mappings.table.get? created.parentMapping.id = some row :=
        SerialTable.get?_eq_some.mpr ⟨hrow, hid⟩
      have hparent : row.steveParentIdTag = some (desiredParentIdTag env request) := by
        rw [hupdated, ensureParent_snd] at hrow
        obtain ⟨old, -, rfl⟩ := mem_updateMappings.mp hrow
        split
        · rfl
        · next hother =>
          rw [if_neg hother] at hid
          exact absurd (decide_eq_true hid) hother
      rw [hget]
      exact ⟨hkeeps, Or.inl ⟨Or.inr hupdates, row, rfl, hid, hpk, hparent⟩⟩
    · dsimp only
      rw [if_neg hupdates]
      exact ⟨keepsRows_ensureParent, Or.inr ⟨not_or.mpr ⟨hname, hupdates⟩, rfl⟩⟩

/-! ## Outcomes -/

/-- The checks and the look-up. -/
lemma postLinkRequest_cases :
    (w.findTag env request = none ∧ ∃ refusal, w.postLinkRequest env db request =
        ⟨w, false, .error refusal⟩) ∨
      ∃ tagType found effectiveTagPk,
        w.findTag env request = some (tagType, found, effectiveTagPk) ∧
          w.effectiveTag env request = some (found, effectiveTagPk) ∧
          w.postLinkRequest env db request =
            w.linkFound env db request tagType found effectiveTagPk := by
  unfold findTag postLinkRequest
  by_cases hcomplete : request.IsComplete
  · rw [if_pos hcomplete]
    cases request.rowType with
    | none => exact Or.inl ⟨rfl, _, rfl⟩
    | some tagType =>
        by_cases hlists : env.listsAll = true
        · dsimp only
          rw [if_pos ⟨hcomplete, hlists⟩, if_pos hlists]
          cases w.effectiveTag env request with
          | none => exact Or.inl ⟨rfl, _, rfl⟩
          | some result =>
              obtain ⟨found, effectiveTagPk⟩ := result
              exact Or.inr ⟨tagType, found, effectiveTagPk, rfl, rfl, rfl⟩
        · dsimp only
          rw [if_neg fun h => hlists h.2, if_neg hlists]
          exact Or.inl ⟨rfl, _, rfl⟩
  · rw [if_neg hcomplete]
    refine Or.inl ⟨?_, _, rfl⟩
    split
    · exact if_neg fun h => hcomplete h.1
    · rfl

/-- The rows of the tag and of those below are inserted in the world `found`. -/
structure Commits (w : TagWorld) (env : LinkPostEnv) (request : LinkPost) (effectiveTagPk : ℕ)
    (found linked : TagWorld) (created : LinkCreated) : Prop where
  effectiveTag : w.effectiveTag env request = some (found, effectiveTagPk)
  free : ¬w.mappings.HasPk effectiveTagPk
  inserts : ∃ tagType userId,
    env.resolveOrCreateCustomerAccount (some request.lagoCustomerId) = .ok userId ∧
      env.insertRows (request.rows tagType userId effectiveTagPk w.tags.table.rows) found =
        some (linked, created.all)

/-- A request is refused because its tag cannot be linked, or its transaction is rolled back for a
tag below that has a mapping, or it is committed. -/
theorem outcome_cases (w : TagWorld) (env : LinkPostEnv) (db : LinkDatabase) (request : LinkPost) :
    (w.linkable? env db request = none ∧ ∃ world refusal, world.mappings = w.mappings ∧
        w.postLinkRequest env db request = ⟨world, false, .error refusal⟩) ∨
      ∃ effectiveTagPk, w.linkable? env db request = some effectiveTagPk ∧
        (¬w.NoneMappedBelow request.ocppTagId effectiveTagPk ∧
            (w.postLinkRequest env db request).committed = false ∨
          w.NoneMappedBelow request.ocppTagId effectiveTagPk ∧ ∃ found linked created,
            w.Commits env request effectiveTagPk found linked created ∧
              w.postLinkRequest env db request =
                ⟨(linked.finishLink env db request created).1, true,
                  (linked.finishLink env db request created).2⟩) := by
  obtain ⟨hnone, refusal, houtcome⟩ | ⟨tagType, found, effectiveTagPk, hfind, htag, houtcome⟩ :=
    @postLinkRequest_cases w env db request
  · refine Or.inl ⟨?_, w, refusal, rfl, houtcome⟩
    rw [linkable?, hnone]
  · have hfound := found_effectiveTag htag
    rw [houtcome, linkable?, hfind]
    cases haccount : env.resolveOrCreateCustomerAccount (some request.lagoCustomerId) with
    | error failure =>
        refine Or.inl ⟨rfl, found, ?_⟩
        rw [linkFound, linkBody, haccount]
        cases failure <;> exact ⟨_, hfound.mappings, rfl⟩
    | ok userId =>
        dsimp only
        by_cases hadmitted : ¬w.mappings.HasPk effectiveTagPk ∧ env.Admits w.mappings
            (request.parentRow tagType userId effectiveTagPk w.tags.table.rows)
        · have hinserts := isSome_insertRows_iff hfound hadmitted.1 hadmitted.2
          rw [linkFound]
          rcases linkBody_of_admitted hfound.mappings haccount hadmitted.1 hadmitted.2 with
            ⟨linked, created, hbody, hinsert⟩ | ⟨⟨created, hbody⟩, hnone⟩
          · rw [hbody]
            by_cases hcommits : db.commits = true
            · rw [if_pos ⟨hadmitted.1, hadmitted.2, hcommits⟩]
              rw [hinsert] at hinserts
              refine Or.inr ⟨effectiveTagPk, rfl, Or.inr ⟨hinserts.mp rfl, found, linked, created,
                ⟨htag, hadmitted.1, tagType, userId, haccount, hinsert⟩, ?_⟩⟩
              exact if_pos hcommits
            · rw [if_neg fun h => hcommits h.2.2]
              exact Or.inl ⟨rfl, found, .failed, hfound.mappings, if_neg hcommits⟩
          · rw [hbody]
            by_cases hcommits : db.commits = true
            · rw [if_pos ⟨hadmitted.1, hadmitted.2, hcommits⟩]
              rw [hnone] at hinserts
              refine Or.inr ⟨effectiveTagPk, rfl, Or.inl ⟨fun hall => ?_, ?_⟩⟩
              · cases hinserts.mpr hall
              · simp only [if_pos hcommits]
                split <;> rfl
            · rw [if_neg fun h => hcommits h.2.2]
              exact Or.inl ⟨rfl, found, .failed, hfound.mappings, if_neg hcommits⟩
        · rw [if_neg fun h => hadmitted ⟨h.1, h.2.1⟩, linkFound,
            linkBody_of_refused hfound.mappings haccount hadmitted]
          exact Or.inl ⟨rfl, found, .failed, hfound.mappings, rfl⟩

/-- The transaction of `postLink` is that one. -/
lemma Commits.links (h : w.Commits env request effectiveTagPk found linked created) :
    Linked w request effectiveTagPk found linked created.parentMapping created.childMappings := by
  obtain ⟨tagType, userId, haccount, hinsert⟩ := h.inserts
  have htransaction : w.linkTransaction env request tagType found effectiveTagPk =
      some (linked, created.all) := by
    rw [linkTransaction, haccount]
    exact hinsert
  obtain ⟨parentMapping, childMappings, heq, hlinked⟩ :=
    linked_linkTransaction (found_effectiveTag h.effectiveTag) htransaction
  obtain ⟨rfl, rfl⟩ := List.cons.inj heq
  exact hlinked

/-- The mappings that a committed transaction has created. -/
lemma Commits.map_pk (h : w.Commits env request effectiveTagPk found linked created) :
    created.all.map UserMapping.steveOcppTagPk = effectiveTagPk ::
        (getAllChildTags request.ocppTagId w.tags.table.rows).map StEvEOcppTag.ocppTagPk ∧
      (created.all.map UserMapping.steveOcppTagPk).Nodup ∧
      ∀ m ∈ created.all, m ∈ linked.mappings.table.rows := by
  obtain ⟨tagType, userId, -, hinsert⟩ := h.inserts
  obtain ⟨-, hinserted, hrows, hnodup, -⟩ :=
    inserted_insertRows hinsert (lt_next_of_mem_rows (found_effectiveTag h.effectiveTag))
  have hpks : created.all.map UserMapping.steveOcppTagPk =
      (request.rows tagType userId effectiveTagPk w.tags.table.rows).map
        UserMapping.steveOcppTagPk := by
    have hforall : List.Forall₂ (· = ·) (created.all.map UserMapping.steveOcppTagPk)
        ((request.rows tagType userId effectiveTagPk w.tags.table.rows).map
          UserMapping.steveOcppTagPk) := by
      rw [List.forall₂_map_left_iff, List.forall₂_map_right_iff]
      exact hinserted.flip.imp fun m row heq => congrArg UserMapping.steveOcppTagPk heq
    rwa [List.forall₂_eq_eq_eq] at hforall
  rw [hpks]
  exact ⟨map_pk_rows, hnodup, fun m hm => (hrows m).mpr (Or.inr hm)⟩

/-- A transaction that is committed covers the unmapped tags below, unless the `UPDATE` after it
fails. -/
lemma covers_of_commits (h : w.Commits env request effectiveTagPk found linked created)
    (hunmapped : w.NoneMappedBelow request.ocppTagId effectiveTagPk) :
    w.Covers request.ocppTagId (some effectiveTagPk)
        ⟨(linked.finishLink env db request created).1, true,
          (linked.finishLink env db request created).2⟩ ↔
      (startsWith request.ocppTagId "OCPP-" = true ∨ db.updatesParent = true) := by
  obtain ⟨hpks, hnodup, hmem⟩ := h.map_pk
  obtain ⟨hkeeps, ⟨hupdates, parentMapping, hresponse, hid, hpk, -⟩ | ⟨hfails, hresponse⟩⟩ :=
    finishLink_spec env db request (hmem created.parentMapping List.mem_cons_self)
  · refine iff_of_true ⟨fun listed hlisted => ?_, fun refusal hrefusal => ?_, fun _ => rfl⟩ hupdates
    · obtain rfl := Except.ok.inj (hresponse.symm.trans hlisted)
      have hsame : ({ created with parentMapping := parentMapping } : LinkCreated).all.map
          UserMapping.steveOcppTagPk = created.all.map UserMapping.steveOcppTagPk := by
        rw [LinkCreated.all, List.map_cons, hpk]
        rfl
      rw [hsame]
      refine ⟨fun ocppTagPk => ?_, hnodup, fun m hm => ?_⟩
      · rw [hpks, List.mem_cons, Option.mem_some_iff, eq_comm]
        refine or_congr_right ⟨fun hchild => ?_, fun ⟨⟨tag, htag, hself⟩, _⟩ => ?_⟩
        · obtain ⟨tag, htag, rfl⟩ := List.mem_map.mp hchild
          have hbelow := mem_childTags.mp htag
          exact ⟨⟨tag, hbelow, rfl⟩, (hunmapped tag hbelow).1⟩
        · exact List.mem_map.mpr ⟨tag, mem_childTags.mpr htag, hself⟩
      · rcases List.mem_cons.mp hm with rfl | hchild
        · obtain ⟨m', hm', hid', hpk'⟩ := hkeeps _ (hmem _ List.mem_cons_self)
          exact ⟨m', hm', hid'.trans hid.symm, hpk'.trans hpk.symm⟩
        · exact hkeeps m (hmem m (List.mem_cons_of_mem _ hchild))
    · cases hresponse.symm.trans hrefusal
  · refine iff_of_false (fun hcovers => ?_) hfails
    obtain ⟨m', hm', -, hpk⟩ := hkeeps _ (hmem created.parentMapping List.mem_cons_self)
    have hparent : created.parentMapping.steveOcppTagPk = effectiveTagPk :=
      (List.cons.inj hpks).1
    exact h.free (hcovers.untouched _ hresponse _ ⟨m', hm', hpk.trans hparent⟩)

/-- Where the database does all it is asked to, this is `postLink`. -/
theorem world_postLinkRequest (w : TagWorld) (env : LinkPostEnv) (request : LinkPost) :
    (w.postLinkRequest env ⟨true, true, true⟩ request).world = w.postLink env request := by
  obtain ⟨hnone, refusal, houtcome⟩ | ⟨tagType, found, effectiveTagPk, hfind, htag, houtcome⟩ :=
    @postLinkRequest_cases w env ⟨true, true, true⟩ request
  · rw [houtcome, postLink, hnone]
  · have hfound := found_effectiveTag htag
    rw [houtcome, postLink, hfind]
    dsimp only
    rw [linkFound, linkTransaction]
    cases haccount : env.resolveOrCreateCustomerAccount (some request.lagoCustomerId) with
    | error failure =>
        rw [linkBody, haccount]
        cases failure <;> rfl
    | ok userId =>
        dsimp only
        by_cases hadmitted : ¬w.mappings.HasPk effectiveTagPk ∧ env.Admits w.mappings
            (request.parentRow tagType userId effectiveTagPk w.tags.table.rows)
        · rcases linkBody_of_admitted hfound.mappings haccount hadmitted.1 hadmitted.2 with
            ⟨linked, created, hbody, hinsert⟩ | ⟨⟨created, hbody⟩, hnone⟩
          · rw [hbody, hinsert]
            show (linked.finishLink env ⟨true, true, true⟩ request created).1 =
              linked.pushLinked env request (created.parentMapping :: created.childMappings)
            rw [finishLink, pushLinked]
            split <;> rfl
          · rw [hbody, hnone]
            rfl
        · rw [linkBody_of_refused hfound.mappings haccount hadmitted, LinkPost.rows,
            PushEnv.insertRows, if_pos]
          rw [hfound.mappings]
          by_cases hfree : w.mappings.HasPk effectiveTagPk
          · exact Or.inl hfree
          · exact Or.inr fun hadmits => hadmitted ⟨hfree, hadmits⟩

end TagWorld

/-- For every hierarchy and all mappings: a request covers exactly the unmapped tags below, and none
when it fails, exactly when it cannot link its tag in any case, or no tag below has a mapping and
the `UPDATE` that may follow is carried out. -/
theorem coversUnmapped_iff (w : TagWorld) (env : LinkPostEnv) (db : LinkDatabase)
    (request : LinkPost) :
    w.CoversUnmapped env db request ↔ w.LinksUnmapped env db request := by
  unfold TagWorld.CoversUnmapped TagWorld.LinksUnmapped
  rcases w.outcome_cases env db request with ⟨hnone, world, refusal, hmappings, houtcome⟩ |
    ⟨effectiveTagPk, hlinkable, ⟨hmapped, hcommitted⟩ |
      ⟨hunmapped, found, linked, created, hcommits, houtcome⟩⟩
  · rw [hnone, houtcome]
    refine iff_of_true ⟨fun created hcreated => ?_, fun _ _ _ hpk => hmappings ▸ hpk, ?_⟩ ?_
    · cases hcreated
    · exact fun h => by cases h
    · exact fun _ h => by cases h
  · rw [hlinkable]
    refine iff_of_false (fun hcovers => ?_) fun hlinks => hmapped (hlinks effectiveTagPk rfl).1
    have hlinked := hcovers.undisturbed rfl
    rw [hcommitted] at hlinked
    cases hlinked
  · rw [hlinkable, houtcome, TagWorld.covers_of_commits hcommits hunmapped]
    simp only [Option.mem_some_iff, forall_eq']
    exact (and_iff_right hunmapped).symm

namespace Scenario

/-- A tag with two tags below it, one of which is linked. -/
def halfLinked : TagWorld where
  tags :=
    { table :=
        { rows :=
            [⟨"FLEET", 1, none, none, none, none, none⟩,
              ⟨"VAN-1", 2, none, some "FLEET", none, none, none⟩,
              ⟨"VAN-2", 3, none, some "FLEET", none, none, none⟩]
          next := 4
          key_lt := by decide
          nodup := by decide }
      nodup_idTag := by decide }
  mappings :=
    { table :=
        { rows := [⟨0, 2, "VAN-1", some "driver", none, none, .evCard, true, some "FLEET", none,
            some "driver-user"⟩]
          next := 1
          key_lt := by decide
          nodup := by decide }
      nodup_pk := by decide }
  numbered := by decide

def linksFleet : LinkPost := ⟨"FLEET", 1, "customer", none, none, none, none⟩

def linksFleetEnv : LinkPostEnv where
  listsAll := true
  isCustomer _ := true
  resolveOrCreateCustomerAccount _ := .ok "user"
  faults := .none
  timestamp _ := ""
  owner := none
  getSubscriptions := .ok []

end Scenario

open Scenario in
/-- The other van and the fleet get no mapping. -/
theorem not_coversUnmapped_halfLinked :
    ¬∀ (w : TagWorld) (env : LinkPostEnv) (db : LinkDatabase) (request : LinkPost),
      w.CoversUnmapped env db request := by
  intro h
  have hlinkable : halfLinked.linkable? linksFleetEnv ⟨true, true, true⟩ linksFleet = some 1 := by
    decide +kernel
  have hcommitted := (h halfLinked linksFleetEnv ⟨true, true, true⟩ linksFleet).undisturbed
    (by rw [hlinkable]; rfl)
  revert hcommitted
  decide +kernel

end ExpresSync
