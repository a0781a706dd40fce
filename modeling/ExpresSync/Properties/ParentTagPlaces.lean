import ExpresSync.Properties.HierarchyWrites

/-!
# The places of tags in `ensureCustomerMetaTag`

A call leaves every tag in place but the children of a legacy tag, which it moves under the parent
tag.  The mirror follows, where the row of the parent tag is new for a tag without a place, and
the children that move have no rows (`CustomerMetaTagCall.keeps_ensureCustomerMetaTag`).
-/

namespace ExpresSync

/-- StEvE carries out the updates of a tag. -/
def SteveFaults.AcceptsUpdates (faults : SteveFaults) (ocppTagPk : ℕ) : Prop :=
  ∀ tag, tag.ocppTagPk = ocppTagPk → faults.accepts (.update tag) = true

/-- StEvE refuses the updates of a tag. -/
def SteveFaults.RefusesUpdates (faults : SteveFaults) (ocppTagPk : ℕ) : Prop :=
  ∀ tag, tag.ocppTagPk = ocppTagPk → faults.accepts (.update tag) = false

namespace CustomerMetaTagCall

variable (call : CustomerMetaTagCall)

/-- The name of the parent tag. -/
def idTag : String :=
  match call.owner with
  | some owner => parentIdTagForUserPublicId owner.publicId
  | none => parentIdTagFor call.externalId

/-- The names that are cleaned up. -/
def legacyIdTags : List String :=
  ([parentIdTagFor call.externalId] ++
    call.owner.toList.map fun owner => legacyOcppParentIdTagForUserPublicId owner.publicId).filter
      (· ≠ call.idTag)

/-- StEvE says that it lists the parent tag, or creates it. -/
def FindsTag (tags : SteveTags) : Prop :=
  call.faults.lists call.idTag = true ∧ (tags.Lists call.idTag ∨ call.faults.creates = true)

/-- The child of a legacy tag moves under the parent tag. -/
def Reparents (tag tag' : StEvEOcppTag) : Prop :=
  (∃ legacyIdTag ∈ call.legacyIdTags, tag.parentIdTag = some legacyIdTag) ∧
    tag'.parentIdTag = some call.idTag

/-- The tag stays in place, or moves as a child of a legacy tag. -/
def Moves (tag tag' : StEvEOcppTag) : Prop :=
  tag'.expiryDate = tag.expiryDate ∧
    (tag'.parentIdTag = tag.parentIdTag ∨ call.Reparents tag tag')

/-- The row that the parent tag gets when it has none mirrors its place; the tags `linked` have
rows. -/
def NewRowMirrors (linked : List ℕ) (w : TagWorld) : Prop :=
  call.faults.lists call.idTag = true → ∀ tag ∈ w.tags.table.rows, tag.idTag = call.idTag →
    tag.ocppTagPk ∉ linked → ¬w.mappings.HasPk tag.ocppTagPk →
      tag.parentIdTag = none ∧ tag.expiryDate = none

/-- No mirror gets out of step when the tag `legacyIdTag` is cleaned up.  A child of it moves and
has no row, but for the tags `linked`, or both the child and the legacy tag stay. -/
def CleansUp (linked : List ℕ) (w : TagWorld) (legacyIdTag : String) : Prop :=
  call.faults.lists legacyIdTag = true → call.faults.listsChildren legacyIdTag = true →
    ∀ legacyTag ∈ w.tags.table.rows, legacyTag.idTag = legacyIdTag →
      ∀ child ∈ w.tags.table.rows, child.parentIdTag = some legacyIdTag →
        call.faults.AcceptsUpdates child.ocppTagPk ∧
            (child.ocppTagPk ∈ linked ∨ ¬w.mappings.HasPk child.ocppTagPk) ∨
          call.faults.RefusesUpdates child.ocppTagPk ∧
            call.faults.accepts (.delete legacyTag.ocppTagPk) = false

variable {call} {w w' : TagWorld} {linked : List ℕ} {known : String → Prop}

lemma Moves.refl {tag : StEvEOcppTag} : call.Moves tag tag := ⟨rfl, Or.inl rfl⟩

lemma Moves.of_samePlace {tag tag' : StEvEOcppTag} (h : tag.SamePlace tag') : call.Moves tag tag' :=
  ⟨h.2, Or.inl h.1⟩

lemma Moves.trans {tag tag' tag'' : StEvEOcppTag} (h : call.Moves tag tag')
    (h' : call.Moves tag' tag'') : call.Moves tag tag'' := by
  obtain ⟨hexpiry, hparent⟩ := h
  obtain ⟨hexpiry', hparent'⟩ := h'
  refine ⟨hexpiry'.trans hexpiry, ?_⟩
  rcases hparent with hsame | ⟨hlegacy, hmeta⟩
  · rcases hparent' with hsame' | ⟨⟨legacyIdTag, hmem, hlegacy⟩, hmeta⟩
    · exact Or.inl (hsame'.trans hsame)
    · exact Or.inr ⟨⟨legacyIdTag, hmem, hsame ▸ hlegacy⟩, hmeta⟩
  · rcases hparent' with hsame' | ⟨-, hmeta'⟩
    · exact Or.inr ⟨hlegacy, hsame'.trans hmeta⟩
    · exact Or.inr ⟨hlegacy, hmeta'⟩

lemma ne_idTag {legacyIdTag : String} (h : legacyIdTag ∈ call.legacyIdTags) :
    legacyIdTag ≠ call.idTag := by
  rw [legacyIdTags, List.mem_filter, decide_eq_true_eq] at h
  exact h.2

lemma startsWith_of_mem {legacyIdTag : String} (h : legacyIdTag ∈ call.legacyIdTags) :
    startsWith legacyIdTag "OCPP-" = true := by
  have hprefixed : ∀ text : String, startsWith ("OCPP-" ++ text) "OCPP-" = true := by
    intro text
    rw [startsWith, String.toList_append, List.isPrefixOf_iff_prefix]
    exact List.prefix_append _ _
  rw [legacyIdTags, List.mem_filter, List.singleton_append, List.mem_cons] at h
  rcases h.1 with rfl | howner
  · exact hprefixed _
  · obtain ⟨owner, -, rfl⟩ := List.mem_map.mp howner
    exact hprefixed _

/-- The tags stay in place, and the parent tag is the only one that may be new. -/
structure Ensured (call : CustomerMetaTagCall) (w w' : TagWorld) : Prop where
  follows : TagWorld.Follows StEvEOcppTag.SamePlace (fun _ => False) w w'
  created : ∀ tag ∈ w'.tags.table.rows, w.tags.table.next ≤ tag.ocppTagPk →
    tag.idTag = call.idTag ∧ tag.parentIdTag = none ∧ tag.expiryDate = none

lemma Ensured.of_tags (h : w'.tags = w.tags) : call.Ensured w w' where
  follows := .of_tags (fun _ => .refl) h
  created := fun tag htag hlate =>
    absurd (w.tags.table.key_lt tag (h ▸ htag)) (Nat.not_lt_of_le hlate)

/-- StEvE lists the parent tag under the number. -/
def HasTag (call : CustomerMetaTagCall) (w : TagWorld) (ocppTagPk : ℕ) : Prop :=
  ∃ tag ∈ w.tags.table.rows, tag.idTag = call.idTag ∧ tag.ocppTagPk = ocppTagPk

lemma ensured_create {note : Option String} {limit : ℤ} (hfree : ¬w.tags.Lists call.idTag)
    (htags : w'.tags = w.tags.createOcppTag call.idTag note none limit) :
    call.Ensured w w' ∧ call.HasTag w' w.tags.table.next := by
  have hmem := SteveTags.mem_createOcppTag hfree note none limit
  rw [← htags] at hmem
  refine ⟨⟨TagWorld.follows_create hfree htags, fun tag htag hlate => ?_⟩, _,
    (hmem _).mpr (Or.inr rfl), rfl, rfl⟩
  rw [htags] at htag
  obtain rfl := TagWorld.eq_of_next_le hfree htag hlate
  exact ⟨rfl, rfl, rfl⟩

lemma ensured_update {tag : StEvEOcppTag} (update : StEvEOcppTag) (htag : tag ∈ w.tags.table.rows)
    (hname : tag.idTag = call.idTag) (hpk : update.ocppTagPk = tag.ocppTagPk)
    (hsame : tag.SamePlace update) :
    call.Ensured w (w.sendAll call.faults [.update update]) ∧
      call.HasTag (w.sendAll call.faults [.update update]) tag.ocppTagPk := by
  have hfollows : TagWorld.Follows StEvEOcppTag.SamePlace (fun _ => False) w
      (w.sendAll call.faults [.update update]) := by
    refine TagWorld.follows_update_samePlace fun other hother hself => ?_
    obtain rfl : other = tag := SerialTable.eq_of_key hother htag (hself.trans hpk)
    exact hsame
  have hold : ∀ tag' ∈ (w.sendAll call.faults [.update update]).tags.table.rows,
      tag'.ocppTagPk < w.tags.table.next := by
    intro tag' htag'
    exact TagWorld.next_update ▸ SerialTable.key_lt _ tag' htag'
  refine ⟨⟨hfollows, fun tag' htag' hlate => absurd (hold tag' htag') (Nat.not_lt_of_le hlate)⟩, ?_⟩
  obtain ⟨tag', htag', hname'⟩ := hfollows.lists call.idTag ⟨tag, htag, hname⟩ not_false
  obtain ⟨old, hmem, hpk', hnameOld, -⟩ := hfollows.exists_tag htag' (hold tag' htag')
  obtain rfl : old = tag := SteveTags.eq_of_idTag hmem htag
    (hnameOld.symm.trans (hname'.trans hname.symm))
  exact ⟨tag', htag', hname', hpk'⟩

/-- The parent tag is in place, under the number that is returned. -/
lemma ensured_ensureTag {requests : List SteveRequest} {ocppTagPk : Option ℕ}
    (h : (w.inputs call).ensureTag call.externalId call.displayName = (requests, ocppTagPk)) :
    call.Ensured w (w.sendAll call.faults requests) ∧ ∀ pk, ocppTagPk = some pk →
      call.FindsTag w.tags ∧ call.HasTag (w.sendAll call.faults requests) pk := by
  have hid : (w.inputs call).idTag call.externalId = call.idTag := rfl
  have hanswer : (w.inputs call).getOcppTags call.idTag =
      if call.faults.lists call.idTag then
        .ok (w.tags.table.rows.filter fun tag => decide (tag.idTag = call.idTag))
      else .error "StEvE API error" := rfl
  rw [MetaTagInputs.ensureTag, hid, hanswer] at h
  by_cases hlists : call.faults.lists call.idTag = true
  · rw [if_pos hlists] at h
    rcases w.tags.filter_idTag call.idTag with
      ⟨hfree, hfilter⟩ | ⟨tag, hmem, hname, rest, hfilter⟩
    · rw [hfilter] at h
      obtain ⟨rfl, rfl⟩ := Prod.mk.inj h
      have hkey : (w.inputs call).createOcppTag =
          if call.faults.creates then .ok w.tags.table.next else .error "StEvE API error" := rfl
      by_cases hcreates : call.faults.creates = true
      · rw [hkey, if_pos hcreates]
        have hcreated : ∀ note limit,
            (w.sendAll call.faults [.create call.idTag note limit]).tags =
              w.tags.createOcppTag call.idTag (some note) none limit := fun _ _ => if_pos hcreates
        refine ⟨(ensured_create hfree (hcreated _ _)).1, ?_⟩
        rintro pk ⟨⟩
        exact ⟨⟨hlists, Or.inr hcreates⟩, (ensured_create hfree (hcreated _ _)).2⟩
      · rw [hkey, if_neg hcreates]
        exact ⟨.of_tags (if_neg hcreates), fun _ hpk => absurd hpk (Option.some_ne_none _).symm⟩
    · rw [hfilter] at h
      obtain ⟨rfl, rfl⟩ := Prod.mk.inj h
      have hfinds : call.FindsTag w.tags := ⟨hlists, Or.inl ⟨tag, hmem, hname⟩⟩
      split
      · obtain ⟨hensured, hhas⟩ := ensured_update { tag with
          maxActiveTransactionCount := some (w.inputs call).maxActiveTransactionCount }
            hmem hname rfl ⟨rfl, rfl⟩
        exact ⟨hensured, fun pk hpk => ⟨hfinds, Option.some.inj hpk ▸ hhas⟩⟩
      · exact ⟨.of_tags rfl, fun pk hpk => ⟨hfinds, tag, hmem, hname, Option.some.inj hpk⟩⟩
  · rw [if_neg hlists] at h
    obtain ⟨rfl, rfl⟩ := Prod.mk.inj h
    exact ⟨.of_tags rfl, fun _ hpk => absurd hpk (Option.some_ne_none _).symm⟩

/-! ### The row -/

lemma tags_upsertMetaRow {ocppTagPk : ℕ} : (w.upsertMetaRow call ocppTagPk).tags = w.tags := by
  unfold TagWorld.upsertMetaRow
  split
  · rfl
  · exact TagWorld.tags_insertMapping

lemma keepsRows_upsertMetaRow {ocppTagPk : ℕ} (hlt : ocppTagPk < w.tags.table.next) :
    w.KeepsRows (w.upsertMetaRow call ocppTagPk) := by
  unfold TagWorld.upsertMetaRow
  split
  · exact TagWorld.keepsRows_updateMappings
  · next hfree => exact TagWorld.keepsRows_insertMapping hfree hlt

lemma addsRow_upsertMetaRow {ocppTagPk : ℕ} (hlt : ocppTagPk < w.tags.table.next) :
    w.AddsRow (w.upsertMetaRow call ocppTagPk) ocppTagPk := by
  unfold TagWorld.upsertMetaRow
  split
  · intro m hm
    obtain ⟨old, hold, rfl⟩ := TagWorld.mem_updateMappings.mp hm
    refine Or.inl ⟨old, hold, ?_⟩
    split <;> exact ⟨rfl, rfl, rfl⟩
  · next hfree =>
    intro m hm
    rcases (TagWorld.mem_insertMapping hfree hlt).mp hm with hold | rfl
    · exact Or.inl ⟨m, hold, rfl, rfl, rfl⟩
    · exact Or.inr ⟨hfree, rfl, rfl, rfl⟩

/-! ### The clean-up of a legacy tag -/

/-- What the clean-up of a tag does. -/
structure Clears (call : CustomerMetaTagCall) (legacyTag : StEvEOcppTag) (w w' : TagWorld) :
    Prop where
  listed : legacyTag ∈ w.tags.table.rows
  lists : call.faults.lists legacyTag.idTag = true
  listsChildren : call.faults.listsChildren legacyTag.idTag = true
  next_le : w.tags.table.next ≤ w'.tags.table.next
  mem_tags : ∀ tag, tag ∈ w'.tags.table.rows ↔ ∃ old ∈ w.tags.table.rows,
    (call.faults.accepts (.delete legacyTag.ocppTagPk) = true →
      old.ocppTagPk ≠ legacyTag.ocppTagPk) ∧
      tag = if old.parentIdTag = some legacyTag.idTag ∧
          call.faults.accepts (.update { old with parentIdTag := some call.idTag }) = true then
        { old with parentIdTag := some call.idTag } else old
  mem_mappings : ∀ m, m ∈ w'.mappings.table.rows ↔ ∃ old ∈ w.mappings.table.rows,
    m = if old.steveOcppIdTag = legacyTag.idTag then { old with isActive := false } else old

lemma clears_cleanUpLegacy (call : CustomerMetaTagCall) (w : TagWorld) (legacyIdTag : String) :
    w.cleanUpLegacy call legacyIdTag = w ∨ ∃ legacyTag, legacyTag.idTag = legacyIdTag ∧
      call.Clears legacyTag w (w.cleanUpLegacy call legacyIdTag) := by
  have hanswer : (w.inputs call).getOcppTags legacyIdTag =
      if call.faults.lists legacyIdTag then
        .ok (w.tags.table.rows.filter fun tag => decide (tag.idTag = legacyIdTag))
      else .error "StEvE API error" := rfl
  have hchildren : (w.inputs call).getChildren legacyIdTag =
      if call.faults.listsChildren legacyIdTag then
        .ok (w.tags.table.rows.filter fun tag => decide (tag.parentIdTag = some legacyIdTag))
      else .error "StEvE API error" := rfl
  unfold TagWorld.cleanUpLegacy
  rw [hanswer, hchildren]
  by_cases hlists : call.faults.lists legacyIdTag = true
  · by_cases hlistsChildren : call.faults.listsChildren legacyIdTag = true
    · rw [if_pos hlists, if_pos hlistsChildren]
      rcases w.tags.filter_idTag legacyIdTag with
        ⟨-, hfilter⟩ | ⟨legacyTag, hlisted, rfl, rest, hfilter⟩
      · rw [hfilter]
        exact Or.inl rfl
      · right
        rw [hfilter]
        dsimp only
        set moved := w.tags.sendAll call.faults
          ((w.tags.table.rows.filter fun tag =>
            decide (tag.parentIdTag = some legacyTag.idTag)).map
              fun child => .update { child with parentIdTag := some call.idTag }) with hmoved
        have hmove : ∀ tag, tag ∈ moved.table.rows ↔ ∃ old ∈ w.tags.table.rows,
            tag = if old.parentIdTag = some legacyTag.idTag ∧
                call.faults.accepts (.update { old with parentIdTag := some call.idTag }) = true
              then { old with parentIdTag := some call.idTag } else old := by
          intro tag
          rw [hmoved, SteveTags.mem_sendAll_updates
            (f := fun child => { child with parentIdTag := some call.idTag })
            (fun _ => rfl) (fun _ => rfl) (fun child hchild => List.mem_of_mem_filter hchild)
            (w.tags.table.nodup.sublist (List.filter_sublist.map _))]
          refine exists_congr fun old => and_congr_right fun hold => ?_
          simp [hold]
        refine ⟨legacyTag, rfl, hlisted, hlists, hlistsChildren, ?_, fun tag => ?_, fun m => ?_⟩
        · exact (SteveTags.next_le_sendAll _).trans
            (SteveTags.next_le_send (.delete legacyTag.ocppTagPk))
        · show tag ∈ (moved.send call.faults (.delete legacyTag.ocppTagPk)).table.rows ↔ _
          by_cases hdeletes : call.faults.accepts (.delete legacyTag.ocppTagPk) = true
          · have hsent : moved.send call.faults (.delete legacyTag.ocppTagPk) =
                moved.deleteOcppTag legacyTag.ocppTagPk := if_pos hdeletes
            rw [hsent, SteveTags.mem_deleteOcppTag, hmove]
            constructor
            · rintro ⟨⟨old, hold, rfl⟩, hpk⟩
              refine ⟨old, hold, fun _ heq => hpk ?_, rfl⟩
              split <;> exact heq
            · rintro ⟨old, hold, hpk, rfl⟩
              refine ⟨⟨old, hold, rfl⟩, ?_⟩
              split <;> exact hpk hdeletes
          · have hsent : moved.send call.faults (.delete legacyTag.ocppTagPk) = moved :=
              if_neg hdeletes
            rw [hsent, hmove]
            exact exists_congr fun old => and_congr_right fun _ =>
              (and_iff_right fun hyes => absurd hyes hdeletes).symm
        · show m ∈ SerialTable.rewrite _ _ w.mappings.table.rows ↔ _
          simp only [SerialTable.mem_rewrite, decide_eq_true_eq]
    · rw [if_neg hlistsChildren]
      left
      split
      · next heq => cases heq
      · rfl
  · rw [if_neg hlists]
    exact Or.inl rfl

namespace Clears

variable {legacyTag : StEvEOcppTag}

/-- Where a tag comes from. -/
lemma exists_old (h : call.Clears legacyTag w w') {tag' : StEvEOcppTag}
    (htag' : tag' ∈ w'.tags.table.rows) : ∃ tag ∈ w.tags.table.rows,
      tag'.ocppTagPk = tag.ocppTagPk ∧ tag'.idTag = tag.idTag ∧ tag'.expiryDate = tag.expiryDate ∧
        (tag'.parentIdTag = tag.parentIdTag ∨
          tag.parentIdTag = some legacyTag.idTag ∧ tag'.parentIdTag = some call.idTag) := by
  obtain ⟨tag, htag, -, rfl⟩ := (h.mem_tags tag').mp htag'
  refine ⟨tag, htag, ?_⟩
  split
  · next hmoved => exact ⟨rfl, rfl, rfl, Or.inr ⟨hmoved.1, rfl⟩⟩
  · exact ⟨rfl, rfl, rfl, Or.inl rfl⟩

/-- Only the legacy tag goes. -/
lemma lists_of_ne (h : call.Clears legacyTag w w') {idTag : String} (hlists : w.tags.Lists idTag)
    (hkept : call.faults.accepts (.delete legacyTag.ocppTagPk) = true → idTag ≠ legacyTag.idTag) :
    w'.tags.Lists idTag := by
  obtain ⟨tag, htag, rfl⟩ := hlists
  refine ⟨_, (h.mem_tags _).mpr ⟨tag, htag, fun hdeletes hpk => hkept hdeletes ?_, rfl⟩, ?_⟩
  · exact congrArg _ (SerialTable.eq_of_key htag h.listed hpk)
  · split <;> rfl

lemma follows (h : call.Clears legacyTag w w') (hmem : legacyTag.idTag ∈ call.legacyIdTags) :
    TagWorld.Follows call.Moves (· ∈ call.legacyIdTags) w w' where
  next_le := h.next_le
  origin := by
    intro tag' htag'
    obtain ⟨tag, htag, hpk, hname, hexpiry, hparent⟩ := h.exists_old htag'
    refine Or.inl ⟨tag, htag, hpk, hname, hexpiry, ?_⟩
    rcases hparent with hsame | ⟨hlegacy, hmeta⟩
    · exact Or.inl hsame
    · exact Or.inr ⟨⟨_, hmem, hlegacy⟩, hmeta⟩
  lists := fun idTag hlists hout => h.lists_of_ne hlists fun _ heq => hout (heq ▸ hmem)

lemma keepsRows (h : call.Clears legacyTag w w') : w.KeepsRows w' := by
  intro m hm
  refine ⟨_, (h.mem_mappings _).mpr ⟨m, hm, rfl⟩, ?_⟩
  split <;> exact ⟨rfl, rfl⟩

lemma exists_row (h : call.Clears legacyTag w w') {m' : UserMapping}
    (hm' : m' ∈ w'.mappings.table.rows) : w.HasRowLike m' := by
  obtain ⟨m, hm, rfl⟩ := (h.mem_mappings m').mp hm'
  refine ⟨m, hm, ?_⟩
  split <;> exact ⟨rfl, rfl, rfl⟩

/-- The mirror is kept, where the clean-up is as it should be. -/
lemma mirrorsBut (h : call.Clears legacyTag w w') (hclean : call.CleansUp linked w legacyTag.idTag)
    (hm : w.MirrorsBut linked) : w'.MirrorsBut linked := by
  intro m' hm'
  obtain ⟨m, hmem, hpk, hparent, hexpiry⟩ := h.exists_row hm'
  obtain ⟨hexpiryOld, hparentOld⟩ := hm m hmem
  refine ⟨fun tag' htag' hself => ?_, fun hout tag' htag' hself => ?_⟩
  · obtain ⟨tag, htag, hpkTag, -, hexpiryTag, -⟩ := h.exists_old htag'
    rw [hexpiry, hexpiryTag]
    exact hexpiryOld tag htag (hpkTag.symm.trans (hself.trans hpk))
  · obtain ⟨tag, htag, -, rfl⟩ := (h.mem_tags tag').mp htag'
    have hpkTag : tag.ocppTagPk = m.steveOcppTagPk := by
      rw [← hpk, ← hself]
      split <;> rfl
    have hstill : m.steveParentIdTag = tag.parentIdTag := hparentOld (hpk ▸ hout) tag htag hpkTag
    rw [hparent]
    split
    · next hmoved =>
      -- the child has moved, and has a row
      obtain ⟨hchild, haccepts⟩ := hmoved
      rcases hclean h.lists h.listsChildren legacyTag h.listed rfl tag htag hchild with
        ⟨-, hlinked | hnoRow⟩ | ⟨hrefuses, -⟩
      · exact absurd (hpk ▸ hpkTag ▸ hlinked) hout
      · exact absurd ⟨m, hmem, hpkTag.symm⟩ hnoRow
      · exact absurd (haccepts.symm.trans (hrefuses _ rfl)) (by decide)
    · exact hstill

/-- No tag is left under the legacy tag when it goes. -/
lemma grounded (h : call.Clears legacyTag w w') (hmem : legacyTag.idTag ∈ call.legacyIdTags)
    (hclean : call.CleansUp linked w legacyTag.idTag) (hlists : w.tags.Lists call.idTag)
    (hg : w.Grounded known) : w'.Grounded known := by
  intro tag' htag' idTag hparent hknown
  obtain ⟨tag, htag, -, rfl⟩ := (h.mem_tags tag').mp htag'
  split at hparent
  · obtain rfl : call.idTag = idTag := Option.some.inj hparent
    exact h.lists_of_ne hlists fun _ => (ne_idTag hmem).symm
  · next hstays =>
    refine h.lists_of_ne (hg tag htag idTag hparent hknown) ?_
    rintro hdeletes rfl
    rcases hclean h.lists h.listsChildren legacyTag h.listed rfl tag htag hparent with
      ⟨haccepts, -⟩ | ⟨-, hrefuses⟩
    · exact hstays ⟨hparent, haccepts _ rfl⟩
    · rw [hrefuses] at hdeletes
      exact absurd hdeletes (by decide)

/-- The next clean-up is as it should be, if it was before. -/
lemma cleansUp (h : call.Clears legacyTag w w') {legacyIdTag : String}
    (hmem : legacyIdTag ∈ call.legacyIdTags) (hclean : call.CleansUp linked w legacyIdTag) :
    call.CleansUp linked w' legacyIdTag := by
  intro hlists hlistsChildren legacyTag' hlisted' hname child hchild hparent
  obtain ⟨old, hold, hpkOld, hnameOld, -, -⟩ := h.exists_old hlisted'
  obtain ⟨tag, htag, hpk, -, -, hsame | ⟨-, hmeta⟩⟩ := h.exists_old hchild
  · rcases hclean hlists hlistsChildren old hold (hnameOld.symm.trans hname) tag htag
      (hsame.symm.trans hparent) with ⟨haccepts, hrow⟩ | hrefuses
    · rw [hpk]
      refine Or.inl ⟨haccepts, hrow.imp_right ?_⟩
      rintro hnoRow ⟨m', hm', hself⟩
      obtain ⟨m, hm, hpkRow, -, -⟩ := h.exists_row hm'
      exact hnoRow ⟨m, hm, hpkRow.symm.trans hself⟩
    · rw [hpk, hpkOld]
      exact Or.inr hrefuses
  · exact absurd (Option.some.inj (hparent.symm.trans hmeta)) (ne_idTag hmem)

end Clears

/-- The loop over the legacy tags. -/
lemma keeps_cleanUps {legacyIdTags : List String}
    (hlegacy : ∀ legacyIdTag ∈ legacyIdTags, legacyIdTag ∈ call.legacyIdTags)
    (hclean : ∀ legacyIdTag ∈ legacyIdTags, call.CleansUp linked w legacyIdTag)
    (hlists : w.tags.Lists call.idTag) (hm : w.MirrorsBut linked) (hg : w.Grounded known) :
    TagWorld.Keeps call.Moves (· ∈ call.legacyIdTags) linked known w
      (legacyIdTags.foldl (fun w legacyIdTag => w.cleanUpLegacy call legacyIdTag) w) := by
  induction legacyIdTags generalizing w with
  | nil => exact .of_tags (fun _ => .refl) rfl hm hg
  | cons legacyIdTag rest ih =>
      obtain ⟨hmem, hrest⟩ := List.forall_mem_cons.mp hlegacy
      obtain ⟨hfirst, hcleanRest⟩ := List.forall_mem_cons.mp hclean
      rw [List.foldl_cons]
      rcases clears_cleanUpLegacy call w legacyIdTag with hsame | ⟨legacyTag, rfl, hclears⟩
      · rw [hsame]
        exact ih hrest hcleanRest hlists hm hg
      · have hone : TagWorld.Keeps call.Moves (· ∈ call.legacyIdTags) linked known w
            (w.cleanUpLegacy call legacyTag.idTag) :=
          ⟨hclears.follows hmem, hclears.mirrorsBut hfirst hm,
            hclears.grounded hmem hfirst hlists hg⟩
        refine hone.trans (fun _ _ _ => .trans)
          (ih hrest (fun idTag hidTag => ?_) ?_ hone.mirrorsBut hone.grounded)
        · exact hclears.cleansUp (hrest idTag hidTag) (hcleanRest idTag hidTag)
        · exact hclears.lists_of_ne hlists fun _ => (ne_idTag hmem).symm

/-- The parent tag has no place when its row is new. -/
lemma Ensured.place_of_not_hasPk (h : call.Ensured w w') (hnew : call.NewRowMirrors [] w)
    (hlists : call.faults.lists call.idTag = true) {tag : StEvEOcppTag}
    (htag : tag ∈ w'.tags.table.rows) (hname : tag.idTag = call.idTag)
    (hfree : ¬w.mappings.HasPk tag.ocppTagPk) : tag.parentIdTag = none ∧ tag.expiryDate = none := by
  rcases h.follows.origin tag htag with ⟨old, hold, hpk, hnameOld, hsame⟩ | hlate
  · obtain ⟨hparent, hexpiry⟩ := hnew hlists old hold (hnameOld.symm.trans hname) List.not_mem_nil
      (hpk ▸ hfree)
    exact ⟨hsame.1.trans hparent, hsame.2.trans hexpiry⟩
  · exact (h.created tag htag hlate).2

lemma cleansUp_of_ensured {mid : TagWorld} {ocppTagPk : ℕ} {legacyIdTag : String}
    (hensured : call.Ensured w mid) (hadds : mid.AddsRow w' ocppTagPk) (htags : w'.tags = mid.tags)
    (hrows : mid.mappings = w.mappings) (hhas : call.HasTag mid ocppTagPk)
    (hnew : call.NewRowMirrors [] w) (hlists : call.faults.lists call.idTag = true)
    (hmem : legacyIdTag ∈ call.legacyIdTags) (hclean : call.CleansUp linked w legacyIdTag) :
    call.CleansUp linked w' legacyIdTag := by
  intro hlegacy hlegacyChildren legacyTag' hlisted' hname child hchild hparent
  rw [htags] at hlisted' hchild
  rcases hensured.follows.origin legacyTag' hlisted' with ⟨old, hold, hpkOld, hnameOld, -⟩ | hlate
  · rcases hensured.follows.origin child hchild with ⟨tag, htag, hpk, -, hsame⟩ | hlate
    · have hunder : tag.parentIdTag = some legacyIdTag := hsame.1.symm.trans hparent
      rcases hclean hlegacy hlegacyChildren old hold (hnameOld.symm.trans hname) tag htag hunder
        with ⟨haccepts, hrow⟩ | hrefuses
      · rw [hpk]
        refine Or.inl ⟨haccepts, hrow.imp_right ?_⟩
        rintro hnoRow ⟨m', hm', hself⟩
        rcases hadds m' hm' with ⟨m, hm, hpkRow, -⟩ | ⟨hfree, hpkNew, -⟩
        · rw [hrows] at hm
          exact hnoRow ⟨m, hm, hpkRow.symm.trans hself⟩
        · -- the new row is that of the parent tag, which has no parent then
          obtain ⟨metaTag, hmeta, hmetaName, hmetaPk⟩ := hhas
          obtain rfl : child = metaTag := SerialTable.eq_of_key hchild hmeta
            (hpk.trans (hself.symm.trans (hpkNew.trans hmetaPk.symm)))
          have hnone : child.parentIdTag = none := by
            refine (hensured.place_of_not_hasPk hnew hlists hchild hmetaName ?_).1
            rw [← hrows, hmetaPk]
            exact hfree
          rw [hnone] at hparent
          exact absurd hparent (Option.some_ne_none _).symm
      · rw [hpk, hpkOld]
        exact Or.inr hrefuses
    · rw [(hensured.created child hchild hlate).2.1] at hparent
      exact absurd hparent (Option.some_ne_none _).symm
  · have hmeta : legacyTag'.idTag = call.idTag := (hensured.created legacyTag' hlisted' hlate).1
    exact absurd (hname.symm.trans hmeta) (ne_idTag hmem)

/-- A call of `ensureCustomerMetaTag` keeps the mirror, where the row it adds mirrors its tag and
the clean-ups are as they should be. -/
lemma keeps_ensureCustomerMetaTag (hnew : call.NewRowMirrors [] w)
    (hclean : call.FindsTag w.tags → ∀ legacyIdTag ∈ call.legacyIdTags,
      call.CleansUp linked w legacyIdTag)
    (hm : w.MirrorsBut linked) (hg : w.Grounded known) :
    TagWorld.Keeps call.Moves (· ∈ call.legacyIdTags) linked known w
      (w.ensureCustomerMetaTag call).1 := by
  cases hensure : (w.inputs call).ensureTag call.externalId call.displayName with
  | mk requests ocppTagPk =>
      obtain ⟨hensured, hfound⟩ := ensured_ensureTag hensure
      set mid := w.sendAll call.faults requests with hmid
      have hfirst : TagWorld.Keeps call.Moves (· ∈ call.legacyIdTags) linked known w mid := by
        refine ⟨hensured.follows.mono (fun _ _ _ => .of_samePlace) (fun _ => False.elim),
          hensured.follows.mirrorsBut rfl hm,
          hensured.follows.grounded (fun tag htag hlate idTag hparent => ?_) hg⟩
        rw [(hensured.created tag htag hlate).2.1] at hparent
        exact absurd hparent (Option.some_ne_none _).symm
      unfold TagWorld.ensureCustomerMetaTag
      rw [hensure]
      cases ocppTagPk with
      | none => exact hfirst
      | some ocppTagPk =>
          obtain ⟨hfinds, hhas⟩ := hfound ocppTagPk rfl
          obtain ⟨metaTag, hmeta, hmetaName, rfl⟩ := id hhas
          have hlt : metaTag.ocppTagPk < mid.tags.table.next := mid.tags.table.key_lt metaTag hmeta
          set upserted := mid.upsertMetaRow call metaTag.ocppTagPk with hupserted
          have htags : upserted.tags = mid.tags := tags_upsertMetaRow
          have hadds : mid.AddsRow upserted metaTag.ocppTagPk := addsRow_upsertMetaRow hlt
          have hmUpserted : upserted.MirrorsBut linked := by
            refine hadds.mirrorsBut htags (fun hfree => ?_) hfirst.mirrorsBut
            intro tag htag hself
            obtain rfl : tag = metaTag := SerialTable.eq_of_key htag hmeta hself
            exact hensured.place_of_not_hasPk hnew hfinds.1 htag hmetaName hfree
          have hsecond : TagWorld.Keeps call.Moves (· ∈ call.legacyIdTags) linked known w
              upserted :=
            hfirst.trans (fun _ _ _ => .trans)
              (.of_tags (fun _ => .refl) htags hmUpserted hfirst.grounded)
          refine hsecond.trans (fun _ _ _ => .trans)
            (keeps_cleanUps (fun _ hmem => hmem) (fun legacyIdTag hmem => ?_) ?_ hmUpserted
              hsecond.grounded)
          · exact cleansUp_of_ensured hensured hadds htags rfl hhas hnew hfinds.1 hmem
              (hclean hfinds legacyIdTag hmem)
          · rw [htags]
            exact ⟨metaTag, hmeta, hmetaName⟩

lemma keepsRows_ensureCustomerMetaTag : w.KeepsRows (w.ensureCustomerMetaTag call).1 := by
  have hloop : ∀ (legacyIdTags : List String) (v : TagWorld), v.KeepsRows
      (legacyIdTags.foldl (fun w legacyIdTag => w.cleanUpLegacy call legacyIdTag) v) := by
    intro legacyIdTags
    induction legacyIdTags with
    | nil => exact fun _ => .of_mappings rfl
    | cons legacyIdTag rest ih =>
        intro v
        rw [List.foldl_cons]
        rcases clears_cleanUpLegacy call v legacyIdTag with hsame | ⟨legacyTag, rfl, hclears⟩
        · rw [hsame]
          exact ih v
        · exact hclears.keepsRows.trans (ih _)
  cases hensure : (w.inputs call).ensureTag call.externalId call.displayName with
  | mk requests ocppTagPk =>
      obtain ⟨-, hfound⟩ := ensured_ensureTag hensure
      unfold TagWorld.ensureCustomerMetaTag
      rw [hensure]
      cases ocppTagPk with
      | none => exact .of_mappings rfl
      | some ocppTagPk =>
          obtain ⟨-, metaTag, hmeta, -, rfl⟩ := hfound ocppTagPk rfl
          have hlt := SerialTable.key_lt _ metaTag hmeta
          exact (keepsRows_upsertMetaRow hlt).trans (hloop _ _)

end CustomerMetaTagCall

end ExpresSync
