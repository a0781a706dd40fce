import ExpresSync.Model.DeviceTags
import Mathlib.Logic.Relation

/-!
# What the calls for one customer write

A call of `ensureCustomerMetaTag` or `ensureDeviceTag` is a chain of writes, each of one of five
kinds (`BilledCustomer.Writes`).  What holds of the world before and after every write holds before
and after every call.
-/

namespace ExpresSync

namespace BilledCustomer

variable (c : BilledCustomer)

/-- A legacy tag is cleaned up: its children move, its rows are switched off and it goes. -/
structure Cleans (legacyTag : StEvEOcppTag) (w w' : TagWorld) : Prop where
  listed : legacyTag ∈ w.tags.table.rows
  mem_tags : ∀ tag, tag ∈ w'.tags.table.rows ↔ ∃ old ∈ w.tags.table.rows,
    old.ocppTagPk ≠ legacyTag.ocppTagPk ∧
      tag = if old.parentIdTag = some legacyTag.idTag then
        { old with parentIdTag := some c.metaIdTag } else old
  mem_mappings : ∀ m, m ∈ w'.mappings.table.rows ↔ ∃ old ∈ w.mappings.table.rows,
    m = if old.steveOcppIdTag = legacyTag.idTag then { old with isActive := false } else old

/-- Everything that one write can do to the world; `names` are the tags of the customer's
devices. -/
inductive Writes (names : List String) (w w' : TagWorld) : Prop
  /-- The limit of the parent tag is set. -/
  | limited (hmappings : w'.mappings = w.mappings)
      (htags : ∀ tag, tag ∈ w'.tags.table.rows ↔ ∃ old ∈ w.tags.table.rows,
        tag = if old.idTag = c.metaIdTag then { old with maxActiveTransactionCount := some 1 }
          else old)
  /-- A tag is created. -/
  | minted (idTag : String) (note parentIdTag : Option String)
      (hname : idTag = c.metaIdTag ∨ idTag ∈ names) (hfree : ¬w.tags.Lists idTag)
      (hmappings : w'.mappings = w.mappings)
      (htags : ∀ tag, tag ∈ w'.tags.table.rows ↔ tag ∈ w.tags.table.rows ∨
        tag = ⟨idTag, w.tags.table.next, note, parentIdTag, none, some 1, none⟩)
  /-- The row of the parent tag is written. -/
  | metaRow (tag : StEvEOcppTag) (row : UserMapping) (htag : tag ∈ w.tags.table.rows)
      (hname : tag.idTag = c.metaIdTag) (hpk : row.steveOcppTagPk = tag.ocppTagPk)
      (hidTag : row.steveOcppIdTag = c.metaIdTag)
      (hcustomer : row.lagoCustomerExternalId = some c.lagoCustomerExternalId)
      (hactive : row.isActive = true) (htags : w'.tags = w.tags)
      (hmappings : ∀ m, m ∈ w'.mappings.table.rows ↔
        m = row ∨ m ∈ w.mappings.table.rows ∧ m.steveOcppTagPk ≠ tag.ocppTagPk)
  /-- The row of a device's tag is updated. -/
  | deviceRow (tag : StEvEOcppTag) (f : UserMapping → UserMapping) (htag : tag ∈ w.tags.table.rows)
      (hname : tag.idTag ∈ names) (hpk : ∀ m, (f m).steveOcppTagPk = m.steveOcppTagPk)
      (hidTag : ∀ m, (f m).steveOcppIdTag = tag.idTag)
      (hactive : ∀ m, (f m).isActive = decide (0 < tag.maxActiveTransactionCount.getD 0))
      (hcustomer : ∀ m, (f m).lagoCustomerExternalId = m.lagoCustomerExternalId)
      (hsubscription : ∀ m, (f m).lagoSubscriptionExternalId = m.lagoSubscriptionExternalId)
      (htags : w'.tags = w.tags)
      (hmappings : ∀ m, m ∈ w'.mappings.table.rows ↔ ∃ old ∈ w.mappings.table.rows,
        m = if old.steveOcppTagPk = tag.ocppTagPk then f old else old)
  | cleaned (legacyTag : StEvEOcppTag) (hlegacy : legacyTag.idTag ∈ c.legacyIdTags)
      (hcleans : c.Cleans legacyTag w w')

/-- The row of the parent tag is that of the customer, and active. -/
def HasMetaRow (w : TagWorld) : Prop :=
  ∃ tag ∈ w.tags.table.rows, tag.idTag = c.metaIdTag ∧ ∃ m ∈ w.mappings.table.rows,
    m.steveOcppTagPk = tag.ocppTagPk ∧ m.steveOcppIdTag = c.metaIdTag ∧
      m.lagoCustomerExternalId = some c.lagoCustomerExternalId ∧ m.isActive = true

/-- No tag has a name of an earlier scheme. -/
def NoLegacy (w : TagWorld) : Prop := ∀ idTag ∈ c.legacyIdTags, ¬w.tags.Lists idTag

/-- A chain of writes. -/
abbrev WritesAll (names : List String) : TagWorld → TagWorld → Prop :=
  Relation.ReflTransGen (c.Writes names)

/-! ## Names -/

lemma metaIdTag_ne_deviceIdTag (deviceId : String) : c.metaIdTag ≠ c.deviceIdTag deviceId := by
  intro h
  have hlist := congrArg String.toList h
  simp [metaIdTag, parentIdTagForUserPublicId, deviceIdTag, deviceIdTagFor] at hlist

lemma metaIdTag_not_mem_legacyIdTags : c.metaIdTag ∉ c.legacyIdTags := by
  intro h
  have hlist : c.metaIdTag.toList ∈ c.legacyIdTags.map String.toList := List.mem_map_of_mem h
  simp [metaIdTag, parentIdTagForUserPublicId, legacyIdTags, parentIdTagFor,
    legacyOcppParentIdTagForUserPublicId] at hlist

/-! ## `ensureCustomerMetaTag` -/

section MetaTag

variable {c} {w : TagWorld} {displayName : Option String} {subscriptions : ActiveSubscriptions}
  {names : List String}

lemma isActive_metaTagCall :
    (w.inputs (c.metaTagCall displayName subscriptions)).isActive = true := by
  by_contra hinactive
  rw [Bool.not_eq_true] at hinactive
  obtain ⟨s, hs, hactive⟩ := subscriptions.2
  exact MetaTagInputs.isActive_eq_false.mp hinactive _ rfl s hs hactive

lemma limit_metaTagCall :
    (w.inputs (c.metaTagCall displayName subscriptions)).maxActiveTransactionCount = 1 := by
  rw [MetaTagInputs.maxActiveTransactionCount, isActive_metaTagCall]
  rfl

variable (names) in
/-- The parent tag is listed afterwards, under the number that is returned. -/
lemma exists_ensureTag {requests : List SteveRequest} {ocppTagPk : Option ℕ}
    (h : (w.inputs (c.metaTagCall displayName subscriptions)).ensureTag c.lagoCustomerExternalId
      displayName = (requests, ocppTagPk)) :
    ∃ tag ∈ (w.sendAll .none requests).tags.table.rows, tag.idTag = c.metaIdTag ∧
      ocppTagPk = some tag.ocppTagPk ∧ c.WritesAll names w (w.sendAll .none requests) := by
  have hid : (w.inputs (c.metaTagCall displayName subscriptions)).idTag c.lagoCustomerExternalId =
      c.metaIdTag := rfl
  have hanswer : (w.inputs (c.metaTagCall displayName subscriptions)).getOcppTags c.metaIdTag =
      .ok (w.tags.table.rows.filter fun tag => decide (tag.idTag = c.metaIdTag)) := rfl
  unfold MetaTagInputs.ensureTag at h
  rw [hid, hanswer, limit_metaTagCall] at h
  rcases w.tags.filter_idTag c.metaIdTag with ⟨hfree, hfilter⟩ | ⟨tag, hmem, hname, rest, hfilter⟩
  · rw [hfilter] at h
    obtain ⟨rfl, rfl⟩ := Prod.mk.inj h
    have htags := SteveTags.mem_createOcppTag hfree
      (some (if truthy displayName = true then
        "ExpressCharge customer parent — " ++ displayName.getD ""
        else "ExpressCharge customer parent")) none 1
    exact ⟨_, (htags _).mpr (Or.inr rfl), rfl, rfl,
      .single (.minted c.metaIdTag _ none (Or.inl rfl) hfree rfl htags)⟩
  · rw [hfilter] at h
    obtain ⟨rfl, rfl⟩ := Prod.mk.inj h
    by_cases hlimit : tag.maxActiveTransactionCount = some 1
    · rw [if_neg (by simp [hlimit])]
      exact ⟨tag, hmem, hname, rfl, .refl⟩
    · rw [if_pos hlimit]
      have htags : ∀ row, row ∈ (w.tags.updateOcppTag
          { tag with maxActiveTransactionCount := some 1 }).table.rows ↔
            ∃ old ∈ w.tags.table.rows, row = if old.idTag = c.metaIdTag then
              { old with maxActiveTransactionCount := some 1 } else old := by
        intro row
        rw [SteveTags.mem_updateOcppTag]
        refine exists_congr fun old => and_congr_right fun hold => ?_
        by_cases hself : old = tag
        · subst hself
          simp [hname, SteveTags.replaceColumns]
        · have hpk : old.ocppTagPk ≠ tag.ocppTagPk :=
            fun heq => hself (SerialTable.eq_of_key hold hmem heq)
          have hother : old.idTag ≠ c.metaIdTag :=
            fun heq => hself (SteveTags.eq_of_idTag hold hmem (heq.trans hname.symm))
          simp [hpk, hother]
      exact ⟨{ tag with maxActiveTransactionCount := some 1 },
        (htags _).mpr ⟨tag, hmem, (if_pos hname).symm⟩, hname, rfl,
        .single (.limited rfl htags)⟩

lemma writes_metaRow {w' : TagWorld} {tag : StEvEOcppTag} (row : UserMapping)
    (htag : tag ∈ w.tags.table.rows) (hname : tag.idTag = c.metaIdTag)
    (hpk : row.steveOcppTagPk = tag.ocppTagPk) (hidTag : row.steveOcppIdTag = c.metaIdTag)
    (hcustomer : row.lagoCustomerExternalId = some c.lagoCustomerExternalId)
    (hactive : row.isActive = true) (htags : w'.tags = w.tags)
    (hmappings : ∀ m, m ∈ w'.mappings.table.rows ↔
      m = row ∨ m ∈ w.mappings.table.rows ∧ m.steveOcppTagPk ≠ tag.ocppTagPk) :
    c.Writes names w w' ∧ c.HasMetaRow w' := by
  refine ⟨.metaRow tag row htag hname hpk hidTag hcustomer hactive htags hmappings, tag, ?_, hname,
    row, (hmappings row).mpr (Or.inl rfl), hpk, hidTag, hcustomer, hactive⟩
  rw [htags]
  exact htag

variable (displayName subscriptions names) in
lemma writes_upsertMetaRow {tag : StEvEOcppTag} (htag : tag ∈ w.tags.table.rows)
    (hname : tag.idTag = c.metaIdTag) :
    c.Writes names w
        (w.upsertMetaRow (c.metaTagCall displayName subscriptions) tag.ocppTagPk) ∧
      c.HasMetaRow (w.upsertMetaRow (c.metaTagCall displayName subscriptions) tag.ocppTagPk) := by
  unfold TagWorld.upsertMetaRow
  split
  · next hrow =>
    obtain ⟨old, hold, hpk⟩ := hrow
    refine writes_metaRow ((w.inputs (c.metaTagCall displayName subscriptions)).updateRow
      c.lagoCustomerExternalId displayName old) htag hname hpk rfl rfl isActive_metaTagCall rfl ?_
    intro m
    show m ∈ SerialTable.rewrite _ _ w.mappings.table.rows ↔ _
    rw [SerialTable.mem_rewrite]
    constructor
    · rintro ⟨m, hm, rfl⟩
      by_cases hself : m.steveOcppTagPk = tag.ocppTagPk
      · obtain rfl := UserMappingTable.eq_of_pk hm hold (hself.trans hpk.symm)
        exact Or.inl (if_pos (by simpa using hpk))
      · rw [if_neg (by simpa using hself)]
        exact Or.inr ⟨hm, hself⟩
    · rintro (rfl | ⟨hm, hother⟩)
      · exact ⟨old, hold, (if_pos (by simpa using hpk)).symm⟩
      · exact ⟨m, hm, (if_neg (by simpa using hother)).symm⟩
  · next hfree =>
    have hlt : tag.ocppTagPk < w.tags.table.next := w.tags.table.key_lt tag htag
    refine writes_metaRow { (w.inputs (c.metaTagCall displayName subscriptions)).newRow
      c.lagoCustomerExternalId displayName tag.ocppTagPk with id := w.mappings.table.next } htag
      hname rfl rfl rfl isActive_metaTagCall TagWorld.tags_insertMapping ?_
    intro m
    refine (TagWorld.mem_insertMapping hfree hlt).trans ?_
    constructor
    · rintro (hm | rfl)
      · exact Or.inr ⟨hm, fun hpk => hfree ⟨m, hm, hpk⟩⟩
      · exact Or.inl rfl
    · rintro (rfl | ⟨hm, -⟩)
      · exact Or.inr rfl
      · exact Or.inl hm

/-- A legacy tag is cleaned up when it is listed. -/
lemma cleans_cleanUpLegacy (displayName : Option String) (subscriptions : ActiveSubscriptions)
    (w : TagWorld) (legacyIdTag : String) :
    (¬w.tags.Lists legacyIdTag ∧
        w.cleanUpLegacy (c.metaTagCall displayName subscriptions) legacyIdTag = w) ∨
      ∃ legacyTag, legacyTag.idTag = legacyIdTag ∧
        c.Cleans legacyTag w
          (w.cleanUpLegacy (c.metaTagCall displayName subscriptions) legacyIdTag) := by
  have hanswer : (w.inputs (c.metaTagCall displayName subscriptions)).getOcppTags legacyIdTag =
      .ok (w.tags.table.rows.filter fun tag => decide (tag.idTag = legacyIdTag)) := rfl
  have hchildren : (w.inputs (c.metaTagCall displayName subscriptions)).getChildren legacyIdTag =
      .ok (w.tags.table.rows.filter fun tag => decide (tag.parentIdTag = some legacyIdTag)) := rfl
  unfold TagWorld.cleanUpLegacy
  rw [hanswer, hchildren]
  rcases w.tags.filter_idTag legacyIdTag with
    ⟨hunlisted, hfilter⟩ | ⟨legacyTag, hlisted, rfl, rest, hfilter⟩
  · rw [hfilter]
    exact Or.inl ⟨hunlisted, rfl⟩
  · right
    rw [hfilter]
    dsimp only
    set moved := w.tags.sendAll .none
      ((w.tags.table.rows.filter fun tag => decide (tag.parentIdTag = some legacyTag.idTag)).map
        fun child => .update { child with parentIdTag := some c.metaIdTag }) with hmoved
    have hmove : ∀ tag, tag ∈ moved.table.rows ↔ ∃ old ∈ w.tags.table.rows,
        tag = if old.parentIdTag = some legacyTag.idTag then
          { old with parentIdTag := some c.metaIdTag } else old := by
      intro tag
      rw [hmoved, SteveTags.mem_sendAll_updates
        (f := fun child => { child with parentIdTag := some c.metaIdTag })
        (fun _ => rfl) (fun _ => rfl) (fun child hchild => List.mem_of_mem_filter hchild)
        (w.tags.table.nodup.sublist (List.filter_sublist.map _))]
      refine exists_congr fun old => and_congr_right fun hold => ?_
      simp [SteveFaults.none, hold]
    have htags : ∀ tag, tag ∈ (moved.deleteOcppTag legacyTag.ocppTagPk).table.rows ↔
        ∃ old ∈ w.tags.table.rows, old.ocppTagPk ≠ legacyTag.ocppTagPk ∧
          tag = if old.parentIdTag = some legacyTag.idTag then
            { old with parentIdTag := some c.metaIdTag } else old := by
      intro tag
      rw [SteveTags.mem_deleteOcppTag, hmove]
      constructor
      · rintro ⟨⟨old, hold, rfl⟩, hpk⟩
        refine ⟨old, hold, ?_, rfl⟩
        intro heq
        refine hpk ?_
        split <;> exact heq
      · rintro ⟨old, hold, hpk, rfl⟩
        refine ⟨⟨old, hold, rfl⟩, ?_⟩
        split <;> exact hpk
    refine ⟨legacyTag, rfl, hlisted, htags, fun m => ?_⟩
    show m ∈ SerialTable.rewrite _ _ w.mappings.table.rows ↔ _
    simp only [SerialTable.mem_rewrite, decide_eq_true_eq]

/-- The legacy tag is gone, and no tag has been added. -/
lemma Cleans.lists {legacyTag : StEvEOcppTag} {w' : TagWorld} (h : c.Cleans legacyTag w w')
    {idTag : String} : w'.tags.Lists idTag ↔ w.tags.Lists idTag ∧ idTag ≠ legacyTag.idTag := by
  have hname : ∀ old : StEvEOcppTag, (if old.parentIdTag = some legacyTag.idTag then
      { old with parentIdTag := some c.metaIdTag } else old).idTag = old.idTag := by
    intro old
    split <;> rfl
  constructor
  · rintro ⟨tag, htag, rfl⟩
    obtain ⟨old, hold, hpk, rfl⟩ := (h.mem_tags tag).mp htag
    rw [hname]
    exact ⟨⟨old, hold, rfl⟩,
      fun heq => hpk (congrArg _ (SteveTags.eq_of_idTag hold h.listed heq))⟩
  · rintro ⟨⟨old, hold, rfl⟩, hne⟩
    exact ⟨_, (h.mem_tags _).mpr ⟨old, hold, fun hpk =>
      hne (congrArg _ (SerialTable.eq_of_key hold h.listed hpk)), rfl⟩, hname old⟩

lemma legacyIdTags_inputs :
    (w.inputs (c.metaTagCall displayName subscriptions)).legacyIdTags c.lagoCustomerExternalId =
      c.legacyIdTags := by
  have hself : c.metaIdTag ∉ c.legacyIdTags := c.metaIdTag_not_mem_legacyIdTags
  show c.legacyIdTags.filter (fun idTag => decide (idTag ≠ c.metaIdTag)) = c.legacyIdTags
  refine List.filter_eq_self.mpr fun idTag hmem => ?_
  rw [decide_eq_true_eq]
  rintro rfl
  exact hself hmem

variable (displayName subscriptions names) in
/-- The loop over the legacy tags is a chain of clean-ups, and none of them is left. -/
lemma cleanUps {legacyIdTags : List String}
    (hlegacy : ∀ idTag ∈ legacyIdTags, idTag ∈ c.legacyIdTags) :
    let w' := legacyIdTags.foldl
      (fun w legacyIdTag => w.cleanUpLegacy (c.metaTagCall displayName subscriptions) legacyIdTag) w
    c.WritesAll names w w' ∧
      (∀ idTag, w'.tags.Lists idTag → w.tags.Lists idTag ∧ idTag ∉ legacyIdTags) := by
  induction legacyIdTags generalizing w with
  | nil => exact ⟨.refl, fun idTag h => ⟨h, List.not_mem_nil⟩⟩
  | cons legacyIdTag rest ih =>
      obtain ⟨hself, hrest⟩ := List.forall_mem_cons.mp hlegacy
      obtain ⟨hchain, hlists⟩ := ih
        (w := w.cleanUpLegacy (c.metaTagCall displayName subscriptions) legacyIdTag) hrest
      dsimp only
      rw [List.foldl_cons]
      rcases cleans_cleanUpLegacy (c := c) displayName subscriptions w legacyIdTag with
        ⟨hunlisted, heq⟩ | ⟨legacyTag, rfl, hcleans⟩
      · rw [heq] at hchain hlists ⊢
        refine ⟨hchain, fun idTag hlisted => ?_⟩
        obtain ⟨hbefore, hout⟩ := hlists idTag hlisted
        have hne : idTag ≠ legacyIdTag := fun h => hunlisted (h ▸ hbefore)
        exact ⟨hbefore, by simp [hne, hout]⟩
      · refine ⟨.head (.cleaned legacyTag hself hcleans) hchain, fun idTag hlisted => ?_⟩
        obtain ⟨hbefore, hout⟩ := hlists idTag hlisted
        obtain ⟨hfirst, hne⟩ := hcleans.lists.mp hbefore
        exact ⟨hfirst, by simp [hne, hout]⟩

variable (displayName subscriptions names) in
/-- A call of `ensureCustomerMetaTag`: first the tag and its row, then the clean-ups. -/
lemma writesAll_ensureCustomerMetaTag :
    ∃ mid, c.WritesAll names w mid ∧ c.HasMetaRow mid ∧
      c.WritesAll names mid (c.step w (.ensuresMetaTag displayName subscriptions)) ∧
      c.NoLegacy (c.step w (.ensuresMetaTag displayName subscriptions)) := by
  cases hensure : (w.inputs (c.metaTagCall displayName subscriptions)).ensureTag
    c.lagoCustomerExternalId displayName with
  | mk requests ocppTagPk =>
      obtain ⟨tag, htag, hname, rfl, hchain⟩ := exists_ensureTag names hensure
      have hstep : c.step w (.ensuresMetaTag displayName subscriptions) =
          c.legacyIdTags.foldl
            (fun w legacyIdTag =>
              w.cleanUpLegacy (c.metaTagCall displayName subscriptions) legacyIdTag)
            ((w.sendAll .none requests).upsertMetaRow (c.metaTagCall displayName subscriptions)
              tag.ocppTagPk) := by
        show (w.ensureCustomerMetaTag (c.metaTagCall displayName subscriptions)).1 = _
        have hcall : (w.inputs (c.metaTagCall displayName subscriptions)).ensureTag
            (c.metaTagCall displayName subscriptions).externalId
            (c.metaTagCall displayName subscriptions).displayName =
              (requests, some tag.ocppTagPk) := hensure
        have hlegacy : (w.inputs (c.metaTagCall displayName subscriptions)).legacyIdTags
            (c.metaTagCall displayName subscriptions).externalId = c.legacyIdTags :=
          legacyIdTags_inputs
        unfold TagWorld.ensureCustomerMetaTag
        rw [hcall, hlegacy]
        rfl
      obtain ⟨hrow, hhas⟩ := writes_upsertMetaRow displayName subscriptions names htag hname
      obtain ⟨hcleans, hlists⟩ := cleanUps displayName subscriptions names
        (w := (w.sendAll .none requests).upsertMetaRow (c.metaTagCall displayName subscriptions)
          tag.ocppTagPk) (fun _ h => h)
      rw [hstep]
      exact ⟨_, hchain.tail hrow, hhas, hcleans,
        fun idTag hmem hlisted => (hlists idTag hlisted).2 hmem⟩

end MetaTag

/-! ## `ensureDeviceTag` -/

section DeviceTag

variable {c} {w : TagWorld} {deviceId : String} {displayName : Option String}
  {admitsMissingParent : Bool} {names : List String}

/-- The row of a tag, if it has one, carries its name, and is active as the tag is. -/
def NamesRow (w : TagWorld) (idTag : String) : Prop :=
  ∀ tag ∈ w.tags.table.rows, tag.idTag = idTag → ∀ m ∈ w.mappings.table.rows,
    m.steveOcppTagPk = tag.ocppTagPk → m.steveOcppIdTag = idTag ∧
      m.isActive = decide (0 < tag.maxActiveTransactionCount.getD 0)

lemma writesAll_ensureDeviceTag (hname : c.deviceIdTag deviceId ∈ names) :
    c.WritesAll names w (c.step w (.ensuresDeviceTag deviceId displayName admitsMissingParent)) ∧
      NamesRow (c.step w (.ensuresDeviceTag deviceId displayName admitsMissingParent))
        (c.deviceIdTag deviceId) := by
  set call := c.deviceTagCall w.tags deviceId displayName admitsMissingParent with hcall
  have hstep : c.step w (.ensuresDeviceTag deviceId displayName admitsMissingParent) =
      w.ensureDeviceTag call := rfl
  rw [hstep]
  have houtcome := w.ensureDeviceTag_outcome call
  generalize w.ensureDeviceTag call = w', w.ensureDeviceTagResult call = result at houtcome ⊢
  cases houtcome with
  | keeps isActive hfree =>
      have hunlisted : ¬w.tags.Lists call.idTag := hfree _ ⟨rfl, rfl, rfl⟩
      exact ⟨.refl, fun tag htag hself => absurd ⟨tag, htag, hself⟩ hunlisted⟩
  | creates user hreaches hfree hcreates htags hmappings =>
      have hrows : ∀ row, row ∈ w'.tags.table.rows ↔ row ∈ w.tags.table.rows ∨
          row = ⟨call.idTag, w.tags.table.next, some call.note, user.parentIdTag, none, some 1,
            none⟩ := by
        rw [htags]
        exact SteveTags.mem_createOcppTag hfree (some call.note) user.parentIdTag 1
      refine ⟨.single (.minted _ _ _ (Or.inr hname) hfree hmappings hrows), ?_⟩
      intro tag htag hself m hm hpk
      rw [hmappings] at hm
      rcases (hrows tag).mp htag with hold | rfl
      · exact absurd ⟨tag, hold, hself⟩ hfree
      · exact absurd ⟨m, hm, hpk⟩ TagWorld.not_hasPk_next
  | finds user hreaches tag hmem hself =>
      obtain rfl : user = { isCustomer := true
                            lagoCustomerExternalId := some c.lagoCustomerExternalId } :=
        (Option.some.inj hreaches.owned).symm
      have honly : ∀ other ∈ w.tags.table.rows, other.idTag = c.deviceIdTag deviceId →
          other = tag :=
        fun other hother hother' => SteveTags.eq_of_idTag hother hmem (hother'.trans hself.symm)
      refine ⟨.single (.deviceRow tag
        (call.updateRow _ (decide (0 < tag.maxActiveTransactionCount.getD 0))) hmem
        (hself ▸ hname) (fun _ => rfl) (fun _ => hself.symm) (fun _ => rfl) (fun _ => rfl)
        (fun _ => rfl) TagWorld.tags_upsertDeviceRow fun _ => TagWorld.mem_upsertDeviceRow), ?_⟩
      intro other hother hname' m hm hpk
      rw [TagWorld.tags_upsertDeviceRow] at hother
      obtain rfl := honly other hother hname'
      obtain ⟨old, hold, rfl⟩ := TagWorld.mem_upsertDeviceRow.mp hm
      split at hpk
      · next hsame =>
        rw [if_pos hsame]
        exact ⟨rfl, rfl⟩
      · next hdifferent => exact absurd hpk hdifferent

end DeviceTag

end BilledCustomer

end ExpresSync
