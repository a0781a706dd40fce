import ExpresSync.Properties.ParentTagPlaces

/-!
# The places of tags in the other steps

`PUT`, `DELETE` and a push alone leave every tag in place, as long as the mirror is as it should
be.  `ensureDeviceTag` moves no tag, but may write a parent into a row.  `POST` moves the tag that
is linked.
-/

namespace ExpresSync

namespace TagWorld

variable {w w' : TagWorld} {known : String → Prop} {m : UserMapping}

/-! ## `PUT`, `DELETE` and `syncSingleTagToSteve` -/

lemma mirror_rowOf (links : TagLinkTable) (m : UserMapping) :
    (rowOf links m).steveParentIdTag = m.steveParentIdTag ∧
      (rowOf links m).steveExpiryDate = m.steveExpiryDate := by
  unfold rowOf
  split <;> exact ⟨rfl, rfl⟩

lemma keeps_withLinks (links : TagLinkTable) (hm : w.MirrorsBut []) (hg : w.Grounded known) :
    Keeps StEvEOcppTag.SamePlace (fun _ => False) [] known w (w.withLinks links) := by
  have htags : (w.withLinks links).tags = w.tags := rfl
  refine .of_tags (fun _ => .refl) htags (mirrorsBut_of_hasRowLike htags (fun m hmem => ?_) hm) hg
  have hupdated : m ∈ (w.updateMappings (fun _ => true) (rowOf links) (id_rowOf links)
      (pk_rowOf links)).mappings.table.rows := hmem
  exact hasRowLike_of_mem_updateMappings (fun m => (mirror_rowOf links m).1)
    (fun m => (mirror_rowOf links m).2) hupdated

lemma mem_of_get? {id : ℕ} (h : m ∈ (w.mappings.table.get? id).toList) :
    m ∈ w.mappings.table.rows :=
  (SerialTable.get?_eq_some.mp (Option.mem_toList.mp h)).1

lemma mem_of_rowsOfPks {ocppTagPks : List ℕ} (h : m ∈ w.rowsOfPks ocppTagPks) :
    m ∈ w.mappings.table.rows := by
  obtain ⟨ocppTagPk, -, hfound⟩ := List.mem_filterMap.mp h
  exact List.mem_of_find?_eq_some hfound

lemma keeps_putLink (env : PushEnv) (request : LinkRequest) (hm : w.MirrorsBut [])
    (hg : w.Grounded known) :
    Keeps StEvEOcppTag.SamePlace (fun _ => False) [] known w (w.putLink env request) := by
  unfold putLink
  split
  · exact .of_tags (fun _ => .refl) rfl hm hg
  · next links mapping _ =>
    have hlinks := keeps_withLinks links hm hg
    refine hlinks.trans (fun _ _ _ => .trans)
      (keeps_push_rows _ _ (fun m hmem => ?_) hlinks.mirrorsBut hlinks.grounded)
    rcases List.mem_append.mp hmem with hself | hchild
    · obtain ⟨row, hrow, rfl⟩ := List.mem_map.mp hself
      exact ⟨row, mem_of_get? hrow, rfl, rfl, rfl⟩
    · exact hasRowLike_self (mem_of_rowsOfPks hchild)

lemma keeps_deleteLink (env : PushEnv) (id : Option String) (hm : w.MirrorsBut [])
    (hg : w.Grounded known) :
    Keeps StEvEOcppTag.SamePlace (fun _ => False) [] known w (w.deleteLink env id) := by
  unfold deleteLink
  split
  · exact .of_tags (fun _ => .refl) rfl hm hg
  · next currentMapping _ =>
    have hlinks := keeps_withLinks (w.links.softDeactivate currentMapping
      (descendantPks currentMapping (env.linkEnv w.tags).getOcppTags)) hm hg
    refine hlinks.trans (fun _ _ _ => .trans)
      (keeps_push_rows _ _ (fun m hmem => ?_) hlinks.mirrorsBut hlinks.grounded)
    rcases List.mem_append.mp hmem with hself | hchild
    · exact hasRowLike_self (mem_of_get? hself)
    · exact hasRowLike_self (mem_of_rowsOfPks hchild)

lemma keeps_sync (faults : SteveFaults) (timestamp : ℕ → String) (id : ℕ) (switchOff : Bool)
    (hm : w.MirrorsBut []) (hg : w.Grounded known) :
    Keeps StEvEOcppTag.SamePlace (fun _ => False) [] known w
      (w.push faults timestamp ((w.mappings.table.get? id).toList.map fun mapping =>
        if switchOff then { mapping with isActive := false } else mapping)) := by
  refine keeps_push_rows _ _ (fun m hmem => ?_) hm hg
  obtain ⟨mapping, hmapping, rfl⟩ := List.mem_map.mp hmem
  refine ⟨mapping, mem_of_get? hmapping, ?_⟩
  split <;> exact ⟨rfl, rfl, rfl⟩

end TagWorld

/-! ## `ensureDeviceTag` -/

namespace DeviceTagCall

variable {call : DeviceTagCall} {w w' : TagWorld} {known : String → Prop}

/-- No mirror gets out of step in the call: the parent that is written into the row of the tag is
the one it has. -/
def KeepsMirror (call : DeviceTagCall) (w : TagWorld) : Prop :=
  ∀ user ∈ call.user, user.isCustomer = true → call.faults.lists call.idTag = true →
    ∀ tag ∈ w.tags.table.rows, tag.idTag = call.idTag → w.mappings.HasPk tag.ocppTagPk →
      tag.parentIdTag = user.parentIdTag

/-- The tag is created under a parent that is listed, if its name is in `known`. -/
def Grounds (call : DeviceTagCall) (known : String → Prop) (w : TagWorld) : Prop :=
  ∀ user ∈ call.user, user.isCustomer = true → call.faults.lists call.idTag = true →
    ¬w.tags.Lists call.idTag → call.faults.creates = true →
      ∀ idTag ∈ user.parentIdTag, known idTag → w.tags.Lists idTag

lemma keeps_upsertDeviceRow {user : DeviceTagUser} {isActive : Bool} {ocppTagPk : ℕ}
    (hplace : ∀ tag ∈ w.tags.table.rows, tag.ocppTagPk = ocppTagPk →
      w.mappings.HasPk ocppTagPk → tag.parentIdTag = user.parentIdTag)
    (hm : w.MirrorsBut []) (hg : w.Grounded known) :
    TagWorld.Keeps StEvEOcppTag.SamePlace (fun _ => False) [] known w
      (w.upsertDeviceRow call user isActive ocppTagPk) := by
  refine .of_tags (fun _ => .refl) TagWorld.tags_upsertDeviceRow (fun m hmem => ?_) hg
  obtain ⟨old, hold, rfl⟩ := TagWorld.mem_upsertDeviceRow.mp hmem
  obtain ⟨hexpiry, hparent⟩ := hm old hold
  rw [TagWorld.tags_upsertDeviceRow]
  split
  · next hself =>
    refine ⟨hexpiry, fun _ tag htag hpk => (hplace tag htag ?_ ⟨old, hold, hself⟩).symm⟩
    exact Eq.trans (b := old.steveOcppTagPk) hpk hself
  · exact ⟨hexpiry, hparent⟩

/-- A tag that is created with a listed parent. -/
lemma keeps_create {idTag : String} {note parentIdTag : Option String} {limit : ℤ}
    (hfree : ¬w.tags.Lists idTag)
    (htags : w'.tags = w.tags.createOcppTag idTag note parentIdTag limit)
    (hrows : w'.mappings = w.mappings)
    (hparent : ∀ parent ∈ parentIdTag, known parent → w.tags.Lists parent)
    (hm : w.MirrorsBut []) (hg : w.Grounded known) :
    TagWorld.Keeps StEvEOcppTag.SamePlace (fun _ => False) [] known w w' := by
  have hfollows := TagWorld.follows_create hfree htags
  refine ⟨hfollows, hfollows.mirrorsBut hrows hm, hfollows.grounded ?_ hg⟩
  intro tag htag hlate parent hself hknown
  rw [htags] at htag
  obtain rfl := TagWorld.eq_of_next_le hfree htag hlate
  exact hfollows.lists parent (hparent parent hself hknown) not_false

/-- A call of `ensureDeviceTag` keeps the mirror on the two conditions. -/
lemma keeps_ensureDeviceTag (hkeeps : call.KeepsMirror w) (hgrounds : call.Grounds known w)
    (hm : w.MirrorsBut []) (hg : w.Grounded known) :
    TagWorld.Keeps StEvEOcppTag.SamePlace (fun _ => False) [] known w (w.ensureDeviceTag call) := by
  have houtcome := w.ensureDeviceTag_outcome call
  generalize w.ensureDeviceTag call = w', w.ensureDeviceTagResult call = result at houtcome ⊢
  cases houtcome with
  | keeps isActive hfree => exact .of_tags (fun _ => .refl) rfl hm hg
  | creates user hreaches hfree hcreates htags hmappings =>
      exact keeps_create hfree htags hmappings
        (hgrounds user hreaches.owned hreaches.isCustomer hreaches.lists hfree hcreates) hm hg
  | finds user hreaches tag htag hname =>
      refine keeps_upsertDeviceRow (fun other hother hpk hrow => ?_) hm hg
      obtain rfl : other = tag := SerialTable.eq_of_key hother htag hpk
      exact hkeeps user hreaches.owned hreaches.isCustomer hreaches.lists other hother hname hrow

end DeviceTagCall

/-! ## `POST` -/

namespace TagWorld

variable {w found linked : TagWorld} {env : LinkPostEnv} {request : LinkPost}
  {known : String → Prop} {effectiveTagPk : ℕ}

/-- The descendants are listed. -/
lemma mem_of_mem_getAllChildTags {root : String} {allTags : List StEvEOcppTag} {tag : StEvEOcppTag}
    (h : tag ∈ getAllChildTags root allTags) : tag ∈ allTags := by
  have hnodes : ∀ parent, ∀ e ∈ allTags.filter fun tag => decide (tag.parentIdTag = some parent),
      e.idTag ∈ allTags.map StEvEOcppTag.idTag :=
    fun _ e he => List.mem_map_of_mem (List.mem_of_mem_filter he)
  have hfuel : (allTags.map StEvEOcppTag.idTag).length < allTags.length + 1 := by
    rw [List.length_map]
    exact Nat.lt_succ_self _
  rcases (DepthFirst.adds_visitRoot hnodes hfuel).below tag h with hnil | ⟨-, parent, hkid⟩
  · exact absurd hnil List.not_mem_nil
  · exact List.mem_of_mem_filter hkid

/-- The world in which the linked tag is listed. -/
structure Found (w : TagWorld) (request : LinkPost) (effectiveTagPk : ℕ) (found : TagWorld) :
    Prop where
  follows : Follows StEvEOcppTag.SamePlace (fun _ => False) w found
  mappings : found.mappings = w.mappings
  lt : effectiveTagPk < found.tags.table.next
  place : ∀ tag ∈ found.tags.table.rows, tag.ocppTagPk = effectiveTagPk →
    let ourSteveRow := w.tags.table.rows.find? fun t => decide (t.ocppTagPk = effectiveTagPk)
    tag.parentIdTag = ourSteveRow.bind StEvEOcppTag.parentIdTag ∧
      tag.expiryDate = ourSteveRow.bind StEvEOcppTag.expiryDate
  created : ∀ tag ∈ found.tags.table.rows, w.tags.table.next ≤ tag.ocppTagPk →
    tag.ocppTagPk = effectiveTagPk ∧ tag.idTag = request.ocppTagId ∧ tag.parentIdTag = none

lemma found_effectiveTag (h : w.effectiveTag env request = some (found, effectiveTagPk)) :
    Found w request effectiveTagPk found := by
  unfold effectiveTag at h
  split at h
  · next steveTag hfind =>
    obtain ⟨rfl, rfl⟩ := Prod.mk.inj (Option.some.inj h)
    have hlisted : steveTag ∈ w.tags.table.rows := by
      rcases Option.or_eq_some_iff.mp hfind with hpk | ⟨-, hname⟩
      · exact List.mem_of_find?_eq_some hpk
      · exact List.mem_of_find?_eq_some hname
    refine ⟨.of_tags (fun _ => .refl) rfl, rfl, w.tags.table.key_lt _ hlisted,
      fun tag htag hself => ?_, fun tag htag hlate => ?_⟩
    · have hget : w.tags.table.rows.find? (fun t => decide (t.ocppTagPk = steveTag.ocppTagPk)) =
          some tag := SerialTable.get?_eq_some.mpr ⟨htag, hself⟩
      dsimp only
      rw [hget]
      exact ⟨rfl, rfl⟩
    · exact absurd (w.tags.table.key_lt tag htag) (Nat.not_lt_of_le hlate)
  · next hfind =>
    split_ifs at h with hcreates
    obtain ⟨rfl, rfl⟩ := Prod.mk.inj (Option.some.inj h)
    have hfree : ¬w.tags.Lists request.ocppTagId := by
      rintro ⟨tag, htag, hname⟩
      have hnone := (Option.or_eq_none_iff.mp hfind).2
      exact absurd (decide_eq_true hname) (List.find?_eq_none.mp hnone tag htag)
    have htags : (w.createTag request.ocppTagId).tags =
        w.tags.createOcppTag request.ocppTagId none none 1 := rfl
    refine ⟨follows_create hfree htags, rfl, ?_, fun tag htag hself => ?_, fun tag htag hlate => ?_⟩
    · rw [htags, SteveTags.createOcppTag, dif_neg hfree]
      exact Nat.lt_succ_self _
    · rw [htags] at htag
      obtain rfl := eq_of_next_le hfree htag hself.symm.le
      have hnone : w.tags.table.rows.find? (fun t => decide (t.ocppTagPk = w.tags.table.next)) =
          none := by
        refine List.find?_eq_none.mpr fun t ht hpk => ?_
        exact absurd (of_decide_eq_true hpk) (Nat.ne_of_lt (w.tags.table.key_lt t ht))
      dsimp only
      rw [hnone]
      exact ⟨rfl, rfl⟩
    · rw [htags] at htag
      obtain rfl := eq_of_next_le hfree htag hlate
      exact ⟨rfl, rfl, rfl⟩

lemma Found.keeps (h : Found w request effectiveTagPk found) (hm : w.MirrorsBut [])
    (hg : w.Grounded known) :
    Keeps StEvEOcppTag.SamePlace (fun _ => False) [] known w found := by
  refine ⟨h.follows, h.follows.mirrorsBut h.mappings hm, h.follows.grounded ?_ hg⟩
  intro tag htag hlate idTag hparent
  rw [(h.created tag htag hlate).2.2] at hparent
  exact absurd hparent (Option.some_ne_none _).symm

/-- What the inserts of a transaction do. -/
lemma inserted_insertRows {env : PushEnv} {rows inserted : List UserMapping}
    (h : env.insertRows rows w = some (linked, inserted))
    (hlt : ∀ row ∈ rows, row.steveOcppTagPk < w.tags.table.next) :
    linked.tags = w.tags ∧
      List.Forall₂ (fun row m => m = { row with id := m.id }) rows inserted ∧
      (∀ m, m ∈ linked.mappings.table.rows ↔ m ∈ w.mappings.table.rows ∨ m ∈ inserted) ∧
      (rows.map UserMapping.steveOcppTagPk).Nodup ∧
      ∀ row ∈ rows, ¬w.mappings.HasPk row.steveOcppTagPk := by
  induction rows generalizing w inserted with
  | nil =>
      obtain ⟨rfl, rfl⟩ := Prod.mk.inj (Option.some.inj h)
      exact ⟨rfl, .nil, fun m => by simp, List.nodup_nil,
        fun _ hrow => absurd hrow List.not_mem_nil⟩
  | cons row rows ih =>
      obtain ⟨hltRow, hltRest⟩ := List.forall_mem_cons.mp hlt
      rw [PushEnv.insertRows] at h
      split_ifs at h with hfails
      obtain ⟨hfree, -⟩ := not_or.mp hfails
      obtain ⟨⟨linked', inserted'⟩, hrest, heq⟩ := Option.map_eq_some_iff.mp h
      obtain ⟨rfl, rfl⟩ := Prod.mk.inj heq
      have htags : (w.insertMapping row).tags = w.tags := tags_insertMapping
      have hmem : ∀ m, m ∈ (w.insertMapping row).mappings.table.rows ↔
          m ∈ w.mappings.table.rows ∨ m = { row with id := w.mappings.table.next } :=
        fun m => mem_insertMapping hfree hltRow
      obtain ⟨htagsRest, hinserted, hrows, hnodup, hfreeRest⟩ :=
        ih hrest (fun row' hrow' => htags ▸ hltRest row' hrow')
      refine ⟨htagsRest.trans htags, .cons rfl hinserted, fun m => ?_, ?_, ?_⟩
      · rw [hrows, hmem, List.mem_cons, or_assoc]
      · refine List.nodup_cons.mpr ⟨fun hpk => ?_, hnodup⟩
        obtain ⟨row', hrow', hsame⟩ := List.mem_map.mp hpk
        exact hfreeRest row' hrow' ⟨_, (hmem _).mpr (Or.inr rfl), hsame.symm⟩
      · refine List.forall_mem_cons.mpr ⟨hfree, fun row' hrow' => ?_⟩
        rintro ⟨m, hm, hpk⟩
        exact hfreeRest row' hrow' ⟨m, (hmem m).mpr (Or.inl hm), hpk⟩

/-- The world after the transaction, with the tag `effectiveTagPk` linked. -/
structure Linked (w : TagWorld) (request : LinkPost) (effectiveTagPk : ℕ) (found linked : TagWorld)
    (parentMapping : UserMapping) (childMappings : List UserMapping) : Prop where
  tags : linked.tags = found.tags
  mem_rows : ∀ m, m ∈ linked.mappings.table.rows ↔
    m ∈ found.mappings.table.rows ∨ m = parentMapping ∨ m ∈ childMappings
  pk : parentMapping.steveOcppTagPk = effectiveTagPk
  mirrors :
    let ourSteveRow := w.tags.table.rows.find? fun t => decide (t.ocppTagPk = effectiveTagPk)
    parentMapping.steveParentIdTag = ourSteveRow.bind StEvEOcppTag.parentIdTag ∧
      parentMapping.steveExpiryDate = ourSteveRow.bind StEvEOcppTag.expiryDate
  child : ∀ m ∈ childMappings, ∃ child ∈ getAllChildTags request.ocppTagId w.tags.table.rows,
    m.steveOcppTagPk = child.ocppTagPk ∧ m.steveParentIdTag = some request.ocppTagId ∧
      m.steveExpiryDate = child.expiryDate
  hasRow : ∀ child ∈ getAllChildTags request.ocppTagId w.tags.table.rows,
    child.ocppTagPk ≠ effectiveTagPk ∧ ∃ m ∈ childMappings, m.steveOcppTagPk = child.ocppTagPk

lemma exists_mem_of_forall₂ {α β : Type*} {R : α → β → Prop} {l : List α} {u : List β}
    (h : List.Forall₂ R l u) {b : β} (hb : b ∈ u) : ∃ a ∈ l, R a b := by
  induction h with
  | nil => exact absurd hb List.not_mem_nil
  | cons hhead _ ih =>
      rcases List.mem_cons.mp hb with rfl | hrest
      · exact ⟨_, List.mem_cons_self, hhead⟩
      · obtain ⟨a, ha, hab⟩ := ih hrest
        exact ⟨a, List.mem_cons_of_mem _ ha, hab⟩

lemma linked_linkTransaction {tagType : TagType} {inserted : List UserMapping}
    (hfound : Found w request effectiveTagPk found)
    (h : w.linkTransaction env request tagType found effectiveTagPk = some (linked, inserted)) :
    ∃ parentMapping childMappings, inserted = parentMapping :: childMappings ∧
      Linked w request effectiveTagPk found linked parentMapping childMappings := by
  unfold linkTransaction at h
  split at h
  · next userId _ =>
    have hltRows : ∀ row ∈ request.rows tagType userId effectiveTagPk w.tags.table.rows,
        row.steveOcppTagPk < found.tags.table.next := by
      intro row hrow
      rcases List.mem_cons.mp hrow with rfl | hchild
      · exact hfound.lt
      · obtain ⟨child, hmem, rfl⟩ := List.mem_map.mp hchild
        exact (w.tags.table.key_lt child (mem_of_mem_getAllChildTags hmem)).trans_le
          hfound.follows.next_le
    obtain ⟨htags, hinserted, hrows, hnodup, -⟩ := inserted_insertRows h hltRows
    obtain ⟨parentMapping, childMappings, hparent, hchildren, rfl⟩ :=
      List.forall₂_cons_left_iff.mp hinserted
    rw [List.forall₂_map_left_iff] at hchildren
    obtain ⟨hself, -⟩ := List.nodup_cons.mp hnodup
    refine ⟨parentMapping, childMappings, rfl, htags, fun m => by rw [hrows, List.mem_cons], ?_, ?_,
      fun m hm => ?_, fun child hmem => ⟨fun hpk => hself ?_, ?_⟩⟩
    · rw [hparent]
      rfl
    · rw [hparent]
      exact ⟨rfl, rfl⟩
    · obtain ⟨child, hmem, heq⟩ := exists_mem_of_forall₂ hchildren hm
      refine ⟨child, hmem, ?_⟩
      rw [heq]
      exact ⟨rfl, rfl, rfl⟩
    · rw [List.map_map]
      exact List.mem_map.mpr ⟨child, hmem, hpk⟩
    · obtain ⟨m, hm, heq⟩ := exists_mem_of_forall₂ hchildren.flip hmem
      refine ⟨m, hm, ?_⟩
      rw [heq]
      rfl
  · exact absurd h (Option.some_ne_none _).symm

namespace Linked

variable {parentMapping : UserMapping} {childMappings : List UserMapping}

/-- Where every descendant is a child, all new rows mirror the places of their tags. -/
lemma keeps (h : Linked w request effectiveTagPk found linked parentMapping childMappings)
    (hfound : Found w request effectiveTagPk found)
    (hdirect : ∀ child ∈ getAllChildTags request.ocppTagId w.tags.table.rows,
      child.parentIdTag = some request.ocppTagId)
    (hm : w.MirrorsBut []) (hg : w.Grounded known) :
    Keeps StEvEOcppTag.SamePlace (fun _ => False) [] known w linked := by
  have hfirst := hfound.keeps hm hg
  refine hfirst.trans (fun _ _ _ => .trans)
    (.of_tags (fun _ => .refl) h.tags (fun m hm => ?_) hfirst.grounded)
  rw [h.tags]
  rcases (h.mem_rows m).mp hm with hold | rfl | hchild
  · exact hfirst.mirrorsBut m hold
  · refine ⟨fun tag htag hself => ?_, fun _ tag htag hself => ?_⟩
    · rw [h.mirrors.2, (hfound.place tag htag (hself.trans h.pk)).2]
    · rw [h.mirrors.1, (hfound.place tag htag (hself.trans h.pk)).1]
  · obtain ⟨child, hmem, hpk, hparent, hexpiry⟩ := h.child m hchild
    have hplace : ∀ tag ∈ found.tags.table.rows, tag.ocppTagPk = m.steveOcppTagPk →
        child.SamePlace tag := fun tag htag hself =>
      hfound.follows.related (mem_of_mem_getAllChildTags hmem) htag (hself.trans hpk)
    refine ⟨fun tag htag hself => ?_, fun _ tag htag hself => ?_⟩
    · rw [hexpiry, (hplace tag htag hself).2]
    · rw [hparent, (hplace tag htag hself).1, hdirect child hmem]

end Linked

end TagWorld

end ExpresSync
