import ExpresSync.Properties.LinkedPlaces

/-!
# The places of tags in `POST`

A request that links a tag pushes its row and those of the tags below it.  Where these are children
of the linked tag, and the call of `ensureCustomerMetaTag` keeps the mirror, no tag moves but the
linked one and the children of legacy tags (`TagWorld.keeps_pushLinked`).
-/

namespace ExpresSync

namespace TagWorld

variable {w found linked : TagWorld} {env : LinkPostEnv} {request : LinkPost}
  {known : String → Prop} {effectiveTagPk : ℕ} {parentMapping : UserMapping}
  {childMappings : List UserMapping}

/-- The linked tag and those below it. -/
def linkedPks (w : TagWorld) (request : LinkPost) (effectiveTagPk : ℕ) : List ℕ :=
  effectiveTagPk ::
    (getAllChildTags request.ocppTagId w.tags.table.rows).map StEvEOcppTag.ocppTagPk

/-- Every descendant of the tag is a child of it. -/
def HasOnlyChildren (w : TagWorld) (idTag : String) : Prop :=
  ∀ child ∈ getAllChildTags idTag w.tags.table.rows, child.parentIdTag = some idTag

/-- The parent that `POST` puts the linked tag under. -/
def desiredParentIdTag (env : LinkPostEnv) (request : LinkPost) : String :=
  match env.owner with
  | none => parentIdTagFor request.lagoCustomerId
  | some owner => (metaTagCall env request owner).idTag

/-- The tag stays in place, or it is one of `moved`, or a child that the clean-up moves. -/
def PostMoves (env : LinkPostEnv) (request : LinkPost) (moved : List ℕ)
    (tag tag' : StEvEOcppTag) : Prop :=
  tag'.ocppTagPk = tag.ocppTagPk ∧ tag'.expiryDate = tag.expiryDate ∧
    (tag'.parentIdTag = tag.parentIdTag ∨ tag.ocppTagPk ∈ moved ∨
      startsWith request.ocppTagId "OCPP-" = false ∧
        ∃ owner ∈ env.owner, (metaTagCall env request owner).Reparents tag tag')

/-- The id tags that the clean-up may delete. -/
def PostDeletes (env : LinkPostEnv) (request : LinkPost) (idTag : String) : Prop :=
  ∃ owner ∈ env.owner, idTag ∈ (metaTagCall env request owner).legacyIdTags

namespace PostMoves

variable {moved : List ℕ} {tag tag' tag'' : StEvEOcppTag}

lemma of_samePlace (hpk : tag'.ocppTagPk = tag.ocppTagPk) (h : tag.SamePlace tag') :
    PostMoves env request moved tag tag' := ⟨hpk, h.2, Or.inl h.1⟩

lemma of_moves (hpk : tag'.ocppTagPk = tag.ocppTagPk) {owner : Option MetaTagOwner}
    (howner : owner ∈ env.owner) (hname : startsWith request.ocppTagId "OCPP-" = false)
    (h : (metaTagCall env request owner).Moves tag tag') :
    PostMoves env request moved tag tag' := by
  refine ⟨hpk, h.1, ?_⟩
  rcases h.2 with hsame | hreparents
  · exact Or.inl hsame
  · exact Or.inr (Or.inr ⟨hname, owner, howner, hreparents⟩)

lemma trans (h : PostMoves env request moved tag tag')
    (h' : PostMoves env request moved tag' tag'') :
    PostMoves env request moved tag tag'' := by
  obtain ⟨hpk, hexpiry, hparent⟩ := h
  obtain ⟨hpk', hexpiry', hparent'⟩ := h'
  refine ⟨hpk'.trans hpk, hexpiry'.trans hexpiry, ?_⟩
  rcases hparent with hsame | hself | ⟨hname, owner, howner, hlegacy, hmeta⟩
  · rcases hparent' with hsame' | hself' | ⟨hname, owner, howner, ⟨idTag, hmem, hlegacy⟩, hmeta⟩
    · exact Or.inl (hsame'.trans hsame)
    · exact Or.inr (Or.inl (hpk ▸ hself'))
    · exact Or.inr (Or.inr ⟨hname, owner, howner, ⟨idTag, hmem, hsame ▸ hlegacy⟩, hmeta⟩)
  · exact Or.inr (Or.inl hself)
  · rcases hparent' with hsame' | hself' | ⟨-, owner', howner', -, hmeta'⟩
    · exact Or.inr (Or.inr ⟨hname, owner, howner, hlegacy, hsame'.trans hmeta⟩)
    · exact Or.inr (Or.inl (hpk ▸ hself'))
    · obtain rfl : owner = owner' := Option.mem_unique howner howner'
      exact Or.inr (Or.inr ⟨hname, owner, howner, hlegacy, hmeta'⟩)

lemma mono {moved' : List ℕ} (h : PostMoves env request moved tag tag') (hsub : moved ⊆ moved') :
    PostMoves env request moved' tag tag' :=
  ⟨h.1, h.2.1, h.2.2.imp_right fun hmoves => hmoves.imp_left fun hmem => hsub hmem⟩

/-- A child of the linked tag that is not moved stays in place. -/
lemma samePlace (h : PostMoves env request moved tag tag') (hout : tag.ocppTagPk ∉ moved)
    (hparent : tag.parentIdTag = some request.ocppTagId) : tag.SamePlace tag' := by
  obtain ⟨-, hexpiry, hsame | hmem | ⟨hname, owner, -, ⟨idTag, hlegacy, hidTag⟩, -⟩⟩ := h
  · exact ⟨hsame, hexpiry⟩
  · exact absurd hmem hout
  · obtain rfl : request.ocppTagId = idTag := Option.some.inj (hparent.symm.trans hidTag)
    exact absurd (CustomerMetaTagCall.startsWith_of_mem hlegacy) (by simp [hname])

/-- A tag under the desired parent that is not moved stays there. -/
lemma parent_eq_desired (h : PostMoves env request moved tag tag') (hout : tag.ocppTagPk ∉ moved)
    (hparent : tag.parentIdTag = some (desiredParentIdTag env request)) :
    tag'.parentIdTag = some (desiredParentIdTag env request) := by
  obtain ⟨-, -, hsame | hmem | ⟨-, owner, howner, -, hmeta⟩⟩ := h
  · exact hsame.trans hparent
  · exact absurd hmem hout
  · rw [hmeta, desiredParentIdTag, Option.mem_def.mp howner]

end PostMoves

namespace Linked

/-- The row of a descendant or of the linked tag is there. -/
lemma hasPk (h : Linked w request effectiveTagPk found linked parentMapping childMappings) {pk : ℕ}
    (hpk : pk ∈ w.linkedPks request effectiveTagPk) : linked.mappings.HasPk pk := by
  rcases List.mem_cons.mp hpk with rfl | hchild
  · exact ⟨parentMapping, (h.mem_rows _).mpr (Or.inr (Or.inl rfl)), h.pk⟩
  · obtain ⟨child, hmem, rfl⟩ := List.mem_map.mp hchild
    obtain ⟨-, m, hm, hself⟩ := h.hasRow child hmem
    exact ⟨m, (h.mem_rows _).mpr (Or.inr (Or.inr hm)), hself⟩

/-- No row has been removed. -/
lemma hasPk_of_hasPk (h : Linked w request effectiveTagPk found linked parentMapping childMappings)
    (hfound : Found w request effectiveTagPk found) {pk : ℕ} (hpk : w.mappings.HasPk pk) :
    linked.mappings.HasPk pk := by
  obtain ⟨m, hm, hself⟩ := hpk
  exact ⟨m, (h.mem_rows m).mpr (Or.inl (hfound.mappings ▸ hm)), hself⟩

/-- The new rows are those of the linked tag and of the tags below it. -/
lemma hasPk_or_mem (h : Linked w request effectiveTagPk found linked parentMapping childMappings)
    (hfound : Found w request effectiveTagPk found) {pk : ℕ} (hpk : linked.mappings.HasPk pk) :
    w.mappings.HasPk pk ∨ pk ∈ w.linkedPks request effectiveTagPk := by
  obtain ⟨m, hm, rfl⟩ := hpk
  rcases (h.mem_rows m).mp hm with hold | rfl | hchild
  · exact Or.inl ⟨m, hfound.mappings ▸ hold, rfl⟩
  · exact Or.inr (h.pk ▸ List.mem_cons_self)
  · obtain ⟨child, hmem, hself, -⟩ := h.child m hchild
    exact Or.inr (hself ▸ List.mem_cons_of_mem _ (List.mem_map_of_mem hmem))

variable {call : CustomerMetaTagCall}

lemma newRowMirrors (h : Linked w request effectiveTagPk found linked parentMapping childMappings)
    (hfound : Found w request effectiveTagPk found)
    (hnew : call.NewRowMirrors (w.linkedPks request effectiveTagPk) w) :
    call.NewRowMirrors [] linked := by
  intro hlists tag htag hname _ hnoRow
  rw [h.tags] at htag
  rcases hfound.follows.origin tag htag with ⟨old, hold, hpk, hnameOld, hsame⟩ | hlate
  · have hplace := hnew hlists old hold (hnameOld.symm.trans hname)
      (fun hmem => hnoRow (hpk ▸ h.hasPk hmem))
      fun hrow => hnoRow (hpk ▸ h.hasPk_of_hasPk hfound hrow)
    exact ⟨hsame.1.trans hplace.1, hsame.2.trans hplace.2⟩
  · obtain ⟨hself, -, -⟩ := hfound.created tag htag hlate
    exact absurd (h.hasPk (hself ▸ List.mem_cons_self)) hnoRow

lemma cleansUp (h : Linked w request effectiveTagPk found linked parentMapping childMappings)
    (hfound : Found w request effectiveTagPk found) (hdirect : w.HasOnlyChildren request.ocppTagId)
    (hname : startsWith request.ocppTagId "OCPP-" = false) {legacyIdTag : String}
    (hmem : legacyIdTag ∈ call.legacyIdTags)
    (hclean : call.CleansUp (w.linkedPks request effectiveTagPk) w legacyIdTag) :
    call.CleansUp [effectiveTagPk] linked legacyIdTag := by
  have hne : legacyIdTag ≠ request.ocppTagId := by
    rintro rfl
    exact absurd (CustomerMetaTagCall.startsWith_of_mem hmem) (by simp [hname])
  intro hlists hlistsChildren legacyTag' hlisted' hlegacyName child' hchild' hparent'
  rw [h.tags] at hlisted' hchild'
  rcases hfound.follows.origin legacyTag' hlisted' with
    ⟨legacyTag, hlisted, hpkLegacy, hnameOld, -⟩ | hlate
  · rcases hfound.follows.origin child' hchild' with ⟨child, hchild, hpk, -, hsame⟩ | hlate
    · have hparent : child.parentIdTag = some legacyIdTag := hsame.1.symm.trans hparent'
      rcases hclean hlists hlistsChildren legacyTag hlisted (hnameOld.symm.trans hlegacyName) child
        hchild hparent with ⟨haccepts, hrow⟩ | hrefuses
      · rw [hpk]
        refine Or.inl ⟨haccepts, ?_⟩
        -- a child of the legacy tag is no child of the linked one
        have hlinked : child.ocppTagPk ∈ w.linkedPks request effectiveTagPk →
            child.ocppTagPk ∈ [effectiveTagPk] := by
          intro hlinked
          rcases List.mem_cons.mp hlinked with hself | hbelow
          · exact List.mem_singleton.mpr hself
          · obtain ⟨other, hother, hpkOther⟩ := List.mem_map.mp hbelow
            obtain rfl : other = child :=
              SerialTable.eq_of_key (mem_of_mem_getAllChildTags hother) hchild hpkOther
            exact absurd (Option.some.inj (hparent.symm.trans (hdirect other hother))) hne
        rcases hrow with hmemLinked | hnoRow
        · exact Or.inl (hlinked hmemLinked)
        · by_cases hself : child.ocppTagPk ∈ [effectiveTagPk]
          · exact Or.inl hself
          · refine Or.inr fun hrow => hself ?_
            exact hlinked ((h.hasPk_or_mem hfound hrow).resolve_left hnoRow)
      · rw [hpk, hpkLegacy]
        exact Or.inr hrefuses
    · rw [(hfound.created child' hchild' hlate).2.2] at hparent'
      exact absurd hparent' (Option.some_ne_none _).symm
  · exact absurd (hlegacyName.symm.trans (hfound.created legacyTag' hlisted' hlate).2.1) hne

end Linked

variable (effectiveTagPk) in
/-- The call of `ensureCustomerMetaTag` in `POST`. -/
lemma keeps_ensureParent (hname : startsWith request.ocppTagId "OCPP-" = false)
    (hnew : ∀ owner ∈ env.owner, (metaTagCall env request owner).NewRowMirrors [] linked)
    (hclean : ∀ owner ∈ env.owner, (metaTagCall env request owner).FindsTag linked.tags →
      ∀ legacyIdTag ∈ (metaTagCall env request owner).legacyIdTags,
        (metaTagCall env request owner).CleansUp [effectiveTagPk] linked legacyIdTag)
    (hm : linked.MirrorsBut []) (hg : linked.Grounded known) :
    (linked.ensureParent env request).2 = desiredParentIdTag env request ∧
      linked.KeepsRows (linked.ensureParent env request).1 ∧
      Keeps (PostMoves env request []) (PostDeletes env request) [effectiveTagPk] known
        linked (linked.ensureParent env request).1 := by
  have hm' : linked.MirrorsBut [effectiveTagPk] := hm.mono (List.nil_subset _)
  unfold ensureParent desiredParentIdTag
  cases howner : env.owner with
  | none =>
      refine ⟨rfl, .of_mappings rfl, .of_tags (fun _ => ?_) rfl hm' hg⟩
      exact .of_samePlace rfl .refl
  | some owner =>
      have hmem : owner ∈ env.owner := howner
      refine ⟨rfl, CustomerMetaTagCall.keepsRows_ensureCustomerMetaTag, ?_⟩
      refine Keeps.mono (CustomerMetaTagCall.keeps_ensureCustomerMetaTag (hnew owner hmem)
        (hclean owner hmem) hm' hg) (fun _ _ hpk => .of_moves hpk hmem hname) fun idTag hidTag => ?_
      exact ⟨owner, hmem, hidTag⟩

/-- The row of the linked tag gets its parent. -/
lemma exists_setParent {ensured : TagWorld} (desired : String) (hself : parentMapping ∈
      linked.mappings.table.rows) (hpk : parentMapping.steveOcppTagPk = effectiveTagPk)
    (hrows : linked.KeepsRows ensured) (hm : ensured.MirrorsBut [effectiveTagPk]) :
    (ensured.setParent parentMapping.id desired).MirrorsBut [effectiveTagPk] ∧
      ∃ updated ∈ (ensured.setParent parentMapping.id desired).mappings.table.rows,
        (ensured.setParent parentMapping.id desired).mappings.table.get? parentMapping.id =
            some updated ∧
          updated.steveOcppTagPk = effectiveTagPk ∧ updated.steveParentIdTag = some desired := by
  obtain ⟨row, hrow, hid, hpkRow⟩ := hrows parentMapping hself
  have hmem : ∀ m, m ∈ (ensured.setParent parentMapping.id desired).mappings.table.rows ↔
      ∃ old ∈ ensured.mappings.table.rows, m = if decide (old.id = parentMapping.id) then
        { old with steveParentIdTag := some desired } else old := fun _ => mem_updateMappings
  refine ⟨fun m hm' => ?_, { row with steveParentIdTag := some desired }, ?_, ?_,
    hpkRow.trans hpk, rfl⟩
  · obtain ⟨old, hold, rfl⟩ := (hmem m).mp hm'
    split
    · next hsame =>
      have heq : old = row :=
        SerialTable.eq_of_key hold hrow ((of_decide_eq_true hsame).trans hid.symm)
      refine ⟨(hm old hold).1, fun hout => absurd ?_ hout⟩
      rw [heq]
      exact List.mem_singleton.mpr (hpkRow.trans hpk)
    · exact hm old hold
  · exact (hmem _).mpr ⟨row, hrow, by simp [hid]⟩
  · refine SerialTable.get?_eq_some.mpr ⟨(hmem _).mpr ⟨row, hrow, by simp [hid]⟩, hid⟩

variable (env request) in
/-- The push of the linked tag's row, which says where the tag moves. -/
lemma keeps_push_updated {u : TagWorld} {faults : SteveFaults} (timestamp : ℕ → String)
    {updated : UserMapping} (hmem : updated ∈ u.mappings.table.rows)
    (hpk : updated.steveOcppTagPk = effectiveTagPk) (hm : u.MirrorsBut [effectiveTagPk])
    (hg : u.Grounded known)
    (hcarried : faults.AcceptsUpdates effectiveTagPk ∨ u.tags.MirrorsParent updated)
    (hlists : ∀ idTag ∈ updated.steveParentIdTag, known idTag → u.tags.Lists idTag) :
    Keeps (PostMoves env request [effectiveTagPk]) (PostDeletes env request) [] known u
      (u.push faults timestamp [updated]) := by
  have hupdate : Follows _ (fun _ => False) u (u.push faults timestamp [updated]) :=
    follows_update
  have hexpiry : u.tags.MirrorsExpiry updated := (hm updated hmem).1
  -- where a tag of the new world comes from
  have hcomes : ∀ tag' ∈ (u.push faults timestamp [updated]).tags.table.rows,
      ∃ tag ∈ u.tags.table.rows, tag'.ocppTagPk = tag.ocppTagPk ∧ tag'.idTag = tag.idTag ∧
        tag'.expiryDate = tag.expiryDate ∧ (tag'.parentIdTag = tag.parentIdTag ∨
          tag.ocppTagPk = effectiveTagPk ∧ tag'.parentIdTag = updated.steveParentIdTag) := by
    intro tag' htag'
    have hlt : tag'.ocppTagPk < u.tags.table.next := next_push ▸ SerialTable.key_lt _ tag' htag'
    obtain ⟨tag, htag, hpkTag, hname, hplace⟩ := hupdate.exists_tag htag' hlt
    refine ⟨tag, htag, hpkTag, hname, ?_⟩
    rcases hplace with hsame | ⟨hself, hmoved⟩
    · exact ⟨hsame.2, Or.inl hsame.1⟩
    · refine ⟨hmoved.2.trans (hexpiry tag htag hself), Or.inr ⟨hself.trans hpk, hmoved.1⟩⟩
  have hfollows : Follows (PostMoves env request [effectiveTagPk]) (PostDeletes env request) u
      (u.push faults timestamp [updated]) := by
    refine ⟨hupdate.next_le, fun tag' htag' => ?_, fun idTag hlisted _ =>
      hupdate.lists idTag hlisted not_false⟩
    obtain ⟨tag, htag, hpkTag, hname, hdate, hparent⟩ := hcomes tag' htag'
    refine Or.inl ⟨tag, htag, hpkTag, hname, hpkTag, hdate, ?_⟩
    exact hparent.imp_right fun hself => Or.inl (List.mem_singleton.mpr hself.1)
  refine ⟨hfollows, fun m hmem' => ⟨fun tag' htag' hself => ?_, fun _ tag' htag' hself => ?_⟩, ?_⟩
  · obtain ⟨tag, htag, hpkTag, -, hdate, -⟩ := hcomes tag' htag'
    rw [hdate]
    exact (hm m hmem').1 tag htag (hpkTag.symm.trans hself)
  · obtain ⟨tag, htag, hpkTag, -, -, hparent⟩ := hcomes tag' htag'
    by_cases hlinked : m.steveOcppTagPk = effectiveTagPk
    · obtain rfl : m = updated := UserMappingTable.eq_of_pk hmem' hmem (hlinked.trans hpk.symm)
      rcases hcarried with haccepts | hmirrors
      · exact mirrorsParent_push (haccepts _ hpk) tag' htag' hself
      · rcases hparent with hsame | ⟨-, hmoved⟩
        · rw [hsame]
          exact hmirrors tag htag (hpkTag.symm.trans hself)
        · exact hmoved.symm
    · have hother : tag.ocppTagPk ≠ effectiveTagPk :=
        fun heq => hlinked (hself.symm.trans (hpkTag.trans heq))
      rw [hparent.resolve_right fun hmoved => hother hmoved.1]
      exact (hm m hmem').2 (fun hin => hlinked (List.mem_singleton.mp hin)) tag htag
        (hpkTag.symm.trans hself)
  · intro tag' htag' idTag hparent' hknown
    obtain ⟨tag, htag, -, -, -, hparent⟩ := hcomes tag' htag'
    refine hupdate.lists idTag ?_ not_false
    rcases hparent with hsame | ⟨-, hmoved⟩
    · exact hg tag htag idTag (hsame.symm.trans hparent') hknown
    · exact hlists idTag (hmoved.symm.trans hparent') hknown

/-- The rows of the children still mirror the places of their tags. -/
lemma Linked.mirrors_children {pushed : TagWorld} {D : String → Prop}
    (h : Linked w request effectiveTagPk found linked parentMapping childMappings)
    (hm : linked.MirrorsBut [])
    (hfollows : Follows (PostMoves env request [effectiveTagPk]) D linked pushed) :
    ∀ m ∈ childMappings, pushed.tags.MirrorsExpiry m ∧ pushed.tags.MirrorsParent m := by
  intro m hmem
  have hrow : m ∈ linked.mappings.table.rows := (h.mem_rows m).mpr (Or.inr (Or.inr hmem))
  obtain ⟨hexpiry, hparent⟩ := hm m hrow
  obtain ⟨child, hchild, hpkChild, hparentChild, -⟩ := h.child m hmem
  have hplace : ∀ tag' ∈ pushed.tags.table.rows, tag'.ocppTagPk = m.steveOcppTagPk →
      m.steveParentIdTag = tag'.parentIdTag ∧ m.steveExpiryDate = tag'.expiryDate := by
    intro tag' htag' hself
    obtain ⟨tag, htag, hpk, -, hmoves⟩ :=
      hfollows.exists_tag htag' (hself.symm ▸ linked.numbered m hrow)
    have hselfTag : tag.ocppTagPk = m.steveOcppTagPk := hpk.symm.trans hself
    have hparentTag : m.steveParentIdTag = tag.parentIdTag :=
      hparent List.not_mem_nil tag htag hselfTag
    have hsame : tag.SamePlace tag' := by
      refine hmoves.samePlace (fun hlinkedPk => ?_) (hparentTag.symm.trans hparentChild)
      refine (h.hasRow child hchild).1 ?_
      rw [← hpkChild, ← hselfTag]
      exact List.mem_singleton.mp hlinkedPk
    exact ⟨hparentTag.trans hsame.1.symm, (hexpiry tag htag hselfTag).trans hsame.2.symm⟩
  exact ⟨fun tag' htag' hself => (hplace tag' htag' hself).2,
    fun tag' htag' hself => (hplace tag' htag' hself).1⟩

lemma creates_of_effectiveTag (h : w.effectiveTag env request = some (found, effectiveTagPk))
    {idTag : String} (hlists : found.tags.Lists idTag) :
    w.tags.Lists idTag ∨ env.faults.creates = true := by
  unfold effectiveTag at h
  split at h
  · obtain ⟨rfl, -⟩ := Prod.mk.inj (Option.some.inj h)
    exact Or.inl hlists
  · split_ifs at h with hcreates
    exact Or.inr hcreates

/-- The request links the tag `effectiveTagPk`: its transaction is carried out. -/
def Links (w : TagWorld) (env : LinkPostEnv) (request : LinkPost) (effectiveTagPk : ℕ) : Prop :=
  ∃ tagType found, w.findTag env request = some (tagType, found, effectiveTagPk) ∧
    (w.linkTransaction env request tagType found effectiveTagPk).isSome = true

/-- No mirror gets out of step when the request links the tag. -/
structure PostKeepsMirror (w : TagWorld) (env : LinkPostEnv) (request : LinkPost)
    (deleted : List String) (effectiveTagPk : ℕ) : Prop where
  /-- All that is below the linked tag is right below it. -/
  onlyChildren : w.HasOnlyChildren request.ocppTagId
  /-- The new parent has not been deleted. -/
  parent : startsWith request.ocppTagId "OCPP-" = false →
    desiredParentIdTag env request ∈ deleted → w.tags.Lists (desiredParentIdTag env request)
  /-- StEvE carries the push of the linked tag out, or the tag is there already. -/
  carried : startsWith request.ocppTagId "OCPP-" = false →
    env.faults.AcceptsUpdates effectiveTagPk ∨ ∃ tag ∈ w.tags.table.rows,
      tag.ocppTagPk = effectiveTagPk ∧ tag.parentIdTag = some (desiredParentIdTag env request)
  newRow : startsWith request.ocppTagId "OCPP-" = false → ∀ owner ∈ env.owner,
    (metaTagCall env request owner).NewRowMirrors (w.linkedPks request effectiveTagPk) w
  cleansUp : startsWith request.ocppTagId "OCPP-" = false → ∀ owner ∈ env.owner,
    (metaTagCall env request owner).FindsTag w.tags →
      ∀ legacyIdTag ∈ (metaTagCall env request owner).legacyIdTags,
        (metaTagCall env request owner).CleansUp (w.linkedPks request effectiveTagPk) w legacyIdTag

lemma desired_not_deleted : ¬PostDeletes env request (desiredParentIdTag env request) := by
  rintro ⟨owner, howner, hmem⟩
  have hdesired : desiredParentIdTag env request = (metaTagCall env request owner).idTag := by
    rw [desiredParentIdTag, Option.mem_def.mp howner]
  exact CustomerMetaTagCall.ne_idTag hmem hdesired

/-- The pushes of a request that links a tag. -/
lemma keeps_pushLinked {deleted : List String}
    (h : Linked w request effectiveTagPk found linked parentMapping childMappings)
    (hfound : Found w request effectiveTagPk found)
    (heffective : w.effectiveTag env request = some (found, effectiveTagPk))
    (hkeeps : w.PostKeepsMirror env request deleted effectiveTagPk)
    (hknown : ∀ idTag, known idTag → idTag ∈ deleted ∨ w.tags.Lists idTag)
    (hm : w.MirrorsBut []) (hg : w.Grounded known) :
    Keeps (PostMoves env request [effectiveTagPk]) (PostDeletes env request) [] known w
      (linked.pushLinked env request (parentMapping :: childMappings)) := by
  have hlinked := h.keeps hfound hkeeps.onlyChildren hm hg
  have hfirst : Keeps (PostMoves env request []) (PostDeletes env request) [] known w linked :=
    hlinked.mono (fun _ _ hpk => .of_samePlace hpk) (fun _ => False.elim)
  have hmemRow : ∀ m ∈ parentMapping :: childMappings, m ∈ linked.mappings.table.rows :=
    fun m hmem => (h.mem_rows m).mpr (Or.inr (List.mem_cons.mp hmem))
  have hmore : ∀ tag tag', PostMoves env request [] tag tag' →
      PostMoves env request [effectiveTagPk] tag tag' :=
    fun _ _ hmoves => hmoves.mono (List.nil_subset _)
  unfold pushLinked
  dsimp only
  by_cases hname : startsWith request.ocppTagId "OCPP-" = true
  · rw [if_pos hname]
    have hpush := keeps_push_rows env.faults env.timestamp
      (fun m hmem => hasRowLike_self (hmemRow m hmem)) hfirst.mirrorsBut hfirst.grounded
    exact (hfirst.trans (fun _ _ _ => .trans) (hpush.mono (fun _ _ hpk => .of_samePlace hpk)
      fun _ => False.elim)).mono (fun _ _ _ => hmore _ _) fun _ hD => hD
  · have hname' : startsWith request.ocppTagId "OCPP-" = false := by simpa using hname
    rw [if_neg hname]
    obtain ⟨hdesired, hrows, hensured⟩ := keeps_ensureParent effectiveTagPk hname'
      (fun owner howner => h.newRowMirrors hfound (hkeeps.newRow hname' owner howner))
      (fun owner howner hfinds legacyIdTag hmem => by
        refine h.cleansUp hfound hkeeps.onlyChildren hname' hmem
          (hkeeps.cleansUp hname' owner howner ⟨hfinds.1, ?_⟩ legacyIdTag hmem)
        rcases hfinds.2 with hlists | hcreates
        · exact creates_of_effectiveTag heffective (h.tags ▸ hlists)
        · exact Or.inr hcreates)
      hfirst.mirrorsBut hfirst.grounded
    cases hpair : linked.ensureParent env request with
    | mk ensured desired =>
        rw [hpair] at hdesired hrows hensured
        obtain rfl : desired = desiredParentIdTag env request := hdesired
        obtain ⟨hmUpdated, updated, hupdated, hget, hpkUpdated, hparentUpdated⟩ :=
          exists_setParent (desiredParentIdTag env request) (hmemRow _ List.mem_cons_self) h.pk
            hrows hensured.mirrorsBut
        dsimp only
        set moved := ensured.setParent parentMapping.id (desiredParentIdTag env request) with hmoved
        rw [hget, Option.getD_some, push_cons]
        have hfromLinked : Keeps (PostMoves env request []) (PostDeletes env request)
            [effectiveTagPk] known linked moved :=
          hensured.trans (fun _ _ _ => .trans)
            (.of_tags (fun _ => .of_samePlace rfl .refl) rfl hmUpdated hensured.grounded)
        have hto : Keeps (PostMoves env request []) (PostDeletes env request) [effectiveTagPk] known
            w moved := hfirst.trans (fun _ _ _ => .trans) hfromLinked
        have hcarried : env.faults.AcceptsUpdates effectiveTagPk ∨
            moved.tags.MirrorsParent updated := by
          refine (hkeeps.carried hname').imp_right ?_
          rintro ⟨tag, htag, hpk, hparent⟩ tag' htag' hself
          have hmoves := hto.follows.related htag htag' (hself.trans (hpkUpdated.trans hpk.symm))
          rw [hparentUpdated, hmoves.parent_eq_desired List.not_mem_nil hparent]
        have hlists : ∀ idTag ∈ updated.steveParentIdTag, known idTag → moved.tags.Lists idTag := by
          intro idTag hidTag hknownTag
          obtain rfl : desiredParentIdTag env request = idTag :=
            Option.some.inj (hparentUpdated.symm.trans hidTag)
          have hlisted : w.tags.Lists (desiredParentIdTag env request) :=
            (hknown _ hknownTag).elim (hkeeps.parent hname') id
          exact hto.follows.lists _ hlisted desired_not_deleted
        have hpush := keeps_push_updated env request env.timestamp hupdated hpkUpdated hmUpdated
          hto.grounded hcarried hlists
        set pushed := moved.push env.faults env.timestamp [updated] with hpushed
        have hfollows : Follows (PostMoves env request [effectiveTagPk]) (PostDeletes env request)
            linked pushed :=
          (hfromLinked.follows.mono (fun _ _ _ => hmore _ _) fun _ hD => hD).trans
            (fun _ _ _ => .trans) hpush.follows
        have hrest := keeps_push env.faults env.timestamp
          (h.mirrors_children hfirst.mirrorsBut hfollows)
          (fun m hmem => (linked.numbered m (hmemRow m (List.mem_cons_of_mem _ hmem))).trans_le
            hfollows.next_le) hpush.mirrorsBut hpush.grounded
        exact ((hto.mono (fun _ _ _ => hmore _ _) fun _ hD => hD).trans (fun _ _ _ => .trans)
          hpush).trans (fun _ _ _ => .trans)
            (hrest.mono (fun _ _ hpk => .of_samePlace hpk) fun _ => False.elim)

end TagWorld

end ExpresSync
