import ExpresSync.Foundation.Forest
import ExpresSync.Properties.CoveredDescendants

/-!
# The parents that linking writes

A linked tag goes below the parent tag of its customer and the tags below it become its children.
That leaves the tags a forest exactly when the parent tag is neither the linked tag nor below it.
The route does not look: it lets out the ids that begin with `OCPP-`, and `isMetaTag` knows others
(`keepsForest_iff`).
-/

namespace ExpresSync

open Forest

/-! ## Parents -/

/-- The parent of a tag. -/
def SteveTags.pointer (tags : SteveTags) (idTag : String) : Option String :=
  (tags.table.rows.find? fun tag => decide (tag.idTag = idTag)).bind StEvEOcppTag.parentIdTag

/-- The parent of a tag once StEvE has got the mappings that a response lists. -/
def LinkCreated.pointer (created : LinkCreated) (tags : SteveTags) (idTag : String) :
    Option String :=
  (tags.table.rows.find? fun tag => decide (tag.idTag = idTag)).bind fun tag =>
    match created.all.find? fun m => decide (m.steveOcppTagPk = tag.ocppTagPk) with
    | some m => m.steveParentIdTag
    | none => tag.parentIdTag

/-- A request that writes mappings. -/
inductive LinkWrite where
  | posts (env : LinkPostEnv) (db : LinkDatabase) (request : LinkPost)
  | puts (env : PushEnv) (request : LinkRequest)

namespace TagWorld

variable {w found linked : TagWorld} {env : LinkPostEnv} {db : LinkDatabase} {request : LinkPost}
  {effectiveTagPk : ℕ} {created : LinkCreated} {tag : StEvEOcppTag} {idTag parent : String}

/-- The tag that a request links: that of its number, or else that of its id. -/
def linkedIdTag (w : TagWorld) (request : LinkPost) : String :=
  match w.tags.table.rows.find? fun tag => decide (tag.ocppTagPk = request.ocppTagPk) with
  | some tag => tag.idTag
  | none => request.ocppTagId

/-- The mappings of a response leave the tags a forest, and no meta-tag is put below itself or a tag
below it. -/
def WritesForest (w : TagWorld) (tags : SteveTags) (created : LinkCreated) : Prop :=
  Acyclic (created.pointer tags) ∧
    ∀ idTag, isMetaTag (some idTag) = true → ∀ parent ∈ created.pointer tags idTag,
      parent ≠ idTag ∧ ¬Below w.tags.pointer parent idTag

/-- A `POST` leaves the tags a forest and takes for a meta-tag what `isMetaTag` does; a `PUT` writes
no parent. -/
def KeepsForest (w : TagWorld) : LinkWrite → Prop
  | .posts env db request =>
      (∀ found effectiveTagPk, w.effectiveTag env request = some (found, effectiveTagPk) →
        (w.postLinkRequest env db request).committed = true →
          ∀ created, (w.postLinkRequest env db request).response = .ok created →
            w.WritesForest found.tags created) ∧
      startsWith request.ocppTagId "OCPP-" = isMetaTag (some request.ocppTagId)
  | .puts env request =>
      ∀ m' ∈ (w.putLink env request).mappings.table.rows, ∃ m ∈ w.mappings.table.rows,
        m'.id = m.id ∧ m'.steveParentIdTag = m.steveParentIdTag

/-- The id of the request begins with neither `META-` nor `OCPP-D-`.  It begins with `OCPP-` unless
the parent tag of the customer is neither the linked tag nor below it, or the request fails. -/
def LinksApart (w : TagWorld) : LinkWrite → Prop
  | .posts env db request =>
      (startsWith request.ocppTagId "OCPP-" = true ∨
        (∀ effectiveTagPk ∈ w.linkable? env db request,
          w.NoneMappedBelow request.ocppTagId effectiveTagPk → db.updatesParent = true →
            desiredParentIdTag env request ≠ w.linkedIdTag request ∧
              ¬Below w.tags.pointer (desiredParentIdTag env request) (w.linkedIdTag request))) ∧
      startsWith request.ocppTagId "META-" = false ∧
        startsWith request.ocppTagId "OCPP-D-" = false
  | .puts _ _ => True

/-! ## The tests -/

lemma startsWith_trans {text beginning beginning' : String}
    (hbeginning : startsWith beginning' beginning = true) (h : startsWith text beginning' = true) :
    startsWith text beginning = true := by
  rw [startsWith, List.isPrefixOf_iff_prefix] at hbeginning h ⊢
  exact hbeginning.trans h

/-- Nothing begins in both ways. -/
lemma not_startsWith_of_meta {text : String} (h : startsWith text "META-" = true) :
    startsWith text "OCPP-" = false := by
  rw [startsWith, List.isPrefixOf_iff_prefix] at h
  obtain ⟨rest, hrest⟩ := h
  rw [startsWith, ← hrest]
  rfl

/-- The test of the route agrees with `isMetaTag` on the ids that begin with neither `META-` nor
`OCPP-D-`. -/
lemma tests_agree_iff {idTag : String} :
    startsWith idTag "OCPP-" = isMetaTag (some idTag) ↔
      startsWith idTag "META-" = false ∧ startsWith idTag "OCPP-D-" = false := by
  show startsWith idTag "OCPP-" = (startsWith idTag "META-" ||
    (startsWith idTag "OCPP-" && !startsWith idTag "OCPP-D-")) ↔ _
  cases hmeta : startsWith idTag "META-" with
  | true =>
      rw [not_startsWith_of_meta hmeta]
      simp
  | false =>
      cases hdevice : startsWith idTag "OCPP-D-" with
      | true =>
          have hlegacy : startsWith idTag "OCPP-" = true :=
            startsWith_trans (by decide) hdevice
          rw [hlegacy]
          simp
      | false => simp

/-! ## Tags and their parents -/

lemma find?_idTag_eq {tags : SteveTags} (htag : tag ∈ tags.table.rows) :
    (tags.table.rows.find? fun t => decide (t.idTag = tag.idTag)) = some tag := by
  cases hfind : tags.table.rows.find? fun t => decide (t.idTag = tag.idTag) with
  | none => exact absurd (decide_eq_true rfl) (List.find?_eq_none.mp hfind tag htag)
  | some t =>
      have hname : t.idTag = tag.idTag := by simpa using List.find?_some hfind
      rw [List.inj_on_of_nodup_map tags.nodup_idTag (List.mem_of_find?_eq_some hfind) htag hname]

lemma pointer_eq_some {tags : SteveTags} :
    tags.pointer idTag = some parent ↔
      ∃ tag ∈ tags.table.rows, tag.idTag = idTag ∧ tag.parentIdTag = some parent := by
  unfold SteveTags.pointer
  constructor
  · intro h
    obtain ⟨tag, hfind, hparent⟩ := Option.bind_eq_some_iff.mp h
    have hname : tag.idTag = idTag := by simpa using List.find?_some hfind
    exact ⟨tag, List.mem_of_find?_eq_some hfind, hname, hparent⟩
  · rintro ⟨tag, htag, rfl, hparent⟩
    rw [find?_idTag_eq htag, Option.bind_some, hparent]

lemma pointer_of_mem {tags : SteveTags} (htag : tag ∈ tags.table.rows) :
    tags.pointer tag.idTag = tag.parentIdTag := by
  rw [SteveTags.pointer, find?_idTag_eq htag, Option.bind_some]

/-- Where there are no cycles, the tags below are those the route finds. -/
lemma descends_iff (hacyclic : Acyclic w.tags.pointer) (htag : tag ∈ w.tags.table.rows) :
    w.tags.hierarchy.Descends idTag tag ↔ Below w.tags.pointer tag.idTag idTag := by
  have hswap : Below w.tags.pointer tag.idTag idTag ↔ Relation.TransGen
      (fun parent child => ∃ t ∈ w.tags.hierarchy.entries, t.parentIdTag = some parent ∧
        t.idTag = child) idTag tag.idTag := by
    rw [← Relation.transGen_swap]
    unfold Below
    have hstep : (fun x y => w.tags.pointer x = some y) = Function.swap
        fun parent child => ∃ t ∈ w.tags.hierarchy.entries, t.parentIdTag = some parent ∧
          t.idTag = child := by
      funext x y
      rw [eq_iff_iff, pointer_eq_some]
      exact exists_congr fun t => and_congr_right fun _ => and_comm
    rw [hstep]
  rw [hswap]
  refine ⟨fun h => h.2.2, fun h => ⟨htag, ?_, h⟩⟩
  rintro rfl
  exact hacyclic _ (hswap.mpr h)

/-- What is below another tag is listed. -/
lemma exists_tag_of_below (h : Below w.tags.pointer idTag parent) :
    ∃ tag ∈ w.tags.table.rows, tag.idTag = idTag := by
  obtain ⟨y, hy, -⟩ := below_iff.mp h
  obtain ⟨tag, htag, hname, -⟩ := pointer_eq_some.mp hy
  exact ⟨tag, htag, hname⟩

/-! ## The linked tag -/

/-- The linked tag is listed in `found`; no parent has changed. -/
lemma effectiveTag_spec (h : w.effectiveTag env request = some (found, effectiveTagPk)) :
    (∃ tag ∈ found.tags.table.rows,
        tag.ocppTagPk = effectiveTagPk ∧ tag.idTag = w.linkedIdTag request) ∧
      (∀ tag ∈ w.tags.table.rows, tag ∈ found.tags.table.rows) ∧
      ∀ tag ∈ found.tags.table.rows, tag ∈ w.tags.table.rows ∨
        tag.idTag = w.linkedIdTag request ∧ tag.parentIdTag = none ∧
          ¬w.tags.Lists (w.linkedIdTag request) := by
  unfold effectiveTag at h
  unfold linkedIdTag
  cases hpk : w.tags.table.rows.find? fun t => decide (t.ocppTagPk = request.ocppTagPk) with
  | some steveTag =>
      rw [hpk] at h
      obtain ⟨rfl, rfl⟩ := Prod.mk.inj (Option.some.inj h)
      exact ⟨⟨steveTag, List.mem_of_find?_eq_some hpk, rfl, rfl⟩, fun _ => id, fun _ => Or.inl⟩
  | none =>
      rw [hpk, Option.none_or] at h
      cases hname : w.tags.table.rows.find? fun t => decide (t.idTag = request.ocppTagId) with
      | some steveTag =>
          rw [hname] at h
          obtain ⟨rfl, rfl⟩ := Prod.mk.inj (Option.some.inj h)
          have heq : steveTag.idTag = request.ocppTagId := by simpa using List.find?_some hname
          exact ⟨⟨steveTag, List.mem_of_find?_eq_some hname, rfl, heq⟩, fun _ => id,
            fun _ => Or.inl⟩
      | none =>
          rw [hname] at h
          dsimp only at h
          split_ifs at h with hcreates
          obtain ⟨rfl, rfl⟩ := Prod.mk.inj (Option.some.inj h)
          have hfree : ¬w.tags.Lists request.ocppTagId := by
            rintro ⟨tag, htag, heq⟩
            exact absurd (decide_eq_true heq) (List.find?_eq_none.mp hname tag htag)
          have hmem : ∀ tag, tag ∈ (w.createTag request.ocppTagId).tags.table.rows ↔ _ :=
            SteveTags.mem_createOcppTag hfree none none 1
          refine ⟨⟨_, (hmem _).mpr (Or.inr rfl), rfl, rfl⟩, fun tag htag => ?_, fun tag htag => ?_⟩
          · exact (hmem tag).mpr (Or.inl htag)
          · rcases (hmem tag).mp htag with hold | rfl
            · exact Or.inl hold
            · exact Or.inr ⟨rfl, rfl, hfree⟩

lemma pointer_found (h : w.effectiveTag env request = some (found, effectiveTagPk)) :
    found.tags.pointer = w.tags.pointer := by
  obtain ⟨-, hold, hnew⟩ := effectiveTag_spec h
  funext idTag
  refine Option.ext fun parent => ?_
  rw [pointer_eq_some, pointer_eq_some]
  constructor
  · rintro ⟨tag, htag, hname, hparent⟩
    rcases hnew tag htag with hlisted | ⟨-, hnone, -⟩
    · exact ⟨tag, hlisted, hname, hparent⟩
    · rw [hnone] at hparent
      cases hparent
  · rintro ⟨tag, htag, hname, hparent⟩
    exact ⟨tag, hold tag htag, hname, hparent⟩

/-! ## What a response writes -/

/-- Where the mappings of a response put the tags: those below the linked tag go up to it. -/
structure Relinks (w : TagWorld) (request : LinkPost) (tags : SteveTags) (created : LinkCreated) :
    Prop where
  stays : ¬Below w.tags.pointer (w.linkedIdTag request) request.ocppTagId
  linked : created.pointer tags (w.linkedIdTag request) = created.parentMapping.steveParentIdTag
  below : ∀ idTag, Below w.tags.pointer idTag request.ocppTagId →
    created.pointer tags idTag = some request.ocppTagId
  rest : ∀ idTag, idTag ≠ w.linkedIdTag request →
    ¬Below w.tags.pointer idTag request.ocppTagId →
      created.pointer tags idTag = w.tags.pointer idTag

lemma pointer_created_of_mem {tags : SteveTags} (htag : tag ∈ tags.table.rows) :
    created.pointer tags tag.idTag =
      match created.all.find? fun m => decide (m.steveOcppTagPk = tag.ocppTagPk) with
      | some m => m.steveParentIdTag
      | none => tag.parentIdTag := by
  rw [LinkCreated.pointer, find?_idTag_eq htag, Option.bind_some]

/-- The response of a committed transaction. -/
lemma Commits.relinks (h : w.Commits env request effectiveTagPk found linked created)
    (hacyclic : Acyclic w.tags.pointer)
    (hunmapped : w.NoneMappedBelow request.ocppTagId effectiveTagPk) {listed : LinkCreated}
    (hchildren : listed.childMappings = created.childMappings)
    (hpk : listed.parentMapping.steveOcppTagPk = created.parentMapping.steveOcppTagPk) :
    Relinks w request found.tags listed := by
  have hlinked := h.links
  obtain ⟨⟨self, hself, hselfPk, hselfName⟩, hold, hnew⟩ := effectiveTag_spec h.effectiveTag
  have hparentPk : listed.parentMapping.steveOcppTagPk = effectiveTagPk := hpk.trans hlinked.pk
  -- A tag below has a number and a name of its own.
  have hapart : ∀ tag ∈ w.tags.table.rows, Below w.tags.pointer tag.idTag request.ocppTagId →
      tag.ocppTagPk ≠ effectiveTagPk :=
    fun tag htag hbelow => (hunmapped tag ((descends_iff hacyclic htag).mpr hbelow)).2
  have hsame : ∀ tag ∈ found.tags.table.rows, tag.ocppTagPk = effectiveTagPk →
      tag.idTag = w.linkedIdTag request := by
    intro tag htag heq
    rw [SerialTable.eq_of_key htag hself (heq.trans hselfPk.symm), hselfName]
  have hchild : ∀ m ∈ listed.childMappings, ∃ tag ∈ w.tags.table.rows,
      Below w.tags.pointer tag.idTag request.ocppTagId ∧ m.steveOcppTagPk = tag.ocppTagPk ∧
        m.steveParentIdTag = some request.ocppTagId := by
    intro m hm
    rw [hchildren] at hm
    obtain ⟨tag, hmem, hmPk, hmParent, -⟩ := hlinked.child m hm
    have htag := mem_of_mem_getAllChildTags hmem
    exact ⟨tag, htag, (descends_iff hacyclic htag).mp (mem_childTags.mp hmem), hmPk, hmParent⟩
  refine ⟨fun hbelow => ?_, ?_, fun idTag hbelow => ?_, fun idTag hne hnot => ?_⟩
  · obtain ⟨tag, htag, hname⟩ := exists_tag_of_below hbelow
    have heq : tag = self := List.inj_on_of_nodup_map found.tags.nodup_idTag (hold tag htag) hself
      (hname.trans hselfName.symm)
    refine hapart tag htag (hname ▸ hbelow) ?_
    rw [heq, hselfPk]
  · have hfirst : (listed.all.find? fun m => decide (m.steveOcppTagPk = self.ocppTagPk)) =
        some listed.parentMapping :=
      List.find?_cons_of_pos (decide_eq_true (hparentPk.trans hselfPk.symm))
    rw [← hselfName, pointer_created_of_mem hself, hfirst]
  · obtain ⟨tag, htag, rfl⟩ := exists_tag_of_below hbelow
    have hmem := mem_childTags.mpr ((descends_iff hacyclic htag).mpr hbelow)
    obtain ⟨-, row, hrow, hrowPk⟩ := hlinked.hasRow tag hmem
    rw [pointer_created_of_mem (hold tag htag)]
    cases hfind : listed.all.find? fun m => decide (m.steveOcppTagPk = tag.ocppTagPk) with
    | none =>
        have hlistedRow : row ∈ listed.all := List.mem_cons_of_mem _ (hchildren ▸ hrow)
        exact absurd (decide_eq_true hrowPk) (List.find?_eq_none.mp hfind row hlistedRow)
    | some m =>
        have hmPk : m.steveOcppTagPk = tag.ocppTagPk := by simpa using List.find?_some hfind
        rcases List.mem_cons.mp (List.mem_of_find?_eq_some hfind) with rfl | hm
        · exact absurd (hmPk.symm.trans hparentPk) (hapart tag htag hbelow)
        · obtain ⟨-, -, -, -, hparent⟩ := hchild m hm
          exact hparent
  · by_cases hlists : ∃ tag ∈ found.tags.table.rows, tag.idTag = idTag
    · obtain ⟨tag, htag, rfl⟩ := hlists
      have hnone : (listed.all.find? fun m => decide (m.steveOcppTagPk = tag.ocppTagPk)) =
          none := by
        refine List.find?_eq_none.mpr fun m hm hmPk => ?_
        have hmPk := of_decide_eq_true hmPk
        rcases List.mem_cons.mp hm with rfl | hm
        · exact hne (hsame tag htag (hmPk.symm.trans hparentPk))
        · obtain ⟨other, hother, hbelow, hotherPk, -⟩ := hchild m hm
          rw [SerialTable.eq_of_key (hold other hother) htag (hotherPk.symm.trans hmPk)] at hbelow
          exact hnot hbelow
      rw [pointer_created_of_mem htag, hnone, ← pointer_found h.effectiveTag, pointer_of_mem htag]
    · have hnone : (found.tags.table.rows.find? fun tag => decide (tag.idTag = idTag)) = none :=
        List.find?_eq_none.mpr fun tag htag heq => hlists ⟨tag, htag, of_decide_eq_true heq⟩
      rw [← pointer_found h.effectiveTag, LinkCreated.pointer, SteveTags.pointer, hnone]
      rfl

/-- What the transaction inserts for the linked tag has the parent that the tag has. -/
lemma Commits.parent_eq (h : w.Commits env request effectiveTagPk found linked created) :
    created.parentMapping.steveParentIdTag = w.tags.pointer (w.linkedIdTag request) := by
  obtain ⟨⟨self, hself, hselfPk, hselfName⟩, -, -⟩ := effectiveTag_spec h.effectiveTag
  have hplace := ((found_effectiveTag h.effectiveTag).place self hself hselfPk).1
  rw [h.links.mirrors.1, ← hplace, ← pointer_found h.effectiveTag, ← hselfName,
    pointer_of_mem hself]

/-- A response leaves the tags a forest exactly when the linked tag has a parent apart from it. -/
lemma Relinks.writesForest_iff {tags : SteveTags} (h : Relinks w request tags created)
    (hacyclic : Acyclic w.tags.pointer) {desired : String}
    (hparent : created.parentMapping.steveParentIdTag = some desired) :
    w.WritesForest tags created ↔
      desired ≠ w.linkedIdTag request ∧ ¬Below w.tags.pointer desired (w.linkedIdTag request) := by
  have hset := h.linked.trans hparent
  have hforest := acyclic_relink_iff hacyclic h.stays hset h.below h.rest
  refine ⟨fun hwrites => hforest.mp hwrites.1, fun happart => ⟨hforest.mpr happart, ?_⟩⟩
  intro idTag _ parent hwritten
  refine apart_of_relink hacyclic (fun y hy => ?_) h.below h.rest hwritten
  obtain rfl := Option.some.inj (hset.symm.trans hy)
  exact happart

/-- A response that leaves the linked tag where it is. -/
lemma Relinks.writesForest_of_same {tags : SteveTags} (h : Relinks w request tags created)
    (hacyclic : Acyclic w.tags.pointer)
    (hparent : created.parentMapping.steveParentIdTag =
      w.tags.pointer (w.linkedIdTag request)) : w.WritesForest tags created := by
  have hrest : ∀ idTag, ¬Below w.tags.pointer idTag request.ocppTagId →
      created.pointer tags idTag = w.tags.pointer idTag := by
    intro idTag hnot
    by_cases heq : idTag = w.linkedIdTag request
    · rw [heq, h.linked, hparent]
    · exact h.rest idTag heq hnot
  refine ⟨acyclic_flatten h.below hrest hacyclic, fun idTag _ parent hwritten => ?_⟩
  refine apart_of_relink hacyclic (fun y hy => ?_) h.below h.rest hwritten
  rw [h.linked, hparent] at hy
  refine ⟨?_, fun hup => hacyclic _ ((Below.of_parent hy).trans hup)⟩
  rintro rfl
  exact hacyclic _ (.of_parent hy)

/-! ## `PUT` -/

lemma putLink_keeps_parents (w : TagWorld) (env : PushEnv) (request : LinkRequest) :
    ∀ m' ∈ (w.putLink env request).mappings.table.rows, ∃ m ∈ w.mappings.table.rows,
      m'.id = m.id ∧ m'.steveParentIdTag = m.steveParentIdTag := by
  intro m' hm'
  unfold putLink at hm'
  split at hm'
  · exact ⟨m', hm', rfl, rfl⟩
  · next links mapping _ =>
    obtain ⟨m, hm, rfl⟩ := mem_updateMappings.mp (show m' ∈ (w.withLinks links).mappings.table.rows
      from hm')
    exact ⟨m, hm, id_rowOf links m, (mirror_rowOf links m).1⟩

end TagWorld

/-- For every request and all tags in a forest: linking keeps the forest, and both tests agree on
the tag, exactly when its id begins with neither `META-` nor `OCPP-D-` and, if not with `OCPP-`, the
parent tag of the customer is neither the linked tag nor below it. -/
theorem keepsForest_iff (w : TagWorld) (write : LinkWrite) (hacyclic : Acyclic w.tags.pointer) :
    w.KeepsForest write ↔ w.LinksApart write := by
  cases write with
  | puts env request =>
      exact iff_of_true (w.putLink_keeps_parents env request) trivial
  | posts env db request =>
      unfold TagWorld.KeepsForest TagWorld.LinksApart
      dsimp only
      rw [TagWorld.tests_agree_iff]
      refine and_congr_left fun _ => ?_
      rcases w.outcome_cases env db request with ⟨hnone, world, refusal, -, houtcome⟩ |
        ⟨effectiveTagPk, hlinkable, ⟨hmapped, hcommitted⟩ |
          ⟨hunmapped, found, linked, created, hcommits, houtcome⟩⟩
      · rw [hnone, houtcome]
        refine iff_of_true (fun _ _ _ hcommitted => ?_) (Or.inr fun _ h => by cases h)
        cases hcommitted
      · rw [hlinkable, hcommitted]
        refine iff_of_true (fun _ _ _ h => ?_) (Or.inr fun pk hpk hunmapped => ?_)
        · cases h
        · obtain rfl := Option.some.inj hpk
          exact absurd hunmapped hmapped
      · rw [hlinkable, houtcome]
        have hself := hcommits.map_pk.2.2 created.parentMapping List.mem_cons_self
        obtain ⟨-, ⟨hwrites, parentMapping, hresponse, -, hpk, hparent⟩ | ⟨hfails, hresponse⟩⟩ :=
          TagWorld.finishLink_spec env db request hself
        · have hrelinks := hcommits.relinks hacyclic hunmapped
            (show ({ created with parentMapping } : LinkCreated).childMappings = _ from rfl) hpk
          rw [hresponse]
          trans w.WritesForest found.tags { created with parentMapping }
          · refine ⟨fun hall => hall found effectiveTagPk hcommits.effectiveTag rfl _ rfl, ?_⟩
            intro hforest found' pk hfound' _ listed hlisted
            obtain rfl := Except.ok.inj hlisted
            obtain ⟨rfl, -⟩ :=
              Prod.mk.inj (Option.some.inj (hcommits.effectiveTag.symm.trans hfound'))
            exact hforest
          · by_cases hname : startsWith request.ocppTagId "OCPP-" = true
            · rw [if_pos hname] at hparent
              refine iff_of_true ?_ (Or.inl hname)
              exact hrelinks.writesForest_of_same hacyclic (hparent.trans hcommits.parent_eq)
            · rw [if_neg hname] at hparent
              rw [hrelinks.writesForest_iff hacyclic hparent, or_iff_right hname]
              simp only [Option.mem_some_iff, forall_eq']
              exact ⟨fun h _ _ => h, fun h => h hunmapped (hwrites.resolve_left hname)⟩
        · obtain ⟨-, hupdates⟩ := not_or.mp hfails
          rw [hresponse]
          refine iff_of_true (fun _ _ _ _ listed hlisted => ?_) (Or.inr fun _ _ _ h => ?_)
          · cases hlisted
          · exact absurd h hupdates

namespace Scenario

/-- The parent tag of a customer, and a card. -/
def metaTagAndCard : TagWorld where
  tags :=
    { table :=
        { rows :=
            [⟨"META-1234", 1, none, none, none, none, none⟩,
              ⟨"CARD", 2, none, none, none, none, none⟩]
          next := 3
          key_lt := by decide
          nodup := by decide }
      nodup_idTag := by decide }
  mappings := ⟨.empty, List.nodup_nil⟩
  numbered := by decide

/-- The customer has the public id `1234`. -/
def ownedEnv : LinkPostEnv :=
  { linksFleetEnv with owner := some (some ⟨"user", "1234"⟩) }

def linksCard : LinkPost := ⟨"CARD", 2, "customer", none, none, none, none⟩

def linksMetaTag : LinkPost := ⟨"META-1234", 1, "customer", none, none, none, none⟩

/-- What the response to `linksMetaTag` lists. -/
def linkedMetaTag : LinkCreated where
  parentMapping := ⟨0, 1, "META-1234", some "customer", none, none, .metaTag, false,
    some "META-1234", none, some "user"⟩
  childMappings := []

lemma acyclic_metaTagAndCard : Acyclic metaTagAndCard.tags.pointer := by
  intro idTag hcycle
  obtain ⟨parent, hparent, -⟩ := below_iff.mp hcycle
  obtain ⟨tag, htag, -, hparent⟩ := TagWorld.pointer_eq_some.mp hparent
  have hroots : ∀ tag ∈ metaTagAndCard.tags.table.rows, tag.parentIdTag = none := by decide
  rw [hroots tag htag] at hparent
  cases hparent

end Scenario

open Scenario in
/-- The card goes below the parent tag. -/
theorem keepsForest_iff_card :
    Acyclic metaTagAndCard.tags.pointer ∧
      (metaTagAndCard.KeepsForest (.posts ownedEnv ⟨true, true, true⟩ linksCard) ↔
        metaTagAndCard.LinksApart (.posts ownedEnv ⟨true, true, true⟩ linksCard)) :=
  ⟨acyclic_metaTagAndCard, keepsForest_iff metaTagAndCard
    (.posts ownedEnv ⟨true, true, true⟩ linksCard) acyclic_metaTagAndCard⟩

open Scenario in
/-- The parent tag goes below itself. -/
theorem not_keepsForest_metaTag :
    ¬∀ (w : TagWorld) (write : LinkWrite), Acyclic w.tags.pointer → w.KeepsForest write := by
  intro h
  obtain ⟨hposts, -⟩ := h metaTagAndCard (.posts ownedEnv ⟨true, true, true⟩ linksMetaTag)
    acyclic_metaTagAndCard
  have hresponse : (metaTagAndCard.postLinkRequest ownedEnv ⟨true, true, true⟩
      linksMetaTag).response = .ok linkedMetaTag := by
    decide +kernel
  have hforest := (hposts metaTagAndCard 1 (by rfl) (by decide +kernel) _ hresponse).1
  refine hforest "META-1234" (.of_parent ?_)
  decide +kernel

end ExpresSync
