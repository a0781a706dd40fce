import ExpresSync.Foundation.Transition
import ExpresSync.Properties.LinkPushes

/-!
# The hierarchy of tags over runs

No step moves a tag but the one that is linked and the children of a legacy tag, no expiry date
changes, and no tag is left under one that has been deleted, over every run whose steps keep the
mirror columns in step (`preservesHierarchy_of_keepsMirror`).  `POST` does not, where the linked
tag has grandchildren: it pushes them under the linked tag.
-/

namespace ExpresSync

open Transition

/-- Every row mirrors the parent and the expiry date of its tag. -/
def TagWorld.Mirrors (w : TagWorld) : Prop :=
  ∀ m ∈ w.mappings.table.rows, w.tags.MirrorsParent m ∧ w.tags.MirrorsExpiry m

namespace HierarchyAction

/-- The step is the one that moves the tag: it links it, or moves it away from a legacy tag. -/
def Moves (w : TagWorld) (tag tag' : StEvEOcppTag) : HierarchyAction → Prop
  | .posts env request => w.Links env request tag.ocppTagPk ∨
      ∃ owner ∈ env.owner, (TagWorld.metaTagCall env request owner).Reparents tag tag'
  | .ensuresMetaTag call => call.Reparents tag tag'
  | _ => False

/-- What is below the tag that a request names. -/
def descendants (w : TagWorld) : HierarchyAction → List StEvEOcppTag
  | .posts _ request => getAllChildTags request.ocppTagId w.tags.table.rows
  | _ => []

end HierarchyAction

namespace HierarchyState

/-- A step from `s` to `s'` moves no tag that it should not move. -/
structure KeepsHierarchy (s : HierarchyState) (a : HierarchyAction) (s' : HierarchyState) :
    Prop where
  expiryDate : ∀ tag ∈ s.world.tags.table.rows, ∀ tag' ∈ s'.world.tags.table.rows,
    tag'.ocppTagPk = tag.ocppTagPk → tag'.expiryDate = tag.expiryDate
  parentIdTag : ∀ tag ∈ s.world.tags.table.rows, ∀ tag' ∈ s'.world.tags.table.rows,
    tag'.ocppTagPk = tag.ocppTagPk →
      tag'.parentIdTag = tag.parentIdTag ∨ a.Moves s.world tag tag'
  descendants : ∀ tag ∈ a.descendants s.world, ∀ tag' ∈ s'.world.tags.table.rows,
    tag'.ocppTagPk = tag.ocppTagPk → tag'.parentIdTag = tag.parentIdTag

/-- No tag is under one that has been deleted. -/
def NoDangling (s : HierarchyState) : Prop :=
  ∀ tag ∈ s.world.tags.table.rows, ∀ idTag ∈ tag.parentIdTag, idTag ∈ s.deleted →
    s.world.tags.Lists idTag

/-- The step leaves the mirror columns as they should be. -/
def KeepsMirror (s : HierarchyState) : HierarchyAction → Prop
  | .posts env request => ∀ effectiveTagPk, s.world.Links env request effectiveTagPk →
      s.world.PostKeepsMirror env request s.deleted effectiveTagPk
  | .ensuresMetaTag call => call.NewRowMirrors [] s.world ∧
      (call.FindsTag s.world.tags → ∀ legacyIdTag ∈ call.legacyIdTags,
        call.CleansUp [] s.world legacyIdTag)
  | .ensuresDeviceTag call => call.KeepsMirror s.world ∧ call.Grounds (· ∈ s.deleted) s.world
  | .puts _ _ | .deletes _ _ | .syncs _ _ _ _ => True

/-- What a step of a run may do with a tag. -/
def Kept (s : HierarchyState) (a : HierarchyAction) (tag tag' : StEvEOcppTag) : Prop :=
  tag'.expiryDate = tag.expiryDate ∧
    (tag'.parentIdTag = tag.parentIdTag ∨ a.Moves s.world tag tag') ∧
      (tag ∈ a.descendants s.world → tag'.parentIdTag = tag.parentIdTag)

variable {s s' : HierarchyState} {a : HierarchyAction} {known : String → Prop}

lemma Kept.of_samePlace {tag tag' : StEvEOcppTag} (h : tag.SamePlace tag') : s.Kept a tag tag' :=
  ⟨h.2, Or.inl h.1, fun _ => h.1⟩

lemma kept_of_samePlace {w' : TagWorld}
    (h : TagWorld.Keeps StEvEOcppTag.SamePlace (fun _ => False) [] known s.world w') :
    TagWorld.Keeps (s.Kept a) (fun _ => True) [] known s.world w' :=
  h.mono (fun _ _ _ => .of_samePlace) fun _ => False.elim

/-- The step of a `POST`. -/
lemma kept_postLink {env : LinkPostEnv} {request : LinkPost}
    (hkeeps : s.KeepsMirror (.posts env request))
    (hknown : ∀ idTag, known idTag → idTag ∈ s.deleted ∨ s.world.tags.Lists idTag)
    (hm : s.world.MirrorsBut []) (hg : s.world.Grounded known) :
    TagWorld.Keeps (s.Kept (.posts env request)) (fun _ => True) [] known s.world
      (s.world.postLink env request) := by
  unfold TagWorld.postLink
  cases hfind : s.world.findTag env request with
  | none => exact kept_of_samePlace (.of_tags (fun _ => .refl) rfl hm hg)
  | some result =>
      obtain ⟨tagType, found, effectiveTagPk⟩ := result
      have heffective : s.world.effectiveTag env request = some (found, effectiveTagPk) := by
        unfold TagWorld.findTag at hfind
        split at hfind
        · split_ifs at hfind
          obtain ⟨⟨found', pk⟩, heffective, heq⟩ := Option.map_eq_some_iff.mp hfind
          obtain ⟨-, hpair⟩ := Prod.mk.inj heq
          rw [heffective, hpair]
        · exact absurd hfind (Option.some_ne_none _).symm
      have hfound := TagWorld.found_effectiveTag heffective
      dsimp only
      cases htransaction : s.world.linkTransaction env request tagType found effectiveTagPk with
      | none => exact kept_of_samePlace (hfound.keeps hm hg)
      | some pair =>
          obtain ⟨linked, inserted⟩ := pair
          have hlinks : s.world.Links env request effectiveTagPk :=
            ⟨tagType, found, hfind, by rw [htransaction]; rfl⟩
          obtain ⟨parentMapping, childMappings, rfl, hlinked⟩ :=
            TagWorld.linked_linkTransaction hfound htransaction
          have hpost := hkeeps effectiveTagPk hlinks
          refine (TagWorld.keeps_pushLinked hlinked hfound heffective hpost hknown hm hg).mono
            (fun tag tag' hpk hmoves => ⟨hmoves.2.1, ?_, fun hbelow => ?_⟩) fun _ _ => trivial
          · rcases hmoves.2.2 with hsame | hself | ⟨-, howner⟩
            · exact Or.inl hsame
            · exact Or.inr (Or.inl (List.mem_singleton.mp hself ▸ hlinks))
            · exact Or.inr (Or.inr howner)
          · have hother : tag.ocppTagPk ∉ [effectiveTagPk] :=
              fun hself => (hlinked.hasRow tag hbelow).1 (List.mem_singleton.mp hself)
            exact (hmoves.samePlace hother (hpost.onlyChildren tag hbelow)).1

/-- A step that keeps the mirror moves no tag that it should not move. -/
lemma kept_write (hkeeps : s.KeepsMirror a)
    (hknown : ∀ idTag, known idTag → idTag ∈ s.deleted ∨ s.world.tags.Lists idTag)
    (hm : s.world.MirrorsBut []) (hg : s.world.Grounded known) :
    TagWorld.Keeps (s.Kept a) (fun _ => True) [] known s.world (a.write s.world) := by
  cases a with
  | posts env request => exact kept_postLink hkeeps hknown hm hg
  | puts env request => exact kept_of_samePlace (TagWorld.keeps_putLink env request hm hg)
  | deletes env id => exact kept_of_samePlace (TagWorld.keeps_deleteLink env id hm hg)
  | syncs faults timestamp id switchOff =>
      exact kept_of_samePlace (TagWorld.keeps_sync faults timestamp id switchOff hm hg)
  | ensuresDeviceTag call =>
      refine kept_of_samePlace (DeviceTagCall.keeps_ensureDeviceTag hkeeps.1 ?_ hm hg)
      intro user huser hcustomer hlists hfree hcreates idTag hidTag hknownTag
      exact (hknown idTag hknownTag).elim
        (hkeeps.2 user huser hcustomer hlists hfree hcreates idTag hidTag) id
  | ensuresMetaTag call =>
      refine (CustomerMetaTagCall.keeps_ensureCustomerMetaTag hkeeps.1 hkeeps.2 hm hg).mono
        (fun tag tag' _ hmoves => ⟨hmoves.1, hmoves.2, fun hbelow => ?_⟩) fun _ _ => trivial
      exact absurd hbelow List.not_mem_nil

/-- The mirror is in step, and no tag is left under a deleted one. -/
structure InStep (s : HierarchyState) : Prop where
  mirrors : s.world.MirrorsBut []
  noDangling : s.NoDangling

lemma inStep_step (h : s.InStep) (hkeeps : s.KeepsMirror a) (hstep : s.step a = some s') :
    s'.InStep ∧ s.KeepsHierarchy a s' := by
  obtain rfl := Option.some.inj hstep
  have hg : s.world.Grounded fun idTag => idTag ∈ s.deleted ∨ s.world.tags.Lists idTag := by
    intro tag htag idTag hparent hknown
    exact hknown.elim (h.noDangling tag htag idTag hparent) id
  have hkept := kept_write hkeeps (fun _ hknown => hknown) h.mirrors hg
  have hrelated : ∀ tag ∈ s.world.tags.table.rows,
      ∀ tag' ∈ (a.write s.world).tags.table.rows, tag'.ocppTagPk = tag.ocppTagPk →
        s.Kept a tag tag' :=
    fun tag htag tag' htag' hpk => hkept.follows.related htag htag' hpk
  refine ⟨⟨hkept.mirrorsBut, fun tag htag idTag hparent hdeleted => ?_⟩, ?_, ?_, ?_⟩
  · refine hkept.grounded tag htag idTag hparent ?_
    rcases List.mem_append.mp hdeleted with hbefore | hnow
    · exact Or.inl hbefore
    · obtain ⟨old, hold, rfl⟩ := List.mem_map.mp (List.mem_of_mem_filter hnow)
      exact Or.inr ⟨old, hold, rfl⟩
  · exact fun tag htag tag' htag' hpk => (hrelated tag htag tag' htag' hpk).1
  · exact fun tag htag tag' htag' hpk => (hrelated tag htag tag' htag' hpk).2.1
  · intro tag hbelow tag' htag' hpk
    have htag : tag ∈ s.world.tags.table.rows := by
      cases a with
      | posts env request => exact TagWorld.mem_of_mem_getAllChildTags hbelow
      | puts env request => exact absurd hbelow List.not_mem_nil
      | deletes env id => exact absurd hbelow List.not_mem_nil
      | ensuresMetaTag call => exact absurd hbelow List.not_mem_nil
      | ensuresDeviceTag call => exact absurd hbelow List.not_mem_nil
      | syncs faults timestamp id switchOff => exact absurd hbelow List.not_mem_nil
    exact (hrelated tag htag tag' htag' hpk).2.2 hbelow

end HierarchyState

/-- The hierarchy is preserved throughout a run. -/
def TagWorld.PreservesHierarchy (w : TagWorld) (as : List HierarchyAction) : Prop :=
  EachStep HierarchyState.step HierarchyState.KeepsHierarchy ⟨w, []⟩ as ∧
    Always HierarchyState.step HierarchyState.NoDangling ⟨w, []⟩ as

/-- For every table of tags, whatever their parents, every table of mappings that mirrors it, and
every sequence of requests and calls: the hierarchy is preserved as long as each of them keeps the
mirror. -/
theorem preservesHierarchy_of_keepsMirror (w : TagWorld) (as : List HierarchyAction)
    (hmirrors : w.Mirrors)
    (hkeeps : Meets HierarchyState.step HierarchyState.KeepsMirror ⟨w, []⟩ as) :
    w.PreservesHierarchy as := by
  have hstart : HierarchyState.InStep ⟨w, []⟩ :=
    ⟨fun m hm => ⟨(hmirrors m hm).2, fun _ => (hmirrors m hm).1⟩,
      fun _ _ _ _ hdeleted => absurd hdeleted List.not_mem_nil⟩
  have hkeep : ∀ s a s', HierarchyState.InStep s → HierarchyState.KeepsMirror s a →
      HierarchyState.step s a = some s' → HierarchyState.InStep s' :=
    fun s a s' h hkeeps hstep => (HierarchyState.inStep_step h hkeeps hstep).1
  refine ⟨hkeeps.eachStep hkeep ?_ hstart, hstart.noDangling, hkeeps.eachStep hkeep ?_ hstart⟩
  · exact fun s a s' h hkeeps hstep => (HierarchyState.inStep_step h hkeeps hstep).2
  · exact fun s a s' h hkeeps hstep => (HierarchyState.inStep_step h hkeeps hstep).1.noDangling

/-! ## A grandchild -/

/-- Without faults, for a customer `usr_1` who has the public id `7KQ2M9XA`. -/
def quietPost : LinkPostEnv where
  listsAll := true
  isCustomer := fun _ => true
  resolveOrCreateCustomerAccount := fun _ => .ok "usr_1"
  faults := .none
  timestamp := fun _ => "2026-05-07T09:00:00.000Z"
  owner := some (some ⟨"usr_1", "7KQ2M9XA"⟩)
  getSubscriptions := .ok []

def linkOf (ocppTagId : String) (ocppTagPk : ℕ) : LinkPost :=
  ⟨ocppTagId, ocppTagPk, "cust_1", none, none, none, none⟩

/-- A key ring, a card on it, and a chip under the card. -/
def keyRing : TagWorld where
  tags :=
    { table :=
        { rows := [⟨"RING", 1, none, none, none, some (-1), none⟩,
            ⟨"CARD", 2, none, some "RING", none, some (-1), none⟩,
            ⟨"CHIP", 3, none, some "CARD", none, some (-1), none⟩]
          next := 4
          key_lt := by decide
          nodup := by decide }
      nodup_idTag := by decide }
  mappings := ⟨.empty, List.nodup_nil⟩
  numbered := fun _ hm => absurd hm List.not_mem_nil

lemma postKeepsMirror_card (effectiveTagPk : ℕ) :
    keyRing.PostKeepsMirror quietPost (linkOf "CARD" 2) [] effectiveTagPk where
  onlyChildren := by
    show ∀ child ∈ getAllChildTags "CARD" keyRing.tags.table.rows, child.parentIdTag = some "CARD"
    decide +kernel
  parent := fun _ hdeleted => absurd hdeleted List.not_mem_nil
  carried := fun _ => Or.inl fun _ _ => rfl
  newRow := by
    rintro - owner ⟨⟩ - tag htag hname
    have hother : ∀ tag ∈ keyRing.tags.table.rows, tag.idTag ≠ "META-" ++ "7KQ2M9XA" := by
      decide +kernel
    exact absurd hname (hother tag htag)
  cleansUp := by
    intro _ owner _ _ legacyIdTag hmem _ _ _ _ _ child hchild hparent
    have hother : ∀ child ∈ keyRing.tags.table.rows, ∀ idTag ∈ child.parentIdTag,
        startsWith idTag "OCPP-" = false := by
      decide +kernel
    have hlegacy : startsWith legacyIdTag "OCPP-" = true :=
      CustomerMetaTagCall.startsWith_of_mem hmem
    rw [hother child hchild legacyIdTag hparent] at hlegacy
    exact absurd hlegacy (by decide)

/-- Linking the card moves the card alone. -/
theorem preservesHierarchy_keyRing :
    keyRing.PreservesHierarchy
      [.posts quietPost (linkOf "CARD" 2), .syncs .none quietPost.timestamp 1 true] := by
  refine preservesHierarchy_of_keepsMirror _ _ (fun _ hm => absurd hm List.not_mem_nil) ?_
  exact fun _ _ => ⟨fun effectiveTagPk _ => postKeepsMirror_card effectiveTagPk,
    fun _ _ => ⟨trivial, trivial⟩⟩

/-- Linking the ring moves the chip under the ring. -/
theorem not_preservesHierarchy_keyRing :
    keyRing.Mirrors ∧ ¬keyRing.PreservesHierarchy [.posts quietPost (linkOf "RING" 1)] := by
  refine ⟨fun _ hm => absurd hm List.not_mem_nil, fun h => ?_⟩
  obtain ⟨hkeeps, -⟩ := h.1 _ rfl
  have hchip : (⟨"CHIP", 3, none, some "CARD", none, some (-1), none⟩ : StEvEOcppTag) ∈
      (HierarchyAction.posts quietPost (linkOf "RING" 1)).descendants keyRing := by
    decide +kernel
  have hmoved : ∃ tag' ∈ (keyRing.postLink quietPost (linkOf "RING" 1)).tags.table.rows,
      tag'.ocppTagPk = 3 ∧ tag'.parentIdTag = some "RING" := by
    decide +kernel
  obtain ⟨tag', htag', hpk, hparent⟩ := hmoved
  have hstill : tag'.parentIdTag = some "CARD" := hkeeps.descendants _ hchip tag' htag' hpk
  rw [hparent] at hstill
  exact absurd hstill (by decide)

end ExpresSync
