import ExpresSync.Foundation.Forest
import ExpresSync.Model.TagTree
import ExpresSync.Properties.LinkCascade
import ExpresSync.Properties.MappingInheritance

/-!
# Walks over the tag hierarchy

The walk down and the walk up find the same pairs of tags, whatever cycles there are, but for an
empty id tag: to the walk down it is a parent, to the walk up it is none
(`descendants_dual_iff`).  The tree has every tag once, unless a tag is its own ancestor: no root
leads to such a tag, nor to what is below it (`buildTagTree_complete_iff`).
-/

namespace ExpresSync

open Ancestry

namespace TagHierarchy

variable {allTags : TagHierarchy} {tag : StEvEOcppTag} {root parent child : String}

/-! ## Parents -/

/-- The second id tag is the parent of the first, in the list. -/
def Up (allTags : TagHierarchy) (child parent : String) : Prop :=
  parentOf allTags.entries child = some parent

lemma find?_idTag : allTags.entries.find? (fun t => t.idTag = child) = some tag ↔
    tag ∈ allTags.entries ∧ tag.idTag = child := KeyedLog.get?_eq_some

lemma find?_idTag_isSome :
    (allTags.entries.find? fun t => t.idTag = parent).isSome = true ↔ allTags.Has parent := by
  rw [List.find?_isSome, KeyedLog.Has, List.mem_map]
  simp only [decide_eq_true_eq]

/-- The parent of a listed tag is the one it names, when that is listed and not empty. -/
lemma up_idTag_iff (htag : tag ∈ allTags.entries) :
    allTags.Up tag.idTag parent ↔
      tag.parentIdTag = some parent ∧ parent ≠ "" ∧ allTags.Has parent := by
  unfold Up parentOf
  rw [find?_idTag.mpr ⟨htag, rfl⟩]
  dsimp only
  split
  · next htruthy =>
    obtain ⟨named, hnamed, hempty⟩ := truthy_eq_true_iff.mp htruthy
    simp only [hnamed, Option.filter_eq_some_iff, find?_idTag_isSome, Option.some.injEq]
    constructor
    · rintro ⟨rfl, hhas⟩
      exact ⟨rfl, hempty, hhas⟩
    · rintro ⟨rfl, -, hhas⟩
      exact ⟨rfl, hhas⟩
  · next hfalse =>
    refine iff_of_false (fun h => nomatch h) ?_
    rintro ⟨hnamed, hempty, -⟩
    exact hfalse (truthy_eq_true_iff.mpr ⟨parent, hnamed, hempty⟩)

/-- Only listed tags have a parent. -/
lemma has_of_up (h : allTags.Up child parent) : allTags.Has child ∧ allTags.Has parent := by
  refine ⟨?_, parentOf_mem h⟩
  unfold Up parentOf at h
  split at h
  · cases h
  · next t ht =>
    obtain ⟨hmem, hid⟩ := find?_idTag.mp ht
    exact List.mem_map.mpr ⟨t, hmem, hid⟩

end TagHierarchy

/-! ## Down and up -/

/-- `getAllChildTags`, to a depth. -/
def childTagsTo (fuel : ℕ) (parentIdTag : String) (allTags : List StEvEOcppTag) :
    List StEvEOcppTag :=
  DepthFirst.visitRoot
    (fun currentParentId =>
      allTags.filter fun tag => decide (tag.parentIdTag = some currentParentId))
    StEvEOcppTag.idTag parentIdTag fuel

section

variable {allTags : TagHierarchy} {tag : StEvEOcppTag} {root : String}

lemma idTag_mem_of_child {allTags : List StEvEOcppTag} (parent : String) :
    ∀ t ∈ allTags.filter (fun tag => decide (tag.parentIdTag = some parent)),
      t.idTag ∈ allTags.map StEvEOcppTag.idTag :=
  fun _ ht => List.mem_map_of_mem (List.mem_filter.mp ht).1

lemma length_idTags_lt {allTags : List StEvEOcppTag} :
    (allTags.map StEvEOcppTag.idTag).length < allTags.length + 1 := by
  rw [List.length_map]
  exact Nat.lt_succ_self _

/-- The walk down ends by itself, whatever the parent pointers. -/
lemma childTagsTo_eq {fuel : ℕ} {allTags : List StEvEOcppTag} (hfuel : allTags.length < fuel) :
    childTagsTo fuel root allTags = getAllChildTags root allTags :=
  DepthFirst.visitRoot_eq idTag_mem_of_child hfuel length_idTags_lt

lemma nodup_getAllChildTags {allTags : List StEvEOcppTag} :
    (getAllChildTags root allTags).Nodup :=
  DepthFirst.nodup_visitRoot idTag_mem_of_child length_idTags_lt

/-- The walk up finds what is above a tag. -/
lemma isDescendantOf_iff (htag : tag ∈ allTags.entries) :
    isDescendantOf tag root allTags.entries = true ↔
      root ≠ tag.idTag ∧ Relation.TransGen allTags.Up tag.idTag root := by
  have hrow : allTags.entries.find? (fun t => t.idTag = tag.idTag) = some tag :=
    TagHierarchy.find?_idTag.mpr ⟨htag, rfl⟩
  have hany : isDescendantOf tag root allTags.entries = true ↔
      root ∈ (getAllAncestorTags tag allTags.entries).map StEvEOcppTag.idTag := by
    simp only [isDescendantOf, List.any_eq_true, decide_eq_true_eq, List.mem_map]
  rw [hany, getAllAncestorTags, map_ancestorWalk _ _ hrow]
  exact mem_walk_iff (fun _ _ => parentOf_mem) (List.length_map _).le

/-- No tag with an id has the empty id tag for its parent, unless nothing has that id. -/
def TagHierarchy.NoneBelowEmpty (allTags : TagHierarchy) : Prop :=
  allTags.Has "" → ∀ t ∈ allTags.entries, t.parentIdTag = some "" → t.idTag = ""

/-- Without tags below the empty id tag, a way down from a listed tag is a way up. -/
lemma up_of_descends (hempty : allTags.NoneBelowEmpty) (hroot : allTags.Has root)
    (h : allTags.Descends root tag) : Relation.TransGen allTags.Up tag.idTag root := by
  obtain ⟨-, hne, hpath⟩ := h
  have hway : ∀ child, Relation.TransGen
      (fun parent child => ∃ t ∈ allTags.entries, t.parentIdTag = some parent ∧ t.idTag = child)
      root child → Relation.ReflTransGen allTags.Up child root ∧ allTags.Has child := by
    -- the step from `parent`, which is listed, is one of the walk up or stays at the empty id tag
    have hstep : ∀ parent, allTags.Has parent → ∀ t ∈ allTags.entries,
        t.parentIdTag = some parent → Relation.ReflTransGen allTags.Up t.idTag parent := by
      intro parent hparent t ht hnamed
      by_cases hblank : parent = ""
      · subst hblank
        rw [hempty hparent t ht hnamed]
      · exact Relation.ReflTransGen.single
          ((TagHierarchy.up_idTag_iff ht).mpr ⟨hnamed, hblank, hparent⟩)
    intro child hchild
    induction hchild with
    | single hedge =>
        obtain ⟨t, ht, hnamed, rfl⟩ := hedge
        exact ⟨hstep root hroot t ht hnamed, List.mem_map_of_mem ht⟩
    | tail _ hedge ih =>
        obtain ⟨t, ht, hnamed, rfl⟩ := hedge
        exact ⟨(hstep _ ih.2 t ht hnamed).trans ih.1, List.mem_map_of_mem ht⟩
  rcases Relation.reflTransGen_iff_eq_or_transGen.mp (hway tag.idTag hpath).1 with heq | hup
  · exact absurd heq.symm hne
  · exact hup

/-- A way up is a way down. -/
lemma descends_of_up (htag : tag ∈ allTags.entries) (hne : tag.idTag ≠ root)
    (h : Relation.TransGen allTags.Up tag.idTag root) : allTags.Descends root tag := by
  refine ⟨htag, hne, Relation.TransGen.mono (fun parent child hup => ?_) _ _
    (Relation.TransGen.swap _ _ h)⟩
  obtain ⟨t, ht, rfl⟩ := List.mem_map.mp (TagHierarchy.has_of_up hup).1
  exact ⟨t, ht, ((TagHierarchy.up_idTag_iff ht).mp hup).1, rfl⟩

end

/-- For every list with distinct id tags and any parent pointers: both walks end by themselves, the
walk down finds nothing twice, and the two agree on all pairs of tags exactly when no tag is below
an empty id tag. -/
theorem descendants_dual_iff (allTags : TagHierarchy) :
    (∀ root fuel, allTags.entries.length < fuel →
      childTagsTo fuel root allTags.entries = getAllChildTags root allTags.entries) ∧
    (∀ tag fuel, allTags.entries.length ≤ fuel →
      ancestorWalk allTags.entries fuel [tag.idTag] tag =
        getAllAncestorTags tag allTags.entries) ∧
    (∀ root, (getAllChildTags root allTags.entries).Nodup) ∧
    ((∀ t ∈ allTags.entries, ∀ p ∈ allTags.entries,
      (t ∈ getAllChildTags p.idTag allTags.entries ↔
        t ≠ p ∧ isDescendantOf t p.idTag allTags.entries = true)) ↔ allTags.NoneBelowEmpty) := by
  refine ⟨fun _ _ h => childTagsTo_eq h, fun tag _ h => ancestorWalk_eq tag h,
    fun _ => nodup_getAllChildTags, ?_, ?_⟩
  · intro hdual hhas t ht hnamed
    by_contra hne
    obtain ⟨p, hp, hid⟩ := List.mem_map.mp hhas
    have hchild : t ∈ getAllChildTags p.idTag allTags.entries := by
      rw [mem_getAllChildTags, hid]
      exact ⟨ht, hne, Relation.TransGen.single ⟨t, ht, hnamed, rfl⟩⟩
    have hup := ((isDescendantOf_iff ht).mp ((hdual t ht p hp).mp hchild).2).2
    -- the walk up does not go to an empty id tag
    obtain ⟨c, -, hlast⟩ := Relation.TransGen.tail'_iff.mp hup
    obtain ⟨s, hs, rfl⟩ := List.mem_map.mp (TagHierarchy.has_of_up hlast).1
    exact ((TagHierarchy.up_idTag_iff hs).mp hlast).2.1 hid
  · intro hempty t ht p hp
    rw [mem_getAllChildTags, isDescendantOf_iff ht]
    constructor
    · intro hdesc
      refine ⟨fun heq => hdesc.2.1 (heq ▸ rfl), hdesc.2.1.symm, ?_⟩
      exact up_of_descends hempty (List.mem_map_of_mem hp) hdesc
    · rintro ⟨-, hne, hup⟩
      exact descends_of_up ht hne.symm hup

/-- A tag without an id, and one that names it. -/
def blankHierarchy : TagHierarchy where
  entries := [⟨"", 1, none, none, none, none, none⟩, ⟨"A", 2, none, some "", none, none, none⟩]
  nodup := by decide

/-- The walk down finds the second tag, and the walk up does not go back. -/
theorem blank_parent_not_dual :
    ¬∀ t ∈ blankHierarchy.entries, ∀ p ∈ blankHierarchy.entries,
      (t ∈ getAllChildTags p.idTag blankHierarchy.entries ↔
        t ≠ p ∧ isDescendantOf t p.idTag blankHierarchy.entries = true) := by
  intro hdual
  have hpair := hdual ⟨"A", 2, none, some "", none, none, none⟩ (by decide)
    ⟨"", 1, none, none, none, none, none⟩ (by decide)
  have hdown : (⟨"A", 2, none, some "", none, none, none⟩ : StEvEOcppTag) ∈
      getAllChildTags "" blankHierarchy.entries := by decide +kernel
  exact absurd (hpair.mp hdown).2 (by decide +kernel)

/-! ## The tree -/

section

variable {allTags : TagHierarchy} {tag : StEvEOcppTag} {nodes : TagNodes} {fuel : ℕ}

lemma tagMap_eq_some {idTag : String} :
    tagMap allTags.entries idTag = some tag ↔ tag ∈ allTags.entries ∧ tag.idTag = idTag := by
  have hnodup : (allTags.entries.reverse.map StEvEOcppTag.idTag).Nodup := by
    rw [List.map_reverse]
    exact List.nodup_reverse.mpr allTags.nodup
  have hget : (KeyedLog.mk allTags.entries.reverse hnodup).get? idTag = some tag ↔
      tag ∈ allTags.entries.reverse ∧ tag.idTag = idTag := KeyedLog.get?_eq_some
  rw [List.mem_reverse] at hget
  exact hget

/-- A tag without a parent in the list becomes a root. -/
lemma TagNodes.link_root (htag : tag ∈ allTags.entries)
    (hparent : parentOf allTags.entries tag.idTag = none) :
    nodes.link allTags.entries tag = { nodes with rootTags := nodes.rootTags ++ [tag] } := by
  have hup : ∀ parent, ¬(tag.parentIdTag = some parent ∧ parent ≠ "" ∧ allTags.Has parent) := by
    intro parent h
    have hsome : parentOf allTags.entries tag.idTag = some parent :=
      (TagHierarchy.up_idTag_iff htag).mpr h
    rw [hparent] at hsome
    cases hsome
  unfold link
  rw [tagMap_eq_some.mpr ⟨htag, rfl⟩]
  split
  · rfl
  · next parent hnamed =>
    split
    · rfl
    · next hne =>
      split
      · rfl
      · next found hfound =>
        obtain ⟨hmem, hid⟩ := tagMap_eq_some.mp hfound
        exact absurd ⟨hnamed, hne, List.mem_map.mpr ⟨found, hmem, hid⟩⟩ (hup parent)

/-- Another is put below its parent. -/
lemma TagNodes.link_child {parent : String} (htag : tag ∈ allTags.entries)
    (hparent : parentOf allTags.entries tag.idTag = some parent) :
    nodes.link allTags.entries tag =
      { nodes with
        children := Function.update nodes.children parent (nodes.children parent ++ [tag]) } := by
  obtain ⟨hnamed, hne, hhas⟩ := (TagHierarchy.up_idTag_iff htag).mp hparent
  obtain ⟨found, hmem, rfl⟩ := List.mem_map.mp hhas
  unfold link
  rw [tagMap_eq_some.mpr ⟨htag, rfl⟩, hnamed]
  dsimp only
  rw [if_neg hne, tagMap_eq_some.mpr ⟨hmem, rfl⟩]
  rfl

/-- What the loop adds to the links, for a part of the list. -/
lemma foldl_link {todo : List StEvEOcppTag} (hsub : todo ⊆ allTags.entries) (nodes : TagNodes) :
    (todo.foldl (TagNodes.link allTags.entries) nodes).rootTags = nodes.rootTags ++
        todo.filter (fun t => decide (parentOf allTags.entries t.idTag = none)) ∧
      ∀ parent, (todo.foldl (TagNodes.link allTags.entries) nodes).children parent =
        nodes.children parent ++
          todo.filter fun t => decide (parentOf allTags.entries t.idTag = some parent) := by
  induction todo generalizing nodes with
  | nil => simp
  | cons tag todo ih =>
      have htag : tag ∈ allTags.entries := hsub List.mem_cons_self
      obtain ⟨hroots, hchildren⟩ := ih (fun _ h => hsub (List.mem_cons_of_mem _ h))
        (nodes.link allTags.entries tag)
      rw [List.foldl_cons, hroots]
      cases hparent : parentOf allTags.entries tag.idTag with
      | none =>
          refine ⟨?_, fun parent => ?_⟩
          · simp [TagNodes.link_root htag hparent, hparent]
          · rw [hchildren]
            simp [TagNodes.link_root htag hparent, hparent]
      | some own =>
          refine ⟨?_, fun parent => ?_⟩
          · simp [TagNodes.link_child htag hparent, hparent]
          · rw [hchildren, TagNodes.link_child htag hparent]
            by_cases heq : parent = own
            · subst heq
              simp [hparent]
            · simp [Function.update_of_ne heq, hparent, Ne.symm heq]

lemma mem_rootTags : tag ∈ (linkedNodes allTags.entries).rootTags ↔
    tag ∈ allTags.entries ∧ parentOf allTags.entries tag.idTag = none := by
  rw [linkedNodes, (foldl_link (List.Subset.refl _) _).1]
  simp

lemma mem_children {parent : String} :
    tag ∈ (linkedNodes allTags.entries).children parent ↔
      tag ∈ allTags.entries ∧ allTags.Up tag.idTag parent := by
  rw [linkedNodes, (foldl_link (List.Subset.refl _) _).2 parent]
  simp [TagHierarchy.Up]

/-- The ids of the children of a node. -/
def TagHierarchy.kids (allTags : TagHierarchy) (parent : String) : List String :=
  ((linkedNodes allTags.entries).children parent).map StEvEOcppTag.idTag

lemma inverts_kids : Forest.Inverts allTags.kids (parentOf allTags.entries) where
  mem := by
    intro parent child
    simp only [TagHierarchy.kids, List.mem_map, mem_children]
    constructor
    · rintro ⟨t, ⟨-, hup⟩, rfl⟩
      exact hup
    · intro hup
      obtain ⟨t, ht, rfl⟩ := List.mem_map.mp (TagHierarchy.has_of_up hup).1
      exact ⟨t, ⟨ht, hup⟩, rfl⟩
  nodup parent := by
    rw [TagHierarchy.kids, linkedNodes, (foldl_link (List.Subset.refl _) _).2 parent]
    exact allTags.nodup.sublist (List.filter_sublist.map _)

lemma nodup_rootTags :
    ((linkedNodes allTags.entries).rootTags.map StEvEOcppTag.idTag).Nodup := by
  rw [linkedNodes, (foldl_link (List.Subset.refl _) _).1]
  exact allTags.nodup.sublist (List.filter_sublist.map _)

lemma forestTags_eq_flatMap (forest : List TagNode) :
    forestTags forest = forest.flatMap TagNode.tags := by
  induction forest with
  | nil => rfl
  | cons node forest ih => rw [forestTags, ih, List.flatMap_cons]

/-- The ids in a tree are those the library goes through. -/
lemma map_idTag_toTree (fuel : ℕ) (tag : StEvEOcppTag) :
    (((linkedNodes allTags.entries).toTree fuel tag).tags).map StEvEOcppTag.idTag =
      Forest.preorder allTags.kids fuel tag.idTag := by
  induction fuel generalizing tag with
  | zero => rfl
  | succ fuel ih =>
      simp only [TagNodes.toTree, TagNode.tags, forestTags_eq_flatMap, List.flatMap_map,
        List.map_cons, List.map_flatMap, ih, Forest.preorder, TagHierarchy.kids]

lemma map_idTag_tagForest (fuel : ℕ) :
    (forestTags (tagForest allTags.entries fuel)).map StEvEOcppTag.idTag =
      ((linkedNodes allTags.entries).rootTags.map StEvEOcppTag.idTag).flatMap
        (Forest.preorder allTags.kids fuel) := by
  simp only [tagForest, forestTags_eq_flatMap, List.flatMap_map, List.map_flatMap,
    map_idTag_toTree]

/-- A tree below a listed tag has listed tags only. -/
lemma mem_of_mem_toTree (htag : tag ∈ allTags.entries) {t : StEvEOcppTag}
    (h : t ∈ ((linkedNodes allTags.entries).toTree fuel tag).tags) : t ∈ allTags.entries := by
  induction fuel generalizing tag with
  | zero =>
      obtain rfl := List.mem_singleton.mp h
      exact htag
  | succ fuel ih =>
      simp only [TagNodes.toTree, TagNode.tags, forestTags_eq_flatMap, List.flatMap_map,
        List.mem_cons, List.mem_flatMap] at h
      rcases h with rfl | ⟨child, hchild, h⟩
      · exact htag
      · exact ih (mem_children.mp hchild).1 h

/-- A listed tag has its place in the forest exactly when its way up ends. -/
lemma count_buildTagTree (htag : tag ∈ allTags.entries) :
    (forestTags (buildTagTree allTags.entries)).count tag = 1 ↔
      ∃ k r, Forest.ascend (parentOf allTags.entries) k tag.idTag = some r ∧
        parentOf allTags.entries r = none := by
  have hids : (forestTags (tagForest allTags.entries allTags.entries.length)).map
      StEvEOcppTag.idTag = ((linkedNodes allTags.entries).rootTags.map
        StEvEOcppTag.idTag).flatMap (Forest.preorder allTags.kids allTags.entries.length) :=
    map_idTag_tagForest allTags.entries.length
  have hnodup : (forestTags (buildTagTree allTags.entries)).Nodup := by
    refine List.Nodup.of_map StEvEOcppTag.idTag ?_
    rw [buildTagTree, hids]
    refine Forest.nodup_forest inverts_kids nodup_rootTags fun r hr => ?_
    obtain ⟨t, ht, rfl⟩ := List.mem_map.mp hr
    exact (mem_rootTags.mp ht).2
  have hlisted : ∀ t ∈ forestTags (buildTagTree allTags.entries), t ∈ allTags.entries := by
    intro t ht
    simp only [buildTagTree, tagForest, forestTags_eq_flatMap, List.flatMap_map,
      List.mem_flatMap] at ht
    obtain ⟨root, hroot, ht⟩ := ht
    exact mem_of_mem_toTree (mem_rootTags.mp hroot).1 ht
  have hmem : tag ∈ forestTags (buildTagTree allTags.entries) ↔
      tag.idTag ∈ (forestTags (buildTagTree allTags.entries)).map StEvEOcppTag.idTag := by
    refine ⟨List.mem_map_of_mem, fun h => ?_⟩
    obtain ⟨t, ht, hid⟩ := List.mem_map.mp h
    exact KeyedLog.eq_of_key (hlisted t ht) htag hid ▸ ht
  have hroots : ∀ r, r ∈ (linkedNodes allTags.entries).rootTags.map StEvEOcppTag.idTag ↔
      r ∈ allTags.entries.map StEvEOcppTag.idTag ∧ parentOf allTags.entries r = none := by
    intro r
    simp only [List.mem_map, mem_rootTags]
    constructor
    · rintro ⟨t, ⟨ht, hparent⟩, rfl⟩
      exact ⟨⟨t, ht, rfl⟩, hparent⟩
    · rintro ⟨⟨t, ht, rfl⟩, hparent⟩
      exact ⟨t, ⟨ht, hparent⟩, rfl⟩
  rw [List.Nodup.count hnodup, ite_eq_left_iff, hmem, buildTagTree, hids,
    Forest.mem_forest_iff inverts_kids hroots (fun _ _ => parentOf_mem) (List.length_map _).le
      (List.mem_map_of_mem htag)]
  simp

/-- A depth that no tag is below is depth enough. -/
lemma toTree_succ
    (hdepth : ∀ t ∈ allTags.entries, ∀ k,
      Forest.ascend (parentOf allTags.entries) k t.idTag = some tag.idTag → k ≤ fuel) :
    (linkedNodes allTags.entries).toTree (fuel + 1) tag =
      (linkedNodes allTags.entries).toTree fuel tag := by
  induction fuel generalizing tag with
  | zero =>
      have hnil : (linkedNodes allTags.entries).children tag.idTag = [] := by
        refine List.eq_nil_iff_forall_not_mem.mpr fun child hchild => ?_
        obtain ⟨hmem, hup⟩ := mem_children.mp hchild
        have hstep := hdepth child hmem 1 (by rw [Forest.ascend_of_parent hup, Forest.ascend_zero])
        omega
      rw [TagNodes.toTree, TagNodes.toTree, hnil, List.map_nil]
  | succ fuel ih =>
      rw [TagNodes.toTree, TagNodes.toTree]
      refine congrArg (TagNode.mk tag) (List.map_congr_left fun child hchild => ih ?_)
      intro t ht k hk
      obtain ⟨-, hup⟩ := mem_children.mp hchild
      have hstep := hdepth t ht (k + 1) (by rw [Forest.ascend_succ, hk, Option.bind_some, hup])
      omega

/-- The tree ends by itself. -/
lemma tagForest_eq (hfuel : allTags.entries.length ≤ fuel) :
    tagForest allTags.entries fuel = buildTagTree allTags.entries := by
  induction fuel, hfuel using Nat.le_induction with
  | base => rfl
  | succ fuel hle ih =>
      rw [← ih, tagForest, tagForest]
      refine List.map_congr_left fun root hroot => toTree_succ fun t ht k hk => ?_
      have hlt := Forest.lt_length_of_root (fun _ _ => parentOf_mem) (List.mem_map_of_mem ht) hk
        (mem_rootTags.mp hroot).2
      rw [List.length_map] at hlt
      omega

end

/-- For every list with distinct id tags and any parent pointers: the tree ends by itself, and has
every tag of the list exactly once if and only if no tag is its own ancestor. -/
theorem buildTagTree_complete_iff (allTags : TagHierarchy) :
    (∀ fuel, allTags.entries.length ≤ fuel →
      tagForest allTags.entries fuel = buildTagTree allTags.entries) ∧
    ((∀ tag ∈ allTags.entries, (forestTags (buildTagTree allTags.entries)).count tag = 1) ↔
      ∀ tag ∈ allTags.entries, ¬Relation.TransGen allTags.Up tag.idTag tag.idTag) := by
  refine ⟨fun _ h => tagForest_eq h, ?_⟩
  have hlisted : ∀ child parent, parentOf allTags.entries child = some parent →
      parent ∈ allTags.entries.map StEvEOcppTag.idTag := fun _ _ => parentOf_mem
  have hrooted := Forest.acyclic_iff_rooted hlisted
  simp only [List.forall_mem_map] at hrooted
  exact (forall₂_congr fun _ => count_buildTagTree).trans hrooted.symm

/-- Two tags that name each other. -/
def circularHierarchy : TagHierarchy where
  entries :=
    [⟨"A", 1, none, some "B", none, none, none⟩, ⟨"B", 2, none, some "A", none, none, none⟩]
  nodup := by decide

/-- Neither becomes a root: the tree is empty. -/
theorem circular_tags_vanish : buildTagTree circularHierarchy.entries = [] ∧
    ¬∀ tag ∈ circularHierarchy.entries,
      (forestTags (buildTagTree circularHierarchy.entries)).count tag = 1 := by
  have hempty : buildTagTree circularHierarchy.entries = [] := rfl
  refine ⟨hempty, fun hall => ?_⟩
  have hcount := hall ⟨"A", 1, none, some "B", none, none, none⟩ (by decide)
  rw [hempty] at hcount
  cases hcount

end ExpresSync
