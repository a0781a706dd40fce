import ExpresSync.Foundation.Ancestry
import ExpresSync.Model.MappingResolver

/-!
# A mapping is inherited from the nearest ancestor

Over the tag hierarchy as the code reads it (`parentOf`: the first listed row of an id and its
`parent_id_tag`) the lookup of `buildMappingLookupWithInheritance` is the relation `NearestUp` of
the library: the walk over the ancestors is the library's `walk` on ids, and its fuel never runs
out.
-/

namespace ExpresSync

open Ancestry

/-! ## The hierarchy -/

/-- The parent of a tag: the `parent_id_tag` of its row, when that tag is listed too. -/
def parentOf (allTags : List StEvEOcppTag) (idTag : String) : Option String :=
  match allTags.find? (fun t => t.idTag = idTag) with
  | none => none
  | some tag =>
      if truthy tag.parentIdTag then
        tag.parentIdTag.filter fun parent => (allTags.find? fun t => t.idTag = parent).isSome
      else none

section Hierarchy

variable {allTags : List StEvEOcppTag}

/-- A parent is listed. -/
lemma parentOf_mem {idTag parent : String} (h : parentOf allTags idTag = some parent) :
    parent ∈ allTags.map (·.idTag) := by
  unfold parentOf at h
  split at h
  · simp at h
  · split at h
    · obtain ⟨-, hfound⟩ := Option.filter_eq_some_iff.mp h
      obtain ⟨row, hrow⟩ := Option.isSome_iff_exists.mp hfound
      have hid : row.idTag = parent := by simpa using List.find?_some hrow
      exact List.mem_map.mpr ⟨row, List.mem_of_find?_eq_some hrow, hid⟩
    · simp at h

/-- On ids, the walk over the ancestors of a tag's row is the walk along `parentOf`. -/
lemma map_ancestorWalk (fuel : ℕ) (visited : List String) {current : StEvEOcppTag}
    (hrow : allTags.find? (fun t => t.idTag = current.idTag) = some current) :
    (ancestorWalk allTags fuel visited current).map (·.idTag) =
      walk (parentOf allTags) fuel visited current.idTag := by
  induction fuel generalizing visited current with
  | zero => rfl
  | succ fuel ih =>
      unfold ancestorWalk walk
      cases hparent : current.parentIdTag with
      | none => simp [parentOf, hrow, hparent, truthy]
      | some parentIdTag =>
          by_cases hempty : parentIdTag = ""
          · simp [parentOf, hrow, hparent, truthy, hempty]
          · cases hfind : allTags.find? (fun t => t.idTag = parentIdTag) with
            | none =>
                have hstep : parentOf allTags current.idTag = none := by
                  simp [parentOf, hrow, hparent, truthy, hempty, hfind, Option.filter]
                simp [hstep, hempty, hfind]
            | some parent =>
                have hid : parent.idTag = parentIdTag := by simpa using List.find?_some hfind
                have hstep : parentOf allTags current.idTag = some parentIdTag := by
                  simp [parentOf, hrow, hparent, truthy, hempty, hfind, Option.filter]
                subst hid
                by_cases hvisited : parent.idTag ∈ visited
                · simp [hstep, hvisited]
                · simp [hstep, hvisited, hempty, hfind, ih (parent.idTag :: visited) hfind]

/-- More fuel than there are tags changes nothing: the loop has ended by itself. -/
lemma ancestorWalk_eq {fuel : ℕ} (tag : StEvEOcppTag) (h : allTags.length ≤ fuel) :
    ancestorWalk allTags fuel [tag.idTag] tag = getAllAncestorTags tag allTags := by
  induction fuel, h using Nat.le_induction with
  | base => rfl
  | succ fuel hle ih =>
      have hunvisited : (unvisitedTags allTags [tag.idTag]).length ≤ fuel :=
        (List.length_filter_le _ _).trans hle
      rw [ancestorWalk_succ tag hunvisited, ih]

end Hierarchy

/-! ## The mapping of a tag -/

/-- `m` is the active mapping of the tag, with a Lago customer or subscription. -/
def Bills (directMappings : List UserMapping) (idTag : String) (m : UserMapping) : Prop :=
  m ∈ directMappings ∧ m.steveOcppIdTag = idTag ∧ m.isActive = true ∧
    (truthy m.lagoCustomerExternalId = true ∨ truthy m.lagoSubscriptionExternalId = true)

/-- With one mapping a tag, the entry of `directMappingsByTag` is that mapping. -/
lemma directMappingsByTag_eq_some_iff_bills {directMappings : List UserMapping}
    (hdistinct : (directMappings.map (·.steveOcppIdTag)).Nodup) (idTag : String) (m : UserMapping) :
    directMappingsByTag directMappings idTag = some m ↔ Bills directMappings idTag m := by
  have hdirect : ∀ m : UserMapping, isDirectMapping m = true ↔ m.isActive = true ∧
      (truthy m.lagoCustomerExternalId = true ∨ truthy m.lagoSubscriptionExternalId = true) := by
    intro m
    simp only [isDirectMapping, Bool.and_eq_true, Bool.or_eq_true]
    tauto
  constructor
  · intro h
    obtain ⟨hmem, hm, htag⟩ := directMappingsByTag_spec h
    exact ⟨hmem, htag, (hdirect m).mp hm⟩
  · rintro ⟨hmem, htag, hm⟩
    obtain ⟨earlier, later, rfl⟩ := List.append_of_mem hmem
    refine directMappingsByTag_eq_some.mpr ⟨(hdirect m).mpr hm, htag, earlier, later, rfl, ?_⟩
    intro m' hlater htag'
    simp only [List.map_append, List.map_cons, List.nodup_append, List.nodup_cons] at hdistinct
    exact absurd (List.mem_map.mpr ⟨m', hlater, htag'.trans htag.symm⟩) hdistinct.2.1.1

/-- The mapping a listed tag resolves to is nearest up from it. -/
lemma resolveMapping_eq_some_iff {mappingsByTag : String → Option UserMapping}
    {allTags : List StEvEOcppTag} {idTag : String} (hlisted : ∃ tag ∈ allTags, tag.idTag = idTag)
    (m : UserMapping) :
    resolveMappingWithInheritance idTag mappingsByTag allTags = some m ↔
      NearestUp (parentOf allTags) (fun x m => mappingsByTag x = some m) idTag m := by
  unfold resolveMappingWithInheritance
  cases hdirect : mappingsByTag idTag with
  | some direct =>
      dsimp only
      rw [← hdirect]
      exact ⟨fun h => nearestUp_self h, fun h => h.eq_of_carries hdirect⟩
  | none =>
      obtain ⟨row, hrow⟩ : ∃ row, allTags.find? (fun t => t.idTag = idTag) = some row := by
        obtain ⟨tag, hmem, hid⟩ := hlisted
        exact Option.isSome_iff_exists.mp (List.find?_isSome.mpr ⟨tag, hmem, by simpa using hid⟩)
      have hid : row.idTag = idTag := by simpa using List.find?_some hrow
      subst hid
      have hwalk : (getAllAncestorTags row allTags).findSome? (fun ancestor =>
            mappingsByTag ancestor.idTag) = some m ↔
          NearestUp (parentOf allTags) (fun x m => mappingsByTag x = some m) row.idTag m := by
        rw [← findSome?_walk m (fun _ _ => parentOf_mem) (List.length_map _).le hdirect,
          ← map_ancestorWalk allTags.length [row.idTag] hrow, List.findSome?_map]
        rfl
      simp only [hrow]
      split
      · exact hwalk
      · next hparent =>
          rw [← hwalk, getAllAncestorTags_of_not_truthy (by simpa using hparent)]
          simp

/-- A tag that is not listed resolves to its own mapping only. -/
lemma resolveMapping_of_not_listed {allTags : List StEvEOcppTag} {idTag : String}
    (hlisted : ∀ tag ∈ allTags, tag.idTag ≠ idTag) (mappingsByTag : String → Option UserMapping) :
    resolveMappingWithInheritance idTag mappingsByTag allTags = mappingsByTag idTag := by
  have hfind : allTags.find? (fun t => t.idTag = idTag) = none := by
    simpa [List.find?_eq_none] using hlisted
  unfold resolveMappingWithInheritance
  cases mappingsByTag idTag with
  | some direct => rfl
  | none => simp [hfind]

/-- Mapping inheritance is nearest-ancestor: the walk over the ancestors ends whatever the parent
pointers, a listed tag has the mapping of the first tag on the way up that has one, and a tag that
is not listed has its own. -/
theorem buildMappingLookup_nearest (directMappings : List UserMapping)
    (hdistinct : (directMappings.map (·.steveOcppIdTag)).Nodup) (allTags : List StEvEOcppTag) :
    (∀ tag fuel, allTags.length ≤ fuel →
      ancestorWalk allTags fuel [tag.idTag] tag = getAllAncestorTags tag allTags) ∧
    (∀ tag ∈ allTags, ∀ m,
      buildMappingLookupWithInheritance directMappings allTags tag.idTag = some m ↔
        NearestUp (parentOf allTags) (Bills directMappings) tag.idTag m) ∧
    ∀ idTag, (∀ tag ∈ allTags, tag.idTag ≠ idTag) → ∀ m,
      buildMappingLookupWithInheritance directMappings allTags idTag = some m ↔
        Bills directMappings idTag m := by
  have hbills := directMappingsByTag_eq_some_iff_bills hdistinct
  refine ⟨fun tag fuel h => ancestorWalk_eq tag h, fun tag htag m => ?_,
    fun idTag hlisted m => ?_⟩
  · rw [buildMappingLookup_eq_resolve, resolveMapping_eq_some_iff ⟨tag, htag, rfl⟩]
    exact NearestUp.congr hbills
  · rw [buildMappingLookup_eq_resolve, resolveMapping_of_not_listed hlisted]
    exact hbills idTag m

namespace Scenario

/-- The mapping of a household's parent tag. -/
def householdMapping : UserMapping :=
  ⟨1, 20, "HOME", some "cust-1", none, none, .metaTag, true, none, none, none⟩

/-- A key below the household's tag, and two tags that point at each other. -/
def householdTags : List StEvEOcppTag :=
  [⟨"KEY", 21, none, some "HOME", none, none, none⟩,
    ⟨"HOME", 20, none, some "LOOP", none, none, none⟩, ⟨"LOOP", 22, none, some "HOME", none, none,
    none⟩]

end Scenario

open Scenario in
theorem buildMappingLookup_nearest_household :
    NearestUp (parentOf householdTags) (Bills [householdMapping]) "KEY" householdMapping ∧
      NearestUp (parentOf householdTags) (Bills [householdMapping]) "LOOP" householdMapping := by
  have hnearest := (buildMappingLookup_nearest [householdMapping] (by decide) householdTags).2.1
  exact ⟨(hnearest ⟨"KEY", 21, none, some "HOME", none, none, none⟩ (by decide) _).mp (by decide),
    (hnearest ⟨"LOOP", 22, none, some "HOME", none, none, none⟩ (by decide) _).mp (by decide)⟩

end ExpresSync
