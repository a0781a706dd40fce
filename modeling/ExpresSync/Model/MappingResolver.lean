import ExpresSync.Model.Types
import Mathlib.Logic.Function.Basic
import Mathlib.Data.List.Basic

/-!
# Who pays for a transaction

The mapping of an OCPP tag, inherited along StEvE's tag hierarchy
(`buildMappingLookupWithInheritance`), and the Lago subscription of a mapping
(`resolveSubscription`).

A JavaScript `Map` is modelled by its `get` function; the resolver iterates over no map it
returns.  The walk over the ancestors runs on fuel, and `ancestorWalk_succ` shows that the fuel
`getAllAncestorTags` gives it is enough for any parent pointers.

`resolveSubscription` calls Lago only when the mapping names no subscription and the cache has no
entry for the customer.  The two halves are separate functions (`resolveWithoutLago`,
`resolveFromLago`) because the emitter is suspended between them; `resolveSubscription` is their
composition for a given answer of Lago.
-/

namespace ExpresSync

/-! ## The tag hierarchy -/

/-- The loop of `getAllAncestorTags`: follow parent pointers until one is missing, unknown or
already visited. -/
def ancestorWalk (allTags : List StEvEOcppTag) : ℕ → List String → StEvEOcppTag → List StEvEOcppTag
  | 0, _, _ => []
  | fuel + 1, visited, current =>
      match current.parentIdTag with
      | none => []
      | some parentIdTag =>
          if parentIdTag = "" ∨ parentIdTag ∈ visited then []
          else
            match allTags.find? (fun t => t.idTag = parentIdTag) with
            | none => []
            | some parent => parent :: ancestorWalk allTags fuel (parentIdTag :: visited) parent

/-- The tags the walk can still reach. -/
def unvisitedTags (allTags : List StEvEOcppTag) (visited : List String) : List StEvEOcppTag :=
  allTags.filter fun t => t.idTag ∉ visited

/-- The ancestors of a tag, from its parent to the root. -/
def getAllAncestorTags (tag : StEvEOcppTag) (allTags : List StEvEOcppTag) : List StEvEOcppTag :=
  ancestorWalk allTags allTags.length [tag.idTag] tag

lemma unvisitedTags_length_lt {allTags : List StEvEOcppTag} {visited : List String}
    {parent : StEvEOcppTag} (hmem : parent ∈ allTags) (hnew : parent.idTag ∉ visited) :
    (unvisitedTags allTags (parent.idTag :: visited)).length <
      (unvisitedTags allTags visited).length := by
  have hin : parent ∈ unvisitedTags allTags visited := by
    simp [unvisitedTags, hmem, hnew]
  have hsub : unvisitedTags allTags (parent.idTag :: visited) =
      (unvisitedTags allTags visited).filter fun t => t.idTag ≠ parent.idTag := by
    simp only [unvisitedTags, List.filter_filter, List.mem_cons, not_or, ne_eq, Bool.decide_and]
  rw [hsub]
  exact List.length_filter_lt_length_iff_exists.mpr ⟨parent, hin, by simp⟩

/-- One more unit of fuel changes nothing once there is a unit for every unvisited tag. -/
theorem ancestorWalk_succ {allTags : List StEvEOcppTag} {fuel : ℕ} {visited : List String}
    (current : StEvEOcppTag) (h : (unvisitedTags allTags visited).length ≤ fuel) :
    ancestorWalk allTags (fuel + 1) visited current = ancestorWalk allTags fuel visited
      current := by
  induction fuel generalizing visited current with
  | zero =>
      have hnil : unvisitedTags allTags visited = [] := List.length_eq_zero_iff.mp (by omega)
      simp only [ancestorWalk]
      split
      · rfl
      · next parentIdTag _ =>
          split
          · rfl
          · next hnew =>
              split
              · rfl
              · next parent hfind =>
                  have hid : parent.idTag = parentIdTag := by simpa using List.find?_some hfind
                  have hin : parent ∈ unvisitedTags allTags visited := by
                    simp only [unvisitedTags, List.mem_filter, decide_eq_true_eq]
                    exact ⟨List.mem_of_find?_eq_some hfind, by rw [hid]; tauto⟩
                  rw [hnil] at hin
                  simp at hin
  | succ fuel ih =>
      unfold ancestorWalk
      split
      · rfl
      · next parentIdTag _ =>
          split
          · rfl
          · next hnew =>
              split
              · rfl
              · next parent hfind =>
                  have hid : parent.idTag = parentIdTag := by simpa using List.find?_some hfind
                  have hlt : (unvisitedTags allTags (parent.idTag :: visited)).length <
                      (unvisitedTags allTags visited).length :=
                    unvisitedTags_length_lt (List.mem_of_find?_eq_some hfind) (by rw [hid]; tauto)
                  rw [hid] at hlt
                  rw [ih parent (by omega)]

/-! ## Mappings -/

/-- `resolveMappingWithInheritance`: the mapping of the tag itself, else that of its nearest
ancestor with one. -/
def resolveMappingWithInheritance (ocppIdTag : String) (mappingsByTag : String → Option UserMapping)
    (allTags : List StEvEOcppTag) : Option UserMapping :=
  match mappingsByTag ocppIdTag with
  | some directMapping => some directMapping
  | none =>
      match allTags.find? (fun t => t.idTag = ocppIdTag) with
      | none => none
      | some tag =>
          if truthy tag.parentIdTag then
            (getAllAncestorTags tag allTags).findSome? fun ancestor => mappingsByTag ancestor.idTag
          else none

/-- Mappings that carry a Lago id and are switched on. -/
def isDirectMapping (m : UserMapping) : Bool :=
  (truthy m.lagoSubscriptionExternalId || truthy m.lagoCustomerExternalId) && m.isActive

/-- `directMappingsByTag`: later rows of the same tag replace earlier ones. -/
def directMappingsByTag (directMappings : List UserMapping) (idTag : String) : Option UserMapping :=
  ((directMappings.filter isDirectMapping).reverse).find? fun m => m.steveOcppIdTag = idTag

/-- One turn of the loop of `buildMappingLookupWithInheritance`. -/
def addInheritedMapping (directMappings : List UserMapping) (allTags : List StEvEOcppTag)
    (enhancedMap : String → Option UserMapping) (tag : StEvEOcppTag) :
      String → Option UserMapping :=
  if (enhancedMap tag.idTag).isSome then enhancedMap
  else
    match resolveMappingWithInheritance tag.idTag (directMappingsByTag directMappings) allTags with
    | some resolvedMapping => Function.update enhancedMap tag.idTag (some resolvedMapping)
    | none => enhancedMap

/-- `buildMappingLookupWithInheritance`: the direct mappings, and for every listed tag without
one the mapping it inherits. -/
def buildMappingLookupWithInheritance (directMappings : List UserMapping)
    (allTags : List StEvEOcppTag) : String → Option UserMapping :=
  allTags.foldl (addInheritedMapping directMappings allTags) (directMappingsByTag directMappings)

lemma directMappingsByTag_spec {directMappings : List UserMapping} {idTag : String}
    {m : UserMapping} (h : directMappingsByTag directMappings idTag = some m) :
    m ∈ directMappings ∧ isDirectMapping m = true ∧ m.steveOcppIdTag = idTag := by
  have hmem := List.mem_of_find?_eq_some h
  have htag : m.steveOcppIdTag = idTag := by simpa using List.find?_some h
  simp only [List.mem_reverse, List.mem_filter] at hmem
  exact ⟨hmem.1, hmem.2, htag⟩

lemma directMappingsByTag_cons (head : UserMapping) (tail : List UserMapping) (idTag : String) :
    directMappingsByTag (head :: tail) idTag = (directMappingsByTag tail idTag).or
      (if isDirectMapping head = true ∧ head.steveOcppIdTag = idTag then some head else none) := by
  unfold directMappingsByTag
  by_cases hdirect : isDirectMapping head = true
  · rw [List.filter_cons_of_pos hdirect, List.reverse_cons, List.find?_append]
    by_cases htag : head.steveOcppIdTag = idTag <;> simp [hdirect, htag]
  · rw [List.filter_cons_of_neg hdirect, if_neg fun h => hdirect h.1, Option.or_none]

lemma directMappingsByTag_eq_none {directMappings : List UserMapping} {idTag : String} :
    directMappingsByTag directMappings idTag = none ↔
      ∀ m ∈ directMappings, m.steveOcppIdTag = idTag → isDirectMapping m = false := by
  simp only [directMappingsByTag, List.find?_eq_none, List.mem_reverse, List.mem_filter,
    decide_eq_true_eq, and_imp]
  constructor
  · exact fun h m hm htag => Bool.eq_false_iff.mpr fun hdirect => h m hm hdirect htag
  · intro h m hm hdirect htag
    rw [h m hm htag] at hdirect
    cases hdirect

/-- The last row of a tag that is a direct mapping is the mapping of the tag. -/
lemma directMappingsByTag_eq_some {directMappings : List UserMapping} {idTag : String}
    {m : UserMapping} :
    directMappingsByTag directMappings idTag = some m ↔
      isDirectMapping m = true ∧ m.steveOcppIdTag = idTag ∧
        ∃ earlier later, directMappings = earlier ++ m :: later ∧
          ∀ m' ∈ later, m'.steveOcppIdTag = idTag → isDirectMapping m' = false := by
  induction directMappings with
  | nil => simp [directMappingsByTag]
  | cons head tail ih =>
      rw [directMappingsByTag_cons, Option.or_eq_some_iff, ih, directMappingsByTag_eq_none]
      constructor
      · rintro (⟨hdirect, htag, earlier, later, rfl, hlater⟩ | ⟨htail, hhead⟩)
        · exact ⟨hdirect, htag, head :: earlier, later, rfl, hlater⟩
        · split at hhead
          · next hok =>
              obtain rfl := Option.some.inj hhead
              exact ⟨hok.1, hok.2, [], tail, rfl, htail⟩
          · simp at hhead
      · rintro ⟨hdirect, htag, earlier, later, heq, hlater⟩
        cases earlier with
        | nil =>
            obtain ⟨rfl, rfl⟩ := List.cons.inj heq
            exact Or.inr ⟨hlater, if_pos ⟨hdirect, htag⟩⟩
        | cons first earlier =>
            obtain ⟨-, rfl⟩ := List.cons.inj heq
            exact Or.inl ⟨hdirect, htag, earlier, later, rfl, hlater⟩

/-- Inactive rows play no part. -/
lemma directMappingsByTag_filter_active (directMappings : List UserMapping) :
    directMappingsByTag (directMappings.filter (·.isActive)) =
      directMappingsByTag directMappings := by
  funext idTag
  have hfilter : (directMappings.filter (·.isActive)).filter isDirectMapping =
      directMappings.filter isDirectMapping := by
    rw [List.filter_filter]
    refine List.filter_congr fun m _ => ?_
    simp [isDirectMapping]
  rw [directMappingsByTag, hfilter, directMappingsByTag]

/-- A tag without a direct mapping resolves to a direct mapping of one of its ancestors. -/
lemma resolveMappingWithInheritance_spec {ocppIdTag : String} {directMappings : List UserMapping}
    {allTags : List StEvEOcppTag} {m : UserMapping}
    (h : resolveMappingWithInheritance ocppIdTag (directMappingsByTag directMappings) allTags =
      some m) :
    ∃ idTag, directMappingsByTag directMappings idTag = some m := by
  unfold resolveMappingWithInheritance at h
  split at h
  · next direct hdirect =>
      obtain rfl : direct = m := by simpa using h
      exact ⟨ocppIdTag, hdirect⟩
  · split at h
    · simp at h
    · next tag _ =>
        split at h
        · obtain ⟨ancestor, -, hancestor⟩ := List.exists_of_findSome?_eq_some h
          exact ⟨ancestor.idTag, hancestor⟩
        · simp at h

section Lookup

variable {directMappings : List UserMapping} {allTags : List StEvEOcppTag}

/-- A turn of the loop keeps the entries there are, and a new entry is a direct mapping. -/
lemma addInheritedMapping_spec {enhancedMap : String → Option UserMapping} {tag : StEvEOcppTag}
    {idTag : String} {m : UserMapping}
    (h : addInheritedMapping directMappings allTags enhancedMap tag idTag = some m) :
    enhancedMap idTag = some m ∨ ∃ direct, directMappingsByTag directMappings direct = some m := by
  unfold addInheritedMapping at h
  split at h
  · exact Or.inl h
  · cases hresolved : resolveMappingWithInheritance tag.idTag
        (directMappingsByTag directMappings) allTags with
    | none =>
        simp only [hresolved] at h
        exact Or.inl h
    | some resolved =>
        simp only [hresolved] at h
        by_cases heq : idTag = tag.idTag
        · subst heq
          obtain rfl : resolved = m := by simpa using h
          exact Or.inr (resolveMappingWithInheritance_spec hresolved)
        · rw [Function.update_of_ne heq] at h
          exact Or.inl h

lemma addInheritedMapping_of_some {enhancedMap : String → Option UserMapping} {tag : StEvEOcppTag}
    {idTag : String} {m : UserMapping} (h : enhancedMap idTag = some m) :
    addInheritedMapping directMappings allTags enhancedMap tag idTag = some m := by
  unfold addInheritedMapping
  split
  · exact h
  · next hnone =>
      have hne : idTag ≠ tag.idTag := fun heq => by
        rw [← heq, h] at hnone
        simp at hnone
      cases hresolved : resolveMappingWithInheritance tag.idTag
          (directMappingsByTag directMappings) allTags with
      | none => exact h
      | some resolved =>
          simp only []
          rw [Function.update_of_ne hne]
          exact h

/-- The loop keeps the entries there are. -/
lemma foldl_addInheritedMapping_of_some {idTag : String} {m : UserMapping}
    (tags : List StEvEOcppTag)
    {enhancedMap : String → Option UserMapping} (h : enhancedMap idTag = some m) :
    tags.foldl (addInheritedMapping directMappings allTags) enhancedMap idTag = some m := by
  induction tags generalizing enhancedMap with
  | nil => exact h
  | cons tag tags ih => exact ih (addInheritedMapping_of_some h)

/-- A direct mapping always wins. -/
lemma buildMappingLookup_of_direct {idTag : String} {m : UserMapping}
    (h : directMappingsByTag directMappings idTag = some m) :
    buildMappingLookupWithInheritance directMappings allTags idTag = some m :=
  foldl_addInheritedMapping_of_some allTags h

/-- Whatever the lookup returns is a direct mapping of some tag. -/
lemma buildMappingLookup_spec {idTag : String} {m : UserMapping}
    (h : buildMappingLookupWithInheritance directMappings allTags idTag = some m) :
    ∃ direct, directMappingsByTag directMappings direct = some m := by
  have hkeep : ∀ (tags : List StEvEOcppTag) (enhancedMap : String → Option UserMapping),
      tags.foldl (addInheritedMapping directMappings allTags) enhancedMap idTag = some m →
        enhancedMap idTag = some m ∨
          ∃ direct, directMappingsByTag directMappings direct = some m := by
    intro tags
    induction tags with
    | nil => exact fun _ h => Or.inl h
    | cons tag tags ih =>
        intro enhancedMap hm
        rcases ih _ hm with hmid | hdirect
        · exact addInheritedMapping_spec hmid
        · exact Or.inr hdirect
  rcases hkeep allTags _ h with hdirect | hdirect
  · exact ⟨idTag, hdirect⟩
  · exact hdirect

lemma addInheritedMapping_of_ne (enhancedMap : String → Option UserMapping) {tag : StEvEOcppTag}
    {idTag : String} (hne : idTag ≠ tag.idTag) :
    addInheritedMapping directMappings allTags enhancedMap tag idTag = enhancedMap idTag := by
  unfold addInheritedMapping
  split
  · rfl
  · cases resolveMappingWithInheritance tag.idTag (directMappingsByTag directMappings) allTags with
    | none => rfl
    | some resolved => exact Function.update_of_ne hne _ _

/-- A turn of the loop resolves its own tag, unless the tag has a mapping already. -/
lemma addInheritedMapping_self {enhancedMap : String → Option UserMapping} {tag : StEvEOcppTag}
    (hnone : enhancedMap tag.idTag = none) :
    addInheritedMapping directMappings allTags enhancedMap tag tag.idTag =
      resolveMappingWithInheritance tag.idTag (directMappingsByTag directMappings) allTags := by
  unfold addInheritedMapping
  rw [if_neg (by simp [hnone])]
  cases resolveMappingWithInheritance tag.idTag (directMappingsByTag directMappings) allTags with
  | none => exact hnone
  | some resolved => exact Function.update_self _ _ _

/-- The lookup gives every tag, listed or not, the mapping it resolves to. -/
theorem buildMappingLookup_eq_resolve (directMappings : List UserMapping)
    (allTags : List StEvEOcppTag) (idTag : String) :
    buildMappingLookupWithInheritance directMappings allTags idTag =
      resolveMappingWithInheritance idTag (directMappingsByTag directMappings) allTags := by
  cases hdirect : directMappingsByTag directMappings idTag with
  | some m =>
      rw [buildMappingLookup_of_direct hdirect]
      simp [resolveMappingWithInheritance, hdirect]
  | none =>
      -- The entry stays empty until the loop meets the tag, and is kept from then on.
      have hloop : ∀ (tags : List StEvEOcppTag) (enhancedMap : String → Option UserMapping),
          enhancedMap idTag = none →
            tags.foldl (addInheritedMapping directMappings allTags) enhancedMap idTag =
              if idTag ∈ tags.map (·.idTag) then
                resolveMappingWithInheritance idTag (directMappingsByTag directMappings) allTags
              else none := by
        intro tags
        induction tags with
        | nil => exact fun _ hnone => hnone
        | cons tag tags ih =>
            intro enhancedMap hnone
            rw [List.foldl_cons]
            by_cases heq : idTag = tag.idTag
            · subst heq
              rw [if_pos (by simp)]
              cases hresolved : resolveMappingWithInheritance tag.idTag
                  (directMappingsByTag directMappings) allTags with
              | none =>
                  rw [ih _ ((addInheritedMapping_self hnone).trans hresolved), hresolved, ite_self]
              | some m =>
                  exact foldl_addInheritedMapping_of_some tags
                    ((addInheritedMapping_self hnone).trans hresolved)
            · rw [ih _ ((addInheritedMapping_of_ne enhancedMap heq).trans hnone)]
              simp [heq]
      rw [buildMappingLookupWithInheritance, hloop allTags _ hdirect]
      split
      · rfl
      · next hunlisted =>
          have hfind : allTags.find? (fun t => t.idTag = idTag) = none := by
            rw [List.find?_eq_none]
            intro tag htag
            simp only [decide_eq_true_eq]
            rintro rfl
            exact hunlisted (List.mem_map_of_mem htag)
          simp [resolveMappingWithInheritance, hdirect, hfind]

/-- A tag without parent has no ancestors. -/
lemma getAllAncestorTags_of_not_truthy {tag : StEvEOcppTag} (h : truthy tag.parentIdTag = false)
    (allTags : List StEvEOcppTag) : getAllAncestorTags tag allTags = [] := by
  unfold getAllAncestorTags
  cases allTags.length with
  | zero => rfl
  | succ fuel =>
      unfold ancestorWalk
      cases hparent : tag.parentIdTag with
      | none => rfl
      | some parentIdTag =>
          have hempty : parentIdTag = "" := by simpa [truthy, hparent] using h
          simp [hempty]

/-- A tag has no mapping exactly when neither the tag itself nor any of its ancestors has a direct
one. -/
theorem buildMappingLookup_eq_none {idTag : String} :
    buildMappingLookupWithInheritance directMappings allTags idTag = none ↔
      directMappingsByTag directMappings idTag = none ∧
        ∀ tag, allTags.find? (fun t => t.idTag = idTag) = some tag →
          ∀ ancestor ∈ getAllAncestorTags tag allTags,
            directMappingsByTag directMappings ancestor.idTag = none := by
  rw [buildMappingLookup_eq_resolve]
  unfold resolveMappingWithInheritance
  cases hdirect : directMappingsByTag directMappings idTag with
  | some m => simp
  | none =>
      cases hfind : allTags.find? (fun t => t.idTag = idTag) with
      | none => simp
      | some tag =>
          cases hparent : truthy tag.parentIdTag with
          | false => simp [getAllAncestorTags_of_not_truthy hparent]
          | true => simp [hparent, List.findSome?_eq_none_iff]

end Lookup

/-! ## Subscriptions -/

/-- A resolved subscription; `planCode` is `none` when the mapping named it and Lago was not
asked. -/
structure ResolvedSubscription where
  externalId : String
  planCode : Option String
deriving DecidableEq

/-- `SubscriptionResolutionCache` by customer: no entry, a negative entry, or a subscription. -/
abbrev SubscriptionResolutionCache := String → Option (Option ResolvedSubscription)

/-- The cache without entries. -/
def SubscriptionResolutionCache.empty : SubscriptionResolutionCache := fun _ => none

/-- What a call of `lagoClient.getSubscriptions` settles to: the list, or the error it rejects
with. -/
abbrev SubscriptionsAnswer := Except String (List LagoSubscription)

/-- The part of `resolveSubscription` before the API call: an explicit subscription, a mapping
without customer, or a cached answer.  `none` when Lago has to be asked. -/
def resolveWithoutLago (mapping : UserMapping) (cache : SubscriptionResolutionCache) :
    Option (Option ResolvedSubscription) :=
  if truthy mapping.lagoSubscriptionExternalId then
    some (mapping.lagoSubscriptionExternalId.map fun externalId => ⟨externalId, none⟩)
  else if truthy mapping.lagoCustomerExternalId then
    mapping.lagoCustomerExternalId.bind cache
  else some none

/-- The first active subscription of a list. -/
def activeSubscription (subscriptions : List LagoSubscription) : Option ResolvedSubscription :=
  (subscriptions.find? fun sub => sub.status = .active).map fun sub =>
    ⟨sub.externalId, some sub.planCode⟩

/-- `cache.set(customer, resolved)`. -/
def SubscriptionResolutionCache.set (cache : SubscriptionResolutionCache) (customer : Option String)
    (resolved : Option ResolvedSubscription) : SubscriptionResolutionCache :=
  match customer with
  | none => cache
  | some customer => Function.update cache customer (some resolved)

/-- The part of `resolveSubscription` after the API call.  A rejected call is caught and answered
like a customer without subscription, but leaves the cache alone. -/
def resolveFromLago (mapping : UserMapping) (cache : SubscriptionResolutionCache)
    (answer : SubscriptionsAnswer) : Option ResolvedSubscription × SubscriptionResolutionCache :=
  match answer with
  | .ok subscriptions =>
      (activeSubscription subscriptions,
        cache.set mapping.lagoCustomerExternalId (activeSubscription subscriptions))
  | .error _ => (none, cache)

/-- `resolveSubscription(mapping, cache)` when Lago, if asked, answers `answer`. -/
def resolveSubscription (mapping : UserMapping) (cache : SubscriptionResolutionCache)
    (answer : SubscriptionsAnswer) : Option ResolvedSubscription × SubscriptionResolutionCache :=
  match resolveWithoutLago mapping cache with
  | some resolved => (resolved, cache)
  | none => resolveFromLago mapping cache answer

/-- The mapping names its subscription itself. -/
def UserMapping.isExplicit (m : UserMapping) : Bool := truthy m.lagoSubscriptionExternalId

lemma resolveWithoutLago_of_explicit {m : UserMapping} (h : m.isExplicit = true)
    (cache : SubscriptionResolutionCache) :
    ∃ externalId, m.lagoSubscriptionExternalId = some externalId ∧
      resolveWithoutLago m cache = some (some ⟨externalId, none⟩) := by
  obtain ⟨externalId, hid⟩ := exists_of_truthy h
  refine ⟨externalId, hid, ?_⟩
  unfold UserMapping.isExplicit at h
  rw [resolveWithoutLago, if_pos h, hid]
  rfl

/-- What a mapping without a subscription of its own resolves to without asking Lago is an answer
from the cache. -/
lemma resolveWithoutLago_of_not_explicit {m : UserMapping} {cache : SubscriptionResolutionCache}
    {subscription : ResolvedSubscription} (hexplicit : m.isExplicit = false)
    (h : resolveWithoutLago m cache = some (some subscription)) :
    ∃ customer, m.lagoCustomerExternalId = some customer ∧
      cache customer = some (some subscription) := by
  unfold UserMapping.isExplicit at hexplicit
  rw [resolveWithoutLago, if_neg (by simp [hexplicit])] at h
  split at h
  · exact Option.bind_eq_some_iff.mp h
  · simp at h

end ExpresSync
