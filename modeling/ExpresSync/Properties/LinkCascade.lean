import ExpresSync.Foundation.Transition
import ExpresSync.Model.TagLinks

/-!
# What a link request leaves in the mappings below

The mappings of the descendants take over what the request sets in the mapping itself, but for an
explicit `null` for the customer or the subscription: it clears the column of the mapping and
leaves the descendants with the old value (`link_cascade_complete_iff`).
-/

namespace ExpresSync

/-! ## Descendants -/

/-- The tag is below the other one, and not that one itself. -/
def TagHierarchy.Descends (allTags : TagHierarchy) (root : String) (tag : StEvEOcppTag) : Prop :=
  tag ∈ allTags.entries ∧ tag.idTag ≠ root ∧
    Relation.TransGen
      (fun parent child => ∃ t ∈ allTags.entries, t.parentIdTag = some parent ∧ t.idTag = child)
      root tag.idTag

/-- `getAllChildTags` finds the tags below, whatever cycles there are. -/
theorem mem_getAllChildTags {allTags : TagHierarchy} {root : String} {tag : StEvEOcppTag} :
    tag ∈ getAllChildTags root allTags.entries ↔ allTags.Descends root tag := by
  set kids := fun currentParentId =>
    allTags.entries.filter fun tag => decide (tag.parentIdTag = some currentParentId) with hkids
  have hkid : ∀ {parent : String} {t : StEvEOcppTag},
      t ∈ kids parent ↔ t ∈ allTags.entries ∧ t.parentIdTag = some parent := by
    intro parent t
    simp [hkids]
  have hnodes : ∀ parent, ∀ t ∈ kids parent, t.idTag ∈ allTags.entries.map StEvEOcppTag.idTag :=
    fun parent t ht => List.mem_map_of_mem (hkid.mp ht).1
  have hfuel : (allTags.entries.map StEvEOcppTag.idTag).length < allTags.entries.length + 1 := by
    rw [List.length_map]
    exact Nat.lt_succ_self _
  have hkey : ∀ p, ∀ t ∈ kids p, ∀ p', ∀ t' ∈ kids p', t.idTag = t'.idTag → t = t' :=
    fun p t ht p' t' ht' heq => KeyedLog.eq_of_key (hkid.mp ht).1 (hkid.mp ht').1 heq
  have hedge : DepthFirst.Edge kids StEvEOcppTag.idTag = fun parent child =>
      ∃ t ∈ allTags.entries, t.parentIdTag = some parent ∧ t.idTag = child := by
    funext parent child
    simp only [DepthFirst.Edge, hkid, and_assoc]
  rw [getAllChildTags, DepthFirst.mem_visitRoot_iff hnodes hfuel hkey, hedge]
  constructor
  · rintro ⟨⟨parent, hmem⟩, hne, hpath⟩
    exact ⟨(hkid.mp hmem).1, hne, hpath⟩
  · rintro ⟨hmem, hne, hpath⟩
    refine ⟨?_, hne, hpath⟩
    obtain ⟨parent, -, t, ht, hparent, hid⟩ := Relation.TransGen.tail'_iff.mp hpath
    obtain rfl := KeyedLog.eq_of_key ht hmem hid
    exact ⟨parent, hkid.mpr ⟨ht, hparent⟩⟩

/-! ## Updates -/

namespace LinkUpdates

variable {updates : LinkUpdates} {row : TagLink}

@[simp] lemma apply_id : (updates.apply row).id = row.id := rfl

@[simp] lemma apply_steveOcppTagPk : (updates.apply row).steveOcppTagPk = row.steveOcppTagPk := rfl

/-- To update a row once more changes nothing. -/
lemma apply_apply : updates.apply (updates.apply row) = updates.apply row := by
  obtain ⟨customer, subscription, isActive, tier, tagType, userId⟩ := updates
  simp only [apply]
  cases customer <;> cases subscription <;> cases isActive <;> cases tier <;> cases tagType <;>
    cases userId <;> rfl

end LinkUpdates

namespace TagLinkTable

variable {table after : TagLinkTable} {env : LinkEnv} {sel : TagLink → Bool}
  {updates : LinkUpdates} {returned : List TagLink}

lemma eq_of_id {a b : TagLink} (ha : a ∈ table.rows) (hb : b ∈ table.rows) (h : a.id = b.id) :
    a = b := List.inj_on_of_nodup_map table.nodup_id ha hb h

lemma eq_of_pk {a b : TagLink} (ha : a ∈ table.rows) (hb : b ∈ table.rows)
    (h : a.steveOcppTagPk = b.steveOcppTagPk) : a = b :=
  List.inj_on_of_nodup_map table.nodup_pk ha hb h

lemma of_updateReturning (h : table.updateReturning env sel updates = some (after, returned)) :
    after = table.update sel updates ∧
      returned = (table.rows.filter sel).map updates.apply := by
  simp only [updateReturning, Option.ite_none_right_eq_some, Option.some.injEq, Prod.mk.injEq] at h
  exact ⟨h.2.1.symm, h.2.2.symm⟩

end TagLinkTable

/-! ## The transaction -/

section

variable {env : LinkEnv} {table after : TagLinkTable} {currentMapping mapping : TagLink}
  {body : LinkBody} {updates : LinkUpdates}

/-- The loop updates the rows of the tags it goes through. -/
lemma rows_of_cascade {childUpdates : LinkUpdates} {childTags : List StEvEOcppTag}
    (h : env.cascade childUpdates childTags table = .ok after) :
    after.rows = table.rows.map fun row =>
      if row.steveOcppTagPk ∈ childTags.map StEvEOcppTag.ocppTagPk then childUpdates.apply row
      else row := by
  induction childTags generalizing table with
  | nil =>
      obtain rfl : table = after := Except.ok.inj h
      simp
  | cons childTag childTags ih =>
      rw [LinkEnv.cascade] at h
      split at h
      · cases h
      · next mid returned hupdate =>
        obtain ⟨rfl, -⟩ := TagLinkTable.of_updateReturning hupdate
        rw [ih h, TagLinkTable.update, List.map_map]
        refine List.map_congr_left fun row _ => ?_
        simp only [Function.comp_apply, decide_eq_true_eq, List.map_cons, List.mem_cons]
        by_cases hself : row.steveOcppTagPk = childTag.ocppTagPk
        · simp only [hself, if_true, true_or, LinkUpdates.apply_steveOcppTagPk,
            LinkUpdates.apply_apply, ite_self]
        · simp only [hself, if_false, false_or]

lemma of_updates (h : body.updates = .ok updates) :
    updates.lagoCustomerExternalId = body.lagoCustomerExternalId.toUpdate ∧
      updates.lagoSubscriptionExternalId = body.lagoSubscriptionExternalId.toUpdate ∧
      updates.isActive = body.isActive.toUpdate := by
  obtain ⟨billingTier, -, hrest⟩ := Except.exists_of_bind_eq_ok h
  obtain ⟨tagType, -, hupdates⟩ := Except.exists_of_bind_eq_ok hrest
  obtain rfl := Except.ok.inj hupdates
  exact ⟨rfl, rfl, rfl⟩

/-- The row that a transaction leaves of a row. -/
def linkedRow (body : LinkBody) (updates : LinkUpdates) (currentMapping : TagLink)
    (childPks : List ℕ) (userId : Option String) (row : TagLink) : TagLink :=
  let own := if row.id = currentMapping.id then { updates with userId := userId }.apply row else row
  if row.steveOcppTagPk ∈ childPks then (body.childUpdates currentMapping userId).apply own else own

/-- Neither update touches the keys of a row. -/
lemma linkedRow_keys (childPks : List ℕ) (userId : Option String) (row : TagLink) :
    (linkedRow body updates currentMapping childPks userId row).id = row.id ∧
      (linkedRow body updates currentMapping childPks userId row).steveOcppTagPk =
        row.steveOcppTagPk := by
  unfold linkedRow
  constructor <;> dsimp only <;> split <;> split <;> rfl

/-- A transaction that goes through the descendants updates the mapping first and theirs then. -/
lemma rows_of_linkTransaction {allTags : TagHierarchy} (htags : env.getOcppTags = some allTags)
    (hcascade : (body.cascadeIsActive || body.cascadeLago) = true)
    (h : env.linkTransaction table currentMapping body updates = .ok (after, mapping)) :
    ∃ userId, after.rows = table.rows.map (linkedRow body updates currentMapping
      ((getAllChildTags currentMapping.steveOcppIdTag allTags.entries).map
        StEvEOcppTag.ocppTagPk) userId) := by
  obtain ⟨userId, -, hrest⟩ := Except.exists_of_bind_eq_ok h
  refine ⟨userId, ?_⟩
  dsimp only at hrest
  split at hrest
  · cases hrest
  · split at hrest
    · next mid updated hupdate =>
      obtain ⟨rfl, -⟩ := TagLinkTable.of_updateReturning hupdate
      rw [htags] at hrest
      obtain ⟨final, hfinal, hpair⟩ := Except.exists_of_bind_eq_ok hrest
      obtain ⟨rfl, -⟩ := Prod.mk.inj (Except.ok.inj hpair)
      rw [rows_of_cascade hfinal, TagLinkTable.update, List.map_map]
      refine List.map_congr_left fun row _ => ?_
      simp only [Function.comp_apply, decide_eq_true_eq, linkedRow]
      by_cases hself : row.id = currentMapping.id <;> simp [hself]
    · cases hrest

end

/-! ## Complete cascades -/

/-- The two rows have the same values in the fields that the body supplies. -/
structure LinkBody.Agree (body : LinkBody) (child parent : TagLink) : Prop where
  customer : body.lagoCustomerExternalId.isSupplied = true →
    child.lagoCustomerExternalId = parent.lagoCustomerExternalId
  subscription : body.lagoSubscriptionExternalId.isSupplied = true →
    child.lagoSubscriptionExternalId = parent.lagoSubscriptionExternalId
  isActive : body.isActive.isSupplied = true → child.isActive = parent.isActive

/-- Each mapping of a tag below agrees with the mapping itself. -/
def CascadeComplete (allTags : TagHierarchy) (body : LinkBody) (currentMapping : TagLink)
    (after : TagLinkTable) : Prop :=
  ∀ tag, allTags.Descends currentMapping.steveOcppIdTag tag →
    ∀ child ∈ after.rows, child.steveOcppTagPk = tag.ocppTagPk →
      ∀ parent ∈ after.rows, parent.id = currentMapping.id → body.Agree child parent

/-- The body sets the customer or the subscription to `null`, and it is not. -/
def LinkBody.Clears (body : LinkBody) (currentMapping : TagLink) : Prop :=
  body.lagoCustomerExternalId = .null ∧ currentMapping.lagoCustomerExternalId ≠ none ∨
    body.lagoSubscriptionExternalId = .null ∧ currentMapping.lagoSubscriptionExternalId ≠ none

/-- A mapping is that of a tag below. -/
def TagHierarchy.Below (allTags : TagHierarchy) (currentMapping row : TagLink) : Prop :=
  ∃ tag, allTags.Descends currentMapping.steveOcppIdTag tag ∧ row.steveOcppTagPk = tag.ocppTagPk

section

variable {env : LinkEnv} {table after : TagLinkTable} {currentMapping mapping : TagLink}
  {body : LinkBody} {updates : LinkUpdates} {allTags : TagHierarchy}

/-- A field that is supplied is what its fallback gives, unless it clears the old value. -/
lemma JsonField.orElse_eq_column_iff {α : Type} {field : JsonField α} {old : Option α} :
    (field.isSupplied = true → field.orElse old = field.column) ↔
      ¬(field = .null ∧ old ≠ none) := by
  cases field with
  | undefined => simp [isSupplied]
  | null => simp [isSupplied, orElse, column]
  | value a => simp [orElse, column]

lemma below_iff_mem {row : TagLink} : allTags.Below currentMapping row ↔ row.steveOcppTagPk ∈
    (getAllChildTags currentMapping.steveOcppIdTag allTags.entries).map
      StEvEOcppTag.ocppTagPk := by
  simp only [TagHierarchy.Below, List.mem_map, mem_getAllChildTags, eq_comm]

lemma cascades_of_supplied
    (h : body.lagoCustomerExternalId.isSupplied = true ∨
      body.lagoSubscriptionExternalId.isSupplied = true ∨ body.isActive.isSupplied = true) :
    (body.cascadeIsActive || body.cascadeLago) = true := by
  rcases h with h | h | h <;> simp [LinkBody.cascadeIsActive, LinkBody.cascadeLago, h]

/-- Whatever two rows were, those that the loop updates agree. -/
lemma agree_of_childUpdates {userId : Option String} {a b : TagLink} :
    body.Agree ((body.childUpdates currentMapping userId).apply a)
      ((body.childUpdates currentMapping userId).apply b) where
  customer h := by simp [LinkBody.childUpdates, LinkUpdates.apply, LinkBody.cascadeLago, h]
  subscription h := by simp [LinkBody.childUpdates, LinkUpdates.apply, LinkBody.cascadeLago, h]
  isActive h := by simp [LinkBody.childUpdates, LinkUpdates.apply, LinkBody.cascadeIsActive, h]

/-- A row that the loop updates agrees with the mapping itself, which it does not update, unless
the body clears what it falls back to. -/
lemma agree_childUpdates_iff {userId : Option String} {a : TagLink}
    (hupdates : body.updates = .ok updates) :
    body.Agree ((body.childUpdates currentMapping userId).apply a)
      ({ updates with userId := userId }.apply currentMapping) ↔ ¬body.Clears currentMapping := by
  obtain ⟨hcustomer, hsubscription, hactive⟩ := of_updates hupdates
  rw [LinkBody.Clears, not_or, ← JsonField.orElse_eq_column_iff, ← JsonField.orElse_eq_column_iff]
  have hcustomerIff : (body.lagoCustomerExternalId.isSupplied = true →
      ((body.childUpdates currentMapping userId).apply a).lagoCustomerExternalId =
        ({ updates with userId := userId }.apply currentMapping).lagoCustomerExternalId) ↔
      (body.lagoCustomerExternalId.isSupplied = true →
        body.lagoCustomerExternalId.orElse currentMapping.lagoCustomerExternalId =
          body.lagoCustomerExternalId.column) := by
    refine forall_congr' fun h => ?_
    simp [LinkBody.childUpdates, LinkUpdates.apply, LinkBody.cascadeLago, h, hcustomer,
      JsonField.toUpdate]
  have hsubscriptionIff : (body.lagoSubscriptionExternalId.isSupplied = true →
      ((body.childUpdates currentMapping userId).apply a).lagoSubscriptionExternalId =
        ({ updates with userId := userId }.apply currentMapping).lagoSubscriptionExternalId) ↔
      (body.lagoSubscriptionExternalId.isSupplied = true →
        body.lagoSubscriptionExternalId.orElse currentMapping.lagoSubscriptionExternalId =
          body.lagoSubscriptionExternalId.column) := by
    refine forall_congr' fun h => ?_
    simp [LinkBody.childUpdates, LinkUpdates.apply, LinkBody.cascadeLago, h, hsubscription,
      JsonField.toUpdate]
  rw [← hcustomerIff, ← hsubscriptionIff]
  constructor
  · exact fun h => ⟨h.customer, h.subscription⟩
  · rintro ⟨hcustomer, hsubscription⟩
    refine ⟨hcustomer, hsubscription, fun h => ?_⟩
    simp [LinkBody.childUpdates, LinkUpdates.apply, LinkBody.cascadeIsActive, h, hactive,
      JsonField.toUpdate]

/-- A complete cascade, in terms of the rows before. -/
lemma cascadeComplete_iff_rows {childPks : List ℕ} {userId : Option String}
    (hmem : currentMapping ∈ table.rows)
    (hbelow : ∀ row : TagLink, allTags.Below currentMapping row ↔ row.steveOcppTagPk ∈ childPks)
    (hrows : after.rows = table.rows.map
      (linkedRow body updates currentMapping childPks userId)) :
    CascadeComplete allTags body currentMapping after ↔ ∀ row ∈ table.rows,
      row.steveOcppTagPk ∈ childPks →
        body.Agree (linkedRow body updates currentMapping childPks userId row)
          (linkedRow body updates currentMapping childPks userId currentMapping) := by
  unfold CascadeComplete
  rw [hrows]
  constructor
  · intro hall row hrow hpk
    obtain ⟨tag, htag, heq⟩ := (hbelow row).mpr hpk
    refine hall tag htag _ (List.mem_map_of_mem hrow) ?_ _ (List.mem_map_of_mem hmem) ?_
    · exact (linkedRow_keys childPks userId row).2.trans heq
    · exact (linkedRow_keys childPks userId currentMapping).1
  · intro hall tag htag child hchildMem hpk parent hparentMem hid
    obtain ⟨row, hrow, rfl⟩ := List.mem_map.mp hchildMem
    obtain ⟨old, hold, rfl⟩ := List.mem_map.mp hparentMem
    rw [(linkedRow_keys childPks userId old).1] at hid
    obtain rfl := TagLinkTable.eq_of_id hold hmem hid
    rw [(linkedRow_keys childPks userId row).2] at hpk
    exact hall row hrow ((hbelow row).mp ⟨tag, htag, hpk⟩)

/-- A transaction leaves complete cascades behind unless it clears a value of the mapping and there
is a mapping below to keep it. -/
lemma cascadeComplete_iff (hmem : currentMapping ∈ table.rows)
    (htags : env.getOcppTags = some allTags) (hupdates : body.updates = .ok updates)
    (h : env.linkTransaction table currentMapping body updates = .ok (after, mapping)) :
    CascadeComplete allTags body currentMapping after ↔ (body.Clears currentMapping →
      (∀ row ∈ table.rows, ¬allTags.Below currentMapping row) ∨
        allTags.Below currentMapping currentMapping) := by
  by_cases hcascade : (body.cascadeIsActive || body.cascadeLago) = true
  swap
  · -- nothing to cascade: the body supplies none of the three fields
    refine iff_of_true ?_ fun hclears => absurd (cascades_of_supplied ?_) hcascade
    · intro tag _ child _ _ parent _ _
      exact ⟨fun h => absurd (cascades_of_supplied (Or.inl h)) hcascade,
        fun h => absurd (cascades_of_supplied (Or.inr (Or.inl h))) hcascade,
        fun h => absurd (cascades_of_supplied (Or.inr (Or.inr h))) hcascade⟩
    · rcases hclears with ⟨hnull, -⟩ | ⟨hnull, -⟩
      · exact Or.inl (by rw [hnull]; rfl)
      · exact Or.inr (Or.inl (by rw [hnull]; rfl))
  obtain ⟨userId, hrows⟩ := rows_of_linkTransaction htags hcascade h
  set childPks := (getAllChildTags currentMapping.steveOcppIdTag allTags.entries).map
    StEvEOcppTag.ocppTagPk
  have hbelow : ∀ row : TagLink, allTags.Below currentMapping row ↔
      row.steveOcppTagPk ∈ childPks := fun _ => below_iff_mem
  have hchild : ∀ {row : TagLink}, row.steveOcppTagPk ∈ childPks → ∃ own,
      linkedRow body updates currentMapping childPks userId row =
        (body.childUpdates currentMapping userId).apply own :=
    fun hpk => ⟨_, if_pos hpk⟩
  rw [cascadeComplete_iff_rows hmem hbelow hrows]
  by_cases hself : currentMapping.steveOcppTagPk ∈ childPks
  · refine iff_of_true (fun row _ hpk => ?_) fun _ => Or.inr ((hbelow _).mpr hself)
    obtain ⟨own, hown⟩ := hchild hpk
    obtain ⟨ownParent, hownParent⟩ := hchild hself
    rw [hown, hownParent]
    exact agree_of_childUpdates
  · have hparent : linkedRow body updates currentMapping childPks userId currentMapping =
        { updates with userId := userId }.apply currentMapping := by
      unfold linkedRow
      dsimp only
      rw [if_neg hself, if_pos rfl]
    have hagree : ∀ row, row.steveOcppTagPk ∈ childPks →
        (body.Agree (linkedRow body updates currentMapping childPks userId row)
          (linkedRow body updates currentMapping childPks userId currentMapping) ↔
            ¬body.Clears currentMapping) := by
      intro row hpk
      obtain ⟨own, hown⟩ := hchild hpk
      rw [hown, hparent]
      exact agree_childUpdates_iff hupdates
    constructor
    · intro hall hclears
      refine Or.inl fun row hrow hpk => ?_
      have hpk := (hbelow row).mp hpk
      exact (hagree row hpk).mp (hall row hrow hpk) hclears
    · intro hcond row hrow hpk
      refine (hagree row hpk).mpr fun hclears => ?_
      rcases hcond hclears with hnone | hown
      · exact hnone row hrow ((hbelow row).mpr hpk)
      · exact hself ((hbelow _).mp hown)

/-! ## Requests -/

/-- The query parameter is the id of the mapping. -/
def LinkRequest.Names (request : LinkRequest) (row : TagLink) : Prop :=
  parseInt (request.id.getD "") = some (row.id : ℤ)

instance (request : LinkRequest) (row : TagLink) : Decidable (request.Names row) :=
  inferInstanceAs (Decidable (_ = _))

/-- A request that is carried out is a transaction on the mapping that it names. -/
lemma transaction_of_put {request : LinkRequest} (hmem : currentMapping ∈ table.rows)
    (hnames : request.Names currentMapping) (hput : env.put table request = .ok (after, mapping)) :
    ∃ updates, request.body.updates = .ok updates ∧
      env.linkTransaction table currentMapping request.body updates = .ok (after, mapping) := by
  unfold LinkRequest.Names at hnames
  unfold LinkEnv.put at hput
  rw [hnames] at hput
  split at hput
  · cases hput
  · cases hput
  · next id _ hid =>
    obtain rfl := Option.some.inj hid
    obtain ⟨updates, hupdates, hrest⟩ := Except.exists_of_bind_eq_ok hput
    refine ⟨updates, hupdates, ?_⟩
    split at hrest
    · cases hrest
    · next found hfound =>
      have hfoundMem := List.mem_of_find?_eq_some hfound
      have hsame : found.id = currentMapping.id := by simpa using List.find?_some hfound
      obtain rfl := TagLinkTable.eq_of_id hfoundMem hmem hsame
      split at hrest
      · cases hrest
      · exact hrest

/-- For every hierarchy and all mappings: a request that is carried out leaves the mappings of the
tags below with the customer, the subscription and the active flag of the mapping, as far as it
supplies them, exactly when it does not clear a customer or a subscription that a mapping below
then keeps. -/
theorem link_cascade_complete_iff (env : LinkEnv) (table : TagLinkTable) (request : LinkRequest)
    (currentMapping : TagLink) (hmem : currentMapping ∈ table.rows)
    (hnames : request.Names currentMapping) (allTags : TagHierarchy)
    (htags : env.getOcppTags = some allTags) (after : TagLinkTable) (mapping : TagLink)
    (hput : env.put table request = .ok (after, mapping)) :
    CascadeComplete allTags request.body currentMapping after ↔
      (request.body.Clears currentMapping →
        (∀ row ∈ table.rows, ¬allTags.Below currentMapping row) ∨
          allTags.Below currentMapping currentMapping) := by
  obtain ⟨updates, hupdates, htransaction⟩ := transaction_of_put hmem hnames hput
  exact cascadeComplete_iff hmem htags hupdates htransaction

end

/-! ## A subscription that is cleared -/

/-- A tag and one below it. -/
def pairHierarchy : TagHierarchy where
  entries :=
    [⟨"PARENT", 1, none, none, none, none, none⟩,
      ⟨"CHILD", 2, none, some "PARENT", none, none, none⟩]
  nodup := by decide

def parentLink : TagLink where
  id := 1
  steveOcppTagPk := 1
  steveOcppIdTag := "PARENT"
  lagoCustomerExternalId := some "customer"
  lagoSubscriptionExternalId := some "subscription"
  isActive := some true
  billingTier := .standard
  tagType := .evCard
  userId := some "user"

def childLink : TagLink :=
  { parentLink with id := 2, steveOcppTagPk := 2, steveOcppIdTag := "CHILD" }

/-- Both tags are linked to one subscription. -/
def pairTable : TagLinkTable := ⟨[parentLink, childLink], by decide, by decide⟩

def pairEnv : LinkEnv where
  isCustomer _ := true
  resolveOrCreateCustomerAccount _ := .ok "user"
  getOcppTags := some pairHierarchy

/-- `{"lagoSubscriptionExternalId": null}` for the parent. -/
def clearSubscription : LinkRequest where
  id := some "1"
  confirmReassign := false
  body := { lagoSubscriptionExternalId := .null }

def clearedParent : TagLink := { parentLink with lagoSubscriptionExternalId := none }

/-- The child has still got the subscription. -/
def clearedTable : TagLinkTable := ⟨[clearedParent, childLink], by decide, by decide⟩

/-- The equivalence, for this request. -/
theorem link_cascade_complete_iff_cleared :
    CascadeComplete pairHierarchy clearSubscription.body parentLink clearedTable ↔
      (clearSubscription.body.Clears parentLink →
        (∀ row ∈ pairTable.rows, ¬pairHierarchy.Below parentLink row) ∨
          pairHierarchy.Below parentLink parentLink) :=
  link_cascade_complete_iff pairEnv pairTable clearSubscription parentLink (by decide)
    (by decide +kernel) pairHierarchy rfl clearedTable clearedParent rfl

/-- The request is carried out, and leaves the child billed to the old subscription. -/
theorem cleared_subscription_stays_below :
    pairEnv.put pairTable clearSubscription = .ok (clearedTable, clearedParent) ∧
      ¬CascadeComplete pairHierarchy clearSubscription.body parentLink clearedTable := by
  refine ⟨rfl, fun hcomplete => ?_⟩
  have hbelow :
      pairHierarchy.Descends "PARENT" ⟨"CHILD", 2, none, some "PARENT", none, none, none⟩ :=
    ⟨by decide, by decide, Relation.TransGen.single ⟨_, by decide, rfl, rfl⟩⟩
  have hagree := hcomplete _ hbelow childLink (by decide) rfl clearedParent (by decide) rfl
  have hsame := hagree.subscription rfl
  cases hsame

end ExpresSync
