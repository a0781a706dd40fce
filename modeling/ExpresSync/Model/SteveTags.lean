import ExpresSync.Foundation.SerialTable
import ExpresSync.Model.CustomerMetaTags

/-!
# StEvE's tags

The table that `steve-client.ts` reads and writes, with the two columns StEvE keeps unique.  `PUT`
replaces every column of a tag but its id tag.  StEvE may refuse a write request, or leave a
question unanswered.

An expiry date stands for its instant, however it is written.
-/

namespace ExpresSync

/-- The tags, numbered as StEvE creates them. -/
structure SteveTags where
  table : SerialTable StEvEOcppTag.ocppTagPk
  nodup_idTag : (table.rows.map StEvEOcppTag.idTag).Nodup

/-- What StEvE does not do in the course of a call. -/
structure SteveFaults where
  /-- It carries out a write request. -/
  accepts : SteveRequest → Bool
  /-- It carries out the creation of a tag. -/
  creates : Bool
  /-- It answers `getOcppTags({ idTag })`. -/
  lists : String → Bool
  /-- It answers `getOcppTags({ parentIdTag })`. -/
  listsChildren : String → Bool

/-- It does everything. -/
def SteveFaults.none : SteveFaults := ⟨fun _ => true, true, fun _ => true, fun _ => true⟩

namespace SteveTags

variable (tags : SteveTags)

def Lists (idTag : String) : Prop := ∃ tag ∈ tags.table.rows, tag.idTag = idTag

instance (idTag : String) : Decidable (tags.Lists idTag) :=
  inferInstanceAs (Decidable (∃ tag ∈ tags.table.rows, _))

/-- The columns that `updateOcppTag(tag)` replaces in a row. -/
def replaceColumns (tag row : StEvEOcppTag) : StEvEOcppTag :=
  { row with
    note := tag.note
    parentIdTag := tag.parentIdTag
    expiryDate := tag.expiryDate
    maxActiveTransactionCount := tag.maxActiveTransactionCount }

def updateOcppTag (tag : StEvEOcppTag) : SteveTags where
  table :=
    tags.table.update (fun row => decide (row.ocppTagPk = tag.ocppTagPk)) (replaceColumns tag)
    fun _ => rfl
  nodup_idTag := by
    show ((SerialTable.rewrite _ _ tags.table.rows).map StEvEOcppTag.idTag).Nodup
    rw [SerialTable.rewrite, List.map_map]
    refine (List.map_congr_left fun row _ => ?_).symm ▸ tags.nodup_idTag
    show (if _ then replaceColumns tag row else row).idTag = row.idTag
    split <;> rfl

/-- `createOcppTag`; an id tag that is taken is refused. -/
def createOcppTag (idTag : String) (note parentIdTag : Option String)
    (maxActiveTransactionCount : ℤ) : SteveTags :=
  if taken : tags.Lists idTag then tags
  else
    { table := tags.table.insert
        (fun ocppTagPk =>
          { idTag, ocppTagPk, note, parentIdTag
            expiryDate := none
            maxActiveTransactionCount := some maxActiveTransactionCount
            inTransaction := none })
        fun _ => rfl
      nodup_idTag := by
        show ((tags.table.rows ++ [_]).map StEvEOcppTag.idTag).Nodup
        rw [List.map_append, List.map_singleton, List.nodup_append]
        refine ⟨tags.nodup_idTag, List.nodup_singleton _, ?_⟩
        intro k hk k' hk' heq
        obtain ⟨row, hrow, rfl⟩ := List.mem_map.mp hk
        rw [List.mem_singleton.mp hk'] at heq
        exact taken ⟨row, hrow, heq⟩ }

def deleteOcppTag (ocppTagPk : ℕ) : SteveTags where
  table := tags.table.delete fun row => decide (row.ocppTagPk = ocppTagPk)
  nodup_idTag := tags.nodup_idTag.sublist (List.filter_sublist.map StEvEOcppTag.idTag)

/-- A write request. -/
def send (faults : SteveFaults) : SteveRequest → SteveTags
  | .update tag => if faults.accepts (.update tag) then tags.updateOcppTag tag else tags
  | .create idTag note maxActiveTransactionCount =>
      if faults.creates then tags.createOcppTag idTag (some note) none maxActiveTransactionCount
      else tags
  | .delete ocppTagPk =>
      if faults.accepts (.delete ocppTagPk) then tags.deleteOcppTag ocppTagPk else tags

def sendAll (faults : SteveFaults) (requests : List SteveRequest) : SteveTags :=
  requests.foldl (fun tags request => tags.send faults request) tags

/-- The answers that a call of `ensureCustomerMetaTag` gets. -/
def answers (faults : SteveFaults) (owner : Option MetaTagOwner)
    (getSubscriptions : SubscriptionsAnswer) (newMappingId : ℕ) : MetaTagInputs where
  owner := owner
  getSubscriptions := getSubscriptions
  getOcppTags idTag :=
    if faults.lists idTag then .ok (tags.table.rows.filter fun tag => decide (tag.idTag = idTag))
    else .error "StEvE API error"
  getChildren parentIdTag :=
    if faults.listsChildren parentIdTag then
      .ok (tags.table.rows.filter fun tag => decide (tag.parentIdTag = some parentIdTag))
    else .error "StEvE API error"
  createOcppTag := if faults.creates then .ok tags.table.next else .error "StEvE API error"
  newMappingId := newMappingId

variable {tags : SteveTags} {faults : SteveFaults}

lemma eq_of_idTag {tag tag' : StEvEOcppTag} (htag : tag ∈ tags.table.rows)
    (htag' : tag' ∈ tags.table.rows) (h : tag.idTag = tag'.idTag) : tag = tag' :=
  List.inj_on_of_nodup_map tags.nodup_idTag htag htag' h

/-- `getOcppTags({ idTag })` finds the tag when it is listed. -/
lemma filter_idTag (idTag : String) :
    (¬tags.Lists idTag ∧ (tags.table.rows.filter fun tag => decide (tag.idTag = idTag)) = []) ∨
      ∃ tag ∈ tags.table.rows, tag.idTag = idTag ∧ ∃ rest,
        (tags.table.rows.filter fun tag => decide (tag.idTag = idTag)) = tag :: rest := by
  cases hfilter : tags.table.rows.filter fun tag => decide (tag.idTag = idTag) with
  | nil =>
      refine Or.inl ⟨?_, rfl⟩
      rintro ⟨tag, htag, hname⟩
      have hmem : tag ∈ tags.table.rows.filter fun tag => decide (tag.idTag = idTag) :=
        List.mem_filter.mpr ⟨htag, by simpa using hname⟩
      rw [hfilter] at hmem
      exact absurd hmem List.not_mem_nil
  | cons tag rest =>
      have hmem : tag ∈ tags.table.rows.filter fun tag => decide (tag.idTag = idTag) := by
        rw [hfilter]
        exact List.mem_cons_self
      obtain ⟨htag, hname⟩ := List.mem_filter.mp hmem
      exact Or.inr ⟨tag, htag, by simpa using hname, rest, rfl⟩

/-! ## What a request writes -/

lemma next_le_createOcppTag {idTag : String} {note parentIdTag : Option String} {limit : ℤ} :
    tags.table.next ≤ (tags.createOcppTag idTag note parentIdTag limit).table.next := by
  unfold createOcppTag
  split
  · exact Nat.le_refl _
  · exact Nat.le_succ _

lemma next_le_send (request : SteveRequest) :
    tags.table.next ≤ (tags.send faults request).table.next := by
  unfold send
  split
  · split <;> exact Nat.le_refl _
  · split
    · exact next_le_createOcppTag
    · exact Nat.le_refl _
  · split <;> exact Nat.le_refl _

lemma next_le_sendAll (requests : List SteveRequest) :
    tags.table.next ≤ (tags.sendAll faults requests).table.next := by
  induction requests generalizing tags with
  | nil => exact Nat.le_refl _
  | cons request requests ih => exact Nat.le_trans (next_le_send request) ih

lemma mem_updateOcppTag {tag row : StEvEOcppTag} :
    row ∈ (tags.updateOcppTag tag).table.rows ↔
      ∃ old ∈ tags.table.rows,
        row = if old.ocppTagPk = tag.ocppTagPk then replaceColumns tag old else old := by
  show row ∈ SerialTable.rewrite _ _ _ ↔ _
  simp only [SerialTable.mem_rewrite, decide_eq_true_eq]

lemma mem_deleteOcppTag {row : StEvEOcppTag} {ocppTagPk : ℕ} :
    row ∈ (tags.deleteOcppTag ocppTagPk).table.rows ↔
      row ∈ tags.table.rows ∧ row.ocppTagPk ≠ ocppTagPk := by
  show row ∈ (SerialTable.delete _ _).rows ↔ _
  rw [SerialTable.mem_delete, decide_eq_false_iff_not]

/-- An id tag that is not taken gets the next number. -/
lemma mem_createOcppTag {idTag : String} (hfree : ¬tags.Lists idTag)
    (note parentIdTag : Option String) (limit : ℤ) (row : StEvEOcppTag) :
    row ∈ (tags.createOcppTag idTag note parentIdTag limit).table.rows ↔
      row ∈ tags.table.rows ∨
        row = ⟨idTag, tags.table.next, note, parentIdTag, none, some limit, none⟩ := by
  rw [createOcppTag, dif_neg hfree]
  exact SerialTable.mem_insert

/-- A loop that puts `f` of some rows, as they are, to StEvE. -/
lemma mem_sendAll_updates {f : StEvEOcppTag → StEvEOcppTag}
    (hf : ∀ tag, (f tag).ocppTagPk = tag.ocppTagPk)
    (hreplace : ∀ tag, replaceColumns (f tag) tag = f tag)
    {chosen : List StEvEOcppTag} (hchosen : ∀ tag ∈ chosen, tag ∈ tags.table.rows)
    (hnodup : (chosen.map StEvEOcppTag.ocppTagPk).Nodup) {row : StEvEOcppTag} :
    row ∈ (tags.sendAll faults (chosen.map fun tag => .update (f tag))).table.rows ↔
      ∃ old ∈ tags.table.rows,
        row = if old ∈ chosen ∧ faults.accepts (.update (f old)) = true then f old else old := by
  induction chosen generalizing tags with
  | nil => simp [sendAll]
  | cons tag chosen ih =>
      obtain ⟨hnew, hnodup⟩ := List.nodup_cons.mp hnodup
      have htag : tag ∈ tags.table.rows := hchosen tag List.mem_cons_self
      have hself : ∀ old ∈ tags.table.rows, old.ocppTagPk = tag.ocppTagPk → old = tag :=
        fun old hold hpk => SerialTable.eq_of_key hold htag hpk
      have hother : ∀ old ∈ chosen, old.ocppTagPk ≠ tag.ocppTagPk := by
        intro old hold hpk
        exact hnew (hpk ▸ List.mem_map_of_mem hold)
      rw [List.map_cons, sendAll, List.foldl_cons]
      change row ∈ ((tags.send faults (.update (f tag))).sendAll faults _).table.rows ↔ _
      by_cases haccepts : faults.accepts (.update (f tag)) = true
      · have hsent : tags.send faults (.update (f tag)) = tags.updateOcppTag (f tag) :=
          if_pos haccepts
        have hkept : ∀ old ∈ chosen, old ∈ (tags.updateOcppTag (f tag)).table.rows := by
          intro old hold
          refine mem_updateOcppTag.mpr ⟨old, hchosen old (List.mem_cons_of_mem _ hold), ?_⟩
          rw [if_neg (by rw [hf]; exact hother old hold)]
        rw [hsent, ih hkept hnodup]
        constructor
        · rintro ⟨mid, hmid, rfl⟩
          obtain ⟨old, hold, rfl⟩ := mem_updateOcppTag.mp hmid
          refine ⟨old, hold, ?_⟩
          by_cases hpk : old.ocppTagPk = tag.ocppTagPk
          · obtain rfl := hself old hold hpk
            have hout : f old ∉ chosen := fun hmem => hother _ hmem (hf old)
            simp [hf, hreplace, haccepts, hout]
          · have hne : old ≠ tag := fun heq => hpk (heq ▸ rfl)
            simp [hf, hpk, hne]
        · rintro ⟨old, hold, rfl⟩
          by_cases hpk : old.ocppTagPk = tag.ocppTagPk
          · obtain rfl := hself old hold hpk
            have hout : f old ∉ chosen := fun hmem => hother _ hmem (hf old)
            refine ⟨f old, mem_updateOcppTag.mpr ⟨old, hold, ?_⟩, ?_⟩
            · simp [hf, hreplace]
            · simp [haccepts, hout]
          · have hne : old ≠ tag := fun heq => hpk (heq ▸ rfl)
            refine ⟨old, mem_updateOcppTag.mpr ⟨old, hold, ?_⟩, ?_⟩
            · simp [hf, hpk]
            · simp [hne]
      · have hsent : tags.send faults (.update (f tag)) = tags := if_neg haccepts
        rw [hsent, ih (fun old hold => hchosen old (List.mem_cons_of_mem _ hold)) hnodup]
        refine exists_congr fun old => and_congr_right fun hold => ?_
        by_cases hpk : old.ocppTagPk = tag.ocppTagPk
        · obtain rfl := hself old hold hpk
          simp [haccepts]
        · have hne : old ≠ tag := fun heq => hpk (heq ▸ rfl)
          simp [hne]

end SteveTags

end ExpresSync
