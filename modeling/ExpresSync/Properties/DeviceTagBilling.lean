import ExpresSync.Properties.DeviceTagWrites

/-!
# Who pays for a device

The calls give a device's tag the parent `OCPP-…`, which nobody creates any more, and the database
refuses its row, so a tag is only billed to the customer when StEvE and the database had it before
the calls.  `BilledCustomer.Prepared` says what the world had to look like then.
-/

namespace ExpresSync

/-! ## Lookups -/

section Lookup

variable {userMappings : List UserMapping} {allTags : List StEvEOcppTag}
  {idTag parentIdTag : String} {Q : UserMapping → Prop}

/-- A row of the tag is billed. -/
def IsDirectRow (userMappings : List UserMapping) (idTag : String) (m : UserMapping) : Prop :=
  m ∈ userMappings ∧ isDirectMapping m = true ∧ m.steveOcppIdTag = idTag

lemma exists_perm_directMappingsByTag {m : UserMapping} (h : IsDirectRow userMappings idTag m) :
    ∃ rows : List UserMapping, rows.Perm userMappings ∧ directMappingsByTag rows idTag =
      some m := by
  obtain ⟨hmem, hdirect, hname⟩ := h
  refine ⟨userMappings.erase m ++ [m], ?_, ?_⟩
  · exact (List.perm_append_comm).trans (List.perm_cons_erase hmem).symm
  · refine directMappingsByTag_eq_some.mpr ⟨hdirect, hname, userMappings.erase m, [], rfl, ?_⟩
    intro m' hm'
    exact absurd hm' List.not_mem_nil

lemma isDirectRow_of_perm {rows : List UserMapping} (hperm : rows.Perm userMappings)
    {m : UserMapping}
    (h : directMappingsByTag rows idTag = some m) : IsDirectRow userMappings idTag m := by
  obtain ⟨hmem, hdirect, hname⟩ := directMappingsByTag_spec h
  exact ⟨hperm.subset hmem, hdirect, hname⟩

lemma directMappingsByTag_ne_none {rows : List UserMapping} (hperm : rows.Perm userMappings)
    {m : UserMapping} (h : IsDirectRow userMappings idTag m) :
    ∃ m', directMappingsByTag rows idTag = some m' := by
  refine Option.ne_none_iff_exists'.mp fun hnone => ?_
  have hinactive := directMappingsByTag_eq_none.mp hnone m (hperm.symm.subset h.1) h.2.2
  rw [h.2.1] at hinactive
  cases hinactive

/-- A tag without a row of its own goes by that of its parent, when the parent has one. -/
lemma resolve_of_parent {mappingsByTag : String → Option UserMapping} {tag parent : StEvEOcppTag}
    {m : UserMapping} (hfind : allTags.find? (fun t => t.idTag = idTag) = some tag)
    (hparent : tag.parentIdTag = some parentIdTag) (hne : parentIdTag ≠ "")
    (hself : parentIdTag ≠ idTag)
    (hfindParent : allTags.find? (fun t => t.idTag = parentIdTag) = some parent)
    (hnone : mappingsByTag idTag = none) (hsome : mappingsByTag parentIdTag = some m) :
    resolveMappingWithInheritance idTag mappingsByTag allTags = some m := by
  have htag : tag.idTag = idTag := by simpa using List.find?_some hfind
  have hname : parent.idTag = parentIdTag := by simpa using List.find?_some hfindParent
  have hfuel : ∃ fuel, allTags.length = fuel + 1 :=
    Nat.exists_eq_succ_of_ne_zero (List.length_pos_of_mem (List.mem_of_find?_eq_some hfind)).ne'
  obtain ⟨fuel, hfuel⟩ := hfuel
  have htruthy : truthy tag.parentIdTag = true := by simp [hparent, truthy, hne]
  have hwalk : ∃ rest, getAllAncestorTags tag allTags = parent :: rest := by
    refine ⟨ancestorWalk allTags fuel [parentIdTag, tag.idTag] parent, ?_⟩
    rw [getAllAncestorTags, hfuel, ancestorWalk, hparent]
    simp only [hfindParent]
    rw [if_neg]
    simp [hne, htag, hself]
  obtain ⟨rest, hwalk⟩ := hwalk
  unfold resolveMappingWithInheritance
  rw [hnone, hfind]
  simp [htruthy, hwalk, hname, hsome]

/-- Whatever the order of the rows, the lookup finds a row with `Q`, exactly when all rows of the
tag are such rows, and those of its parent, too, if the tag has none. -/
lemma forall_perm_lookup_iff {tag parent : StEvEOcppTag}
    (hfind : allTags.find? (fun t => t.idTag = idTag) = some tag)
    (hparent : tag.parentIdTag = some parentIdTag) (hne : parentIdTag ≠ "")
    (hself : parentIdTag ≠ idTag)
    (hfindParent : allTags.find? (fun t => t.idTag = parentIdTag) = some parent)
    (hrow : ∃ m, IsDirectRow userMappings parentIdTag m) :
    (∀ rows : List UserMapping, rows.Perm userMappings →
        ∃ m, buildMappingLookupWithInheritance rows allTags idTag = some m ∧ Q m) ↔
      (∀ m, IsDirectRow userMappings idTag m → Q m) ∧
        ((∃ m, IsDirectRow userMappings idTag m) ∨
          ∀ m, IsDirectRow userMappings parentIdTag m → Q m) := by
  constructor
  · intro h
    refine ⟨fun m hm => ?_, ?_⟩
    · obtain ⟨rows, hperm, hdirect⟩ := exists_perm_directMappingsByTag hm
      obtain ⟨found, hfound, hQ⟩ := h rows hperm
      rw [buildMappingLookup_of_direct hdirect] at hfound
      obtain rfl := Option.some.inj hfound
      exact hQ
    · by_cases hown : ∃ m, IsDirectRow userMappings idTag m
      · exact Or.inl hown
      · refine Or.inr fun m hm => ?_
        obtain ⟨rows, hperm, hdirect⟩ := exists_perm_directMappingsByTag hm
        obtain ⟨found, hfound, hQ⟩ := h rows hperm
        have hnone : directMappingsByTag rows idTag = none := by
          by_contra hsome
          obtain ⟨own, hown'⟩ := Option.ne_none_iff_exists'.mp hsome
          exact hown ⟨own, isDirectRow_of_perm hperm hown'⟩
        rw [buildMappingLookup_eq_resolve,
          resolve_of_parent hfind hparent hne hself hfindParent hnone hdirect] at hfound
        obtain rfl := Option.some.inj hfound
        exact hQ
  · rintro ⟨howns, hparents⟩ rows hperm
    by_cases hown : ∃ m, IsDirectRow userMappings idTag m
    · obtain ⟨m, hm⟩ := hown
      obtain ⟨found, hfound⟩ := directMappingsByTag_ne_none hperm hm
      exact ⟨found, buildMappingLookup_of_direct hfound,
        howns found (isDirectRow_of_perm hperm hfound)⟩
    · have hnone : directMappingsByTag rows idTag = none := by
        by_contra hsome
        obtain ⟨own, hown'⟩ := Option.ne_none_iff_exists'.mp hsome
        exact hown ⟨own, isDirectRow_of_perm hperm hown'⟩
      obtain ⟨m, hm⟩ := hrow
      obtain ⟨found, hfound⟩ := directMappingsByTag_ne_none hperm hm
      refine ⟨found, ?_, hparents.resolve_left hown found (isDirectRow_of_perm hperm hfound)⟩
      rw [buildMappingLookup_eq_resolve]
      exact resolve_of_parent hfind hparent hne hself hfindParent hnone hfound

end Lookup

/-! ## Devices that are billed -/

namespace DeviceTagAction

def isMetaTag : DeviceTagAction → Bool
  | ensuresMetaTag _ _ => true
  | ensuresDeviceTag _ _ _ => false

def deviceId : DeviceTagAction → Option String
  | ensuresMetaTag _ _ => none
  | ensuresDeviceTag deviceId _ _ => some deviceId

end DeviceTagAction

namespace BilledCustomer

variable (c : BilledCustomer)

/-- The lookup gives the tag a mapping of the customer, whatever the order in which the database
returns the rows. -/
def Resolves (w : TagWorld) (idTag : String) : Prop :=
  ∀ rows : List UserMapping, rows.Perm w.mappings.table.rows →
    ∃ m, buildMappingLookupWithInheritance rows w.tags.table.rows idTag = some m ∧
      m.lagoCustomerExternalId = some c.lagoCustomerExternalId

/-- The tag has a row, the parent tag of the customer above it, and a mapping of the customer. -/
def InheritsBilling (w : TagWorld) (idTag : String) : Prop :=
  ∃ tag ∈ w.tags.table.rows, tag.idTag = idTag ∧ w.mappings.HasPk tag.ocppTagPk ∧
    tag.parentIdTag = some c.metaIdTag ∧ c.Resolves w idTag

/-- Once each of the two has been called, every device tag inherits. -/
def DevicesInherit (w : TagWorld) (as : List DeviceTagAction) : Prop :=
  (∃ a ∈ as, a.isMetaTag = true) → ∀ deviceId ∈ as.filterMap (·.deviceId),
    c.InheritsBilling (c.runAll w as) (c.deviceIdTag deviceId)

/-! ## What the world has to look like before -/

def IsMetaRow (w : TagWorld) (m : UserMapping) : Prop :=
  ∃ tag ∈ w.tags.table.rows, tag.idTag = c.metaIdTag ∧ m.steveOcppTagPk = tag.ocppTagPk

/-- The row is active under this name once `ensureDeviceTag` has been called for each of the tags
`names`: one of them gives its row its name and its state. -/
def GoesBy (names : List String) (w : TagWorld) (m : UserMapping) (idTag : String) : Prop :=
  (∃ tag ∈ w.tags.table.rows, tag.ocppTagPk = m.steveOcppTagPk ∧ tag.idTag ∈ names ∧
      tag.idTag = idTag ∧ 0 < tag.maxActiveTransactionCount.getD 0) ∨
    ((∀ tag ∈ w.tags.table.rows, tag.ocppTagPk = m.steveOcppTagPk → tag.idTag ∉ names) ∧
      m.steveOcppIdTag = idTag ∧ m.isActive = true)

/-- A row that goes by the name, other than that of the parent tag, has a Lago id. -/
def Bills (names : List String) (w : TagWorld) (idTag : String) (m : UserMapping) : Prop :=
  m ∈ w.mappings.table.rows ∧ ¬c.IsMetaRow w m ∧
    (truthy m.lagoSubscriptionExternalId || truthy m.lagoCustomerExternalId) = true ∧
    GoesBy names w m idTag

/-- StEvE has the tag, with a row, under the parent tag or under a legacy tag that it lists. -/
def Registered (w : TagWorld) (idTag : String) : Prop :=
  ∃ tag ∈ w.tags.table.rows, tag.idTag = idTag ∧ w.mappings.HasPk tag.ocppTagPk ∧
    (tag.parentIdTag = some c.metaIdTag ∨
      ∃ legacyIdTag ∈ c.legacyIdTags, w.tags.Lists legacyIdTag ∧ tag.parentIdTag = some legacyIdTag)

/-- A world in which the tag inherits once the calls have been made. -/
structure Prepared (names : List String) (w : TagWorld) (idTag : String) : Prop where
  not_legacy : idTag ∉ c.legacyIdTags
  registered : c.Registered w idTag
  /-- A mapping that is billed under the name of the tag is the customer's. -/
  own : ∀ m, c.Bills names w idTag m → m.lagoCustomerExternalId = some c.lagoCustomerExternalId
  /-- Without one, this is so for the name of the parent tag. -/
  inherited : (∃ m, c.Bills names w idTag m) ∨ ∀ m, c.Bills names w c.metaIdTag m →
    m.lagoCustomerExternalId = some c.lagoCustomerExternalId

/-- The tags of the devices that are called for. -/
def deviceIdTags (as : List DeviceTagAction) : List String :=
  (as.filterMap (·.deviceId)).map c.deviceIdTag

def DevicesPrepared (w : TagWorld) (as : List DeviceTagAction) : Prop :=
  (∃ a ∈ as, a.isMetaTag = true) → ∀ deviceId ∈ as.filterMap (·.deviceId),
    c.Prepared (c.deviceIdTags as) w (c.deviceIdTag deviceId)

/-! ## What a write keeps -/

section Writes

variable {c} {names : List String} {w w' : TagWorld} {idTag : String}

/-- The names are those of devices. -/
def AreDeviceTags (c : BilledCustomer) (names : List String) : Prop :=
  ∀ idTag ∈ names, ∃ deviceId, idTag = c.deviceIdTag deviceId

lemma AreDeviceTags.metaIdTag_not_mem (h : c.AreDeviceTags names) : c.metaIdTag ∉ names := by
  intro hmem
  obtain ⟨deviceId, heq⟩ := h _ hmem
  exact c.metaIdTag_ne_deviceIdTag deviceId heq

/-- The name of a tag, its number and, unless it is the parent tag, its limit stay as they are. -/
structure SameTag (c : BilledCustomer) (old tag : StEvEOcppTag) : Prop where
  idTag : tag.idTag = old.idTag
  ocppTagPk : tag.ocppTagPk = old.ocppTagPk
  limit : old.idTag ≠ c.metaIdTag →
    tag.maxActiveTransactionCount = old.maxActiveTransactionCount

lemma SameTag.rfl {tag : StEvEOcppTag} : c.SameTag tag tag :=
    ⟨Eq.refl _, Eq.refl _, fun _ => Eq.refl _⟩

/-- The parent of a tag stays as it is, or was a legacy tag that is cleaned up. -/
def MovesTo (c : BilledCustomer) (w w' : TagWorld) (old tag : StEvEOcppTag) : Prop :=
  (tag.parentIdTag = old.parentIdTag ∧ ∀ legacyIdTag ∈ c.legacyIdTags, w.tags.Lists legacyIdTag →
      old.parentIdTag = some legacyIdTag → w'.tags.Lists legacyIdTag) ∨
    (tag.parentIdTag = some c.metaIdTag ∧ ∃ legacyIdTag ∈ c.legacyIdTags,
      w.tags.Lists legacyIdTag ∧ old.parentIdTag = some legacyIdTag)

lemma movesTo_of_tags (c : BilledCustomer) {old tag : StEvEOcppTag}
    (hparent : tag.parentIdTag = old.parentIdTag)
    (hlists : ∀ idTag, w.tags.Lists idTag → w'.tags.Lists idTag) : c.MovesTo w w' old tag :=
  Or.inl ⟨hparent, fun _ _ hlisted _ => hlists _ hlisted⟩

lemma Cleans.tag {legacyTag old : StEvEOcppTag} (h : c.Cleans legacyTag w w')
    (hlegacy : legacyTag.idTag ∈ c.legacyIdTags) (hold : old ∈ w.tags.table.rows)
    {tag : StEvEOcppTag} (htag : tag = if old.parentIdTag = some legacyTag.idTag then
      { old with parentIdTag := some c.metaIdTag } else old) :
    c.SameTag old tag ∧ c.MovesTo w w' old tag := by
  by_cases hchild : old.parentIdTag = some legacyTag.idTag
  · rw [if_pos hchild] at htag
    subst htag
    exact ⟨⟨rfl, rfl, fun _ => rfl⟩,
      Or.inr ⟨rfl, legacyTag.idTag, hlegacy, ⟨legacyTag, h.listed, rfl⟩, hchild⟩⟩
  · rw [if_neg hchild] at htag
    subst htag
    refine ⟨SameTag.rfl, Or.inl ⟨rfl, fun legacyIdTag _ hlisted hparent => ?_⟩⟩
    refine h.lists.mpr ⟨hlisted, fun heq => ?_⟩
    rw [heq] at hparent
    exact hchild hparent

/-- A tag after a write was there before, or has just been created. -/
lemma Writes.exists_tag (h : c.Writes names w w') {tag : StEvEOcppTag}
    (htag : tag ∈ w'.tags.table.rows) :
    (∃ old ∈ w.tags.table.rows, c.SameTag old tag ∧ c.MovesTo w w' old tag) ∨
      (tag.ocppTagPk = w.tags.table.next ∧ (tag.idTag = c.metaIdTag ∨ tag.idTag ∈ names)) := by
  cases h with
  | limited hmappings htags =>
      obtain ⟨old, hold, heq⟩ := (htags tag).mp htag
      have hlists : ∀ idTag, w.tags.Lists idTag → w'.tags.Lists idTag := by
        rintro _ ⟨other, hother, rfl⟩
        refine ⟨_, (htags _).mpr ⟨other, hother, rfl⟩, ?_⟩
        split <;> rfl
      refine Or.inl ⟨old, hold, ?_, movesTo_of_tags c ?_ hlists⟩
      · by_cases hmeta : old.idTag = c.metaIdTag
        · rw [if_pos hmeta] at heq
          exact heq ▸ ⟨rfl, rfl, fun hne => absurd hmeta hne⟩
        · rw [if_neg hmeta] at heq
          exact heq ▸ SameTag.rfl
      · rw [heq]
        split <;> rfl
  | minted idTag note parentIdTag hname hfree hmappings htags =>
      rcases (htags tag).mp htag with hold | rfl
      · have hlists : ∀ idTag, w.tags.Lists idTag → w'.tags.Lists idTag :=
          fun _ ⟨other, hother, hself⟩ => ⟨other, (htags other).mpr (Or.inl hother), hself⟩
        exact Or.inl ⟨tag, hold, SameTag.rfl, movesTo_of_tags c rfl hlists⟩
      · exact Or.inr ⟨rfl, hname⟩
  | metaRow metaTag row hmem hname hpk hidTag hcustomer hactive htags hmappings =>
      rw [htags] at htag
      exact Or.inl
        ⟨tag, htag, SameTag.rfl, movesTo_of_tags c rfl (by rw [htags]; exact fun _ h => h)⟩
  | deviceRow deviceTag f hmem hname hpk hidTag hactive hcustomer hsubscription htags hmappings =>
      rw [htags] at htag
      exact Or.inl
        ⟨tag, htag, SameTag.rfl, movesTo_of_tags c rfl (by rw [htags]; exact fun _ h => h)⟩
  | cleaned legacyTag hlegacy hcleans =>
      obtain ⟨old, hold, -, heq⟩ := (hcleans.mem_tags tag).mp htag
      exact Or.inl ⟨old, hold, hcleans.tag hlegacy hold heq⟩

/-- A tag before a write is still there, unless it is a legacy tag. -/
lemma Writes.exists_tag' (h : c.Writes names w w') {old : StEvEOcppTag}
    (hold : old ∈ w.tags.table.rows) (hregular : old.idTag ∉ c.legacyIdTags) :
    ∃ tag ∈ w'.tags.table.rows, c.SameTag old tag ∧ c.MovesTo w w' old tag := by
  -- the tag that the write leaves of `old` is listed, and `exists_tag` says what it is
  have hfound : ∃ tag ∈ w'.tags.table.rows, tag.ocppTagPk = old.ocppTagPk := by
    cases h with
    | limited hmappings htags =>
        refine ⟨_, (htags _).mpr ⟨old, hold, rfl⟩, ?_⟩
        split <;> rfl
    | minted idTag note parentIdTag hname hfree hmappings htags =>
        exact ⟨old, (htags old).mpr (Or.inl hold), rfl⟩
    | metaRow metaTag row hmem hname hpk hidTag hcustomer hactive htags hmappings =>
        exact ⟨old, htags ▸ hold, rfl⟩
    | deviceRow deviceTag f hmem hname hpk hidTag hactive hcustomer hsubscription htags hmappings =>
        exact ⟨old, htags ▸ hold, rfl⟩
    | cleaned legacyTag hlegacy hcleans =>
        refine ⟨_, (hcleans.mem_tags _).mpr ⟨old, hold, fun hpk => hregular ?_, rfl⟩, ?_⟩
        · obtain rfl := SerialTable.eq_of_key hold hcleans.listed hpk
          exact hlegacy
        · split <;> rfl
  obtain ⟨tag, htag, hpk⟩ := hfound
  rcases h.exists_tag htag with ⟨origin, horigin, hsame, hmoves⟩ | ⟨hnew, -⟩
  · have heq : origin = old :=
      SerialTable.eq_of_key horigin hold (hsame.ocppTagPk.symm.trans hpk)
    exact ⟨tag, htag, heq ▸ hsame, heq ▸ hmoves⟩
  · have hlt : old.ocppTagPk < w.tags.table.next := w.tags.table.key_lt old hold
    omega

/-- The numbers that have rows are the same, but for that of the parent tag. -/
lemma Writes.hasPk_iff (h : c.Writes names w w') {ocppTagPk : ℕ}
    (hother : ∀ tag ∈ w.tags.table.rows, tag.idTag = c.metaIdTag → tag.ocppTagPk ≠ ocppTagPk) :
    w'.mappings.HasPk ocppTagPk ↔ w.mappings.HasPk ocppTagPk := by
  cases h with
  | limited hmappings htags => rw [hmappings]
  | minted idTag note parentIdTag hname hfree hmappings htags => rw [hmappings]
  | metaRow tag row htag hname hpk hidTag hcustomer hactive htags hmappings =>
      have hne : tag.ocppTagPk ≠ ocppTagPk := hother tag htag hname
      constructor
      · rintro ⟨m, hm, rfl⟩
        rcases (hmappings m).mp hm with rfl | ⟨hm, -⟩
        · exact absurd hpk.symm hne
        · exact ⟨m, hm, rfl⟩
      · rintro ⟨m, hm, rfl⟩
        exact ⟨m, (hmappings m).mpr (Or.inr ⟨hm, hne.symm⟩), rfl⟩
  | deviceRow tag f htag hname hpk hidTag hactive hcustomer hsubscription htags hmappings =>
      have hkept : ∀ old : UserMapping, (if old.steveOcppTagPk = tag.ocppTagPk then f old
          else old).steveOcppTagPk = old.steveOcppTagPk := by
        intro old
        split
        · exact hpk old
        · rfl
      constructor
      · rintro ⟨m, hm, rfl⟩
        obtain ⟨old, hold, rfl⟩ := (hmappings m).mp hm
        exact ⟨old, hold, (hkept old).symm⟩
      · rintro ⟨m, hm, rfl⟩
        exact ⟨_, (hmappings _).mpr ⟨m, hm, rfl⟩, hkept m⟩
  | cleaned legacyTag hlegacy hcleans =>
      have hkept : ∀ old : UserMapping, (if old.steveOcppIdTag = legacyTag.idTag then
          { old with isActive := false } else old).steveOcppTagPk = old.steveOcppTagPk := by
        intro old
        split <;> rfl
      constructor
      · rintro ⟨m, hm, rfl⟩
        obtain ⟨old, hold, rfl⟩ := (hcleans.mem_mappings m).mp hm
        exact ⟨old, hold, (hkept old).symm⟩
      · rintro ⟨m, hm, rfl⟩
        exact ⟨_, (hcleans.mem_mappings _).mpr ⟨m, hm, rfl⟩, hkept m⟩

/-- No row has the number that StEvE gives out next. -/
lemma not_hasPk_next : ¬w.mappings.HasPk w.tags.table.next := by
  rintro ⟨m, hm, hpk⟩
  have hlt : m.steveOcppTagPk < w.tags.table.next := w.numbered m hm
  omega

lemma Writes.not_hasPk_next (h : c.Writes names w w') : ¬w'.mappings.HasPk w.tags.table.next := by
  refine fun hpk => BilledCustomer.not_hasPk_next ((h.hasPk_iff ?_).mp hpk)
  intro tag htag _ heq
  have hlt : tag.ocppTagPk < w.tags.table.next := w.tags.table.key_lt tag htag
  omega

lemma Writes.isMetaRow_iff (h : c.Writes names w w') {m : UserMapping}
    (hlt : m.steveOcppTagPk < w.tags.table.next) : c.IsMetaRow w' m ↔ c.IsMetaRow w m := by
  constructor
  · rintro ⟨tag, htag, hmeta, hpk⟩
    rcases h.exists_tag htag with ⟨old, hold, hsame, -⟩ | ⟨hnew, -⟩
    · exact ⟨old, hold, hsame.idTag.symm.trans hmeta, hpk.trans hsame.ocppTagPk⟩
    · omega
  · rintro ⟨old, hold, hmeta, hpk⟩
    obtain ⟨tag, htag, hsame, -⟩ := h.exists_tag' hold (hmeta ▸ c.metaIdTag_not_mem_legacyIdTags)
    exact ⟨tag, htag, hsame.idTag.trans hmeta, hpk.trans hsame.ocppTagPk.symm⟩

/-- The parent tag and its row stay. -/
lemma Writes.hasMetaRow (h : c.Writes names w w') (hnames : c.AreDeviceTags names)
    (hmeta : c.HasMetaRow w) : c.HasMetaRow w' := by
  obtain ⟨old, hold, hname, m, hm, hpk, hidTag, hcustomer, hactive⟩ := hmeta
  obtain ⟨tag, htag, hsame, -⟩ := h.exists_tag' hold (hname ▸ c.metaIdTag_not_mem_legacyIdTags)
  refine ⟨tag, htag, hsame.idTag.trans hname, ?_⟩
  rw [hsame.ocppTagPk]
  cases h with
  | limited hmappings htags => exact ⟨m, hmappings ▸ hm, hpk, hidTag, hcustomer, hactive⟩
  | minted _ note parentIdTag _ hfree hmappings htags =>
      exact ⟨m, hmappings ▸ hm, hpk, hidTag, hcustomer, hactive⟩
  | metaRow metaTag row hmem hself hpk' hidTag' hcustomer' hactive' htags hmappings =>
      obtain rfl := SteveTags.eq_of_idTag hmem hold (hself.trans hname.symm)
      exact ⟨row, (hmappings row).mpr (Or.inl rfl), hpk', hidTag', hcustomer', hactive'⟩
  | deviceRow deviceTag f hmem hself _ _ _ _ _ htags hmappings =>
      have hother : m.steveOcppTagPk ≠ deviceTag.ocppTagPk := by
        intro heq
        obtain rfl := SerialTable.eq_of_key hold hmem (hpk.symm.trans heq)
        exact hnames.metaIdTag_not_mem (hname ▸ hself)
      exact ⟨m, (hmappings m).mpr ⟨m, hm, (if_neg hother).symm⟩, hpk, hidTag, hcustomer, hactive⟩
  | cleaned legacyTag hlegacy hcleans =>
      have hother : m.steveOcppIdTag ≠ legacyTag.idTag := by
        intro heq
        exact c.metaIdTag_not_mem_legacyIdTags (hidTag ▸ heq ▸ hlegacy)
      exact ⟨m, (hcleans.mem_mappings m).mpr ⟨m, hm, (if_neg hother).symm⟩, hpk, hidTag,
        hcustomer, hactive⟩

/-- No legacy tag comes back. -/
lemma Writes.lists_legacy (h : c.Writes names w w')
    (hregular : ∀ idTag ∈ names, idTag ∉ c.legacyIdTags) {legacyIdTag : String}
    (hlegacy : legacyIdTag ∈ c.legacyIdTags) (hlists : w'.tags.Lists legacyIdTag) :
      w.tags.Lists legacyIdTag := by
  obtain ⟨tag, htag, hname⟩ := hlists
  rcases h.exists_tag htag with ⟨old, hold, hsame, -⟩ | ⟨-, hmeta | hdevice⟩
  · exact ⟨old, hold, hsame.idTag.symm.trans hname⟩
  · exact absurd (hmeta ▸ hname ▸ hlegacy) c.metaIdTag_not_mem_legacyIdTags
  · exact absurd (hname ▸ hlegacy) (hregular _ hdevice)

section Regular

variable (h : c.Writes names w w') (hnames : c.AreDeviceTags names)
  (hregular : ∀ idTag ∈ names, idTag ∉ c.legacyIdTags)

include h hnames hregular

lemma Writes.goesBy_iff {m : UserMapping} (hlt : m.steveOcppTagPk < w.tags.table.next) :
    GoesBy names w' m idTag ↔ GoesBy names w m idTag := by
  have hlimit : ∀ old : StEvEOcppTag, old.idTag ∈ names → old.idTag ≠ c.metaIdTag :=
    fun old hold heq => hnames.metaIdTag_not_mem (heq ▸ hold)
  refine or_congr ⟨?_, ?_⟩ (and_congr_left fun _ => ⟨?_, ?_⟩)
  · rintro ⟨tag, htag, hpk, hmem, hname, hpos⟩
    rcases h.exists_tag htag with ⟨old, hold, hsame, -⟩ | ⟨hnew, -⟩
    · have hmem' : old.idTag ∈ names := hsame.idTag ▸ hmem
      refine ⟨old, hold, hsame.ocppTagPk.symm.trans hpk, hmem', hsame.idTag.symm.trans hname, ?_⟩
      rw [← hsame.limit (hlimit old hmem')]
      exact hpos
    · omega
  · rintro ⟨old, hold, hpk, hmem, hname, hpos⟩
    obtain ⟨tag, htag, hsame, -⟩ := h.exists_tag' hold (hregular _ hmem)
    refine ⟨tag, htag, hsame.ocppTagPk.trans hpk, hsame.idTag.symm ▸ hmem,
      hsame.idTag.trans hname, ?_⟩
    rw [hsame.limit (hlimit old hmem)]
    exact hpos
  · intro hout old hold hpk hmem
    obtain ⟨tag, htag, hsame, -⟩ := h.exists_tag' hold (hregular _ hmem)
    exact hout tag htag (hsame.ocppTagPk.trans hpk) (hsame.idTag.symm ▸ hmem)
  · intro hout tag htag hpk hmem
    rcases h.exists_tag htag with ⟨old, hold, hsame, -⟩ | ⟨hnew, -⟩
    · exact hout old hold (hsame.ocppTagPk.symm.trans hpk) (hsame.idTag ▸ hmem)
    · omega

/-- The rows that bill a name are the same, or are for the same customer. -/
lemma Writes.exists_bills {m : UserMapping}
    (hbills : c.Bills names w' idTag m) :
    ∃ old, c.Bills names w idTag old ∧ old.lagoCustomerExternalId = m.lagoCustomerExternalId := by
  obtain ⟨hm, hmeta, hlago, hgoes⟩ := hbills
  have hsame : m ∈ w.mappings.table.rows →
      ∃ old, c.Bills names w idTag old ∧ old.lagoCustomerExternalId = m.lagoCustomerExternalId :=
    fun hold => ⟨m, ⟨hold, fun hbefore => hmeta ((h.isMetaRow_iff (w.numbered m hold)).mpr hbefore),
      hlago, (h.goesBy_iff hnames hregular (w.numbered m hold)).mp hgoes⟩, rfl⟩
  have hkeep := h
  cases h with
  | limited hmappings htags => exact hsame (hmappings ▸ hm)
  | minted _ note parentIdTag _ hfree hmappings htags => exact hsame (hmappings ▸ hm)
  | metaRow metaTag row hmem hself hpk _ _ _ htags hmappings =>
      rcases (hmappings m).mp hm with rfl | ⟨hold, -⟩
      · exact absurd ⟨metaTag, htags ▸ hmem, hself, hpk⟩ hmeta
      · exact hsame hold
  | deviceRow deviceTag f hmem hself hpk hidTag' hactive hcustomer hsubscription htags hmappings =>
      obtain ⟨old, hold, heq⟩ := (hmappings m).mp hm
      by_cases hrow : old.steveOcppTagPk = deviceTag.ocppTagPk
      · rw [if_pos hrow] at heq
        subst heq
        have hlt : (f old).steveOcppTagPk < w.tags.table.next := hpk old ▸ w.numbered old hold
        refine ⟨old, ⟨hold, fun hbefore => hmeta ?_, ?_, ?_⟩, (hcustomer old).symm⟩
        · refine (hkeep.isMetaRow_iff hlt).mpr ?_
          obtain ⟨tag, htag, hname, hpkTag⟩ := hbefore
          exact ⟨tag, htag, hname, (hpk old).trans hpkTag⟩
        · rw [← hcustomer old, ← hsubscription old]
          exact hlago
        · -- the row goes by the name of the device's tag, before and after
          rcases (hkeep.goesBy_iff hnames hregular hlt).mp hgoes with
            ⟨tag, htag, hpkTag, hrest⟩ | ⟨hout, -⟩
          · exact Or.inl ⟨tag, htag, hpkTag.trans (hpk old), hrest⟩
          · exact absurd hself (hout deviceTag hmem (hrow.symm.trans (hpk old).symm))
      · rw [if_neg hrow] at heq
        exact hsame (heq ▸ hold)
  | cleaned legacyTag hlegacy hcleans =>
      obtain ⟨old, hold, heq⟩ := (hcleans.mem_mappings m).mp hm
      by_cases hrow : old.steveOcppIdTag = legacyTag.idTag
      · rw [if_pos hrow] at heq
        subst heq
        refine ⟨old, ⟨hold, fun hbefore => hmeta ?_, hlago, ?_⟩, rfl⟩
        · exact (hkeep.isMetaRow_iff (w.numbered old hold)).mpr hbefore
        · rcases (hkeep.goesBy_iff (m := { old with isActive := false }) hnames hregular
            (w.numbered old hold)).mp hgoes with htag | ⟨-, -, hactive⟩
          · exact Or.inl htag
          · cases hactive
      · rw [if_neg hrow] at heq
        exact hsame (heq ▸ hold)

/-- And the other way round. -/
lemma Writes.exists_bills' (hidTag : idTag ∉ c.legacyIdTags) {old : UserMapping}
    (hbills : c.Bills names w idTag old) :
    ∃ m, c.Bills names w' idTag m ∧ m.lagoCustomerExternalId = old.lagoCustomerExternalId := by
  obtain ⟨hold, hmeta, hlago, hgoes⟩ := hbills
  have hmeta' : ¬c.IsMetaRow w' old :=
    fun hafter => hmeta ((h.isMetaRow_iff (w.numbered old hold)).mp hafter)
  have hgoes' : GoesBy names w' old idTag :=
    (h.goesBy_iff hnames hregular (w.numbered old hold)).mpr hgoes
  cases h with
  | limited hmappings htags => exact ⟨old, ⟨hmappings ▸ hold, hmeta', hlago, hgoes'⟩, rfl⟩
  | minted _ note parentIdTag _ hfree hmappings htags =>
      exact ⟨old, ⟨hmappings ▸ hold, hmeta', hlago, hgoes'⟩, rfl⟩
  | metaRow metaTag row hmem hself hpk _ _ _ htags hmappings =>
      have hother : old.steveOcppTagPk ≠ metaTag.ocppTagPk :=
        fun heq => hmeta ⟨metaTag, hmem, hself, heq⟩
      exact ⟨old, ⟨(hmappings old).mpr (Or.inr ⟨hold, hother⟩), hmeta', hlago, hgoes'⟩, rfl⟩
  | deviceRow deviceTag f hmem hself hpk hidTag' hactive hcustomer hsubscription htags hmappings =>
      by_cases hrow : old.steveOcppTagPk = deviceTag.ocppTagPk
      · refine ⟨f old, ⟨(hmappings _).mpr ⟨old, hold, (if_pos hrow).symm⟩, ?_, ?_, ?_⟩,
          hcustomer old⟩
        · rintro ⟨tag, htag, hname, hpkTag⟩
          exact hmeta' ⟨tag, htag, hname, (hpk old).symm.trans hpkTag⟩
        · rw [hcustomer old, hsubscription old]
          exact hlago
        · rcases hgoes with ⟨tag, htag, hpkTag, hrest⟩ | ⟨hout, -⟩
          · exact Or.inl ⟨tag, htags ▸ htag, hpkTag.trans (hpk old).symm, hrest⟩
          · exact absurd hself (hout deviceTag hmem hrow.symm)
      · exact ⟨old, ⟨(hmappings old).mpr ⟨old, hold, (if_neg hrow).symm⟩, hmeta', hlago, hgoes'⟩,
          rfl⟩
  | cleaned legacyTag hlegacy hcleans =>
      by_cases hrow : old.steveOcppIdTag = legacyTag.idTag
      · refine ⟨_, ⟨(hcleans.mem_mappings _).mpr ⟨old, hold, rfl⟩, ?_⟩, ?_⟩
        · rw [if_pos hrow]
          refine ⟨hmeta', hlago, ?_⟩
          rcases hgoes' with htag | ⟨-, hname, -⟩
          · exact Or.inl htag
          · exact absurd (hname ▸ hrow ▸ hlegacy) hidTag
        · split <;> rfl
      · exact ⟨old, ⟨(hcleans.mem_mappings old).mpr ⟨old, hold, (if_neg hrow).symm⟩, hmeta', hlago,
          hgoes'⟩, rfl⟩

lemma Writes.registered_iff (hidTag : idTag ∈ names) :
    c.Registered w' idTag ↔ c.Registered w idTag := by
  have hmetaPk : ∀ old ∈ w.tags.table.rows, old.idTag = idTag → ∀ tag ∈ w.tags.table.rows,
      tag.idTag = c.metaIdTag → tag.ocppTagPk ≠ old.ocppTagPk := by
    intro old hold hname tag htag hmeta hpk
    obtain rfl := SerialTable.eq_of_key htag hold hpk
    exact hnames.metaIdTag_not_mem (hmeta ▸ hname ▸ hidTag)
  constructor
  · rintro ⟨tag, htag, hname, hrow, hparent⟩
    rcases h.exists_tag htag with ⟨old, hold, hsame, hmoves⟩ | ⟨hnew, -⟩
    · have hname' : old.idTag = idTag := hsame.idTag.symm.trans hname
      have hrow' : w.mappings.HasPk old.ocppTagPk :=
        (h.hasPk_iff (hmetaPk old hold hname')).mp (hsame.ocppTagPk ▸ hrow)
      refine ⟨old, hold, hname', hrow', ?_⟩
      rcases hmoves with ⟨hkept, -⟩ | ⟨-, hmoved⟩
      · rw [← hkept]
        exact hparent.imp_right fun ⟨legacyIdTag, hlegacy, hlisted, hunder⟩ =>
          ⟨legacyIdTag, hlegacy, h.lists_legacy hregular hlegacy hlisted, hunder⟩
      · exact Or.inr hmoved
    · rw [hnew] at hrow
      exact absurd hrow h.not_hasPk_next
  · rintro ⟨old, hold, hname, hrow, hparent⟩
    obtain ⟨tag, htag, hsame, hmoves⟩ := h.exists_tag' hold (hname ▸ hregular _ hidTag)
    have hrow' : w'.mappings.HasPk tag.ocppTagPk := by
      rw [hsame.ocppTagPk]
      exact (h.hasPk_iff (hmetaPk old hold hname)).mpr hrow
    refine ⟨tag, htag, hsame.idTag.trans hname, hrow', ?_⟩
    rcases hmoves with ⟨hkept, hlists⟩ | ⟨hmoved, -⟩
    · rw [hkept]
      exact hparent.imp_right fun ⟨legacyIdTag, hlegacy, hlisted, hunder⟩ =>
        ⟨legacyIdTag, hlegacy, hlists legacyIdTag hlegacy hlisted hunder, hunder⟩
    · exact Or.inl hmoved

/-- Whether the world is prepared does not change on the way. -/
lemma Writes.prepared_iff (hidTag : idTag ∈ names) :
    c.Prepared names w' idTag ↔ c.Prepared names w idTag := by
  have hlegacy : idTag ∉ c.legacyIdTags := hregular idTag hidTag
  have hmeta : c.metaIdTag ∉ c.legacyIdTags := c.metaIdTag_not_mem_legacyIdTags
  constructor
  · rintro ⟨hnot, hregistered, hown, hinherited⟩
    refine ⟨hnot, (h.registered_iff hnames hregular hidTag).mp hregistered, ?_, ?_⟩
    · intro old hold
      obtain ⟨m, hm, hcustomer⟩ := h.exists_bills' hnames hregular hlegacy hold
      exact hcustomer ▸ hown m hm
    · refine hinherited.imp ?_ ?_
      · rintro ⟨m, hm⟩
        obtain ⟨old, hold, -⟩ := h.exists_bills hnames hregular hm
        exact ⟨old, hold⟩
      · intro hall old hold
        obtain ⟨m, hm, hcustomer⟩ := h.exists_bills' hnames hregular hmeta hold
        exact hcustomer ▸ hall m hm
  · rintro ⟨hnot, hregistered, hown, hinherited⟩
    refine ⟨hnot, (h.registered_iff hnames hregular hidTag).mpr hregistered, ?_, ?_⟩
    · intro m hm
      obtain ⟨old, hold, hcustomer⟩ := h.exists_bills hnames hregular hm
      exact hcustomer ▸ hown old hold
    · refine hinherited.imp ?_ ?_
      · rintro ⟨old, hold⟩
        obtain ⟨m, hm, -⟩ := h.exists_bills' hnames hregular hlegacy hold
        exact ⟨m, hm⟩
      · intro hall m hm
        obtain ⟨old, hold, hcustomer⟩ := h.exists_bills hnames hregular hm
        exact hcustomer ▸ hall old hold

/-- The row of a device's tag goes on to carry its name and state. -/
lemma Writes.namesRow (hidTag : idTag ∈ names) (hbefore : NamesRow w idTag) :
    NamesRow w' idTag := by
  intro tag htag hname m hm hpk
  rcases h.exists_tag htag with ⟨old, hold, hsame, -⟩ | ⟨hnew, -⟩
  · have hname' : old.idTag = idTag := hsame.idTag.symm.trans hname
    have hnotMeta : old.idTag ≠ c.metaIdTag :=
      fun heq => hnames.metaIdTag_not_mem (heq ▸ hname' ▸ hidTag)
    rw [hsame.limit hnotMeta]
    rw [hsame.ocppTagPk] at hpk
    have hkept : m ∈ w.mappings.table.rows → m.steveOcppIdTag = idTag ∧
        m.isActive = decide (0 < old.maxActiveTransactionCount.getD 0) :=
      fun hrow => hbefore old hold hname' m hrow hpk
    cases h with
    | limited hmappings htags => exact hkept (hmappings ▸ hm)
    | minted _ note parentIdTag _ hfree hmappings htags => exact hkept (hmappings ▸ hm)
    | metaRow metaTag row hmem hself hpkRow _ _ _ htags hmappings =>
        rcases (hmappings m).mp hm with rfl | ⟨hrow, -⟩
        · obtain rfl := SerialTable.eq_of_key hold hmem (hpk.symm.trans hpkRow)
          exact absurd hself hnotMeta
        · exact hkept hrow
    | deviceRow deviceTag f hmem hself hpkRow hnameRow hactiveRow _ _ htags hmappings =>
        obtain ⟨row, hrow, rfl⟩ := (hmappings m).mp hm
        by_cases hown : row.steveOcppTagPk = deviceTag.ocppTagPk
        · rw [if_pos hown] at hpk ⊢
          obtain rfl := SerialTable.eq_of_key hold hmem
            (hpk.symm.trans ((hpkRow row).trans hown))
          exact ⟨(hnameRow row).trans hname', hactiveRow row⟩
        · rw [if_neg hown] at hpk hkept ⊢
          exact hkept hrow
    | cleaned legacyTag hlegacy hcleans =>
        obtain ⟨row, hrow, rfl⟩ := (hcleans.mem_mappings m).mp hm
        by_cases hown : row.steveOcppIdTag = legacyTag.idTag
        · have hpkRow : row.steveOcppTagPk = old.ocppTagPk := by
            rw [if_pos hown] at hpk
            exact hpk
          have hself : row.steveOcppIdTag = idTag := (hbefore old hold hname' row hrow hpkRow).1
          exact absurd (hself ▸ hown ▸ hlegacy) (hregular idTag hidTag)
        · rw [if_neg hown] at hpk hkept ⊢
          exact hkept hrow
  · exact absurd ⟨m, hm, hpk.trans hnew⟩ h.not_hasPk_next

end Regular

/-- No tag of this name has a row. -/
def LacksRow (w : TagWorld) (idTag : String) : Prop :=
  ∀ tag ∈ w.tags.table.rows, tag.idTag = idTag → ¬w.mappings.HasPk tag.ocppTagPk

lemma Writes.lacksRow (h : c.Writes names w w') (hnotMeta : idTag ≠ c.metaIdTag)
    (hbefore : LacksRow w idTag) : LacksRow w' idTag := by
  intro tag htag hname hrow
  rcases h.exists_tag htag with ⟨old, hold, hsame, -⟩ | ⟨hnew, -⟩
  · have hname' : old.idTag = idTag := hsame.idTag.symm.trans hname
    refine hbefore old hold hname' ((h.hasPk_iff ?_).mp (hsame.ocppTagPk ▸ hrow))
    intro metaTag hmem hmeta hpk
    obtain rfl := SerialTable.eq_of_key hmem hold hpk
    exact hnotMeta (hname'.symm.trans hmeta)
  · exact h.not_hasPk_next (hnew ▸ hrow)

end Writes

/-! ## Runs -/

section Runs

variable {c} {names : List String} {w w' : TagWorld} {idTag : String} {as : List DeviceTagAction}
  {a : DeviceTagAction} {P : TagWorld → Prop}

lemma WritesAll.keeps (h : c.WritesAll names w w')
    (hkeep : ∀ w w', c.Writes names w w' → P w → P w') (hP : P w) : P w' := by
  induction h with
  | refl => exact hP
  | tail _ hwrite ih => exact hkeep _ _ hwrite ih

/-- A call is a chain of writes. -/
lemma writesAll_step (hname : ∀ deviceId ∈ a.deviceId, c.deviceIdTag deviceId ∈ names) :
    c.WritesAll names w (c.step w a) := by
  cases a with
  | ensuresMetaTag displayName subscriptions =>
      obtain ⟨mid, hfirst, -, hsecond, -⟩ :=
        writesAll_ensureCustomerMetaTag (c := c) (w := w) displayName subscriptions names
      exact hfirst.trans hsecond
  | ensuresDeviceTag deviceId displayName admitsMissingParent =>
      exact (writesAll_ensureDeviceTag (hname deviceId rfl)).1

lemma writesAll_runAll (hnames : c.deviceIdTags as ⊆ names) :
    c.WritesAll names w (c.runAll w as) := by
  induction as generalizing w with
  | nil => exact .refl
  | cons a as ih =>
      have hhead : ∀ deviceId ∈ a.deviceId, c.deviceIdTag deviceId ∈ names := by
        intro deviceId hmem
        refine hnames (List.mem_map_of_mem ?_)
        exact List.mem_filterMap.mpr ⟨a, List.mem_cons_self, hmem⟩
      have hrest : c.deviceIdTags as ⊆ names := by
        intro idTag hmem
        refine hnames ?_
        obtain ⟨deviceId, hdevice, rfl⟩ := List.mem_map.mp hmem
        obtain ⟨a', ha', hself⟩ := List.mem_filterMap.mp hdevice
        exact List.mem_map_of_mem (List.mem_filterMap.mpr ⟨a', List.mem_cons_of_mem _ ha', hself⟩)
      exact (writesAll_step hhead).trans (ih hrest)

/-- What one of the calls establishes, and every write keeps, holds in the end. -/
lemma holds_of_mem (hkeep : ∀ w w', c.Writes names w w' → P w → P w')
    (hnames : c.deviceIdTags as ⊆ names) (ha : a ∈ as) (hestablishes : ∀ w, P (c.step w a)) :
    P (c.runAll w as) := by
  obtain ⟨before, after, rfl⟩ := List.append_of_mem ha
  have hrun : c.runAll w (before ++ a :: after) =
      c.runAll (c.step (c.runAll w before) a) after := by
    rw [runAll, List.foldl_append, List.foldl_cons]
    rfl
  rw [hrun]
  have hafter : c.deviceIdTags after ⊆ names := by
    intro idTag hmem
    refine hnames ?_
    obtain ⟨deviceId, hdevice, rfl⟩ := List.mem_map.mp hmem
    obtain ⟨a', ha', hself⟩ := List.mem_filterMap.mp hdevice
    refine List.mem_map_of_mem (List.mem_filterMap.mpr ⟨a', ?_, hself⟩)
    exact List.mem_append_right _ (List.mem_cons_of_mem _ ha')
  exact (writesAll_runAll hafter).keeps hkeep (hestablishes _)

lemma areDeviceTags_deviceIdTags : c.AreDeviceTags (c.deviceIdTags as) := by
  intro idTag hmem
  obtain ⟨deviceId, -, rfl⟩ := List.mem_map.mp hmem
  exact ⟨deviceId, rfl⟩

/-- After the calls, a row goes by the name that it has. -/
lemma goesBy_iff_of_namesRow (hrows : ∀ idTag ∈ names, NamesRow w idTag) {m : UserMapping}
    (hm : m ∈ w.mappings.table.rows) :
    GoesBy names w m idTag ↔ m.steveOcppIdTag = idTag ∧ m.isActive = true := by
  constructor
  · rintro (⟨tag, htag, hpk, hmem, rfl, hpos⟩ | ⟨-, hself⟩)
    · obtain ⟨hname, hactive⟩ := hrows _ hmem tag htag rfl m hm hpk.symm
      exact ⟨hname, hactive.trans (decide_eq_true hpos)⟩
    · exact hself
  · rintro ⟨hname, hactive⟩
    by_cases hdevice : ∃ tag ∈ w.tags.table.rows, tag.ocppTagPk = m.steveOcppTagPk ∧
      tag.idTag ∈ names
    · obtain ⟨tag, htag, hpk, hmem⟩ := hdevice
      obtain ⟨hname', hactive'⟩ := hrows _ hmem tag htag rfl m hm hpk.symm
      refine Or.inl ⟨tag, htag, hpk, hmem, hname'.symm.trans hname, ?_⟩
      rw [hactive] at hactive'
      exact of_decide_eq_true hactive'.symm
    · exact Or.inr ⟨fun tag htag hpk hmem => hdevice ⟨tag, htag, hpk, hmem⟩, hname, hactive⟩

/-- After the calls, a row bills a name when it is a direct row of that name. -/
lemma bills_iff_isDirectRow (hrows : ∀ idTag ∈ names, NamesRow w idTag) {m : UserMapping} :
    c.Bills names w idTag m ↔ IsDirectRow w.mappings.table.rows idTag m ∧ ¬c.IsMetaRow w m := by
  constructor
  · rintro ⟨hm, hmeta, hlago, hgoes⟩
    obtain ⟨hname, hactive⟩ := (goesBy_iff_of_namesRow hrows hm).mp hgoes
    exact ⟨⟨hm, by rw [isDirectMapping, hlago, hactive]; rfl, hname⟩, hmeta⟩
  · rintro ⟨⟨hm, hdirect, hname⟩, hmeta⟩
    obtain ⟨hlago, hactive⟩ := Bool.and_eq_true_iff.mp hdirect
    exact ⟨hm, hmeta, hlago, (goesBy_iff_of_namesRow hrows hm).mpr ⟨hname, hactive⟩⟩

lemma find_idTag {tag : StEvEOcppTag} (htag : tag ∈ w.tags.table.rows) (hname : tag.idTag = idTag) :
    w.tags.table.rows.find? (fun t => t.idTag = idTag) = some tag := by
  rcases hfind : w.tags.table.rows.find? (fun t => t.idTag = idTag) with _ | found
  · have hnot := List.find?_eq_none.mp hfind tag htag
    simp [hname] at hnot
  · have hfound : found.idTag = idTag := by simpa using List.find?_some hfind
    rw [hfind, SteveTags.eq_of_idTag (List.mem_of_find?_eq_some hfind) htag
      (hfound.trans hname.symm)]

/-- After the calls, a device inherits exactly when the world is prepared. -/
lemma inheritsBilling_iff_prepared (hnames : c.AreDeviceTags names) (hmeta : c.HasMetaRow w)
    (hlegacy : c.NoLegacy w) (hrows : ∀ idTag ∈ names, NamesRow w idTag) (hidTag : idTag ∈ names)
    (hregular : idTag ∉ c.legacyIdTags) :
    c.InheritsBilling w idTag ↔ c.Prepared names w idTag := by
  obtain ⟨metaTag, hmem, hname, metaRow, hrow, hpk, hrowName, hcustomer, hactive⟩ := hmeta
  have hne : c.metaIdTag ≠ idTag := fun heq => hnames.metaIdTag_not_mem (heq ▸ hidTag)
  have hnonempty : c.metaIdTag ≠ "" := by
    intro heq
    have hlist := congrArg String.toList heq
    simp [metaIdTag, parentIdTagForUserPublicId] at hlist
  have honly : ∀ m ∈ w.mappings.table.rows, c.IsMetaRow w m → m = metaRow := by
    rintro m hm ⟨tag, htag, hself, hpk'⟩
    obtain rfl := SteveTags.eq_of_idTag htag hmem (hself.trans hname.symm)
    exact UserMappingTable.eq_of_pk hm hrow (hpk'.trans hpk.symm)
  have hdirect : IsDirectRow w.mappings.table.rows c.metaIdTag metaRow := by
    refine ⟨hrow, ?_, hrowName⟩
    simp [isDirectMapping, hcustomer, hactive, truthy, c.linked]
  have hown : ∀ m, IsDirectRow w.mappings.table.rows idTag m ↔ c.Bills names w idTag m := by
    intro m
    rw [bills_iff_isDirectRow hrows]
    refine ⟨fun hm => ⟨hm, fun hisMeta => hne ?_⟩, fun hm => hm.1⟩
    rw [honly m hm.1 hisMeta] at hm
    exact hrowName.symm.trans hm.2.2
  have hparents : (∀ m, IsDirectRow w.mappings.table.rows c.metaIdTag m →
        m.lagoCustomerExternalId = some c.lagoCustomerExternalId) ↔
      ∀ m, c.Bills names w c.metaIdTag m →
        m.lagoCustomerExternalId = some c.lagoCustomerExternalId := by
    constructor
    · exact fun hall m hm => hall m ((bills_iff_isDirectRow hrows).mp hm).1
    · intro hall m hm
      by_cases hisMeta : c.IsMetaRow w m
      · rw [honly m hm.1 hisMeta]
        exact hcustomer
      · exact hall m ((bills_iff_isDirectRow hrows).mpr ⟨hm, hisMeta⟩)
  have hresolves : ∀ tag ∈ w.tags.table.rows, tag.idTag = idTag →
      tag.parentIdTag = some c.metaIdTag →
        (c.Resolves w idTag ↔
          (∀ m, c.Bills names w idTag m → m.lagoCustomerExternalId =
            some c.lagoCustomerExternalId) ∧
            ((∃ m, c.Bills names w idTag m) ∨ ∀ m, c.Bills names w c.metaIdTag m →
              m.lagoCustomerExternalId = some c.lagoCustomerExternalId)) := by
    intro tag htag hself hparent
    have hlookup := forall_perm_lookup_iff
      (Q := fun m => m.lagoCustomerExternalId = some c.lagoCustomerExternalId)
      (find_idTag htag hself) hparent hnonempty hne (find_idTag hmem hname) ⟨metaRow, hdirect⟩
    simp only [hown, hparents] at hlookup
    exact hlookup
  constructor
  · rintro ⟨tag, htag, hself, hhas, hparent, hresolve⟩
    obtain ⟨howns, hinherited⟩ := (hresolves tag htag hself hparent).mp hresolve
    exact ⟨hregular, ⟨tag, htag, hself, hhas, Or.inl hparent⟩, howns, hinherited⟩
  · rintro ⟨-, ⟨tag, htag, hself, hhas, hparent⟩, howns, hinherited⟩
    have hparent' : tag.parentIdTag = some c.metaIdTag := by
      refine hparent.resolve_right ?_
      rintro ⟨legacyIdTag, hmemLegacy, hlisted, -⟩
      exact hlegacy legacyIdTag hmemLegacy hlisted
    exact ⟨tag, htag, hself, hhas, hparent', (hresolves tag htag hself hparent').mpr
      ⟨howns, hinherited⟩⟩

/-- What the call of `ensureCustomerMetaTag` leaves behind. -/
lemma hasMetaRow_step {displayName : Option String} {subscriptions : ActiveSubscriptions} :
    c.HasMetaRow (c.step w (.ensuresMetaTag displayName subscriptions)) := by
  obtain ⟨mid, -, hmeta, hsecond, -⟩ :=
    writesAll_ensureCustomerMetaTag (c := c) (w := w) displayName subscriptions []
  have hnone : c.AreDeviceTags [] := fun _ hmem => absurd hmem List.not_mem_nil
  exact WritesAll.keeps hsecond (fun _ _ hwrite => hwrite.hasMetaRow hnone) hmeta

lemma noLegacy_step {displayName : Option String} {subscriptions : ActiveSubscriptions} :
    c.NoLegacy (c.step w (.ensuresMetaTag displayName subscriptions)) := by
  obtain ⟨-, -, -, -, hlegacy⟩ :=
    writesAll_ensureCustomerMetaTag (c := c) (w := w) displayName subscriptions []
  exact hlegacy

end Runs

/-- For every customer and world, and all calls in any order: every device that is called for
inherits in the end, exactly when StEvE and the database had its tag before the calls, under the
customer's parent tag or a legacy one, and no other customer's mapping goes by one of the names. -/
theorem devicesInherit_iff_devicesPrepared (c : BilledCustomer) (w : TagWorld)
    (as : List DeviceTagAction) : c.DevicesInherit w as ↔ c.DevicesPrepared w as := by
  refine forall_congr' fun hmeta => ?_
  obtain ⟨a, ha, hisMeta⟩ := hmeta
  have hnames : c.AreDeviceTags (c.deviceIdTags as) := areDeviceTags_deviceIdTags
  have hchain : c.WritesAll (c.deviceIdTags as) w (c.runAll w as) :=
    writesAll_runAll (List.Subset.refl _)
  cases a with
  | ensuresDeviceTag deviceId displayName admitsMissingParent => cases hisMeta
  | ensuresMetaTag displayName subscriptions =>
      by_cases hregular : ∀ idTag ∈ c.deviceIdTags as, idTag ∉ c.legacyIdTags
      · have hhas : c.HasMetaRow (c.runAll w as) :=
          holds_of_mem (fun _ _ hwrite => hwrite.hasMetaRow hnames) (List.Subset.refl _) ha
            fun _ => hasMetaRow_step
        have hlegacy : c.NoLegacy (c.runAll w as) :=
          holds_of_mem (fun _ _ hwrite hno idTag hmem hlisted =>
            hno idTag hmem (hwrite.lists_legacy hregular hmem hlisted)) (List.Subset.refl _) ha
            fun _ => noLegacy_step
        have hrows : ∀ idTag ∈ c.deviceIdTags as, NamesRow (c.runAll w as) idTag := by
          intro idTag hidTag
          obtain ⟨deviceId, hdevice, rfl⟩ := List.mem_map.mp hidTag
          obtain ⟨a', ha', hself⟩ := List.mem_filterMap.mp hdevice
          refine holds_of_mem (fun _ _ hwrite => hwrite.namesRow hnames hregular hidTag)
            (List.Subset.refl _) ha' fun _ => ?_
          cases a' with
          | ensuresMetaTag displayName' subscriptions' => cases hself
          | ensuresDeviceTag deviceId' displayName' admitsMissingParent =>
              obtain rfl : deviceId' = deviceId := Option.some.inj hself
              have hname : c.deviceIdTag deviceId' ∈ c.deviceIdTags as := hidTag
              exact (writesAll_ensureDeviceTag hname).2
        refine forall₂_congr fun deviceId hdevice => ?_
        have hidTag : c.deviceIdTag deviceId ∈ c.deviceIdTags as := List.mem_map_of_mem hdevice
        rw [inheritsBilling_iff_prepared hnames hhas hlegacy hrows hidTag (hregular _ hidTag)]
        -- no write on the way has changed whether the world is prepared
        exact hchain.keeps (P := fun mid =>
          c.Prepared (c.deviceIdTags as) mid (c.deviceIdTag deviceId) ↔
            c.Prepared (c.deviceIdTags as) w (c.deviceIdTag deviceId))
          (fun _ _ hwrite hbefore => (hwrite.prepared_iff hnames hregular hidTag).trans hbefore)
            Iff.rfl
      · push Not at hregular
        obtain ⟨idTag, hidTag, hlegacy⟩ := hregular
        obtain ⟨deviceId, hdevice, rfl⟩ := List.mem_map.mp hidTag
        have hlacks : LacksRow (c.runAll w as) (c.deviceIdTag deviceId) := by
          refine holds_of_mem (fun _ _ hwrite => hwrite.lacksRow
            (c.metaIdTag_ne_deviceIdTag deviceId).symm) (List.Subset.refl _) ha fun _ => ?_
          exact fun tag htag hself _ => noLegacy_step _ hlegacy ⟨tag, htag, hself⟩
        constructor
        · intro hall
          obtain ⟨tag, htag, hself, hhas, -⟩ := hall deviceId hdevice
          exact absurd hhas (hlacks tag htag hself)
        · intro hall
          exact absurd hlegacy (hall deviceId hdevice).not_legacy

end BilledCustomer

/-! ## A new device -/

def newCustomer : BilledCustomer where
  owner := ⟨"user", "7KQ2M9XA"⟩
  lagoCustomerExternalId := "lago_1"
  linked := by decide

/-- No tags and no rows. -/
def emptyTagWorld : TagWorld where
  tags := ⟨SerialTable.empty, by decide⟩
  mappings := ⟨SerialTable.empty, by decide⟩
  numbered := by decide

def firstDeviceCalls : List DeviceTagAction :=
  [.ensuresMetaTag none ⟨[⟨"sub_1", "plan", .active⟩], by decide⟩,
    .ensuresDeviceTag "3f2a9c41-77de-4b0e-9c31-5d6f1a2b3c4d" none true]

/-- The tag of a new device has no row: its `tag_type` is `phone_nfc`. -/
theorem not_devicesInherit_newDevice :
    ¬∀ (c : BilledCustomer) (w : TagWorld) (as : List DeviceTagAction), c.DevicesInherit w as := by
  intro hall
  obtain ⟨tag, htag, hname, hrow, -⟩ := hall newCustomer emptyTagWorld firstDeviceCalls
    ⟨_, List.mem_cons_self, rfl⟩ _ List.mem_cons_self
  have hlacks : ∀ tag ∈ (newCustomer.runAll emptyTagWorld firstDeviceCalls).tags.table.rows,
      tag.idTag = newCustomer.deviceIdTag "3f2a9c41-77de-4b0e-9c31-5d6f1a2b3c4d" →
        ¬(newCustomer.runAll emptyTagWorld firstDeviceCalls).mappings.HasPk tag.ocppTagPk := by
    decide +kernel
  exact hlacks tag htag hname hrow

end ExpresSync
