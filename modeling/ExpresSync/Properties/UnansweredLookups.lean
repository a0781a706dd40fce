import ExpresSync.Model.DeviceTags
import ExpresSync.Properties.ParentTagPlaces

/-!
# A look-up that Lago does not answer

A call whose query of the subscriptions fails does what it does for a customer without a
subscription: the limit of the parent tag is put to 0 and its row is switched off.  They are left
as they were only where the call does not get to write them.
-/

namespace ExpresSync

namespace MetaTagAttempt

variable {call : MetaTagAttempt} {w w' : TagWorld}

/-! ## Without failures of the database -/

lemma cleanUpLegacy_eq {legacyIdTag : String} (h : call.statements.deactivate legacyIdTag = true) :
    call.cleanUpLegacy w legacyIdTag = w.cleanUpLegacy call.toCustomerMetaTagCall legacyIdTag := by
  unfold cleanUpLegacy TagWorld.cleanUpLegacy
  rw [h]
  rfl

/-- With a database that does not fail, the call is that of `DeviceTags`. -/
theorem ensureCustomerMetaTag_eq
    (h : call.statements = ⟨true, true, true, true, fun _ => true⟩) :
    (call.ensureCustomerMetaTag w).map (fun done => (done.1, done.2.ocppTagPk)) =
      some (w.ensureCustomerMetaTag call.toCustomerMetaTagCall) := by
  have hcleanUp : call.cleanUpLegacy =
      fun w legacyIdTag => w.cleanUpLegacy call.toCustomerMetaTagCall legacyIdTag := by
    funext w legacyIdTag
    exact cleanUpLegacy_eq (by rw [h])
  have hupsert : ∀ ensured ocppTagPk, call.upsertMetaRow ensured ocppTagPk =
      ensured.upsertMetaRow call.toCustomerMetaTagCall ocppTagPk := by
    intro ensured ocppTagPk
    unfold upsertMetaRow
    rw [h]
    rfl
  unfold ensureCustomerMetaTag TagWorld.ensureCustomerMetaTag
  rw [hcleanUp, h]
  simp only [hupsert]
  split
  · next hthrows => cases hthrows
  · split
    · next hnone =>
      rw [Option.map_some, hnone]
    · next hsome =>
      rw [Option.map_some, hsome]

/-! ## What the call goes by -/

/-- A failed look-up is a look-up that lists nothing. -/
lemma ensureCustomerMetaTag_error {message : String}
    (h : call.getSubscriptions = .error message) :
    call.ensureCustomerMetaTag w =
      ({ call with getSubscriptions := .ok [] } : MetaTagAttempt).ensureCustomerMetaTag w := by
  obtain ⟨⟨externalId, displayName, owner, getSubscriptions, faults⟩, statements⟩ := call
  dsimp only at h
  subst h
  rfl

/-! ## The clean-ups -/

/-- The parent tag keeps its limit, and a row is switched off only under a legacy name. -/
structure PassesOver (call : MetaTagAttempt) (w w' : TagWorld) : Prop where
  tag : ∀ tag ∈ w.tags.table.rows, tag.idTag = call.idTag → ∃ tag' ∈ w'.tags.table.rows,
    tag'.idTag = tag.idTag ∧ tag'.ocppTagPk = tag.ocppTagPk ∧
      tag'.maxActiveTransactionCount = tag.maxActiveTransactionCount
  row : ∀ m ∈ w.mappings.table.rows, ∃ m' ∈ w'.mappings.table.rows,
    m'.id = m.id ∧ m'.steveOcppIdTag = m.steveOcppIdTag ∧
      m'.lagoSubscriptionExternalId = m.lagoSubscriptionExternalId ∧
      (m'.isActive = m.isActive ∨ m'.isActive = false ∧ m.steveOcppIdTag ∈ call.legacyIdTags)

lemma PassesOver.refl : call.PassesOver w w where
  tag := fun tag htag _ => ⟨tag, htag, rfl, rfl, rfl⟩
  row := fun m hm => ⟨m, hm, rfl, rfl, rfl, Or.inl rfl⟩

lemma PassesOver.trans {w'' : TagWorld} (h : call.PassesOver w w') (h' : call.PassesOver w' w'') :
    call.PassesOver w w'' where
  tag := by
    intro tag htag hname
    obtain ⟨tag', htag', hname', hpk', hlimit'⟩ := h.tag tag htag hname
    obtain ⟨tag'', htag'', hname'', hpk'', hlimit''⟩ := h'.tag tag' htag' (hname'.trans hname)
    exact ⟨tag'', htag'', hname''.trans hname', hpk''.trans hpk', hlimit''.trans hlimit'⟩
  row := by
    intro m hm
    obtain ⟨m', hm', hid', hname', hsub', hactive'⟩ := h.row m hm
    obtain ⟨m'', hm'', hid'', hname'', hsub'', hactive''⟩ := h'.row m' hm'
    refine ⟨m'', hm'', hid''.trans hid', hname''.trans hname', hsub''.trans hsub', ?_⟩
    rcases hactive'' with hsame | ⟨hoff, hlegacy⟩
    · rw [hsame]
      exact hactive'
    · exact Or.inr ⟨hoff, hname' ▸ hlegacy⟩

/-- One clean-up is that of `DeviceTags`, with the rows as they were where the database fails. -/
lemma cleanUpLegacy_tags_mappings (call : MetaTagAttempt) (w : TagWorld) (legacyIdTag : String) :
    (call.cleanUpLegacy w legacyIdTag).tags =
        (w.cleanUpLegacy call.toCustomerMetaTagCall legacyIdTag).tags ∧
      ((call.cleanUpLegacy w legacyIdTag).mappings = w.mappings ∨
        (call.cleanUpLegacy w legacyIdTag).mappings =
          (w.cleanUpLegacy call.toCustomerMetaTagCall legacyIdTag).mappings) := by
  cases hdeactivates : call.statements.deactivate legacyIdTag with
  | true => rw [cleanUpLegacy_eq hdeactivates]; exact ⟨rfl, Or.inr rfl⟩
  | false =>
      unfold cleanUpLegacy TagWorld.cleanUpLegacy
      rw [hdeactivates]
      dsimp only
      cases (w.inputs call.toCustomerMetaTagCall).getOcppTags legacyIdTag with
      | error message => exact ⟨rfl, Or.inl rfl⟩
      | ok tags =>
          cases tags with
          | nil => exact ⟨rfl, Or.inl rfl⟩
          | cons legacyTag rest =>
              cases (w.inputs call.toCustomerMetaTagCall).getChildren legacyIdTag with
              | error message => exact ⟨rfl, Or.inl rfl⟩
              | ok children => exact ⟨rfl, Or.inl rfl⟩

lemma passesOver_cleanUpLegacy {legacyIdTag : String} (hmem : legacyIdTag ∈ call.legacyIdTags) :
    call.PassesOver w (call.cleanUpLegacy w legacyIdTag) := by
  obtain ⟨htags, hmappings⟩ := cleanUpLegacy_tags_mappings call w legacyIdTag
  rcases CustomerMetaTagCall.clears_cleanUpLegacy call.toCustomerMetaTagCall w legacyIdTag with
    hsame | ⟨legacyTag, rfl, hclears⟩
  · rw [hsame] at htags hmappings
    rw [or_self] at hmappings
    refine ⟨fun tag htag _ => ⟨tag, htags ▸ htag, rfl, rfl, rfl⟩, fun m hm => ?_⟩
    exact ⟨m, hmappings ▸ hm, rfl, rfl, rfl, Or.inl rfl⟩
  · constructor
    · intro tag htag hname
      have hother : tag.ocppTagPk ≠ legacyTag.ocppTagPk := by
        intro hpk
        obtain rfl : tag = legacyTag := SerialTable.eq_of_key htag hclears.listed hpk
        exact CustomerMetaTagCall.ne_idTag hmem hname
      refine ⟨_, htags ▸ (hclears.mem_tags _).mpr ⟨tag, htag, fun _ => hother, rfl⟩, ?_⟩
      split <;> exact ⟨rfl, rfl, rfl⟩
    · intro m hm
      rcases hmappings with hmappings | hmappings
      · exact ⟨m, hmappings ▸ hm, rfl, rfl, rfl, Or.inl rfl⟩
      · refine ⟨_, hmappings ▸ (hclears.mem_mappings _).mpr ⟨m, hm, rfl⟩, ?_⟩
        split
        · next hlegacy => exact ⟨rfl, rfl, rfl, Or.inr ⟨rfl, hlegacy ▸ hmem⟩⟩
        · exact ⟨rfl, rfl, rfl, Or.inl rfl⟩

lemma passesOver_cleanUps {legacyIdTags : List String}
    (h : ∀ legacyIdTag ∈ legacyIdTags, legacyIdTag ∈ call.legacyIdTags) :
    call.PassesOver w (legacyIdTags.foldl call.cleanUpLegacy w) := by
  induction legacyIdTags generalizing w with
  | nil => exact .refl
  | cons legacyIdTag rest ih =>
      rw [List.foldl_cons]
      exact (passesOver_cleanUpLegacy (h _ List.mem_cons_self)).trans
        (ih fun legacyIdTag hmem => h _ (List.mem_cons_of_mem _ hmem))

/-! ## What is written -/

/-- The limit of the tag is put to 0: StEvE lists it and carries out its update. -/
def PutsLimit (call : MetaTagAttempt) (tag : StEvEOcppTag) : Prop :=
  call.faults.lists call.idTag = true ∧
    call.faults.accepts (.update { tag with maxActiveTransactionCount := some 0 }) = true

/-- The row is written: StEvE lists the tag, and the statements up to the upsert get through. -/
def WritesRow (call : MetaTagAttempt) : Prop :=
  call.faults.lists call.idTag = true ∧ call.statements.owner = true ∧
    call.statements.existingRow = true ∧ call.statements.upsert = true

instance (tag : StEvEOcppTag) : Decidable (call.PutsLimit tag) :=
  inferInstanceAs (Decidable (_ ∧ _))

instance : Decidable call.WritesRow := inferInstanceAs (Decidable (_ ∧ _ ∧ _ ∧ _))

/-- A call that takes the customer for one without a subscription. -/
structure TakesAsUnsubscribed (call : MetaTagAttempt) (w : TagWorld) : Prop where
  /-- It does what it does when Lago lists no subscription. -/
  same : call.ensureCustomerMetaTag w =
    ({ call with getSubscriptions := .ok [] } : MetaTagAttempt).ensureCustomerMetaTag w
  /-- The limit of the parent tag is 0, or what it was where it cannot be written. -/
  limit : ∀ w' result, call.ensureCustomerMetaTag w = some (w', result) →
    ∀ tag ∈ w.tags.table.rows, tag.idTag = call.idTag → ∃ tag' ∈ w'.tags.table.rows,
      tag'.ocppTagPk = tag.ocppTagPk ∧ tag'.maxActiveTransactionCount =
        if call.PutsLimit tag then some 0 else tag.maxActiveTransactionCount
  /-- The row of the parent tag is switched off, or is as it was where it cannot be written; the
  clean-ups may still switch it off under a legacy name. -/
  row : ∀ w' result, call.ensureCustomerMetaTag w = some (w', result) →
    ∀ tag ∈ w.tags.table.rows, tag.idTag = call.idTag →
      ∀ m ∈ w.mappings.table.rows, m.steveOcppTagPk = tag.ocppTagPk →
        ∃ m' ∈ w'.mappings.table.rows, m'.id = m.id ∧
          if call.WritesRow then m'.isActive = false ∧ m'.lagoSubscriptionExternalId = none
          else m'.lagoSubscriptionExternalId = m.lagoSubscriptionExternalId ∧
            (m'.isActive = m.isActive ∨
              m'.isActive = false ∧ m.steveOcppIdTag ∈ call.legacyIdTags)
  /-- A customer without a subscription is reported. -/
  reported : ∀ w' result, call.ensureCustomerMetaTag w = some (w', result) →
    result.isActive = false ∧ result.lagoSubscriptionExternalId = none

/-! ## A call -/

/-- The parent tag is found under its number, with the limit that StEvE lets the call put. -/
lemma sendAll_ensureTag {message : String} (hquery : call.getSubscriptions = .error message)
    {tag : StEvEOcppTag} (htag : tag ∈ w.tags.table.rows) (hname : tag.idTag = call.idTag)
    (hlists : call.faults.lists call.idTag = true) :
    ∃ requests,
      (w.inputs call.toCustomerMetaTagCall).ensureTag call.externalId call.displayName =
        (requests, some tag.ocppTagPk) ∧
      ∃ tag' ∈ (w.sendAll call.faults requests).tags.table.rows, tag'.idTag = tag.idTag ∧
        tag'.ocppTagPk = tag.ocppTagPk ∧ tag'.maxActiveTransactionCount =
          if call.PutsLimit tag then some 0 else tag.maxActiveTransactionCount := by
  have hinactive : (w.inputs call.toCustomerMetaTagCall).maxActiveTransactionCount = 0 := by
    unfold MetaTagInputs.maxActiveTransactionCount MetaTagInputs.isActive
      MetaTagInputs.subExternalId
    rw [show (w.inputs call.toCustomerMetaTagCall).getSubscriptions = .error message from hquery]
    rfl
  have hanswer : (w.inputs call.toCustomerMetaTagCall).getOcppTags call.idTag =
      .ok (w.tags.table.rows.filter fun tag => decide (tag.idTag = call.idTag)) := if_pos hlists
  obtain ⟨rest, hfilter⟩ : ∃ rest,
      (w.tags.table.rows.filter fun tag => decide (tag.idTag = call.idTag)) = tag :: rest := by
    rcases w.tags.filter_idTag call.idTag with ⟨hfree, -⟩ | ⟨found, hfound, hfoundName, rest, heq⟩
    · exact absurd ⟨tag, htag, hname⟩ hfree
    · obtain rfl : found = tag := SteveTags.eq_of_idTag hfound htag (hfoundName.trans hname.symm)
      exact ⟨rest, heq⟩
  unfold MetaTagInputs.ensureTag
  rw [show (w.inputs call.toCustomerMetaTagCall).idTag call.externalId = call.idTag from rfl,
    hanswer, hfilter, hinactive]
  dsimp only
  refine ⟨_, rfl, ?_⟩
  by_cases hlimit : tag.maxActiveTransactionCount = some 0
  · rw [if_neg (not_not.mpr hlimit), hlimit, ite_self]
    exact ⟨tag, htag, rfl, rfl, hlimit⟩
  · rw [if_pos hlimit]
    by_cases haccepts : call.faults.accepts
        (.update { tag with maxActiveTransactionCount := some 0 }) = true
    · have hsent : (w.sendAll call.faults
          [.update { tag with maxActiveTransactionCount := some 0 }]).tags =
            w.tags.updateOcppTag { tag with maxActiveTransactionCount := some 0 } :=
        if_pos haccepts
      rw [hsent, if_pos ⟨hlists, haccepts⟩]
      refine ⟨_, SteveTags.mem_updateOcppTag.mpr ⟨tag, htag, rfl⟩, ?_⟩
      rw [if_pos rfl]
      exact ⟨rfl, rfl, rfl⟩
    · have hsent : (w.sendAll call.faults
          [.update { tag with maxActiveTransactionCount := some 0 }]).tags = w.tags :=
        if_neg haccepts
      rw [hsent, if_neg fun hputs : call.PutsLimit tag => haccepts hputs.2]
      exact ⟨tag, htag, rfl, rfl, rfl⟩

/-- The upsert leaves the tags, and writes the row where the database lets it. -/
lemma mem_upsertMetaRow {message : String} (hquery : call.getSubscriptions = .error message)
    (hlists : call.faults.lists call.idTag = true) {ocppTagPk : ℕ} {m : UserMapping}
    (hm : m ∈ w.mappings.table.rows) (hpk : m.steveOcppTagPk = ocppTagPk) :
    ∃ m' ∈ (call.upsertMetaRow w ocppTagPk).mappings.table.rows, m'.id = m.id ∧
      if call.WritesRow then m'.isActive = false ∧ m'.lagoSubscriptionExternalId = none
      else m' = m := by
  have hwrites : (call.statements.owner && call.statements.existingRow && call.statements.upsert) =
      true ↔ call.WritesRow := by
    unfold WritesRow
    simp only [Bool.and_eq_true, hlists, true_and, and_assoc]
  unfold upsertMetaRow
  by_cases h : call.WritesRow
  · rw [if_pos (hwrites.mpr h), TagWorld.upsertMetaRow, if_pos ⟨m, hm, hpk⟩]
    have hsub : (w.inputs call.toCustomerMetaTagCall).subExternalId = none := by
      unfold MetaTagInputs.subExternalId
      rw [show (w.inputs call.toCustomerMetaTagCall).getSubscriptions = .error message from hquery]
      rfl
    refine ⟨_, TagWorld.mem_updateMappings.mpr ⟨m, hm, rfl⟩, ?_⟩
    rw [if_pos (decide_eq_true hpk), if_pos h]
    refine ⟨rfl, ?_, hsub⟩
    show (w.inputs call.toCustomerMetaTagCall).subExternalId.isSome = false
    rw [hsub]
    rfl
  · rw [if_neg (mt hwrites.mp h)]
    exact ⟨m, hm, rfl, (if_neg h).symm ▸ rfl⟩

lemma tags_upsertMetaRow {ocppTagPk : ℕ} : (call.upsertMetaRow w ocppTagPk).tags = w.tags := by
  unfold upsertMetaRow
  split
  · exact CustomerMetaTagCall.tags_upsertMetaRow
  · rfl

/-- A call whose query fails, for a parent tag that StEvE has. -/
lemma ensureCustomerMetaTag_of_tag {message : String}
    (hquery : call.getSubscriptions = .error message) {result : EnsureMetaTagResult}
    (h : call.ensureCustomerMetaTag w = some (w', result)) {tag : StEvEOcppTag}
    (htag : tag ∈ w.tags.table.rows) (hname : tag.idTag = call.idTag) :
    call.faults.lists call.idTag = false ∧ w' = w ∨
      call.faults.lists call.idTag = true ∧ ∃ requests,
        call.PassesOver (call.upsertMetaRow (w.sendAll call.faults requests) tag.ocppTagPk) w' ∧
        ∃ tag' ∈ (w.sendAll call.faults requests).tags.table.rows, tag'.idTag = tag.idTag ∧
          tag'.ocppTagPk = tag.ocppTagPk ∧ tag'.maxActiveTransactionCount =
            if call.PutsLimit tag then some 0 else tag.maxActiveTransactionCount := by
  unfold ensureCustomerMetaTag at h
  split at h
  · cases h
  · dsimp only at h
    cases hlists : call.faults.lists call.idTag with
    | false =>
        have hanswer : (w.inputs call.toCustomerMetaTagCall).ensureTag call.externalId
            call.displayName = ([], none) := by
          unfold MetaTagInputs.ensureTag
          rw [show (w.inputs call.toCustomerMetaTagCall).getOcppTags
            ((w.inputs call.toCustomerMetaTagCall).idTag call.externalId) =
              .error "StEvE API error" from if_neg (Bool.eq_false_iff.mp hlists)]
        rw [hanswer] at h
        cases h
        exact Or.inl ⟨rfl, rfl⟩
    | true =>
        obtain ⟨requests, hensure, tag', htag', hkept⟩ :=
          sendAll_ensureTag hquery htag hname hlists
        rw [hensure] at h
        cases h
        exact Or.inr ⟨rfl, requests, passesOver_cleanUps fun _ hmem => hmem, tag', htag', hkept⟩

/-- A call whose query fails takes the customer for one without a subscription. -/
theorem takesAsUnsubscribed_of_error {message : String}
    (hquery : call.getSubscriptions = .error message) (w : TagWorld) :
    call.TakesAsUnsubscribed w where
  same := ensureCustomerMetaTag_error hquery
  limit := by
    intro w' result h tag htag hname
    rcases ensureCustomerMetaTag_of_tag hquery h htag hname with
      ⟨hlists, rfl⟩ | ⟨-, requests, hpasses, tag', htag', hname', hpk', hlimit'⟩
    · refine ⟨tag, htag, rfl, (if_neg fun hputs : call.PutsLimit tag => ?_).symm⟩
      exact Bool.false_ne_true (hlists.symm.trans hputs.1)
    · have htags : (call.upsertMetaRow (w.sendAll call.faults requests) tag.ocppTagPk).tags =
          (w.sendAll call.faults requests).tags := tags_upsertMetaRow
      rw [← htags] at htag'
      obtain ⟨tag'', htag'', -, hpk'', hlimit''⟩ := hpasses.tag tag' htag' (hname'.trans hname)
      exact ⟨tag'', htag'', hpk''.trans hpk', hlimit''.trans hlimit'⟩
  row := by
    intro w' result h tag htag hname m hm hpk
    rcases ensureCustomerMetaTag_of_tag hquery h htag hname with
      ⟨hlists, rfl⟩ | ⟨hlists, requests, hpasses, -⟩
    · refine ⟨m, hm, rfl, ?_⟩
      rw [if_neg fun hwrites : call.WritesRow => Bool.false_ne_true (hlists.symm.trans hwrites.1)]
      exact ⟨rfl, Or.inl rfl⟩
    · obtain ⟨m', hm', hid', hwritten⟩ : ∃ m' ∈ (call.upsertMetaRow
          (w.sendAll call.faults requests) tag.ocppTagPk).mappings.table.rows, m'.id = m.id ∧
            if call.WritesRow then m'.isActive = false ∧ m'.lagoSubscriptionExternalId = none
            else m' = m := mem_upsertMetaRow hquery hlists hm hpk
      obtain ⟨m'', hm'', hid'', -, hsub'', hactive''⟩ := hpasses.row m' hm'
      refine ⟨m'', hm'', hid''.trans hid', ?_⟩
      by_cases hwrites : call.WritesRow
      · rw [if_pos hwrites] at hwritten ⊢
        refine ⟨?_, hsub''.trans hwritten.2⟩
        rcases hactive'' with hsame | ⟨hoff, -⟩
        · exact hsame.trans hwritten.1
        · exact hoff
      · rw [if_neg hwrites] at hwritten ⊢
        subst hwritten
        exact ⟨hsub'', hactive''⟩
  reported := by
    intro w' result h
    rw [ensureCustomerMetaTag_error hquery, ensureCustomerMetaTag] at h
    split at h
    · cases h
    · cases h
      exact ⟨rfl, rfl⟩

/-- The limit of the parent tag and the two columns of its row are as they were. -/
structure KeepsCustomer (call : MetaTagAttempt) (w w' : TagWorld) : Prop where
  limit : ∀ tag ∈ w.tags.table.rows, tag.idTag = call.idTag →
    ∃ tag' ∈ w'.tags.table.rows, tag'.ocppTagPk = tag.ocppTagPk ∧
      tag'.maxActiveTransactionCount = tag.maxActiveTransactionCount
  row : ∀ tag ∈ w.tags.table.rows, tag.idTag = call.idTag →
    ∀ m ∈ w.mappings.table.rows, m.steveOcppTagPk = tag.ocppTagPk →
      ∃ m' ∈ w'.mappings.table.rows, m'.id = m.id ∧ m'.isActive = m.isActive ∧
        m'.lagoSubscriptionExternalId = m.lagoSubscriptionExternalId

/-! ## A customer who pays, while Lago is down -/

/-- Everything but Lago is up. -/
def lagoDown : MetaTagAttempt where
  externalId := "customer"
  displayName := none
  owner := some ⟨"user-1", "7KQ2M9XA"⟩
  getSubscriptions := .error "Lago API error: 503 Service Unavailable - "
  faults := .none
  statements := ⟨true, true, true, true, fun _ => true⟩

def payingTag : StEvEOcppTag := ⟨"META-7KQ2M9XA", 0, none, none, none, some 1, none⟩

/-- The customer's parent tag and its row. -/
def payingCustomer : TagWorld where
  tags :=
    { table := ⟨[payingTag], 1, by decide, by decide⟩
      nodup_idTag := by decide }
  mappings :=
    { table := ⟨[⟨0, 0, "META-7KQ2M9XA", some "customer", some "sub-1", none, .metaTag, true, none,
        none, some "user-1"⟩], 1, by decide, by decide⟩
      nodup_pk := by decide }
  numbered := by decide

/-- The customer is taken for one without a subscription. -/
theorem takesAsUnsubscribed_lagoDown : lagoDown.TakesAsUnsubscribed payingCustomer :=
  takesAsUnsubscribed_of_error rfl payingCustomer

/-- The customer can no longer charge. -/
theorem not_keepsCustomer_lagoDown : ¬∀ (call : MetaTagAttempt) (w w' : TagWorld)
    (result : EnsureMetaTagResult) (message : String), call.getSubscriptions = .error message →
    call.ensureCustomerMetaTag w = some (w', result) → call.KeepsCustomer w w' := by
  intro hall
  have hkeeps := hall lagoDown payingCustomer _ _ _ rfl rfl
  obtain ⟨tag', htag', -, hlimit⟩ := hkeeps.limit payingTag List.mem_cons_self rfl
  have hzero : ∀ tag ∈ (lagoDown.ensureCustomerMetaTag payingCustomer).elim []
      (fun done => done.1.tags.table.rows), tag.maxActiveTransactionCount = some 0 := by
    decide +kernel
  rw [hzero tag' htag'] at hlimit
  cases hlimit

end MetaTagAttempt

end ExpresSync
