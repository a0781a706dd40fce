import ExpresSync.Properties.LagoCacheSteps

/-!
# The versions in the Lago cache

An upsert writes the payload it has, whatever the row holds, so a webhook that is late and a page
that was fetched some time ago can bring an older version back.  The rows never regress in exactly
those runs in which every upsert comes in order: no later change of its entity has been applied
before it (`no_regress_iff_in_order`).
-/

namespace ExpresSync

open Transition

variable {E C : Type} {K : LagoEntityKind E C}

/-! ## Changes -/

/-- The change of this number is about the id. -/
def Concerns (K : LagoEntityKind E C) (changes : List (LagoChange E)) (lagoId : String)
    (number : ℕ) : Prop :=
  ∃ change, changes[number]? = some change ∧ change.about K = lagoId

/-- The change is the last one of its entity among the first `asOf`. -/
structure IsLast (K : LagoEntityKind E C) (changes : List (LagoChange E)) (asOf : ℕ)
    (change : LagoChange E) (version : ℕ) : Prop where
  made : changes[version]? = some change
  lt : version < asOf
  le : ∀ m < asOf, Concerns K changes (change.about K) m → m ≤ version

variable {changes : List (LagoChange E)} {asOf version : ℕ} {change new : LagoChange E}

lemma Concerns.lt {lagoId : String} {m : ℕ} (h : Concerns K changes lagoId m) :
    m < changes.length := by
  obtain ⟨change, hchange, -⟩ := h
  exact (List.getElem?_eq_some_iff.mp hchange).1

lemma Concerns.append {lagoId : String} {m : ℕ} (h : Concerns K changes lagoId m) :
    Concerns K (changes ++ [new]) lagoId m := by
  have hlt := h.lt
  obtain ⟨change, hchange, habout⟩ := h
  exact ⟨change, by rw [List.getElem?_append_left hlt, hchange], habout⟩

lemma Concerns.of_append {lagoId : String} {m : ℕ} (hlt : m < changes.length)
    (h : Concerns K (changes ++ [new]) lagoId m) : Concerns K changes lagoId m := by
  obtain ⟨change, hchange, habout⟩ := h
  rw [List.getElem?_append_left hlt] at hchange
  exact ⟨change, hchange, habout⟩

lemma IsLast.concerns (h : IsLast K changes asOf change version) :
    Concerns K changes (change.about K) version := ⟨change, h.made, rfl⟩

/-- What Lago does later does not change what was the last change then. -/
lemma IsLast.append (h : IsLast K changes asOf change version) (hasOf : asOf ≤ changes.length) :
    IsLast K (changes ++ [new]) asOf change version where
  made := by
    rw [List.getElem?_append_left (h.lt.trans_le hasOf)]
    exact h.made
  lt := h.lt
  le m hm hconcerns := h.le m hm (hconcerns.of_append (hm.trans_le hasOf))

/-- A change of another entity leaves the last change of this one. -/
lemma IsLast.append_other (h : IsLast K changes changes.length change version)
    (hother : change.about K ≠ new.about K) :
    IsLast K (changes ++ [new]) (changes ++ [new]).length change version where
  made := by
    rw [List.getElem?_append_left h.lt]
    exact h.made
  lt := by
    rw [List.length_append, List.length_singleton]
    exact Nat.lt_succ_of_lt h.lt
  le m hm hconcerns := by
    rw [List.length_append, List.length_singleton] at hm
    rcases Nat.lt_succ_iff_lt_or_eq.mp hm with hlt | rfl
    · exact h.le m hlt (hconcerns.of_append hlt)
    · obtain ⟨found, hfound, habout⟩ := hconcerns
      rw [List.getElem?_concat_length] at hfound
      obtain rfl := Option.some.inj hfound
      exact absurd habout.symm hother

lemma isLast_append_self :
    IsLast K (changes ++ [new]) (changes ++ [new]).length new changes.length where
  made := List.getElem?_concat_length
  lt := by
    rw [List.length_append, List.length_singleton]
    exact Nat.lt_succ_self _
  le m hm _ := by
    rw [List.length_append, List.length_singleton] at hm
    exact Nat.le_of_lt_succ hm

/-! ## What Lago and the pass know -/

/-- The table has the last change of each id, among the first `asOf`. -/
def TableSound (changes : List (LagoChange E)) (asOf : ℕ) (lago : LagoTable K) : Prop :=
  asOf ≤ changes.length ∧ ∀ r ∈ lago.entries, IsLast K changes asOf r.change r.version

/-- The entity is listed in its last version. -/
def ItemSound (K : LagoEntityKind E C) (changes : List (LagoChange E)) (item : ListedEntity E) :
    Prop :=
  item.asOf ≤ changes.length ∧
    IsLast K changes item.asOf (.saved item.entity) item.version

lemma TableSound.append {lago : LagoTable K} (h : TableSound changes asOf lago) :
    TableSound (changes ++ [new]) asOf lago := by
  refine ⟨h.1.trans ?_, fun r hr => (h.2 r hr).append h.1⟩
  rw [List.length_append]
  exact Nat.le_add_right _ _

lemma ItemSound.append {item : ListedEntity E} (h : ItemSound K changes item) :
    ItemSound K (changes ++ [new]) item := by
  refine ⟨h.1.trans ?_, h.2.append h.1⟩
  rw [List.length_append]
  exact Nat.le_add_right _ _

/-- A table lists its entities in their last versions. -/
lemma TableSound.itemSound {lago : LagoTable K} (h : TableSound changes asOf lago)
    {record : LagoRecord E} (hrecord : record ∈ lago.entries) {item : ListedEntity E}
    (hlisted : record.listed asOf = some item) : ItemSound K changes item := by
  have hlast := h.2 record hrecord
  obtain ⟨change, version⟩ := record
  cases change with
  | saved entity =>
      obtain rfl := Option.some.inj hlisted
      exact ⟨h.1, hlast⟩
  | deleted lagoId => cases hlisted

namespace LagoCacheWorld

variable {w w' : LagoCacheWorld K}

/-- What a pass has listed stems from a table, and what it will upsert is listed soundly. -/
def PassSound (changes : List (LagoChange E)) : ReconcilePass K → Prop
  | .idle => True
  | .listing source _ items | .upserting source _ items =>
      TableSound changes source.asOf source.lago ∧ ∀ item ∈ items, ItemSound K changes item
  | .deleting source _ _ => TableSound changes source.asOf source.lago

variable (w) in
structure LagoSound : Prop where
  lago : TableSound w.changes w.changes.length w.lago
  pass : PassSound w.changes w.pass

lemma PassSound.append {pass : ReconcilePass K} (h : PassSound changes pass) :
    PassSound (changes ++ [new]) pass := by
  cases pass with
  | idle => trivial
  | listing source pages items => exact ⟨h.1.append, fun item hitem => (h.2 item hitem).append⟩
  | upserting source fetched items => exact ⟨h.1.append, fun item hitem => (h.2 item hitem).append⟩
  | deleting source fetched localActive => exact TableSound.append h

lemma LagoSound.lagoChanges (h : w.LagoSound) (change : LagoChange E) :
    (w.lagoChanges change).LagoSound := by
  refine ⟨⟨le_rfl, fun r hr => ?_⟩, h.pass.append⟩
  rcases KeyedLog.mem_upsert.mp hr with rfl | ⟨hold, hother⟩
  · exact isLast_append_self
  · exact (h.lago.2 r hold).append_other hother

lemma LagoSound.refreshed (h : w.LagoSound) {item : ListedEntity E}
    (hitem : ItemSound K w.changes item) : ItemSound K w.changes (w.refreshed item) := by
  unfold LagoCacheWorld.refreshed
  cases hget : (w.lago.get? (K.lagoId item.entity)).bind (LagoRecord.listed w.changes.length) with
  | none => exact hitem
  | some fresh =>
      obtain ⟨record, hrecord, hlisted⟩ := Option.bind_eq_some_iff.mp hget
      exact h.lago.itemSound (KeyedLog.get?_eq_some.mp hrecord).1 hlisted

/-- What stands on a page was in the table at the first page. -/
lemma TableSound.itemSound_listed {source : LagoListing K}
    (h : TableSound changes source.asOf source.lago) {item : ListedEntity E}
    (hitem : item ∈ source.listed) : ItemSound K changes item := by
  obtain ⟨record, hrecord, hlisted⟩ := List.mem_filterMap.mp (source.complete.subset hitem)
  exact h.itemSound hrecord hlisted

lemma passSound_fetchesPage (h : w.LagoSound) {source : LagoListing K} {pages : ℕ}
    {allItems : List (ListedEntity E)} (hpass : w.pass = .listing source pages allItems) :
    PassSound w.changes (w.fetchesPage source pages allItems) := by
  obtain ⟨htable, hitems⟩ : PassSound w.changes (.listing source pages allItems) := hpass ▸ h.pass
  have hmore : ∀ item ∈ allItems ++
      (Chunks.chunkAt lagoPerPage source.listed pages).map w.refreshed,
        ItemSound K w.changes item := by
    intro item hitem
    rcases List.mem_append.mp hitem with hold | hnew
    · exact hitems item hold
    · obtain ⟨listed, hlisted, rfl⟩ := List.mem_map.mp hnew
      have hmem : listed ∈ source.listed := List.mem_of_mem_drop (List.mem_of_mem_take hlisted)
      exact h.refreshed (TableSound.itemSound_listed htable hmem)
  unfold fetchesPage
  split
  · exact ⟨htable, hitems⟩
  · dsimp only
    split <;> exact ⟨htable, hmore⟩

variable [DecidableEq E]

lemma LagoSound.step {a : LagoCacheAction E} (h : w.LagoSound) (hstep : w.step a = some w') :
    w'.LagoSound := by
  have hpass : ∀ {pass : ReconcilePass K}, w.pass = pass → PassSound w.changes pass :=
    fun heq => heq ▸ h.pass
  cases a with
  | waits ms =>
      obtain rfl := Option.some.inj hstep
      exact ⟨h.lago, h.pass⟩
  | lagoSaves entity =>
      obtain rfl := Option.some.inj hstep
      exact h.lagoChanges _
  | lagoDeletes lagoId =>
      obtain rfl := Option.some.inj hstep
      exact h.lagoChanges _
  | webhook number succeeds =>
      obtain ⟨entity, -, rfl⟩ | ⟨lagoId, -, -, rfl⟩ := step_webhook.mp hstep
      · rw [upserts_cases]
        split
        · exact ⟨h.lago, h.pass⟩
        · exact h
      · split
        · exact ⟨h.lago, h.pass⟩
        · exact h
  | passStarts listed =>
      obtain ⟨-, complete, rfl⟩ := step_passStarts.mp hstep
      exact ⟨h.lago, h.lago, fun item hitem => absurd hitem List.not_mem_nil⟩
  | passFetchesPage =>
      obtain ⟨source, pages, allItems, heq, rfl⟩ := step_passFetchesPage.mp hstep
      exact ⟨h.lago, passSound_fetchesPage h heq⟩
  | passUpserts succeeds =>
      obtain ⟨source, fetched, item, remaining, heq, rfl⟩ := step_passUpserts.mp hstep
      obtain ⟨htable, hitems⟩ := hpass heq
      have hrest : ∀ other ∈ remaining, ItemSound K w.changes other :=
        fun other hother => hitems other (List.mem_cons_of_mem item hother)
      rw [upserts_cases]
      split <;> exact ⟨h.lago, htable, hrest⟩
  | passReadsLocal =>
      obtain ⟨source, fetched, heq, rfl⟩ := step_passReadsLocal.mp hstep
      exact ⟨h.lago, (hpass heq).1⟩
  | passDeletesOrphans =>
      obtain ⟨source, fetched, localActive, -, rfl⟩ := step_passDeletesOrphans.mp hstep
      exact ⟨h.lago, trivial⟩
  | passFails =>
      obtain rfl := step_passFails hstep
      exact ⟨h.lago, trivial⟩

/-! ## What the rows have seen -/

omit [DecidableEq E]

variable (w) in
/-- The rows hold what has been applied, and nothing that has been applied is later than both the
payload of its row and the deletions of it. -/
structure RowsSound : Prop where
  applied : ∀ p ∈ w.applied, Concerns K w.changes p.1 p.2
  rows : ∀ row ∈ w.cache.entries, (K.lagoId row.payload, row.version) ∈ w.applied ∧
    ∀ d ∈ row.deletedBy, (K.lagoId row.payload, d) ∈ w.applied
  held : ∀ p ∈ w.applied, ∃ row ∈ w.cache.entries, K.lagoId row.payload = p.1 ∧
    (p.2 ≤ row.version ∨ row.deletedAt.isSome = true ∧ ∃ d ∈ row.deletedBy, p.2 ≤ d)

/-- No row changes to an earlier version, and none that is deleted comes back with a version
earlier than a change it was deleted for. -/
def NoRegress (w w' : LagoCacheWorld K) : Prop :=
  ∀ row ∈ w.cache.entries, ∀ row' ∈ w'.cache.entries,
    K.lagoId row'.payload = K.lagoId row.payload →
      row.version ≤ row'.version ∧
        (row.deletedAt.isSome = true → row'.deletedAt = none → ∀ d ∈ row.deletedBy,
          d ≤ row'.version)

instance (w w' : LagoCacheWorld K) : Decidable (NoRegress w w') :=
  inferInstanceAs (Decidable (∀ row ∈ w.cache.entries, ∀ row' ∈ w'.cache.entries, _ → _))

lemma noRegress_of_cache_eq (h : w'.cache = w.cache) : NoRegress w w' := by
  intro row hrow row' hrow' hkey
  rw [h] at hrow'
  obtain rfl := KeyedLog.eq_of_key hrow' hrow hkey
  refine ⟨le_rfl, fun hdeleted hactive => ?_⟩
  rw [hactive] at hdeleted
  cases hdeleted

lemma RowsSound.of_eq (h : w.RowsSound) (hcache : w'.cache = w.cache)
    (happlied : w'.applied = w.applied)
    (hchanges : w'.changes = w.changes ∨ ∃ change, w'.changes = w.changes ++ [change]) :
    w'.RowsSound where
  applied p hp := by
    rw [happlied] at hp
    rcases hchanges with heq | ⟨change, heq⟩
    · rw [heq]
      exact h.applied p hp
    · rw [heq]
      exact (h.applied p hp).append
  rows := by
    rw [hcache, happlied]
    exact h.rows
  held := by
    rw [hcache, happlied]
    exact h.held

/-! ### Upserts -/

variable (w) in
/-- The upsert of a payload reaches the table. -/
def Reaches (entity : E) (succeeds : Bool) : Prop :=
  succeeds = true ∧ ¬K.Taken w.cache entity

instance (entity : E) (succeeds : Bool) : Decidable (w.Reaches entity succeeds) :=
  inferInstanceAs (Decidable (_ ∧ _))

lemma upserts_of_reaches {entity : E} {version : ℕ} {succeeds : Bool}
    (h : w.Reaches entity succeeds) : w.upserts entity version succeeds =
      { w with
        cache := w.cache.upsert (K.row entity version w.now)
        applied := (K.lagoId entity, version) :: w.applied } := by
  rw [upserts_cases]
  exact if_pos h

lemma upserts_of_not_reaches {entity : E} {version : ℕ} {succeeds : Bool}
    (h : ¬w.Reaches entity succeeds) : w.upserts entity version succeeds = w := by
  rw [upserts_cases]
  exact if_neg h

/-- An upsert keeps the rows from regressing exactly when nothing later has been applied to its
row. -/
lemma noRegress_upserts_iff (h : w.RowsSound) {entity : E} {version : ℕ} {succeeds : Bool} :
    NoRegress w (w.upserts entity version succeeds) ↔
      (w.Reaches entity succeeds → ∀ p ∈ w.applied, p.1 = K.lagoId entity → p.2 ≤ version) := by
  by_cases hreaches : w.Reaches entity succeeds
  swap
  · refine iff_of_true ?_ fun h => absurd h hreaches
    rw [upserts_of_not_reaches hreaches]
    exact noRegress_of_cache_eq rfl
  rw [upserts_of_reaches hreaches]
  have hnew : K.row entity version w.now ∈
      (w.cache.upsert (K.row entity version w.now)).entries :=
    KeyedLog.mem_upsert.mpr (Or.inl rfl)
  constructor
  · intro hregress _ p hp hid
    obtain ⟨row, hrow, hkey, hheld⟩ := h.held p hp
    obtain ⟨hversion, hback⟩ := hregress row hrow _ hnew (hid.symm.trans hkey.symm)
    rcases hheld with hle | ⟨hdeleted, d, hd, hle⟩
    · exact hle.trans hversion
    · exact hle.trans (hback hdeleted rfl d hd)
  · intro horder row hrow row' hrow' hkey
    rcases KeyedLog.mem_upsert.mp hrow' with rfl | ⟨hold, -⟩
    · obtain ⟨hversion, hdeletions⟩ := h.rows row hrow
      exact ⟨horder hreaches _ hversion hkey.symm,
        fun _ _ d hd => horder hreaches _ (hdeletions d hd) hkey.symm⟩
    · obtain rfl := KeyedLog.eq_of_key hold hrow hkey
      refine ⟨le_rfl, fun hdeleted hactive => ?_⟩
      rw [hactive] at hdeleted
      cases hdeleted

lemma RowsSound.upserts (h : w.RowsSound) {entity : E} {version : ℕ} {succeeds : Bool}
    (hconcerns : Concerns K w.changes (K.lagoId entity) version)
    (horder : w.Reaches entity succeeds →
      ∀ p ∈ w.applied, p.1 = K.lagoId entity → p.2 ≤ version) :
    (w.upserts entity version succeeds).RowsSound := by
  by_cases hreaches : w.Reaches entity succeeds
  swap
  · rw [upserts_of_not_reaches hreaches]
    exact h
  rw [upserts_of_reaches hreaches]
  have hnew : K.row entity version w.now ∈
      (w.cache.upsert (K.row entity version w.now)).entries :=
    KeyedLog.mem_upsert.mpr (Or.inl rfl)
  refine ⟨fun p hp => ?_, fun row hrow => ?_, fun p hp => ?_⟩
  · rcases List.mem_cons.mp hp with rfl | hp
    · exact hconcerns
    · exact h.applied p hp
  · rcases KeyedLog.mem_upsert.mp hrow with rfl | ⟨hold, -⟩
    · exact ⟨List.mem_cons_self, fun d hd => absurd hd List.not_mem_nil⟩
    · obtain ⟨hversion, hdeletions⟩ := h.rows row hold
      exact ⟨List.mem_cons_of_mem _ hversion, fun d hd => List.mem_cons_of_mem _ (hdeletions d hd)⟩
  · by_cases hid : p.1 = K.lagoId entity
    · refine ⟨_, hnew, hid.symm, Or.inl ?_⟩
      rcases List.mem_cons.mp hp with rfl | hp
      · exact le_rfl
      · exact horder hreaches p hp hid
    · rcases List.mem_cons.mp hp with rfl | hp
      · exact absurd rfl hid
      · obtain ⟨row, hrow, hkey, hheld⟩ := h.held p hp
        have hother : K.lagoId row.payload ≠ K.lagoId (K.row entity version w.now).payload :=
          fun heq => hid (hkey.symm.trans heq)
        exact ⟨row, KeyedLog.mem_upsert.mpr (Or.inr ⟨hrow, hother⟩), hkey, hheld⟩

/-! ### Soft deletions -/

/-- A row with more deletions to it, and otherwise as it was. -/
structure Marks (K : LagoEntityKind E C) (row row' : CacheRow E C) : Prop where
  key : K.lagoId row'.payload = K.lagoId row.payload
  version : row'.version = row.version
  deleted : row.deletedAt.isSome = true → row'.deletedAt.isSome = true
  deletedBy : row.deletedBy ⊆ row'.deletedBy

/-- The rows of the two tables are the same, up to marks for what has been applied. -/
structure MarksRows (w w' : LagoCacheWorld K) : Prop where
  changes : w'.changes = w.changes
  before : ∀ row ∈ w.cache.entries, ∃ row' ∈ w'.cache.entries, Marks K row row'
  after : ∀ row' ∈ w'.cache.entries, ∃ row ∈ w.cache.entries, Marks K row row' ∧
    ∀ d ∈ row'.deletedBy, d ∈ row.deletedBy ∨ (K.lagoId row'.payload, d) ∈ w'.applied
  kept : w.applied ⊆ w'.applied
  added : ∀ p ∈ w'.applied, p ∈ w.applied ∨ Concerns K w.changes p.1 p.2 ∧
    ∃ row' ∈ w'.cache.entries, K.lagoId row'.payload = p.1 ∧ row'.deletedAt.isSome = true ∧
      p.2 ∈ row'.deletedBy

lemma MarksRows.noRegress (h : MarksRows w w') : NoRegress w w' := by
  intro row hrow row' hrow' hkey
  obtain ⟨old, hold, hmarks, -⟩ := h.after row' hrow'
  obtain rfl := KeyedLog.eq_of_key hold hrow (hmarks.key.symm.trans hkey)
  refine ⟨hmarks.version.ge, fun hdeleted hactive => ?_⟩
  have hstill := hmarks.deleted hdeleted
  rw [hactive] at hstill
  cases hstill

lemma MarksRows.rowsSound (h : MarksRows w w') (hw : w.RowsSound) : w'.RowsSound := by
  refine ⟨fun p hp => ?_, fun row' hrow' => ?_, fun p hp => ?_⟩
  · rw [h.changes]
    rcases h.added p hp with hold | ⟨hconcerns, -⟩
    · exact hw.applied p hold
    · exact hconcerns
  · obtain ⟨row, hrow, hmarks, hdeletions⟩ := h.after row' hrow'
    obtain ⟨hversion, hold⟩ := hw.rows row hrow
    rw [hmarks.version, hmarks.key]
    refine ⟨h.kept hversion, fun d hd => ?_⟩
    rcases hdeletions d hd with hd | hnew
    · exact h.kept (hold d hd)
    · exact hmarks.key ▸ hnew
  · rcases h.added p hp with hold | ⟨-, row', hrow', hkey, hdeleted, hmem⟩
    · obtain ⟨row, hrow, hkey, hheld⟩ := hw.held p hold
      obtain ⟨row', hrow', hmarks⟩ := h.before row hrow
      refine ⟨row', hrow', hmarks.key.trans hkey, ?_⟩
      rw [hmarks.version]
      exact hheld.imp_right fun ⟨hdeleted, d, hd, hle⟩ =>
        ⟨hmarks.deleted hdeleted, d, hmarks.deletedBy hd, hle⟩
    · exact ⟨row', hrow', hkey, Or.inr ⟨hdeleted, p.2, hmem, le_rfl⟩⟩

lemma marksRows_softDelete {number : ℕ} {lagoId : String}
    (hconcerns : Concerns K w.changes lagoId number) (hhas : w.cache.Has lagoId) :
    MarksRows w { w with
      cache := K.softDelete w.cache lagoId number w.now
      applied := (lagoId, number) :: w.applied } := by
  have hmarks : ∀ row : CacheRow E C, Marks K row
      (if K.lagoId row.payload = lagoId then
        { row with
          deletedAt := row.deletedAt.or (some w.now), deletedBy := number :: row.deletedBy }
      else row) := by
    intro row
    split
    · exact ⟨rfl, rfl, fun _ => by simp, List.subset_cons_self _ _⟩
    · exact ⟨rfl, rfl, id, List.Subset.refl _⟩
  refine ⟨rfl, fun row hrow => ?_, fun row' hrow' => ?_, List.subset_cons_self _ _, fun p hp => ?_⟩
  · exact ⟨_, LagoEntityKind.mem_softDelete.mpr ⟨row, hrow, rfl⟩, hmarks row⟩
  · obtain ⟨row, hrow, rfl⟩ := LagoEntityKind.mem_softDelete.mp hrow'
    refine ⟨row, hrow, hmarks row, fun d hd => ?_⟩
    rw [(hmarks row).key]
    split at hd
    · next hid =>
      rcases List.mem_cons.mp hd with rfl | hd
      · exact Or.inr (hid ▸ List.mem_cons_self)
      · exact Or.inl hd
    · exact Or.inl hd
  · rcases List.mem_cons.mp hp with rfl | hold
    · obtain ⟨row, hrow, hid⟩ := List.mem_map.mp hhas
      refine Or.inr ⟨hconcerns, _, LagoEntityKind.mem_softDelete.mpr ⟨row, hrow, rfl⟩, ?_⟩
      rw [if_pos hid]
      exact ⟨hid, by simp, List.mem_cons_self⟩
    · exact Or.inl hold

lemma marksRows_deletesOrphans {source : LagoListing K} {fetched : List (ListedEntity E)}
    {localActive : List String} (htable : TableSound w.changes source.asOf source.lago) :
    MarksRows w (w.deletesOrphans source fetched localActive) := by
  set orphanIds := findOrphans (fetched.map fun item => K.lagoId item.entity) localActive
    with horphans
  have hmarks : ∀ row : CacheRow E C, Marks K row
      (if K.lagoId row.payload ∈ orphanIds then
        { row with
          deletedAt := some w.now
          deletedBy := ((source.lago.get? (K.lagoId row.payload)).map
            LagoRecord.version).toList ++ row.deletedBy }
      else row) := by
    intro row
    split
    · exact ⟨rfl, rfl, fun _ => rfl, List.subset_append_right _ _⟩
    · exact ⟨rfl, rfl, id, List.Subset.refl _⟩
  refine ⟨rfl, fun row hrow => ?_, fun row' hrow' => ?_, List.subset_append_right _ _,
    fun p hp => ?_⟩
  · exact ⟨_, LagoEntityKind.mem_softDeleteOrphans.mpr ⟨row, hrow, rfl⟩, hmarks row⟩
  · obtain ⟨row, hrow, rfl⟩ := LagoEntityKind.mem_softDeleteOrphans.mp hrow'
    refine ⟨row, hrow, hmarks row, fun d hd => ?_⟩
    rw [(hmarks row).key]
    split at hd
    · next horphan =>
      rcases List.mem_append.mp hd with hnew | hold
      · obtain ⟨record, hrecord, rfl⟩ := Option.map_eq_some_iff.mp (Option.mem_toList.mp hnew)
        refine Or.inr (List.mem_append_left _ (List.mem_filterMap.mpr
          ⟨K.lagoId row.payload, List.mem_filter.mpr ⟨List.mem_map_of_mem hrow, ?_⟩, ?_⟩))
        · exact decide_eq_true horphan
        · rw [hrecord]
          rfl
      · exact Or.inl hold
    · exact Or.inl hd
  · rcases List.mem_append.mp hp with hnew | hold
    · obtain ⟨id, hid, hversion⟩ := List.mem_filterMap.mp hnew
      obtain ⟨record, hrecord, rfl⟩ := Option.map_eq_some_iff.mp hversion
      obtain ⟨hmem, hdecide⟩ := List.mem_filter.mp hid
      obtain ⟨row, hrow, rfl⟩ := List.mem_map.mp hmem
      have horphan : K.lagoId row.payload ∈ orphanIds := of_decide_eq_true hdecide
      obtain ⟨hentry, habout⟩ := KeyedLog.get?_eq_some.mp hrecord
      refine Or.inr ⟨habout ▸ (htable.2 record hentry).concerns, _,
        LagoEntityKind.mem_softDeleteOrphans.mpr ⟨row, hrow, rfl⟩, ?_⟩
      rw [if_pos horphan]
      refine ⟨rfl, rfl, List.mem_append_left _ ?_⟩
      rw [hrecord]
      exact List.mem_cons_self
    · exact Or.inl hold

/-! ## Runs -/

variable (w) in
/-- An upsert that reaches the table comes after no later change of its entity: later than the
change of the webhook, or than the page of the pass. -/
def InOrder : LagoCacheAction E → Prop
  | .webhook number succeeds =>
      match w.changes[number]? with
      | some (.saved entity) => w.Reaches entity succeeds →
          ∀ p ∈ w.applied, p.1 = K.lagoId entity → p.2 ≤ number
      | _ => True
  | .passUpserts succeeds =>
      match w.pass with
      | .upserting _ _ (item :: _) => w.Reaches item.entity succeeds →
          ∀ p ∈ w.applied, p.1 = K.lagoId item.entity → p.2 < item.asOf
      | _ => True
  | _ => True

/-- For a change that has been made, to be among the changes a page knows of is to be no later
than the version that it lists. -/
lemma RowsSound.le_version_iff (h : w.RowsSound) {item : ListedEntity E}
    (hitem : ItemSound K w.changes item) :
    (∀ p ∈ w.applied, p.1 = K.lagoId item.entity → p.2 < item.asOf) ↔
      ∀ p ∈ w.applied, p.1 = K.lagoId item.entity → p.2 ≤ item.version := by
  refine forall₂_congr fun p hp => ?_
  refine forall_congr' fun hid => ⟨fun hlt => ?_, fun hle => hle.trans_lt hitem.2.lt⟩
  have hconcerns := h.applied p hp
  rw [hid] at hconcerns
  exact hitem.2.le p.2 hlt hconcerns

variable [DecidableEq E]

/-- What each step does to the rows. -/
lemma rows_step {a : LagoCacheAction E} (hlago : w.LagoSound) (hrows : w.RowsSound)
    (hstep : w.step a = some w') :
    (w.InOrder a ↔ NoRegress w w') ∧ (w.InOrder a → w'.RowsSound) := by
  have hsame : w'.cache = w.cache → w'.applied = w.applied →
      (w'.changes = w.changes ∨ ∃ change, w'.changes = w.changes ++ [change]) → w.InOrder a →
        (w.InOrder a ↔ NoRegress w w') ∧ (w.InOrder a → w'.RowsSound) :=
    fun hcache happlied hchanges horder =>
      ⟨iff_of_true horder (noRegress_of_cache_eq hcache),
        fun _ => hrows.of_eq hcache happlied hchanges⟩
  have hmarked : MarksRows w w' → w.InOrder a →
      (w.InOrder a ↔ NoRegress w w') ∧ (w.InOrder a → w'.RowsSound) :=
    fun hmarks horder => ⟨iff_of_true horder hmarks.noRegress, fun _ => hmarks.rowsSound hrows⟩
  cases a with
  | waits ms =>
      obtain rfl := Option.some.inj hstep
      exact hsame rfl rfl (Or.inl rfl) trivial
  | lagoSaves entity =>
      obtain rfl := Option.some.inj hstep
      exact hsame rfl rfl (Or.inr ⟨_, rfl⟩) trivial
  | lagoDeletes lagoId =>
      obtain rfl := Option.some.inj hstep
      exact hsame rfl rfl (Or.inr ⟨_, rfl⟩) trivial
  | webhook number succeeds =>
      obtain ⟨entity, hchange, rfl⟩ | ⟨lagoId, hchange, -, rfl⟩ := step_webhook.mp hstep
      · have horder : w.InOrder (.webhook number succeeds) ↔ (w.Reaches entity succeeds →
            ∀ p ∈ w.applied, p.1 = K.lagoId entity → p.2 ≤ number) := by
          simp only [InOrder, hchange]
        rw [horder]
        exact ⟨(noRegress_upserts_iff hrows).symm, hrows.upserts ⟨_, hchange, rfl⟩⟩
      · have horder : w.InOrder (.webhook number succeeds) := by
          simp only [InOrder, hchange]
        split
        · next happlies =>
          rw [if_pos happlies] at hmarked
          exact hmarked (marksRows_softDelete ⟨_, hchange, rfl⟩ happlies.2) horder
        · next hskips =>
          rw [if_neg hskips] at hsame
          exact hsame rfl rfl (Or.inl rfl) horder
  | passStarts listed =>
      obtain ⟨-, complete, rfl⟩ := step_passStarts.mp hstep
      exact hsame rfl rfl (Or.inl rfl) trivial
  | passFetchesPage =>
      obtain ⟨source, pages, allItems, -, rfl⟩ := step_passFetchesPage.mp hstep
      exact hsame rfl rfl (Or.inl rfl) trivial
  | passUpserts succeeds =>
      obtain ⟨source, fetched, item, remaining, heq, rfl⟩ := step_passUpserts.mp hstep
      have hpass : PassSound w.changes (.upserting source fetched (item :: remaining)) :=
        heq ▸ hlago.pass
      have hitem := hpass.2 item List.mem_cons_self
      have horder : w.InOrder (.passUpserts succeeds) ↔ (w.Reaches item.entity succeeds →
          ∀ p ∈ w.applied, p.1 = K.lagoId item.entity → p.2 ≤ item.version) := by
        simp only [InOrder, heq]
        rw [hrows.le_version_iff hitem]
      rw [horder]
      exact ⟨(noRegress_upserts_iff hrows).symm, fun h =>
        (hrows.upserts hitem.2.concerns h).of_eq rfl rfl (Or.inl rfl)⟩
  | passReadsLocal =>
      obtain ⟨source, fetched, -, rfl⟩ := step_passReadsLocal.mp hstep
      exact hsame rfl rfl (Or.inl rfl) trivial
  | passDeletesOrphans =>
      obtain ⟨source, fetched, localActive, heq, rfl⟩ := step_passDeletesOrphans.mp hstep
      have hpass : PassSound w.changes (.deleting source fetched localActive) :=
        heq ▸ hlago.pass
      exact hmarked (marksRows_deletesOrphans hpass) trivial
  | passFails =>
      obtain rfl := step_passFails hstep
      exact hsame rfl rfl (Or.inl rfl) trivial

/-- The rows never regress in exactly those runs in which every upsert comes in order. -/
theorem no_regress_iff_in_order (K : LagoEntityKind E C) (as : List (LagoCacheAction E)) :
    Meets step InOrder (initial K) as ↔ EachStep step (fun w _ w' => NoRegress w w')
      (initial K) as :=
  meets_iff_eachStep (I := fun w => w.LagoSound ∧ w.RowsSound) (A := fun _ _ => True)
    (fun _ _ _ hI _ hC hstep => ⟨hI.1.step hstep, (rows_step hI.1 hI.2 hstep).2 hC⟩)
    (fun _ _ _ hI _ hstep => (rows_step hI.1 hI.2 hstep).1)
    ⟨⟨⟨le_rfl, fun _ hr => absurd hr List.not_mem_nil⟩, trivial⟩,
      ⟨fun _ hp => absurd hp List.not_mem_nil, fun _ hrow => absurd hrow List.not_mem_nil,
        fun _ hp => absurd hp List.not_mem_nil⟩⟩
    (meets_of_forall fun _ _ => trivial)

end LagoCacheWorld

/-! ## An invoice that is paid while a pass runs -/

def unpaidInvoice : LagoInvoicePayload where
  lagoId := "invoice-1"
  number := "EXP-001"
  externalCustomerId := some "customer"
  status := "finalized"
  paymentStatus := "pending"
  invoiceType := "subscription"
  totalAmountCents := 4200
  currency := "EUR"
  issuingDate := "2026-01-31"
  paymentOverdue := some false
  createdAt := none
  updatedAt := none

/-- The pass has fetched the invoice when it is paid, and upserts it after the webhook of the
payment. -/
def paidDuringPass : List (LagoCacheAction LagoInvoicePayload) :=
  [.lagoSaves unpaidInvoice, .passStarts [⟨unpaidInvoice, 0, 1⟩], .passFetchesPage,
    .lagoSaves { unpaidInvoice with paymentStatus := "succeeded" }, .webhook 1 true,
    .passUpserts true]

/-- The paid invoice is unpaid again. -/
theorem paid_invoice_regresses : ¬EachStep LagoCacheWorld.step
    (fun w _ w' => LagoCacheWorld.NoRegress w w')
    (LagoCacheWorld.initial (invoiceKind fun _ => none)) paidDuringPass := by
  decide +kernel

end ExpresSync
