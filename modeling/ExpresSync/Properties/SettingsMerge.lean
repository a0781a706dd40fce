import ExpresSync.Model.DeviceSettings

/-!
# What a merge writes

A sync request writes, for each key, the first of the latest of its own changes, and it does so
when that is later than the row it has found.  `SettingsWorld.Steps` says what becomes of the
requests in flight.
-/

namespace ExpresSync

variable {V : Type*} {settings : SettingsTable V} {deviceId : String} {remote : List (SettingRow V)}
  {deltas : List (SettingDelta V)} {row : SettingRow V}

/-- The changes of a key. -/
def candidatesOf (deltas : List (SettingDelta V)) (key : String) : List (SettingRow V) :=
  (deltas.map SettingDelta.candidate).filter fun candidate => candidate.key = key

lemma mem_candidatesOf {key : String} :
    row ∈ candidatesOf deltas key ↔ row ∈ deltas.map SettingDelta.candidate ∧ row.key = key := by
  simp [candidatesOf]

/-! ## The rows of a device -/

lemma SettingsTable.mem_rowsOf :
    row ∈ settings.rowsOf deviceId ↔ (⟨deviceId, row⟩ : DeviceSetting V) ∈ settings.entries := by
  simp only [SettingsTable.rowsOf, List.mem_map, List.mem_filter, decide_eq_true_eq]
  constructor
  · rintro ⟨setting, ⟨hmem, rfl⟩, rfl⟩
    exact hmem
  · exact fun hmem => ⟨_, ⟨hmem, rfl⟩, rfl⟩

lemma SettingsTable.nodup_rowsOf : ((settings.rowsOf deviceId).map SettingRow.key).Nodup := by
  rw [SettingsTable.rowsOf, List.map_map]
  refine List.Nodup.map_on ?_ ((List.Nodup.of_map _ settings.nodup).filter _)
  intro setting hsetting setting' hsetting' hkey
  obtain ⟨hmem, hdevice⟩ := List.mem_filter.mp hsetting
  obtain ⟨hmem', hdevice'⟩ := List.mem_filter.mp hsetting'
  have hsame : setting.deviceId = setting'.deviceId :=
    (of_decide_eq_true hdevice).trans (of_decide_eq_true hdevice').symm
  exact List.inj_on_of_nodup_map settings.nodup hmem hmem' (Prod.ext hsame hkey)

lemma get?_settingsMap_eq_none (hnodup : (remote.map SettingRow.key).Nodup) {key : String} :
    (settingsMap remote).get? key = none ↔ ∀ old ∈ remote, old.key ≠ key := by
  rw [Option.eq_none_iff_forall_ne_some]
  simp only [settingsMap, ne_eq, KeyedLog.get?_upsertAll_empty hnodup, not_and]

/-! ## Merging -/

lemma mem_mergeSettings :
    row ∈ mergeSettings deltas remote ↔
      (((settingsMap remote).get? row.key).toList ++ candidatesOf deltas row.key).latest
        SettingRow.updatedAt = some row := by
  rw [mergeSettings, List.mem_mergeSort, candidatesOf, ← KeyedLog.get?_keepAllLater,
    KeyedLog.get?_eq_some]
  simp

theorem mem_toWrite (hnodup : (remote.map SettingRow.key).Nodup) :
    row ∈ toWrite deltas remote ↔
      row ∈ (candidatesOf deltas row.key).latest SettingRow.updatedAt ∧
        ∀ old ∈ remote, old.key = row.key → old.updatedAt < row.updatedAt := by
  rw [toWrite, diffMergedRows, List.mem_filter, mem_mergeSettings]
  cases hold : (settingsMap remote).get? row.key with
  | none =>
      have hnone := (get?_settingsMap_eq_none hnodup).mp hold
      simp only [Option.toList_none, List.nil_append, and_true, Option.mem_def]
      exact (and_iff_left fun old hmem heq => absurd heq (hnone old hmem)).symm
  | some existing =>
      obtain ⟨hmem, hkey⟩ := (KeyedLog.get?_upsertAll_empty hnodup).mp hold
      have hall : (∀ old ∈ remote, old.key = row.key → old.updatedAt < row.updatedAt) ↔
          existing.updatedAt < row.updatedAt := by
        refine ⟨fun h => h existing hmem hkey, fun hlt old hmem' hkey' => ?_⟩
        rwa [List.inj_on_of_nodup_map hnodup hmem' hmem (hkey'.trans hkey.symm)]
      rw [hall]
      simp only [Option.toList_some, List.singleton_append, List.latest_cons, Option.mem_def]
      cases hbest : (candidatesOf deltas row.key).latest SettingRow.updatedAt with
      | none => simp; grind
      | some best =>
          simp only [Option.some.injEq]
          grind

/-- It writes one row for each key at most. -/
lemma nodup_toWrite : ((toWrite deltas remote).map SettingRow.key).Nodup := by
  have hmerged : ((mergeSettings deltas remote).map SettingRow.key).Nodup :=
    ((List.mergeSort_perm _ _).map SettingRow.key).nodup_iff.mpr (KeyedLog.nodup _)
  exact hmerged.sublist (List.filter_sublist.map _)

/-- What has been changed is written, unless something as late has been found, or is written. -/
lemma covered_toWrite (hnodup : (remote.map SettingRow.key).Nodup)
    (hrow : row ∈ deltas.map SettingDelta.candidate) :
    (∃ old ∈ remote, old.key = row.key ∧ row.updatedAt ≤ old.updatedAt) ∨
      ∃ written ∈ toWrite deltas remote,
        written.key = row.key ∧ row.updatedAt ≤ written.updatedAt := by
  have hmem : row ∈ candidatesOf deltas row.key := mem_candidatesOf.mpr ⟨hrow, rfl⟩
  obtain ⟨best, hbest⟩ : ∃ best, best ∈ (candidatesOf deltas row.key).latest SettingRow.updatedAt :=
    Option.ne_none_iff_exists'.mp fun hnone =>
      List.ne_nil_of_mem hmem (List.latest_eq_none.mp hnone)
  have hkey : best.key = row.key := (mem_candidatesOf.mp (List.mem_of_mem_latest hbest)).2
  have hle : row.updatedAt ≤ best.updatedAt := List.le_of_mem_latest hmem hbest
  by_cases hlater : ∀ old ∈ remote, old.key = best.key → old.updatedAt < best.updatedAt
  · exact Or.inr ⟨best, (mem_toWrite hnodup).mpr ⟨by rwa [hkey], hlater⟩, hkey, hle⟩
  · push Not at hlater
    obtain ⟨old, hold, hsame, hlate⟩ := hlater
    exact Or.inl ⟨old, hold, hsame.trans hkey, hle.trans hlate⟩

/-! ## Steps -/

namespace SettingsWorld

variable {w w' : SettingsWorld V} {a : SettingsAction V}

/-- What a step does. -/
inductive Steps (w : SettingsWorld V) : SettingsAction V → SettingsWorld V → Prop
  | waits {ms : ℕ} : Steps w (.waits ms) { w with now := w.now + ms }
  | syncs {deviceId : String} {deltas : List (SettingDelta V)} :
      Steps w (.syncs deviceId deltas)
        { w with calls := w.calls ++ [⟨deviceId, .sync (clampDeltas deltas w.now), .device⟩] }
  | patches {deviceId adminUserId : String} {settings : List (String × V)} :
      Steps w (.patches deviceId settings adminUserId)
        { w with
          calls :=
            w.calls ++ [⟨deviceId, .patch (patchRows settings adminUserId w.now), .device⟩] }
  | foundForSync {i : ℕ} {call : SettingsCall V} {clamped : List (SettingDelta V)}
      (hcall : w.calls[i]? = some call) (hwriter : call.writer = .sync clamped) :
      Steps w (.loadsDevice i true) (w.advance i call .settings)
  | foundForPatch {i : ℕ} {call : SettingsCall V} {upserts : List (SettingRow V)}
      (hcall : w.calls[i]? = some call) (hwriter : call.writer = .patch upserts) :
      Steps w (.loadsDevice i true) (w.advance i call (.upserts [] upserts))
  | loaded {i : ℕ} {call : SettingsCall V} {clamped : List (SettingDelta V)}
      (hcall : w.calls[i]? = some call) (hwriter : call.writer = .sync clamped) :
      Steps w (.loadsSettings i false) (w.advance i call (.upserts
        (w.settings.rowsOf call.deviceId) (toWrite clamped (w.settings.rowsOf call.deviceId))))
  | written {i : ℕ} {call : SettingsCall V} {remote rest : List (SettingRow V)}
      {row : SettingRow V} (hcall : w.calls[i]? = some call)
      (hpoint : call.point = .upserts remote (row :: rest)) :
      Steps w (.upserts i false) (w.write i call remote row rest)
  | finished {i : ℕ} {call : SettingsCall V} {remote : List (SettingRow V)}
      (hcall : w.calls[i]? = some call) (hpoint : call.point = .upserts remote []) :
      Steps w (.finishes i) (w.finish i call)
  | missing {i : ℕ} {call : SettingsCall V} (hcall : w.calls[i]? = some call) :
      Steps w (.loadsDevice i false) (w.drop i)
  | notLoaded {i : ℕ} {call : SettingsCall V} (hcall : w.calls[i]? = some call) :
      Steps w (.loadsSettings i true) (w.drop i)
  | notWritten {i : ℕ} {call : SettingsCall V} (hcall : w.calls[i]? = some call) :
      Steps w (.upserts i true) (w.drop i)

lemma steps_of_step (hstep : w.step a = some w') : w.Steps a w' := by
  cases a with
  | waits ms =>
      obtain rfl := Option.some.inj hstep
      exact .waits
  | syncs deviceId deltas =>
      obtain rfl := Option.some.inj hstep
      exact .syncs
  | patches deviceId settings adminUserId =>
      obtain rfl := Option.some.inj hstep
      exact .patches
  | loadsDevice i live =>
      obtain ⟨call, hcall, hstep⟩ := Option.bind_eq_some_iff.mp hstep
      split at hstep
      · cases live with
        | true =>
            rw [if_pos rfl] at hstep
            split at hstep
            · next clamped hwriter =>
              obtain rfl := Option.some.inj hstep
              exact .foundForSync hcall hwriter
            · next upserts hwriter =>
              obtain rfl := Option.some.inj hstep
              exact .foundForPatch hcall hwriter
        | false =>
            obtain rfl := Option.some.inj hstep
            exact .missing hcall
      · cases hstep
  | loadsSettings i fails =>
      obtain ⟨call, hcall, hstep⟩ := Option.bind_eq_some_iff.mp hstep
      split at hstep
      · next clamped _ hwriter =>
        cases fails with
        | true =>
            obtain rfl := Option.some.inj hstep
            exact .notLoaded hcall
        | false =>
            obtain rfl := Option.some.inj hstep
            exact .loaded hcall hwriter
      · cases hstep
  | upserts i fails =>
      obtain ⟨call, hcall, hstep⟩ := Option.bind_eq_some_iff.mp hstep
      split at hstep
      · next remote row rest hpoint =>
        cases fails with
        | true =>
            obtain rfl := Option.some.inj hstep
            exact .notWritten hcall
        | false =>
            obtain rfl := Option.some.inj hstep
            exact .written hcall hpoint
      · cases hstep
  | finishes i =>
      obtain ⟨call, hcall, hstep⟩ := Option.bind_eq_some_iff.mp hstep
      split at hstep
      · next remote hpoint =>
        obtain rfl := Option.some.inj hstep
        exact .finished hcall hpoint
      · cases hstep

end SettingsWorld

end ExpresSync

/-!
# The laws of the merge

`mergeSettings` keeps, for each key that either side has, the first of the latest entries, the
stored one before those of the device (`isLastWriterMerge_mergeSettings`).
-/

namespace ExpresSync

variable {V : Type*} {deltas : List (SettingDelta V)} {stored : List (SettingRow V)}
  {row : SettingRow V}

/-- What is merged from the changes of a device and the rows that are stored. -/
structure IsLastWriterMerge (deltas : List (SettingDelta V)) (stored merged : List (SettingRow V)) :
    Prop where
  nodup : (merged.map SettingRow.key).Nodup
  sorted : merged.Pairwise fun a b => utf16Units a.key ≤ utf16Units b.key
  keys : ∀ key, (∃ row ∈ merged, row.key = key) ↔
    (∃ delta ∈ deltas, delta.key = key) ∨ ∃ old ∈ stored, old.key = key
  source : ∀ row ∈ merged, row ∈ stored ∨ row ∈ deltas.map SettingDelta.candidate
  greatest : ∀ row ∈ merged, ∀ other ∈ stored ++ deltas.map SettingDelta.candidate,
    other.key = row.key → other.updatedAt ≤ row.updatedAt
  /-- Of equally late entries the stored one is kept. -/
  storedWins : ∀ row ∈ merged, ∀ old ∈ stored, old.key = row.key →
    old.updatedAt = row.updatedAt → row = old
  idempotent : mergeSettings deltas merged = merged
  noneOlder : ∀ old ∈ stored, ∃ row ∈ merged, row.key = old.key ∧ old.updatedAt ≤ row.updatedAt

/-- The stored row of a key, and the changes of the key. -/
def entriesOf (deltas : List (SettingDelta V)) (stored : List (SettingRow V)) (key : String) :
    List (SettingRow V) :=
  ((settingsMap stored).get? key).toList ++ candidatesOf deltas key

lemma mem_entriesOf (hnodup : (stored.map SettingRow.key).Nodup) {key : String} :
    row ∈ entriesOf deltas stored key ↔
      (row ∈ stored ∨ row ∈ deltas.map SettingDelta.candidate) ∧ row.key = key := by
  rw [entriesOf, List.mem_append, Option.mem_toList, mem_candidatesOf, settingsMap,
    KeyedLog.get?_upsertAll_empty hnodup, or_and_right]

lemma mem_mergeSettings_iff_latest :
    row ∈ mergeSettings deltas stored ↔
      (entriesOf deltas stored row.key).latest SettingRow.updatedAt = some row :=
  mem_mergeSettings

/-- Every key of either side is kept. -/
lemma exists_mem_mergeSettings {key : String} (h : entriesOf deltas stored key ≠ [])
    (hnodup : (stored.map SettingRow.key).Nodup) :
    ∃ row ∈ mergeSettings deltas stored, row.key = key := by
  obtain ⟨row, hrow⟩ :
    ∃ row, (entriesOf deltas stored key).latest SettingRow.updatedAt = some row :=
    Option.ne_none_iff_exists'.mp (mt List.latest_eq_none.mp h)
  have hkey : row.key = key := ((mem_entriesOf hnodup).mp (List.mem_of_mem_latest hrow)).2
  subst hkey
  exact ⟨row, mem_mergeSettings_iff_latest.mpr hrow, rfl⟩

lemma nodup_mergeSettings : ((mergeSettings deltas stored).map SettingRow.key).Nodup :=
  ((List.mergeSort_perm _ _).map SettingRow.key).nodup_iff.mpr (KeyedLog.nodup _)

lemma sorted_mergeSettings :
    (mergeSettings deltas stored).Pairwise fun a b => utf16Units a.key ≤ utf16Units b.key := by
  have htrans : ∀ a b c : SettingRow V, decide (utf16Units a.key ≤ utf16Units b.key) = true →
      decide (utf16Units b.key ≤ utf16Units c.key) = true →
        decide (utf16Units a.key ≤ utf16Units c.key) = true := by
    intro a b c hab hbc
    exact decide_eq_true (le_trans (of_decide_eq_true hab) (of_decide_eq_true hbc))
  have htotal : ∀ a b : SettingRow V, (decide (utf16Units a.key ≤ utf16Units b.key) ||
      decide (utf16Units b.key ≤ utf16Units a.key)) = true := by
    intro a b
    rw [Bool.or_eq_true, decide_eq_true_eq, decide_eq_true_eq]
    exact le_total _ _
  exact (List.pairwise_mergeSort htrans htotal _).imp fun h => of_decide_eq_true h

/-- What has been merged is no older than what it is merged with. -/
lemma le_of_mem_mergeSettings (hnodup : (stored.map SettingRow.key).Nodup)
    (hrow : row ∈ mergeSettings deltas stored) {other : SettingRow V}
    (hother : other ∈ stored ++ deltas.map SettingDelta.candidate) (hkey : other.key = row.key) :
    other.updatedAt ≤ row.updatedAt :=
  List.le_of_mem_latest ((mem_entriesOf hnodup).mpr ⟨List.mem_append.mp hother, hkey⟩)
    (mem_mergeSettings_iff_latest.mp hrow)

lemma eq_stored_of_mem_mergeSettings (hnodup : (stored.map SettingRow.key).Nodup)
    (hrow : row ∈ mergeSettings deltas stored) {old : SettingRow V} (hold : old ∈ stored)
    (hkey : old.key = row.key) (hstamp : old.updatedAt = row.updatedAt) : row = old := by
  have hget : (settingsMap stored).get? row.key = some old :=
    (KeyedLog.get?_upsertAll_empty hnodup).mpr ⟨hold, hkey⟩
  have hlatest := mem_mergeSettings.mp hrow
  rw [hget, Option.toList_some, List.singleton_append, List.latest_cons] at hlatest
  split at hlatest
  · exact (Option.some.inj hlatest).symm
  · next best _ =>
    split at hlatest
    · next hlt =>
      rw [Option.some.inj hlatest, hstamp] at hlt
      exact absurd hlt (lt_irrefl _)
    · exact (Option.some.inj hlatest).symm

/-- The changes are in what has been merged already. -/
lemma mergeSettings_idempotent (hnodup : (stored.map SettingRow.key).Nodup) :
    mergeSettings deltas (mergeSettings deltas stored) = mergeSettings deltas stored := by
  have hmap : (settingsMap (mergeSettings deltas stored)).entries = mergeSettings deltas stored :=
    KeyedLog.entries_upsertAll_of_fresh nodup_mergeSettings
  have hkeep : (settingsMap (mergeSettings deltas stored)).keepAllLater SettingRow.updatedAt
      (deltas.map SettingDelta.candidate) = settingsMap (mergeSettings deltas stored) := by
    refine KeyedLog.keepAllLater_of_forall_le fun candidate hcandidate => ?_
    have hmem : candidate ∈ entriesOf deltas stored candidate.key :=
      (mem_entriesOf hnodup).mpr ⟨Or.inr hcandidate, rfl⟩
    obtain ⟨row, hrow, hkey⟩ := exists_mem_mergeSettings (List.ne_nil_of_mem hmem) hnodup
    refine ⟨row, (KeyedLog.get?_upsertAll_empty nodup_mergeSettings).mpr ⟨hrow, hkey⟩, ?_⟩
    exact le_of_mem_mergeSettings hnodup hrow (List.mem_append_right _ hcandidate) hkey.symm
  have hsorted : (mergeSettings deltas stored).Pairwise fun a b =>
      decide (utf16Units a.key ≤ utf16Units b.key) = true :=
    sorted_mergeSettings.imp fun h => decide_eq_true h
  rw [mergeSettings, hkeep, hmap]
  exact List.mergeSort_of_pairwise hsorted

/-- For all changes of a device, repeated keys among them, and all stored rows with different keys:
at any time of the server the merge keeps the last writer of each key. -/
theorem isLastWriterMerge_mergeSettings (deltas : List (SettingDelta V))
    (stored : List (SettingRow V)) (now : ℤ) (hnodup : (stored.map SettingRow.key).Nodup) :
    IsLastWriterMerge (clampDeltas deltas now) stored
      (mergeSettings (clampDeltas deltas now) stored) where
  nodup := nodup_mergeSettings
  sorted := sorted_mergeSettings
  keys := fun key => by
    constructor
    · rintro ⟨row, hrow, rfl⟩
      have hmem := List.mem_of_mem_latest (mem_mergeSettings_iff_latest.mp hrow)
      rcases ((mem_entriesOf hnodup).mp hmem).1 with hstored | hcandidate
      · exact Or.inr ⟨row, hstored, rfl⟩
      · obtain ⟨delta, hdelta, rfl⟩ := List.mem_map.mp hcandidate
        exact Or.inl ⟨delta, hdelta, rfl⟩
    · rintro (⟨delta, hdelta, rfl⟩ | ⟨old, hold, rfl⟩)
      · have hmem : delta.candidate ∈ entriesOf (clampDeltas deltas now) stored delta.key :=
          (mem_entriesOf hnodup).mpr ⟨Or.inr (List.mem_map_of_mem hdelta), rfl⟩
        exact exists_mem_mergeSettings (List.ne_nil_of_mem hmem) hnodup
      · exact exists_mem_mergeSettings
          (List.ne_nil_of_mem ((mem_entriesOf hnodup).mpr ⟨Or.inl hold, rfl⟩)) hnodup
  source := fun row hrow =>
    ((mem_entriesOf hnodup).mp (List.mem_of_mem_latest (mem_mergeSettings_iff_latest.mp hrow))).1
  greatest := fun row hrow other hother hkey => le_of_mem_mergeSettings hnodup hrow hother hkey
  storedWins := fun row hrow old hold hkey hstamp =>
    eq_stored_of_mem_mergeSettings hnodup hrow hold hkey hstamp
  idempotent := mergeSettings_idempotent hnodup
  noneOlder := fun old hold => by
    obtain ⟨row, hrow, hkey⟩ :
        ∃ row ∈ mergeSettings (clampDeltas deltas now) stored, row.key = old.key :=
      exists_mem_mergeSettings
        (List.ne_nil_of_mem ((mem_entriesOf hnodup).mpr ⟨Or.inl hold, rfl⟩)) hnodup
    exact ⟨row, hrow, hkey, le_of_mem_mergeSettings hnodup hrow (List.mem_append_left _ hold)
      hkey.symm⟩

/-- A batch with one key twice, for a stored row of the same time as one of the two. -/
theorem isLastWriterMerge_labels :
    IsLastWriterMerge
      (clampDeltas [⟨"device.label", "phone-A", 2, "device:1"⟩,
        ⟨"device.label", "phone-B", 9000, "device:1"⟩] 1)
      [⟨"device.label", "phone-C", 2, "admin:2"⟩]
      (mergeSettings (clampDeltas [⟨"device.label", "phone-A", 2, "device:1"⟩,
        ⟨"device.label", "phone-B", 9000, "device:1"⟩] 1)
        [⟨"device.label", "phone-C", 2, "admin:2"⟩]) :=
  isLastWriterMerge_mergeSettings _ _ 1 (List.nodup_singleton _)

end ExpresSync
