import ExpresSync.Properties.JsonEquality

/-!
# What a client makes of the flags it is sent

A client takes a flag that it is not sent for its default, and `resolveFlags` leaves out what is
equal to the default.  Together they give every flag the value that the plain rule gives it
(`sameJson_decodeFlag`).
-/

namespace ExpresSync

variable {flags : FeatureFlags} {db : FlagTables} {userId : String} {deviceId : Option String}
  {spec : FeatureFlagSpec} {rows : List FlagValue} {row : FlagValue}

/-! ## The plain rule -/

/-- The flags may be overridden for the device. -/
def MayOverride (db : FlagTables) (deviceId : String) : Prop :=
  deviceId ≠ "" ∧ ∃ dev ∈ db.devices deviceId, dev.deletedAt = none ∧
    (dev.kind = "phone_nfc" ∨ dev.kind = "tablet_nfc" ∨ dev.kind = "laptop_nfc")

open Classical in
/-- The override of the device where it may have one, else the user's value, else the global one,
else the default. -/
noncomputable def plainValue (db : FlagTables) (userId : String) (deviceId : Option String)
    (spec : FeatureFlagSpec) : Json :=
  let override := deviceId.bind fun deviceId =>
    if MayOverride db deviceId then db.deviceFlags.get? (deviceId, spec.key) else none
  match override, db.userFlags.get? (userId, spec.key), db.globalFlags.get? spec.key with
  | some row, _, _ => row.flag.value
  | none, some row, _ => row.flag.value
  | none, none, some row => row.value
  | none, none, none => spec.defaultValue

/-! ## The maps -/

lemma FeatureFlags.isFeatureFlag_key (hspec : spec ∈ flags.specs) :
    flags.isFeatureFlag spec.key = true :=
  List.contains_iff_mem.mpr (List.mem_map_of_mem hspec)

/-- The map has the row of a registered flag. -/
lemma get?_flagMap (hnodup : (rows.map FlagValue.flagKey).Nodup) (hspec : spec ∈ flags.specs) :
    (flagMap flags rows).get? spec.key = some row ↔ row ∈ rows ∧ row.flagKey = spec.key := by
  have hfiltered : ((rows.filter fun row => flags.isFeatureFlag row.flagKey).map
      FlagValue.flagKey).Nodup := hnodup.sublist (List.filter_sublist.map _)
  rw [flagMap, KeyedLog.get?_upsertAll_empty hfiltered, List.mem_filter, and_assoc]
  refine and_congr_right fun _ => and_iff_right_of_imp fun hkey => ?_
  rw [hkey]
  exact FeatureFlags.isFeatureFlag_key hspec

lemma nodup_loadUserFlags : ((db.loadUserFlags userId).map FlagValue.flagKey).Nodup := by
  have hrows := db.userFlags.nodup.sublist
    ((List.filter_sublist (p := fun row => row.userId = userId)).map UserFlag.id)
  rw [FlagTables.loadUserFlags, List.map_map]
  refine List.Nodup.of_map (Prod.mk userId) ?_
  rw [List.map_map]
  refine (List.map_congr_left fun row hrow => ?_) ▸ hrows
  have hid : row.userId = userId := of_decide_eq_true (List.mem_filter.mp hrow).2
  rw [UserFlag.id, hid]
  rfl

lemma nodup_loadDeviceFlags {deviceId : String} :
    ((db.loadDeviceFlags deviceId).map FlagValue.flagKey).Nodup := by
  have hrows := db.deviceFlags.nodup.sublist
    ((List.filter_sublist (p := fun row => row.deviceId = deviceId)).map DeviceFlag.id)
  rw [FlagTables.loadDeviceFlags, List.map_map]
  refine List.Nodup.of_map (Prod.mk deviceId) ?_
  rw [List.map_map]
  refine (List.map_congr_left fun row hrow => ?_) ▸ hrows
  have hid : row.deviceId = deviceId := of_decide_eq_true (List.mem_filter.mp hrow).2
  rw [DeviceFlag.id, hid]
  rfl

lemma get?_userMap (hspec : spec ∈ flags.specs) :
    (flagMap flags (db.loadUserFlags userId)).get? spec.key =
      (db.userFlags.get? (userId, spec.key)).map UserFlag.flag := by
  refine Option.ext fun row => ?_
  rw [get?_flagMap nodup_loadUserFlags hspec, Option.map_eq_some_iff]
  simp only [FlagTables.loadUserFlags, List.mem_map, List.mem_filter, decide_eq_true_eq,
    KeyedLog.get?_eq_some, UserFlag.id, Prod.mk.injEq]
  constructor
  · rintro ⟨⟨user, ⟨hmem, huser⟩, rfl⟩, hkey⟩
    exact ⟨user, ⟨hmem, huser, hkey⟩, rfl⟩
  · rintro ⟨user, ⟨hmem, huser, hkey⟩, rfl⟩
    exact ⟨⟨user, ⟨hmem, huser⟩, rfl⟩, hkey⟩

lemma get?_deviceMap {deviceId : String} (hspec : spec ∈ flags.specs) :
    (flagMap flags (db.loadDeviceFlags deviceId)).get? spec.key =
      (db.deviceFlags.get? (deviceId, spec.key)).map DeviceFlag.flag := by
  refine Option.ext fun row => ?_
  rw [get?_flagMap nodup_loadDeviceFlags hspec, Option.map_eq_some_iff]
  simp only [FlagTables.loadDeviceFlags, List.mem_map, List.mem_filter, decide_eq_true_eq,
    KeyedLog.get?_eq_some, DeviceFlag.id, Prod.mk.injEq]
  constructor
  · rintro ⟨⟨device, ⟨hmem, hdevice⟩, rfl⟩, hkey⟩
    exact ⟨device, ⟨hmem, hdevice, hkey⟩, rfl⟩
  · rintro ⟨device, ⟨hmem, hdevice, hkey⟩, rfl⟩
    exact ⟨⟨device, ⟨hmem, hdevice⟩, rfl⟩, hkey⟩

lemma get?_globalMap (hspec : spec ∈ flags.specs) :
    (flagMap flags db.globalFlags.entries).get? spec.key = db.globalFlags.get? spec.key := by
  refine Option.ext fun row => ?_
  rw [get?_flagMap db.globalFlags.nodup hspec, KeyedLog.get?_eq_some]

lemma readDeviceOverrides_iff {deviceId : String} :
    db.readDeviceOverrides (some deviceId) = true ↔ MayOverride db deviceId := by
  simp only [FlagTables.readDeviceOverrides, MayOverride, Bool.and_eq_true, Bool.not_eq_true',
    Option.any_eq_true, isFeatureFlagEligibleKind, List.contains_iff_mem, List.mem_cons,
    List.not_mem_nil, or_false, Option.isNone_iff_eq_none, Option.mem_def]
  refine and_congr_left fun _ => ?_
  rw [Bool.eq_false_iff, ne_eq, String.isEmpty_iff]

/-! ## Encoding and decoding -/

variable (db userId deviceId) in
/-- The value that `resolveFlag` compares with the default. -/
lemma effective_eq_plainValue (hspec : spec ∈ flags.specs) :
    (match db.source flags userId deviceId spec.key with
      | some row => row.value
      | none => spec.defaultValue) = plainValue db userId deviceId spec := by
  have hdevice : (if db.readDeviceOverrides deviceId then
        flagMap flags ((deviceId.map db.loadDeviceFlags).getD [])
      else KeyedLog.empty).get? spec.key =
      (deviceId.bind fun deviceId => open Classical in
        if MayOverride db deviceId then db.deviceFlags.get? (deviceId, spec.key)
        else none).map DeviceFlag.flag := by
    cases deviceId with
    | none => rfl
    | some deviceId =>
        rw [Option.bind_some, Option.map_some, Option.getD_some]
        by_cases hmay : MayOverride db deviceId
        · rw [if_pos (readDeviceOverrides_iff.mpr hmay), if_pos hmay, get?_deviceMap hspec]
        · rw [if_neg (mt readDeviceOverrides_iff.mp hmay), if_neg hmay]
          rfl
  simp only [FlagTables.source, plainValue, hdevice, get?_userMap hspec, get?_globalMap hspec]
  cases deviceId.bind _ with
  | some row => rfl
  | none =>
      cases db.userFlags.get? (userId, spec.key) with
      | some row => rfl
      | none => cases db.globalFlags.get? spec.key <;> rfl

variable (db userId deviceId) in
/-- A flag is sent with its value, or left out when that is its default. -/
lemma resolveFlag_cases (hspec : spec ∈ flags.specs) :
    (db.resolveFlag flags userId deviceId spec = none ∧
        deepEqualJson (plainValue db userId deviceId spec).value spec.defaultValue.value = true) ∨
      ∃ entry, db.resolveFlag flags userId deviceId spec = some (spec.key, entry) ∧
        entry.value = plainValue db userId deviceId spec := by
  have heffective := effective_eq_plainValue db userId deviceId hspec
  unfold FlagTables.resolveFlag
  cases hsource : db.source flags userId deviceId spec.key with
  | none =>
      simp only [hsource] at heffective
      rw [← heffective]
      exact Or.inl ⟨if_pos ((deepEqualJson_iff _ _).mpr (SameJson.refl _)),
        (deepEqualJson_iff _ _).mpr (SameJson.refl _)⟩
  | some row =>
      simp only [hsource] at heffective
      rw [← heffective]
      by_cases hequal : deepEqualJson row.value.value spec.defaultValue.value = true
      · exact Or.inl ⟨if_pos hequal, hequal⟩
      · exact Or.inr ⟨_, if_neg hequal, rfl⟩

/-- Of entries under the keys of different flags, that of a flag is found by its key. -/
lemma find?_filterMap_key {specs : List FeatureFlagSpec}
    {f : FeatureFlagSpec → Option (String × ResolvedFlagValue)}
    (hnodup : (specs.map FeatureFlagSpec.key).Nodup)
    (hf : ∀ other ∈ specs, ∀ entry ∈ f other, entry.1 = other.key) (hspec : spec ∈ specs) :
    (specs.filterMap f).find? (fun entry => decide (entry.1 = spec.key)) = f spec := by
  cases hfind : (specs.filterMap f).find? fun entry => decide (entry.1 = spec.key) with
  | none =>
      cases hentry : f spec with
      | none => rfl
      | some entry =>
          have hmem : entry ∈ specs.filterMap f := List.mem_filterMap.mpr ⟨spec, hspec, hentry⟩
          have hne := List.find?_eq_none.mp hfind entry hmem
          rw [decide_eq_true_eq] at hne
          exact absurd (hf spec hspec entry hentry) hne
  | some entry =>
      have hkey : entry.1 = spec.key := by simpa using List.find?_some hfind
      obtain ⟨other, hother, hentry⟩ := List.mem_filterMap.mp (List.mem_of_find?_eq_some hfind)
      have hsame : other = spec := List.inj_on_of_nodup_map hnodup hother hspec
        ((hf other hother entry hentry).symm.trans hkey)
      rw [← hsame, hentry]

lemma key_of_mem_resolveFlag (hspec : spec ∈ flags.specs) :
    ∀ entry ∈ db.resolveFlag flags userId deviceId spec, entry.1 = spec.key := by
  intro entry hentry
  rcases resolveFlag_cases db userId deviceId hspec with
    ⟨hnone, -⟩ | ⟨value, hsome, -⟩
  · cases hnone.symm.trans hentry
  · obtain rfl := Option.some.inj (hsome.symm.trans hentry)
    rfl

/-- For every registry and all rows, those of flags that are not registered and of devices that may
have none included: a client gives every flag the value of the plain rule, and is sent registered
flags only. -/
theorem sameJson_decodeFlag (flags : FeatureFlags) (db : FlagTables) (userId : String)
    (deviceId : Option String) :
    (∀ spec ∈ flags.specs,
        SameJson (decodeFlag (db.resolveFlags flags userId deviceId) spec).value
          (plainValue db userId deviceId spec).value) ∧
      ∀ entry ∈ db.resolveFlags flags userId deviceId, flags.isFeatureFlag entry.1 = true := by
  constructor
  · intro spec hspec
    have hfind := find?_filterMap_key (f := db.resolveFlag flags userId deviceId) flags.nodup
      (fun other hother => key_of_mem_resolveFlag hother) hspec
    rw [decodeFlag, FlagTables.resolveFlags, hfind]
    rcases resolveFlag_cases db userId deviceId hspec with
      ⟨hnone, hdefault⟩ | ⟨entry, hsome, hvalue⟩
    · rw [hnone]
      exact ((deepEqualJson_iff _ _).mp hdefault).symm
    · rw [hsome, ← hvalue]
      exact SameJson.refl _
  · intro entry hentry
    obtain ⟨spec, hspec, hspecEntry⟩ := List.mem_filterMap.mp hentry
    rw [key_of_mem_resolveFlag hspec entry hspecEntry]
    exact FeatureFlags.isFeatureFlag_key hspec

end ExpresSync
