import ExpresSync.Foundation.Transition
import ExpresSync.Properties.SettingsMerge

/-!
# A batch of changes that is sent again

A batch that a device has sent is to change nothing when it is sent again after an administrator
has saved other values.  It is merged under the clock of its second arrival: a change that lies
ahead of the first one is later than the save by then.
-/

namespace ExpresSync

open Transition

variable {V : Type*} {settings : SettingsTable V} {deviceId : String} {row : SettingRow V}

/-! ## Requests one after the other -/

lemma get?_writeAll_of_mem {rows : List (SettingRow V)}
    (hnodup : (rows.map SettingRow.key).Nodup) (hrow : row ∈ rows) :
    (settings.writeAll deviceId rows).get? (deviceId, row.key) = some ⟨deviceId, row⟩ := by
  refine KeyedLog.get?_upsertAll_of_mem ?_ (List.mem_map_of_mem hrow)
  rw [List.map_map]
  exact List.Nodup.of_map Prod.snd (by simpa [DeviceSetting.id, Function.comp_def] using hnodup)

lemma get?_writeAll_of_forall_ne {rows : List (SettingRow V)} {key : String}
    (hne : ∀ row ∈ rows, row.key ≠ key) :
    (settings.writeAll deviceId rows).get? (deviceId, key) = settings.get? (deviceId, key) := by
  refine KeyedLog.get?_upsertAll_of_forall_ne fun setting hsetting heq => ?_
  obtain ⟨row, hrow, rfl⟩ := List.mem_map.mp hsetting
  exact hne row hrow (congrArg Prod.snd heq)

/-- A sync request replaces the row of a key by the first of its latest changes when that is
later. -/
lemma get?_sync (hold : settings.get? (deviceId, row.key) = some ⟨deviceId, row⟩)
    (deltas : List (SettingDelta V)) (now : ℤ) :
    (settings.sync deviceId deltas now).get? (deviceId, row.key) =
      match (candidatesOf (clampDeltas deltas now) row.key).latest SettingRow.updatedAt with
      | none => some ⟨deviceId, row⟩
      | some best => if row.updatedAt < best.updatedAt then some ⟨deviceId, best⟩
          else some ⟨deviceId, row⟩ := by
  have hmem : row ∈ settings.rowsOf deviceId :=
    SettingsTable.mem_rowsOf.mpr (KeyedLog.get?_eq_some.mp hold).1
  have hrows : ((settings.rowsOf deviceId).map SettingRow.key).Nodup := SettingsTable.nodup_rowsOf
  have hstays : (∀ best ∈ (candidatesOf (clampDeltas deltas now) row.key).latest
      SettingRow.updatedAt, ¬row.updatedAt < best.updatedAt) →
      (settings.sync deviceId deltas now).get? (deviceId, row.key) = some ⟨deviceId, row⟩ := by
    intro hbest
    rw [← hold]
    refine get?_writeAll_of_forall_ne fun written hwritten hkey => ?_
    obtain ⟨hlatest, hlater⟩ := (mem_toWrite hrows).mp hwritten
    rw [hkey] at hlatest hlater
    exact hbest written hlatest (hlater row hmem rfl)
  split
  · next hnone => exact hstays fun best hbest => by rw [hnone] at hbest; cases hbest
  · next best hbest =>
    split
    · next hlt =>
      have hkey : best.key = row.key := (mem_candidatesOf.mp (List.mem_of_mem_latest hbest)).2
      have hwritten : best ∈ toWrite (clampDeltas deltas now) (settings.rowsOf deviceId) := by
        refine (mem_toWrite hrows).mpr ⟨by rwa [hkey], fun old hmem' hkey' => ?_⟩
        rwa [List.inj_on_of_nodup_map hrows hmem' hmem (hkey'.trans hkey)]
      rw [← hkey]
      exact get?_writeAll_of_mem nodup_toWrite hwritten
    · next hle =>
      refine hstays fun other hother => ?_
      rw [hbest] at hother
      obtain rfl := Option.some.inj hother
      exact hle

lemma get?_patch {saved : List (String × V)} {adminUserId : String} {stampedAt : ℤ}
    (hrow : row ∈ patchRows saved adminUserId stampedAt) :
    (settings.patch deviceId saved adminUserId stampedAt).get? (deviceId, row.key) =
      some ⟨deviceId, row⟩ :=
  get?_writeAll_of_mem (KeyedLog.nodup _) hrow

lemma updatedAt_of_mem_patchRows {saved : List (String × V)} {adminUserId : String} {stampedAt : ℤ}
    (hrow : row ∈ patchRows saved adminUserId stampedAt) : row.updatedAt = stampedAt := by
  rcases KeyedLog.mem_upsertAll hrow with hempty | hmem
  · cases hempty
  · obtain ⟨setting, -, rfl⟩ := List.mem_map.mp hmem
    rfl

section Alone

open SettingsWorld

variable {w : SettingsWorld V} {call : SettingsCall V} {remote rest : List (SettingRow V)}

lemma run_upserts (hcalls : w.calls = [call]) (hpoint : call.point = .upserts remote rest) :
    ∃ accepted, run step w (List.replicate rest.length (.upserts 0 false) ++ [.finishes 0]) =
      some { w with
        settings := w.settings.writeAll call.deviceId rest, calls :=
          [], accepted := accepted } := by
  induction rest generalizing w call with
  | nil =>
      refine ⟨w.accepted ++ call.writer.offered.map (DeviceSetting.mk call.deviceId), ?_⟩
      simp [run, step, hcalls, hpoint, finish, drop, SettingsTable.writeAll]
  | cons row rest ih =>
      have hrest : (w.write 0 call remote row rest).calls =
          [{ call with point := .upserts remote rest }] := by
        simp [SettingsWorld.write, advance, hcalls]
      obtain ⟨accepted, hrun⟩ := ih hrest rfl
      refine ⟨accepted, ?_⟩
      have hstep : w.step (.upserts 0 false) = some (w.write 0 call remote row rest) := by
        simp [step, hcalls, hpoint]
      rw [List.length_cons, List.replicate_succ, List.cons_append, run, hstep, Option.bind_some,
        hrun]
      rfl

/-- The statements of a sync request that no other request comes between. -/
theorem run_sync (hcalls : w.calls = []) (deviceId : String) (deltas : List (SettingDelta V)) :
    ∃ n accepted,
      run step w ([.syncs deviceId deltas, .loadsDevice 0 true, .loadsSettings 0 false] ++
        (List.replicate n (.upserts 0 false) ++ [.finishes 0])) =
      some { w with
        settings := w.settings.sync deviceId deltas w.now, accepted := accepted } := by
  obtain ⟨accepted, hrun⟩ := run_upserts (w := { w with
    calls := [⟨deviceId, .sync (clampDeltas deltas w.now), .upserts (w.settings.rowsOf deviceId)
      (toWrite (clampDeltas deltas w.now) (w.settings.rowsOf deviceId))⟩] }) rfl rfl
  refine ⟨(toWrite (clampDeltas deltas w.now) (w.settings.rowsOf deviceId)).length, accepted, ?_⟩
  rw [run_append]
  simp only [run, step, hcalls, advance, List.nil_append, List.getElem?_cons_zero,
    List.eraseIdx_cons_zero, Option.bind_some, if_true, Bool.false_eq_true, if_false]
  rw [hrun, SettingsTable.sync, ← hcalls]

/-- The statements of an administrator's request that no other request comes between. -/
theorem run_patch (hcalls : w.calls = []) (deviceId : String) (saved : List (String × V))
    (adminUserId : String) :
    ∃ n accepted, run step w ([.patches deviceId saved adminUserId, .loadsDevice 0 true] ++
        (List.replicate n (.upserts 0 false) ++ [.finishes 0])) =
      some { w with
        settings := w.settings.patch deviceId saved adminUserId w.now, accepted := accepted } := by
  obtain ⟨accepted, hrun⟩ := run_upserts (w := { w with
    calls := [⟨deviceId, .patch (patchRows saved adminUserId w.now),
      .upserts [] (patchRows saved adminUserId w.now)⟩] }) rfl rfl
  refine ⟨(patchRows saved adminUserId w.now).length, accepted, ?_⟩
  rw [run_append]
  simp only [run, step, hcalls, advance, List.nil_append, List.getElem?_cons_zero,
    List.eraseIdx_cons_zero, Option.bind_some, if_true]
  rw [hrun, SettingsTable.patch, ← hcalls]

end Alone

/-! ## The same batch twice -/

/-- The settings after a batch, a save and the batch again. -/
def SettingsTable.replay (settings : SettingsTable V) (deviceId : String)
    (batch : List (SettingDelta V)) (saved : List (String × V)) (adminUserId : String)
    (t₁ t₂ t₃ : ℤ) : SettingsTable V :=
  ((settings.sync deviceId batch t₁).patch deviceId saved adminUserId t₂).sync deviceId batch t₃

/-- The change of a key that counts in a batch merged at `now`. -/
def latestDelta (batch : List (SettingDelta V)) (key : String) (now : ℤ) :
    Option (SettingDelta V) :=
  (batch.filter fun delta => delta.key = key).latest fun delta =>
    clampClientUpdatedAt delta.clientUpdatedAt now

lemma latest_candidatesOf (batch : List (SettingDelta V)) (key : String) (now : ℤ) :
    (candidatesOf (clampDeltas batch now) key).latest SettingRow.updatedAt =
      (latestDelta batch key now).map fun delta =>
        ⟨delta.key, delta.value, clampClientUpdatedAt delta.clientUpdatedAt now,
          delta.updatedBy⟩ := by
  have hmap : candidatesOf (clampDeltas batch now) key =
      (batch.filter fun delta => delta.key = key).map fun delta =>
        ⟨delta.key, delta.value, clampClientUpdatedAt delta.clientUpdatedAt now,
          delta.updatedBy⟩ := by
    rw [candidatesOf, clampDeltas, List.map_map, List.filter_map]
    rfl
  rw [hmap, List.latest_map]
  rfl

lemma clampClientUpdatedAt_le_iff {clientTs now t : ℤ} (ht : t < now) :
    clampClientUpdatedAt clientTs now ≤ t ↔ clientTs ≤ t := by
  unfold clampClientUpdatedAt
  dsimp only
  split <;> omega

/-- A value that has been saved survives the batch exactly when the change of its key that counts
is not later than the save, or has the same value. -/
theorem replay_keeps_iff {batch : List (SettingDelta V)} {saved : List (String × V)}
    {adminUserId : String} {t₁ t₂ t₃ : ℤ} (h : t₂ < t₃)
    (hrow : row ∈ patchRows saved adminUserId t₂) :
    ((settings.replay deviceId batch saved adminUserId t₁ t₂ t₃).get? (deviceId, row.key)).map
        (fun setting => setting.row.value) = some row.value ↔
      ∀ delta ∈ latestDelta batch row.key t₃,
        delta.clientUpdatedAt ≤ t₂ ∨ delta.value = row.value := by
  have hstamp : row.updatedAt = t₂ := updatedAt_of_mem_patchRows hrow
  rw [SettingsTable.replay, get?_sync (get?_patch hrow), latest_candidatesOf, hstamp]
  cases hlatest : latestDelta batch row.key t₃ with
  | none => simp
  | some delta =>
      have hclamp : clampClientUpdatedAt delta.clientUpdatedAt t₃ ≤ t₂ ↔
          delta.clientUpdatedAt ≤ t₂ := clampClientUpdatedAt_le_iff h
      simp only [Option.map_some, Option.mem_some_iff, forall_eq', ← hclamp]
      split
      · next hlt => simp [not_le.mpr hlt]
      · next hle => simp [not_lt.mp hle]

namespace Scenario

/-- A change by a device whose clock is a minute ahead. -/
def aheadBatch : List (SettingDelta ℕ) := [⟨"device.label", 1, 60000, "device:IPHONE"⟩]

end Scenario

open Scenario

/-- A save ten seconds after a change that lies a minute ahead is undone by it. -/
theorem not_replay_keeps_aheadBatch :
    ((SettingsTable.replay .empty "IPHONE" aheadBatch [("device.label", 2)] "ADMIN" 0 10000
      20000).get?
      ("IPHONE", "device.label")).map (fun setting => setting.row.value) ≠ some 2 := by
  decide +kernel

theorem replay_keeps_earlyBatch :
    ((SettingsTable.replay .empty "IPHONE" aheadBatch [("device.label", 2)] "ADMIN" 0 70000
      80000).get?
      ("IPHONE", "device.label")).map (fun setting => setting.row.value) = some 2 := by
  have hrow : (⟨"device.label", 2, 70000, "admin:ADMIN"⟩ : SettingRow ℕ) ∈
      patchRows [("device.label", 2)] "ADMIN" 70000 := by decide +kernel
  exact (replay_keeps_iff (by decide) hrow).mpr (by decide +kernel)

end ExpresSync
