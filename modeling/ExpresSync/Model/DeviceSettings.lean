import ExpresSync.Foundation.LastWriter
import Mathlib.Data.List.Lex

/-!
# Device settings

The settings of a device are rows of `device_settings`, one for each key, which two routes write:
`POST /api/devices/me/state/sync` merges the device's own changes into them (`mergeSettings` of
`lww.ts`), `PATCH /api/admin/devices/{deviceId}/settings` saves an administrator's.  Both wait
between their statements, so requests of both kinds are in flight together.

`V` is the JSON value of a setting.  Times are milliseconds since the epoch.
-/

namespace ExpresSync

section

variable (V : Type*)

structure SettingRow where
  key : String
  value : V
  updatedAt : ℤ
  updatedBy : String
deriving DecidableEq

structure SettingDelta where
  key : String
  value : V
  clientUpdatedAt : ℤ
  updatedBy : String
deriving DecidableEq

/-- A row of `device_settings`. -/
structure DeviceSetting where
  deviceId : String
  row : SettingRow V
deriving DecidableEq

end

variable {V : Type*}

/-- The primary key. -/
def DeviceSetting.id (setting : DeviceSetting V) : String × String :=
  (setting.deviceId, setting.row.key)

/-! ## Merging -/

def clampClientUpdatedAt (clientTs now : ℤ) : ℤ :=
  let ceiling := now + 5000
  if clientTs > ceiling then ceiling else clientTs

/-- The row that a delta is a candidate for. -/
def SettingDelta.candidate (delta : SettingDelta V) : SettingRow V :=
  ⟨delta.key, delta.value, delta.clientUpdatedAt, delta.updatedBy⟩

/-- A `Map` of rows by their key: a later row takes the place of an earlier one. -/
def settingsMap (rows : List (SettingRow V)) : KeyedLog (SettingRow.key (V := V)) :=
  KeyedLog.empty.upsertAll rows

/-- The UTF-16 code units of a string, by which JavaScript compares strings. -/
def utf16Units (s : String) : List ℕ :=
  s.toList.flatMap fun c =>
    if c.toNat < 0x10000 then [c.toNat]
    else [0xD800 + (c.toNat - 0x10000) / 0x400, 0xDC00 + (c.toNat - 0x10000) % 0x400]

def mergeSettings (deltas : List (SettingDelta V)) (remote : List (SettingRow V)) :
    List (SettingRow V) :=
  let merged := (settingsMap remote).keepAllLater SettingRow.updatedAt
    (deltas.map SettingDelta.candidate)
  merged.entries.mergeSort fun a b => decide (utf16Units a.key ≤ utf16Units b.key)

def diffMergedRows (remote merged : List (SettingRow V)) : List (SettingRow V) :=
  let byKey := settingsMap remote
  merged.filter fun m =>
    match byKey.get? m.key with
    | none => true
    | some existing => existing.updatedAt != m.updatedAt || existing.updatedBy != m.updatedBy

/-! ## The two routes -/

/-- The table `device_settings`. -/
abbrev SettingsTable (V : Type*) := KeyedLog (DeviceSetting.id (V := V))

/-- The rows of a device. -/
def SettingsTable.rowsOf (settings : SettingsTable V) (deviceId : String) : List (SettingRow V) :=
  (settings.entries.filter fun setting => setting.deviceId = deviceId).map DeviceSetting.row

def clampDeltas (deltas : List (SettingDelta V)) (now : ℤ) : List (SettingDelta V) :=
  deltas.map fun d => { d with clientUpdatedAt := clampClientUpdatedAt d.clientUpdatedAt now }

/-- What a sync request writes that has found the rows `remote`. -/
def toWrite (clamped : List (SettingDelta V)) (remote : List (SettingRow V)) :
    List (SettingRow V) :=
  diffMergedRows remote (mergeSettings clamped remote)

/-- A repeated key gets its last value everywhere. -/
def relaxSettings (settings : List (String × V)) : List (String × V) :=
  settings.foldl
    (fun relaxed parsed =>
      (relaxed.map fun earlier => if earlier.1 = parsed.1 then parsed else earlier) ++ [parsed]) []

/-- What the administrator `adminUserId` writes who saves `settings` at `stampedAt`. -/
def patchRows (settings : List (String × V)) (adminUserId : String) (stampedAt : ℤ) :
    List (SettingRow V) :=
  (settingsMap ((relaxSettings settings).map fun setting =>
    ⟨setting.1, setting.2, stampedAt, "admin:" ++ adminUserId⟩)).entries

/-- The statements of a request for its rows, one after the other. -/
def SettingsTable.writeAll (settings : SettingsTable V) (deviceId : String)
    (rows : List (SettingRow V)) : SettingsTable V :=
  settings.upsertAll (rows.map (DeviceSetting.mk deviceId))

/-- A sync request that no other request comes between. -/
def SettingsTable.sync (settings : SettingsTable V) (deviceId : String)
    (deltas : List (SettingDelta V)) (now : ℤ) : SettingsTable V :=
  settings.writeAll deviceId (toWrite (clampDeltas deltas now) (settings.rowsOf deviceId))

/-- An administrator's request that no other request comes between. -/
def SettingsTable.patch (settings : SettingsTable V) (deviceId : String)
    (saved : List (String × V)) (adminUserId : String) (stampedAt : ℤ) : SettingsTable V :=
  settings.writeAll deviceId (patchRows saved adminUserId stampedAt)

/-! ## Requests in flight -/

/-- What a request is to write. -/
inductive SettingsWriter (V : Type*) where
  | sync (clamped : List (SettingDelta V))
  | patch (upserts : List (SettingRow V))
deriving DecidableEq

/-- The rows a request has been sent for. -/
def SettingsWriter.offered : SettingsWriter V → List (SettingRow V)
  | .sync clamped => clamped.map SettingDelta.candidate
  | .patch upserts => upserts

/-- What a request waits for. -/
inductive SettingsPoint (V : Type*) where
  | device
  | settings
  /-- The rest of the rows it writes; `remote` are the rows it has found. -/
  | upserts (remote rest : List (SettingRow V))
deriving DecidableEq

structure SettingsCall (V : Type*) where
  deviceId : String
  writer : SettingsWriter V
  point : SettingsPoint V
deriving DecidableEq

structure SettingsWorld (V : Type*) where
  now : ℤ
  settings : SettingsTable V
  calls : List (SettingsCall V)
  /-- The rows that have been written, and those of the requests that have finished. -/
  accepted : List (DeviceSetting V)

inductive SettingsAction (V : Type*) where
  | waits (ms : ℕ)
  | syncs (deviceId : String) (deltas : List (SettingDelta V))
  | patches (deviceId : String) (settings : List (String × V)) (adminUserId : String)
  /-- The device is found, or it is missing, deleted or cannot be loaded. -/
  | loadsDevice (i : ℕ) (live : Bool)
  | loadsSettings (i : ℕ) (fails : Bool)
  | upserts (i : ℕ) (fails : Bool)
  | finishes (i : ℕ)

namespace SettingsWorld

/-- No request is in flight. -/
def start (now : ℤ) (settings : SettingsTable V) : SettingsWorld V :=
  ⟨now, settings, [], settings.entries⟩

variable (w : SettingsWorld V)

/-- The request `i` goes on to `point`. -/
def advance (i : ℕ) (call : SettingsCall V) (point : SettingsPoint V) : SettingsWorld V :=
  { w with calls := w.calls.eraseIdx i ++ [{ call with point := point }] }

/-- The request `i` fails. -/
def drop (i : ℕ) : SettingsWorld V := { w with calls := w.calls.eraseIdx i }

/-- The request `i` writes a row. -/
def write (i : ℕ) (call : SettingsCall V) (remote : List (SettingRow V)) (row : SettingRow V)
    (rest : List (SettingRow V)) : SettingsWorld V :=
  { w.advance i call (.upserts remote rest) with
    settings := w.settings.upsert ⟨call.deviceId, row⟩
    accepted := w.accepted ++ [⟨call.deviceId, row⟩] }

/-- The request `i` has written its rows. -/
def finish (i : ℕ) (call : SettingsCall V) : SettingsWorld V :=
  { w.drop i with
    accepted := w.accepted ++ call.writer.offered.map (DeviceSetting.mk call.deviceId) }

def step : SettingsAction V → Option (SettingsWorld V)
  | .waits ms => some { w with now := w.now + ms }
  | .syncs deviceId deltas =>
      some { w with
        calls := w.calls ++ [⟨deviceId, .sync (clampDeltas deltas w.now), .device⟩] }
  | .patches deviceId settings adminUserId =>
      some { w with
        calls := w.calls ++ [⟨deviceId, .patch (patchRows settings adminUserId w.now), .device⟩] }
  | .loadsDevice i live =>
      w.calls[i]?.bind fun call =>
        match call.point with
        | .device =>
            if live then
              match call.writer with
              | .sync _ => some (w.advance i call .settings)
              | .patch upserts => some (w.advance i call (.upserts [] upserts))
            else some (w.drop i)
        | _ => none
  | .loadsSettings i fails =>
      w.calls[i]?.bind fun call =>
        match call.point, call.writer with
        | .settings, .sync clamped =>
            if fails then some (w.drop i)
            else
              let remote := w.settings.rowsOf call.deviceId
              some (w.advance i call (.upserts remote (toWrite clamped remote)))
        | _, _ => none
  | .upserts i fails =>
      w.calls[i]?.bind fun call =>
        match call.point with
        | .upserts remote (row :: rest) =>
            if fails then some (w.drop i) else some (w.write i call remote row rest)
        | _ => none
  | .finishes i =>
      w.calls[i]?.bind fun call =>
        match call.point with
        | .upserts _ [] => some (w.finish i call)
        | _ => none

end SettingsWorld

end ExpresSync
