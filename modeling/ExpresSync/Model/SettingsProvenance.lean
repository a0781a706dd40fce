import ExpresSync.Model.DeviceRegistration
import ExpresSync.Model.DeviceSettings

/-!
# Where settings come from

`parseSettingDelta` of `settings-keys.ts` checks the entries of a sync body, `updatedBy` among
them, and the entries that an administrator's request is made into.  The world of the settings goes
on with what it accepts; next to it stands who has written each row last.

How dates are read and printed are arguments.
-/

namespace ExpresSync

/-! ## Entries of a request -/

/-- `SETTING_KEYS` -/
inductive SettingKey where
  | deviceLabel
  | notificationsScanRequest
deriving DecidableEq

namespace SettingKey

def ofString? : String → Option SettingKey
  | "device.label" => some .deviceLabel
  | "notifications.scanRequest" => some .notificationsScanRequest
  | _ => none

/-- The schema of the key's value. -/
def accepts : SettingKey → JsonValue → Bool
  | .deviceLabel, .string s => decide (1 ≤ codeUnits s ∧ codeUnits s ≤ 120)
  | .notificationsScanRequest, .bool _ => true
  | _, _ => false

end SettingKey

/-- Why the entries are rejected. -/
inductive SettingIssue where
  /-- They do not have the shape of the schema. -/
  | shape
  /-- The value of the entry does not meet the schema of its key: `[index, "value"]`. -/
  | value (index : ℕ)
  | custom (index : ℕ) (field message : String)

/-- An entry that `SETTING_DELTA_WIRE` accepts. -/
structure SettingDeltaWire where
  key : String
  value : Option JsonValue
  clientUpdatedAt : String
  updatedBy : String

/-- `.strict()`: an object that has no other fields. -/
def JsonValue.hasOnly (names : List String) : JsonValue → Bool
  | .object fields => fields.all fun field => names.contains field.1
  | _ => false

def JsonValue.toSettingDelta? (entry : JsonValue) : Option SettingDeltaWire :=
  if entry.hasOnly ["key", "value", "clientUpdatedAt", "updatedBy"] then
    match entry.get? "key", entry.get? "clientUpdatedAt", entry.get? "updatedBy" with
    | some (.string key), some (.string clientUpdatedAt), some (.string updatedBy) =>
        if 1 ≤ codeUnits updatedBy ∧ codeUnits updatedBy ≤ 120 then
          some ⟨key, entry.get? "value", clientUpdatedAt, updatedBy⟩
        else none
    | _, _, _ => none
  else none

variable (parseDate : String → Option ℤ)

/-- The entry with index `i`. -/
def parseSettingEntry (i : ℕ) (raw : SettingDeltaWire) :
    Except SettingIssue (SettingDelta JsonValue) :=
  match SettingKey.ofString? raw.key with
  | none => .error (.custom i "key" ("unknown setting key: " ++ raw.key))
  | some key =>
      match raw.value.filter key.accepts with
      | none => .error (.value i)
      | some value =>
          match parseDate raw.clientUpdatedAt with
          | none => .error (.custom i "clientUpdatedAt" "invalid timestamp")
          | some clientUpdatedAt => .ok ⟨raw.key, value, clientUpdatedAt, raw.updatedBy⟩

def parseSettingDelta (entries : List JsonValue) :
    Except SettingIssue (List (SettingDelta JsonValue)) :=
  match entries.mapM JsonValue.toSettingDelta? with
  | none => .error .shape
  | some raws => raws.zipIdx.mapM fun (raw, i) => parseSettingEntry parseDate i raw

/-- `RELAXED`: what an administrator sends for a setting. -/
def JsonValue.toRelaxed? (entry : JsonValue) : Option (String × Option JsonValue) :=
  if entry.hasOnly ["key", "value"] then
    match entry.get? "key" with
    | some (.string key) => some (key, entry.get? "value")
    | _ => none
  else none

/-- The entry that is made of a setting for `parseSettingDelta`. -/
def synthesizedEntry (stampedAt updatedBy : String) (setting : String × Option JsonValue) :
    JsonValue :=
  .object ([("key", .string setting.1)] ++ setting.2.toList.map (fun value => ("value", value)) ++
    [("clientUpdatedAt", .string stampedAt), ("updatedBy", .string updatedBy)])

/-- The settings of an administrator's request at `stampedAt`. -/
def parsePatch (toIsoString : ℤ → String) (settings : List JsonValue) (adminUserId : String)
    (stampedAt : ℤ) : Except SettingIssue (List (String × JsonValue)) :=
  match settings.mapM JsonValue.toRelaxed? with
  | none => .error .shape
  | some relaxed =>
      match parseSettingDelta parseDate ((relaxSettings relaxed).map
          (synthesizedEntry (toIsoString stampedAt) ("admin:" ++ adminUserId))) with
      | .error issue => .error issue
      | .ok validated => .ok (validated.map fun v => (v.key, v.value))

/-! ## Writers -/

/-- For whom a request has been sent. -/
inductive SettingsAuthor where
  | device (deviceId : String)
  | admin (userId : String)
deriving DecidableEq

structure ProvenanceWorld where
  world : SettingsWorld JsonValue
  /-- The authors of the requests in flight, in the same order. -/
  authors : List SettingsAuthor
  /-- Who has written the row with this primary key last. -/
  lastWriter : String × String → Option SettingsAuthor

inductive ProvenanceAction where
  | waits (ms : ℕ)
  | syncs (deviceId : String) (pendingSettings : List JsonValue)
  | patches (deviceId : String) (settings : List JsonValue) (adminUserId : String)
  | loadsDevice (i : ℕ) (live : Bool)
  | loadsSettings (i : ℕ) (fails : Bool)
  | upserts (i : ℕ) (fails : Bool)
  | finishes (i : ℕ)

namespace ProvenanceWorld

def start (now : ℤ) : ProvenanceWorld := ⟨.start now .empty, [], fun _ => none⟩

variable (w : ProvenanceWorld)

/-- A request that has been accepted. -/
def begin (author : SettingsAuthor) (a : SettingsAction JsonValue) : Option ProvenanceWorld :=
  (w.world.step a).map fun world => { w with world, authors := w.authors ++ [author] }

/-- The request `i` goes on, or ends. -/
def resume (i : ℕ) (a : SettingsAction JsonValue) : Option ProvenanceWorld :=
  (w.world.step a).map fun world =>
    { w with
      world
      authors :=
        if world.calls.length = w.world.calls.length then
          w.authors.eraseIdx i ++ w.authors[i]?.toList
        else w.authors.eraseIdx i }

/-- The primary key of the row that the request `i` writes next. -/
def nextId (i : ℕ) : Option (String × String) :=
  w.world.calls[i]?.bind fun call =>
    match call.point with
    | .upserts _ (row :: _) => some (call.deviceId, row.key)
    | _ => none

def step (toIsoString : ℤ → String) (w : ProvenanceWorld) :
    ProvenanceAction → Option ProvenanceWorld
  | .waits ms => (w.world.step (.waits ms)).map fun world => { w with world }
  | .syncs deviceId pendingSettings =>
      match parseSettingDelta parseDate pendingSettings with
      | .error _ => some w
      | .ok deltas => w.begin (.device deviceId) (.syncs deviceId deltas)
  | .patches deviceId settings adminUserId =>
      match parsePatch parseDate toIsoString settings adminUserId w.world.now with
      | .error _ => some w
      | .ok settings => w.begin (.admin adminUserId) (.patches deviceId settings adminUserId)
  | .loadsDevice i live => w.resume i (.loadsDevice i live)
  | .loadsSettings i fails => w.resume i (.loadsSettings i fails)
  | .upserts i fails =>
      (w.resume i (.upserts i fails)).map fun w' =>
        { w' with
          lastWriter := fun id =>
            if !fails ∧ w.nextId i = some id then w.authors[i]? else w.lastWriter id }
  | .finishes i => w.resume i (.finishes i)

end ProvenanceWorld

end ExpresSync
