import ExpresSync.Foundation.KeyedLog
import ExpresSync.Model.Types

/-!
# Feature flags

`feature-flag-resolver.ts`: the value of a flag is that of its row for the device, else of that for
the user, else of the global one, else its default; only what differs from the default is sent.  The
rows are JSON of any shape, and may be there for flags that are not registered any more.
-/

namespace ExpresSync

namespace JsonValue

mutual

/-- The names in an object are different ones, in whatever is inside as well. -/
def distinctNames : JsonValue → Bool
  | .array elements => distinctNamesAll elements
  | .object fields => decide (fields.map Prod.fst).Nodup && distinctNamesFields fields
  | _ => true

def distinctNamesAll : List JsonValue → Bool
  | [] => true
  | element :: elements => element.distinctNames && distinctNamesAll elements

def distinctNamesFields : List (String × JsonValue) → Bool
  | [] => true
  | (_, value) :: fields => value.distinctNames && distinctNamesFields fields

end

end JsonValue

/-- A JSON value, as it is parsed or read from a `jsonb` column. -/
structure Json where
  value : JsonValue
  distinct : value.distinctNames = true

/-! ## `deepEqualJson` -/

mutual

def deepEqualJson : JsonValue → JsonValue → Bool
  | .null, .null => true
  | .bool a, .bool b => decide (a = b)
  | .number a, .number b => decide (a = b)
  | .string a, .string b => decide (a = b)
  | .array a, .array b => decide (a.length = b.length) && deepEqualElements a b
  | .object a, .object b => decide (a.length = b.length) && deepEqualFields a b
  | _, _ => false

/-- The loop over the indices. -/
def deepEqualElements : List JsonValue → List JsonValue → Bool
  | a :: as, b :: bs => deepEqualJson a b && deepEqualElements as bs
  | _, _ => true

/-- The loop over the names of the first object. -/
def deepEqualFields : List (String × JsonValue) → List (String × JsonValue) → Bool
  | [], _ => true
  | (k, a) :: fields, b =>
      match b.find? fun field => decide (field.1 = k) with
      | none => false
      | some field => deepEqualJson a field.2 && deepEqualFields fields b

end

/-! ## Rows and registry -/

/-- What a row says of a flag. -/
structure FlagValue where
  flagKey : String
  value : Json
  updatedAt : ℤ
  updatedBy : String

/-- A row of `user_feature_flag_values`. -/
structure UserFlag where
  userId : String
  flag : FlagValue

/-- A row of `device_feature_flag_overrides`. -/
structure DeviceFlag where
  deviceId : String
  flag : FlagValue

def UserFlag.id (row : UserFlag) : String × String := (row.userId, row.flag.flagKey)

def DeviceFlag.id (row : DeviceFlag) : String × String := (row.deviceId, row.flag.flagKey)

/-- What is read of a device. -/
structure FlagDevice where
  kind : String
  deletedAt : Option ℤ

structure FlagTables where
  devices : String → Option FlagDevice
  userFlags : KeyedLog UserFlag.id
  deviceFlags : KeyedLog DeviceFlag.id
  globalFlags : KeyedLog FlagValue.flagKey

structure FeatureFlagSpec where
  key : String
  defaultValue : Json

/-- `FEATURE_FLAGS`: a registry of flags. -/
structure FeatureFlags where
  specs : List FeatureFlagSpec
  nodup : (specs.map FeatureFlagSpec.key).Nodup

def FeatureFlags.isFeatureFlag (flags : FeatureFlags) (k : String) : Bool :=
  (flags.specs.map FeatureFlagSpec.key).contains k

/-- `FEATURE_FLAG_DEVICE_KINDS` -/
def isFeatureFlagEligibleKind (kind : String) : Bool :=
  ["phone_nfc", "tablet_nfc", "laptop_nfc"].contains kind

/-! ## `resolveFlags` -/

/-- A flag as it is sent; the time is that which the ISO text gives. -/
structure ResolvedFlagValue where
  value : Json
  updatedAt : ℤ
  updatedBy : String

/-- The rows of flags that are registered, in a `Map`. -/
def flagMap (flags : FeatureFlags) (rows : List FlagValue) : KeyedLog FlagValue.flagKey :=
  KeyedLog.empty.upsertAll (rows.filter fun row => flags.isFeatureFlag row.flagKey)

namespace FlagTables

variable (db : FlagTables)

/-- The device may have overrides of its own. -/
def readDeviceOverrides (deviceId : Option String) : Bool :=
  match deviceId with
  | none => false
  | some deviceId =>
      !deviceId.isEmpty && (db.devices deviceId).any fun dev =>
        dev.deletedAt.isNone && isFeatureFlagEligibleKind dev.kind

def loadUserFlags (userId : String) : List FlagValue :=
  (db.userFlags.entries.filter fun row => row.userId = userId).map UserFlag.flag

def loadDeviceFlags (deviceId : String) : List FlagValue :=
  (db.deviceFlags.entries.filter fun row => row.deviceId = deviceId).map DeviceFlag.flag

/-- The row that a flag's value comes from. -/
def source (flags : FeatureFlags) (userId : String) (deviceId : Option String) (key : String) :
    Option FlagValue :=
  let userMap := flagMap flags (db.loadUserFlags userId)
  let deviceMap :=
    if db.readDeviceOverrides deviceId then
      flagMap flags ((deviceId.map db.loadDeviceFlags).getD [])
    else KeyedLog.empty
  let globalMap := flagMap flags db.globalFlags.entries
  match deviceMap.get? key with
  | some row => some row
  | none =>
      match userMap.get? key with
      | some row => some row
      | none => globalMap.get? key

/-- The entry of a flag, unless it has its default. -/
def resolveFlag (flags : FeatureFlags) (userId : String) (deviceId : Option String)
    (spec : FeatureFlagSpec) : Option (String × ResolvedFlagValue) :=
  let source := db.source flags userId deviceId spec.key
  let effective := match source with
    | some row => row.value
    | none => spec.defaultValue
  if deepEqualJson effective.value spec.defaultValue.value then none
  else
    some (spec.key, match source with
      | some row => ⟨row.value, row.updatedAt, row.updatedBy⟩
      | none => ⟨spec.defaultValue, 0, "system:default"⟩)

def resolveFlags (flags : FeatureFlags) (userId : String) (deviceId : Option String) :
    List (String × ResolvedFlagValue) :=
  flags.specs.filterMap (db.resolveFlag flags userId deviceId)

end FlagTables

/-- The value of a flag for a client: one that has not been sent has its default. -/
def decodeFlag (resolved : List (String × ResolvedFlagValue)) (spec : FeatureFlagSpec) : Json :=
  match resolved.find? fun entry => decide (entry.1 = spec.key) with
  | some entry => entry.2.value
  | none => spec.defaultValue

end ExpresSync
