import ExpresSync.Foundation.SerialTable
import ExpresSync.Model.ChargingProfiles

/-!
# Edits of a charging profile

Calls of `upsertProfile` (`charging-profile.service.ts`) for one subscription, each at one of its
`await`s: the read of the row, its write, the mirror in Lago and the stamp of what has come of that.
A request of the mirror may reach Lago more than once, as `request` repeats it, and late, as it is
aborted after a time.  No row is ever deleted.
-/

namespace ExpresSync

deriving instance DecidableEq for ChargingWindow, ChargingProfile

/-! ## Presets -/

/-- `PresetShape`, without its texts. -/
structure PresetShape where
  preset : ChargingProfilePreset
  windows : List ChargingWindow
  maxWGlobal : Option ℕ
  maxWGlobal_pos : ∀ w ∈ maxWGlobal, 0 < w
deriving DecidableEq

lemma pos_of_mem_none : ∀ w ∈ (none : Option ℕ), 0 < w := nofun

lemma pos_of_mem_7000 : ∀ w ∈ some 7000, 0 < w := by decide

lemma pos_of_mem_11000 : ∀ w ∈ some 11000, 0 < w := by decide

/-- A window without a limit of its own. -/
def ChargingWindow.onDay (dayOfWeek : Fin 7) (startMin endMin : ℕ) (hlt : startMin < endMin)
    (hle : endMin ≤ 1440) : ChargingWindow :=
  ⟨dayOfWeek, startMin, endMin, none, Nat.le_of_lt_succ dayOfWeek.isLt, hlt, hle, pos_of_mem_none⟩

def buildOffpeakWindows : List ChargingWindow :=
  ([1, 2, 3, 4, 5] : List (Fin 7)).flatMap (fun dow =>
    [.onDay dow 0 (6 * 60) (by decide) (by decide),
      .onDay dow (22 * 60) (24 * 60) (by decide) (by decide)]) ++
  [.onDay 0 0 (24 * 60) (by decide) (by decide), .onDay 6 0 (24 * 60) (by decide) (by decide)]

def buildPreset (preset : ChargingProfilePreset) : PresetShape :=
  match preset with
  | .offpeak => ⟨.offpeak, buildOffpeakWindows, none, pos_of_mem_none⟩
  | .cap7kw => ⟨.cap7kw, [], some 7000, pos_of_mem_7000⟩
  | .cap11kw => ⟨.cap11kw, [], some 11000, pos_of_mem_11000⟩
  | preset => ⟨preset, [], none, pos_of_mem_none⟩

/-- What is set for a subscription. -/
def ChargingProfile.shape (profile : ChargingProfile) : PresetShape :=
  ⟨profile.preset, profile.windows, profile.maxWGlobal, profile.maxWGlobal_pos⟩

def PresetShape.numbered (shape : PresetShape) (ocppChargingProfileId : ℕ) : ChargingProfile :=
  ⟨shape.preset, shape.windows, shape.maxWGlobal, ocppChargingProfileId, shape.maxWGlobal_pos⟩

/-! ## Rows -/

/-- A row of `charging_profiles`, with what an edit writes. -/
structure ProfileRow extends ChargingProfile where
  id : ℕ
  applyToActiveSessions : Bool
  createdByUserId : Option String
  updatedByUserId : Option String
  updatedAt : ℕ
  lagoSyncedAt : Option ℕ
  lagoSyncError : Option String
deriving DecidableEq

abbrev ProfileTable := SerialTable ProfileRow.id

/-- `UpsertProfileInput`, with the limit that the route accepts. -/
structure UpsertProfileInput where
  preset : ChargingProfilePreset
  windows : Option (List ChargingWindow)
  maxWGlobal : Option ℕ
  applyNow : Bool
  userId : Option String
  maxWGlobal_pos : ∀ w ∈ maxWGlobal, 0 < w

namespace UpsertProfileInput

variable (input : UpsertProfileInput)

def shape : PresetShape :=
  if input.preset = .custom then
    ⟨.custom, input.windows.getD [], input.maxWGlobal, input.maxWGlobal_pos⟩
  else buildPreset input.preset

/-- The row of the `INSERT`. -/
def inserted (now id : ℕ) : ProfileRow where
  toChargingProfile := input.shape.numbered 1
  id := id
  applyToActiveSessions := input.applyNow
  createdByUserId := input.userId
  updatedByUserId := input.userId
  updatedAt := now
  lagoSyncedAt := none
  lagoSyncError := none

/-- What the `UPDATE` makes of the stored row, with the number after that of the row that has been
read. -/
def updated (existing : ProfileRow) (now : ℕ) (stored : ProfileRow) : ProfileRow :=
  { stored with
    toChargingProfile := input.shape.numbered (existing.ocppChargingProfileId + 1)
    applyToActiveSessions := input.applyNow
    updatedByUserId := input.userId
    updatedAt := now }

end UpsertProfileInput

/-- The `charging_profile` of the metadata. -/
structure LagoChargingProfile where
  shape : PresetShape
  ocppChargingProfileId : ℕ
  updatedAt : ℕ

/-- The payload of `mirrorToLago`. -/
def ProfileRow.mirrored (row : ProfileRow) : LagoChargingProfile :=
  ⟨row.shape, row.ocppChargingProfileId, row.updatedAt⟩

namespace ProfileRow

/-- The two stamps: a mirror without an error, or with one. -/
def stamped (row : ProfileRow) (now : ℕ) : Option String → ProfileRow
  | none => { row with lagoSyncedAt := some now, lagoSyncError := none }
  | some error => { row with lagoSyncError := some error }

lemma id_stamped (row : ProfileRow) (now : ℕ) (error : Option String) :
    (row.stamped now error).id = row.id := by
  cases error <;> rfl

end ProfileRow

/-! ## Calls -/

/-- What a call awaits. -/
inductive EditPoint where
  | reading
  | writing (existing : Option ProfileRow) (now : ℕ)
  | mirroring
  /-- The stamp of the mirror's outcome. -/
  | stamping (mirrorError : Option String)
  /-- `lagoMirrorError`; the mirror is ok without one. -/
  | returned (mirrorError : Option String)
  | thrown
deriving DecidableEq

/-- A call of `upsertProfile`. -/
structure ProfileEdit where
  input : UpsertProfileInput
  point : EditPoint
  /-- `row`, once it has been written. -/
  row : Option ProfileRow

/-- The rows of a subscription, what Lago has of them, and the calls. -/
structure ProfileWorld where
  table : ProfileTable
  lago : Option LagoChargingProfile
  edits : List ProfileEdit
  /-- The calls that have written the row, in that order. -/
  writes : List ℕ
  /-- The calls whose mirror has reached Lago. -/
  landings : List ℕ

inductive ProfileAction where
  | calls (input : UpsertProfileInput)
  | reads (i : ℕ) (ok : Bool) (now : ℕ)
  | writes (i : ℕ) (ok : Bool)
  /-- A request of the mirror reaches Lago. -/
  | lands (i : ℕ)
  /-- The mirror ends. -/
  | answers (i : ℕ) (error : Option String)
  /-- The statement of a stamp, which may fail with an error of its own. -/
  | stamps (i : ℕ) (now : ℕ) (error : Option String)

namespace ProfileWorld

def initial : ProfileWorld := ⟨.empty, none, [], [], []⟩

variable (w : ProfileWorld)

/-- The row of the subscription. -/
def getProfile : Option ProfileRow := w.table.rows.head?

def setEdit (i : ℕ) (e : ProfileEdit) : ProfileWorld := { w with edits := w.edits.set i e }

/-- The statement of `i` has put the row there. -/
def wrote (i : ℕ) (e : ProfileEdit) (table : ProfileTable) (row : ProfileRow) : ProfileWorld :=
  { w with
    table := table
    edits := w.edits.set i { e with point := .mirroring, row := some row }
    writes := w.writes ++ [i] }

/-- The `UPDATE`, or the `INSERT`, which the unique subscription lets through once. -/
def write (i : ℕ) (e : ProfileEdit) (existing : Option ProfileRow) (now : ℕ) : ProfileWorld :=
  match existing with
  | some existing =>
      match w.table.get? existing.id with
      | some stored =>
          w.wrote i e
            (w.table.update (fun row => decide (row.id = existing.id))
              (e.input.updated existing now) fun _ => rfl)
            (e.input.updated existing now stored)
      | none => w.setEdit i { e with point := .thrown }
  | none =>
      if w.table.rows.isEmpty then
        w.wrote i e (w.table.insert (e.input.inserted now) fun _ => rfl)
          (e.input.inserted now w.table.next)
      else w.setEdit i { e with point := .thrown }

/-- A stamp has been written. -/
def stamp (i : ℕ) (e : ProfileEdit) (row : ProfileRow) (now : ℕ) (mirrorError : Option String) :
    ProfileWorld :=
  { w with
    table := w.table.update (fun r => decide (r.id = row.id)) (fun r => r.stamped now mirrorError)
      fun r => r.id_stamped now mirrorError
    edits := w.edits.set i
      { e with point := .returned mirrorError, row := some (row.stamped now mirrorError) } }

def step : ProfileAction → Option ProfileWorld
  | .calls input => some { w with edits := w.edits ++ [⟨input, .reading, none⟩] }
  | .reads i ok now =>
      (w.edits[i]?).bind fun e =>
        match e.point with
        | .reading =>
            some (w.setEdit i
              { e with point := if ok then .writing w.getProfile now else .thrown })
        | _ => none
  | .writes i ok =>
      (w.edits[i]?).bind fun e =>
        match e.point with
        | .writing existing now =>
            if ok then some (w.write i e existing now)
            else some (w.setEdit i { e with point := .thrown })
        | _ => none
  | .lands i =>
      (w.edits[i]?).bind fun e =>
        e.row.map fun row => { w with lago := some row.mirrored, landings := w.landings ++ [i] }
  | .answers i error =>
      (w.edits[i]?).bind fun e =>
        match e.point with
        | .mirroring =>
            if error = none ∧ i ∉ w.landings then none
            else some (w.setEdit i { e with point := .stamping error })
        | _ => none
  | .stamps i now error =>
      (w.edits[i]?).bind fun e =>
        match e.point, e.row with
        | .stamping mirrorError, some row =>
            match error, mirrorError with
            | none, _ => some (w.stamp i e row now mirrorError)
            -- the `try` holds the first stamp too
            | some error, none => some (w.setEdit i { e with point := .stamping (some error) })
            | some _, some _ => some (w.setEdit i { e with point := .thrown })
        | _, _ => none

end ProfileWorld

end ExpresSync
