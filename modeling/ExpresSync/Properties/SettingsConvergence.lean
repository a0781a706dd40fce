import ExpresSync.Foundation.Transition
import ExpresSync.Properties.SettingsMerge

/-!
# The last writer of a setting

The row of a setting is to give way to later ones only, whatever requests are in flight, so that
when they have finished it is the latest that was accepted.  Both routes overwrite what they find;
`lastWriterWins_iff` says what their statements have to find for the rule to hold.
-/

namespace ExpresSync

open Transition

variable {V : Type*}

def SettingsWriter.IsPatch (writer : SettingsWriter V) : Prop :=
  match writer with
  | .sync _ => False
  | .patch _ => True

instance (writer : SettingsWriter V) : Decidable writer.IsPatch := by
  unfold SettingsWriter.IsPatch
  cases writer <;> infer_instance

/-- A statement of an administrator's request. -/
def IsSave (w : SettingsWorld V) : SettingsAction V → Prop
  | .upserts i _ => ∃ call ∈ w.calls[i]?, call.writer.IsPatch
  | _ => False

/-- A stored row stays, or gives way to a later one, or to one that an administrator saves at the
same time. -/
def KeepsLast (w : SettingsWorld V) (a : SettingsAction V) (w' : SettingsWorld V) : Prop :=
  ∀ old ∈ w.settings.entries, ∃ new ∈ w'.settings.entries, new.id = old.id ∧
    (new = old ∨ old.row.updatedAt < new.row.updatedAt ∨
      old.row.updatedAt = new.row.updatedAt ∧ IsSave w a)

instance (w : SettingsWorld V) (a : SettingsAction V) : Decidable (IsSave w a) := by
  unfold IsSave
  cases a <;> infer_instance

instance [DecidableEq V] (w : SettingsWorld V) (a : SettingsAction V) (w' : SettingsWorld V) :
    Decidable (KeepsLast w a w') :=
  inferInstanceAs (Decidable (∀ old ∈ w.settings.entries, ∃ new ∈ w'.settings.entries, _))

/-- A row of the setting `id` is stored that is as late as `stamp`. -/
def HasAsLate (settings : SettingsTable V) (id : String × String) (stamp : ℤ) : Prop :=
  ∃ setting ∈ settings.entries, setting.id = id ∧ stamp ≤ setting.row.updatedAt

/-- What is stored has been accepted, and is the latest that has been. -/
structure IsLatest (w : SettingsWorld V) : Prop where
  accepted : ∀ setting ∈ w.settings.entries, setting ∈ w.accepted
  latest : ∀ setting ∈ w.accepted, HasAsLate w.settings setting.id setting.row.updatedAt

/-- The settings converge to the last writer. -/
def LastWriterWins (w : SettingsWorld V) (as : List (SettingsAction V)) : Prop :=
  EachStep SettingsWorld.step KeepsLast w as ∧
    Always SettingsWorld.step (fun w => w.calls = [] → IsLatest w) w as

/-- A statement of a sync request finds the row that the request has merged its changes into, or
the row it writes, or an earlier one; a statement of an administrator's request finds no row that
is later than the save. -/
def WritesInOrder (w : SettingsWorld V) : SettingsAction V → Prop
  | .upserts i false => ∀ call ∈ w.calls[i]?,
      match call.point with
      | .upserts remote (row :: _) => ∀ old ∈ w.settings.entries,
          old.id = (call.deviceId, row.key) →
            if call.writer.IsPatch then old.row.updatedAt ≤ row.updatedAt
            else old.row ∈ remote ∨ old.row = row ∨ old.row.updatedAt < row.updatedAt
      | _ => True
  | _ => True

/-! ## What a request has left to write -/

/-- What a request writes is later than what it has found; and what it has been sent for is still
to be written, or something as late is or has been. -/
structure IsMerged (settings : SettingsTable V) (call : SettingsCall V) : Prop where
  found : ∀ remote rest, call.point = .upserts remote rest → ∀ row ∈ rest, ∀ old ∈ remote,
    old.key = row.key → old.updatedAt < row.updatedAt
  covered : ∀ remote rest, call.point = .upserts remote rest → ∀ row ∈ call.writer.offered,
    (∃ written ∈ rest, written.key = row.key ∧ row.updatedAt ≤ written.updatedAt) ∨
      HasAsLate settings (call.deviceId, row.key) row.updatedAt

def AllMerged (w : SettingsWorld V) : Prop := ∀ call ∈ w.calls, IsMerged w.settings call

section Steps

open SettingsWorld

variable {w w' : SettingsWorld V} {a : SettingsAction V} {i : ℕ} {call : SettingsCall V}
  {settings settings' : SettingsTable V}

lemma keepsLast_of_eq (h : w'.settings = w.settings) : KeepsLast w a w' :=
  fun old hold => ⟨old, h ▸ hold, rfl, Or.inl rfl⟩

lemma KeepsLast.hasAsLate (h : KeepsLast w a w') {id : String × String} {stamp : ℤ}
    (hold : HasAsLate w.settings id stamp) : HasAsLate w'.settings id stamp := by
  obtain ⟨old, hmem, hid, hle⟩ := hold
  obtain ⟨new, hnew, hsame, hlate⟩ := h old hmem
  refine ⟨new, hnew, hsame.trans hid, hle.trans ?_⟩
  rcases hlate with rfl | hlt | ⟨heq, -⟩
  · exact le_rfl
  · exact hlt.le
  · exact heq.le

lemma IsMerged.mono (h : IsMerged settings call)
    (hmono : ∀ id stamp, HasAsLate settings id stamp → HasAsLate settings' id stamp) :
    IsMerged settings' call :=
  ⟨h.found, fun remote rest hpoint row hrow =>
    (h.covered remote rest hpoint row hrow).imp_right (hmono _ _)⟩

lemma isMerged_of_point (hpoint : ∀ remote rest, call.point ≠ .upserts remote rest) :
    IsMerged settings call :=
  ⟨fun remote rest h => absurd h (hpoint remote rest),
    fun remote rest h => absurd h (hpoint remote rest)⟩

/-! ## Writing a row -/

/-- A row is written over the one of its key. -/
lemma keepsLast_write {remote rest : List (SettingRow V)} {row : SettingRow V} :
    KeepsLast w a (w.write i call remote row rest) ↔
      ∀ old ∈ w.settings.entries, old.id = (call.deviceId, row.key) →
        ⟨call.deviceId, row⟩ = old ∨ old.row.updatedAt < row.updatedAt ∨
          old.row.updatedAt = row.updatedAt ∧ IsSave w a := by
  have hmem : ∀ new, new ∈ (w.write i call remote row rest).settings.entries ↔
      new = ⟨call.deviceId, row⟩ ∨ new ∈ w.settings.entries ∧ new.id ≠ (call.deviceId, row.key) :=
    fun _ => KeyedLog.mem_upsert
  constructor
  · intro h old hold hid
    obtain ⟨new, hnew, hsame, hlate⟩ := h old hold
    rcases (hmem new).mp hnew with rfl | ⟨-, hne⟩
    · exact hlate
    · exact absurd (hsame.trans hid) hne
  · intro h old hold
    by_cases hid : old.id = (call.deviceId, row.key)
    · exact ⟨_, (hmem _).mpr (Or.inl rfl), hid.symm, h old hold hid⟩
    · exact ⟨old, (hmem _).mpr (Or.inr ⟨hold, hid⟩), rfl, Or.inl rfl⟩

lemma writesInOrder_iff_write {remote rest : List (SettingRow V)} {row : SettingRow V}
    (hmerged : IsMerged w.settings call) (hcall : w.calls[i]? = some call)
    (hpoint : call.point = .upserts remote (row :: rest)) :
    WritesInOrder w (.upserts i false) ↔
      KeepsLast w (.upserts i false) (w.write i call remote row rest) := by
  rw [keepsLast_write]
  simp only [WritesInOrder, IsSave, hcall, Option.mem_some_iff, forall_eq', hpoint, exists_eq_left']
  refine forall₂_congr fun old hold => imp_congr_right fun hid => ?_
  have hdevice : old.deviceId = call.deviceId := congrArg Prod.fst hid
  have hrow : (⟨call.deviceId, row⟩ : DeviceSetting V) = old ↔ old.row = row := by
    rw [← hdevice]
    exact ⟨fun h => h ▸ rfl, fun h => h ▸ rfl⟩
  rw [hrow]
  split
  · next hpatch =>
    simp only [hpatch, and_true, le_iff_lt_or_eq]
    constructor
    · exact Or.inr
    · rintro (rfl | h)
      · exact Or.inr rfl
      · exact h
  · next hsync =>
    simp only [hsync, and_false, or_false]
    constructor
    · rintro (hfound | h)
      · have hkey : old.row.key = row.key := congrArg Prod.snd hid
        exact Or.inr (hmerged.found remote _ hpoint row List.mem_cons_self old.row hfound hkey)
      · exact h
    · exact Or.inr

lemma hasAsLate_write {remote rest : List (SettingRow V)} {row : SettingRow V} :
    HasAsLate (w.write i call remote row rest).settings (call.deviceId, row.key) row.updatedAt :=
  ⟨⟨call.deviceId, row⟩, KeyedLog.mem_upsert.mpr (Or.inl rfl), rfl, le_rfl⟩

lemma isMerged_write {remote rest : List (SettingRow V)} {row : SettingRow V}
    (hmerged : IsMerged w.settings call) (hpoint : call.point = .upserts remote (row :: rest))
    (hkeeps : KeepsLast w a (w.write i call remote row rest)) :
    IsMerged (w.write i call remote row rest).settings
      { call with point := .upserts remote rest } := by
  constructor
  · rintro _ _ ⟨⟩ other hother
    exact hmerged.found remote _ hpoint other (List.mem_cons_of_mem _ hother)
  · rintro _ _ ⟨⟩ other hother
    rcases hmerged.covered remote _ hpoint other hother with ⟨written, hwritten, hkey, hle⟩ | hlate
    · rcases List.mem_cons.mp hwritten with rfl | hrest
      · right
        have hwrite : HasAsLate (w.write i call remote written rest).settings
            (call.deviceId, written.key) written.updatedAt := hasAsLate_write
        obtain ⟨setting, hsetting, hid, hlate⟩ := hwrite
        exact ⟨setting, hsetting, hid.trans (by rw [hkey]), hle.trans hlate⟩
      · exact Or.inl ⟨written, hrest, hkey, hle⟩
    · exact Or.inr (hkeeps.hasAsLate hlate)

lemma isLatest_write {remote rest : List (SettingRow V)} {row : SettingRow V} (h : IsLatest w)
    (hkeeps : KeepsLast w a (w.write i call remote row rest)) :
    IsLatest (w.write i call remote row rest) := by
  constructor
  · intro setting hsetting
    rcases KeyedLog.mem_upsert.mp hsetting with rfl | ⟨hold, -⟩
    · exact List.mem_append_right _ List.mem_cons_self
    · exact List.mem_append_left _ (h.accepted setting hold)
  · intro setting hsetting
    rcases List.mem_append.mp hsetting with hold | hnew
    · exact hkeeps.hasAsLate (h.latest setting hold)
    · obtain rfl := List.mem_singleton.mp hnew
      exact hasAsLate_write

lemma isLatest_finish {remote : List (SettingRow V)} (h : IsLatest w)
    (hmerged : IsMerged w.settings call) (hpoint : call.point = .upserts remote []) :
    IsLatest (w.finish i call) := by
  constructor
  · exact fun setting hsetting => List.mem_append_left _ (h.accepted setting hsetting)
  · intro setting hsetting
    rcases List.mem_append.mp hsetting with hold | hnew
    · exact h.latest setting hold
    · obtain ⟨row, hrow, rfl⟩ := List.mem_map.mp hnew
      rcases hmerged.covered remote [] hpoint row hrow with ⟨_, hnil, -⟩ | hlate
      · cases hnil
      · exact hlate

/-! ## Steps -/

lemma isMerged_load (deviceId : String) (clamped : List (SettingDelta V)) :
    IsMerged settings ⟨deviceId, .sync clamped, .upserts (settings.rowsOf deviceId)
      (toWrite clamped (settings.rowsOf deviceId))⟩ := by
  constructor
  · rintro _ _ ⟨⟩ row hrow
    exact ((mem_toWrite SettingsTable.nodup_rowsOf).mp hrow).2
  · rintro _ _ ⟨⟩ row hrow
    rcases covered_toWrite SettingsTable.nodup_rowsOf hrow with ⟨old, hold, hkey, hle⟩ | hwritten
    · exact Or.inr ⟨⟨deviceId, old⟩, SettingsTable.mem_rowsOf.mp hold,
        Prod.ext rfl hkey, hle⟩
    · exact Or.inl hwritten

lemma isMerged_save (deviceId : String) (upserts : List (SettingRow V)) :
    IsMerged settings ⟨deviceId, .patch upserts, .upserts [] upserts⟩ := by
  constructor
  · rintro _ _ ⟨⟩ row - old hold
    cases hold
  · rintro _ _ ⟨⟩ row hrow
    exact Or.inl ⟨row, hrow, rfl, le_rfl⟩

/-- The conditions on a step of a run are what keeps its rows in order. -/
lemma writesInOrder_iff (hmerged : AllMerged w) (hstep : w.step a = some w') :
    WritesInOrder w a ↔ KeepsLast w a w' := by
  cases steps_of_step hstep with
  | written hcall hpoint =>
      exact writesInOrder_iff_write (hmerged _ (List.mem_of_getElem? hcall)) hcall hpoint
  | waits | syncs | patches | foundForSync | foundForPatch | loaded | finished | missing
    | notLoaded |
      notWritten => exact iff_of_true trivial (keepsLast_of_eq rfl)

/-- A step that keeps the rows in order keeps to what is to be written, and to the latest. -/
lemma converges_step (hmerged : AllMerged w) (hlatest : IsLatest w) (hkeeps : KeepsLast w a w')
    (hstep : w.step a = some w') : AllMerged w' ∧ IsLatest w' := by
  have hold : ∀ other ∈ w.calls, IsMerged w'.settings other := fun other hother =>
    (hmerged other hother).mono fun _ _ => hkeeps.hasAsLate
  have hrest : ∀ i, ∀ other ∈ w.calls.eraseIdx i, IsMerged w'.settings other :=
    fun i other hother =>
    hold other (InFlight.mem_of_mem_eraseIdx hother)
  cases steps_of_step hstep with
  | waits => exact ⟨hold, hlatest.accepted, hlatest.latest⟩
  | syncs | patches =>
      exact ⟨List.forall_mem_append.mpr ⟨hold,
        List.forall_mem_singleton.mpr (isMerged_of_point fun _ _ h => by cases h)⟩,
        hlatest.accepted, hlatest.latest⟩
  | foundForSync =>
      exact ⟨InFlight.forall_mem_putBack hold (isMerged_of_point fun _ _ h => by cases h),
        hlatest.accepted, hlatest.latest⟩
  | foundForPatch hcall hwriter =>
      refine ⟨InFlight.forall_mem_putBack hold ?_, hlatest.accepted, hlatest.latest⟩
      rw [hwriter]
      exact isMerged_save _ _
  | loaded hcall hwriter =>
      refine ⟨InFlight.forall_mem_putBack hold ?_, hlatest.accepted, hlatest.latest⟩
      rw [hwriter]
      exact isMerged_load _ _
  | written hcall hpoint =>
      have hnext := isMerged_write (hmerged _ (List.mem_of_getElem? hcall)) hpoint hkeeps
      exact ⟨InFlight.forall_mem_putBack hold hnext, isLatest_write hlatest hkeeps⟩
  | finished hcall hpoint =>
      exact ⟨hrest _, isLatest_finish hlatest (hmerged _ (List.mem_of_getElem? hcall)) hpoint⟩
  | missing | notLoaded | notWritten => exact ⟨hrest _, hlatest.accepted, hlatest.latest⟩

end Steps

lemma isLatest_start (now : ℤ) (settings : SettingsTable V) :
    IsLatest (SettingsWorld.start now settings) :=
  ⟨fun _ h => h, fun setting h => ⟨setting, h, rfl, le_rfl⟩⟩

/-- The settings converge to the last writer exactly as long as all statements find their rows in
order. -/
theorem lastWriterWins_iff (now : ℤ) (settings : SettingsTable V) (as : List (SettingsAction V)) :
    LastWriterWins (.start now settings) as ↔
      Meets SettingsWorld.step WritesInOrder (.start now settings) as := by
  have hmerged : AllMerged (SettingsWorld.start now settings) := fun call hcall => by cases hcall
  have hlatest := isLatest_start now settings
  have hkeep : ∀ (w : SettingsWorld V) a w', AllMerged w ∧ IsLatest w → WritesInOrder w a →
      w.step a = some w' → AllMerged w' ∧ IsLatest w' := fun w a w' hw hC hstep =>
    converges_step hw.1 hw.2 ((writesInOrder_iff hw.1 hstep).mp hC) hstep
  have hiff : Meets SettingsWorld.step WritesInOrder (.start now settings) as ↔
      EachStep SettingsWorld.step KeepsLast (.start now settings) as :=
    meets_iff_eachStep (A := fun _ _ => True) (fun w a w' hw _ => hkeep w a w' hw)
      (fun _ _ _ hw _ => writesInOrder_iff hw.1) ⟨hmerged, hlatest⟩
      (meets_of_forall fun _ _ => trivial)
  constructor
  · exact fun h => hiff.mpr h.1
  · intro h
    refine ⟨hiff.mp h, fun _ => hlatest, ?_⟩
    exact Meets.eachStep (Q := fun _ _ w' => w'.calls = [] → IsLatest w') hkeep
      (fun w a w' hw hC hstep _ => (hkeep w a w' hw hC hstep).2) ⟨hmerged, hlatest⟩ h

namespace Scenario

/-- A save comes between a sync request's look at the settings and its write. -/
def overtakenSync : List (SettingsAction ℕ) :=
  [.syncs "IPHONE" [⟨"device.label", 1, 1000, "device:IPHONE"⟩], .loadsDevice 0 true,
    .loadsSettings 0 false, .waits 2000, .patches "IPHONE" [("device.label", 2)] "ADMIN",
    .loadsDevice 1 true, .upserts 1 false, .upserts 0 false, .finishes 0, .finishes 0]

/-- A save comes soon after a change by a device whose clock is ahead. -/
def aheadOfSave : List (SettingsAction ℕ) :=
  [.syncs "IPHONE" [⟨"device.label", 1, 4000, "device:IPHONE"⟩], .loadsDevice 0 true,
    .loadsSettings 0 false, .upserts 0 false, .finishes 0, .waits 2000,
    .patches "IPHONE" [("device.label", 2)] "ADMIN", .loadsDevice 0 true, .upserts 0 false,
    .finishes 0]

end Scenario

open Scenario

/-- Requests that overlap, and a clock that is ahead, bring an earlier row over a later one. -/
theorem not_lastWriterWins_overtakenSync :
    ¬LastWriterWins (.start 0 .empty) overtakenSync ∧
      ¬LastWriterWins (.start 0 .empty) aheadOfSave :=
  ⟨fun h => absurd h.1 (by decide +kernel), fun h => absurd h.1 (by decide +kernel)⟩

end ExpresSync
