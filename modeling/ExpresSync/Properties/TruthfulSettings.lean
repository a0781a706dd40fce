import ExpresSync.Foundation.Transition
import ExpresSync.Model.SettingsProvenance
import ExpresSync.Properties.SettingsMerge

/-!
# Who has written a setting

`updatedBy` of a row is to name who has written it: `admin:` and a user, or `device:` and the
device.  The admin route sets it; the sync route takes it from the body, so that it is true just as
long as every entry that a sync gets to write names the device (`truthful_iff`).
-/

namespace ExpresSync

open Transition

variable {parseDate : String → Option ℤ} {toIsoString : ℤ → String} {w w' : ProvenanceWorld}

/-- What `updatedBy` says of the rows. -/
structure Truthful (w : ProvenanceWorld) : Prop where
  /-- A row that names an administrator has been written last for that administrator. -/
  admins : ∀ setting ∈ w.world.settings.entries, ∀ userId,
    setting.row.updatedBy = "admin:" ++ userId →
      w.lastWriter setting.id = some (.admin userId)
  /-- A row that a device has written last names that device, whatever it has sent. -/
  devices : ∀ setting ∈ w.world.settings.entries, ∀ deviceId,
    w.lastWriter setting.id = some (.device deviceId) →
      setting.row.updatedBy = "device:" ++ deviceId

/-- The entry of its body that a sync writes next names its device. -/
def NamesDevice (w : ProvenanceWorld) : ProvenanceAction → Prop
  | .upserts i false => ∀ call ∈ w.world.calls[i]?,
      match call.writer, call.point with
      | .sync clamped, .upserts _ (row :: _) =>
          ∀ delta ∈ clamped, delta.candidate = row →
            delta.updatedBy = "device:" ++ call.deviceId
      | _, _ => True
  | _ => True

/-- The request is the author's, and writes what has been sent for it. -/
def SettingsCall.IsOf (call : SettingsCall JsonValue) (author : SettingsAuthor) : Prop :=
  (∀ remote rest, call.point = .upserts remote rest → ∀ row ∈ rest, row ∈ call.writer.offered) ∧
    match call.writer, author with
    | .sync _, .device deviceId => deviceId = call.deviceId
    | .patch upserts, .admin userId => ∀ row ∈ upserts, row.updatedBy = "admin:" ++ userId
    | _, _ => False

/-- The authors are those of the requests in flight. -/
def Authored (w : ProvenanceWorld) : Prop :=
  List.Forall₂ SettingsCall.IsOf w.world.calls w.authors

/-! ## Requests in flight -/

lemma SettingsCall.IsOf.advance {call : SettingsCall JsonValue} {author : SettingsAuthor}
    (h : call.IsOf author) {point : SettingsPoint JsonValue}
    (hrows : ∀ remote rest, point = .upserts remote rest →
      ∀ row ∈ rest, row ∈ call.writer.offered) :
    SettingsCall.IsOf { call with point := point } author :=
  ⟨hrows, h.2⟩

/-- The rows of an administrator's request name the administrator. -/
lemma updatedBy_of_mem_patchRows {settings : List (String × JsonValue)} {userId : String}
    {stampedAt : ℤ} {row : SettingRow JsonValue} (h : row ∈ patchRows settings userId stampedAt) :
    row.updatedBy = "admin:" ++ userId := by
  rcases KeyedLog.mem_upsertAll h with hnone | hrow
  · cases hnone
  · obtain ⟨setting, -, rfl⟩ := List.mem_map.mp hrow
    rfl

/-- The request that a step goes on with. -/
def SettingsAction.call? : SettingsAction JsonValue → Option ℕ
  | .loadsDevice i _ | .loadsSettings i _ | .upserts i _ | .finishes i => some i
  | .waits _ | .syncs _ _ | .patches _ _ _ => none

section

variable {world world' : SettingsWorld JsonValue} {a : SettingsAction JsonValue} {i : ℕ}

/-- A request that goes on writes only what has been sent for it. -/
lemma calls_of_step (ha : a.call? = some i) (hstep : world.step a = some world') :
    ∃ call, world.calls[i]? = some call ∧
      (world'.calls = world.calls.eraseIdx i ∨ ∃ point,
        world'.calls = world.calls.eraseIdx i ++ [{ call with point := point }] ∧
          ((∀ remote rest, call.point = .upserts remote rest →
              ∀ row ∈ rest, row ∈ call.writer.offered) →
            ∀ remote rest, point = .upserts remote rest →
              ∀ row ∈ rest, row ∈ call.writer.offered)) := by
  cases SettingsWorld.steps_of_step hstep with
  | waits | syncs | patches => cases ha
  | missing hcall | notLoaded hcall | notWritten hcall | finished hcall =>
      obtain rfl := Option.some.inj ha
      exact ⟨_, hcall, Or.inl rfl⟩
  | foundForSync hcall =>
      obtain rfl := Option.some.inj ha
      exact ⟨_, hcall, Or.inr ⟨_, rfl, fun _ _ _ h => nomatch h⟩⟩
  | foundForPatch hcall hwriter =>
      obtain rfl := Option.some.inj ha
      refine ⟨_, hcall, Or.inr ⟨_, rfl, fun _ remote rest h row hrow => ?_⟩⟩
      obtain ⟨-, rfl⟩ := SettingsPoint.upserts.inj h
      rwa [hwriter]
  | loaded hcall hwriter =>
      obtain rfl := Option.some.inj ha
      refine ⟨_, hcall, Or.inr ⟨_, rfl, fun _ remote rest h row hrow => ?_⟩⟩
      obtain ⟨-, rfl⟩ := SettingsPoint.upserts.inj h
      have hbest := ((mem_toWrite SettingsTable.nodup_rowsOf).mp hrow).1
      rw [hwriter]
      exact (mem_candidatesOf.mp (List.mem_of_mem_latest hbest)).1
  | written hcall hpoint =>
      obtain rfl := Option.some.inj ha
      refine ⟨_, hcall, Or.inr ⟨_, rfl, fun hrows remote' rest' h row' hrow' => ?_⟩⟩
      obtain ⟨-, rfl⟩ := SettingsPoint.upserts.inj h
      exact hrows _ _ hpoint row' (List.mem_cons_of_mem _ hrow')

/-- Only a request that writes a row changes the settings. -/
lemma settings_of_step (hstep : world.step a = some world') (ha : ∀ i, a ≠ .upserts i false) :
    world'.settings = world.settings := by
  cases SettingsWorld.steps_of_step hstep with
  | written => exact absurd rfl (ha _)
  | waits | syncs | patches | foundForSync | foundForPatch | loaded | finished | missing |
      notLoaded | notWritten => rfl

lemma write_of_step (hstep : world.step (.upserts i false) = some world') :
    ∃ call remote row rest, world.calls[i]? = some call ∧
      call.point = .upserts remote (row :: rest) ∧
        world'.settings = world.settings.upsert ⟨call.deviceId, row⟩ := by
  cases SettingsWorld.steps_of_step hstep with
  | written hcall hpoint => exact ⟨_, _, _, _, hcall, hpoint, rfl⟩

end

/-! ## Runs -/

lemma Authored.begin {author : SettingsAuthor} {a : SettingsAction JsonValue} (h : Authored w)
    (hcall : ∀ world', w.world.step a = some world' →
      ∃ call, world'.calls = w.world.calls ++ [call] ∧ call.IsOf author)
    (hstep : w.begin author a = some w') : Authored w' := by
  obtain ⟨world', hworld, rfl⟩ := Option.map_eq_some_iff.mp hstep
  obtain ⟨call, hcalls, hof⟩ := hcall world' hworld
  show List.Forall₂ SettingsCall.IsOf world'.calls (w.authors ++ [author])
  rw [hcalls]
  exact InFlight.forall₂_concat h hof

/-- A request that goes on keeps its author. -/
lemma Authored.resume {a : SettingsAction JsonValue} {i : ℕ} (h : Authored w)
    (ha : a.call? = some i) (hstep : w.resume i a = some w') : Authored w' := by
  obtain ⟨world', hworld, rfl⟩ := Option.map_eq_some_iff.mp hstep
  obtain ⟨call, hcall, hcalls⟩ := calls_of_step ha hworld
  obtain ⟨author, hauthor, hof⟩ := InFlight.exists_of_forall₂ h hcall
  obtain ⟨hlt, -⟩ := List.getElem?_eq_some_iff.mp hcall
  have hlength := List.length_eraseIdx_of_lt hlt
  show List.Forall₂ SettingsCall.IsOf world'.calls _
  rcases hcalls with hends | ⟨point, hgoes, hrows⟩
  · rw [hends, if_neg (by omega)]
    exact InFlight.forall₂_eraseIdx h i
  · rw [hgoes, if_pos (by rw [List.length_append, List.length_singleton]; omega), hauthor,
      Option.toList_some]
    exact InFlight.forall₂_concat (InFlight.forall₂_eraseIdx h i) (hof.advance (hrows hof.1))

lemma Authored.step {a : ProvenanceAction} (h : Authored w)
    (hstep : w.step parseDate toIsoString a = some w') : Authored w' := by
  cases a with
  | waits ms =>
      obtain rfl : { w with world := { w.world with now := w.world.now + ms } } = w' :=
        Option.some.inj hstep
      exact h
  | syncs deviceId pendingSettings =>
      simp only [ProvenanceWorld.step] at hstep
      split at hstep
      · obtain rfl := Option.some.inj hstep
        exact h
      · refine h.begin (fun world' hworld => ?_) hstep
        obtain rfl := Option.some.inj hworld
        exact ⟨_, rfl, ⟨fun _ _ hpoint => (nomatch hpoint), rfl⟩⟩
  | patches deviceId settings userId =>
      simp only [ProvenanceWorld.step] at hstep
      split at hstep
      · obtain rfl := Option.some.inj hstep
        exact h
      · refine h.begin (fun world' hworld => ?_) hstep
        obtain rfl := Option.some.inj hworld
        refine ⟨_, rfl, ⟨fun _ _ hpoint => (nomatch hpoint), fun row hrow => ?_⟩⟩
        exact updatedBy_of_mem_patchRows hrow
  | loadsDevice i live | loadsSettings i fails | finishes i => exact h.resume rfl hstep
  | upserts i fails =>
      obtain ⟨w₁, hresume, rfl⟩ := Option.map_eq_some_iff.mp hstep
      have hauthored : Authored w₁ := h.resume rfl hresume
      exact hauthored

lemma Truthful.of_eq (h : Truthful w) (hsettings : w'.world.settings = w.world.settings)
    (hwriter : w'.lastWriter = w.lastWriter) : Truthful w' := by
  constructor
  · rw [hsettings, hwriter]
    exact h.admins
  · rw [hsettings, hwriter]
    exact h.devices

lemma admin_ne_device (userId deviceId : String) : "admin:" ++ userId ≠ "device:" ++ deviceId := by
  intro h
  have hlist := congrArg String.toList h
  rw [String.toList_append, String.toList_append] at hlist
  exact absurd (List.cons.inj hlist).1 (by decide)

/-- What is written for an author names an administrator only for that one, and the device if it is
one. -/
def SettingsAuthor.Signs (author : SettingsAuthor) (updatedBy : String) : Prop :=
  (∀ userId, updatedBy = "admin:" ++ userId → author = .admin userId) ∧
    ∀ deviceId, author = .device deviceId → updatedBy = "device:" ++ deviceId

lemma signs_device_iff {deviceId updatedBy : String} :
    (SettingsAuthor.device deviceId).Signs updatedBy ↔ updatedBy = "device:" ++ deviceId := by
  constructor
  · exact fun h => h.2 deviceId rfl
  · rintro rfl
    refine ⟨fun userId hadmin => absurd hadmin.symm (admin_ne_device _ _), fun other hother => ?_⟩
    rw [SettingsAuthor.device.inj hother]

lemma signs_admin (userId : String) :
    (SettingsAuthor.admin userId).Signs ("admin:" ++ userId) := by
  refine ⟨fun other hother => ?_, fun deviceId h => nomatch h⟩
  rw [String.append_right_inj] at hother
  rw [hother]

/-- A row that is written is truthful when it names its author. -/
lemma truthful_write (setting : DeviceSetting JsonValue) (author : SettingsAuthor)
    (h : Truthful w) (hsettings : w'.world.settings = w.world.settings.upsert setting)
    (hwriter : ∀ id, w'.lastWriter id =
      if id = setting.id then some author else w.lastWriter id) :
    Truthful w' ↔ author.Signs setting.row.updatedBy := by
  have hself : w'.lastWriter setting.id = some author := by rw [hwriter, if_pos rfl]
  have hmem : setting ∈ w'.world.settings.entries := by
    rw [hsettings, KeyedLog.mem_upsert]
    exact Or.inl rfl
  have hold : ∀ other ∈ w'.world.settings.entries, other = setting ∨
      other ∈ w.world.settings.entries ∧ w'.lastWriter other.id = w.lastWriter other.id := by
    intro other hother
    rw [hsettings, KeyedLog.mem_upsert] at hother
    rcases hother with rfl | ⟨hmem', hne⟩
    · exact Or.inl rfl
    · exact Or.inr ⟨hmem', by rw [hwriter, if_neg hne]⟩
  constructor
  · intro h'
    refine ⟨fun userId hupdated => ?_, fun deviceId hauthor => ?_⟩
    · exact Option.some.inj (hself.symm.trans (h'.admins setting hmem userId hupdated))
    · exact h'.devices setting hmem deviceId (by rw [hself, hauthor])
  · rintro ⟨hadmins, hdevices⟩
    constructor
    · intro other hother userId hupdated
      rcases hold other hother with rfl | ⟨hmem', hsame⟩
      · rw [hself, hadmins userId hupdated]
      · rw [hsame]
        exact h.admins other hmem' userId hupdated
    · intro other hother deviceId hauthor
      rcases hold other hother with rfl | ⟨hmem', hsame⟩
      · exact hdevices deviceId (Option.some.inj (hself.symm.trans hauthor))
      · exact h.devices other hmem' deviceId (hsame.symm.trans hauthor)

/-- The entry that is written is one of the body: it names the device just when the row does. -/
lemma namesDevice_iff_signs {i : ℕ} {call : SettingsCall JsonValue} {author : SettingsAuthor}
    {remote rest : List (SettingRow JsonValue)} {row : SettingRow JsonValue}
    (hcall : w.world.calls[i]? = some call) (hpoint : call.point = .upserts remote (row :: rest))
    (hof : call.IsOf author) : NamesDevice w (.upserts i false) ↔ author.Signs row.updatedBy := by
  obtain ⟨hrows, hof⟩ := hof
  have hoffered : row ∈ call.writer.offered := hrows remote _ hpoint row List.mem_cons_self
  simp only [NamesDevice, hcall, Option.mem_some_iff, forall_eq']
  cases hwriter : call.writer with
  | sync clamped =>
      rw [hwriter] at hoffered hof
      cases author with
      | admin userId => exact hof.elim
      | device deviceId =>
          obtain rfl : deviceId = call.deviceId := hof
          obtain ⟨delta, hdelta, rfl⟩ := List.mem_map.mp hoffered
          rw [hpoint, signs_device_iff]
          constructor
          · exact fun hnames => hnames delta hdelta rfl
          · exact fun hupdated other _ hsame =>
              (congrArg SettingRow.updatedBy hsame).trans hupdated
  | patch upserts =>
      rw [hwriter] at hoffered hof
      cases author with
      | device deviceId => exact hof.elim
      | admin userId =>
          have hupdated : row.updatedBy = "admin:" ++ userId := hof row hoffered
          exact iff_of_true trivial (hupdated ▸ signs_admin userId)

/-- Just when the entry that is written names its device, what the rows say stays true. -/
lemma namesDevice_iff {a : ProvenanceAction} (hauthored : Authored w) (h : Truthful w)
    (hstep : w.step parseDate toIsoString a = some w') : NamesDevice w a ↔ Truthful w' := by
  have hquiet : ∀ {b : SettingsAction JsonValue} {i : ℕ}, w.resume i b = some w' →
      (∀ j, b ≠ .upserts j false) → Truthful w' := by
    intro b i hresume hb
    obtain ⟨world', hworld, rfl⟩ := Option.map_eq_some_iff.mp hresume
    exact h.of_eq (settings_of_step hworld hb) rfl
  have hbegins : ∀ {author : SettingsAuthor} {b : SettingsAction JsonValue},
      w.begin author b = some w' → (∀ j, b ≠ .upserts j false) → Truthful w' := by
    intro author b hbegin hb
    obtain ⟨world', hworld, rfl⟩ := Option.map_eq_some_iff.mp hbegin
    exact h.of_eq (settings_of_step hworld hb) rfl
  cases a with
  | waits ms =>
      obtain rfl : { w with world := { w.world with now := w.world.now + ms } } = w' :=
        Option.some.inj hstep
      exact iff_of_true trivial (h.of_eq rfl rfl)
  | syncs deviceId pendingSettings =>
      refine iff_of_true trivial ?_
      simp only [ProvenanceWorld.step] at hstep
      split at hstep
      · obtain rfl := Option.some.inj hstep
        exact h
      · exact hbegins hstep fun j => nofun
  | patches deviceId settings userId =>
      refine iff_of_true trivial ?_
      simp only [ProvenanceWorld.step] at hstep
      split at hstep
      · obtain rfl := Option.some.inj hstep
        exact h
      · exact hbegins hstep fun j => nofun
  | loadsDevice i live => exact iff_of_true trivial (hquiet hstep fun j => nofun)
  | loadsSettings i fails => exact iff_of_true trivial (hquiet hstep fun j => nofun)
  | finishes i => exact iff_of_true trivial (hquiet hstep fun j => nofun)
  | upserts i fails =>
      obtain ⟨w₁, hresume, rfl⟩ := Option.map_eq_some_iff.mp hstep
      obtain ⟨world', hworld, rfl⟩ := Option.map_eq_some_iff.mp hresume
      cases fails with
      | true =>
          refine iff_of_true trivial (h.of_eq (settings_of_step hworld fun j => nofun) ?_)
          funext id
          simp only [Bool.not_true, Bool.false_eq_true, false_and, if_false]
      | false =>
          obtain ⟨call, remote, row, rest, hcall, hpoint, hsettings⟩ := write_of_step hworld
          obtain ⟨author, hauthor, hof⟩ := InFlight.exists_of_forall₂ hauthored hcall
          have hnext : w.nextId i = some (call.deviceId, row.key) := by
            rw [ProvenanceWorld.nextId, hcall, Option.bind_some, hpoint]
          refine (namesDevice_iff_signs hcall hpoint hof).trans
            (truthful_write ⟨call.deviceId, row⟩ author h hsettings fun id => ?_).symm
          simp only [Bool.not_false, true_and, hnext, hauthor, Option.some.injEq]
          exact if_congr eq_comm rfl rfl

/-- In every run of sync bodies and of administrators' saves, from when there are no settings:
every row tells the truth in every state, just when every entry that a sync gets to write names the
device it comes from. -/
theorem truthful_iff (parseDate : String → Option ℤ) (toIsoString : ℤ → String) (now : ℤ)
    (as : List ProvenanceAction) :
    Always (ProvenanceWorld.step parseDate toIsoString) Truthful (.start now) as ↔
      Meets (ProvenanceWorld.step parseDate toIsoString) NamesDevice (.start now) as := by
  have hinitial : Truthful (.start now) := by
    constructor <;> exact fun setting hsetting => nomatch hsetting
  have hauthored : Authored (.start now) := List.Forall₂.nil
  rw [Always, and_iff_right hinitial]
  refine (meets_iff_eachStep (I := fun w => Authored w ∧ Truthful w) (A := fun _ _ => True)
    ?_ ?_ ⟨hauthored, hinitial⟩ (meets_of_forall fun _ _ => trivial)).symm
  · rintro s a s' ⟨hauthored, htruthful⟩ - hnames hstep
    exact ⟨hauthored.step hstep, (namesDevice_iff hauthored htruthful hstep).mp hnames⟩
  · rintro s a s' ⟨hauthored, htruthful⟩ - hstep
    exact namesDevice_iff hauthored htruthful hstep

/-! ## A device that signs for an administrator -/

/-- The body of a sync, with one entry. -/
def forgedEntry : JsonValue :=
  .object [("key", .string "device.label"), ("value", .string "Front desk"),
    ("clientUpdatedAt", .string "1970-01-01T00:00:01.000Z"),
    ("updatedBy", .string "admin:9f8d2c61")]

def forgedSync : List ProvenanceAction :=
  [.syncs "0b9d3a52" [forgedEntry], .loadsDevice 0 true, .loadsSettings 0 false, .upserts 0 false]

theorem not_truthful_forgedSync :
    ¬Always (ProvenanceWorld.step (fun _ => some 1000) fun _ => "1970-01-01T00:00:01.000Z")
      Truthful (.start 1000) forgedSync := by
  intro h
  have hforged : (run (ProvenanceWorld.step (fun _ => some 1000)
      fun _ => "1970-01-01T00:00:01.000Z") (.start 1000) forgedSync).any (fun w =>
        w.world.settings.entries.any fun setting =>
          decide (setting.row.updatedBy = "admin:" ++ "9f8d2c61") &&
            decide (w.lastWriter setting.id = some (.device "0b9d3a52"))) = true := by
    decide +kernel
  obtain ⟨w, hrun, hany⟩ := (Option.any_eq_true _ _).mp hforged
  obtain ⟨setting, hmem, hboth⟩ := List.any_eq_true.mp hany
  obtain ⟨hupdated, hwriter⟩ := (Bool.and_eq_true _ _).mp hboth
  have hadmin := (h.of_run hrun).admins setting hmem _ (of_decide_eq_true hupdated)
  cases (of_decide_eq_true hwriter).symm.trans hadmin

end ExpresSync
