import ExpresSync.Foundation.Transition
import ExpresSync.Model.DeviceRegistration

/-!
# Who approved a device's capabilities

A code keeps what was approved when it was minted, and a claim returns it; the row of the device
gets what the body asks for instead.  Every capability is approved exactly as far as the bodies keep
to their codes (`DeviceWorld.all_approved_iff_within_codes`).
-/

namespace ExpresSync

open Transition

/-! ## Sets -/

lemma legalCapabilities_iff {caps : List DeviceCapability} :
    LegalCapabilities caps ↔ caps ≠ [] ∧ caps.Nodup ∧ meetsDeviceChecks caps := by
  unfold LegalCapabilities validateCapabilitySet meetsDeviceChecks
  split
  · next hempty => simp [hempty, throw, throwThe, MonadExceptOf.throw]
  · next hempty =>
      split
      · next hdup => simp [hdup, throw, throwThe, MonadExceptOf.throw]
      · next hdup =>
          split
          · next hcharger => simp [hcharger, throw, throwThe, MonadExceptOf.throw]
          · next hcharger =>
              split
              · next hkiosk => simp [hkiosk, throw, throwThe, MonadExceptOf.throw]
              · next hkiosk =>
                  refine iff_of_true rfl ⟨hempty, not_not.mp hdup, hcharger, fun hin heq => ?_⟩
                  exact hkiosk ⟨hin, heq⟩

/-- Of a row that the table takes, a set is legal if it names nothing twice. -/
lemma RegisterBody.legal_iff_nodup (body : RegisterBody)
    (hchecks : meetsDeviceChecks body.requestedCapabilities) :
    LegalCapabilities body.requestedCapabilities ↔ body.requestedCapabilities.Nodup := by
  rw [legalCapabilities_iff]
  exact ⟨fun h => h.2.1, fun h => ⟨body.nonempty, h, hchecks⟩⟩

/-! ## Conditions -/

/-- A body whose set the table takes names nothing twice, and nothing beyond its code. -/
def RegistrationCall.KeepsToCode (call : RegistrationCall) : Prop :=
  match call.point with
  | .inserting _ claim => meetsDeviceChecks call.body.requestedCapabilities →
      call.body.requestedCapabilities.Nodup ∧
        call.body.requestedCapabilities ⊆ claim.requestedCapabilities
  | _ => True

instance (call : RegistrationCall) : Decidable call.KeepsToCode := by
  unfold RegistrationCall.KeepsToCode
  split <;> infer_instance

/-- The claim of a call is of a code in the table. -/
def RegistrationCall.FromCode (codes : List RegistrationCode) (call : RegistrationCall) : Prop :=
  ∀ codeId claim, call.point = .consuming codeId claim ∨ call.point = .inserting codeId claim →
    ∃ code ∈ codes, code.id = codeId ∧
      code.requestedCapabilities = claim.requestedCapabilities

/-- What has been approved stays. -/
def CodesKept (codes codes' : List RegistrationCode) : Prop :=
  ∀ code ∈ codes, ∃ code' ∈ codes', code'.id = code.id ∧
    code'.requestedCapabilities = code.requestedCapabilities

lemma CodesKept.refl (codes : List RegistrationCode) : CodesKept codes codes :=
  fun code hcode => ⟨code, hcode, rfl, rfl⟩

lemma RegistrationCall.FromCode.mono {codes codes' : List RegistrationCode}
    {call : RegistrationCall}
    (h : call.FromCode codes) (hkept : CodesKept codes codes') : call.FromCode codes' := by
  intro codeId claim hpoint
  obtain ⟨code, hcode, hid, hcaps⟩ := h codeId claim hpoint
  obtain ⟨code', hcode', hid', hcaps'⟩ := hkept code hcode
  exact ⟨code', hcode', hid'.trans hid, hcaps'.trans hcaps⟩

namespace DeviceWorld

/-- A device is inserted with what its code allows. -/
def WithinCode (w : DeviceWorld) : DeviceAction → Prop
  | .insertsDevice i fails => ∀ call ∈ w.registrations[i]?, fails = false → call.KeepsToCode
  | _ => True

instance (w : DeviceWorld) (a : DeviceAction) : Decidable (w.WithinCode a) := by
  unfold WithinCode
  cases a with
  | insertsDevice i fails =>
      refine @Option.decidableForallMem _ _ (fun call => ?_) _
      infer_instance
  | _ => infer_instance

/-- Every claim is of a code, nothing is saved for a device to come, and all is approved. -/
structure Sound (w : DeviceWorld) : Prop where
  registrations : ∀ call ∈ w.registrations, call.FromCode w.codes.rows
  saved : ∀ set ∈ w.saved, set.1 < w.devices.next
  approved : w.AllApproved

section

variable {digests : Digests} {w w' : DeviceWorld} {device : DeviceRow} {i : ℕ} {body : RegisterBody}

/-! ## Frames -/

lemma Approved.mono (h : w.Approved device) (hcodes : CodesKept w.codes.rows w'.codes.rows)
    (hsaved : w.saved ⊆ w'.saved) : w'.Approved device where
  legal := h.legal
  within := by
    rcases h.within with ⟨code, hcode, hid, hsub⟩ | ⟨set, hset, hid, hsub⟩
    · obtain ⟨code', hcode', hid', hcaps⟩ := hcodes code hcode
      exact Or.inl ⟨code', hcode', hid'.trans hid, hcaps ▸ hsub⟩
    · exact Or.inr ⟨set, hsaved hset, hid, hsub⟩

/-- Devices that are there, with what they have, stay approved. -/
lemma AllApproved.of_kept (h : w.AllApproved)
    (hdevices : ∀ device ∈ w'.devices.rows, ∃ old ∈ w.devices.rows, old.id = device.id ∧
      old.capabilities = device.capabilities ∧ old.codeId = device.codeId)
    (hcodes : CodesKept w.codes.rows w'.codes.rows) (hsaved : w.saved ⊆ w'.saved) :
    w'.AllApproved := by
  intro device hdevice
  obtain ⟨old, hold, hid, hcaps, hcodeId⟩ := hdevices device hdevice
  obtain ⟨hlegal, hwithin⟩ := (h old hold).mono hcodes hsaved
  refine ⟨hcaps ▸ hlegal, ?_⟩
  rw [hid, hcaps, hcodeId] at hwithin
  exact hwithin

lemma devices_kept_of_subset {devices devices' : List DeviceRow} (hsub : devices' ⊆ devices) :
    ∀ device ∈ devices', ∃ old ∈ devices, old.id = device.id ∧
      old.capabilities = device.capabilities ∧ old.codeId = device.codeId :=
  fun device hdevice => ⟨device, hsub hdevice, rfl, rfl, rfl⟩

lemma AllApproved.of_same (h : w.AllApproved) (hdevices : w'.devices = w.devices)
    (hcodes : CodesKept w.codes.rows w'.codes.rows) (hsaved : w'.saved = w.saved) :
    w'.AllApproved :=
  h.of_kept (devices_kept_of_subset (by rw [hdevices]; exact List.Subset.refl _)) hcodes
    (by rw [hsaved]; exact List.Subset.refl _)

/-! ## Steps -/

lemma fromCode_of_point {codes : List RegistrationCode} {call : RegistrationCall}
    (h : call.point = .claiming ∨ ∃ deviceId, call.point = .issuing deviceId) :
    call.FromCode codes := by
  rintro codeId claim (hpoint | hpoint) <;> rcases h with h | ⟨deviceId, h⟩ <;>
    · rw [hpoint] at h
      cases h

lemma Sound.answer (h : w.Sound) (i : ℕ) (answer : DeviceAnswer) : (w.answer i answer).Sound where
  registrations call hcall := h.registrations call (InFlight.mem_of_mem_eraseIdx hcall)
  saved := h.saved
  approved := h.approved.of_same rfl (CodesKept.refl _) rfl

lemma Sound.advance (h : w.Sound) (i : ℕ) {point : RegistrationPoint}
    (hcall : (⟨body, point⟩ : RegistrationCall).FromCode w.codes.rows) :
    (w.advance i body point).Sound where
  registrations := InFlight.forall_mem_putBack h.registrations hcall
  saved := h.saved
  approved := h.approved.of_same rfl (CodesKept.refl _) rfl

lemma Sound.mint (h : w.Sound) (userId codeChallenge label : String)
    (requestedCapabilities : List DeviceCapability) (rawCode : String) :
    (w.mint digests userId codeChallenge label requestedCapabilities rawCode).Sound := by
  have hkept : CodesKept w.codes.rows
      (w.mint digests userId codeChallenge label requestedCapabilities rawCode).codes.rows :=
    fun code hcode => ⟨code, SerialTable.mem_insert.mpr (Or.inl hcode), rfl, rfl⟩
  exact ⟨fun call hcall => (h.registrations call hcall).mono hkept, h.saved,
    h.approved.of_same rfl hkept rfl⟩

lemma Sound.lookUp (h : w.Sound) {found : Option ℕ}
    (hstep : w.lookUp digests i body found = some w') :
    w'.Sound := by
  cases found with
  | none =>
      simp only [DeviceWorld.lookUp, Option.ite_none_right_eq_some] at hstep
      obtain rfl := Option.some.inj hstep.2
      exact h.answer i _
  | some id =>
      obtain ⟨code, hcode, hstep⟩ := Option.bind_eq_some_iff.mp hstep
      split at hstep
      · split at hstep
        · obtain rfl := Option.some.inj hstep
          refine h.advance i ?_
          intro codeId claim hpoint
          have hmem : code ∈ w.codes.rows := List.mem_of_find?_eq_some hcode
          have hid : code.id = id := by simpa using List.find?_some hcode
          rcases hpoint with hpoint | hpoint
          · obtain ⟨rfl, rfl⟩ := RegistrationPoint.consuming.inj hpoint
            exact ⟨code, hmem, hid, rfl⟩
          · cases hpoint
        · obtain rfl := Option.some.inj hstep
          exact h.answer i _
      · cases hstep

lemma Sound.consume (h : w.Sound) {codeId : ℕ} {claim : ClaimedCodePayload}
    (hcall : w.registrations[i]? = some ⟨body, .consuming codeId claim⟩) (fails : Bool) :
    (w.consume i body codeId claim fails).Sound := by
  unfold DeviceWorld.consume
  dsimp only
  split
  · have hkept : CodesKept w.codes.rows (w.codes.update
        (fun code => decide (code.id = codeId ∧ w.now < code.expiresAt ∧ code.status = .armed))
        (fun code => { code with status := .consumed }) fun _ => rfl).rows := by
      intro code hcode
      refine ⟨_, SerialTable.mem_update.mpr ⟨code, hcode, rfl⟩, ?_, ?_⟩ <;> split <;> rfl
    have hfrom : (⟨body, .inserting codeId claim⟩ : RegistrationCall).FromCode w.codes.rows := by
      intro codeId' claim' hpoint
      rcases hpoint with hpoint | hpoint
      · cases hpoint
      · obtain ⟨rfl, rfl⟩ := RegistrationPoint.inserting.inj hpoint
        exact h.registrations _ (List.mem_of_getElem? hcall) codeId claim (Or.inl rfl)
    have hadvanced := h.advance i hfrom
    exact ⟨fun call hcall => (hadvanced.registrations call hcall).mono hkept, h.saved,
      h.approved.of_same rfl hkept rfl⟩
  · exact h.answer i _

lemma Sound.insertToken (h : w.Sound) (i : ℕ) (body : RegisterBody) (deviceId : ℕ)
    (fails rollbackFails : Bool) : (w.insertToken i body deviceId fails rollbackFails).Sound := by
  unfold DeviceWorld.insertToken
  split
  · have hanswered := h.answer i (.refused 500 "internal")
    cases rollbackFails with
    | true => exact hanswered
    | false =>
        refine ⟨hanswered.registrations, h.saved, ?_⟩
        refine h.approved.of_kept (devices_kept_of_subset ?_) (CodesKept.refl _)
          (List.Subset.refl _)
        exact fun device hdevice => (SerialTable.mem_delete.mp hdevice).1
  · exact h.answer i _

/-- What an admin's request changes apart from the devices does not matter. -/
lemma Sound.of_patches (h : w.Sound) (patches : List PatchCall) (answers : List DeviceAnswer) :
    ({ w with patches := patches, answers := answers } : DeviceWorld).Sound :=
  ⟨h.registrations, h.saved, h.approved.of_same rfl (CodesKept.refl _) rfl⟩

lemma Sound.load (h : w.Sound) (i : ℕ) (call : PatchCall) (ownerIsAdmin fails : Bool) :
    (w.load i call ownerIsAdmin fails).Sound := by
  have hanswered : ∀ answer, (w.answerPatch i answer).Sound := fun _ => h.of_patches _ _
  unfold DeviceWorld.load
  split
  · exact hanswered _
  · split
    · exact hanswered _
    · split
      · exact hanswered _
      · split
        · exact hanswered _
        · split
          · exact hanswered _
          · split
            · exact h.of_patches _ w.answers
            · exact hanswered _

/-- What is saved is legal, and saved for this device. -/
lemma Sound.save (h : w.Sound) (i deviceId : ℕ) {legal : List DeviceCapability}
    (hlegal : LegalCapabilities legal) (fails : Bool) : (w.save i deviceId legal fails).Sound := by
  have hanswered : ∀ answer, (w.answerPatch i answer).Sound := fun _ => h.of_patches _ _
  unfold DeviceWorld.save
  split
  · exact hanswered _
  · split
    · exact hanswered _
    · next device hdevice =>
        have hmem : device ∈ w.devices.rows := List.mem_of_find?_eq_some hdevice
        have hid : device.id = deviceId := by simpa using List.find?_some hdevice
        refine ⟨h.registrations, ?_, ?_⟩
        · intro set hset
          rcases List.mem_append.mp hset with hold | hnew
          · exact h.saved set hold
          · obtain rfl := List.mem_singleton.mp hnew
            exact hid ▸ w.devices.key_lt device hmem
        · intro row hrow
          obtain ⟨old, hold, rfl⟩ := SerialTable.mem_rewrite.mp hrow
          by_cases hsel : old.id = deviceId
          · rw [if_pos (c := decide (old.id = deviceId) = true) (decide_eq_true hsel)]
            refine ⟨hlegal, Or.inr ⟨(deviceId, legal), ?_, hsel.symm, List.Subset.refl _⟩⟩
            exact List.mem_append_right _ (List.mem_singleton.mpr rfl)
          · rw [if_neg (c := decide (old.id = deviceId) = true) (by simpa using hsel)]
            exact (h.approved old hold).mono (CodesKept.refl _) (List.subset_append_left _ _)

lemma Sound.deregister (h : w.Sound) (deviceId : ℕ) : (w.deregister deviceId).Sound := by
  refine ⟨h.registrations, h.saved, h.approved.of_kept ?_ (CodesKept.refl _) (List.Subset.refl _)⟩
  intro device hdevice
  obtain ⟨old, hold, rfl⟩ := SerialTable.mem_rewrite.mp hdevice
  refine ⟨old, hold, ?_⟩
  split <;> exact ⟨rfl, rfl, rfl⟩

/-- The row of a registration is approved exactly when its body keeps to its code. -/
lemma approved_newDevice_iff (h : w.Sound) {codeId : ℕ} {claim : ClaimedCodePayload}
    (hcall : w.registrations[i]? = some ⟨body, .inserting codeId claim⟩)
    (hchecks : meetsDeviceChecks body.requestedCapabilities) (hcodes : w'.codes = w.codes)
    (hsaved : w'.saved = w.saved) :
    w'.Approved (newDevice body codeId claim w.devices.next) ↔
      body.requestedCapabilities.Nodup ∧
        body.requestedCapabilities ⊆ claim.requestedCapabilities := by
  obtain ⟨code, hcode, hid, hcaps⟩ :=
    h.registrations _ (List.mem_of_getElem? hcall) codeId claim (Or.inr rfl)
  have hlegal := body.legal_iff_nodup hchecks
  constructor
  · intro happroved
    refine ⟨hlegal.mp happroved.legal, ?_⟩
    rcases happroved.within with ⟨code', hcode', hid', hsub⟩ | ⟨set, hset, hid', -⟩
    · rw [hcodes] at hcode'
      obtain rfl := SerialTable.eq_of_key hcode' hcode (hid'.trans hid.symm)
      exact hcaps ▸ hsub
    · rw [hsaved] at hset
      exact absurd hid' (Nat.ne_of_lt (h.saved set hset))
  · rintro ⟨hnodup, hsub⟩
    refine ⟨hlegal.mpr hnodup, Or.inl ⟨code, hcodes ▸ hcode, hid, ?_⟩⟩
    rw [hcaps]
    exact hsub

/-- Inserting a device keeps all approved exactly when its body keeps to its code. -/
lemma insertDevice_iff (h : w.Sound) {codeId : ℕ} {claim : ClaimedCodePayload}
    (hcall : w.registrations[i]? = some ⟨body, .inserting codeId claim⟩) (fails : Bool) :
    (w.insertDevice i body codeId claim fails).AllApproved ↔
      (fails = false → (⟨body, .inserting codeId claim⟩ : RegistrationCall).KeepsToCode) := by
  show _ ↔ (fails = false → meetsDeviceChecks body.requestedCapabilities →
    body.requestedCapabilities.Nodup ∧ body.requestedCapabilities ⊆ claim.requestedCapabilities)
  unfold DeviceWorld.insertDevice
  split
  · next hinserts =>
      rw [forall_prop_of_true hinserts.1, forall_prop_of_true hinserts.2]
      have hinsert : ∀ P : DeviceRow → Prop,
          (∀ device ∈ (w.devices.insert (newDevice body codeId claim) fun _ => rfl).rows,
            P device) ↔
            (∀ device ∈ w.devices.rows, P device) ∧
              P (newDevice body codeId claim w.devices.next) :=
        fun _ => SerialTable.forall_insert
      refine (hinsert _).trans ((and_iff_right ?_).trans
        (approved_newDevice_iff h hcall hinserts.2 rfl rfl))
      exact fun device hdevice => (h.approved device hdevice).mono (CodesKept.refl _)
        (List.Subset.refl _)
  · next hrefused =>
      refine iff_of_true (h.answer i _).approved fun hsucceeds hchecks => ?_
      exact absurd ⟨hsucceeds, hchecks⟩ hrefused

lemma Sound.insertDevice (h : w.Sound) (i : ℕ) (body : RegisterBody) (codeId : ℕ)
    (claim : ClaimedCodePayload) (fails : Bool)
    (happroved : (w.insertDevice i body codeId claim fails).AllApproved) :
    (w.insertDevice i body codeId claim fails).Sound := by
  unfold DeviceWorld.insertDevice at happroved ⊢
  split at happroved
  · next hinserts =>
      rw [if_pos hinserts]
      have hissuing : (⟨body, .issuing w.devices.next⟩ : RegistrationCall).FromCode w.codes.rows :=
        fromCode_of_point (Or.inr ⟨_, rfl⟩)
      have hadvanced := h.advance i hissuing
      exact ⟨hadvanced.registrations, fun set hset => Nat.lt_succ_of_lt (h.saved set hset),
        happroved⟩
  · next hrefused =>
      rw [if_neg hrefused]
      exact h.answer i _

/-- Every step keeps what holds, and all stays approved exactly when a device that is inserted has
what its code allows. -/
lemma Sound.step {a : DeviceAction} (h : w.Sound) (hstep : w.step digests a = some w') :
    (w.WithinCode a ↔ w'.AllApproved) ∧ (w'.AllApproved → w'.Sound) := by
  have hkept : w'.Sound → w.WithinCode a → (w.WithinCode a ↔ w'.AllApproved) ∧
      (w'.AllApproved → w'.Sound) :=
    fun hsound hwithin => ⟨iff_of_true hwithin hsound.approved, fun _ => hsound⟩
  cases a with
  | waits ms =>
      obtain rfl := Option.some.inj hstep
      exact hkept ⟨h.registrations, h.saved, h.approved.of_same rfl (CodesKept.refl _) rfl⟩ trivial
  | mints userId codeChallenge label requestedCapabilities rawCode =>
      obtain rfl := Option.some.inj hstep
      exact hkept (h.mint userId codeChallenge label requestedCapabilities rawCode) trivial
  | registers body =>
      simp only [DeviceWorld.step] at hstep
      split at hstep
      · obtain rfl := Option.some.inj hstep
        exact hkept (h.of_patches w.patches _) trivial
      · next body hbody =>
          obtain rfl := Option.some.inj hstep
          refine hkept ⟨?_, h.saved, h.approved.of_same rfl (CodesKept.refl _) rfl⟩ trivial
          intro call hcall
          rcases List.mem_append.mp hcall with hold | hnew
          · exact h.registrations call hold
          · obtain rfl := List.mem_singleton.mp hnew
            exact fromCode_of_point (Or.inl rfl)
  | looksUp i found fails =>
      obtain ⟨call, hcall, hstep⟩ := Option.bind_eq_some_iff.mp hstep
      split at hstep
      · split at hstep
        · obtain rfl := Option.some.inj hstep
          exact hkept (h.answer i _) trivial
        · exact hkept (h.lookUp hstep) trivial
      · cases hstep
  | consumes i fails =>
      obtain ⟨⟨body, point⟩, hcall, hstep⟩ := Option.bind_eq_some_iff.mp hstep
      cases point with
      | consuming codeId claim =>
          obtain rfl := Option.some.inj hstep
          exact hkept (h.consume hcall fails) trivial
      | _ => cases hstep
  | insertsDevice i fails =>
      obtain ⟨⟨body, point⟩, hcall, hstep⟩ := Option.bind_eq_some_iff.mp hstep
      cases point with
      | inserting codeId claim =>
          obtain rfl := Option.some.inj hstep
          refine ⟨?_, h.insertDevice i body codeId claim fails⟩
          rw [insertDevice_iff h hcall fails]
          show (∀ call ∈ w.registrations[i]?, fails = false → call.KeepsToCode) ↔ _
          rw [hcall]
          simp
      | _ => cases hstep
  | insertsToken i fails rollbackFails =>
      obtain ⟨⟨body, point⟩, hcall, hstep⟩ := Option.bind_eq_some_iff.mp hstep
      cases point with
      | issuing deviceId =>
          obtain rfl := Option.some.inj hstep
          exact hkept (h.insertToken i body deviceId fails rollbackFails) trivial
      | _ => cases hstep
  | patches deviceId body =>
      simp only [DeviceWorld.step] at hstep
      split at hstep
      · obtain rfl := Option.some.inj hstep
        exact hkept (h.of_patches w.patches _) trivial
      · obtain rfl := Option.some.inj hstep
        exact hkept (h.of_patches _ w.answers) trivial
  | loads i ownerIsAdmin fails =>
      obtain ⟨call, hcall, hstep⟩ := Option.bind_eq_some_iff.mp hstep
      split at hstep
      · obtain rfl := Option.some.inj hstep
        exact hkept (h.load i call ownerIsAdmin fails) trivial
      · cases hstep
  | saves i fails =>
      obtain ⟨call, hcall, hstep⟩ := Option.bind_eq_some_iff.mp hstep
      split at hstep
      · next legal hlegal _ =>
          obtain rfl := Option.some.inj hstep
          exact hkept (h.save i call.deviceId hlegal fails) trivial
      · cases hstep
  | deregisters deviceId =>
      obtain rfl := Option.some.inj hstep
      exact hkept (h.deregister deviceId) trivial

end

/-- In every run, all devices have only what has been approved if and only if every device is
inserted with a set that names nothing twice and nothing beyond what its code was minted with. -/
theorem all_approved_iff_within_codes (digests : Digests) (as : List DeviceAction) :
    Always (step digests) AllApproved initial as ↔ Meets (step digests) WithinCode initial as := by
  have hstart : initial.Sound :=
    ⟨fun _ hcall => absurd hcall List.not_mem_nil, fun _ hset => absurd hset List.not_mem_nil,
      fun _ hdevice => absurd hdevice List.not_mem_nil⟩
  have hiff : Meets (step digests) WithinCode initial as ↔
      EachStep (step digests) (fun _ _ w' => w'.AllApproved) initial as :=
    meets_iff_eachStep (I := Sound) (A := fun _ _ => True)
      (fun w a w' h _ hC hstep => (h.step hstep).2 ((h.step hstep).1.mp hC))
      (fun w a w' h _ hstep => (h.step hstep).1) hstart (meets_of_forall fun _ _ => trivial)
  exact (and_iff_right hstart.approved).trans hiff.symm

/-! ## A phone that asks for more -/

/-- The digests of one code and one verifier. -/
def sampleDigests : Digests where
  sha256Hex s :=
    if s = "one-time-code" then "3538b4902a9fad43d80819555b9849c471a422489a4f4d7eb532217195e9293d"
    else ""
  sha256Base64Url s :=
    if s = "verifier-verifier-verifier-verifier-verifier" then
      "fD3GLJ_KzCDB0w6uDOSFNNdflrHwtv8Cizh6P5pJkfQ"
    else ""

/-- The body of a registration with these capabilities. -/
def phoneAsking (requestedCapabilities : List String) : JsonValue :=
  .object [("oneTimeCode", .string "one-time-code"),
    ("codeVerifier", .string "verifier-verifier-verifier-verifier-verifier"),
    ("label", .string "iPhone"), ("platform", .string "ios"), ("model", .string "iPhone 15"),
    ("osVersion", .string "18.0"), ("appVersion", .string "1.0"),
    ("apnsEnvironment", .string "production"),
    ("requestedCapabilities", .array (requestedCapabilities.map .string))]

/-- A code is minted by the page, and a phone registers with it. -/
def phoneRegisters (requestedCapabilities : List String) : List DeviceAction :=
  [.mints "admin" "fD3GLJ_KzCDB0w6uDOSFNNdflrHwtv8Cizh6P5pJkfQ" "iPhone" registerPageCapabilities
      "one-time-code",
    .registers (some (phoneAsking requestedCapabilities)), .looksUp 0 (some 0) false,
    .consumes 0 false, .insertsDevice 0 false, .insertsToken 0 false false]

/-- A phone takes a capability that the page has not approved, or one twice. -/
theorem phone_promotes_itself :
    ¬Always (step sampleDigests) AllApproved initial (phoneRegisters ["scanner", "user"]) ∧
      ¬Always (step sampleDigests) AllApproved initial (phoneRegisters ["scanner", "scanner"]) := by
  decide +kernel

end DeviceWorld

end ExpresSync
