import ExpresSync.Foundation.Transition
import ExpresSync.Model.ArmRequests

/-!
# One armed pairing at a time

The arm routes answer 409 when a charger or device has an armed pairing already.  Their look-up and
their insert are separate statements, so that answer does not keep a second row out:
`singleFlight_iff` says in which runs there never are two, and `singleFlight_of_startsAlone` what
the requests would have to do for it.
-/

namespace ExpresSync

open Transition

/-- No two rows are armed, unexpired pairings of one charger or device. -/
def OneArmed (w : PairingWorld) : Prop :=
  w.table.Pairs fun a b => ∀ pairable ∈ a.armedFor w.now, b.armedFor w.now ≠ some pairable

instance (w : PairingWorld) : Decidable (OneArmed w) :=
  inferInstanceAs (Decidable (w.table.Pairs fun a _ => ∀ pairable ∈ a.armedFor w.now, _))

/-- At most one armed, unexpired pairing of each charger and device. -/
def SingleFlight (w : ArmWorld) : Prop := OneArmed w.pairings

instance (w : ArmWorld) : Decidable (SingleFlight w) := inferInstanceAs (Decidable (OneArmed _))

/-! ## The condition -/

/-- What the step inserts a pairing of. -/
def PairingWorld.arms (w : PairingWorld) : PairingAction → Option Pairable
  | .armInserts i _ => w.armings[i]?.map fun arming => .charger arming.chargeBoxId
  | .armsDevice deviceId _ _ => some (.device deviceId)
  | _ => none

/-- What the step inserts a pairing of. -/
def ArmWorld.arms (w : ArmWorld) : ArmAction → Option Pairable
  | .pairing action => w.pairings.arms action
  | .deviceArmInserts i _ => w.deviceArmings[i]?.map fun arming => .device arming.deviceId
  | _ => none

/-- No row is an armed, unexpired pairing of this charger or device. -/
def PairingWorld.IsFree (w : PairingWorld) (pairable : Pairable) : Prop :=
  ∀ row ∈ w.table.rows, row.armedFor w.now ≠ some pairable

instance (w : PairingWorld) (pairable : Pairable) : Decidable (w.IsFree pairable) :=
  inferInstanceAs (Decidable (∀ row ∈ w.table.rows, _))

/-- A pairing is inserted while what it is of has no armed one. -/
def ArmsFreePairable (w : ArmWorld) (a : ArmAction) : Prop :=
  ∀ pairable ∈ w.arms a, w.pairings.IsFree pairable

instance (w : ArmWorld) (a : ArmAction) : Decidable (ArmsFreePairable w a) :=
  inferInstanceAs (Decidable (∀ pairable ∈ w.arms a, _))

/-! ## What is armed after a step -/

section Rows

variable {row : Verification} {now : ℕ} {pairable : Pairable}

lemma Verification.armedFor_eq_some :
    row.armedFor now = some pairable ↔
      now < row.expiresAt ∧ row.value.status = some .armed ∧ row.pairable = some pairable := by
  simp [Verification.armedFor, Verification.isLive, and_assoc]

@[simp]
lemma Verification.armedFor_matchTo (idTag : String) : (row.matchTo idTag).armedFor now = none := by
  simp [Verification.armedFor, Verification.matchTo]

@[simp]
lemma Verification.armedFor_consume : row.consume.armedFor now = none := by
  simp [Verification.armedFor, Verification.consume]

@[simp]
lemma Verification.armedFor_claim (idTag : String) : (row.claim idTag).armedFor now = none := by
  simp [Verification.armedFor, Verification.claim]

@[simp]
lemma Arming.armedFor_row (arming : Arming) (pairingCode : String) (id : ℕ) :
    (arming.row pairingCode now id).armedFor now = some (.charger arming.chargeBoxId) :=
  Verification.armedFor_eq_some.mpr ⟨by simp [Arming.row, pairingTtlMs], rfl, rfl⟩

@[simp]
lemma armedFor_devicePairingRow (deviceId pairingCode purpose : String) (id : ℕ) :
    (devicePairingRow deviceId pairingCode purpose now id).armedFor now = some (.device deviceId) :=
  Verification.armedFor_eq_some.mpr ⟨by simp [devicePairingRow, pairingTtlMs], rfl, rfl⟩

/-- A row that an update leaves armed is one it has not rewritten. -/
lemma mem_of_armed_rewrite {rows : List Verification} {sel : Verification → Bool}
    {f : Verification → Verification} (hdisarms : ∀ row, (f row).armedFor now = none)
    (hrow : row ∈ SerialTable.rewrite sel f rows) (harmed : row.armedFor now = some pairable) :
    row ∈ rows := by
  obtain ⟨old, hold, rfl⟩ := SerialTable.mem_rewrite.mp hrow
  split at harmed
  · rw [hdisarms] at harmed
    cases harmed
  · next hsel => rwa [if_neg hsel]

end Rows

section Steps

variable {w w' : PairingWorld} {a : PairingAction} {row : Verification} {pairable : Pairable}

/-- A row that is armed after a step was so before, or is the row the step inserts. -/
lemma armed_of_step (hstep : w.step a = some w') (hrow : row ∈ w'.table.rows)
    (harmed : row.armedFor w'.now = some pairable) :
    row ∈ w.table.rows ∧ row.armedFor w.now = some pairable ∨
      w.arms a = some pairable ∧ row.id = w.table.next := by
  cases a with
  | waits ms =>
      obtain rfl := Option.some.inj hstep
      rw [Verification.armedFor_eq_some] at harmed ⊢
      exact Or.inl ⟨hrow, lt_of_le_of_lt (Nat.le_add_right _ _) harmed.1, harmed.2⟩
  | armStarts arming found =>
      obtain ⟨existing, -, rfl⟩ := Option.map_eq_some_iff.mp hstep
      cases existing with
      | none => exact Or.inl ⟨hrow, harmed⟩
      | some code => exact Or.inl ⟨hrow, harmed⟩
  | armInserts i pairingCode =>
      obtain ⟨arming, harming, rfl⟩ := Option.map_eq_some_iff.mp hstep
      rcases List.mem_append.mp hrow with hold | hnew
      · exact Or.inl ⟨hold, harmed⟩
      · obtain rfl := List.mem_singleton.mp hnew
        simp only [Arming.armedFor_row] at harmed
        simp only [PairingWorld.arms, harming, Option.map_some]
        exact Or.inr ⟨harmed, rfl⟩
  | armFails i =>
      obtain rfl := Option.some.inj hstep
      exact Or.inl ⟨hrow, harmed⟩
  | armsDevice deviceId pairingCode purpose =>
      obtain rfl := Option.some.inj hstep
      rcases List.mem_append.mp hrow with hold | hnew
      · exact Or.inl ⟨hold, harmed⟩
      · obtain rfl := List.mem_singleton.mp hnew
        simp only [armedFor_devicePairingRow] at harmed
        exact Or.inr ⟨harmed, rfl⟩
  | preAuthorizes chargeBoxId idTag locked target =>
      simp only [PairingWorld.step] at hstep
      split at hstep
      · cases hstep
      · obtain ⟨target, -, rfl⟩ := Option.map_eq_some_iff.mp hstep
        cases target with
        | none => exact Or.inl ⟨hrow, harmed⟩
        | some old =>
            exact Or.inl
              ⟨mem_of_armed_rewrite (fun _ => Verification.armedFor_matchTo _) hrow harmed, harmed⟩
  | logsIn identifier idTag =>
      obtain rfl := Option.some.inj hstep
      exact Or.inl ⟨mem_of_armed_rewrite (fun _ => Verification.armedFor_consume) hrow harmed,
        harmed⟩
  | scanResult identifier idTag =>
      obtain rfl := Option.some.inj hstep
      exact Or.inl ⟨mem_of_armed_rewrite (fun _ => Verification.armedFor_claim _) hrow harmed,
        harmed⟩
  | releases identifier =>
      obtain rfl := Option.some.inj hstep
      exact Or.inl ⟨(SerialTable.mem_delete.mp hrow).1, harmed⟩
  | cleansUp id =>
      obtain rfl := Option.some.inj hstep
      exact Or.inl ⟨(SerialTable.mem_delete.mp hrow).1, harmed⟩

/-- An insert leaves the old rows as they are, next to one that is armed. -/
lemma exists_armed_of_arms (hstep : w.step a = some w') (harms : w.arms a = some pairable) :
    w'.now = w.now ∧ (∀ row ∈ w.table.rows, row ∈ w'.table.rows) ∧
      ∃ row ∈ w'.table.rows, row.id = w.table.next ∧ row.armedFor w.now = some pairable := by
  cases a with
  | armInserts i pairingCode =>
      obtain ⟨arming, harming, rfl⟩ := Option.map_eq_some_iff.mp hstep
      simp only [PairingWorld.arms, harming, Option.map_some] at harms
      refine ⟨rfl, fun row hrow => List.mem_append_left _ hrow,
        arming.row pairingCode w.now w.table.next, List.mem_append_right _ List.mem_cons_self,
        rfl, ?_⟩
      rw [← harms]
      exact Arming.armedFor_row ..
  | armsDevice deviceId pairingCode purpose =>
      obtain rfl := Option.some.inj hstep
      refine ⟨rfl, fun row hrow => List.mem_append_left _ hrow,
        devicePairingRow deviceId pairingCode purpose w.now w.table.next,
        List.mem_append_right _ List.mem_cons_self, rfl, ?_⟩
      rw [← harms]
      exact armedFor_devicePairingRow ..
  | waits | armStarts | armFails | preAuthorizes | logsIn | scanResult | releases | cleansUp =>
      cases harms

/-- A second armed row comes with an insert next to a first one, and with nothing else. -/
lemma isFree_iff (hone : OneArmed w) (hstep : w.step a = some w') :
    (∀ pairable ∈ w.arms a, w.IsFree pairable) ↔ OneArmed w' := by
  constructor
  · intro hfree row hrow other hother hne pairable harmed harmed'
    rcases armed_of_step hstep hrow harmed with hold | ⟨harms, hid⟩
    · rcases armed_of_step hstep hother harmed' with hold' | ⟨harms, -⟩
      · exact hone row hold.1 other hold'.1 hne pairable hold.2 hold'.2
      · exact hfree pairable harms row hold.1 hold.2
    · rcases armed_of_step hstep hother harmed' with hold' | ⟨-, hid'⟩
      · exact hfree pairable harms other hold'.1 hold'.2
      · exact hne (hid.trans hid'.symm)
  · intro hone' pairable harms row hrow harmed
    obtain ⟨hnow, hkept, new, hnew, hid, harmed'⟩ := exists_armed_of_arms hstep harms
    rw [← hnow] at harmed harmed'
    refine hone' row (hkept row hrow) new hnew ?_ pairable harmed harmed'
    rw [hid]
    exact Nat.ne_of_lt (w.table.key_lt row hrow)

end Steps

section ArmSteps

variable {w w' : ArmWorld} {a : ArmAction}

/-- A step leaves the table to the requests for devices, or is a step of the pairings. -/
lemma ArmWorld.step_cases (hstep : w.step a = some w') :
    (∃ action, w.pairings.step action = some w'.pairings ∧ w.arms a = w.pairings.arms action ∧
        (a = .pairing action ∨ action.isDeviceArm = true)) ∨
      w'.pairings = w.pairings ∧ w.arms a = none := by
  cases a with
  | pairing action =>
      simp only [ArmWorld.step] at hstep
      split at hstep
      · cases hstep
      · obtain ⟨pairings, hpairings, rfl⟩ := Option.map_eq_some_iff.mp hstep
        exact Or.inl ⟨action, hpairings, rfl, Or.inl rfl⟩
  | deviceArmStarts arming found =>
      obtain ⟨existing, -, rfl⟩ := Option.map_eq_some_iff.mp hstep
      cases existing with
      | none => exact Or.inr ⟨rfl, rfl⟩
      | some code => exact Or.inr ⟨rfl, rfl⟩
  | deviceArmInserts i pairingCode =>
      obtain ⟨arming, harming, hstep⟩ := Option.bind_eq_some_iff.mp hstep
      obtain ⟨pairings, hpairings, rfl⟩ := Option.map_eq_some_iff.mp hstep
      refine Or.inl ⟨_, hpairings, ?_, Or.inr rfl⟩
      simp only [ArmWorld.arms, harming, Option.map_some, PairingWorld.arms]
  | deviceArmFails i =>
      obtain rfl := Option.some.inj hstep
      exact Or.inr ⟨rfl, rfl⟩

lemma armsFreePairable_iff (hone : SingleFlight w) (hstep : w.step a = some w') :
    ArmsFreePairable w a ↔ SingleFlight w' := by
  unfold ArmsFreePairable SingleFlight
  rcases ArmWorld.step_cases hstep with ⟨action, hpairings, harms, -⟩ | ⟨hpairings, harms⟩
  · rw [harms]
    exact isFree_iff hone hpairings
  · rw [harms, hpairings]
    exact iff_of_true (by simp) hone

end ArmSteps

namespace Scenario

/-- A customer and an admin arm a device at the same time. -/
def overlappingArms : List ArmAction :=
  [.deviceArmStarts ⟨"DEVICE", "login"⟩ (.ok none),
    .deviceArmStarts ⟨"DEVICE", "admin-link"⟩ (.ok none),
    .deviceArmInserts 0 "ABC234", .deviceArmInserts 0 "DEF567"]

/-- A charger is armed again while another, whose identifiers the look-up's pattern finds too, has
the pairing that expires last. -/
def hiddenArm : List ArmAction :=
  [.pairing (.armStarts ⟨"CB_1", none, none⟩ (.ok none)), .pairing (.armInserts 0 "first"),
    .pairing (.waits 1000),
    .pairing (.armStarts ⟨"CBX1", none, none⟩ (.ok none)), .pairing (.armInserts 0 "second"),
    .pairing (.armStarts ⟨"CB_1", none, none⟩ (.ok (some 1))), .pairing (.armInserts 0 "third")]

end Scenario

namespace ArmWorld

variable (w : ArmWorld)

/-- What the requests in flight arm. -/
def inFlight : List Pairable :=
  w.pairings.armings.map (fun arming => .charger arming.chargeBoxId) ++
    w.deviceArmings.map fun arming => .device arming.deviceId

/-- What a request arms that goes on past its look-up in this step. -/
def starts : ArmAction → Option Pairable
  | .pairing (.armStarts arming found) =>
      if w.pairings.findArmedChargerPairing arming.chargeBoxId found = some none then
        some (.charger arming.chargeBoxId)
      else none
  | .deviceArmStarts arming found =>
      if w.findArmedDevicePairing arming.deviceId found = some none then
        some (.device arming.deviceId)
      else none
  | _ => none

end ArmWorld

/-- A request goes on past its look-up only when what it arms has no armed pairing, and no other
request in flight. -/
def StartsAlone (w : ArmWorld) (a : ArmAction) : Prop :=
  ∀ pairable ∈ w.starts a, pairable ∉ w.inFlight ∧ w.pairings.IsFree pairable

/-- Requests in flight arm different things, none of which has an armed pairing. -/
structure OneByOne (w : ArmWorld) : Prop where
  one : SingleFlight w
  nodup : w.inFlight.Nodup
  free : ∀ pairable ∈ w.inFlight, w.pairings.IsFree pairable

section InFlight

variable {w w' : ArmWorld} {a : ArmAction} {pairable : Pairable}

/-- A step of the pairings takes one request up, takes one to its insert, or takes none up. -/
lemma armings_cases {w w' : PairingWorld} {a : PairingAction} (ha : a.isDeviceArm = false)
    (hstep : w.step a = some w') :
    (∃ arming found, a = .armStarts arming found ∧ w'.armings = w.armings ++ [arming] ∧
        w.findArmedChargerPairing arming.chargeBoxId found = some none) ∨
      (∃ i pairingCode arming, a = .armInserts i pairingCode ∧ w.armings[i]? = some arming ∧
        w'.armings = w.armings.eraseIdx i) ∨
      w.arms a = none ∧ w'.armings.Sublist w.armings := by
  cases a with
  | armStarts arming found =>
      obtain ⟨existing, hfound, rfl⟩ := Option.map_eq_some_iff.mp hstep
      cases existing with
      | none => exact Or.inl ⟨arming, found, rfl, rfl, hfound⟩
      | some code => exact Or.inr (Or.inr ⟨rfl, List.Sublist.refl _⟩)
  | armInserts i pairingCode =>
      obtain ⟨arming, harming, rfl⟩ := Option.map_eq_some_iff.mp hstep
      exact Or.inr (Or.inl ⟨i, pairingCode, arming, rfl, harming, rfl⟩)
  | armFails i =>
      obtain rfl := Option.some.inj hstep
      exact Or.inr (Or.inr ⟨rfl, List.eraseIdx_sublist _ _⟩)
  | preAuthorizes chargeBoxId idTag locked target =>
      simp only [PairingWorld.step] at hstep
      split at hstep
      · cases hstep
      · obtain ⟨target, -, rfl⟩ := Option.map_eq_some_iff.mp hstep
        exact Or.inr (Or.inr ⟨rfl, List.Sublist.refl _⟩)
  | armsDevice => cases ha
  | waits | logsIn | scanResult | releases | cleansUp =>
      obtain rfl := Option.some.inj hstep
      exact Or.inr (Or.inr ⟨rfl, List.Sublist.refl _⟩)

/-- A step takes one request up, takes one to its insert, or takes none up. -/
lemma inFlight_cases (hstep : w.step a = some w') :
    (∃ pairable, w.starts a = some pairable ∧ w.arms a = none ∧
        w'.inFlight.Perm (pairable :: w.inFlight)) ∨
      (∃ pairable, w.arms a = some pairable ∧ w.inFlight.Perm (pairable :: w'.inFlight)) ∨
        w.arms a = none ∧ w'.inFlight.Sublist w.inFlight := by
  cases a with
  | pairing action =>
      simp only [ArmWorld.step] at hstep
      split at hstep
      · cases hstep
      · next hdevice =>
        obtain ⟨pairings, hpairings, rfl⟩ := Option.map_eq_some_iff.mp hstep
        rcases armings_cases (Bool.not_eq_true _ ▸ hdevice) hpairings with
          ⟨arming, found, rfl, harmings, hfound⟩ | ⟨i, pairingCode, arming, rfl, harming,
            harmings⟩ |
          ⟨harms, hsublist⟩
        · refine Or.inl ⟨.charger arming.chargeBoxId, ?_, rfl, ?_⟩
          · simp only [ArmWorld.starts, hfound, if_true]
          · simp only [ArmWorld.inFlight, harmings, List.map_append, List.map_cons, List.map_nil,
              List.append_assoc, List.singleton_append]
            exact List.perm_middle
        · refine Or.inr (Or.inl ⟨.charger arming.chargeBoxId, ?_, ?_⟩)
          · simp only [ArmWorld.arms, PairingWorld.arms, harming, Option.map_some]
          · simp only [ArmWorld.inFlight, harmings]
            exact ((InFlight.perm_eraseIdx harming).map _).append_right _
        · exact Or.inr (Or.inr ⟨harms, (hsublist.map _).append_right _⟩)
  | deviceArmStarts arming found =>
      obtain ⟨existing, hfound, rfl⟩ := Option.map_eq_some_iff.mp hstep
      cases existing with
      | none =>
          refine Or.inl ⟨.device arming.deviceId, ?_, rfl, ?_⟩
          · simp only [ArmWorld.starts, hfound, if_true]
          · simp only [ArmWorld.inFlight, List.map_append, List.map_cons, List.map_nil,
              ← List.append_assoc]
            exact List.perm_append_singleton _ _
      | some code => exact Or.inr (Or.inr ⟨rfl, List.Sublist.refl _⟩)
  | deviceArmInserts i pairingCode =>
      obtain ⟨arming, harming, hstep⟩ := Option.bind_eq_some_iff.mp hstep
      obtain ⟨pairings, hpairings, rfl⟩ := Option.map_eq_some_iff.mp hstep
      obtain rfl := Option.some.inj hpairings
      refine Or.inr (Or.inl ⟨.device arming.deviceId, ?_, ?_⟩)
      · simp only [ArmWorld.arms, harming, Option.map_some]
      · exact (((InFlight.perm_eraseIdx harming).map _).append_left _).trans List.perm_middle
  | deviceArmFails i =>
      obtain rfl := Option.some.inj hstep
      exact Or.inr (Or.inr ⟨rfl, ((List.eraseIdx_sublist _ _).map _).append_left _⟩)

/-- What is free stays so, unless a pairing of it is inserted. -/
lemma isFree_of_step (hstep : w.step a = some w') (hfree : w.pairings.IsFree pairable)
    (harms : w.arms a ≠ some pairable) : w'.pairings.IsFree pairable := by
  intro row hrow harmed
  rcases ArmWorld.step_cases hstep with ⟨action, hpairings, heq, -⟩ | ⟨hpairings, -⟩
  · rcases armed_of_step hpairings hrow harmed with hold | ⟨harms', -⟩
    · exact hfree row hold.1 hold.2
    · exact harms (heq.trans harms')
  · rw [hpairings] at hrow harmed
    exact hfree row hrow harmed

lemma oneByOne_step (h : OneByOne w) (halone : StartsAlone w a) (hstep : w.step a = some w') :
    OneByOne w' := by
  rcases inFlight_cases hstep with ⟨started, hstarts, harms, hperm⟩ | ⟨armed, harms, hperm⟩ |
    ⟨harms, hsublist⟩
  · obtain ⟨hnew, hfree⟩ := halone started hstarts
    refine ⟨(armsFreePairable_iff h.one hstep).mp (by simp [ArmsFreePairable, harms]),
      hperm.nodup_iff.mpr (List.nodup_cons.mpr ⟨hnew, h.nodup⟩), ?_⟩
    intro pairable hpairable
    refine isFree_of_step hstep ?_ (by simp [harms])
    rcases List.mem_cons.mp (hperm.mem_iff.mp hpairable) with rfl | hold
    · exact hfree
    · exact h.free pairable hold
  · obtain ⟨hgone, hnodup⟩ := List.nodup_cons.mp (hperm.nodup_iff.mp h.nodup)
    refine ⟨(armsFreePairable_iff h.one hstep).mp ?_, hnodup, ?_⟩
    · intro pairable hpairable
      obtain rfl : armed = pairable := Option.some.inj (harms.symm.trans hpairable)
      exact h.free armed (hperm.mem_iff.mpr List.mem_cons_self)
    · intro pairable hpairable
      refine isFree_of_step hstep (h.free pairable (hperm.mem_iff.mpr
        (List.mem_cons_of_mem _ hpairable))) ?_
      rw [harms]
      rintro ⟨⟩
      exact hgone hpairable
  · refine ⟨(armsFreePairable_iff h.one hstep).mp (by simp [ArmsFreePairable, harms]),
      h.nodup.sublist hsublist, ?_⟩
    intro pairable hpairable
    exact isFree_of_step hstep (h.free pairable (hsublist.subset hpairable)) (by simp [harms])

end InFlight

/-- The look-ups would be enough if the requests for one charger or device came one after another,
and none overlooked an armed pairing. -/
theorem singleFlight_of_startsAlone {w : ArmWorld} {as : List ArmAction} (h : OneByOne w)
    (halone : Meets ArmWorld.step StartsAlone w as) : Always ArmWorld.step SingleFlight w as :=
  ⟨h.one, Meets.eachStep (I := OneByOne) (fun _ _ _ => oneByOne_step)
    (fun _ _ _ h halone hstep => (oneByOne_step h halone hstep).one) h halone⟩

end ExpresSync
