import ExpresSync.Model.MeterValues
import Mathlib.Data.List.Perm.Basic

/-!
# The energy register of a list of samples

`extractEnergyKwh` takes the first sample of the register that has a finite value, whatever its
phase.  So the total is read from every order of the samples when no phase reads anything else.
-/

namespace ExpresSync

section

variable (number : String → JsNumber) (toLowerCase : String → String)

namespace SampledValue

/-- What a sample of the energy register with a finite value reads, in kWh. -/
def registerKwh (s : SampledValue) : Option ℚ :=
  if s.measurand.getD "Energy.Active.Import.Register" = "Energy.Active.Import.Register" then
    match number s.value with
    | .nan => none
    | .fin n => some (if toLowerCase (s.unit.getD "Wh") = "kwh" then n else n / 1000)
  else none

/-- A sample of the register with a finite value, and of no phase. -/
def IsTotal (s : SampledValue) : Prop :=
  s.phase = none ∧ (s.registerKwh number toLowerCase).isSome

instance (s : SampledValue) : Decidable (s.IsTotal number toLowerCase) :=
  inferInstanceAs (Decidable (_ ∧ _))

end SampledValue

/-- What `enqueueMeterSample` is given as `kwh` and `isFinal`. -/
def enqueuedSample (now : String) (userMappingId : ℕ → Option ℕ) (body : MeterHookBody) :
    Option (Option ℚ × Bool) :=
  (postMeterValues number toLowerCase now userMappingId body).map fun sent =>
    (sent.2.kwh, sent.2.isFinal)

/-- The total is read, and any other order of the samples is billed alike. -/
structure ReadsTotal (samples : List SampledValue) (total : SampledValue) : Prop where
  extracted : extractEnergyKwh number toLowerCase samples = total.registerKwh number toLowerCase
  permuted : ∀ permuted : List SampledValue, permuted.Perm samples →
    ∀ (now : String) (userMappingId : ℕ → Option ℕ) (body : MeterHookBody),
      enqueuedSample number toLowerCase now userMappingId { body with samples := permuted } =
        enqueuedSample number toLowerCase now userMappingId { body with samples := samples }

end

section

variable {number : String → JsNumber} {toLowerCase : String → String}
  {samples permuted : List SampledValue}

/-! ## The first reading -/

lemma extractEnergyKwh_eq : extractEnergyKwh number toLowerCase samples =
    samples.findSome? (SampledValue.registerKwh number toLowerCase) := by
  induction samples with
  | nil => rfl
  | cons s samples ih =>
      unfold extractEnergyKwh
      rw [List.findSome?_cons, SampledValue.registerKwh]
      by_cases hregister : s.measurand.getD "Energy.Active.Import.Register" =
          "Energy.Active.Import.Register"
      · rw [if_neg (not_not.mpr hregister), if_pos hregister]
        cases number s.value with
        | nan => exact ih
        | fin n =>
            dsimp only
            split
            · rfl
            · rfl
      · rw [if_pos hregister, if_neg hregister]
        exact ih

/-- When all readings are the same, it does not matter which one comes first. -/
lemma extractEnergyKwh_of_forall {s : SampledValue} {kwh : ℚ} (hs : s ∈ samples)
    (hkwh : s.registerKwh number toLowerCase = some kwh)
    (hall : ∀ s ∈ samples, ∀ other, s.registerKwh number toLowerCase = some other → other = kwh) :
    extractEnergyKwh number toLowerCase samples = some kwh := by
  rw [extractEnergyKwh_eq]
  cases hfound : samples.findSome? (SampledValue.registerKwh number toLowerCase) with
  | none =>
      rw [List.findSome?_eq_none_iff] at hfound
      rw [hfound s hs] at hkwh
      cases hkwh
  | some other =>
      obtain ⟨s', hs', hother⟩ := List.exists_of_findSome?_eq_some hfound
      rw [hall s' hs' other hother]

/-- Any sample can come first. -/
lemma extractEnergyKwh_cons_erase {s : SampledValue} {kwh : ℚ}
    (hkwh : s.registerKwh number toLowerCase = some kwh) :
    extractEnergyKwh number toLowerCase (s :: samples.erase s) = some kwh := by
  rw [extractEnergyKwh_eq, List.findSome?_cons, hkwh]

lemma isFinalSample_perm (h : permuted.Perm samples) :
    isFinalSample permuted = isFinalSample samples :=
  h.any_eq

/-! ## What is billed -/

/-- Only the energy that is extracted can differ. -/
lemma enqueuedSample_perm (h : permuted.Perm samples)
    (hkwh : extractEnergyKwh number toLowerCase permuted =
      extractEnergyKwh number toLowerCase samples)
    (now : String) (userMappingId : ℕ → Option ℕ) (body : MeterHookBody) :
    enqueuedSample number toLowerCase now userMappingId { body with samples := permuted } =
      enqueuedSample number toLowerCase now userMappingId { body with samples := samples } := by
  have hnil : permuted = [] ↔ samples = [] := by
    constructor
    · rintro rfl
      exact h.symm.eq_nil
    · rintro rfl
      exact h.eq_nil
  unfold enqueuedSample postMeterValues
  simp only [hnil, hkwh, isFinalSample_perm h]
  split
  · split
    · rfl
    · rfl
  · rfl

/-- A body that is not refused. -/
def meterBody (samples : List SampledValue) : MeterHookBody where
  chargeBoxId := some "CB-1"
  transactionPk := some 1
  connectorId := none
  timestamp := none
  samples := samples

lemma enqueuedSample_meterBody (hne : samples ≠ []) (now : String) (userMappingId : ℕ → Option ℕ) :
    enqueuedSample number toLowerCase now userMappingId (meterBody samples) =
      some (extractEnergyKwh number toLowerCase samples, isFinalSample samples) := by
  have hid : trimmed (some "CB-1") = some "CB-1" := by decide
  unfold enqueuedSample postMeterValues meterBody
  simp only [hid, if_neg hne, Option.map_some]

/-- With one total, it is read from every order just when no phase reads anything else. -/
theorem readsTotal_iff {total : SampledValue}
    (htotal : samples.filter (fun s => s.IsTotal number toLowerCase) = [total]) :
    ReadsTotal number toLowerCase samples total ↔
      ∀ s ∈ samples, s.phase ≠ none → ∀ kwh, s.registerKwh number toLowerCase = some kwh →
        total.registerKwh number toLowerCase = some kwh := by
  have hmem : total ∈ samples.filter fun s => s.IsTotal number toLowerCase :=
    htotal ▸ List.mem_singleton_self total
  obtain ⟨hin, his⟩ := List.mem_filter.mp hmem
  obtain ⟨-, hreads⟩ := of_decide_eq_true his
  obtain ⟨kwh, hkwh⟩ := Option.isSome_iff_exists.mp hreads
  constructor
  · intro h s hs _ other hother
    have hperm : (s :: samples.erase s).Perm samples := (List.perm_cons_erase hs).symm
    have hbilled : enqueuedSample number toLowerCase "" (fun _ => none)
        (meterBody (s :: samples.erase s)) =
          enqueuedSample number toLowerCase "" (fun _ => none) (meterBody samples) :=
      h.permuted _ hperm "" (fun _ => none) (meterBody samples)
    rw [enqueuedSample_meterBody (List.cons_ne_nil _ _),
      enqueuedSample_meterBody (List.ne_nil_of_mem hs), extractEnergyKwh_cons_erase hother,
      h.extracted] at hbilled
    exact (congrArg Prod.fst (Option.some.inj hbilled)).symm
  · intro hphases
    have hall : ∀ s ∈ samples, ∀ other, s.registerKwh number toLowerCase = some other →
        other = kwh := by
      intro s hs other hother
      by_cases hphase : s.phase = none
      · have hs' : s ∈ samples.filter fun s => s.IsTotal number toLowerCase :=
          List.mem_filter.mpr ⟨hs, decide_eq_true ⟨hphase, Option.isSome_of_mem hother⟩⟩
        rw [htotal, List.mem_singleton] at hs'
        subst hs'
        exact Option.some.inj (hother.symm.trans hkwh)
      · exact Option.some.inj ((hphases s hs hphase other hother).symm.trans hkwh)
    have hread : ∀ permuted : List SampledValue, permuted.Perm samples →
        extractEnergyKwh number toLowerCase permuted = some kwh := fun permuted hperm =>
      extractEnergyKwh_of_forall (hperm.mem_iff.mpr hin) hkwh fun s hs =>
        hall s (hperm.mem_iff.mp hs)
    refine ⟨(hread samples (List.Perm.refl _)).trans hkwh.symm, fun permuted hperm => ?_⟩
    exact enqueuedSample_perm hperm ((hread permuted hperm).trans (hread _ (List.Perm.refl _)).symm)

end

/-! ## Phases before the total -/

/-- `Number` of the texts below. -/
def registerNumber (value : String) : JsNumber :=
  if value = "3000" then .fin 3000
  else if value = "1000" then .fin 1000
  else if value = "3" then .fin 3
  else .nan

def registerSample (value : String) (unit phase : Option String) : SampledValue where
  value := value
  measurand := none
  unit := unit
  context := none
  phase := phase
  location := none

/-- A charger with one phase, which reads what the total reads. -/
theorem readsTotal_onePhase : ReadsTotal registerNumber String.toLower
    [registerSample "3" (some "kWh") (some "L1"), registerSample "3000" none none]
    (registerSample "3000" none none) :=
  (readsTotal_iff (by decide +kernel)).mpr (by decide +kernel)

/-- A third of the total is billed when the phases come first. -/
theorem not_readsTotal_phasesFirst : ¬∀ (number : String → JsNumber)
    (toLowerCase : String → String) (samples : List SampledValue) (total : SampledValue),
    samples.filter (fun s => s.IsTotal number toLowerCase) = [total] →
    ReadsTotal number toLowerCase samples total := by
  intro hall
  have h := hall registerNumber String.toLower
    [registerSample "1000" none (some "L1"), registerSample "1000" none (some "L2"),
      registerSample "1000" none (some "L3"), registerSample "3000" none none]
    (registerSample "3000" none none) (by decide +kernel)
  exact absurd h.extracted (by decide +kernel)

end ExpresSync
