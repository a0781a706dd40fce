import ExpresSync.Model.ChargerCache

/-!
# Names of chargers

A refresh writes the rows of the chargers that it has seen (`get?_refreshCharger`).  The number of
a charge box is kept where the first call has none for it; its name is not, but replaced with what
the second call has for it, which is nothing when StEvE has not described the charger
(`keepsNames_iff`).
-/

namespace ExpresSync

/-- StEvE has described the charger, by the name that the description makes. -/
def ChargeBoxesAnswers.Describes (answers : ChargeBoxesAnswers) (chargeBoxId : String)
    (name : Option String) : Prop :=
  ∃ boxes, answers.roster = .ok boxes ∧
    ∃ box ∈ boxes, box.chargeBoxId = chargeBoxId ∧
      RefreshRun.trimmedDescription box.description = name

namespace RefreshRun

variable (run : RefreshRun)

/-- One of the two calls has described the charger. -/
def Described (chargeBoxId : String) (name : Option String) : Prop :=
  run.first.Describes chargeBoxId name ∨ run.second.Describes chargeBoxId name

/-- A name changes to a description only, and a charger that has not been described is kept. -/
def KeepsNames (table : ChargerTable) : Prop :=
  ∀ old ∈ table.entries, ∃ new, (run.refreshCharger table).get? old.chargeBoxId = some new ∧
    (new.friendlyName ≠ old.friendlyName → run.Described old.chargeBoxId new.friendlyName) ∧
    ((∀ name, ¬run.Described old.chargeBoxId name) →
      new.friendlyName = old.friendlyName ∧ new.chargeBoxPk = old.chargeBoxPk)

/-- A charger that has been seen, and that the second call has not described, has no name, or an
empty description in the first call; where that has none either, it is known by the number that it
has been seen with. -/
def NothingToLose (table : ChargerTable) : Prop :=
  ∀ old ∈ table.entries, ∀ seen ∈ run.collectSeenChargers.get? old.chargeBoxId,
    (∀ name, ¬run.second.Describes old.chargeBoxId name) →
      (old.friendlyName = none ∨ run.first.Describes old.chargeBoxId none) ∧
      ((∀ name, ¬run.first.Describes old.chargeBoxId name) →
        ∀ pk ∈ seen.chargeBoxPk, old.chargeBoxPk = some pk)

variable {run} {table : ChargerTable} {chargeBoxId : String}

/-! ## Names of a run -/

lemma description_of_mem_boxesOfTransactions {transactions : List ListedTransaction}
    {box : StEvEChargeBox} (h : box ∈ boxesOfTransactions transactions) :
    box.description = none := by
  rcases KeyedLog.mem_recordAll h with hempty | hmem
  · cases hempty
  · obtain ⟨tx, -, rfl⟩ := List.mem_map.mp hmem
    rfl

/-- The name of a charger that StEvE has described. -/
lemma describes_get? {name : Option String} (h : run.second.Describes chargeBoxId name) :
    run.second.Describes chargeBoxId ((run.descByChargeBoxId.get? chargeBoxId).bind Prod.snd) := by
  obtain ⟨boxes, hroster, box, hbox, rfl, -⟩ := h
  have hboxes : getChargeBoxes run.second = .ok boxes := by
    rw [getChargeBoxes, hroster]
  have hentry : (box.chargeBoxId, trimmedDescription box.description) ∈
      boxes.map fun b => (b.chargeBoxId, trimmedDescription b.description) :=
    List.mem_map_of_mem hbox
  have hlog : ∃ entry ∈ boxes.map fun b => (b.chargeBoxId, trimmedDescription b.description),
      ((KeyedLog.empty : KeyedLog (Prod.fst : String × Option String → String)).upsertAll
        (boxes.map fun b => (b.chargeBoxId, trimmedDescription b.description))).get?
          box.chargeBoxId = some entry :=
    KeyedLog.exists_get?_upsertAll hentry
  obtain ⟨entry, hmem, hget⟩ := hlog
  have hkey := (KeyedLog.get?_eq_some.mp hget).2
  obtain ⟨named, hnamed, rfl⟩ := List.mem_map.mp hmem
  rw [descByChargeBoxId, hboxes]
  rw [hget, Option.bind_some]
  dsimp only at hkey ⊢
  exact ⟨boxes, hroster, named, hnamed, hkey, rfl⟩

/-- A charger that it has not described has none. -/
lemma get?_of_not_describes (h : ∀ name, ¬run.second.Describes chargeBoxId name) :
    (run.descByChargeBoxId.get? chargeBoxId).bind Prod.snd = none := by
  have hnone : ∀ boxes : List StEvEChargeBox,
      (∀ b ∈ boxes, b.chargeBoxId = chargeBoxId → trimmedDescription b.description = none) →
      (((KeyedLog.empty : KeyedLog (Prod.fst : String × Option String → String)).upsertAll
        (boxes.map fun b => (b.chargeBoxId, trimmedDescription b.description))).get?
          chargeBoxId).bind Prod.snd = none := by
    intro boxes hboxes
    cases hget : ((KeyedLog.empty : KeyedLog (Prod.fst : String × Option String → String)).upsertAll
        (boxes.map fun b => (b.chargeBoxId, trimmedDescription b.description))).get?
          chargeBoxId with
    | none => rfl
    | some entry =>
        obtain ⟨hentry, hkey⟩ := KeyedLog.get?_eq_some.mp hget
        rcases KeyedLog.mem_upsertAll hentry with hempty | hmem
        · cases hempty
        · obtain ⟨b, hb, rfl⟩ := List.mem_map.mp hmem
          rw [Option.bind_some]
          dsimp only at hkey ⊢
          exact hboxes b hb hkey
  unfold descByChargeBoxId getChargeBoxes
  cases hroster : run.second.roster with
  | ok boxes =>
      exact hnone boxes fun b hb hid =>
        absurd ⟨boxes, hroster, b, hb, hid, rfl⟩ (h (trimmedDescription b.description))
  | error _ =>
      dsimp only
      cases run.second.transactions with
      | ok transactions =>
          refine hnone _ fun b hb _ => ?_
          rw [description_of_mem_boxesOfTransactions hb]
          decide
      | error _ => rfl

/-! ## Rows -/

lemma get?_upsertCharger (value : Charger) :
    (run.upsertCharger table value).get? chargeBoxId =
      if value.chargeBoxId = chargeBoxId then
        some ((table.get? chargeBoxId).elim value (run.onConflict value))
      else table.get? chargeBoxId := by
  unfold upsertCharger
  by_cases hid : value.chargeBoxId = chargeBoxId
  · rw [if_pos hid, ← hid]
    cases hold : table.get? value.chargeBoxId with
    | none =>
        dsimp only
        rw [KeyedLog.get?_upsert, if_pos rfl]
        rfl
    | some old =>
        have hkey : (run.onConflict value old).chargeBoxId = value.chargeBoxId :=
          (KeyedLog.get?_eq_some.mp hold).2
        dsimp only
        rw [KeyedLog.get?_upsert, if_pos hkey]
        rfl
  · rw [if_neg hid]
    cases hold : table.get? value.chargeBoxId with
    | none => rw [KeyedLog.get?_upsert, if_neg hid]
    | some old =>
        have hkey : (run.onConflict value old).chargeBoxId ≠ chargeBoxId := by
          rw [show (run.onConflict value old).chargeBoxId = value.chargeBoxId from
            (KeyedLog.get?_eq_some.mp hold).2]
          exact hid
        dsimp only
        rw [KeyedLog.get?_upsert, if_neg hkey]

lemma get?_foldl_of_forall_ne {values : List Charger}
    (h : ∀ value ∈ values, value.chargeBoxId ≠ chargeBoxId) :
    (values.foldl run.upsertCharger table).get? chargeBoxId = table.get? chargeBoxId := by
  induction values generalizing table with
  | nil => rfl
  | cons value values ih =>
      rw [List.foldl_cons, ih fun v hv => h v (List.mem_cons_of_mem _ hv), get?_upsertCharger,
        if_neg (h value List.mem_cons_self)]

lemma get?_foldl_of_mem {values : List Charger} (hnodup : (values.map Charger.chargeBoxId).Nodup)
    {value : Charger} (hvalue : value ∈ values) :
    (values.foldl run.upsertCharger table).get? value.chargeBoxId =
      some ((table.get? value.chargeBoxId).elim value (run.onConflict value)) := by
  induction values generalizing table with
  | nil => cases hvalue
  | cons first values ih =>
      obtain ⟨hfresh, hnodup⟩ := List.nodup_cons.mp hnodup
      have hne : ∀ v ∈ values, v.chargeBoxId ≠ first.chargeBoxId := fun v hv heq =>
        hfresh (heq ▸ List.mem_map_of_mem hv)
      rw [List.foldl_cons]
      rcases List.mem_cons.mp hvalue with rfl | hmem
      · rw [get?_foldl_of_forall_ne hne, get?_upsertCharger, if_pos rfl]
      · rw [ih hnodup hmem, get?_upsertCharger, if_neg (hne value hmem).symm]

/-- The rows after a refresh. -/
theorem get?_refreshCharger :
    (run.refreshCharger table).get? chargeBoxId =
      match run.collectSeenChargers.get? chargeBoxId with
      | none => table.get? chargeBoxId
      | some seen => some ((table.get? chargeBoxId).elim (run.newCharger seen)
          (run.onConflict (run.newCharger seen))) := by
  have hfold : run.refreshCharger table =
      (run.collectSeenChargers.entries.map run.newCharger).foldl run.upsertCharger table := by
    unfold refreshCharger
    split
    · next hempty =>
      rw [hempty]
      rfl
    · rfl
  rw [hfold]
  cases hseen : run.collectSeenChargers.get? chargeBoxId with
  | none =>
      refine get?_foldl_of_forall_ne fun value hvalue heq => ?_
      obtain ⟨seen, hmem, rfl⟩ := List.mem_map.mp hvalue
      rw [KeyedLog.get?_eq_some.mpr ⟨hmem, heq⟩] at hseen
      cases hseen
  | some seen =>
      obtain ⟨hmem, rfl⟩ := KeyedLog.get?_eq_some.mp hseen
      have hnodup : ((run.collectSeenChargers.entries.map run.newCharger).map
          Charger.chargeBoxId).Nodup := by
        rw [List.map_map]
        exact run.collectSeenChargers.nodup
      exact get?_foldl_of_mem hnodup (List.mem_map_of_mem hmem)

/-! ## Names and numbers -/

/-- The row of a charger that has been seen. -/
lemma get?_of_seen {old : Charger} (hold : old ∈ table.entries) {seen : SeenRow}
    (hseen : run.collectSeenChargers.get? old.chargeBoxId = some seen) :
    (run.refreshCharger table).get? old.chargeBoxId =
        some (run.onConflict (run.newCharger seen) old) ∧
      (run.onConflict (run.newCharger seen) old).friendlyName =
        (run.descByChargeBoxId.get? old.chargeBoxId).bind Prod.snd := by
  have hrow : table.get? old.chargeBoxId = some old := KeyedLog.get?_eq_some.mpr ⟨hold, rfl⟩
  constructor
  · rw [get?_refreshCharger, hseen, hrow]
    rfl
  · show (run.descByChargeBoxId.get? seen.chargeBoxId).bind Prod.snd = _
    rw [(KeyedLog.get?_eq_some.mp hseen).2]

/-- The names are kept just when no charger that has been seen has one to lose. -/
theorem keepsNames_iff (run : RefreshRun) (table : ChargerTable) :
    run.KeepsNames table ↔ run.NothingToLose table := by
  constructor
  · intro hkeeps old hold seen hseen hnot
    obtain ⟨new, hnew, hchanged, hkept⟩ := hkeeps old hold
    obtain ⟨hget, hname⟩ := get?_of_seen hold hseen
    rw [hget] at hnew
    obtain rfl := Option.some.inj hnew
    rw [get?_of_not_describes hnot] at hname
    constructor
    · by_cases hsame : (run.onConflict (run.newCharger seen) old).friendlyName = old.friendlyName
      · exact Or.inl (hsame.symm.trans hname)
      · have hdescribed := hchanged hsame
        rw [hname] at hdescribed
        exact Or.inr (hdescribed.resolve_right (hnot none))
    · intro hfirst pk hmem
      have hpk : seen.chargeBoxPk.or old.chargeBoxPk = old.chargeBoxPk :=
        (hkept fun name => not_or.mpr ⟨hfirst name, hnot name⟩).2
      rw [hmem, Option.some_or] at hpk
      exact hpk.symm
  · intro hlose old hold
    cases hseen : run.collectSeenChargers.get? old.chargeBoxId with
    | none =>
        refine ⟨old, ?_, fun hne => absurd rfl hne, fun _ => ⟨rfl, rfl⟩⟩
        rw [get?_refreshCharger, hseen]
        show table.get? old.chargeBoxId = some old
        exact KeyedLog.get?_eq_some.mpr ⟨hold, rfl⟩
    | some seen =>
        obtain ⟨hget, hname⟩ := get?_of_seen hold hseen
        refine ⟨_, hget, fun hne => ?_, fun hnone => ?_⟩
        · by_cases hdescribed : ∃ name, run.second.Describes old.chargeBoxId name
          · obtain ⟨name, hdescribes⟩ := hdescribed
            exact Or.inr (hname ▸ describes_get? hdescribes)
          · have hnot : ∀ name, ¬run.second.Describes old.chargeBoxId name := fun name h =>
              hdescribed ⟨name, h⟩
            rw [get?_of_not_describes hnot] at hname
            rcases (hlose old hold seen hseen hnot).1 with hunnamed | hfirst
            · exact absurd (hname.trans hunnamed.symm) hne
            · exact Or.inl (hname ▸ hfirst)
        · have hnot : ∀ name, ¬run.second.Describes old.chargeBoxId name := fun name h =>
            hnone name (Or.inr h)
          have hfirst : ∀ name, ¬run.first.Describes old.chargeBoxId name := fun name h =>
            hnone name (Or.inl h)
          obtain ⟨hunnamed, hpk⟩ := hlose old hold seen hseen hnot
          constructor
          · rw [hname, get?_of_not_describes hnot, hunnamed.resolve_right (hfirst none)]
          · show seen.chargeBoxPk.or old.chargeBoxPk = old.chargeBoxPk
            cases hfresh : seen.chargeBoxPk with
            | none => rfl
            | some pk => exact (hpk hfirst pk hfresh).symm

/-- No refresh loses the number of a charger. -/
theorem chargeBoxPk_kept {old : Charger} (hold : old ∈ table.entries)
    (hpk : old.chargeBoxPk.isSome) : ∃ new,
      (run.refreshCharger table).get? old.chargeBoxId = some new ∧ new.chargeBoxPk.isSome := by
  cases hseen : run.collectSeenChargers.get? old.chargeBoxId with
  | none =>
      refine ⟨old, ?_, hpk⟩
      rw [get?_refreshCharger, hseen]
      show table.get? old.chargeBoxId = some old
      exact KeyedLog.get?_eq_some.mpr ⟨hold, rfl⟩
  | some seen =>
      refine ⟨_, (get?_of_seen hold hseen).1, ?_⟩
      show (seen.chargeBoxPk.or old.chargeBoxPk).isSome
      rw [Option.isSome_or, hpk, Bool.or_true]

end RefreshRun

/-! ## An outage -/

/-- A charger with a name. -/
def garageTable : ChargerTable :=
  KeyedLog.empty.upsert ⟨"CP1", some 7, some "Garage", 1000, 2000, ["charger"]⟩

/-- StEvE is away, and the charger is known from the operation log. -/
def outage : RefreshRun where
  first := ⟨.error "502", .error "502"⟩
  operationLog := .ok ["CP1"]
  second := ⟨.error "502", .error "502"⟩
  now := 3000

/-- The name is gone. -/
theorem not_keepsNames_outage : ¬outage.KeepsNames garageTable := by
  intro hkeeps
  obtain ⟨new, hnew, -, hkept⟩ := hkeeps ⟨"CP1", some 7, some "Garage", 1000, 2000, ["charger"]⟩
    (KeyedLog.mem_upsert.mpr (Or.inl rfl))
  have hafter : (outage.refreshCharger garageTable).get? "CP1" =
      some ⟨"CP1", some 7, none, 1000, 3000, ["charger"]⟩ := by decide +kernel
  rw [hafter] at hnew
  obtain rfl := Option.some.inj hnew
  have hnone : ∀ name, ¬outage.Described "CP1" name := by
    rintro name (⟨_, hroster, _⟩ | ⟨_, hroster, _⟩)
    · cases hroster
    · cases hroster
  cases (hkept hnone).1

end ExpresSync
