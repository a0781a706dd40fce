import ExpresSync.Foundation.Transition
import ExpresSync.Model.DeviceTags
import ExpresSync.Model.TagSync

/-!
# The activity of a device tag

In StEvE a tag with limit `0` is blocked and one with limit `-1` is not limited.  A tag sync writes
these two, and `ensureDeviceTag` takes a tag for active when its limit is above `0`.  So a run keeps
the activity of its devices exactly when no call finds a tag with a limit below `0`
(`keepsActivity_iff`), and after a tag sync every device that registers again is switched off
(`inactive_of_syncTags`).
-/

namespace ExpresSync

open Transition

/-! ## Runs -/

/-- What StEvE does with the updates of a pass. -/
def TagSyncInputs.faults (inputs : TagSyncInputs) : SteveFaults :=
  { SteveFaults.none with
    accepts := fun request =>
      match request with
      | .update tag => (inputs.updateOcppTag tag).isOk
      | _ => true }

inductive DeviceStep where
  | ensuresDeviceTag (call : DeviceTagCall)
  | syncsTags (inputs : TagSyncInputs)

namespace TagWorld

/-- The mappings that a tag sync goes by: those of the active rows. -/
def mappingLookup (w : TagWorld) : String → Option UserMapping :=
  buildMappingLookupWithInheritance (w.mappings.table.rows.filter (·.isActive)) w.tags.table.rows

/-- A tag sync of all tags, with the active rows. -/
def syncTags (w : TagWorld) (inputs : TagSyncInputs) : TagWorld :=
  let mappings := w.mappings.table.rows.filter (·.isActive)
  w.sendAll inputs.faults
    ((syncTagStatus inputs mappings w.tags.table.rows).requests.map .update)

def deviceStep (w : TagWorld) : DeviceStep → Option TagWorld
  | .ensuresDeviceTag call => some (w.ensureDeviceTag call)
  | .syncsTags inputs => some (w.syncTags inputs)

/-- After a call that returned `isActive` the tag is as it was, and so is its activity. -/
structure StaysActive (w' : TagWorld) (tag : StEvEOcppTag) (limit : ℤ) (isActive : Bool) :
    Prop where
  listed : tag ∈ w'.tags.table.rows
  result : isActive = decide (limit ≠ 0)
  row : ∀ row ∈ w'.mappings.table.rows, row.steveOcppTagPk = tag.ocppTagPk →
    row.isActive = decide (limit ≠ 0)

/-- `ensureDeviceTag` keeps the activity of the tag it is for, or does not get to it. -/
def KeepsActivity (w : TagWorld) (a : DeviceStep) (w' : TagWorld) : Prop :=
  match a with
  | .ensuresDeviceTag call =>
      ∀ tag ∈ w.tags.table.rows, tag.idTag = call.idTag →
        ∀ limit ∈ tag.maxActiveTransactionCount,
          (w' = w ∧ (w.ensureDeviceTagResult call).1 = none) ∨
            ∃ isActive, w.ensureDeviceTagResult call = (some tag.ocppTagPk, isActive) ∧
              w'.StaysActive tag limit isActive
  | .syncsTags _ => True

/-- `ensureDeviceTag` finds no tag that is not limited. -/
def FindsLimit (w : TagWorld) (a : DeviceStep) : Prop :=
  match a with
  | .ensuresDeviceTag call =>
      ∀ user, call.Reaches user → ∀ tag ∈ w.tags.table.rows, tag.idTag = call.idTag →
        ∀ limit ∈ tag.maxActiveTransactionCount, 0 ≤ limit
  | .syncsTags _ => True

/-! ## One call -/

section Call

variable {w : TagWorld} {call : DeviceTagCall} {tag : StEvEOcppTag}

lemma isActive_upsertDeviceRow {user : DeviceTagUser} {isActive : Bool} {ocppTagPk : ℕ}
    {row : UserMapping}
    (hrow : row ∈ (w.upsertDeviceRow call user isActive ocppTagPk).mappings.table.rows)
    (hpk : row.steveOcppTagPk = ocppTagPk) : row.isActive = isActive := by
  obtain ⟨old, -, rfl⟩ := mem_upsertDeviceRow.mp hrow
  split at hpk
  · next hold =>
    rw [if_pos hold]
    rfl
  · next hold => exact absurd hpk hold

/-- A call that reaches a listed tag goes by the sign of its limit. -/
lemma ensureDeviceTag_of_listed {user : DeviceTagUser} (hreaches : call.Reaches user)
    (htag : tag ∈ w.tags.table.rows) (hname : tag.idTag = call.idTag) :
    w.ensureDeviceTagResult call =
        (some tag.ocppTagPk, decide (0 < tag.maxActiveTransactionCount.getD 0)) ∧
      ∃ user, w.ensureDeviceTag call = w.upsertDeviceRow call user
        (decide (0 < tag.maxActiveTransactionCount.getD 0)) tag.ocppTagPk := by
  have houtcome := w.ensureDeviceTag_outcome call
  generalize w.ensureDeviceTag call = w', w.ensureDeviceTagResult call = result at houtcome ⊢
  cases houtcome with
  | keeps isActive hfree => exact absurd ⟨tag, htag, hname⟩ (hfree user hreaches)
  | creates user' hreaches' hfree => exact absurd ⟨tag, htag, hname⟩ hfree
  | finds user' hreaches' other hother hname' =>
      obtain rfl : tag = other := SteveTags.eq_of_idTag htag hother (hname.trans hname'.symm)
      exact ⟨rfl, user', rfl⟩

/-- A call that does not reach its tag does nothing about it. -/
lemma ensureDeviceTag_of_not_reaches (hcall : ∀ user, ¬call.Reaches user) :
    w.ensureDeviceTag call = w ∧ (w.ensureDeviceTagResult call).1 = none := by
  have houtcome := w.ensureDeviceTag_outcome call
  generalize w.ensureDeviceTag call = w', w.ensureDeviceTagResult call = result at houtcome ⊢
  cases houtcome with
  | keeps isActive hfree => exact ⟨rfl, rfl⟩
  | creates user hreaches => exact absurd hreaches (hcall user)
  | finds user hreaches => exact absurd hreaches (hcall user)

/-- The sign agrees with the encoding of StEvE but below `0`. -/
lemma decide_pos_eq_iff (limit : ℤ) : decide (0 < limit) = decide (limit ≠ 0) ↔ 0 ≤ limit := by
  rw [decide_eq_decide]
  omega

lemma findsLimit_iff_keepsActivity {w' : TagWorld} {a : DeviceStep}
    (hstep : w.deviceStep a = some w') : w.FindsLimit a ↔ w.KeepsActivity a w' := by
  cases a with
  | syncsTags inputs => exact Iff.rfl
  | ensuresDeviceTag call =>
      obtain rfl : w.ensureDeviceTag call = w' := Option.some.inj hstep
      by_cases hcall : ∃ user, call.Reaches user
      · obtain ⟨user, hreaches⟩ := hcall
        constructor
        · intro hfinds tag htag hname limit hlimit
          obtain ⟨hresult, user', hw⟩ := ensureDeviceTag_of_listed hreaches htag hname
          have hactive : decide (0 < tag.maxActiveTransactionCount.getD 0) =
              decide (limit ≠ 0) := by
            rw [Option.mem_def.mp hlimit]
            exact (decide_pos_eq_iff limit).mpr (hfinds user hreaches tag htag hname limit hlimit)
          refine Or.inr ⟨_, hresult, ?_, hactive, ?_⟩
          · rw [hw, tags_upsertDeviceRow]
            exact htag
          · intro row hrow hpk
            rw [hw] at hrow
            rw [isActive_upsertDeviceRow hrow hpk, hactive]
        · intro hkeeps user' hreaches' tag htag hname limit hlimit
          have hresult := (ensureDeviceTag_of_listed hreaches' htag hname).1
          rcases hkeeps tag htag hname limit hlimit with ⟨-, hnone⟩ | ⟨isActive, hsays, hstays⟩
          · rw [hresult] at hnone
            exact absurd hnone (Option.some_ne_none _)
          · have hactive := (Prod.mk.inj (hresult.symm.trans hsays)).2.trans hstays.result
            rw [Option.mem_def.mp hlimit] at hactive
            exact (decide_pos_eq_iff limit).mp hactive
      · rw [not_exists] at hcall
        refine ⟨fun _ tag _ _ limit _ => Or.inl (ensureDeviceTag_of_not_reaches hcall), ?_⟩
        exact fun _ user hreaches => absurd hreaches (hcall user)

end Call

/-- The calls of a run keep the activity of their tags exactly when none of them finds a tag that
is not limited. -/
theorem keepsActivity_iff (w : TagWorld) (as : List DeviceStep) :
    EachStep deviceStep KeepsActivity w as ↔ Meets deviceStep FindsLimit w as :=
  (meets_iff_eachStep (I := fun _ => True) (A := fun _ _ => True) (fun _ _ _ _ _ _ _ => trivial)
    (fun _ _ _ _ _ hstep => findsLimit_iff_keepsActivity hstep) trivial
    (meets_of_forall fun _ _ => trivial)).symm

/-! ## After a tag sync -/

section Pass

variable {w : TagWorld} {inputs : TagSyncInputs}

lemma desiredLimit_eq (mapping : Option UserMapping) :
    desiredLimit mapping = -1 ∨ desiredLimit mapping = 0 := by
  unfold desiredLimit
  split
  · exact Or.inl rfl
  · exact Or.inr rfl

/-- The tags after a pass. -/
lemma mem_syncTags {row : StEvEOcppTag} : row ∈ (w.syncTags inputs).tags.table.rows ↔
    ∃ old ∈ w.tags.table.rows, row =
      if old ∈ w.tags.table.rows.filter (inputs.needsUpdate w.mappingLookup) ∧
          inputs.faults.accepts (.update (inputs.updatedTag w.mappingLookup old)) = true then
        inputs.updatedTag w.mappingLookup old
      else old := by
  have hsent : (w.syncTags inputs).tags = w.tags.sendAll inputs.faults
      ((w.tags.table.rows.filter (inputs.needsUpdate w.mappingLookup)).map
        fun tag => .update (inputs.updatedTag w.mappingLookup tag)) := by
    rw [syncTags, syncTagStatus_requests, List.map_map]
    rfl
  rw [hsent]
  exact SteveTags.mem_sendAll_updates (f := inputs.updatedTag w.mappingLookup) (fun _ => rfl)
    (fun _ => rfl) (fun tag htag => (List.mem_filter.mp htag).1)
    (w.tags.table.nodup.sublist (List.filter_sublist.map _))

/-- A pass that StEvE goes along with leaves limits `-1` and `0` only. -/
lemma currentLimit_syncTags (haccepts : ∀ tag, inputs.updateOcppTag tag = .ok ())
    {row : StEvEOcppTag} (hrow : row ∈ (w.syncTags inputs).tags.table.rows) :
    TagSyncInputs.currentLimit row = -1 ∨ TagSyncInputs.currentLimit row = 0 := by
  obtain ⟨old, hold, rfl⟩ := mem_syncTags.mp hrow
  have haccept : inputs.faults.accepts (.update (inputs.updatedTag w.mappingLookup old)) =
      true := by
    show (inputs.updateOcppTag _).isOk = true
    rw [haccepts]
    rfl
  by_cases hneeds : inputs.needsUpdate w.mappingLookup old = true
  · rw [if_pos ⟨List.mem_filter.mpr ⟨hold, hneeds⟩, haccept⟩]
    exact desiredLimit_eq (w.mappingLookup old.idTag)
  · rw [if_neg fun hsent => hneeds (List.mem_filter.mp hsent.1).2]
    have hstatus : TagSyncInputs.statusChanged w.mappingLookup old = false := by
      rw [Bool.not_eq_true, TagSyncInputs.needsUpdate, Bool.or_eq_false_iff] at hneeds
      exact hneeds.1
    have hcurrent : TagSyncInputs.currentLimit old = desiredLimit (w.mappingLookup old.idTag) := by
      simpa [TagSyncInputs.statusChanged] using hstatus
    rw [hcurrent]
    exact desiredLimit_eq (w.mappingLookup old.idTag)

/-- After a tag sync, every device that registers again counts as inactive. -/
theorem inactive_of_syncTags (haccepts : ∀ tag, inputs.updateOcppTag tag = .ok ())
    {call : DeviceTagCall} {user : DeviceTagUser} (hreaches : call.Reaches user)
    {tag : StEvEOcppTag}
    (htag : tag ∈ (w.syncTags inputs).tags.table.rows) (hname : tag.idTag = call.idTag) :
    (w.syncTags inputs).ensureDeviceTagResult call = (some tag.ocppTagPk, false) ∧
      ∀ row ∈ ((w.syncTags inputs).ensureDeviceTag call).mappings.table.rows,
        row.steveOcppTagPk = tag.ocppTagPk → row.isActive = false := by
  obtain ⟨hresult, user', hw⟩ := ensureDeviceTag_of_listed hreaches htag hname
  have hinactive : decide (0 < tag.maxActiveTransactionCount.getD 0) = false := by
    have hlimit := currentLimit_syncTags haccepts htag
    rw [TagSyncInputs.currentLimit] at hlimit
    rw [decide_eq_false_iff_not]
    cases hcount : tag.maxActiveTransactionCount with
    | none => exact lt_irrefl 0
    | some limit =>
        rw [hcount, Option.getD_some] at hlimit
        rw [Option.getD_some]
        omega
  rw [hinactive] at hresult hw
  refine ⟨hresult, fun row hrow hpk => ?_⟩
  rw [hw] at hrow
  exact isActive_upsertDeviceRow hrow hpk

end Pass

/-! ## A phone -/

def phoneCall : DeviceTagCall where
  deviceId := "3f2a9c41-77de-4b0e-9c31-5d6f1a2b3c4d"
  userId := "user"
  userPublicId := "7KQ2M9XA"
  displayName := some "Phone"
  user := some ⟨true, some "lago_1"⟩
  faults := .none

/-- The tag of a phone as it was created, with a row that pays for it. -/
def phoneWorld : TagWorld where
  tags :=
    { table :=
        { rows := [⟨"OCPP-D-7KQ2M9XA-3F2A9C", 1, none, none, none, some 1, none⟩]
          next := 2
          key_lt := by decide
          nodup := by decide }
      nodup_idTag := by decide }
  mappings :=
    { table :=
        { rows := [⟨1, 1, "OCPP-D-7KQ2M9XA-3F2A9C", some "lago_1", some "sub_1", some "Phone", .app,
            true, none, none, some "user"⟩]
          next := 2
          key_lt := by decide
          nodup := by decide }
      nodup_pk := by decide }
  numbered := by decide

/-- StEvE stores what it is sent. -/
def quietPass : TagSyncInputs :=
  ⟨fun _ => none, "2026-05-07T09:00:00.000Z", none, fun _ => true, fun _ => .ok ()⟩

/-- A tag sync lifts the limit of the phone, and the next registration switches it off. -/
theorem not_keepsActivity_phone :
    ¬∀ (w : TagWorld) (as : List DeviceStep), EachStep deviceStep KeepsActivity w as := by
  intro hall
  have hkeeps : (phoneWorld.syncTags quietPass).KeepsActivity (.ensuresDeviceTag phoneCall) _ :=
    (((hall phoneWorld [.syncsTags quietPass, .ensuresDeviceTag phoneCall]) _ rfl).2 _ rfl).1
  have hlifted : ∃ tag ∈ (phoneWorld.syncTags quietPass).tags.table.rows,
      tag.idTag = phoneCall.idTag ∧ tag.maxActiveTransactionCount = some (-1) := by
    decide +kernel
  obtain ⟨tag, htag, hname, hlimit⟩ := hlifted
  have hfinds := (findsLimit_iff_keepsActivity rfl).mpr hkeeps
  have hreaches : phoneCall.Reaches ⟨true, some "lago_1"⟩ := ⟨rfl, rfl, rfl⟩
  exact absurd (hfinds _ hreaches tag htag hname (-1) hlimit) (by decide)

/-- The next tag sync then blocks it. -/
example : ((run deviceStep phoneWorld [.syncsTags quietPass, .ensuresDeviceTag phoneCall,
    .syncsTags quietPass]).map fun w =>
      w.tags.table.rows.map (·.maxActiveTransactionCount)) = some [some 0] := by
  decide +kernel

end TagWorld

end ExpresSync
