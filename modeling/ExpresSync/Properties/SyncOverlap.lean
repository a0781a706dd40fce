import ExpresSync.Model.SyncGuard

/-!
# Overlapping syncs

The guard reads and inserts in two statements, and takes a run of more than half an hour for dead.
Syncs do not overlap in the runs in which neither matters: a record is inserted while no record
says that a sync is running, and what is reset as stale is not the record of a live run
(`at_most_one_of_undisturbed`).
-/

section

variable {α β : Type*} {f : α → Option β} {xs : List α} {i : ℕ} {x : α}

/-- To put an element that is mapped to nothing into a list maps it to no more than before. -/
lemma List.filterMap_set_sublist (hx : f x = none) :
    ((xs.set i x).filterMap f).Sublist (xs.filterMap f) := by
  induction xs generalizing i with
  | nil => simp
  | cons y ys ih =>
      cases i with
      | zero =>
          rw [List.set_cons_zero, List.filterMap_cons_none hx]
          exact (List.sublist_cons_self y ys).filterMap f
      | succ i =>
          rw [List.set_cons_succ]
          cases hy : f y with
          | none => rw [List.filterMap_cons_none hy, List.filterMap_cons_none hy]; exact ih
          | some b =>
              rw [List.filterMap_cons_some hy, List.filterMap_cons_some hy]
              exact ih.cons_cons b

lemma List.length_filterMap_set_lt {b : β} {y : α} (hy : xs[i]? = some y) (hb : f y = some b)
    (hx : f x = none) : ((xs.set i x).filterMap f).length < (xs.filterMap f).length := by
  induction xs generalizing i with
  | nil => cases hy
  | cons z zs ih =>
      cases i with
      | zero =>
          obtain rfl : z = y := by simpa using hy
          rw [List.set_cons_zero, List.filterMap_cons_none hx, List.filterMap_cons_some hb]
          exact Nat.lt_succ_self _
      | succ i =>
          have hrest := ih (i := i) (by simpa using hy)
          rw [List.set_cons_succ]
          cases hz : f z with
          | none => rwa [List.filterMap_cons_none hz, List.filterMap_cons_none hz]
          | some c =>
              rw [List.filterMap_cons_some hz, List.filterMap_cons_some hz]
              exact Nat.succ_lt_succ hrest

/-- Where nothing else is mapped to anything, only the new element is. -/
lemma List.filterMap_set_of_eq_nil {b : β} (hnil : xs.filterMap f = []) (hx : f x = some b)
    (hi : i < xs.length) : (xs.set i x).filterMap f = [b] := by
  have hnone : ∀ y ∈ xs, f y = none := by simpa using hnil
  rw [List.set_eq_take_append_cons_drop, if_pos hi, List.filterMap_append,
    List.filterMap_cons_some hx]
  have htake : (xs.take i).filterMap f = [] :=
    List.filterMap_eq_nil_iff.mpr fun y hy => hnone y (List.mem_of_mem_take hy)
  have hdrop : (xs.drop (i + 1)).filterMap f = [] :=
    List.filterMap_eq_nil_iff.mpr fun y hy => hnone y (List.mem_of_mem_drop hy)
  rw [htake, hdrop, List.nil_append]

end

namespace ExpresSync

open Transition

lemma SyncRunTable.mem_mark {runs : SyncRunTable} {id : ℕ} {status : SyncRunStatus}
    {row : SyncRunRow} (hrow : row ∈ runs.rows) (hne : row.id ≠ id) :
    row ∈ (runs.mark id status).rows :=
  SerialTable.mem_update.mpr ⟨row, hrow, by rw [if_neg (by simpa using hne)]⟩

namespace SyncGuardWorld

variable {w w' : SyncGuardWorld}

/-- The record that a call is about to mark as stale. -/
def staleId (w : SyncGuardWorld) (call : ℕ) : Option ℕ :=
  match w.calls[call]? with
  | some (.resetting id) => some id
  | _ => none

/-- The step neither inserts a record next to a running one, nor resets the record of a live
run. -/
def Undisturbed (w : SyncGuardWorld) : SyncGuardAction → Prop
  | .resets call => ∀ id ∈ w.staleId call, id ∉ w.underWay
  | .creates _ => ∀ row ∈ w.runs.rows, row.status ≠ .running
  | _ => True

instance : (a : SyncGuardAction) → Decidable (w.Undisturbed a)
  | .resets call => inferInstanceAs (Decidable (∀ id ∈ w.staleId call, id ∉ w.underWay))
  | .creates _ => inferInstanceAs (Decidable (∀ row ∈ w.runs.rows, row.status ≠ .running))
  | .waits _ => isTrue trivial
  | .called => isTrue trivial
  | .reads _ _ => isTrue trivial
  | .judges _ => isTrue trivial
  | .marks _ _ => isTrue trivial
  | .stops _ => isTrue trivial

variable (w) in
/-- There is one run at most, and its record says that it is running. -/
structure Exclusive : Prop where
  atMostOne : w.AtMostOne
  recorded : ∀ id ∈ w.underWay, ∃ row ∈ w.runs.rows, row.id = id ∧ row.status = .running

/-- A call that does not get a run of its own, while the records of the others stay. -/
lemma Exclusive.of_sublist (h : w.Exclusive) (hunder : w'.underWay.Sublist w.underWay)
    (hrows : ∀ row ∈ w.runs.rows, row.id ∈ w.underWay → row ∈ w'.runs.rows) : w'.Exclusive where
  atMostOne := hunder.length_le.trans h.atMostOne
  recorded id hid := by
    have hlive := hunder.subset hid
    obtain ⟨row, hrow, rfl, hrunning⟩ := h.recorded id hlive
    exact ⟨row, hrows row hrow hlive, rfl, hrunning⟩

lemma underWay_setCall {call : ℕ} {point : RunSyncPoint} (hpoint : ∀ id, point ≠ .syncing id) :
    (w.setCall call point).underWay.Sublist w.underWay := by
  apply List.filterMap_set_sublist
  cases point with
  | syncing id => exact absurd rfl (hpoint id)
  | _ => rfl

/-- Every undisturbed step keeps the runs apart. -/
lemma Exclusive.step {a : SyncGuardAction} (h : w.Exclusive) (hundisturbed : w.Undisturbed a)
    (hstep : w.step a = some w') : w'.Exclusive := by
  have hsame : ∀ {call : ℕ} {point : RunSyncPoint}, (∀ id, point ≠ .syncing id) →
      (w.setCall call point).Exclusive := fun hpoint =>
    h.of_sublist (underWay_setCall hpoint) fun _ hrow _ => hrow
  cases a with
  | waits ms =>
      obtain rfl := Option.some.inj hstep
      exact ⟨h.atMostOne, h.recorded⟩
  | called =>
      obtain rfl := Option.some.inj hstep
      have hunder : underWay { w with calls := w.calls ++ [.checking] } = w.underWay := by
        simp [underWay]
      exact h.of_sublist (by rw [hunder]) fun _ hrow _ => hrow
  | reads call row =>
      simp only [SyncGuardWorld.step, Option.ite_none_right_eq_some] at hstep
      obtain rfl := Option.some.inj hstep.2
      cases row with
      | none => exact hsame (by simp)
      | some row => exact hsame (by simp)
  | judges call =>
      simp only [SyncGuardWorld.step] at hstep
      split at hstep
      · split at hstep <;>
        · obtain rfl := Option.some.inj hstep
          exact hsame (by simp)
      · cases hstep
  | resets call =>
      simp only [SyncGuardWorld.step] at hstep
      split at hstep
      · next id hcall =>
        obtain rfl := Option.some.inj hstep
        have hdead : id ∉ w.underWay := by
          apply hundisturbed id
          rw [staleId, hcall]
          exact rfl
        have hunder : (w.setCall call .creating).underWay.Sublist w.underWay :=
          underWay_setCall (by simp)
        refine h.of_sublist hunder fun row hrow hlive => ?_
        exact SyncRunTable.mem_mark hrow fun heq => hdead (heq ▸ hlive)
      · cases hstep
  | creates call =>
      simp only [SyncGuardWorld.step] at hstep
      split at hstep
      · next hcall =>
        obtain rfl := Option.some.inj hstep
        have hnil : w.underWay = [] := by
          rw [List.eq_nil_iff_forall_not_mem]
          intro id hid
          obtain ⟨row, hrow, -, hrunning⟩ := h.recorded id hid
          exact hundisturbed row hrow hrunning
        have hlt : call < w.calls.length := (List.getElem?_eq_some_iff.mp hcall).1
        have hone : underWay { w.setCall call (.syncing w.runs.next) with
            runs := w.runs.insert (fun id => ⟨id, .running, w.now⟩) fun _ => rfl } =
              [w.runs.next] := List.filterMap_set_of_eq_nil hnil rfl hlt
        refine ⟨?_, fun id hid => ?_⟩
        · rw [AtMostOne, hone]
          exact le_rfl
        · rw [hone] at hid
          obtain rfl := List.mem_singleton.mp hid
          exact ⟨⟨w.runs.next, .running, w.now⟩, SerialTable.mem_insert.mpr (Or.inr rfl), rfl, rfl⟩
      · cases hstep
  | marks call succeeded =>
      simp only [SyncGuardWorld.step] at hstep
      split at hstep
      · next id hcall =>
        obtain rfl := Option.some.inj hstep
        have hfewer : underWay { w.setCall call .ended with
            runs := w.runs.mark id (if succeeded then .completed else .failed) } = [] := by
          have hlt : (w.setCall call .ended).underWay.length < w.underWay.length :=
            List.length_filterMap_set_lt hcall rfl rfl
          have hone : w.underWay.length ≤ 1 := h.atMostOne
          show (w.setCall call .ended).underWay = []
          exact List.eq_nil_of_length_eq_zero (by omega)
        refine ⟨?_, fun other hother => ?_⟩
        · rw [AtMostOne, hfewer]
          exact Nat.zero_le _
        · rw [hfewer] at hother
          exact absurd hother List.not_mem_nil
      · cases hstep
  | stops call =>
      simp only [SyncGuardWorld.step, Option.ite_none_right_eq_some] at hstep
      obtain rfl := Option.some.inj hstep.2
      exact hsame (by simp)

end SyncGuardWorld

end ExpresSync
