import ExpresSync.Foundation.Transition
import ExpresSync.Model.ProfileEdits

/-!
# Edits that overlap

The row of a subscription is unique, so no edit goes to another row.  Its number is the one after
that of the row an edit has read, so the numbers go up while no edit is written over one that it has
not read.  What Lago has is the row's as long as no older edit overtakes the newest one, neither on
the way to Lago nor with its stamp (`converges_of_meets`).
-/

namespace ExpresSync

open Transition

def EditPoint.Finished : EditPoint → Prop
  | .returned _ | .thrown => True
  | _ => False

instance (point : EditPoint) : Decidable point.Finished := by
  unfold EditPoint.Finished
  split <;> infer_instance

namespace ProfileEdit

variable (e : ProfileEdit)

/-- The profile that the call has returned. -/
def result : Option ProfileRow :=
  match e.point with
  | .returned _ => e.row
  | _ => none

lemma row_of_result {profile : ProfileRow} (h : e.result = some profile) :
    e.row = some profile := by
  unfold result at h
  split at h
  · exact h
  · cases h

end ProfileEdit

namespace ProfileWorld

variable (w : ProfileWorld)

def returnedId (i : ℕ) : Option ℕ :=
  (w.edits[i]?).bind fun e => e.result.map fun profile => profile.ocppChargingProfileId

/-- Lago has the row's preset, windows and limit. -/
def LagoHas (row : ProfileRow) : Prop := w.lago.map LagoChargingProfile.shape = some row.shape

instance (row : ProfileRow) : Decidable (w.LagoHas row) := inferInstanceAs (Decidable (_ = _))

/-- Edits do not diverge. -/
structure Converges : Prop where
  numbers : (w.writes.filterMap w.returnedId).Pairwise (· < ·)
  listed : ∀ i, (w.returnedId i).isSome → i ∈ w.writes
  single : w.table.rows.length ≤ 1
  kept : ∀ e ∈ w.edits, ∀ profile ∈ e.result, ∃ row ∈ w.table.rows, row.id = profile.id
  mirrored : (∀ e ∈ w.edits, e.point.Finished) →
    ∀ row ∈ w.table.rows, row.lagoSyncError = none → w.LagoHas row

/-! ## The condition -/

/-- What holds of the newest edit, if there is one. -/
def NewestIs (P : ℕ → ProfileEdit → Prop) : Prop :=
  ∀ n ∈ w.writes.getLast?, ∀ e ∈ w.edits[n]?, P n e

instance (P : ℕ → ProfileEdit → Prop) [∀ n e, Decidable (P n e)] : Decidable (w.NewestIs P) :=
  inferInstanceAs (Decidable (∀ n ∈ w.writes.getLast?, ∀ e ∈ w.edits[n]?, P n e))

/-- The row has no number but the one that the edit has read. -/
def WritesWhatItRead : EditPoint → Prop
  | .writing (some existing) _ =>
      ∀ row ∈ w.table.rows, row.ocppChargingProfileId = existing.ocppChargingProfileId
  | _ => True

/-- The edit's mirror is the row's, or that of the newest edit has not reached Lago yet. -/
def LandsInOrder (e : ProfileEdit) : Prop :=
  (∀ mirrored ∈ e.row, ∀ row ∈ w.table.rows, mirrored.shape = row.shape) ∨
    w.NewestIs fun n newest => newest.point = .mirroring ∧ n ∉ w.landings

/-- A success is stamped when Lago has the row's mirror, or the newest edit has not finished; and
where the stamp of an error fails, the edit is not the newest one, or Lago has the row's mirror, or
the row has an error already. -/
def StampsInOrder (i : ℕ) : Option String → EditPoint → Prop
  | none, .stamping none =>
      (∀ row ∈ w.table.rows, w.LagoHas row) ∨ w.NewestIs fun _ newest => ¬newest.point.Finished
  | some _, .stamping (some _) =>
      (w.NewestIs fun n _ => n ≠ i) ∨
        ∀ row ∈ w.table.rows, w.LagoHas row ∨ row.lagoSyncError ≠ none
  | _, _ => True

instance (point : EditPoint) : Decidable (w.WritesWhatItRead point) := by
  unfold WritesWhatItRead
  split <;> infer_instance

instance (e : ProfileEdit) : Decidable (w.LandsInOrder e) := inferInstanceAs (Decidable (_ ∨ _))

instance (i : ℕ) (error : Option String) (point : EditPoint) :
    Decidable (w.StampsInOrder i error point) := by
  unfold StampsInOrder
  split <;> infer_instance

/-- No older edit overtakes a newer one. -/
def KeepsOrder : ProfileAction → Prop
  | .writes i true => ∀ e ∈ w.edits[i]?, w.WritesWhatItRead e.point
  | .lands i => ∀ e ∈ w.edits[i]?, w.LandsInOrder e
  | .stamps i _ error => ∀ e ∈ w.edits[i]?, w.StampsInOrder i error e.point
  | _ => True

instance (a : ProfileAction) : Decidable (w.KeepsOrder a) := by
  unfold KeepsOrder
  split <;> infer_instance

/-! ## Edits in order -/

/-- The number that an edit has written. -/
def writtenId (i : ℕ) : Option ℕ :=
  (w.edits[i]?).bind fun e => e.row.map fun row => row.ocppChargingProfileId

/-- What has come of the newest edit's mirror. -/
def Settled (n : ℕ) (point : EditPoint) (row : ProfileRow) : Prop :=
  match point with
  | .mirroring => n ∈ w.landings → w.LagoHas row
  | .stamping none => w.LagoHas row
  | .stamping (some _) => True
  | .returned _ | .thrown => w.LagoHas row ∨ row.lagoSyncError ≠ none
  | .reading | .writing _ _ => False

end ProfileWorld

/-- A call has its row from the write on. -/
def ProfileEdit.Fits (e : ProfileEdit) : Prop :=
  match e.point with
  | .reading | .writing _ _ => e.row = none
  | .mirroring | .stamping _ | .returned _ => e.row.isSome
  | .thrown => True

namespace ProfileWorld

/-- What holds as long as the edits keep their order. -/
structure Ordered (w : ProfileWorld) : Prop where
  single : w.table.rows.length ≤ 1
  fits : ∀ e ∈ w.edits, e.Fits
  stored : ∀ e ∈ w.edits, ∀ written ∈ e.row, ∃ row ∈ w.table.rows, row.id = written.id
  wrote : ∀ i, i ∈ w.writes ↔ (w.writtenId i).isSome
  landed : ∀ i ∈ w.landings, i ∈ w.writes
  numbers : (w.writes.filterMap w.writtenId).Pairwise (· < ·)
  below : ∀ n ∈ w.writes.filterMap w.writtenId, ∀ row ∈ w.table.rows,
    n ≤ row.ocppChargingProfileId
  newest : ∀ row ∈ w.table.rows, ∃ n e written, w.writes.getLast? = some n ∧
    w.edits[n]? = some e ∧ e.row = some written ∧ written.shape = row.shape ∧
    w.Settled n e.point row

variable {w w' : ProfileWorld} {i : ℕ} {e e' : ProfileEdit} {row : ProfileRow} {a : ProfileAction}

lemma ordered_initial : initial.Ordered where
  single := Nat.zero_le 1
  fits _ he := absurd he List.not_mem_nil
  stored _ he := absurd he List.not_mem_nil
  wrote _ := iff_of_false List.not_mem_nil Bool.false_ne_true
  landed _ hi := absurd hi List.not_mem_nil
  numbers := List.Pairwise.nil
  below _ hn := absurd hn List.not_mem_nil
  newest _ hrow := absurd hrow List.not_mem_nil

lemma getElem?_setEdit (he : w.edits[i]? = some e) (j : ℕ) :
    (w.edits.set i e')[j]? = if i = j then some e' else w.edits[j]? := by
  rw [List.getElem?_set, if_pos (List.getElem?_eq_some_iff.mp he).1]

/-- What has been written stays. -/
lemma writtenId_set (he : w.edits[i]? = some e) (hedits : w'.edits = w.edits.set i e')
    (hrow : (e'.row.map fun row => row.ocppChargingProfileId) =
      e.row.map fun row => row.ocppChargingProfileId) : w'.writtenId = w.writtenId := by
  funext j
  rw [writtenId, writtenId, hedits, getElem?_setEdit he]
  split
  · next hij =>
    rw [← hij, he]
    exact hrow
  · rfl

/-- A property of all calls, when one of them goes on. -/
lemma forall_set {P : ProfileEdit → Prop} (h : ∀ e ∈ w.edits, P e) (he' : P e') :
    ∀ e ∈ w.edits.set i e', P e := by
  intro other hother
  rcases List.mem_or_eq_of_mem_set hother with hmem | rfl
  · exact h other hmem
  · exact he'

lemma Ordered.rows_eq (h : w.Ordered) (hrow : row ∈ w.table.rows) : w.table.rows = [row] := by
  have hsingle := h.single
  obtain ⟨first, rest, hrows⟩ := List.exists_cons_of_ne_nil (List.ne_nil_of_mem hrow)
  rw [hrows] at hrow hsingle ⊢
  have hrest : rest.length = 0 := Nat.le_zero.mp (Nat.le_of_succ_le_succ hsingle)
  obtain rfl := List.length_eq_zero_iff.mp hrest
  rw [List.mem_singleton.mp hrow]

/-! ### Calls that go on -/

lemma Ordered.called (h : w.Ordered) (input : UpsertProfileInput) :
    Ordered { w with edits := w.edits ++ [⟨input, .reading, none⟩] } := by
  have hold : ∀ j e, w.edits[j]? = some e →
      (w.edits ++ [(⟨input, .reading, none⟩ : ProfileEdit)])[j]? = some e := fun j e he => by
    rw [List.getElem?_append_left (List.getElem?_eq_some_iff.mp he).1, he]
  have hwritten : writtenId { w with edits := w.edits ++ [⟨input, .reading, none⟩] } =
      w.writtenId := by
    funext j
    rw [writtenId, writtenId]
    cases he : w.edits[j]? with
    | some e =>
        dsimp only
        rw [hold j e he]
    | none =>
        dsimp only
        rw [List.getElem?_append_right (List.getElem?_eq_none_iff.mp he)]
        cases j - w.edits.length with
        | zero => rfl
        | succ _ => rfl
  constructor
  · exact h.single
  · intro e he
    rcases List.mem_append.mp he with hmem | hnew
    · exact h.fits e hmem
    · rw [List.mem_singleton.mp hnew]
      exact rfl
  · intro e he
    rcases List.mem_append.mp he with hmem | hnew
    · exact h.stored e hmem
    · rw [List.mem_singleton.mp hnew]
      nofun
  · rw [hwritten]
    exact h.wrote
  · exact h.landed
  · rw [hwritten]
    exact h.numbers
  · rw [hwritten]
    exact h.below
  · intro row hrow
    obtain ⟨n, e, written, hlast, he, hwrote, hshape, hsettled⟩ := h.newest row hrow
    exact ⟨n, e, written, hlast, hold n e he, hwrote, hshape, hsettled⟩

lemma Ordered.moved (h : w.Ordered) (he : w.edits[i]? = some e) {point : EditPoint}
    (hfits : ({ e with point := point } : ProfileEdit).Fits)
    (hsettled : w.writes.getLast? = some i → ∀ row ∈ w.table.rows, w.Settled i e.point row →
      w.Settled i point row) :
    (w.setEdit i { e with point := point }).Ordered := by
  have hwritten : (w.setEdit i { e with point := point }).writtenId = w.writtenId :=
    writtenId_set he rfl rfl
  constructor
  · exact h.single
  · exact forall_set h.fits hfits
  · exact forall_set h.stored (h.stored e (List.mem_of_getElem? he))
  · rw [hwritten]
    exact h.wrote
  · exact h.landed
  · rw [hwritten]
    exact h.numbers
  · rw [hwritten]
    exact h.below
  · intro row hrow
    obtain ⟨n, e', written, hlast, he', hwrote, hshape, hold⟩ := h.newest row hrow
    by_cases hin : i = n
    · subst hin
      obtain rfl : e = e' := Option.some.inj (he.symm.trans he')
      refine ⟨i, { e with point := point }, written, hlast, ?_, hwrote, hshape,
        hsettled hlast row hrow hold⟩
      show (w.edits.set i _)[i]? = _
      rw [getElem?_setEdit he, if_pos rfl]
    · refine ⟨n, e', written, hlast, ?_, hwrote, hshape, hold⟩
      show (w.edits.set i _)[n]? = _
      rw [getElem?_setEdit he, if_neg hin, he']

/-! ### Statements and requests -/

lemma Ordered.wroteRow (h : w.Ordered) (he : w.edits[i]? = some e) (hnone : e.row = none)
    {table : ProfileTable} (hrows : table.rows = [row])
    (hids : ∀ old ∈ w.table.rows, old.id = row.id)
    (hnumbers : ∀ n ∈ w.writes.filterMap w.writtenId, n < row.ocppChargingProfileId) :
    (w.wrote i e table row).Ordered := by
  have hget : ∀ j, (w.wrote i e table row).edits[j]? =
      if i = j then some { e with point := .mirroring, row := some row } else w.edits[j]? :=
    fun j => getElem?_setEdit he j
  have hwritten : ∀ j, (w.wrote i e table row).writtenId j =
      if i = j then some row.ocppChargingProfileId else w.writtenId j := by
    intro j
    rw [writtenId, hget]
    split
    · rfl
    · rfl
  have hfresh : i ∉ w.writes := by
    rw [h.wrote, writtenId, he, Option.bind_some, hnone]
    exact Bool.false_ne_true
  have hids' : ∀ old ∈ w.table.rows, ∃ new ∈ table.rows, new.id = old.id := by
    intro old hold
    rw [hrows]
    exact ⟨row, List.mem_singleton_self row, (hids old hold).symm⟩
  have hlist : (w.wrote i e table row).writes.filterMap (w.wrote i e table row).writtenId =
      w.writes.filterMap w.writtenId ++ [row.ocppChargingProfileId] := by
    show (w.writes ++ [i]).filterMap _ = _
    rw [List.filterMap_append, List.filterMap_congr fun j hj => ?_]
    · congr 1
      rw [List.filterMap_cons, hwritten, if_pos rfl]
      rfl
    · rw [hwritten, if_neg fun heq : i = j => hfresh (heq ▸ hj)]
  constructor
  · show table.rows.length ≤ 1
    rw [hrows]
    exact Nat.le_refl 1
  · exact forall_set h.fits rfl
  · refine forall_set (fun other hother written hmem => ?_) fun written hmem => ?_
    · obtain ⟨old, hold, hid⟩ := h.stored other hother written hmem
      obtain ⟨new, hnew, hnewId⟩ := hids' old hold
      exact ⟨new, hnew, hnewId.trans hid⟩
    · obtain rfl := Option.some.inj hmem
      refine ⟨row, ?_, rfl⟩
      show row ∈ table.rows
      rw [hrows]
      exact List.mem_singleton_self row
  · intro j
    show j ∈ w.writes ++ [i] ↔ _
    rw [hwritten, List.mem_append, List.mem_singleton, h.wrote]
    by_cases hij : i = j
    · rw [if_pos hij]
      exact iff_of_true (Or.inr hij.symm) rfl
    · rw [if_neg hij, or_iff_left (Ne.symm hij)]
  · exact fun j hj => List.mem_append_left _ (h.landed j hj)
  · rw [hlist, List.pairwise_append]
    refine ⟨h.numbers, List.pairwise_singleton _ _, fun n hn m hm => ?_⟩
    rw [List.mem_singleton.mp hm]
    exact hnumbers n hn
  · rw [hlist]
    intro n hn stored hstored
    have hrow : stored ∈ table.rows := hstored
    rw [hrows] at hrow
    rw [List.mem_singleton.mp hrow]
    rcases List.mem_append.mp hn with hold | hnew
    · exact (hnumbers n hold).le
    · exact (List.mem_singleton.mp hnew).le
  · intro stored hstored
    have hrow : stored ∈ table.rows := hstored
    rw [hrows] at hrow
    obtain rfl := List.mem_singleton.mp hrow
    refine ⟨i, { e with point := .mirroring, row := some stored }, stored, List.getLast?_concat, ?_,
      rfl, rfl, fun hlanded => absurd (h.landed i hlanded) hfresh⟩
    rw [hget, if_pos rfl]

/-- Where Lago has the row's mirror, nothing can have gone wrong. -/
lemma Settled.of_lagoHas {n : ℕ} {point : EditPoint} {old : ProfileRow}
    (h : w.Settled n point old) (hhas : w'.LagoHas row) : w'.Settled n point row := by
  cases point with
  | reading => exact h
  | writing => exact h
  | mirroring => exact fun _ => hhas
  | stamping error =>
      cases error with
      | none => exact hhas
      | some _ => trivial
  | returned => exact Or.inl hhas
  | thrown => exact Or.inl hhas

lemma Settled.imp {n : ℕ} {point : EditPoint} {old : ProfileRow} (h : w.Settled n point old)
    (hlanded : n ∈ w'.landings → n ∈ w.landings) (hhas : w.LagoHas old → w'.LagoHas row)
    (herror : point.Finished → old.lagoSyncError ≠ none →
      w'.LagoHas row ∨ row.lagoSyncError ≠ none) : w'.Settled n point row := by
  cases point with
  | reading => exact h
  | writing => exact h
  | mirroring => exact fun hmem => hhas (h (hlanded hmem))
  | stamping error =>
      cases error with
      | none => exact hhas h
      | some _ => trivial
  | returned => exact h.elim (fun hlago => Or.inl (hhas hlago)) (herror trivial)
  | thrown => exact h.elim (fun hlago => Or.inl (hhas hlago)) (herror trivial)

lemma Ordered.lands (h : w.Ordered) (he : w.edits[i]? = some e) (hrow : e.row = some row)
    (horder : w.LandsInOrder e) :
    Ordered { w with lago := some row.mirrored, landings := w.landings ++ [i] } := by
  have hwrote : i ∈ w.writes := by
    rw [h.wrote, writtenId, he, Option.bind_some, hrow]
    rfl
  constructor
  · exact h.single
  · exact h.fits
  · exact h.stored
  · exact h.wrote
  · intro j hj
    rcases List.mem_append.mp hj with hold | hnew
    · exact h.landed j hold
    · rw [List.mem_singleton.mp hnew]
      exact hwrote
  · exact h.numbers
  · exact h.below
  · intro stored hstored
    obtain ⟨n, newest, written, hlast, hn, hwritten, hshape, hsettled⟩ := h.newest stored hstored
    refine ⟨n, newest, written, hlast, hn, hwritten, hshape, ?_⟩
    have hlanded : row.shape = stored.shape →
        LagoHas { w with lago := some row.mirrored, landings := w.landings ++ [i] } stored :=
      fun heq => congrArg some heq
    by_cases hin : i = n
    · subst hin
      obtain rfl := Option.some.inj (he.symm.trans hn)
      obtain rfl := Option.some.inj (hrow.symm.trans hwritten)
      exact hsettled.of_lagoHas (hlanded hshape)
    · rcases horder with hsame | hnewest
      · exact hsettled.of_lagoHas (hlanded (hsame row hrow stored hstored))
      · -- its mirror is still to come
        obtain ⟨hpoint, hnot⟩ := hnewest n hlast newest hn
        rw [hpoint]
        intro hmem
        rcases List.mem_append.mp hmem with hold | hnew
        · exact absurd hold hnot
        · exact absurd (List.mem_singleton.mp hnew).symm hin

lemma mem_stamp {now : ℕ} {error : Option String} {stored : ProfileRow}
    (h : stored ∈ (w.stamp i e row now error).table.rows) :
    ∃ old ∈ w.table.rows, stored = if old.id = row.id then old.stamped now error else old := by
  obtain ⟨old, hold, heq⟩ := SerialTable.mem_rewrite.mp h
  refine ⟨old, hold, heq.trans ?_⟩
  simp only [decide_eq_true_eq]

lemma shape_stamped (row : ProfileRow) (now : ℕ) (error : Option String) :
    (row.stamped now error).toChargingProfile = row.toChargingProfile := by
  cases error <;> rfl

/-- A stamp changes neither the profile nor what Lago has. -/
lemma toChargingProfile_of_mem_stamp {now : ℕ} {error : Option String} {old : ProfileRow} :
    (if old.id = row.id then old.stamped now error else old).toChargingProfile =
      old.toChargingProfile := by
  split
  · exact shape_stamped old now error
  · rfl

lemma shape_of_mem_stamp {now : ℕ} {error : Option String} {old : ProfileRow} :
    (if old.id = row.id then old.stamped now error else old).shape = old.shape := by
  rw [toChargingProfile_of_mem_stamp]

lemma exists_mem_stamp {now : ℕ} {error : Option String} {old : ProfileRow}
    (hold : old ∈ w.table.rows) :
    ∃ new ∈ (w.stamp i e row now error).table.rows, new.id = old.id := by
  have hmem : old.id ∈ w.table.rows.map ProfileRow.id := List.mem_map_of_mem hold
  rw [← SerialTable.map_key_rewrite (fun r => r.id_stamped now error) w.table.rows] at hmem
  exact List.mem_map.mp hmem

lemma LagoHas.stamp {now : ℕ} {error : Option String} {old : ProfileRow} (h : w.LagoHas old) :
    (w.stamp i e row now error).LagoHas
      (if old.id = row.id then old.stamped now error else old) := by
  show w.lago.map _ = some _
  rw [shape_of_mem_stamp]
  exact h

/-- The newest edit stamps what has come of its own mirror, and an older one overwrites an error
only where Lago has the row's mirror. -/
lemma Ordered.newest_stamp (h : w.Ordered) (he : w.edits[i]? = some e) {error : Option String}
    (hpoint : e.point = .stamping error) (hrow : e.row = some row) (now : ℕ)
    (horder : error = none →
      (∀ row ∈ w.table.rows, w.LagoHas row) ∨ w.NewestIs fun _ e => ¬e.point.Finished)
    {old : ProfileRow} (hold : old ∈ w.table.rows) :
    ∃ n newest written, w.writes.getLast? = some n ∧
      (w.stamp i e row now error).edits[n]? = some newest ∧ newest.row = some written ∧
      written.shape = (if old.id = row.id then old.stamped now error else old).shape ∧
      (w.stamp i e row now error).Settled n newest.point
        (if old.id = row.id then old.stamped now error else old) := by
  have hget : ∀ j, (w.stamp i e row now error).edits[j]? =
      if i = j then some { e with point := .returned error, row := some (row.stamped now error) }
      else w.edits[j]? := fun j => getElem?_setEdit he j
  obtain ⟨n, newest, written, hlast, hn, hwrote, hshape, hsettled⟩ := h.newest old hold
  by_cases hin : i = n
  · subst hin
    obtain rfl := Option.some.inj (he.symm.trans hn)
    obtain rfl := Option.some.inj (hrow.symm.trans hwrote)
    refine ⟨i, { e with point := .returned error, row := some (row.stamped now error) },
      row.stamped now error, hlast, ?_, rfl, ?_, ?_⟩
    · rw [hget, if_pos rfl]
    · rw [shape_of_mem_stamp, ← hshape, shape_stamped]
    · rw [hpoint] at hsettled
      cases error with
      | none => exact Or.inl (LagoHas.stamp hsettled)
      | some message =>
          obtain ⟨own, hown, hid⟩ := h.stored e (List.mem_of_getElem? he) row hrow
          obtain rfl := List.mem_singleton.mp (h.rows_eq hown ▸ hold)
          rw [if_pos hid]
          exact Or.inr (Option.some_ne_none message)
  · refine ⟨n, newest, written, hlast, ?_, hwrote, hshape.trans shape_of_mem_stamp.symm, ?_⟩
    · rw [hget, if_neg hin, hn]
    · refine hsettled.imp id LagoHas.stamp fun hfinished herror => ?_
      cases error with
      | none =>
          rcases horder rfl with hall | hunfinished
          · exact Or.inl (LagoHas.stamp (hall old hold))
          · exact absurd hfinished (hunfinished n hlast newest hn)
      | some message =>
          right
          split
          · exact Option.some_ne_none message
          · exact herror

lemma Ordered.stamped (h : w.Ordered) (he : w.edits[i]? = some e) {error : Option String}
    (hpoint : e.point = .stamping error) (hrow : e.row = some row) (now : ℕ)
    (horder : error = none →
      (∀ row ∈ w.table.rows, w.LagoHas row) ∨ w.NewestIs fun _ e => ¬e.point.Finished) :
    (w.stamp i e row now error).Ordered := by
  have hwritten : (w.stamp i e row now error).writtenId = w.writtenId := by
    refine writtenId_set he rfl ?_
    rw [hrow, Option.map_some, Option.map_some, shape_stamped]
  constructor
  · have hmap : (w.stamp i e row now error).table.rows.map ProfileRow.id =
        w.table.rows.map ProfileRow.id :=
      SerialTable.map_key_rewrite (fun r => r.id_stamped now error) w.table.rows
    rw [← List.length_map ProfileRow.id, hmap, List.length_map]
    exact h.single
  · exact forall_set h.fits rfl
  · refine forall_set (fun other hother written hmem => ?_) fun written hmem => ?_
    · obtain ⟨old, hold, hid⟩ := h.stored other hother written hmem
      obtain ⟨new, hnew, hnewId⟩ := exists_mem_stamp hold
      exact ⟨new, hnew, hnewId.trans hid⟩
    · obtain rfl := Option.some.inj hmem
      obtain ⟨old, hold, hid⟩ := h.stored e (List.mem_of_getElem? he) row hrow
      obtain ⟨new, hnew, hnewId⟩ := exists_mem_stamp hold
      exact ⟨new, hnew, hnewId.trans (hid.trans (row.id_stamped now error).symm)⟩
  · rw [hwritten]
    exact h.wrote
  · exact h.landed
  · rw [hwritten]
    exact h.numbers
  · rw [hwritten]
    intro n hn stored hstored
    obtain ⟨old, hold, rfl⟩ := mem_stamp hstored
    rw [toChargingProfile_of_mem_stamp]
    exact h.below n hn old hold
  · intro stored hstored
    obtain ⟨old, hold, rfl⟩ := mem_stamp hstored
    exact h.newest_stamp he hpoint hrow now horder hold

lemma Ordered.write (h : w.Ordered) (he : w.edits[i]? = some e) {existing : Option ProfileRow}
    {now : ℕ} (hpoint : e.point = .writing existing now) (hread : w.WritesWhatItRead e.point) :
    (w.write i e existing now).Ordered := by
  have hfits := h.fits e (List.mem_of_getElem? he)
  unfold ProfileEdit.Fits at hfits
  rw [hpoint] at hfits hread
  have hthrown : (w.setEdit i { e with point := .thrown }).Ordered := by
    refine h.moved he trivial fun _ row _ hsettled => ?_
    rw [hpoint] at hsettled
    exact hsettled.elim
  cases existing with
  | some existing =>
      unfold ProfileWorld.write
      dsimp only
      cases hstored : w.table.get? existing.id with
      | none => exact hthrown
      | some stored =>
          obtain ⟨hmem, hid⟩ := SerialTable.get?_eq_some.mp hstored
          have hrows := h.rows_eq hmem
          refine h.wroteRow he hfits ?_ (fun old hold => ?_) fun n hn => ?_
          · show SerialTable.rewrite _ _ w.table.rows = _
            rw [hrows, SerialTable.rewrite, List.map_singleton, if_pos (decide_eq_true hid)]
          · rw [hrows] at hold
            rw [List.mem_singleton.mp hold]
            rfl
          · have hle := h.below n hn stored hmem
            rw [hread stored hmem] at hle
            exact Nat.lt_succ_of_le hle
  | none =>
      unfold ProfileWorld.write
      dsimp only
      split
      · next hempty =>
        have hnone : w.table.rows = [] := List.isEmpty_iff.mp hempty
        refine h.wroteRow he hfits ?_ (fun old hold => ?_) fun n hn => ?_
        · show w.table.rows ++ _ = _
          rw [hnone, List.nil_append]
        · rw [hnone] at hold
          cases hold
        · obtain ⟨j, -, hj⟩ := List.mem_filterMap.mp hn
          obtain ⟨other, hother, hnumber⟩ := Option.bind_eq_some_iff.mp hj
          obtain ⟨written, hwritten, -⟩ := Option.map_eq_some_iff.mp hnumber
          obtain ⟨row, hrow, -⟩ := h.stored other (List.mem_of_getElem? hother) written hwritten
          rw [hnone] at hrow
          cases hrow
      · exact hthrown

/-- Each step keeps the edits in order. -/
theorem Ordered.step (h : w.Ordered) (hkeeps : w.KeepsOrder a) (hstep : w.step a = some w') :
    w'.Ordered := by
  cases a with
  | calls input =>
      obtain rfl := Option.some.inj hstep
      exact h.called input
  | reads i ok now =>
      obtain ⟨e, he, hread⟩ := Option.bind_eq_some_iff.mp hstep
      have hfits := h.fits e (List.mem_of_getElem? he)
      unfold ProfileEdit.Fits at hfits
      cases hpoint : e.point with
      | reading =>
          rw [hpoint] at hread hfits
          obtain rfl := Option.some.inj hread
          refine h.moved he ?_ fun _ row _ hsettled => ?_
          · cases ok with
            | true => exact hfits
            | false => trivial
          · rw [hpoint] at hsettled
            exact hsettled.elim
      | _ =>
          rw [hpoint] at hread
          cases hread
  | writes i ok =>
      obtain ⟨e, he, hwrite⟩ := Option.bind_eq_some_iff.mp hstep
      cases hpoint : e.point with
      | writing existing now =>
          rw [hpoint] at hwrite
          dsimp only at hwrite
          cases ok with
          | true =>
              obtain rfl := Option.some.inj hwrite
              exact h.write he hpoint (hkeeps e he)
          | false =>
              obtain rfl := Option.some.inj hwrite
              refine h.moved he trivial fun _ row _ hsettled => ?_
              rw [hpoint] at hsettled
              exact hsettled.elim
      | _ =>
          rw [hpoint] at hwrite
          cases hwrite
  | lands i =>
      obtain ⟨e, he, hland⟩ := Option.bind_eq_some_iff.mp hstep
      obtain ⟨row, hrow, rfl⟩ := Option.map_eq_some_iff.mp hland
      exact h.lands he hrow (hkeeps e he)
  | answers i error =>
      obtain ⟨e, he, hanswer⟩ := Option.bind_eq_some_iff.mp hstep
      have hfits := h.fits e (List.mem_of_getElem? he)
      unfold ProfileEdit.Fits at hfits
      cases hpoint : e.point with
      | mirroring =>
          rw [hpoint] at hanswer hfits
          dsimp only at hanswer
          split at hanswer
          · cases hanswer
          · next hlanded =>
            obtain rfl := Option.some.inj hanswer
            refine h.moved he hfits fun _ row _ hsettled => ?_
            rw [hpoint] at hsettled
            cases error with
            | none => exact hsettled (not_not.mp fun hnot => hlanded ⟨rfl, hnot⟩)
            | some _ => trivial
      | _ =>
          rw [hpoint] at hanswer
          cases hanswer
  | stamps i now error =>
      obtain ⟨e, he, hstamp⟩ := Option.bind_eq_some_iff.mp hstep
      have hfits := h.fits e (List.mem_of_getElem? he)
      have horder := hkeeps e he
      unfold ProfileEdit.Fits at hfits
      cases hpoint : e.point with
      | stamping mirrorError =>
          rw [hpoint] at hstamp hfits horder
          obtain ⟨row, hrow⟩ := Option.isSome_iff_exists.mp hfits
          rw [hrow] at hstamp
          cases error with
          | none =>
              obtain rfl := Option.some.inj hstamp
              refine h.stamped he hpoint hrow now fun hnone => ?_
              rw [hnone] at horder
              exact horder
          | some error =>
              cases mirrorError with
              | none =>
                  obtain rfl := Option.some.inj hstamp
                  rw [← hrow]
                  exact h.moved he hfits fun _ _ _ _ => trivial
              | some message =>
                  obtain rfl := Option.some.inj hstamp
                  rw [← hrow]
                  refine h.moved he trivial fun hlast row hmem _ => ?_
                  rcases horder with holder | hall
                  · exact absurd rfl (holder i hlast e he)
                  · exact hall row hmem
      | _ =>
          rw [hpoint] at hstamp
          cases hstamp

/-! ## Runs -/

lemma writtenId_of_returnedId {n : ℕ} (h : w.returnedId i = some n) : w.writtenId i = some n := by
  obtain ⟨e, he, hmap⟩ := Option.bind_eq_some_iff.mp h
  obtain ⟨profile, hprofile, rfl⟩ := Option.map_eq_some_iff.mp hmap
  rw [writtenId, he, Option.bind_some, e.row_of_result hprofile]
  rfl

lemma sublist_filterMap {α β : Type*} {f g : α → Option β} {l : List α}
    (h : ∀ a b, f a = some b → g a = some b) : (l.filterMap f).Sublist (l.filterMap g) := by
  induction l with
  | nil => exact List.Sublist.slnil
  | cons a l ih =>
      rw [List.filterMap_cons, List.filterMap_cons]
      cases hf : f a with
      | some b =>
          rw [h a b hf]
          exact ih.cons_cons b
      | none =>
          cases g a with
          | none => exact ih
          | some b => exact ih.cons b

lemma Ordered.converges (h : w.Ordered) : w.Converges where
  numbers := h.numbers.sublist (sublist_filterMap fun _ _ => writtenId_of_returnedId)
  listed i hi := by
    obtain ⟨n, hn⟩ := Option.isSome_iff_exists.mp hi
    rw [h.wrote, writtenId_of_returnedId hn]
    rfl
  single := h.single
  kept e he profile hprofile := h.stored e he profile (e.row_of_result hprofile)
  mirrored hfinished row hrow herror := by
    obtain ⟨n, e, -, -, he, -, -, hsettled⟩ := h.newest row hrow
    have hend := hfinished e (List.mem_of_getElem? he)
    cases hpoint : e.point with
    | returned =>
        rw [hpoint] at hsettled
        exact hsettled.resolve_right (not_not.mpr herror)
    | thrown =>
        rw [hpoint] at hsettled
        exact hsettled.resolve_right (not_not.mpr herror)
    | _ =>
        rw [hpoint] at hend
        exact hend.elim

/-- Edits that keep their order do not diverge. -/
theorem converges_of_meets (as : List ProfileAction) (h : Meets step KeepsOrder initial as) :
    Always step Converges initial as := by
  refine ⟨ordered_initial.converges, Meets.eachStep (I := Ordered) ?_ ?_ ordered_initial h⟩
  · exact fun w a w' hw hkeeps hstep => hw.step hkeeps hstep
  · exact fun w a w' hw hkeeps hstep => (hw.step hkeeps hstep).converges

end ProfileWorld

/-! ## Overlapping edits -/

/-- An edit that sets a preset. -/
def presetInput (preset : ChargingProfilePreset) : UpsertProfileInput :=
  ⟨preset, none, none, false, none, pos_of_mem_none⟩

/-- What the call `i` does after it has read the row, one thing after the other. -/
def finishSteps (i now : ℕ) : List ProfileAction :=
  [.writes i true, .lands i, .answers i none, .stamps i now none]

/-- An edit makes the row, and another one follows when it has finished. -/
def editsInTurn : List ProfileAction :=
  [.calls (presetInput .cap7kw), .reads 0 true 1000] ++ finishSteps 0 1000 ++
    [.calls (presetInput .offpeak), .reads 1 true 2000] ++ finishSteps 1 2000

theorem converges_editsInTurn :
    Always ProfileWorld.step ProfileWorld.Converges .initial editsInTurn ∧
      (run ProfileWorld.step .initial editsInTurn).map (fun w => w.writes.filterMap w.returnedId) =
        some [1, 2] :=
  ⟨ProfileWorld.converges_of_meets editsInTurn (by decide +kernel), by decide +kernel⟩

/-- Two more edits read the row before either of them writes it. -/
def readsTogether : List ProfileAction :=
  editsInTurn ++ [.calls (presetInput .cap11kw), .calls (presetInput .unlimited),
    .reads 2 true 3000, .reads 3 true 3000] ++ finishSteps 2 3000 ++ finishSteps 3 3000

/-- Both have the same number. -/
theorem not_converges_readsTogether :
    ¬Always ProfileWorld.step ProfileWorld.Converges .initial readsTogether := by
  intro h
  have hids : (run ProfileWorld.step .initial readsTogether).map
      (fun w => w.writes.filterMap w.returnedId) = some [1, 2, 3, 3] := by decide +kernel
  obtain ⟨w, hrun, hw⟩ := Option.map_eq_some_iff.mp hids
  have hnumbers := (h.of_run hrun).numbers
  rw [hw] at hnumbers
  revert hnumbers
  decide

/-- A newer edit is written, mirrored and stamped before the mirror of an older one reaches Lago. -/
def overtaken : List ProfileAction :=
  [.calls (presetInput .cap7kw), .reads 0 true 1000, .writes 0 true,
    .calls (presetInput .offpeak), .reads 1 true 2000] ++ finishSteps 1 2000 ++
    [.lands 0, .answers 0 none, .stamps 0 3000 none]

/-- Lago keeps the older preset, and the row has no error. -/
theorem not_converges_overtaken :
    ¬Always ProfileWorld.step ProfileWorld.Converges .initial overtaken := by
  intro h
  have hend : ∃ w ∈ run ProfileWorld.step .initial overtaken,
      (∀ e ∈ w.edits, e.point.Finished) ∧
        ∃ row ∈ w.table.rows, row.lagoSyncError = none ∧ ¬w.LagoHas row := by decide +kernel
  obtain ⟨w, hrun, hfinished, row, hrow, herror, hnot⟩ := hend
  exact hnot ((h.of_run hrun).mirrored hfinished row hrow herror)

end ExpresSync
