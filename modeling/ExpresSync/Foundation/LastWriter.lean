import ExpresSync.Foundation.KeyedLog
import Mathlib.Data.List.MinMax

/-!
# Last writer wins

A log with one entry for each key in which an entry gives way to a later one only.  What is kept
for a key is the latest entry that was there or has been offered, the first of them when several
are equally late (`get?_keepAllLater`).
-/

section

variable {ε β τ : Type*} [LinearOrder τ] {stamp : ε → τ} {es : List ε} {e : ε}

/-- The first of the latest entries. -/
def List.latest (stamp : ε → τ) (es : List ε) : Option ε := es.argmax stamp

lemma List.latest_cons : (e :: es).latest stamp =
    match es.latest stamp with
    | none => some e
    | some best => if stamp e < stamp best then some best else some e := by
  rw [List.latest, List.argmax_cons, List.latest]
  cases es.argmax stamp <;> rfl

@[simp] lemma List.latest_singleton : [e].latest stamp = some e := rfl

lemma List.latest_concat : (es ++ [e]).latest stamp =
    match es.latest stamp with
    | none => some e
    | some best => if stamp best < stamp e then some e else some best := by
  rw [List.latest, List.argmax_concat, List.latest]
  cases es.argmax stamp <;> rfl

lemma List.latest_eq_none : es.latest stamp = none ↔ es = [] := List.argmax_eq_none

lemma List.mem_of_mem_latest {best : ε} (h : best ∈ es.latest stamp) : best ∈ es :=
  List.argmax_mem h

lemma List.le_of_mem_latest {best : ε} (he : e ∈ es) (h : best ∈ es.latest stamp) :
    stamp e ≤ stamp best :=
  List.le_of_mem_argmax he h

lemma List.latest_map (f : β → ε) (bs : List β) :
    (bs.map f).latest stamp = (bs.latest (stamp ∘ f)).map f := by
  induction bs using List.reverseRecOn with
  | nil => rfl
  | append_singleton bs b ih =>
      rw [List.map_append, List.map_singleton, List.latest_concat, List.latest_concat, ih]
      cases bs.latest (stamp ∘ f) with
      | none => rfl
      | some best =>
          simp only [Option.map_some, Function.comp_apply]
          split <;> rfl

end

namespace KeyedLog

variable {κ ε τ : Type*} {key : ε → κ} [DecidableEq κ] [LinearOrder τ] (stamp : ε → τ)

/-- Put an entry in the place of the one with its key when it is later. -/
def keepLater (log : KeyedLog key) (e : ε) : KeyedLog key :=
  match log.get? (key e) with
  | none => log.upsert e
  | some old => if stamp old < stamp e then log.upsert e else log

/-- Offer several entries, one after the other. -/
def keepAllLater (log : KeyedLog key) (es : List ε) : KeyedLog key := es.foldl (keepLater stamp) log

variable {stamp} {log : KeyedLog key}

lemma get?_keepLater_of_ne {e : ε} {k : κ} (h : key e ≠ k) :
    (log.keepLater stamp e).get? k = log.get? k := by
  unfold keepLater
  split
  · rw [get?_upsert, if_neg h]
  · split
    · rw [get?_upsert, if_neg h]
    · rfl

lemma get?_keepLater_self {e : ε} :
    (log.keepLater stamp e).get? (key e) =
      ((log.get? (key e)).toList ++ [e]).latest stamp := by
  unfold keepLater
  split
  · next hnone => rw [get?_upsert, if_pos rfl, hnone]; rfl
  · next old hold =>
    rw [hold, List.latest_concat]
    split
    · next hlt => rw [get?_upsert, if_pos rfl]; simp [hlt]
    · next hle => rw [hold]; simp [hle]

/-- What is kept for a key is the first of the latest entries. -/
theorem get?_keepAllLater {es : List ε} {k : κ} :
    (log.keepAllLater stamp es).get? k =
      ((log.get? k).toList ++ es.filter fun e => key e = k).latest stamp := by
  induction es using List.reverseRecOn with
  | nil =>
      show log.get? k = _
      cases log.get? k <;> rfl
  | append_singleton es e ih =>
      have hfold : log.keepAllLater stamp (es ++ [e]) =
          (log.keepAllLater stamp es).keepLater stamp e := List.foldl_append
      rw [hfold, List.filter_append]
      by_cases hk : key e = k
      · subst hk
        rw [get?_keepLater_self, ih]
        simp only [List.filter_cons, List.filter_nil, decide_true, if_true, ← List.append_assoc,
          List.latest_concat]
        cases ((log.get? (key e)).toList ++ es.filter fun e' => key e' = key e).latest stamp <;> rfl
      · rw [get?_keepLater_of_ne hk, ih]
        simp [hk]

/-- Entries that are no later than those with their keys are passed over. -/
lemma keepAllLater_of_forall_le {es : List ε}
    (h : ∀ e ∈ es, ∃ old ∈ log.get? (key e), stamp e ≤ stamp old) :
    log.keepAllLater stamp es = log := by
  induction es with
  | nil => rfl
  | cons e es ih =>
      obtain ⟨old, hold, hle⟩ := h e List.mem_cons_self
      have hkeep : log.keepLater stamp e = log := by
        unfold keepLater
        rw [Option.mem_def.mp hold]
        exact if_neg (not_lt.mpr hle)
      show (log.keepLater stamp e).keepAllLater stamp es = log
      rw [hkeep]
      exact ih fun e' he' => h e' (List.mem_cons_of_mem e he')

end KeyedLog
