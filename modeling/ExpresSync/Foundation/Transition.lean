import Mathlib.Data.List.Basic
import Mathlib.Data.List.Forall2
import Mathlib.Data.List.Infix
import Mathlib.Data.List.Perm.Basic
import Mathlib.Data.Option.Basic

/-!
# Runs of partial transition systems

A system is a partial step function `step : σ → α → Option σ` (`none`: the action is not enabled
in that state), and a run is a list of actions.  Two quantifiers over runs are enough for
everything stated about them:

* `EachStep R s as`: every transition `s₁ -a→ s₂` of the run `as` from `s` satisfies `R s₁ a s₂`;
* `Always P s as`: `P` holds of `s` and of every state the run passes through.

A *condition* on the steps of a run is the special case `Meets C`, where `C` looks at the state
before the step and the action only.  The rules below are the two uses of an invariant: it is
kept along a run whose steps meet a condition (`Meets.invariant`), and it turns a condition on
steps into a property of steps (`Meets.eachStep`), or into an equivalent one
(`meets_iff_eachStep`).
-/

namespace Transition

variable {σ α : Type*} (step : σ → α → Option σ)

/-- The state reached by a list of actions, `none` when one of them is not enabled. -/
def run (s : σ) : List α → Option σ
  | [] => some s
  | a :: as => (step s a).bind fun s' => run s' as

/-- Every transition of the run satisfies `R`. -/
def EachStep (R : σ → α → σ → Prop) : σ → List α → Prop
  | _, [] => True
  | s, a :: as => ∀ s', step s a = some s' → R s a s' ∧ EachStep R s' as

/-- Every step of the run is taken in a state, and with an action, that meets `C`. -/
def Meets (C : σ → α → Prop) : σ → List α → Prop := EachStep step fun s a _ => C s a

/-- `P` holds of the initial state and after every step. -/
def Always (P : σ → Prop) (s : σ) (as : List α) : Prop :=
  P s ∧ EachStep step (fun _ _ s' => P s') s as

variable {step}

@[simp] lemma run_nil (s : σ) : run step s [] = some s := rfl

lemma run_cons_eq_some {s t : σ} {a : α} {as : List α} :
    run step s (a :: as) = some t ↔ ∃ s', step s a = some s' ∧ run step s' as = some t := by
  simp [run, Option.bind_eq_some_iff]

lemma run_append {s : σ} {as bs : List α} :
    run step s (as ++ bs) = (run step s as).bind fun t => run step t bs := by
  induction as generalizing s with
  | nil => rfl
  | cons a as ih =>
      simp only [List.cons_append, run, ih, Option.bind_assoc]

/-- An invariant kept by the steps that satisfy `R` holds at the end of a run all of whose steps
satisfy `R`. -/
theorem EachStep.invariant {I : σ → Prop} {R : σ → α → σ → Prop}
    (hkeep : ∀ s a s', I s → R s a s' → step s a = some s' → I s')
    {s t : σ} {as : List α} (hs : I s) (h : EachStep step R s as) (hrun : run step s as = some t) :
    I t := by
  induction as generalizing s with
  | nil =>
      obtain rfl : s = t := by simpa using hrun
      exact hs
  | cons a as ih =>
      obtain ⟨s', hstep, hrest⟩ := run_cons_eq_some.mp hrun
      obtain ⟨hR, hR'⟩ := h s' hstep
      exact ih (hkeep s a s' hs hR hstep) hR' hrest

/-- An invariant kept by the steps that satisfy `R` may be used to establish a further property
of these steps. -/
theorem EachStep.of_invariant {I : σ → Prop} {R Q : σ → α → σ → Prop}
    (hkeep : ∀ s a s', I s → R s a s' → step s a = some s' → I s')
    (hgoal : ∀ s a s', I s → R s a s' → step s a = some s' → Q s a s')
    {s : σ} {as : List α} (hs : I s) (h : EachStep step R s as) : EachStep step Q s as := by
  induction as generalizing s with
  | nil => trivial
  | cons a as ih =>
      intro s' hstep
      obtain ⟨hR, hR'⟩ := h s' hstep
      exact ⟨hgoal s a s' hs hR hstep, ih (hkeep s a s' hs hR hstep) hR'⟩

theorem Meets.invariant {I : σ → Prop} {C : σ → α → Prop}
    (hkeep : ∀ s a s', I s → C s a → step s a = some s' → I s')
    {s t : σ} {as : List α} (hs : I s) (h : Meets step C s as) (hrun : run step s as = some t) :
    I t :=
  EachStep.invariant (R := fun s a _ => C s a) hkeep hs h hrun

theorem Meets.eachStep {I : σ → Prop} {C : σ → α → Prop} {Q : σ → α → σ → Prop}
    (hkeep : ∀ s a s', I s → C s a → step s a = some s' → I s')
    (hgoal : ∀ s a s', I s → C s a → step s a = some s' → Q s a s')
    {s : σ} {as : List α} (hs : I s) (h : Meets step C s as) : EachStep step Q s as :=
  EachStep.of_invariant (R := fun s a _ => C s a) hkeep hgoal hs h

/-- What holds of the steps of a run holds of those of its second part. -/
lemma EachStep.of_append {R : σ → α → σ → Prop} {s t : σ} {as bs : List α}
    (h : EachStep step R s (as ++ bs)) (hrun : run step s as = some t) : EachStep step R t bs := by
  induction as generalizing s with
  | nil =>
      obtain rfl : s = t := by simpa using hrun
      exact h
  | cons a as ih =>
      obtain ⟨s', hstep, hrest⟩ := run_cons_eq_some.mp hrun
      exact ih (h s' hstep).2 hrest

/-- A condition on the actions alone is met when the actions of the run meet it. -/
lemma meets_of_mem {C : α → Prop} {s : σ} {as : List α} (h : ∀ a ∈ as, C a) :
    Meets step (fun _ a => C a) s as := by
  induction as generalizing s with
  | nil => trivial
  | cons a as ih =>
      obtain ⟨hhead, hrest⟩ := List.forall_mem_cons.mp h
      exact fun s' _ => ⟨hhead, ih hrest⟩

lemma meets_of_forall {C : σ → α → Prop} (h : ∀ s a, C s a) {s : σ} {as : List α} :
    Meets step C s as := by
  induction as generalizing s with
  | nil => trivial
  | cons a as ih => exact fun s' _ => ⟨h s a, ih⟩

/-- Every transition satisfies both of two properties exactly when it satisfies each. -/
lemma eachStep_and {R Q : σ → α → σ → Prop} {s : σ} {as : List α} :
    EachStep step (fun s a s' => R s a s' ∧ Q s a s') s as ↔
      EachStep step R s as ∧ EachStep step Q s as := by
  induction as generalizing s with
  | nil => simp [EachStep]
  | cons a as ih =>
      constructor
      · intro h
        exact ⟨fun s' hs' => ⟨(h s' hs').1.1, (ih.mp (h s' hs').2).1⟩,
          fun s' hs' => ⟨(h s' hs').1.2, (ih.mp (h s' hs').2).2⟩⟩
      · rintro ⟨hR, hQ⟩ s' hs'
        exact ⟨⟨(hR s' hs').1, (hQ s' hs').1⟩, ih.mpr ⟨(hR s' hs').2, (hQ s' hs').2⟩⟩

/-- Two conditions are met by the same runs as one condition that says both. -/
lemma meets_and {C D : σ → α → Prop} {s : σ} {as : List α} :
    Meets step (fun s a => C s a ∧ D s a) s as ↔ Meets step C s as ∧ Meets step D s as :=
  eachStep_and

/-- Under an assumption `A` on the steps of a run: when, along an invariant that the condition
keeps, the condition `C` is step by step equivalent to the property `Q`, it is equivalent to it
on the whole run. -/
theorem meets_iff_eachStep {I : σ → Prop} {A C : σ → α → Prop} {Q : σ → α → σ → Prop}
    (hkeep : ∀ s a s', I s → A s a → C s a → step s a = some s' → I s')
    (hiff : ∀ s a s', I s → A s a → step s a = some s' → (C s a ↔ Q s a s'))
    {s : σ} {as : List α} (hs : I s) (hA : Meets step A s as) :
    Meets step C s as ↔ EachStep step Q s as := by
  induction as generalizing s with
  | nil => exact Iff.rfl
  | cons a as ih =>
      constructor
      · intro h s' hstep
        obtain ⟨hC, hrest⟩ := h s' hstep
        obtain ⟨hAs, hA'⟩ := hA s' hstep
        exact ⟨(hiff s a s' hs hAs hstep).mp hC,
          (ih (hkeep s a s' hs hAs hC hstep) hA').mp hrest⟩
      · intro h s' hstep
        obtain ⟨hQ, hrest⟩ := h s' hstep
        obtain ⟨hAs, hA'⟩ := hA s' hstep
        have hC : C s a := (hiff s a s' hs hAs hstep).mpr hQ
        exact ⟨hC, (ih (hkeep s a s' hs hAs hC hstep) hA').mpr hrest⟩

/-- A property of states for which the condition `C` on a step is exactly what keeps it, holds
throughout a run exactly when it holds at the start and every step meets `C`. -/
theorem always_iff_meets {P : σ → Prop} {C : σ → α → Prop}
    (hiff : ∀ s a s', P s → step s a = some s' → (C s a ↔ P s')) {s : σ} {as : List α} :
    Always step P s as ↔ P s ∧ Meets step C s as := by
  refine and_congr_right fun hs =>
    (meets_iff_eachStep (I := P) (A := fun _ _ => True) ?_ ?_ hs ?_).symm
  · exact fun s a s' hP _ hC hstep => (hiff s a s' hP hstep).mp hC
  · exact fun s a s' hP _ hstep => hiff s a s' hP hstep
  · exact meets_of_forall fun _ _ => trivial

/-- What always holds, holds at the end. -/
lemma Always.of_run {P : σ → Prop} {s t : σ} {as : List α} (h : Always step P s as)
    (hrun : run step s as = some t) : P t :=
  EachStep.invariant (R := fun _ _ s' => P s') (fun _ _ _ _ hP _ => hP) h.1 h.2 hrun

/-! ## Evaluation -/

instance EachStep.decidable {R : σ → α → σ → Prop} [∀ s a s', Decidable (R s a s')] :
    (s : σ) → (as : List α) → Decidable (EachStep step R s as)
  | _, [] => isTrue trivial
  | s, a :: as =>
      match hstep : step s a with
      | none => isTrue fun s' h => by rw [hstep] at h; cases h
      | some t =>
          have := EachStep.decidable (R := R) t as
          decidable_of_iff (R s a t ∧ EachStep step R t as)
            ⟨fun h s' h' => by
                obtain rfl : t = s' := by rw [hstep] at h'; exact Option.some.inj h'
                exact h,
              fun h => h t hstep⟩

instance Meets.decidable {C : σ → α → Prop} [∀ s a, Decidable (C s a)] (s : σ) (as : List α) :
    Decidable (Meets step C s as) :=
  inferInstanceAs (Decidable (EachStep step (fun s a _ => C s a) s as))

instance Always.decidable {P : σ → Prop} [∀ s, Decidable (P s)] (s : σ) (as : List α) :
    Decidable (Always step P s as) :=
  inferInstanceAs (Decidable (P s ∧ EachStep step (fun _ _ s' => P s') s as))

end Transition

/-!
# Computations in sequence

Rules for two computations that may fail, one after the other, and for left folds.  What every turn
of a fold keeps holds at its end (`List.foldlRecOn`); what only the turn of one element brings
about, and every turn keeps, holds at the end as well (`foldl_reaches`).
-/

section Bind

variable {ε : Type*} {α β : Type} {x : Except ε α} {f : α → Except ε β}

/-- A sequence of two computations that succeeds. -/
lemma Except.exists_of_bind_eq_ok {b : β} (h : x >>= f = .ok b) :
    ∃ a, x = .ok a ∧ f a = .ok b := by
  cases x with
  | error e => cases h
  | ok a => exact ⟨a, rfl, h⟩

/-- A sequence of two computations that fails. -/
lemma Except.cases_of_bind_eq_error {e : ε} (h : x >>= f = .error e) :
    x = .error e ∨ ∃ a, x = .ok a ∧ f a = .error e := by
  cases x with
  | error e' =>
      obtain rfl := Except.error.inj h
      exact Or.inl rfl
  | ok a => exact Or.inr ⟨a, rfl, h⟩

end Bind

/-- What one element's turn brings about, under an invariant of the loop, and every turn keeps,
holds after the loop. -/
theorem foldl_reaches {α σ : Type*} {f : σ → α → σ} {I P : σ → Prop} {l : List α} {a : α}
    (ha : a ∈ l) (hI : ∀ s, ∀ b ∈ l, I s → I (f s b)) (hP : ∀ s b, P s → P (f s b))
    (hturn : ∀ s, I s → P (f s a)) {s : σ} (hs : I s) : P (l.foldl f s) := by
  obtain ⟨before, after, rfl⟩ := List.append_of_mem ha
  have hbefore : I (before.foldl f s) :=
    List.foldlRecOn before f hs fun s hs b hb => hI s b (List.mem_append_left _ hb) hs
  rw [List.foldl_append, List.foldl_cons]
  exact List.foldlRecOn after f (hturn _ hbefore) fun s hs b _ => hP s b hs

/-!
# Calls in flight

The calls a system has in flight are a list.  A step takes one of them, and puts it back at the end
when it goes on.
-/

namespace InFlight

variable {κ : Type*} {calls : List κ} {i : ℕ} {call : κ}

/-- Taking a call out of the list. -/
lemma perm_eraseIdx (h : calls[i]? = some call) : calls.Perm (call :: calls.eraseIdx i) := by
  obtain ⟨hlt, rfl⟩ := List.getElem?_eq_some_iff.mp h
  exact (List.getElem_cons_eraseIdx_perm hlt).symm

lemma mem_of_mem_eraseIdx {other : κ} (h : other ∈ calls.eraseIdx i) : other ∈ calls :=
  (List.eraseIdx_sublist _ _).subset h

/-- Some call has a property: the one that is taken out, or one of the rest. -/
lemma exists_mem_iff (h : calls[i]? = some call) {P : κ → Prop} :
    (∃ other ∈ calls, P other) ↔ P call ∨ ∃ other ∈ calls.eraseIdx i, P other := by
  simp only [(perm_eraseIdx h).mem_iff, List.mem_cons, exists_eq_or_imp]

/-- What holds of all calls still does when one of them is put back for which it holds. -/
lemma forall_mem_putBack {P : κ → Prop} (h : ∀ call ∈ calls, P call) (hcall : P call) :
    ∀ other ∈ calls.eraseIdx i ++ [call], P other := by
  intro other hother
  rcases List.mem_append.mp hother with hold | hnew
  · exact h other (mem_of_mem_eraseIdx hold)
  · rwa [List.mem_singleton.mp hnew]

/-! ## Lists in parallel -/

section

variable {ι : Type*} {R : κ → ι → Prop} {notes : List ι}

/-- What is noted of a call. -/
lemma exists_of_forall₂ (h : List.Forall₂ R calls notes) (hcall : calls[i]? = some call) :
    ∃ note, notes[i]? = some note ∧ R call note := by
  induction h generalizing i with
  | nil => cases hcall
  | cons hhead _ ih =>
      cases i with
      | zero =>
          obtain rfl := Option.some.inj hcall
          exact ⟨_, rfl, hhead⟩
      | succ i => exact ih hcall

lemma forall₂_eraseIdx (h : List.Forall₂ R calls notes) (i : ℕ) :
    List.Forall₂ R (calls.eraseIdx i) (notes.eraseIdx i) := by
  rw [List.eraseIdx_eq_take_drop_succ, List.eraseIdx_eq_take_drop_succ]
  exact List.rel_append (List.forall₂_take i h) (List.forall₂_drop (i + 1) h)

lemma forall₂_concat {note : ι} (h : List.Forall₂ R calls notes) (hnote : R call note) :
    List.Forall₂ R (calls ++ [call]) (notes ++ [note]) :=
  List.rel_append h (.cons hnote .nil)

end

end InFlight
