import Mathlib.Data.List.Basic
import Mathlib.Data.List.Chain
import Mathlib.Data.List.Nodup
import Mathlib.Data.List.Perm.Subperm
import Mathlib.Logic.Relation

/-!
# Ancestors along parent pointers

A partial function `parent : α → Option α` gives every element the sequence `a, parent a,
parent (parent a), …`.  Nothing is asked of it: the sequence may end, run into a cycle or point at
its start.  A `Climb` is a piece of the sequence without repetition, and `NearestUp` names the first
element of it that something holds of.

`walk` is the loop programs compute the sequence with: it collects ancestors until one is missing or
was visited before.  `findSome?_walk` shows that a first match over what it collects is `NearestUp`,
and `mem_walk_iff` that it collects all that is above its start.
-/

namespace ExpresSync

namespace Ancestry

variable {α β : Type*}

/-- `path` is the beginning of `a, parent a, parent (parent a), …`, and repeats nothing. -/
structure Climb (parent : α → Option α) (a : α) (path : List α) : Prop where
  head : path.head? = some a
  steps : path.IsChain fun x y => parent x = some y
  nodup : path.Nodup

/-- The first element of `a, parent a, …`, up to the first repeated or missing one, that carries
something carries `b`. -/
def NearestUp (parent : α → Option α) (carries : α → β → Prop) (a : α) (b : β) : Prop :=
  ∃ below last, Climb parent a (below ++ [last]) ∧ carries last b ∧
    ∀ x ∈ below, ∀ b', ¬carries x b'

lemma NearestUp.congr {parent : α → Option α} {carries carries' : α → β → Prop}
    (h : ∀ x b, carries x b ↔ carries' x b) {a : α} {b : β} :
    NearestUp parent carries a b ↔ NearestUp parent carries' a b := by
  simp only [NearestUp, h]

/-- What the start itself carries is nearest. -/
lemma nearestUp_self {parent : α → Option α} {carries : α → β → Prop} {a : α} {b : β}
    (h : carries a b) : NearestUp parent carries a b :=
  ⟨[], a, ⟨rfl, List.isChain_singleton a, List.nodup_singleton a⟩, h, by simp⟩

/-- From a start that carries something no other element is nearest. -/
lemma NearestUp.eq_of_carries {parent : α → Option α} {carries : α → β → Prop} {a : α} {b b' : β}
    (h : NearestUp parent carries a b) (ha : carries a b') : carries a b := by
  obtain ⟨below, last, hclimb, hlast, hbelow⟩ := h
  cases below with
  | nil =>
      obtain rfl : last = a := by simpa using hclimb.head
      exact hlast
  | cons x below =>
      obtain rfl : x = a := by simpa using hclimb.head
      exact absurd ha (hbelow x List.mem_cons_self b')

section Walk

/-- The loop over the ancestors of `a`: stop at a missing or a visited one. -/
def walk [DecidableEq α] (parent : α → Option α) : ℕ → List α → α → List α
  | 0, _, _ => []
  | fuel + 1, visited, a =>
      match parent a with
      | none => []
      | some b => if b ∈ visited then [] else b :: walk parent fuel (b :: visited) b

variable {parent : α → Option α}

/-- Along a chain of fewer than `fuel` unvisited ancestors of `a`, the first on which `f` is defined
has the value `b`. -/
def Finds (parent : α → Option α) (f : α → Option β) (fuel : ℕ) (visited : List α) (a : α) (b : β) :
    Prop :=
  ∃ below last, (a :: (below ++ [last])).IsChain (fun x y => parent x = some y) ∧
    (below ++ [last]).Nodup ∧ (∀ x ∈ below ++ [last], x ∉ visited) ∧
    below.length < fuel ∧ f last = some b ∧ ∀ x ∈ below, f x = none

/-- The first step of such a chain goes to the parent, which has the value or passes the search
on. -/
lemma finds_succ (f : α → Option β) (fuel : ℕ) (visited : List α) (a : α) (b : β) :
    Finds parent f (fuel + 1) visited a b ↔
      ∃ next, parent a = some next ∧ next ∉ visited ∧
        (f next = some b ∨ f next = none ∧ Finds parent f fuel (next :: visited) next b) := by
  constructor
  · rintro ⟨below, last, hchain, hnodup, hnew, hlen, hlast, hbelow⟩
    cases below with
    | nil =>
        exact ⟨last, by simpa using hchain, hnew last (by simp), Or.inl hlast⟩
    | cons next below =>
        have hsplit := List.nodup_cons.mp hnodup
        refine ⟨next, hchain.rel, hnew next List.mem_cons_self,
          Or.inr ⟨hbelow next List.mem_cons_self, below, last, hchain.tail, hsplit.2, ?_,
            by simpa using hlen, hlast, fun x hx => hbelow x (List.mem_cons_of_mem next hx)⟩⟩
        intro x hx hin
        rcases List.mem_cons.mp hin with rfl | hin
        · exact hsplit.1 hx
        · exact hnew x (List.mem_cons_of_mem next hx) hin
  · rintro ⟨next, hparent, hvisited,
      hfound | ⟨hnone, below, last, hchain, hnodup, hnew, hlen, hlast, hbelow⟩⟩
    · exact ⟨[], next, by simp [hparent], by simp, by simpa using hvisited, Nat.zero_lt_succ fuel,
        hfound, by simp⟩
    · have hnext : next ∉ below ++ [last] := fun hmem => hnew next hmem List.mem_cons_self
      refine ⟨next :: below, last, hchain.cons_cons hparent, List.nodup_cons.mpr ⟨hnext, hnodup⟩,
        ?_, by simpa using hlen, hlast, ?_⟩
      · intro x hx
        rcases List.mem_cons.mp hx with rfl | hx
        · exact hvisited
        · exact fun hin => hnew x hx (List.mem_cons_of_mem next hin)
      · intro x hx
        rcases List.mem_cons.mp hx with rfl | hx
        · exact hnone
        · exact hbelow x hx

/-- Everything above the start of a chain is somebody's parent. -/
lemma exists_parent_of_mem {a x : α} {above : List α}
    (hchain : (a :: above).IsChain fun x y => parent x = some y) (hx : x ∈ above) :
    ∃ y, parent y = some x := by
  induction above generalizing a with
  | nil => cases hx
  | cons next above ih =>
      rcases List.mem_cons.mp hx with rfl | hx
      · exact ⟨a, hchain.rel⟩
      · exact ih hchain.tail hx

variable [DecidableEq α]

/-- A first match over the walk is a first match along a chain of unvisited ancestors. -/
lemma findSome?_walk_iff (f : α → Option β) (fuel : ℕ) (visited : List α) (a : α) (b : β) :
    (walk parent fuel visited a).findSome? f = some b ↔ Finds parent f fuel visited a b := by
  induction fuel generalizing visited a with
  | zero => simp [walk, Finds]
  | succ fuel ih =>
      rw [finds_succ]
      unfold walk
      cases hparent : parent a with
      | none => simp
      | some next =>
          by_cases hvisited : next ∈ visited
          · simp [hvisited]
          · cases hfirst : f next with
            | some found => simp [hvisited, hfirst]
            | none => simp [hvisited, hfirst, ih]

/-- A first match over the walk from `a`, which itself carries nothing, is what is nearest up from
`a`, when the fuel covers the elements that have a place in the hierarchy. -/
theorem findSome?_walk {f : α → Option β} {a : α} {fuel : ℕ} {listed : List α} (b : β)
    (hlisted : ∀ x y, parent x = some y → y ∈ listed) (hfuel : listed.length ≤ fuel)
    (hnone : f a = none) :
    (walk parent fuel [a] a).findSome? f = some b ↔
      NearestUp parent (fun x b => f x = some b) a b := by
  rw [findSome?_walk_iff]
  constructor
  · rintro ⟨below, last, hchain, hnodup, hnew, -, hlast, hbelow⟩
    have hstart : a ∉ below ++ [last] := fun hmem => hnew a hmem List.mem_cons_self
    refine ⟨a :: below, last, ⟨rfl, hchain, List.nodup_cons.mpr ⟨hstart, hnodup⟩⟩, hlast, ?_⟩
    intro x hx b' hcarries
    have hx : f x = none := by
      rcases List.mem_cons.mp hx with rfl | hx
      · exact hnone
      · exact hbelow x hx
    rw [hx] at hcarries
    cases hcarries
  · rintro ⟨below, last, hclimb, hlast, hbelow⟩
    cases below with
    | nil =>
        obtain rfl : last = a := by simpa using hclimb.head
        rw [hnone] at hlast
        cases hlast
    | cons first below =>
        obtain rfl : first = a := by simpa using hclimb.head
        have hsplit : first ∉ below ++ [last] ∧ (below ++ [last]).Nodup :=
          List.nodup_cons.mp hclimb.nodup
        refine ⟨below, last, hclimb.steps, hsplit.2, ?_, ?_, hlast, ?_⟩
        · intro x hx hin
          obtain rfl : x = first := by simpa using hin
          exact hsplit.1 hx
        · have hsub : below ++ [last] ⊆ listed := by
            intro x hx
            obtain ⟨y, hy⟩ := exists_parent_of_mem hclimb.steps hx
            exact hlisted y x hy
          have hlen := (List.subperm_of_subset hsplit.2 hsub).length_le
          simp only [List.length_append, List.length_singleton] at hlen
          omega
        · intro x hx
          exact Option.eq_none_iff_forall_ne_some.mpr (hbelow x (List.mem_cons_of_mem first hx))

/-- What the walk collects is above `a`, and new. -/
lemma of_mem_walk {fuel : ℕ} {visited : List α} {a b : α} (h : b ∈ walk parent fuel visited a) :
    b ∉ visited ∧ Relation.TransGen (fun x y => parent x = some y) a b := by
  induction fuel generalizing visited a with
  | zero => cases h
  | succ fuel ih =>
      unfold walk at h
      split at h
      · cases h
      · next next hnext =>
          split at h
          · cases h
          · next hnew =>
              rcases List.mem_cons.mp h with rfl | h
              · exact ⟨hnew, Relation.TransGen.single hnext⟩
              · obtain ⟨hb, habove⟩ := ih h
                exact ⟨fun hin => hb (List.mem_cons_of_mem _ hin),
                  Relation.TransGen.head hnext habove⟩

/-- Given a unit of fuel for every unvisited element, the walk ends at a missing or a visited one
only. -/
lemma walk_closed {listed : List α} (hlisted : ∀ x y, parent x = some y → y ∈ listed)
    {fuel : ℕ} {visited : List α} {a : α}
    (hfuel : (listed.filter fun x => decide (x ∉ visited)).length ≤ fuel) {x y : α}
    (hx : x = a ∨ x ∈ walk parent fuel visited a) (hstep : parent x = some y) :
    y ∈ visited ∨ y ∈ walk parent fuel visited a := by
  induction fuel generalizing visited a with
  | zero =>
      refine Or.inl (by_contra fun hnew => ?_)
      have hmem : y ∈ listed.filter fun x => decide (x ∉ visited) :=
        List.mem_filter.mpr ⟨hlisted x y hstep, decide_eq_true hnew⟩
      exact absurd (List.length_pos_of_mem hmem) (by omega)
  | succ fuel ih =>
      unfold walk at hx ⊢
      cases hnext : parent a with
      | none =>
          rcases hx with rfl | hx
          · rw [hnext] at hstep
            cases hstep
          · simp [hnext] at hx
      | some next =>
          by_cases hvisited : next ∈ visited
          · rcases hx with rfl | hx
            · rw [hnext] at hstep
              obtain rfl := Option.some.inj hstep
              exact Or.inl hvisited
            · simp [hnext, hvisited] at hx
          · simp only [hnext, if_neg hvisited, List.mem_cons] at hx ⊢
            rcases hx with rfl | hx
            · rw [hnext] at hstep
              exact Or.inr (Or.inl (Option.some.inj hstep).symm)
            · have hlt : (listed.filter fun x => decide (x ∉ next :: visited)).length <
                  (listed.filter fun x => decide (x ∉ visited)).length := by
                have hfilter : (listed.filter fun x => decide (x ∉ next :: visited)) =
                    (listed.filter fun x => decide (x ∉ visited)).filter
                      fun x => decide (x ≠ next) := by
                  simp only [List.filter_filter, List.mem_cons, not_or, ne_eq, Bool.decide_and]
                rw [hfilter]
                refine List.length_filter_lt_length_iff_exists.mpr ⟨next, ?_, by simp⟩
                exact List.mem_filter.mpr ⟨hlisted a next hnext, decide_eq_true hvisited⟩
              rcases ih (by omega) hx with hin | hin
              · rcases List.mem_cons.mp hin with rfl | hin
                · exact Or.inr (Or.inl rfl)
                · exact Or.inl hin
              · exact Or.inr (Or.inr hin)

/-- The walk from `a` collects what is above `a`, but for `a` itself. -/
theorem mem_walk_iff {listed : List α} (hlisted : ∀ x y, parent x = some y → y ∈ listed)
    {fuel : ℕ} (hfuel : listed.length ≤ fuel) {a b : α} :
    b ∈ walk parent fuel [a] a ↔
      b ≠ a ∧ Relation.TransGen (fun x y => parent x = some y) a b := by
  constructor
  · intro h
    obtain ⟨hnew, habove⟩ := of_mem_walk h
    exact ⟨fun heq => hnew (heq ▸ List.mem_cons_self), habove⟩
  · rintro ⟨hne, habove⟩
    have hclosed : ∀ x y, x = a ∨ x ∈ walk parent fuel [a] a → parent x = some y →
        y = a ∨ y ∈ walk parent fuel [a] a := fun x y hx hstep =>
      (walk_closed hlisted ((List.length_filter_le _ _).trans hfuel) hx hstep).imp_left
        List.mem_singleton.mp
    have hreached : b = a ∨ b ∈ walk parent fuel [a] a := by
      clear hne
      induction habove with
      | single hstep => exact hclosed a _ (Or.inl rfl) hstep
      | tail _ hstep ih => exact hclosed _ _ ih hstep
    exact hreached.resolve_left hne

end Walk

end Ancestry

end ExpresSync
