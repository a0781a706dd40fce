import Mathlib.Data.List.Nodup
import Mathlib.Data.List.Perm.Subperm
import Mathlib.Data.List.Range
import Mathlib.Logic.Function.Basic
import Mathlib.Logic.Relation

/-!
# Forests from parent pointers

A partial function `parent : α → Option α` and lists `kids : α → List α` that invert it.  Below an
element without a parent `preorder` goes through every element whose parents lead there, once
(`mem_preorder`, `nodup_preorder`).  Among finitely many elements all are below such a root exactly
when none is its own ancestor (`acyclic_iff_rooted`).

A new parent for one element keeps the pointers acyclic exactly when it is neither that element nor
below it (`acyclic_set_iff`), also where everything below another one moves up to it
(`acyclic_relink_iff`).
-/

namespace Forest

variable {α : Type*}

/-- The ancestor `k` parents up. -/
def ascend (parent : α → Option α) (k : ℕ) (a : α) : Option α :=
  (fun o : Option α => o.bind parent)^[k] (some a)

/-- The children lists and the parent pointers tell the same. -/
structure Inverts (kids : α → List α) (parent : α → Option α) : Prop where
  mem : ∀ {a c}, c ∈ kids a ↔ parent c = some a
  nodup : ∀ a, (kids a).Nodup

/-- An element, and what is below it down to a depth. -/
def preorder (kids : α → List α) : ℕ → α → List α
  | 0, a => [a]
  | fuel + 1, a => a :: (kids a).flatMap (preorder kids fuel)

section Ascend

variable {parent : α → Option α} {a b r y : α} {j k : ℕ}

@[simp] lemma ascend_zero : ascend parent 0 a = some a := rfl

lemma ascend_succ : ascend parent (k + 1) a = (ascend parent k a).bind parent :=
  Function.iterate_succ_apply' _ k (some a)

lemma ascend_add : ascend parent (j + k) a = (ascend parent j a).bind (ascend parent k) := by
  induction k with
  | zero => exact (Option.bind_fun_some _).symm
  | succ k ih =>
      rw [← Nat.add_assoc, ascend_succ, ih, Option.bind_assoc]
      exact congrArg (Option.bind _) (funext fun b => ascend_succ.symm)

lemma ascend_of_ascend (hj : ascend parent j a = some b) :
    ascend parent (j + k) a = ascend parent k b := by
  rw [ascend_add, hj, Option.bind_some]

lemma ascend_of_parent (h : parent a = some b) : ascend parent (k + 1) a = ascend parent k b := by
  rw [Nat.add_comm]
  exact ascend_of_ascend (by rw [ascend_succ, ascend_zero, Option.bind_some, h])

lemma ascend_of_root (h : parent r = none) : ascend parent (k + 1) r = none := by
  rw [Nat.add_comm, ascend_add, ascend_succ, ascend_zero, Option.bind_some, h, Option.bind_none]

/-- An element above another is above it by a number of steps. -/
lemma transGen_iff_ascend : Relation.TransGen (fun x y => parent x = some y) a b ↔
    ∃ k, ascend parent (k + 1) a = some b := by
  constructor
  · intro h
    induction h with
    | single h => exact ⟨0, by rw [ascend_of_parent h, ascend_zero]⟩
    | tail _ h ih =>
        obtain ⟨k, hk⟩ := ih
        exact ⟨k + 1, by rw [ascend_succ, hk, Option.bind_some, h]⟩
  · rintro ⟨k, hk⟩
    induction k generalizing b with
    | zero => exact Relation.TransGen.single (by simpa [ascend_succ] using hk)
    | succ k ih =>
        rw [ascend_succ] at hk
        obtain ⟨c, hc, hstep⟩ := Option.bind_eq_some_iff.mp hk
        exact Relation.TransGen.tail (ih hc) hstep

/-- Of two elements above one, neither of them above the other, there is but one. -/
lemma eq_of_ascend (ha : ascend parent j y = some a) (hb : ascend parent k y = some b)
    (hab : ∀ m, ascend parent (m + 1) a ≠ some b) (hba : ∀ m, ascend parent (m + 1) b ≠ some a) :
    a = b := by
  rcases lt_trichotomy j k with hlt | rfl | hlt
  · obtain ⟨m, rfl⟩ := Nat.exists_eq_add_of_lt hlt
    rw [Nat.add_assoc, ascend_of_ascend ha] at hb
    exact absurd hb (hab m)
  · exact Option.some.inj (ha.symm.trans hb)
  · obtain ⟨m, rfl⟩ := Nat.exists_eq_add_of_lt hlt
    rw [Nat.add_assoc, ascend_of_ascend hb] at ha
    exact absurd ha (hba m)

/-- There are fewer steps up through different elements than there are elements. -/
lemma lt_length_of_ascend {listed : List α} (hlisted : ∀ x y, parent x = some y → y ∈ listed)
    (hy : y ∈ listed) (ha : ascend parent k y = some a)
    (hdistinct : ∀ i j, i < j → j ≤ k → ascend parent i y ≠ ascend parent j y) :
    k < listed.length := by
  have hnodup : ((List.range (k + 1)).map fun i => ascend parent i y).Nodup := by
    refine List.Nodup.map_on ?_ List.nodup_range
    intro i hi j hj heq
    rw [List.mem_range] at hi hj
    rcases lt_trichotomy i j with hlt | rfl | hlt
    · exact absurd heq (hdistinct i j hlt (by omega))
    · rfl
    · exact absurd heq.symm (hdistinct j i hlt (by omega))
  have hsub : ((List.range (k + 1)).map fun i => ascend parent i y) ⊆ listed.map some := by
    intro o ho
    obtain ⟨i, hi, rfl⟩ := List.mem_map.mp ho
    rw [List.mem_range] at hi
    cases i with
    | zero => exact List.mem_map_of_mem hy
    | succ i =>
        obtain ⟨rest, hrest⟩ : ∃ rest, k = (i + 1) + rest := ⟨k - (i + 1), by omega⟩
        rw [hrest, ascend_add] at ha
        obtain ⟨x, hx, -⟩ := Option.bind_eq_some_iff.mp ha
        rw [hx]
        rw [ascend_succ] at hx
        obtain ⟨c, -, hstep⟩ := Option.bind_eq_some_iff.mp hx
        exact List.mem_map_of_mem (hlisted c x hstep)
  have hlen := (List.subperm_of_subset hnodup hsub).length_le
  simp only [List.length_map, List.length_range] at hlen
  omega

/-- The way to a root is shorter than there are elements. -/
lemma lt_length_of_root {listed : List α} (hlisted : ∀ x y, parent x = some y → y ∈ listed)
    (hy : y ∈ listed) (hr : ascend parent k y = some r) (hroot : parent r = none) :
    k < listed.length := by
  refine lt_length_of_ascend hlisted hy hr fun i j hlt hle heq => ?_
  obtain ⟨rest, rfl⟩ := Nat.exists_eq_add_of_le hle
  have hagain : ascend parent (i + rest) y = some r := by
    rw [ascend_add, heq, ← ascend_add, hr]
  obtain ⟨loop, rfl⟩ := Nat.exists_eq_add_of_lt hlt
  have hsplit : i + loop + 1 + rest = (i + rest) + (loop + 1) := by omega
  rw [hsplit, ascend_of_ascend hagain, ascend_of_root hroot] at hr
  cases hr

/-- A way up that ends has a root at its end. -/
lemma exists_root_of_ascend (h : ascend parent k y = none) :
    ∃ j r, ascend parent j y = some r ∧ parent r = none := by
  induction k with
  | zero => cases h
  | succ k ih =>
      cases hk : ascend parent k y with
      | none => exact ih hk
      | some r =>
          rw [ascend_succ, hk, Option.bind_some] at h
          exact ⟨k, r, hk, h⟩

/-- Below a root nothing is its own ancestor. -/
lemma acyclic_of_root (hr : ascend parent k y = some r) (hroot : parent r = none) (m : ℕ) :
    ascend parent (m + 1) y ≠ some y := by
  intro hcycle
  induction k generalizing y with
  | zero =>
      obtain rfl := Option.some.inj hr
      rw [ascend_of_root hroot] at hcycle
      cases hcycle
  | succ k ih =>
      cases hparent : parent y with
      | none =>
          rw [ascend_of_root hparent] at hr
          cases hr
      | some z =>
          rw [ascend_of_parent hparent] at hr hcycle
          refine ih hr ?_
          rw [ascend_succ, hcycle, Option.bind_some, hparent]

/-- No element is its own ancestor exactly when all ways up end at a root. -/
theorem acyclic_iff_rooted {listed : List α}
    (hlisted : ∀ x y, parent x = some y → y ∈ listed) :
    (∀ y ∈ listed, ¬Relation.TransGen (fun x y => parent x = some y) y y) ↔
      ∀ y ∈ listed, ∃ k r, ascend parent k y = some r ∧ parent r = none := by
  constructor
  · intro hacyclic y hy
    cases hend : ascend parent listed.length y with
    | none => exact exists_root_of_ascend hend
    | some last =>
        refine absurd (lt_length_of_ascend hlisted hy hend ?_) (Nat.lt_irrefl _)
        intro i j hlt hle heq
        obtain ⟨rest, hrest⟩ := Nat.exists_eq_add_of_le hle
        rw [hrest, ascend_add] at hend
        obtain ⟨x, hx, -⟩ := Option.bind_eq_some_iff.mp hend
        obtain ⟨loop, rfl⟩ := Nat.exists_eq_add_of_lt hlt
        have hloop : ascend parent (loop + 1) x = some x := by
          rw [← ascend_of_ascend (heq.trans hx), ← Nat.add_assoc]
          exact hx
        obtain ⟨c, -, hstep⟩ := Option.bind_eq_some_iff.mp
          ((ascend_succ (k := i + loop)).symm.trans hx)
        exact hacyclic x (hlisted c x hstep) (transGen_iff_ascend.mpr ⟨loop, hloop⟩)
  · intro hrooted y hy hcycle
    obtain ⟨k, r, hr, hroot⟩ := hrooted y hy
    obtain ⟨m, hm⟩ := transGen_iff_ascend.mp hcycle
    exact acyclic_of_root hr hroot m hm

end Ascend

section Preorder

variable {kids : α → List α} {parent : α → Option α} {a y : α} {fuel : ℕ}

theorem mem_preorder (hkids : Inverts kids parent) :
    y ∈ preorder kids fuel a ↔ ∃ k ≤ fuel, ascend parent k y = some a := by
  induction fuel generalizing a with
  | zero => simp [preorder]
  | succ fuel ih =>
      simp only [preorder, List.mem_cons, List.mem_flatMap, hkids.mem, ih]
      constructor
      · rintro (rfl | ⟨c, hc, k, hk, hascend⟩)
        · exact ⟨0, Nat.zero_le _, rfl⟩
        · exact ⟨k + 1, by omega, by rw [ascend_succ, hascend, Option.bind_some, hc]⟩
      · rintro ⟨k, hk, hascend⟩
        cases k with
        | zero => exact Or.inl (Option.some.inj hascend)
        | succ k =>
            rw [ascend_succ] at hascend
            obtain ⟨c, hc, hstep⟩ := Option.bind_eq_some_iff.mp hascend
            exact Or.inr ⟨c, hstep, k, by omega, hc⟩

/-- What is below one of several elements, none of them above another, is below that one only. -/
lemma nodup_flatMap_preorder (hkids : Inverts kids parent) {roots : List α}
    (hroots : roots.Nodup) (hapart : ∀ r ∈ roots, ∀ r' ∈ roots, ∀ m,
      ascend parent (m + 1) r ≠ some r')
    (hnodup : ∀ r ∈ roots, (preorder kids fuel r).Nodup) :
    (roots.flatMap (preorder kids fuel)).Nodup := by
  refine List.nodup_flatMap.mpr ⟨hnodup, hroots.imp_of_mem ?_⟩
  intro r r' hr hr' hne y hy hy'
  obtain ⟨j, -, hj⟩ := (mem_preorder hkids).mp hy
  obtain ⟨k, -, hk⟩ := (mem_preorder hkids).mp hy'
  exact hne (eq_of_ascend hj hk (hapart r hr r' hr') (hapart r' hr' r hr))

/-- Below an element that is not its own ancestor nothing occurs twice. -/
theorem nodup_preorder (hkids : Inverts kids parent)
    (hacyclic : ∀ m, ascend parent (m + 1) a ≠ some a) : (preorder kids fuel a).Nodup := by
  induction fuel generalizing a with
  | zero => exact List.nodup_singleton a
  | succ fuel ih =>
      -- a child above a child is above the parent, which is then its own ancestor
      have hapart : ∀ c ∈ kids a, ∀ c' ∈ kids a, ∀ m, ascend parent (m + 1) c ≠ some c' := by
        intro c hc c' hc' m hm
        rw [ascend_of_parent (hkids.mem.mp hc)] at hm
        refine hacyclic m ?_
        rw [ascend_succ, hm, Option.bind_some, hkids.mem.mp hc']
      refine List.nodup_cons.mpr ⟨fun hmem => ?_, ?_⟩
      · obtain ⟨c, hc, hbelow⟩ := List.mem_flatMap.mp hmem
        obtain ⟨k, -, hk⟩ := (mem_preorder hkids).mp hbelow
        refine hacyclic k ?_
        rw [ascend_succ, hk, Option.bind_some, hkids.mem.mp hc]
      · exact nodup_flatMap_preorder hkids (hkids.nodup a) hapart
          fun c hc => ih fun m => hapart c hc c hc m

/-- The forest below the roots has nothing twice. -/
theorem nodup_forest (hkids : Inverts kids parent) {roots : List α} (hroots : roots.Nodup)
    (hparent : ∀ r ∈ roots, parent r = none) : (roots.flatMap (preorder kids fuel)).Nodup := by
  have hapart : ∀ r ∈ roots, ∀ (r' : α) (m : ℕ), ascend parent (m + 1) r ≠ some r' := by
    intro r hr r' m hm
    rw [ascend_of_root (hparent r hr)] at hm
    cases hm
  exact nodup_flatMap_preorder hkids hroots (fun r hr r' _ => hapart r hr r')
    fun r hr => nodup_preorder hkids (hapart r hr r)

/-- The forest below all roots has the elements whose way up ends. -/
theorem mem_forest_iff (hkids : Inverts kids parent) {roots listed : List α}
    (hroots : ∀ r, r ∈ roots ↔ r ∈ listed ∧ parent r = none)
    (hlisted : ∀ x y, parent x = some y → y ∈ listed) (hfuel : listed.length ≤ fuel)
    (hy : y ∈ listed) :
    y ∈ roots.flatMap (preorder kids fuel) ↔
      ∃ k r, ascend parent k y = some r ∧ parent r = none := by
  simp only [List.mem_flatMap, mem_preorder hkids, hroots]
  constructor
  · rintro ⟨r, ⟨-, hroot⟩, k, -, hk⟩
    exact ⟨k, r, hk, hroot⟩
  · rintro ⟨k, r, hk, hroot⟩
    have hlt := lt_length_of_root hlisted hy hk hroot
    refine ⟨r, ⟨?_, hroot⟩, k, by omega, hk⟩
    cases k with
    | zero =>
        obtain rfl := Option.some.inj hk
        exact hy
    | succ k =>
        rw [ascend_succ] at hk
        obtain ⟨c, -, hstep⟩ := Option.bind_eq_some_iff.mp hk
        exact hlisted c r hstep

end Preorder

/-! ## New parents -/

/-- The pointers lead from `x` to `a`. -/
def Below (parent : α → Option α) (x a : α) : Prop :=
  Relation.TransGen (fun x y => parent x = some y) x a

/-- No element is below itself. -/
def Acyclic (parent : α → Option α) : Prop := ∀ x, ¬Below parent x x

section Relink

variable {parent parent' : α → Option α} {a n p t x y : α}

/-- What is above an element is its parent, or above its parent. -/
lemma below_iff : Below parent x a ↔ ∃ y, parent x = some y ∧ (a = y ∨ Below parent y a) := by
  unfold Below
  rw [Relation.TransGen.head'_iff]
  simp only [Relation.reflTransGen_iff_eq_or_transGen]

lemma Below.of_parent (h : parent x = some y) : Below parent x y := Relation.TransGen.single h

lemma Below.trans (h : Below parent x y) (h' : Below parent y a) : Below parent x a :=
  Relation.TransGen.trans h h'

/-- On a cycle what is above is below, too. -/
lemma Below.back (hcycle : Below parent x x) (h : Below parent x a) : Below parent a x := by
  have hnext : ∀ {b c}, Below parent b x → parent b = some c → Below parent c x := by
    intro b c hb hstep
    obtain ⟨y, hy, rfl | hbelow⟩ := below_iff.mp hb
    · obtain rfl := Option.some.inj (hstep.symm.trans hy)
      exact hcycle
    · obtain rfl := Option.some.inj (hstep.symm.trans hy)
      exact hbelow
  induction h with
  | single hstep => exact hnext hcycle hstep
  | tail _ hstep ih => exact hnext ih hstep

/-- A new parent of `n` leaves what is below `n` where it is. -/
lemma below_set (hacyclic : Acyclic parent) (hrest : ∀ x, x ≠ n → parent' x = parent x)
    (h : Below parent x n) : Below parent' x n := by
  have hne : ∀ {x}, Below parent x n → x ≠ n := by
    rintro x hx rfl
    exact hacyclic x hx
  induction h using Relation.TransGen.head_induction_on with
  | single hstep => exact .of_parent ((hrest _ (hne (.of_parent hstep))).trans hstep)
  | head hstep hbelow ih =>
      have hx := hne ((Below.of_parent hstep).trans hbelow)
      exact (Below.of_parent ((hrest _ hx).trans hstep)).trans ih

/-- What is neither `n` nor below it has the same above it as before. -/
lemma below_of_below_set (hrest : ∀ x, x ≠ n → parent' x = parent x) (hx : x ≠ n)
    (hbelow : ¬Below parent x n) (h : Below parent' x y) : Below parent x y := by
  induction h using Relation.TransGen.head_induction_on with
  | single hstep => exact .of_parent ((hrest _ hx).symm.trans hstep)
  | head hstep _ ih =>
      have hold := (hrest _ hx).symm.trans hstep
      refine (Below.of_parent hold).trans (ih ?_ fun hnext => ?_)
      · rintro rfl
        exact hbelow (.of_parent hold)
      · exact hbelow ((Below.of_parent hold).trans hnext)

theorem acyclic_set_iff (hacyclic : Acyclic parent) (hset : parent' n = some p)
    (hrest : ∀ x, x ≠ n → parent' x = parent x) :
    Acyclic parent' ↔ p ≠ n ∧ ¬Below parent p n := by
  constructor
  · intro hkeeps
    refine ⟨?_, fun hbelow => ?_⟩
    · rintro rfl
      exact hkeeps p (.of_parent hset)
    · exact hkeeps n ((Below.of_parent hset).trans (below_set hacyclic hrest hbelow))
  · rintro ⟨hne, hnot⟩
    have hn : ¬Below parent' n n := by
      intro hcycle
      obtain ⟨y, hy, heq⟩ := below_iff.mp hcycle
      obtain rfl := Option.some.inj (hset.symm.trans hy)
      rcases heq with rfl | hbelow
      · exact hne rfl
      · exact hnot (below_of_below_set hrest hne hnot hbelow)
    intro x hcycle
    by_cases hx : x = n
    · exact hn (hx ▸ hcycle)
    · by_cases hbelow : Below parent x n
      · have hup := below_set hacyclic hrest hbelow
        exact hn ((hcycle.back hup).trans hup)
      · exact hacyclic x (below_of_below_set hrest hx hbelow hcycle)

section Flatten

variable (hbelow : ∀ x, Below parent x t → parent' x = some t)
  (hrest : ∀ x, ¬Below parent x t → parent' x = parent x)

include hbelow hrest

/-- What is below `t` moves up to it: nothing gets below what it was not below before. -/
lemma below_of_flatten (h : Below parent' x a) : Below parent x a := by
  refine Relation.TransGen.closed (fun x y hstep => ?_) _ _ h
  by_cases hx : Below parent x t
  · obtain rfl := Option.some.inj ((hbelow x hx).symm.trans hstep)
    exact hx
  · exact Below.of_parent ((hrest x hx).symm.trans hstep)

theorem acyclic_flatten (hacyclic : Acyclic parent) : Acyclic parent' :=
  fun x hcycle => hacyclic x (below_of_flatten hbelow hrest hcycle)

/-- What is below an element that does not move stays below it. -/
lemma below_flatten (hn : ¬Below parent n t) (h : Below parent x n) : Below parent' x n := by
  induction h using Relation.TransGen.head_induction_on with
  | @single x hstep =>
      refine .of_parent ?_
      by_cases hx : Below parent x t
      · obtain ⟨y, hy, heq⟩ := below_iff.mp hx
        obtain rfl := Option.some.inj (hstep.symm.trans hy)
        obtain rfl := heq.resolve_right hn
        exact hbelow _ hx
      · exact (hrest _ hx).trans hstep
  | @head x _ hstep hup ih =>
      by_cases hx : Below parent x t
      · obtain ⟨y, hy, heq⟩ := below_iff.mp hx
        obtain rfl := Option.some.inj (hstep.symm.trans hy)
        rcases heq with rfl | hy
        · exact (Below.of_parent (hbelow _ hx)).trans ih
        · -- Both have the parent `t` now.
          rw [below_iff, hbelow _ hy] at ih
          rw [below_iff, hbelow _ hx]
          exact ih
      · exact (Below.of_parent ((hrest _ hx).trans hstep)).trans ih

end Flatten

/-- A new parent for `n`, where what is below `t` moves up to `t`. -/
theorem acyclic_relink_iff (hacyclic : Acyclic parent) (hn : ¬Below parent n t)
    (hset : parent' n = some p) (hbelow : ∀ x, Below parent x t → parent' x = some t)
    (hrest : ∀ x, x ≠ n → ¬Below parent x t → parent' x = parent x) :
    Acyclic parent' ↔ p ≠ n ∧ ¬Below parent p n := by
  classical
  set flat := Function.update parent' n (parent n) with hflat
  have hflatBelow : ∀ x, Below parent x t → flat x = some t := by
    intro x hx
    have hne : x ≠ n := fun heq => hn (heq ▸ hx)
    rw [hflat, Function.update_of_ne hne, hbelow x hx]
  have hflatRest : ∀ x, ¬Below parent x t → flat x = parent x := by
    intro x hx
    by_cases heq : x = n
    · rw [heq, hflat, Function.update_self]
    · rw [hflat, Function.update_of_ne heq, hrest x heq hx]
  rw [acyclic_set_iff (acyclic_flatten hflatBelow hflatRest hacyclic) hset
    fun x hne => (Function.update_of_ne hne _ _).symm]
  exact and_congr_right fun _ => not_congr
    ⟨below_of_flatten hflatBelow hflatRest, below_flatten hflatBelow hflatRest hn⟩

/-- After that no element has itself or what was below it for its parent, if `n` has not. -/
lemma apart_of_relink (hacyclic : Acyclic parent)
    (hn : ∀ y, parent' n = some y → y ≠ n ∧ ¬Below parent y n)
    (hbelow : ∀ x, Below parent x t → parent' x = some t)
    (hrest : ∀ x, x ≠ n → ¬Below parent x t → parent' x = parent x) {x y : α}
    (h : parent' x = some y) : y ≠ x ∧ ¬Below parent y x := by
  have hup : ∀ {x y}, Below parent x y → y ≠ x ∧ ¬Below parent y x := by
    refine fun hxy => ⟨?_, fun hyx => hacyclic _ (hxy.trans hyx)⟩
    rintro rfl
    exact hacyclic _ hxy
  by_cases hx : Below parent x t
  · obtain rfl := Option.some.inj ((hbelow x hx).symm.trans h)
    exact hup hx
  · by_cases heq : x = n
    · subst heq
      exact hn y h
    · exact hup (.of_parent ((hrest x heq hx).symm.trans h))

end Relink

end Forest
