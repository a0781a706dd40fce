import Mathlib.Data.List.Infix
import Mathlib.Data.List.Nodup
import Mathlib.Logic.Relation

/-!
# Depth-first search

`visit kids key root` is the recursion that goes through the children of a node, skips those whose
key it has seen, and adds and enters the others.  Given more fuel than there are unseen nodes, it
finds exactly what can be reached from the root, the root itself apart (`mem_visitRoot_iff`).
-/

namespace DepthFirst

variable {ε κ : Type*} (kids : κ → List ε) (key : ε → κ) (root : κ)

/-- The nodes found so far and those found below `current`. -/
def visit [DecidableEq κ] : ℕ → List ε → κ → List ε
  | 0, found, _ => found
  | fuel + 1, found, current =>
      (kids current).foldl
        (fun found child =>
          if key child ∈ root :: found.map key then found
          else visit fuel (found ++ [child]) (key child))
        found

/-- One node is a child of the other. -/
def Edge (parent child : κ) : Prop := ∃ e ∈ kids parent, key e = child

/-- The key has been seen. -/
def Seen (found : List ε) (k : κ) : Prop := k ∈ root :: found.map key

/-- What the search adds, having gone through the children `todo` of `current`. -/
structure Adds (found : List ε) (current : κ) (todo result : List ε) : Prop where
  keeps : found <+: result
  nodup : (root :: found.map key).Nodup → (root :: result.map key).Nodup
  below : ∀ e ∈ result, e ∈ found ∨
    Relation.TransGen (Edge kids key) current (key e) ∧ ∃ parent, e ∈ kids parent
  seen : ∀ e ∈ todo, Seen key root result (key e)
  closed : ∀ e ∈ result, e ∈ found ∨ ∀ e' ∈ kids (key e), Seen key root result (key e')

variable {kids key root} {found result : List ε} {current : κ}

lemma Seen.mono {k : κ} (h : Seen key root found k) (hsub : found <+: result) :
    Seen key root result k := by
  rcases List.mem_cons.mp h with rfl | hmem
  · exact List.mem_cons_self
  · exact List.mem_cons_of_mem _ ((hsub.map key).subset hmem)

lemma Adds.refl : Adds kids key root found current [] found where
  keeps := List.prefix_rfl
  nodup := id
  below _ he := Or.inl he
  seen _ he := absurd he List.not_mem_nil
  closed _ he := Or.inl he

/-- A child that has been seen adds nothing. -/
lemma Adds.skip {child : ε} {todo : List ε} (h : Adds kids key root found current todo result)
    (hseen : Seen key root found (key child)) :
    Adds kids key root found current (child :: todo) result where
  keeps := h.keeps
  nodup := h.nodup
  below := h.below
  seen e he := by
    rcases List.mem_cons.mp he with rfl | he
    · exact hseen.mono h.keeps
    · exact h.seen e he
  closed := h.closed

/-- A new child adds itself and what is below it. -/
lemma Adds.enter {child : ε} {todo mid : List ε} (hchild : child ∈ kids current)
    (hnew : ¬Seen key root found (key child))
    (hbelow : Adds kids key root (found ++ [child]) (key child) (kids (key child)) mid)
    (hrest : Adds kids key root mid current todo result) :
    Adds kids key root found current (child :: todo) result := by
  have hedge : Relation.TransGen (Edge kids key) current (key child) :=
    Relation.TransGen.single ⟨child, hchild, rfl⟩
  have hmem : child ∈ mid := hbelow.keeps.subset (List.mem_append_right _ List.mem_cons_self)
  have hstart : found <+: mid := (List.prefix_append found [child]).trans hbelow.keeps
  refine ⟨hstart.trans hrest.keeps, fun hnodup => hrest.nodup (hbelow.nodup ?_), ?_, ?_, ?_⟩
  · rw [List.map_append, ← List.cons_append]
    refine List.nodup_append.mpr ⟨hnodup, List.nodup_singleton _, ?_⟩
    rintro k hk k' hk' rfl
    obtain rfl : k = key child := List.mem_singleton.mp hk'
    exact hnew hk
  · intro e he
    rcases hrest.below e he with hmid | hfar
    · rcases hbelow.below e hmid with hold | ⟨hpath, hparent⟩
      · rcases List.mem_append.mp hold with hfound | hself
        · exact Or.inl hfound
        · obtain rfl := List.mem_singleton.mp hself
          exact Or.inr ⟨hedge, current, hchild⟩
      · exact Or.inr ⟨hedge.trans hpath, hparent⟩
    · exact Or.inr hfar
  · intro e he
    rcases List.mem_cons.mp he with rfl | he
    · exact List.mem_cons_of_mem _ (List.mem_map_of_mem (hrest.keeps.subset hmem))
    · exact hrest.seen e he
  · intro e he
    rcases hrest.closed e he with hmid | hclosed
    · rcases hbelow.closed e hmid with hold | hclosed
      · rcases List.mem_append.mp hold with hfound | hself
        · exact Or.inl hfound
        · obtain rfl := List.mem_singleton.mp hself
          exact Or.inr fun e' he' => (hbelow.seen e' he').mono hrest.keeps
      · exact Or.inr fun e' he' => (hclosed e' he').mono hrest.keeps
    · exact Or.inr hclosed

/-! ## Fuel -/

variable [DecidableEq κ]

/-- How many of the nodes have not been seen. -/
def unseen (key : ε → κ) (root : κ) (nodes : List κ) (found : List ε) : ℕ :=
  (nodes.filter fun k => decide (k ∉ root :: found.map key)).length

lemma unseen_anti {nodes : List κ} (hsub : found <+: result) :
    unseen key root nodes result ≤ unseen key root nodes found := by
  apply List.Sublist.length_le
  apply List.monotone_filter_right
  intro k hk
  simp only [decide_eq_true_eq] at hk ⊢
  intro hseen
  exact hk (Seen.mono hseen hsub)

lemma unseen_lt {nodes : List κ} {child : ε} (hnode : key child ∈ nodes)
    (hnew : ¬Seen key root found (key child)) :
    unseen key root nodes (found ++ [child]) < unseen key root nodes found := by
  have hfilter : nodes.filter (fun k => decide (k ∉ root :: (found ++ [child]).map key)) =
      (nodes.filter fun k => decide (k ∉ root :: found.map key)).filter
        fun k => decide (k ≠ key child) := by
    rw [List.filter_filter]
    refine List.filter_congr fun k _ => ?_
    simp only [List.map_append, List.map_singleton, List.mem_cons, List.mem_append,
      List.not_mem_nil, or_false, ← Bool.decide_and]
    congr 1
    exact propext (by tauto)
  rw [unseen, unseen, hfilter]
  apply List.length_filter_lt_length_iff_exists.mpr
  refine ⟨key child, List.mem_filter.mpr ⟨hnode, decide_eq_true hnew⟩, ?_⟩
  simp

/-- With more fuel than unseen nodes the search goes through all children, at every depth. -/
theorem adds_visit {nodes : List κ} (hnodes : ∀ parent, ∀ e ∈ kids parent, key e ∈ nodes)
    (fuel : ℕ) (found : List ε) (current : κ) (hfuel : unseen key root nodes found < fuel) :
    Adds kids key root found current (kids current) (visit kids key root fuel found current) := by
  induction fuel generalizing found current with
  | zero => exact absurd hfuel (Nat.not_lt_zero _)
  | succ fuel ih =>
      -- the children that are still to come, from any set of nodes that has come up meanwhile
      have hloop : ∀ todo : List ε, (∀ e ∈ todo, e ∈ kids current) → ∀ mid : List ε,
          unseen key root nodes mid < fuel + 1 →
          Adds kids key root mid current todo (todo.foldl
            (fun found child =>
              if key child ∈ root :: found.map key then found
              else visit kids key root fuel (found ++ [child]) (key child))
            mid) := by
        intro todo
        induction todo with
        | nil => exact fun _ mid _ => Adds.refl
        | cons child todo ihTodo =>
            intro hkids mid hmid
            have hchild := hkids child List.mem_cons_self
            have htodo : ∀ e ∈ todo, e ∈ kids current :=
              fun e he => hkids e (List.mem_cons_of_mem _ he)
            rw [List.foldl_cons]
            split
            · next hseen => exact (ihTodo htodo mid hmid).skip hseen
            · next hnew =>
              have hlt := unseen_lt (hnodes current child hchild) hnew
              have hbelow := ih (mid ++ [child]) (key child) (by omega)
              have hanti : unseen key root nodes
                  (visit kids key root fuel (mid ++ [child]) (key child)) ≤
                    unseen key root nodes (mid ++ [child]) := unseen_anti hbelow.keeps
              exact Adds.enter hchild hnew hbelow (ihTodo htodo _ (by omega))
      exact hloop (kids current) (fun _ he => he) found hfuel

/-- More fuel than that changes nothing: the search has ended by itself. -/
theorem visit_eq {nodes : List κ} (hnodes : ∀ parent, ∀ e ∈ kids parent, key e ∈ nodes)
    {fuel fuel' : ℕ} (hle : fuel ≤ fuel') (found : List ε) (current : κ)
    (hfuel : unseen key root nodes found < fuel) :
    visit kids key root fuel' found current = visit kids key root fuel found current := by
  induction fuel generalizing fuel' found current with
  | zero => exact absurd hfuel (Nat.not_lt_zero _)
  | succ fuel ih =>
      obtain ⟨more, rfl⟩ : ∃ more, fuel' = more + 1 := ⟨fuel' - 1, by omega⟩
      have hloop : ∀ todo : List ε, (∀ e ∈ todo, e ∈ kids current) → ∀ mid : List ε,
          unseen key root nodes mid < fuel + 1 →
          todo.foldl
            (fun found child =>
              if key child ∈ root :: found.map key then found
              else visit kids key root more (found ++ [child]) (key child))
            mid =
          todo.foldl
            (fun found child =>
              if key child ∈ root :: found.map key then found
              else visit kids key root fuel (found ++ [child]) (key child))
            mid := by
        intro todo
        induction todo with
        | nil => exact fun _ _ _ => rfl
        | cons child todo ihTodo =>
            intro hkids mid hmid
            have htodo : ∀ e ∈ todo, e ∈ kids current :=
              fun e he => hkids e (List.mem_cons_of_mem _ he)
            rw [List.foldl_cons, List.foldl_cons]
            split
            · exact ihTodo htodo mid hmid
            · next hnew =>
              have hlt := unseen_lt (hnodes current child (hkids child List.mem_cons_self)) hnew
              have hmore : unseen key root nodes (mid ++ [child]) < fuel := by omega
              have hbelow := adds_visit hnodes fuel (mid ++ [child]) (key child) hmore
              have hanti : unseen key root nodes
                  (visit kids key root fuel (mid ++ [child]) (key child)) ≤
                    unseen key root nodes (mid ++ [child]) := unseen_anti hbelow.keeps
              rw [ih (by omega) (mid ++ [child]) (key child) hmore]
              exact ihTodo htodo _ (by omega)
      exact hloop (kids current) (fun _ he => he) found hfuel

/-! ## From the root -/

variable (kids key root) in
/-- All that is found below the root. -/
def visitRoot (fuel : ℕ) : List ε := visit kids key root fuel [] root

variable {nodes : List κ} {fuel : ℕ}

lemma adds_visitRoot (hnodes : ∀ parent, ∀ e ∈ kids parent, key e ∈ nodes)
    (hfuel : nodes.length < fuel) :
    Adds kids key root [] root (kids root) (visitRoot kids key root fuel) :=
  adds_visit hnodes fuel [] root (lt_of_le_of_lt (List.length_filter_le _ _) hfuel)

lemma visitRoot_eq (hnodes : ∀ parent, ∀ e ∈ kids parent, key e ∈ nodes) {fuel' : ℕ}
    (hle : fuel ≤ fuel') (hfuel : nodes.length < fuel) :
    visitRoot kids key root fuel' = visitRoot kids key root fuel :=
  visit_eq hnodes hle [] root (lt_of_le_of_lt (List.length_filter_le _ _) hfuel)

/-- Nothing is found twice. -/
lemma nodup_visitRoot (hnodes : ∀ parent, ∀ e ∈ kids parent, key e ∈ nodes)
    (hfuel : nodes.length < fuel) : (visitRoot kids key root fuel).Nodup := by
  have hkeys := (adds_visitRoot hnodes hfuel).nodup (List.nodup_singleton root)
  exact List.Nodup.of_map key (List.nodup_cons.mp hkeys).2

/-- The search finds the keys that can be reached, but for the root. -/
theorem exists_mem_visitRoot_iff (hnodes : ∀ parent, ∀ e ∈ kids parent, key e ∈ nodes)
    (hfuel : nodes.length < fuel) {k : κ} :
    (∃ e ∈ visitRoot kids key root fuel, key e = k) ↔
      k ≠ root ∧ Relation.TransGen (Edge kids key) root k := by
  have hadds : Adds kids key root [] root (kids root) (visitRoot kids key root fuel) :=
    adds_visitRoot hnodes hfuel
  constructor
  · rintro ⟨e, he, rfl⟩
    have hnodup := hadds.nodup (List.nodup_singleton root)
    rcases hadds.below e he with hnil | ⟨hpath, -⟩
    · exact absurd hnil List.not_mem_nil
    · refine ⟨fun heq => ?_, hpath⟩
      have hmem : key e ∈ (visitRoot kids key root fuel).map key := List.mem_map_of_mem he
      rw [heq] at hmem
      exact (List.nodup_cons.mp hnodup).1 hmem
  · rintro ⟨hne, hpath⟩
    have hseen : Seen key root (visitRoot kids key root fuel) k := by
      clear hne
      induction hpath with
      | single hedge =>
          obtain ⟨e, he, rfl⟩ := hedge
          exact hadds.seen e he
      | tail _ hedge ih =>
          obtain ⟨e, he, rfl⟩ := hedge
          rcases List.mem_cons.mp ih with rfl | hmem
          · exact hadds.seen e he
          · obtain ⟨parent, hparent, rfl⟩ := List.mem_map.mp hmem
            exact (hadds.closed parent hparent).resolve_left List.not_mem_nil e he
    rcases List.mem_cons.mp hseen with heq | hmem
    · exact absurd heq hne
    · exact List.mem_map.mp hmem

/-- Where a key stands for one node only, a node is found exactly when it can be reached. -/
theorem mem_visitRoot_iff (hnodes : ∀ parent, ∀ e ∈ kids parent, key e ∈ nodes)
    (hfuel : nodes.length < fuel)
    (hkey : ∀ p, ∀ e ∈ kids p, ∀ p', ∀ e' ∈ kids p', key e = key e' → e = e') {e : ε} :
    e ∈ visitRoot kids key root fuel ↔
      (∃ parent, e ∈ kids parent) ∧ key e ≠ root ∧ Relation.TransGen (Edge kids key) root
        (key e) := by
  have hkid : ∀ e ∈ visitRoot kids key root fuel, ∃ parent, e ∈ kids parent := fun e he =>
    (((adds_visitRoot hnodes hfuel).below e he).resolve_left List.not_mem_nil).2
  constructor
  · intro he
    exact ⟨hkid e he, (exists_mem_visitRoot_iff hnodes hfuel).mp ⟨e, he, rfl⟩⟩
  · rintro ⟨⟨p, hp⟩, hreach⟩
    obtain ⟨e', he', hsame⟩ := (exists_mem_visitRoot_iff hnodes hfuel).mpr hreach
    obtain ⟨p', hp'⟩ := hkid e' he'
    exact hkey p' e' hp' p e hp hsame ▸ he'

end DepthFirst
