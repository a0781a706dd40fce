import Mathlib.Data.List.Basic

/-!
# Items at the front of a growing buffer

A reader appends what it receives to a buffer, and takes items off the front of it for as long as
there is one.  A parser finds the first item; more input must not change what it has found.  Then it
does not matter how the input is cut: the same items come out, and the same rest is left
(`feed_drain`).

A loop that takes items off need not end; `drainLoop` is such a loop with fuel, and where its body
agrees with a parser, fuel for the length of the buffer is enough (`drainLoop_eq_drain`).
-/

/-- How the first item of a buffer is found.  An item takes a symbol at least. -/
structure ItemParser (β ι : Type*) where
  next : List β → Option (ι × List β)
  length_lt : ∀ {buffer item rest}, next buffer = some (item, rest) → rest.length < buffer.length
  next_append : ∀ {buffer item rest} (more : List β), next buffer = some (item, rest) →
    next (buffer ++ more) = some (item, rest ++ more)

/-- The loop that takes items off a buffer; `none` when the fuel does not last. -/
def drainLoop {β ι : Type*} (next : List β → Option (ι × List β)) :
    ℕ → List β → Option (List ι × List β)
  | 0, _ => none
  | fuel + 1, buffer =>
      match next buffer with
      | none => some ([], buffer)
      | some (item, rest) =>
          (drainLoop next fuel rest).map fun drained => (item :: drained.1, drained.2)

namespace ItemParser

variable {β ι : Type*} (p : ItemParser β ι)

/-- The items at the front of the buffer, and the rest. -/
def drain (buffer : List β) : List ι × List β :=
  match h : p.next buffer with
  | none => ([], buffer)
  | some (item, rest) =>
      have := p.length_lt h
      (item :: (drain rest).1, (drain rest).2)
termination_by buffer.length

/-- The items that come out of the chunks, and what is left of them. -/
def feed (buffer : List β) : List (List β) → List ι × List β
  | [] => ([], buffer)
  | chunk :: chunks =>
      let drained := p.drain (buffer ++ chunk)
      ((drained.1 ++ (feed drained.2 chunks).1), (feed drained.2 chunks).2)

variable {p} {buffer rest : List β} {item : ι}

lemma drain_of_none (h : p.next buffer = none) : p.drain buffer = ([], buffer) := by
  rw [drain]
  split
  · rfl
  · next hsome => simp [h] at hsome

lemma drain_of_some (h : p.next buffer = some (item, rest)) :
    p.drain buffer = (item :: (p.drain rest).1, (p.drain rest).2) := by
  rw [drain]
  split
  · next hnone => simp [h] at hnone
  · next hsome =>
      obtain ⟨rfl, rfl⟩ : _ ∧ _ := by simpa [h] using hsome
      rfl

variable (p) in
/-- No item is left at the front of the rest. -/
lemma next_drain (buffer : List β) : p.next (p.drain buffer).2 = none := by
  induction buffer using drain.induct p with
  | case1 buffer h => rw [drain_of_none h, h]
  | case2 buffer item rest h _ ih => rwa [drain_of_some h]

variable (p) in
/-- Draining in two goes. -/
theorem drain_append (buffer more : List β) :
    p.drain (buffer ++ more) =
      ((p.drain buffer).1 ++ (p.drain ((p.drain buffer).2 ++ more)).1,
        (p.drain ((p.drain buffer).2 ++ more)).2) := by
  induction buffer using drain.induct p with
  | case1 buffer h => simp [drain_of_none h]
  | case2 buffer item rest h _ ih =>
      rw [drain_of_some h, drain_of_some (p.next_append more h), ih]
      simp

variable (p) in
/-- How the input is cut does not matter. -/
theorem feed_drain (chunks : List (List β)) (buffer : List β) (h : p.next buffer = none) :
    p.feed buffer chunks = p.drain (buffer ++ chunks.flatten) := by
  induction chunks generalizing buffer with
  | nil => simp [feed, drain_of_none h]
  | cons chunk chunks ih =>
      have hrest := ih (p.drain (buffer ++ chunk)).2 (p.next_drain _)
      rw [feed, hrest, List.flatten_cons, ← List.append_assoc, drain_append p (buffer ++ chunk)]

/-- What has been written item after item, with something that is no item behind it, is read
back. -/
theorem drain_flatMap {κ : Type*} {write : κ → List β} {read : κ → ι}
    (hwrite : ∀ x more, p.next (write x ++ more) = some (read x, more)) (xs : List κ)
    (hrest : p.next rest = none) : p.drain (xs.flatMap write ++ rest) = (xs.map read, rest) := by
  induction xs with
  | nil => simpa using drain_of_none hrest
  | cons x xs ih =>
      rw [List.flatMap_cons, List.append_assoc, drain_of_some (hwrite x _), ih, List.map_cons]

/-- A loop whose body is the parser's, on all buffers it comes to. -/
theorem drainLoop_eq_drain {next : List β → Option (ι × List β)} {I : List β → Prop}
    (hnext : ∀ buffer, I buffer → next buffer = p.next buffer)
    (hkeep : ∀ buffer item rest, I buffer → p.next buffer = some (item, rest) → I rest)
    {fuel : ℕ} (hfuel : buffer.length < fuel) (hbuffer : I buffer) :
    drainLoop next fuel buffer = some (p.drain buffer) := by
  induction fuel generalizing buffer with
  | zero => omega
  | succ fuel ih =>
      rw [drainLoop, hnext buffer hbuffer]
      cases h : p.next buffer with
      | none => rw [drain_of_none h]
      | some found =>
          obtain ⟨item, rest⟩ := found
          have hlt : rest.length < buffer.length := p.length_lt h
          have hdrain : drainLoop next fuel rest = some (p.drain rest) :=
            ih (by omega) (hkeep _ _ _ hbuffer h)
          simp [hdrain, drain_of_some h]

end ItemParser
