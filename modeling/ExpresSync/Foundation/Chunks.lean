import Mathlib.Data.List.Infix
import Mathlib.Data.List.Nodup
import Mathlib.Data.List.TakeDrop

/-!
# Cutting a list into chunks

`chunks size xs` is what the loop `for (i = 0; i < xs.length; i += size)` collects: slices of
length `size`, the last one shorter.  An element is found in the chunk its index divided by `size`
names (`mem_chunkAt_iff`), no element is lost or repeated (`flatten_chunks`), and in a list
without repetitions every element lies in one chunk only (`existsUnique_chunk`).
-/

namespace Chunks

variable {ε : Type*}

/-- The chunk of number `i`. -/
def chunkAt (size : ℕ) (xs : List ε) (i : ℕ) : List ε := (xs.drop (i * size)).take size

/-- All chunks, in order. -/
def chunks (size : ℕ) (xs : List ε) : List (List ε) :=
  (List.range ((xs.length + size - 1) / size)).map (chunkAt size xs)

variable {size : ℕ} {xs : List ε}

/-- A chunk continues what the chunks before it hold. -/
lemma take_append_chunkAt (size : ℕ) (xs : List ε) (n : ℕ) :
    xs.take (n * size) ++ chunkAt size xs n = xs.take ((n + 1) * size) := by
  rw [Nat.succ_mul, List.take_add, chunkAt]

lemma length_chunkAt (size : ℕ) (xs : List ε) (i : ℕ) :
    (chunkAt size xs i).length = min size (xs.length - i * size) := by
  rw [chunkAt, List.length_take, List.length_drop]

/-- The first `n` chunks are the first `n * size` elements. -/
lemma flatten_map_chunkAt (size : ℕ) (xs : List ε) (n : ℕ) :
    ((List.range n).map (chunkAt size xs)).flatten = xs.take (n * size) := by
  induction n with
  | zero => simp
  | succ n ih =>
      rw [List.range_succ, List.map_append, List.flatten_append, ih, ← take_append_chunkAt]
      simp

theorem flatten_chunks (hsize : 0 < size) (xs : List ε) : (chunks size xs).flatten = xs := by
  rw [chunks, flatten_map_chunkAt]
  apply List.take_of_length_le
  have hceil := Nat.lt_div_mul_add (a := xs.length + size - 1) hsize
  omega

lemma mem_chunkAt_iff (hsize : 0 < size) {i : ℕ} {x : ε} :
    x ∈ chunkAt size xs i ↔ ∃ index, xs[index]? = some x ∧ index / size = i := by
  rw [List.mem_iff_getElem?]
  constructor
  · rintro ⟨offset, hget⟩
    have hlt : offset < size := by
      by_contra hge
      rw [chunkAt, List.getElem?_take_eq_none (Nat.not_lt.mp hge)] at hget
      cases hget
    rw [chunkAt, List.getElem?_take_of_lt hlt, List.getElem?_drop] at hget
    refine ⟨i * size + offset, hget, ?_⟩
    rw [Nat.add_comm, Nat.add_mul_div_right _ _ hsize, Nat.div_eq_of_lt hlt, Nat.zero_add]
  · rintro ⟨index, hget, rfl⟩
    refine ⟨index % size, ?_⟩
    rw [chunkAt, List.getElem?_take_of_lt (Nat.mod_lt _ hsize), List.getElem?_drop,
      Nat.div_add_mod' index size]
    exact hget

lemma getElem?_chunks {i : ℕ} {chunk : List ε} :
    (chunks size xs)[i]? = some chunk ↔
      i < (chunks size xs).length ∧ chunk = chunkAt size xs i := by
  simp only [chunks, List.getElem?_map, Option.map_eq_some_iff, List.length_map, List.length_range,
    List.getElem?_eq_some_iff, List.getElem_range]
  constructor
  · rintro ⟨_, ⟨hlt, rfl⟩, rfl⟩
    exact ⟨hlt, rfl⟩
  · rintro ⟨hlt, rfl⟩
    exact ⟨i, ⟨hlt, rfl⟩, rfl⟩

/-- Every index falls into a chunk that exists. -/
lemma div_lt_length_chunks (hsize : 0 < size) {index : ℕ} (h : index < xs.length) :
    index / size < (chunks size xs).length := by
  rw [chunks, List.length_map, List.length_range, Nat.lt_iff_add_one_le,
    Nat.le_div_iff_mul_le hsize, Nat.succ_mul]
  have hdiv := Nat.div_mul_le_self index size
  omega

/-- In a list without repetitions, every element lies in exactly one chunk. -/
theorem existsUnique_chunk (hsize : 0 < size) (hnodup : xs.Nodup) {x : ε} (hx : x ∈ xs) :
    ∃! i : ℕ, ∃ chunk, (chunks size xs)[i]? = some chunk ∧ x ∈ chunk := by
  obtain ⟨index, hget⟩ := List.mem_iff_getElem?.mp hx
  obtain ⟨hlt, -⟩ := List.getElem?_eq_some_iff.mp hget
  refine ⟨index / size, ⟨_, getElem?_chunks.mpr ⟨div_lt_length_chunks hsize hlt, rfl⟩,
    (mem_chunkAt_iff hsize).mpr ⟨index, hget, rfl⟩⟩, ?_⟩
  rintro i ⟨chunk, hchunk, hmem⟩
  obtain ⟨-, rfl⟩ := getElem?_chunks.mp hchunk
  obtain ⟨index', hget', rfl⟩ := (mem_chunkAt_iff hsize).mp hmem
  rw [(List.getElem?_inj hlt hnodup).mp (hget.trans hget'.symm)]

end Chunks
