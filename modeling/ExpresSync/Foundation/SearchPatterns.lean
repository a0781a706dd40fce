import Mathlib.Algebra.BigOperators.Group.List.Basic
import Mathlib.Algebra.GroupWithZero.Nat
import Mathlib.Algebra.Order.Group.Nat
import Mathlib.Data.List.Basic
import Mathlib.Data.List.Forall2
import Mathlib.Data.List.Infix

/-!
# Patterns that are looked for in a line

Regular expressions whose repetitions are all of single characters, with the backtracking of
ECMAScript: a repetition is tried at its longest first, or at its shortest when it is lazy, an
alternative before those after it, and an occurrence before those that start later.

`Captures` says of what a pattern captures that each capture is a repetition of the pattern, made of
its characters; `captures_matchLine` proves it of every match.
-/

/-- A part of a pattern. -/
inductive Piece where
  /-- One of the words, the first that goes with the rest of the pattern. -/
  | words (alternatives : List String)
  | optional (p : Char → Bool)
  /-- At least so many characters, as many as possible unless it is lazy. -/
  | many (p : Char → Bool) (least : ℕ) (isLazy captured : Bool)

structure LinePattern where
  ignoreCase : Bool
  pieces : List Piece

/-- The line after a word at its head. -/
def dropWord (ignoreCase : Bool) : List Char → List Char → Option (List Char)
  | [], line => some line
  | _ :: _, [] => none
  | c :: word, d :: line =>
      if c = d ∨ ignoreCase ∧ c.toUpper = d.toUpper then dropWord ignoreCase word line else none

/-- The result of `next` for a run of characters at the head of the line and what is after it, of
those that it has one for the longest run, or the shortest; `run` is what has been read. -/
def manyThen {β : Type*} (p : Char → Bool) (isLazy : Bool)
    (next : List Char → List Char → Option β) : ℕ → List Char → List Char → Option β
  | 0, run, [] => next run []
  | 0, run, c :: line =>
      let here := next run (c :: line)
      let further := if p c then manyThen p isLazy next 0 (run ++ [c]) line else none
      if isLazy then here.or further else further.or here
  | _ + 1, _, [] => none
  | least + 1, run, c :: line =>
      if p c then manyThen p isLazy next least (run ++ [c]) line else none

/-- What is captured by the pieces at the head of the line. -/
def matchHere (ignoreCase : Bool) : List Piece → List Char → Option (List (List Char))
  | [], _ => some []
  | .words alternatives :: pieces, line =>
      alternatives.findSome? fun word =>
        (dropWord ignoreCase word.toList line).bind (matchHere ignoreCase pieces)
  | .optional p :: pieces, line =>
      let without := matchHere ignoreCase pieces line
      match line with
      | [] => without
      | c :: rest => if p c then (matchHere ignoreCase pieces rest).or without else without
  | .many p least isLazy captured :: pieces, line =>
      manyThen p isLazy (fun run rest => (matchHere ignoreCase pieces rest).map fun captures =>
        if captured then run :: captures else captures) least [] line

namespace LinePattern

variable (pattern : LinePattern)

/-- What is captured by the first occurrence of the pattern in a line. -/
def matchLine : List Char → Option (List (List Char))
  | [] => matchHere pattern.ignoreCase pattern.pieces []
  | c :: line => (matchHere pattern.ignoreCase pattern.pieces (c :: line)).or (matchLine line)

end LinePattern

/-! ## What is captured -/

/-- The captures are runs of the repetitions that capture, in order. -/
inductive Captures : List Piece → List (List Char) → Prop where
  | nil : Captures [] []
  | words {alternatives pieces captures} (h : Captures pieces captures) :
      Captures (.words alternatives :: pieces) captures
  | optional {p pieces captures} (h : Captures pieces captures) :
      Captures (.optional p :: pieces) captures
  | skipped {p least isLazy pieces captures} (h : Captures pieces captures) :
      Captures (.many p least isLazy false :: pieces) captures
  | captured {p least isLazy pieces run captures} (hleast : least ≤ run.length)
      (hall : ∀ c ∈ run, p c = true) (h : Captures pieces captures) :
      Captures (.many p least isLazy true :: pieces) (run :: captures)

section

variable {ignoreCase : Bool} {pieces : List Piece} {captures : List (List Char)}

/-- A run is made of the characters it may have, and is as long as it has to be. -/
lemma manyThen_eq_some {β : Type*} {p : Char → Bool} {isLazy : Bool}
    {next : List Char → List Char → Option β} {least : ℕ} {run line : List Char} {b : β}
    (h : manyThen p isLazy next least run line = some b) :
    ∃ more rest, least ≤ more.length ∧ (∀ c ∈ more, p c = true) ∧
      next (run ++ more) rest = some b := by
  have hstop : ∀ {run line : List Char}, next run line = some b → ∃ more rest,
      0 ≤ more.length ∧ (∀ c ∈ more, p c = true) ∧ next (run ++ more) rest = some b :=
    fun h => ⟨[], _, Nat.le_refl _, fun _ hc => absurd hc List.not_mem_nil, by simpa using h⟩
  induction line generalizing least run with
  | nil =>
      cases least with
      | zero => exact hstop h
      | succ least => cases h
  | cons c line ih =>
      have hread : ∀ {least : ℕ}, (if p c then manyThen p isLazy next least (run ++ [c]) line
          else none) = some b → ∃ more rest, least + 1 ≤ more.length ∧
            (∀ c ∈ more, p c = true) ∧ next (run ++ more) rest = some b := by
        intro least h
        split at h
        · next hc =>
          obtain ⟨more, rest, hleast, hall, hnext⟩ := ih h
          refine ⟨c :: more, rest, Nat.succ_le_succ hleast, ?_, by simpa using hnext⟩
          exact List.forall_mem_cons.mpr ⟨hc, hall⟩
        · cases h
      cases least with
      | zero =>
          have hcases : next run (c :: line) = some b ∨
              (if p c then manyThen p isLazy next 0 (run ++ [c]) line else none) = some b := by
            simp only [manyThen] at h
            split at h
            · exact (Option.or_eq_some_iff.mp h).imp_right And.right
            · exact (Option.or_eq_some_iff.mp h).symm.imp_left And.right
          rcases hcases with hhere | hfurther
          · exact hstop hhere
          · obtain ⟨more, rest, -, hall, hnext⟩ := hread hfurther
            exact ⟨more, rest, Nat.zero_le _, hall, hnext⟩
      | succ least => exact hread h

lemma captures_matchHere {line : List Char}
    (h : matchHere ignoreCase pieces line = some captures) : Captures pieces captures := by
  induction pieces generalizing line captures with
  | nil =>
      obtain rfl := Option.some.inj h
      exact .nil
  | cons piece pieces ih =>
      cases piece with
      | words alternatives =>
          obtain ⟨word, -, hword⟩ := List.exists_of_findSome?_eq_some h
          obtain ⟨rest, -, hrest⟩ := Option.bind_eq_some_iff.mp hword
          exact .words (ih hrest)
      | optional p =>
          refine .optional ?_
          cases line with
          | nil => exact ih h
          | cons c line =>
              simp only [matchHere] at h
              split at h
              · exact (Option.or_eq_some_iff.mp h).elim ih fun h => ih h.2
              · exact ih h
      | many p least isLazy captured =>
          obtain ⟨run, rest, hleast, hall, hnext⟩ := manyThen_eq_some h
          obtain ⟨more, hmore, rfl⟩ := Option.map_eq_some_iff.mp hnext
          cases captured with
          | false => exact .skipped (ih hmore)
          | true => exact .captured hleast hall (ih hmore)

lemma Captures.of_mem (h : Captures pieces captures) {run : List Char} (hrun : run ∈ captures) :
    ∃ p least isLazy, .many p least isLazy true ∈ pieces ∧ least ≤ run.length ∧
      ∀ c ∈ run, p c = true := by
  induction h with
  | nil => cases hrun
  | words _ ih | optional _ ih | skipped _ ih =>
      obtain ⟨p, least, isLazy, hmem, hspec⟩ := ih hrun
      exact ⟨p, least, isLazy, List.mem_cons_of_mem _ hmem, hspec⟩
  | captured hleast hall _ ih =>
      rcases List.mem_cons.mp hrun with rfl | hrest
      · exact ⟨_, _, _, List.mem_cons_self, hleast, hall⟩
      · obtain ⟨p, least, isLazy, hmem, hspec⟩ := ih hrest
        exact ⟨p, least, isLazy, List.mem_cons_of_mem _ hmem, hspec⟩

theorem captures_matchLine {pattern : LinePattern} {line : List Char}
    (h : pattern.matchLine line = some captures) : Captures pattern.pieces captures := by
  induction line with
  | nil => exact captures_matchHere h
  | cons c line ih => exact (Option.or_eq_some_iff.mp h).elim captures_matchHere fun h => ih h.2

end

/-!
# Substrings of a text with separators

A word without the separator occurs in a text just when it occurs on one side of it
(`infix_separated_iff`).  So the words of a list can be looked for in each part of a text that is
put together from parts, also after `toLowerCase`, which maps one character after the other.
-/

/-- A word cannot lie across a separator that it does not have. -/
lemma infix_separated_iff {α : Type*} {word xs ys : List α} {sep : α} (h : sep ∉ word) :
    word <:+: xs ++ sep :: ys ↔ word <:+: xs ∨ word <:+: ys := by
  have honly : ∀ {l : List α}, sep ∉ l → l <+: sep :: ys → l = [] := by
    rintro (_ | ⟨c, l⟩) hsep hl
    · rfl
    · obtain ⟨rfl, -⟩ := List.cons_prefix_cons.mp hl
      exact absurd List.mem_cons_self hsep
  constructor
  · intro hword
    rcases List.infix_append_iff.mp hword with hleft | hright | ⟨front, back, rfl, hfront, hback⟩
    · exact Or.inl hleft
    · rcases List.infix_cons_iff.mp hright with hhead | htail
      · exact Or.inr (honly h hhead ▸ List.nil_infix)
      · exact Or.inr htail
    · have hnil : back = [] := honly (fun hsep => h (List.mem_append_right _ hsep)) hback
      rw [hnil, List.append_nil]
      exact Or.inl hfront.isInfix
  · rintro (hleft | hright)
    · exact List.infix_append_of_infix_left hleft
    · exact List.infix_append_of_infix_right (List.infix_cons hright)

/-! ## Lower case -/

/-- `toLowerCase` of a character; the two forms of a lower-case sigma count as one. -/
structure LowerCase where
  lower : Char → List Char
  ascii : ∀ c : Char, c.toNat < 128 → lower c = [c.toLower]

namespace LowerCase

variable (L : LowerCase)

def apply (text : List Char) : List Char := text.flatMap L.lower

@[simp] lemma apply_append (s t : List Char) : L.apply (s ++ t) = L.apply s ++ L.apply t :=
  List.flatMap_append

lemma apply_cons {c : Char} (hc : c.toNat < 128) (s : List Char) :
    L.apply (c :: s) = c.toLower :: L.apply s := by
  rw [apply, List.flatMap_cons, L.ascii c hc, List.singleton_append]
  rfl

lemma apply_ascii {s : List Char} (h : ∀ c ∈ s, c.toNat < 128) :
    L.apply s = s.map Char.toLower := by
  induction s with
  | nil => rfl
  | cons c s ih =>
      rw [L.apply_cons (h c List.mem_cons_self), ih fun d hd => h d (List.mem_cons_of_mem _ hd),
        List.map_cons]

end LowerCase

/-!
# Search and replacement

Regular expressions that are sequences of repetitions of characters, with a condition on the
character that comes after a match, and the replacement of all their matches in a text, both as in
ECMAScript: from the left, repetitions as long as possible, and with backtracking.

## Matches

`takeRun` gives characters back as long as the rest of the pattern has no match, so the search finds
one wherever there is one (`matchHere_isSome`).  `Replaced` tells what has been replaced: between
the matches there are parts in which none starts.

## What is left over

A replacement that ends with a word between two characters which a pattern does not have keeps the
parts before and after it apart.  So a pattern that has been replaced does not occur any more
(`not_occurs_replaceAll_self`), nor does one that has not occurred before (`not_occurs_replaceAll`).
-/

/-- From `least` to `most` characters of a class, without a bound for `none`. -/
structure CharRun where
  cls : Char → Bool
  least : ℕ
  most : Option ℕ

namespace CharRun

/-- The character itself. -/
def lit (c : Char) : CharRun := ⟨fun d => d == c, 1, some 1⟩

/-- `{least,}` -/
def atLeast (least : ℕ) (cls : Char → Bool) : CharRun := ⟨cls, least, none⟩

end CharRun

structure SearchPattern where
  runs : List CharRun
  /-- What may come next, a character or the end. -/
  ends : Option Char → Bool

/-- The result of `next` after a run of characters, the longest that it has one for. -/
def takeRun {β : Type*} (cls : Char → Bool) (next : List Char → Option β) :
    ℕ → Option ℕ → List Char → Option β
  | least, _, [] => if least = 0 then next [] else none
  | least, most, c :: s =>
      (if cls c = true ∧ most ≠ some 0 then takeRun cls next (least - 1) (most.map (· - 1)) s
        else none).or
        (if least = 0 then next (c :: s) else none)

/-- What is after the match at the head of a text. -/
def matchRuns (ends : Option Char → Bool) : List CharRun → List Char → Option (List Char)
  | [], s => if ends s.head? then some s else none
  | r :: runs, s => takeRun r.cls (matchRuns ends runs) r.least r.most s

/-- The words of a sequence of repetitions. -/
inductive RunsMatch : List CharRun → List Char → Prop where
  | nil : RunsMatch [] []
  | cons {r runs u v} (hcls : ∀ c ∈ u, r.cls c = true) (hleast : r.least ≤ u.length)
      (hmost : ∀ m ∈ r.most, u.length ≤ m) (h : RunsMatch runs v) : RunsMatch (r :: runs) (u ++ v)

section

variable {β : Type*} {cls : Char → Bool} {next : List Char → Option β} {least : ℕ}
  {most : Option ℕ} {s t u w rest : List Char} {ends : Option Char → Bool} {runs : List CharRun}

lemma takeRun_eq_some {b : β} (h : takeRun cls next least most s = some b) :
    ∃ u t, s = u ++ t ∧ (∀ c ∈ u, cls c = true) ∧ least ≤ u.length ∧
      (∀ m ∈ most, u.length ≤ m) ∧ next t = some b := by
  have hstop : ∀ {least : ℕ} {most : Option ℕ} {s : List Char},
      (if least = 0 then next s else none) = some b → ∃ u t, s = u ++ t ∧ (∀ c ∈ u, cls c = true) ∧
        least ≤ u.length ∧ (∀ m ∈ most, u.length ≤ m) ∧ next t = some b := by
    intro least most s h
    split at h
    · next hzero =>
      exact ⟨[], s, rfl, fun _ hc => absurd hc List.not_mem_nil, hzero.le, fun _ _ => Nat.zero_le _,
        h⟩
    · cases h
  induction s generalizing least most with
  | nil => exact hstop h
  | cons c s ih =>
      rcases Option.or_eq_some_iff.mp h with hfurther | ⟨-, hhere⟩
      · split at hfurther
        · next hc =>
          obtain ⟨u, t, rfl, hall, hleast, hmost, hnext⟩ := ih hfurther
          refine ⟨c :: u, t, rfl, List.forall_mem_cons.mpr ⟨hc.1, hall⟩, ?_, ?_, hnext⟩
          · rw [List.length_cons]
            omega
          · intro m hm
            have hpred : m - 1 ∈ most.map (· - 1) := Option.mem_map_of_mem _ hm
            have hbound := hmost _ hpred
            have hpos : m ≠ 0 := by
              rintro rfl
              exact hc.2 hm
            rw [List.length_cons]
            omega
        · cases hfurther
      · exact hstop hhere

/-- A run is found where there is one. -/
lemma takeRun_isSome (hall : ∀ c ∈ u, cls c = true) (hleast : least ≤ u.length)
    (hmost : ∀ m ∈ most, u.length ≤ m) (hnext : (next t).isSome) :
    (takeRun cls next least most (u ++ t)).isSome := by
  induction u generalizing least most with
  | nil =>
      have hzero : least = 0 := Nat.le_zero.mp hleast
      cases t with
      | nil =>
          rw [List.append_nil, takeRun, if_pos hzero]
          exact hnext
      | cons d t =>
          rw [List.nil_append, takeRun, if_pos hzero, Option.isSome_or, hnext, Bool.or_true]
  | cons c u ih =>
      rw [List.length_cons] at hleast
      have hc : cls c = true ∧ most ≠ some 0 := by
        refine ⟨hall c List.mem_cons_self, ?_⟩
        rintro rfl
        exact absurd (hmost 0 rfl) (Nat.not_succ_le_zero _)
      have hmost' : ∀ m ∈ most.map (· - 1), u.length ≤ m := by
        intro m hm
        obtain ⟨m', hm', rfl⟩ := Option.map_eq_some_iff.mp hm
        have hbound := hmost m' hm'
        rw [List.length_cons] at hbound
        omega
      rw [List.cons_append, takeRun, if_pos hc, Option.isSome_or,
        ih (fun d hd => hall d (List.mem_cons_of_mem _ hd)) (by omega) hmost', Bool.true_or]

lemma matchRuns_eq_some (h : matchRuns ends runs s = some rest) :
    ∃ w, s = w ++ rest ∧ RunsMatch runs w ∧ ends rest.head? = true := by
  induction runs generalizing s with
  | nil =>
      rw [matchRuns] at h
      split at h
      · next hends =>
        obtain rfl := Option.some.inj h
        exact ⟨[], rfl, .nil, hends⟩
      · cases h
  | cons r runs ih =>
      obtain ⟨u, t, rfl, hall, hleast, hmost, hnext⟩ := takeRun_eq_some h
      obtain ⟨w, rfl, hmatch, hends⟩ := ih hnext
      exact ⟨u ++ w, (List.append_assoc _ _ _).symm, .cons hall hleast hmost hmatch, hends⟩

lemma matchRuns_isSome (h : RunsMatch runs w) (hends : ends rest.head? = true) :
    (matchRuns ends runs (w ++ rest)).isSome := by
  induction h with
  | nil =>
      rw [List.nil_append, matchRuns, if_pos hends]
      rfl
  | cons hall hleast hmost _ ih =>
      rw [List.append_assoc, matchRuns]
      exact takeRun_isSome hall hleast hmost ih

namespace RunsMatch

lemma length_le (h : RunsMatch runs w) : (runs.map CharRun.least).sum ≤ w.length := by
  induction h with
  | nil => exact Nat.le_refl 0
  | cons _ hleast _ _ ih =>
      rw [List.map_cons, List.sum_cons, List.length_append]
      exact Nat.add_le_add hleast ih

/-- A character that no repetition has. -/
lemma not_mem (h : RunsMatch runs w) {c : Char} (hc : ∀ r ∈ runs, r.cls c = false) : c ∉ w := by
  induction h with
  | nil => exact List.not_mem_nil
  | @cons r runs u v hall _ _ _ ih =>
      rw [List.mem_append, not_or]
      refine ⟨fun hu => ?_, ih fun r' hr' => hc r' (List.mem_cons_of_mem _ hr')⟩
      have htrue := hall c hu
      rw [hc r List.mem_cons_self] at htrue
      cases htrue

/-- One character of a class, and the rest. -/
lemma one {cls : Char → Bool} (h : RunsMatch (⟨cls, 1, some 1⟩ :: runs) w) :
    ∃ c v, w = c :: v ∧ cls c = true ∧ RunsMatch runs v := by
  cases h with
  | @cons _ _ u v hall hleast hmost h =>
      have hlength : u.length = 1 := le_antisymm (hmost 1 rfl) hleast
      obtain ⟨c, rfl⟩ := List.length_eq_one_iff.mp hlength
      exact ⟨c, v, rfl, hall c List.mem_cons_self, h⟩

lemma cons_one {cls : Char → Bool} {c : Char} (hc : cls c = true) (h : RunsMatch runs w) :
    RunsMatch (⟨cls, 1, some 1⟩ :: runs) (c :: w) := by
  have hbound : ∀ m ∈ some 1, [c].length ≤ m := fun m hm => (Option.some.inj hm).le
  exact RunsMatch.cons (u := [c]) (List.forall_mem_singleton.mpr hc) le_rfl hbound h

/-- The first character. -/
lemma head {r : CharRun} (h : RunsMatch (r :: runs) w) (hpos : 0 < r.least) :
    ∃ c v, w = c :: v ∧ r.cls c = true := by
  cases h with
  | @cons _ _ u v hall hleast _ _ =>
      cases u with
      | nil => exact absurd (hpos.trans_le hleast) (Nat.lt_irrefl 0)
      | cons c u => exact ⟨c, u ++ v, rfl, hall c List.mem_cons_self⟩

/-- Characters that no repetition tells apart. -/
lemma of_forall₂ {sim : Char → Char → Prop} (h : RunsMatch runs w)
    (hsim : ∀ r ∈ runs, ∀ c d, sim c d → r.cls c = true → r.cls d = true) {w' : List Char}
    (hw : List.Forall₂ sim w w') : RunsMatch runs w' := by
  induction h generalizing w' with
  | nil =>
      cases hw
      exact .nil
  | @cons r runs u v hall hleast hmost _ ih =>
      have hu := List.forall₂_take u.length hw
      have hv := List.forall₂_drop u.length hw
      rw [List.take_left] at hu
      rw [List.drop_left] at hv
      rw [← List.take_append_drop u.length w']
      have hlength := hu.length_eq
      refine .cons ?_ (hlength ▸ hleast) (hlength ▸ hmost)
        (ih (fun r' hr' => hsim r' (List.mem_cons_of_mem _ hr')) hv)
      intro d hd
      obtain ⟨i, hi, rfl⟩ := List.getElem_of_mem hd
      have hi' : i < u.length := hlength ▸ hi
      exact hsim r List.mem_cons_self _ _ (hu.get hi' hi) (hall _ (List.getElem_mem hi'))

/-- A word that goes on into `v` has its like where `v` is replaced. -/
lemma exists_of_forall₂ {sim : Char → Char → Prop} (hrefl : ∀ c, sim c c)
    (hsim : ∀ r ∈ runs, ∀ c d, sim c d → r.cls c = true → r.cls d = true) (h : RunsMatch runs w)
    {v v' back : List Char} (hsplit : u ++ v = w ++ back) (hv : List.Forall₂ sim v v') :
    ∃ w' back', u ++ v' = w' ++ back' ∧ RunsMatch runs w' := by
  have hall : List.Forall₂ sim (u ++ v) (u ++ v') :=
    List.rel_append (List.forall₂_same.mpr fun c _ => hrefl c) hv
  have hhead := List.forall₂_take w.length hall
  rw [hsplit, List.take_left] at hhead
  exact ⟨(u ++ v').take w.length, (u ++ v').drop w.length, (List.take_append_drop _ _).symm,
    h.of_forall₂ hsim hhead⟩

end RunsMatch

end

namespace SearchPattern

variable (P : SearchPattern)

/-- What is after the match at the head of a text. -/
def matchHere (s : List Char) : Option (List Char) := matchRuns P.ends P.runs s

/-- `s.replace`, after so many characters of the last match. -/
def replaceFrom (replacement : List Char) : ℕ → List Char → List Char
  | _, [] => []
  | skip + 1, _ :: s => replaceFrom replacement skip s
  | 0, c :: s =>
      match P.matchHere (c :: s) with
      | some rest => replacement ++ replaceFrom replacement (s.length - rest.length) s
      | none => c :: replaceFrom replacement 0 s

/-- `s.replace` with all matches, of a pattern that has no empty ones. -/
def replaceAll (replacement s : List Char) : List Char := P.replaceFrom replacement 0 s

/-- There is a match somewhere in a text. -/
def Occurs (s : List Char) : Prop :=
  ∃ front w back, s = front ++ (w ++ back) ∧ RunsMatch P.runs w ∧ P.ends back.head? = true

/-- No match starts in `front`, with `tail` after it. -/
def NoneStarts (front tail : List Char) : Prop :=
  ∀ f u, front = f ++ u → u ≠ [] → P.matchHere (u ++ tail) = none

/-- How many characters a match has at least. -/
def minLength : ℕ := (P.runs.map CharRun.least).sum

/-- No match has the character. -/
def Avoids (c : Char) : Prop := ∀ r ∈ P.runs, r.cls c = false

instance (c : Char) : Decidable (P.Avoids c) :=
  inferInstanceAs (Decidable (∀ r ∈ P.runs, r.cls c = false))

/-- The parts of a text and what they have been replaced with. -/
inductive Replaced (replacement : List Char) : List Char → List Char → Prop where
  | done {s} (h : P.NoneStarts s []) : Replaced replacement s s
  | step {front w rest out} (hnone : P.NoneStarts front (w ++ rest)) (hmatch : RunsMatch P.runs w)
      (h : Replaced replacement rest out) :
      Replaced replacement (front ++ (w ++ rest)) (front ++ (replacement ++ out))

variable {P} {Q : SearchPattern} {replacement s out front w rest tail : List Char}

lemma matchHere_eq_some (h : P.matchHere s = some rest) :
    ∃ w, s = w ++ rest ∧ RunsMatch P.runs w ∧ P.ends rest.head? = true := matchRuns_eq_some h

/-- The search finds a match where there is one. -/
lemma matchHere_isSome (h : RunsMatch P.runs w) (hends : P.ends rest.head? = true) :
    (P.matchHere (w ++ rest)).isSome := matchRuns_isSome h hends

lemma ne_nil_of_runsMatch (hpos : 0 < P.minLength) (h : RunsMatch P.runs w) : w ≠ [] := by
  rintro rfl
  exact absurd (hpos.trans_le h.length_le) (Nat.lt_irrefl 0)

lemma not_occurs_of_length_lt (h : s.length < P.minLength) : ¬P.Occurs s := by
  rintro ⟨front, w, back, rfl, hmatch, -⟩
  have hlength : P.minLength ≤ w.length := hmatch.length_le
  rw [List.length_append, List.length_append] at h
  omega

lemma Occurs.append_left (h : P.Occurs s) (front : List Char) : P.Occurs (front ++ s) := by
  obtain ⟨f, w, back, rfl, hmatch, hends⟩ := h
  exact ⟨front ++ f, w, back, (List.append_assoc _ _ _).symm, hmatch, hends⟩

/-- A text has no match just when none starts in it. -/
lemma noneStarts_of_not_occurs (h : ¬P.Occurs (front ++ tail)) : P.NoneStarts front tail := by
  rintro f u rfl -
  by_contra hsome
  obtain ⟨rest, hrest⟩ := Option.ne_none_iff_exists'.mp hsome
  obtain ⟨w, hw, hmatch, hends⟩ := matchHere_eq_some hrest
  refine h ⟨f, w, rest, ?_, hmatch, hends⟩
  rw [List.append_assoc, hw]

lemma not_occurs_of_noneStarts (hpos : 0 < P.minLength) (h : P.NoneStarts s []) :
    ¬P.Occurs s := by
  rintro ⟨f, w, back, rfl, hmatch, hends⟩
  have hne : w ++ back ≠ [] := fun hnil =>
    ne_nil_of_runsMatch hpos hmatch (List.append_eq_nil_iff.mp hnil).1
  have hsome := matchHere_isSome hmatch hends
  have hnone := h f (w ++ back) rfl hne
  rw [List.append_nil] at hnone
  rw [hnone] at hsome
  cases hsome

/-! ### Replacing -/

lemma replaceFrom_eq_drop (skip : ℕ) :
    P.replaceFrom replacement skip s = P.replaceFrom replacement 0 (s.drop skip) := by
  induction s generalizing skip with
  | nil =>
      rw [List.drop_nil]
      cases skip <;> rfl
  | cons c s ih =>
      cases skip with
      | zero => rfl
      | succ skip => exact ih skip

lemma replaceAll_none {c : Char} (h : P.matchHere (c :: s) = none) :
    P.replaceAll replacement (c :: s) = c :: P.replaceAll replacement s := by
  rw [replaceAll, replaceFrom, h]
  rfl

lemma replaceAll_match (hpos : 0 < P.minLength) (hmatch : RunsMatch P.runs w)
    (h : P.matchHere (w ++ rest) = some rest) :
    P.replaceAll replacement (w ++ rest) = replacement ++ P.replaceAll replacement rest := by
  cases w with
  | nil => exact absurd rfl (ne_nil_of_runsMatch hpos hmatch)
  | cons c w =>
      rw [List.cons_append] at h ⊢
      rw [replaceAll, replaceFrom, h]
      dsimp only
      rw [replaceFrom_eq_drop, List.length_append, Nat.add_sub_cancel, List.drop_left]
      rfl

lemma NoneStarts.cons {c : Char} (hhead : P.matchHere (c :: (s ++ tail)) = none)
    (h : P.NoneStarts s tail) : P.NoneStarts (c :: s) tail := by
  intro f u hsplit hne
  cases f with
  | nil =>
      rw [List.nil_append] at hsplit
      rw [← hsplit]
      exact hhead
  | cons d f => exact h f u (List.cons.inj hsplit).2 hne

theorem replaced_replaceAll (hpos : 0 < P.minLength) (s : List Char) :
    P.Replaced replacement s (P.replaceAll replacement s) := by
  induction hlength : s.length using Nat.strong_induction_on generalizing s with
  | _ n ih =>
      cases s with
      | nil =>
          refine .done fun f u hnil hne => ?_
          exact absurd (List.append_eq_nil_iff.mp hnil.symm).2 hne
      | cons c s =>
          cases hhere : P.matchHere (c :: s) with
          | none =>
              rw [replaceAll_none hhere]
              have hrest := ih s.length (hlength ▸ Nat.lt_succ_self _) s rfl
              generalize P.replaceAll replacement s = out at hrest
              cases hrest with
              | done h => exact .done (h.cons (by rwa [List.append_nil]))
              | step hnone hmatch h => exact .step (hnone.cons hhere) hmatch h
          | some rest =>
              obtain ⟨w, hw, hmatch, -⟩ := matchHere_eq_some hhere
              have hshorter : rest.length < n := by
                have hword := List.length_pos_of_ne_nil (ne_nil_of_runsMatch hpos hmatch)
                rw [← hlength, hw, List.length_append]
                omega
              rw [hw] at hhere ⊢
              rw [replaceAll_match hpos hmatch hhere]
              have hnone : P.NoneStarts [] (w ++ rest) := fun f u hnil hne =>
                absurd (List.append_eq_nil_iff.mp hnil.symm).2 hne
              exact .step hnone hmatch (ih rest.length hshorter rest rfl)

/-- Without a match nothing is replaced. -/
lemma replaceAll_of_not_occurs (h : ¬P.Occurs s) : P.replaceAll replacement s = s := by
  induction s with
  | nil => rfl
  | cons c s ih =>
      have hhead : P.matchHere (c :: s) = none := by
        have hnone : P.NoneStarts (c :: s) [] := noneStarts_of_not_occurs (by rwa [List.append_nil])
        have hall := hnone [] (c :: s) rfl (List.cons_ne_nil _ _)
        rwa [List.append_nil] at hall
      rw [replaceAll_none hhead, ih fun hs => h (hs.append_left [c])]

/-! ### What is left over -/

/-- A match cannot lie across a character that it does not have. -/
lemma Occurs.separated {c : Char} {a b : List Char} (hpos : 0 < P.minLength) (hc : P.Avoids c)
    (hend : P.ends none = true) (h : P.Occurs (a ++ c :: b)) : P.Occurs a ∨ P.Occurs b := by
  obtain ⟨f, w, back, hsplit, hmatch, hends⟩ := h
  have hne := ne_nil_of_runsMatch hpos hmatch
  have hmem : c ∉ w := hmatch.not_mem hc
  rcases List.append_eq_append_iff.mp hsplit with ⟨f', rfl, htail⟩ | ⟨a', rfl, htail⟩
  · cases f' with
    | nil =>
        cases w with
        | nil => exact absurd rfl hne
        | cons d w =>
            obtain ⟨rfl, -⟩ := List.cons.inj htail
            exact absurd List.mem_cons_self hmem
    | cons d f' =>
        obtain ⟨-, rfl⟩ := List.cons.inj htail
        exact Or.inr ⟨f', w, back, rfl, hmatch, hends⟩
  · rcases List.append_eq_append_iff.mp htail with ⟨back', rfl, hback⟩ | ⟨w', rfl, hword⟩
    · refine Or.inl ⟨f, w, back', rfl, hmatch, ?_⟩
      cases back' with
      | nil => exact hend
      | cons d back' =>
          rw [hback] at hends
          exact hends
    · cases w' with
      | nil =>
          rw [List.append_nil] at hmatch
          exact Or.inl ⟨f, a', [], (List.append_nil _).symm ▸ rfl, hmatch, hend⟩
      | cons d w' =>
          obtain ⟨rfl, -⟩ := List.cons.inj hword
          exact absurd (List.mem_append_right _ List.mem_cons_self) hmem

/-- A word between two characters that a pattern does not have, too short for a match itself. -/
structure Separates (Q : SearchPattern) (left : Char) (word : List Char) (right : Char) : Prop where
  pos : 0 < Q.minLength
  avoidsLeft : Q.Avoids left
  avoidsRight : Q.Avoids right
  short : word.length < Q.minLength
  atEnd : Q.ends none = true

section

variable {left right : Char} {word lead a b : List Char}

lemma Separates.not_occurs (h : Q.Separates left word right) (ha : ¬Q.Occurs a)
    (hb : ¬Q.Occurs b) : ¬Q.Occurs (a ++ left :: (word ++ right :: b)) := by
  intro hall
  rcases hall.separated h.pos h.avoidsLeft h.atEnd with hleft | hrest
  · exact ha hleft
  · rcases hrest.separated h.pos h.avoidsRight h.atEnd with hword | hright
    · exact not_occurs_of_length_lt h.short hword
    · exact hb hright

/-- A pattern that has been replaced does not occur, if it does not in what comes before the word of
a replacement. -/
theorem not_occurs_replaceAll_self (hsep : P.Separates left word right)
    (hlead : ∀ front w rest, P.NoneStarts front (w ++ rest) → RunsMatch P.runs w →
      ¬P.Occurs (front ++ lead)) (s : List Char) :
    ¬P.Occurs (P.replaceAll (lead ++ left :: (word ++ [right])) s) := by
  have hreplaced : P.Replaced (lead ++ left :: (word ++ [right])) s _ :=
    replaced_replaceAll hsep.pos s
  generalize P.replaceAll (lead ++ left :: (word ++ [right])) s = out at hreplaced
  induction hreplaced with
  | done h => exact not_occurs_of_noneStarts hsep.pos h
  | @step front w rest out hnone hmatch _ ih =>
      have hregroup : front ++ (lead ++ left :: (word ++ [right]) ++ out) =
          front ++ lead ++ left :: (word ++ right :: out) := by
        simp only [List.append_assoc, List.cons_append, List.nil_append]
      rw [hregroup]
      exact hsep.not_occurs (hlead front w rest hnone hmatch) ih

/-- Nor does a pattern that has not occurred before. -/
theorem not_occurs_replaceAll (hpos : 0 < P.minLength) (hsep : Q.Separates left word right)
    (hlead : ∀ front w rest, RunsMatch P.runs w → ¬Q.Occurs (front ++ (w ++ rest)) →
      ¬Q.Occurs (front ++ lead)) (h : ¬Q.Occurs s) :
    ¬Q.Occurs (P.replaceAll (lead ++ left :: (word ++ [right])) s) := by
  have hreplaced : P.Replaced (lead ++ left :: (word ++ [right])) s _ :=
    replaced_replaceAll hpos s
  generalize P.replaceAll (lead ++ left :: (word ++ [right])) s = out at hreplaced
  induction hreplaced with
  | done _ => exact h
  | @step front w rest out _ hmatch _ ih =>
      have hregroup : front ++ (lead ++ left :: (word ++ [right]) ++ out) =
          front ++ lead ++ left :: (word ++ right :: out) := by
        simp only [List.append_assoc, List.cons_append, List.nil_append]
      rw [hregroup]
      refine hsep.not_occurs (hlead front w rest hmatch h) (ih fun hrest => h ?_)
      exact (hrest.append_left w).append_left front

/-- Before a match there is none, if a match may come next. -/
lemma not_occurs_of_noneStarts_match (hpos : 0 < P.minLength)
    (hnext : ∀ c w, RunsMatch P.runs (c :: w) → P.ends (some c) = true)
    (hnone : P.NoneStarts front (w ++ rest)) (hmatch : RunsMatch P.runs w) : ¬P.Occurs front := by
  rintro ⟨f, m, back, rfl, hm, hends⟩
  have hne : m ++ back ≠ [] := fun hnil =>
    ne_nil_of_runsMatch hpos hm (List.append_eq_nil_iff.mp hnil).1
  have hends' : P.ends (back ++ (w ++ rest)).head? = true := by
    cases back with
    | cons c back => exact hends
    | nil =>
        cases w with
        | nil => exact absurd rfl (ne_nil_of_runsMatch hpos hmatch)
        | cons c w => exact hnext c w hmatch
  have hsome := matchHere_isSome hm hends'
  have hhere := hnone f (m ++ back) rfl hne
  rw [List.append_assoc] at hhere
  rw [hhere] at hsome
  cases hsome

lemma Occurs.append_right (hends : ∀ c, Q.ends (some c) = true) (h : Q.Occurs front)
    (tail : List Char) : Q.Occurs (front ++ tail) := by
  obtain ⟨f, w, back, rfl, hmatch, hend⟩ := h
  refine ⟨f, w, back ++ tail, by simp only [List.append_assoc], hmatch, ?_⟩
  cases back with
  | cons c back => exact hend
  | nil =>
      cases tail with
      | nil => exact hend
      | cons c tail => exact hends c

end

end SearchPattern
