import Mathlib.Algebra.Group.Nat.Defs
import Mathlib.Algebra.Order.Group.Unbundled.Int
import Mathlib.Data.List.DropRight
import Mathlib.Tactic.Push

/-!
# The texts of JavaScript numbers

What `Number.prototype.toString()` writes for a finite number.  A number is given by the decimal it
is written with, which is the shortest of those that round to it; so `± 0.d₁d₂…dₖ · 10ⁿ` stands for
a number other than zero, with `dₖ ≠ 0`.

The text tells the number: a *layout* is its parts before and after the point and its exponent, no
two layouts have one text (`Layout.text_inj`), and the significant digits and `n` can be read off
the layout (`exists_layout`).
-/

/-- The digits of a decimal other than zero, from the first that is not `0` to the last. -/
structure Significand where
  digits : List Char
  isDigit : ∀ c ∈ digits, c.isDigit = true
  ne_nil : digits ≠ []
  head_ne : digits.head? ≠ some '0'
  last_ne : digits.getLast? ≠ some '0'

/-- A finite number; both zeros are written alike. -/
inductive FiniteNumber where
  | zero
  | nonzero (negative : Bool) (significand : Significand) (n : ℤ)

/-! ## Layouts -/

/-- What stands before the point, what stands after it, and the exponent. -/
structure Layout where
  whole : List Char
  fraction : List Char
  exponent : ℤ

/-- A natural number in digits. -/
def decimalText (n : ℕ) : List Char := Nat.toDigits 10 n

namespace Layout

variable (l : Layout)

def pointText : List Char := if l.fraction = [] then [] else '.' :: l.fraction

def exponentText : List Char :=
  if l.exponent = 0 then []
  else 'e' :: (if 0 < l.exponent then '+' else '-') :: decimalText l.exponent.natAbs

def text : List Char := l.whole ++ (l.pointText ++ l.exponentText)

/-- Only digits stand before and after the point. -/
structure IsDecimal : Prop where
  whole : ∀ c ∈ l.whole, c.isDigit = true
  fraction : ∀ c ∈ l.fraction, c.isDigit = true

end Layout

/-- Where the digits of `0.d₁d₂…dₖ · 10ⁿ` stand. -/
def Significand.layout (s : Significand) (n : ℤ) : Layout :=
  let k : ℤ := s.digits.length
  if k ≤ n ∧ n ≤ 21 then ⟨s.digits ++ List.replicate (n - k).toNat '0', [], 0⟩
  else if 0 < n ∧ n ≤ 21 then ⟨s.digits.take n.toNat, s.digits.drop n.toNat, 0⟩
  else if -6 < n ∧ n ≤ 0 then ⟨['0'], List.replicate (-n).toNat '0' ++ s.digits, 0⟩
  else ⟨s.digits.take 1, s.digits.drop 1, n - 1⟩

/-- `Number.prototype.toString()` -/
def FiniteNumber.text : FiniteNumber → List Char
  | zero => ['0']
  | nonzero negative s n => (if negative then ['-'] else []) ++ (s.layout n).text

instance : ToString FiniteNumber := ⟨fun x => String.ofList x.text⟩

/-! ## Reading a layout -/

section Reading

/-- Where the characters of a kind end is determined by the text. -/
lemma eq_of_span_append {p : Char → Bool} {l l' r r' : List Char} (hl : ∀ c ∈ l, p c = true)
    (hl' : ∀ c ∈ l', p c = true) (hr : ∀ c ∈ r.head?, p c = false)
    (hr' : ∀ c ∈ r'.head?, p c = false) (h : l ++ r = l' ++ r') : l = l' ∧ r = r' := by
  rcases List.append_eq_append_iff.mp h with ⟨between, rfl, rfl⟩ | ⟨between, rfl, rfl⟩
  · cases between with
    | nil => exact ⟨(List.append_nil l).symm, rfl⟩
    | cons c between =>
        have hyes : p c = true := hl' c (by simp)
        have hno : p c = false := hr c (by simp)
        rw [hyes] at hno
        cases hno
  · cases between with
    | nil => exact ⟨List.append_nil l', rfl⟩
    | cons c between =>
        have hyes : p c = true := hl c (by simp)
        have hno : p c = false := hr' c (by simp)
        rw [hyes] at hno
        cases hno

lemma decimalText_inj {m n : ℕ} (h : decimalText m = decimalText n) : m = n := by
  have hread := congrArg (fun digits => Nat.ofDigitChars 10 digits 0) h
  simpa [decimalText] using hread

lemma isDigit_of_mem_decimalText {n : ℕ} {c : Char} (h : c ∈ decimalText n) : c.isDigit = true :=
  Nat.isDigit_of_mem_toDigits (by decide) (by decide) h

namespace Layout

variable {l l' : Layout}

lemma head_exponentText : ∀ c ∈ l.exponentText.head?, c = 'e' := by
  unfold exponentText
  split <;> simp

lemma head_rest : ∀ c ∈ (l.pointText ++ l.exponentText).head?, c.isDigit = false := by
  intro c hc
  by_cases hfraction : l.fraction = []
  · rw [pointText, if_pos hfraction, List.nil_append] at hc
    rw [head_exponentText c hc]
    rfl
  · rw [pointText, if_neg hfraction] at hc
    obtain rfl : c = '.' := by simpa using hc.symm
    rfl

lemma exponentText_eq_nil : l.exponentText = [] ↔ l.exponent = 0 := by
  unfold exponentText
  split <;> simp_all

lemma exponent_eq (h : l.exponentText = l'.exponentText) : l.exponent = l'.exponent := by
  have hzero : l.exponent = 0 ↔ l'.exponent = 0 := by
    rw [← exponentText_eq_nil, h, exponentText_eq_nil]
  by_cases hl : l.exponent = 0
  · rw [hl, hzero.mp hl]
  · rw [exponentText, exponentText, if_neg hl, if_neg (mt hzero.mpr hl)] at h
    obtain ⟨hsign, hdigits⟩ := List.cons.inj (List.cons.inj h).2
    have habs : l.exponent.natAbs = l'.exponent.natAbs := decimalText_inj hdigits
    have hpos : 0 < l.exponent ↔ 0 < l'.exponent := by
      split_ifs at hsign with hpos hpos' hpos'
      · exact iff_of_true hpos hpos'
      · exact absurd hsign (by decide)
      · exact absurd hsign (by decide)
      · exact iff_of_false hpos hpos'
    omega

/-- The text tells the layout. -/
theorem text_inj (hl : l.IsDecimal) (hl' : l'.IsDecimal) (h : l.text = l'.text) : l = l' := by
  obtain ⟨hwhole, hrest⟩ := eq_of_span_append hl.whole hl'.whole head_rest head_rest h
  have hparts : l.fraction = l'.fraction ∧ l.exponentText = l'.exponentText := by
    unfold pointText at hrest
    split at hrest
    · next hnil =>
        split at hrest
        · next hnil' => exact ⟨hnil.trans hnil'.symm, hrest⟩
        · exact absurd
            (head_exponentText '.' (by rw [← List.nil_append l.exponentText, hrest]; rfl))
            (by decide)
    · split at hrest
      · exact absurd
          (head_exponentText '.' (by rw [← List.nil_append l'.exponentText, ← hrest]; rfl))
          (by decide)
      · refine eq_of_span_append hl.fraction hl'.fraction ?_ ?_ (List.cons.inj hrest).2
        · exact fun c hc => by rw [head_exponentText c hc]; rfl
        · exact fun c hc => by rw [head_exponentText c hc]; rfl
  cases l
  cases l'
  obtain rfl := hwhole
  obtain ⟨rfl, hexponent⟩ := hparts
  obtain rfl := exponent_eq hexponent
  rfl

end Layout

/-! ## Reading the number -/

namespace Significand

variable {s s' : Significand}

lemma zeros_digits_inj {a a' b b' : ℕ}
    (h : List.replicate a '0' ++ (s.digits ++ List.replicate b '0') =
      List.replicate a' '0' ++ (s'.digits ++ List.replicate b' '0')) : a = a' ∧ s = s' := by
  have hzeros : ∀ k, ∀ c ∈ List.replicate k '0', (c == '0') = true := by
    intro k c hc
    rw [List.eq_of_mem_replicate hc]
    rfl
  have hhead : ∀ (s : Significand) (b : ℕ),
      ∀ c ∈ (s.digits ++ List.replicate b '0').head?, (c == '0') = false := by
    intro s b c hc
    rw [List.head?_append_of_ne_nil _ s.ne_nil] at hc
    rw [beq_eq_false_iff_ne]
    rintro rfl
    exact s.head_ne hc
  have hlast : ∀ s : Significand, ∀ c ∈ s.digits.reverse.head?, (c == '0') = false := by
    intro s c hc
    rw [List.head?_reverse] at hc
    rw [beq_eq_false_iff_ne]
    rintro rfl
    exact s.last_ne hc
  obtain ⟨hlead, hrest⟩ := eq_of_span_append (hzeros a) (hzeros a') (hhead s b) (hhead s' b') h
  have hreverse := congrArg List.reverse hrest
  rw [List.reverse_append, List.reverse_append, List.reverse_replicate, List.reverse_replicate]
    at hreverse
  have hdigits := (eq_of_span_append (hzeros b) (hzeros b') (hlast s) (hlast s') hreverse).2
  refine ⟨by simpa using congrArg List.length hlead, ?_⟩
  cases s
  cases s'
  obtain rfl := List.reverse_injective hdigits
  rfl

/-- The significant digits stand in the layout, with `n` digits up to the point. -/
lemma exists_layout (s : Significand) (n : ℤ) :
    (s.layout n).IsDecimal ∧ (s.layout n).whole ≠ [] ∧ ∃ a b,
      (s.layout n).whole ++ (s.layout n).fraction =
        List.replicate a '0' ++ (s.digits ++ List.replicate b '0') ∧
      ((s.layout n).whole.length : ℤ) + (s.layout n).exponent = n + a := by
  have hzero : ∀ k, ∀ c ∈ List.replicate k '0', c.isDigit = true := by
    intro k c hc
    rw [List.eq_of_mem_replicate hc]
    rfl
  have htake : ∀ k, ∀ c ∈ s.digits.take k, c.isDigit = true :=
    fun k c hc => s.isDigit c (List.mem_of_mem_take hc)
  have hdrop : ∀ k, ∀ c ∈ s.digits.drop k, c.isDigit = true :=
    fun k c hc => s.isDigit c (List.mem_of_mem_drop hc)
  have hlength : 0 < s.digits.length := List.length_pos_iff.mpr s.ne_nil
  unfold layout
  dsimp only
  split
  · next hinteger =>
      refine ⟨⟨?_, fun c hc => absurd hc List.not_mem_nil⟩, ?_, 0, (n - s.digits.length).toNat,
        ?_, ?_⟩
      · exact fun c hc => (List.mem_append.mp hc).elim (s.isDigit c) (hzero _ c)
      · exact List.append_ne_nil_of_left_ne_nil s.ne_nil _
      · simp
      · simp only [List.length_append, List.length_replicate]
        omega
  · split
    · next hpoint =>
        refine ⟨⟨htake _, hdrop _⟩, ?_, 0, 0, ?_, ?_⟩
        · rw [ne_eq, List.take_eq_nil_iff]
          exact fun h => h.elim (fun hn => by omega) s.ne_nil
        · simp
        · simp only [List.length_take]
          omega
    · split
      · next hsmall =>
          refine ⟨⟨hzero 1, ?_⟩, List.cons_ne_nil _ _, (-n).toNat + 1, 0, ?_, ?_⟩
          · exact fun c hc => (List.mem_append.mp hc).elim (hzero _ c) (s.isDigit c)
          · simp [List.replicate_succ]
          · simp only [List.length_singleton]
            omega
      · refine ⟨⟨htake 1, hdrop 1⟩, ?_, 0, 0, ?_, ?_⟩
        · rw [ne_eq, List.take_eq_nil_iff]
          exact fun h => h.elim Nat.one_ne_zero s.ne_nil
        · rw [List.take_append_drop, List.replicate_zero, List.append_nil, List.nil_append]
        · simp only [List.length_take]
          omega

/-- No two numbers above zero have one text. -/
theorem layout_text_inj {n n' : ℤ} (h : (s.layout n).text = (s'.layout n').text) :
    s = s' ∧ n = n' := by
  obtain ⟨hdecimal, -, a, b, hdigits, hpoint⟩ := s.exists_layout n
  obtain ⟨hdecimal', -, a', b', hdigits', hpoint'⟩ := s'.exists_layout n'
  rw [Layout.text_inj hdecimal hdecimal' h] at hdigits hpoint
  obtain ⟨rfl, hs⟩ := zeros_digits_inj (hdigits.symm.trans hdigits')
  exact ⟨hs, by omega⟩

/-- It is not zero's either. -/
lemma layout_text_ne_zero {n : ℤ} : (s.layout n).text ≠ ['0'] := by
  intro h
  obtain ⟨hdecimal, -, a, b, hdigits, -⟩ := s.exists_layout n
  have hzero : (⟨['0'], [], 0⟩ : Layout).IsDecimal :=
    ⟨fun c hc => by rw [List.mem_singleton.mp hc]; rfl, fun c hc => absurd hc List.not_mem_nil⟩
  have heq : s.layout n = ⟨['0'], [], 0⟩ := Layout.text_inj hdecimal hzero h
  rw [heq] at hdigits
  obtain ⟨c, rest, hs⟩ := List.exists_cons_of_ne_nil s.ne_nil
  have hmem : c ∈ ['0'] ++ [] := by
    rw [hdigits, hs]
    simp
  have hhead := s.head_ne
  rw [hs] at hhead
  exact hhead (congrArg some (by simpa using hmem))

lemma isDigit_of_head_text {n : ℤ} : ∀ c ∈ (s.layout n).text.head?, c.isDigit = true := by
  intro c hc
  obtain ⟨hdecimal, hwhole, -⟩ := s.exists_layout n
  rw [Layout.text, List.head?_append_of_ne_nil _ hwhole] at hc
  exact hdecimal.whole c (List.mem_of_mem_head? hc)

end Significand

namespace FiniteNumber

/-- The text tells the number. -/
theorem text_injective : Function.Injective text := by
  have hsign : ∀ (s s' : Significand) (n n' : ℤ), '-' :: (s.layout n).text ≠
    (s'.layout n').text := by
    intro s s' n n' h
    exact absurd (s'.isDigit_of_head_text '-' (by rw [← h]; rfl)) (by decide)
  intro x y h
  cases x with
  | zero =>
      cases y with
      | zero => rfl
      | nonzero negative s n =>
          cases negative with
          | true => exact absurd (List.cons.inj h).1 (by decide)
          | false => exact absurd h.symm s.layout_text_ne_zero
  | nonzero negative s n =>
      cases y with
      | zero =>
          cases negative with
          | true => exact absurd (List.cons.inj h).1 (by decide)
          | false => exact absurd h s.layout_text_ne_zero
      | nonzero negative' s' n' =>
          cases negative <;> cases negative'
          · obtain ⟨rfl, rfl⟩ := Significand.layout_text_inj h
            rfl
          · exact absurd h.symm (hsign s' s n' n)
          · exact absurd h (hsign s s' n n')
          · obtain ⟨rfl, rfl⟩ := Significand.layout_text_inj (List.cons.inj h).2
            rfl

/-- A number is written with digits, signs, a point and an exponent. -/
lemma not_mem_text {c : Char} (hdigit : c.isDigit = false) (hother : c ∉ ['-', '+', '.', 'e'])
    (x : FiniteNumber) : c ∉ x.text := by
  have hdigits : ∀ l : List Char, (∀ d ∈ l, d.isDigit = true) → c ∉ l := by
    intro l hl hc
    rw [hl c hc] at hdigit
    cases hdigit
  simp only [List.mem_cons, List.not_mem_nil, or_false, not_or] at hother
  obtain ⟨hminus, hplus, hpoint, hexp⟩ := hother
  cases x with
  | zero => exact hdigits ['0'] fun d hd => by rw [List.mem_singleton.mp hd]; rfl
  | nonzero negative s n =>
      obtain ⟨hdecimal, -⟩ := s.exists_layout n
      have hfraction : c ∉ (s.layout n).pointText := by
        unfold Layout.pointText
        split
        · exact List.not_mem_nil
        · exact List.not_mem_cons_of_ne_of_not_mem hpoint (hdigits _ hdecimal.fraction)
      have hexponent : c ∉ (s.layout n).exponentText := by
        unfold Layout.exponentText
        split
        · exact List.not_mem_nil
        · refine List.not_mem_cons_of_ne_of_not_mem hexp (List.not_mem_cons_of_ne_of_not_mem ?_ ?_)
          · split
            · exact hplus
            · exact hminus
          · exact hdigits _ fun d hd => isDigit_of_mem_decimalText hd
      have htext : c ∉ (s.layout n).text := by
        simp only [Layout.text, List.mem_append, not_or]
        exact ⟨hdigits _ hdecimal.whole, hfraction, hexponent⟩
      cases negative with
      | true => exact List.not_mem_cons_of_ne_of_not_mem hminus htext
      | false => exact htext

end FiniteNumber

end Reading

/-! ## Integers -/

section Integers

lemma head_decimalText {n : ℕ} (h : 0 < n) : (decimalText n).head? ≠ some '0' := by
  induction n using Nat.strongRecOn with
  | ind n ih =>
      rw [decimalText, Nat.toDigits_eq_if (by decide)]
      split
      · next hlt =>
          intro hzero
          have hdigit : n.digitChar = '0' := by simpa using hzero
          rw [Nat.digitChar_eq_zero] at hdigit
          omega
      · rw [List.head?_append_of_ne_nil _ Nat.toDigits_ne_nil]
        exact ih (n / 10) (by omega) (by omega)

lemma exists_ne_zero_of_decimalText {n : ℕ} (h : 0 < n) :
    (decimalText n).rdropWhile (· == '0') ≠ [] := by
  intro hnil
  rw [List.rdropWhile_eq_nil_iff] at hnil
  obtain ⟨c, rest, htext⟩ := List.exists_cons_of_ne_nil (Nat.toDigits_ne_nil (n := n) (b := 10))
  have hzero : c = '0' := by
    have hmem : c ∈ decimalText n := by
      rw [decimalText, htext]
      exact List.mem_cons_self
    simpa using hnil c hmem
  have hhead := head_decimalText h
  rw [decimalText, htext, hzero] at hhead
  exact hhead rfl

/-- The significant digits of a natural number. -/
def Significand.ofNat (n : ℕ) (h : 0 < n) : Significand where
  digits := (decimalText n).rdropWhile (· == '0')
  isDigit := fun _ hc => isDigit_of_mem_decimalText ((List.rdropWhile_prefix _ _).mem hc)
  ne_nil := exists_ne_zero_of_decimalText h
  head_ne := by
    rw [← List.head?_append_of_ne_nil _ (exists_ne_zero_of_decimalText h),
      List.rdropWhile_append_rtakeWhile]
    exact head_decimalText h
  last_ne := by
    rw [List.getLast?_eq_getLast_of_ne_nil (exists_ne_zero_of_decimalText h)]
    intro hlast
    refine List.rdropWhile_last_not (· == '0') _ (exists_ne_zero_of_decimalText h) ?_
    rw [Option.some.inj hlast]
    rfl

def FiniteNumber.ofInt (t : ℤ) : FiniteNumber :=
  if h : t = 0 then zero
  else nonzero (decide (t < 0)) (.ofNat t.natAbs (Int.natAbs_pos.mpr h))
    (decimalText t.natAbs).length

lemma Significand.text_ofNat {n : ℕ} (h : 0 < n) (hn : n < 10 ^ 21) :
    ((ofNat n h).layout (decimalText n).length).text = decimalText n := by
  have hzeros : (decimalText n).rtakeWhile (· == '0') =
      List.replicate ((decimalText n).rtakeWhile (· == '0')).length '0' := by
    refine List.eq_replicate_iff.mpr ⟨rfl, fun c hc => ?_⟩
    simpa using List.mem_rtakeWhile_imp hc
  have hsplit : (decimalText n).rdropWhile (· == '0') ++ (decimalText n).rtakeWhile (· == '0') =
      decimalText n := List.rdropWhile_append_rtakeWhile
  have hlength := congrArg List.length hsplit
  rw [List.length_append] at hlength
  have hfits : (decimalText n).length ≤ 21 := (Nat.length_toDigits_le_iff (by decide)
    (by decide)).mpr hn
  have hinteger : (((ofNat n h).digits.length : ℤ) ≤ (decimalText n).length ∧
      ((decimalText n).length : ℤ) ≤ 21) := by
    refine ⟨?_, by exact_mod_cast hfits⟩
    show (((decimalText n).rdropWhile (· == '0')).length : ℤ) ≤ _
    omega
  rw [layout, if_pos hinteger]
  show (ofNat n h).digits ++ List.replicate _ '0' ++ [] = _
  have hcount : ((decimalText n).length - ((ofNat n h).digits.length : ℤ)).toNat =
      ((decimalText n).rtakeWhile (· == '0')).length := by
    show ((decimalText n).length -
      (((decimalText n).rdropWhile (· == '0')).length : ℤ)).toNat = _
    omega
  rw [hcount, ← hzeros, List.append_nil]
  exact hsplit

lemma toList_toString_int (t : ℤ) :
    (toString t).toList = (if t < 0 then ['-'] else []) ++ decimalText t.natAbs := by
  rw [Int.toString_eq_repr, Int.repr_eq_if, decimalText]
  by_cases hneg : t < 0
  · rw [if_neg (not_le.mpr hneg), if_pos hneg, String.toList_append, Nat.toList_repr,
      show t.natAbs = (-t).toNat by omega]
    rfl
  · rw [if_pos (not_lt.mp hneg), if_neg hneg, Nat.toList_repr, List.nil_append,
      show t.natAbs = t.toNat by omega]

/-- Up to 21 digits, an integer is written out. -/
theorem FiniteNumber.toString_ofInt {t : ℤ} (h : t.natAbs < 10 ^ 21) :
    toString (ofInt t) = toString t := by
  refine String.toList_inj.mp ?_
  show (String.ofList (ofInt t).text).toList = _
  rw [String.toList_ofList, toList_toString_int]
  by_cases hzero : t = 0
  · subst hzero
    rfl
  · rw [ofInt, dif_neg hzero]
    show (if decide (t < 0) = true then ['-'] else []) ++ _ = _
    rw [Significand.text_ofNat _ h]
    simp only [decide_eq_true_eq]

lemma not_mem_toString_int {c : Char} (hdigit : c.isDigit = false) (hminus : c ≠ '-') (t : ℤ) :
    c ∉ (toString t).toList := by
  rw [toList_toString_int, List.mem_append, not_or]
  constructor
  · split
    · simpa using hminus
    · exact List.not_mem_nil
  · intro hmem
    rw [isDigit_of_mem_decimalText hmem] at hdigit
    cases hdigit

lemma toString_int_inj {t t' : ℤ} (h : toString t = toString t') : t = t' := by
  have hlist := congrArg String.toList h
  have hhead : ∀ n, ∀ c ∈ (decimalText n).head?, (c == '-') = false := by
    intro n c hc
    have hdigit := isDigit_of_mem_decimalText (List.mem_of_mem_head? hc)
    rw [beq_eq_false_iff_ne]
    rintro rfl
    cases hdigit
  have hsign : ∀ t : ℤ, ∀ c ∈ (if t < 0 then ['-'] else []), (c == '-') = true := by
    intro t c hc
    split at hc
    · rw [List.mem_singleton.mp hc]
      rfl
    · exact absurd hc List.not_mem_nil
  rw [toList_toString_int, toList_toString_int] at hlist
  obtain ⟨hsigns, hdigits⟩ := eq_of_span_append (hsign t) (hsign t') (hhead _) (hhead _) hlist
  have habs : t.natAbs = t'.natAbs := decimalText_inj hdigits
  have hneg : t < 0 ↔ t' < 0 := by
    split_ifs at hsigns with hneg hneg' hneg'
    · exact iff_of_true hneg hneg'
    · exact iff_of_false hneg hneg'
  omega

end Integers
