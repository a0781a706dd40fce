import ExpresSync.Model.LogScrubber
import ExpresSync.Properties.JsonEquality

/-!
# Scrubbed logs

Each replacement ends with a word in angle brackets, which no pattern has, so what has been cleaned
of a pattern stays clean.  The one replacement that starts with a word of its own, `Bearer`, differs
from the text it stands for in case and white space only, which neither pattern before it tells
apart there.
-/

namespace ExpresSync

open SearchPattern

/-! ## Texts -/

/-- A text without a match of any pattern. -/
structure IsClean (s : List Char) : Prop where
  jwt : ¬jwtPattern.Occurs s
  bearer : ¬bearerPattern.Occurs s
  email : ¬emailPattern.Occurs s
  phone : ¬phoneE164Pattern.Occurs s

def logPatterns : List SearchPattern :=
  [jwtPattern, bearerPattern, emailPattern, phoneE164Pattern]

section

variable {P : SearchPattern} {word front w rest s : List Char}

/-! ### Words in brackets -/

lemma separates (hP : P ∈ logPatterns) (hword : word.length ≤ 5) : P.Separates '<' word '>' := by
  have hall : ∀ P ∈ logPatterns, 5 < P.minLength ∧ P.Avoids '<' ∧ P.Avoids '>' ∧
      P.ends none = true := by decide
  obtain ⟨hlong, hleft, hright, hend⟩ := hall P hP
  exact ⟨(Nat.zero_lt_succ _).trans hlong, hleft, hright, hword.trans_lt hlong, hend⟩

/-- `JWT`, `EMAIL` and `PHONE_E164` have been replaced with a word in brackets. -/
lemma not_occurs_replaced (hP : P ∈ logPatterns)
    (hnext : ∀ c w, RunsMatch P.runs (c :: w) → P.ends (some c) = true) (hword : word.length ≤ 5)
    (s : List Char) : ¬P.Occurs (P.replaceAll ('<' :: (word ++ ['>'])) s) := by
  have hsep := separates hP hword
  show ¬P.Occurs (P.replaceAll ([] ++ '<' :: (word ++ ['>'])) s)
  refine not_occurs_replaceAll_self hsep (fun front w rest hnone hmatch => ?_) s
  rw [List.append_nil]
  exact not_occurs_of_noneStarts_match hsep.pos hnext hnone hmatch

/-- Another pattern is not brought back by that. -/
lemma not_occurs_kept {Q : SearchPattern} (hP : P ∈ logPatterns) (hQ : Q ∈ logPatterns)
    (hends : ∀ c, Q.ends (some c) = true) (hword : word.length ≤ 5) (h : ¬Q.Occurs s) :
    ¬Q.Occurs (P.replaceAll ('<' :: (word ++ ['>'])) s) := by
  show ¬Q.Occurs (P.replaceAll ([] ++ '<' :: (word ++ ['>'])) s)
  refine not_occurs_replaceAll (separates hP hword).pos (separates hQ hword)
    (fun front w rest _ hnot => ?_) h
  rw [List.append_nil]
  exact fun hfront => hnot (hfront.append_right hends _)

/-! ### Bearer tokens -/

/-- Characters that the patterns before `EMAIL` do not tell apart in `Bearer `. -/
def alike (c d : Char) : Bool :=
  c == d || (['b', 'e', 'a', 'r'].any fun l => (c == l || c == l.toUpper) &&
    (d == l || d == l.toUpper)) || (isStrWhiteSpace c && isStrWhiteSpace d)

/-- A match of `BEARER` starts with the word, up to case, and white space. -/
lemma bearer_of_runsMatch (h : RunsMatch bearerPattern.runs w) :
    ∃ v v', w = v ++ v' ∧ List.Forall₂ (fun c d => alike c d = true) "Bearer ".toList v := by
  obtain ⟨c₁, w₁, rfl, h₁, hrest₁⟩ := h.one
  obtain ⟨c₂, w₂, rfl, h₂, hrest₂⟩ := hrest₁.one
  obtain ⟨c₃, w₃, rfl, h₃, hrest₃⟩ := hrest₂.one
  obtain ⟨c₄, w₄, rfl, h₄, hrest₄⟩ := hrest₃.one
  obtain ⟨c₅, w₅, rfl, h₅, hrest₅⟩ := hrest₄.one
  obtain ⟨c₆, w₆, rfl, h₆, hrest₆⟩ := hrest₅.one
  obtain ⟨c₇, w₇, rfl, h₇⟩ := hrest₆.head Nat.one_pos
  have hletter : ∀ {c d l : Char}, l ∈ ['b', 'e', 'a', 'r'] → (c = l ∨ c = l.toUpper) →
      (d == l || d == l.toUpper) = true → alike c d = true := by
    intro c d l hl hc hd
    have hany : (['b', 'e', 'a', 'r'].any fun l => (c == l || c == l.toUpper) &&
        (d == l || d == l.toUpper)) = true := by
      refine List.any_eq_true.mpr ⟨l, hl, ?_⟩
      rw [hd, Bool.and_true, Bool.or_eq_true, beq_iff_eq, beq_iff_eq]
      exact hc
    rw [alike, hany, Bool.or_true, Bool.true_or]
  have hspace : alike ' ' c₇ = true := by
    rw [alike, show isStrWhiteSpace c₇ = true from h₇]
    exact Bool.or_true _
  refine ⟨[c₁, c₂, c₃, c₄, c₅, c₆, c₇], w₇, rfl, ?_⟩
  exact .cons (hletter (by decide) (Or.inr rfl) h₁) <|
    .cons (hletter (by decide) (Or.inl rfl) h₂) <|
    .cons (hletter (by decide) (Or.inl rfl) h₃) <| .cons (hletter (by decide) (Or.inl rfl) h₄) <|
    .cons (hletter (by decide) (Or.inl rfl) h₅) <| .cons (hletter (by decide) (Or.inl rfl) h₆) <|
    .cons hspace .nil

lemma isStrWhiteSpace_of_isAlphanum {c : Char} (h : c.isAlphanum = true) :
    isStrWhiteSpace c = false := by
  have hrange : c.toNat < 0x80 ∧ 0x30 ≤ c.toNat := by
    replace h : ((decide ('A'.val ≤ c.val ∧ c.val ≤ 'Z'.val) ||
        (decide ('a'.val ≤ c.val) && decide (c.val ≤ 'z'.val))) ||
        (decide ('0'.val ≤ c.val) && decide (c.val ≤ '9'.val))) = true := h
    simp only [Bool.or_eq_true, Bool.and_eq_true, decide_eq_true_eq, UInt32.le_iff_toNat_le] at h
    have htoNat : c.toNat = c.val.toNat := rfl
    have hbounds : 'A'.val.toNat = 65 ∧ 'Z'.val.toNat = 90 ∧ 'a'.val.toNat = 97 ∧
        'z'.val.toNat = 122 ∧ '0'.val.toNat = 48 ∧ '9'.val.toNat = 57 := by decide
    omega
  unfold isStrWhiteSpace
  simp only [List.contains_cons, List.contains_nil, Bool.or_false, Bool.or_eq_false_iff,
    beq_eq_false_iff_ne, Bool.and_eq_false_iff, decide_eq_false_iff_not]
  omega

/-- Of each of the letters a class has both cases, or neither. -/
def takesBothCases (cls : Char → Bool) : Bool :=
  ['b', 'e', 'a', 'r'].all fun l => cls l.toUpper == cls l

/-- A class that has both cases of the letters, or neither, and no white space, or all. -/
lemma cls_of_alike {cls : Char → Bool} {c d : Char} (hletters : takesBothCases cls = true)
    (hspaces : isStrWhiteSpace c = true → isStrWhiteSpace d = true → cls c = true → cls d = true)
    (h : alike c d = true) (hc : cls c = true) : cls d = true := by
  have hsame : ∀ {x l : Char}, l ∈ ['b', 'e', 'a', 'r'] → (x == l || x == l.toUpper) = true →
      cls x = cls l := by
    intro x l hl hx
    rw [Bool.or_eq_true, beq_iff_eq, beq_iff_eq] at hx
    rcases hx with rfl | rfl
    · rfl
    · exact beq_iff_eq.mp (List.all_eq_true.mp hletters l hl)
  unfold alike at h
  rw [Bool.or_eq_true, Bool.or_eq_true] at h
  rcases h with (heq | hany) | hspace
  · exact beq_iff_eq.mp heq ▸ hc
  · obtain ⟨l, hl, hboth⟩ := List.any_eq_true.mp hany
    rw [Bool.and_eq_true] at hboth
    rw [hsame hl hboth.2, ← hsame hl hboth.1]
    exact hc
  · rw [Bool.and_eq_true] at hspace
    exact hspaces hspace.1 hspace.2 hc

/-- White space is in none of the other classes. -/
lemma not_alphanumericOr_of_isStrWhiteSpace {more : List Char} {c : Char}
    (hmore : (more.all fun d => !isStrWhiteSpace d) = true) (h : isStrWhiteSpace c = true) :
    alphanumericOr more c = false := by
  rw [alphanumericOr, Bool.or_eq_false_iff]
  constructor
  · by_contra halnum
    rw [isStrWhiteSpace_of_isAlphanum (Bool.not_eq_false _ ▸ halnum)] at h
    cases h
  · by_contra hmem
    have hc := List.all_eq_true.mp hmore c (List.contains_iff_mem.mp (Bool.not_eq_false _ ▸ hmem))
    rw [h] at hc
    cases hc

lemma eitherCase_of_alike {l : Char} (hletters : takesBothCases (eitherCase l).cls = true)
    (hlower : isStrWhiteSpace l = false) (hupper : isStrWhiteSpace l.toUpper = false) (c d : Char)
    (h : alike c d = true) (hc : (eitherCase l).cls c = true) : (eitherCase l).cls d = true := by
  refine cls_of_alike hletters (fun hspace _ hc => ?_) h hc
  replace hc : (c == l || c == l.toUpper) = true := hc
  rw [Bool.or_eq_true, beq_iff_eq, beq_iff_eq] at hc
  rcases hc with rfl | rfl
  · rw [hlower] at hspace
    cases hspace
  · rw [hupper] at hspace
    cases hspace

lemma alphanumericOr_of_alike {more : List Char}
    (hmore : (more.all fun d => !isStrWhiteSpace d) = true) (c d : Char) (h : alike c d = true)
    (hc : alphanumericOr more c = true) : alphanumericOr more d = true := by
  have hletters : takesBothCases (alphanumericOr more) = true := rfl
  refine cls_of_alike hletters (fun hspace _ hc => ?_) h hc
  rw [not_alphanumericOr_of_isStrWhiteSpace hmore hspace] at hc
  cases hc

lemma dot_of_alike (c d : Char) (h : alike c d = true) (hc : (CharRun.lit '.').cls c = true) :
    (CharRun.lit '.').cls d = true := by
  refine cls_of_alike (by decide) (fun hspace _ hc => ?_) h hc
  rw [show c = '.' from beq_iff_eq.mp hc] at hspace
  exact absurd hspace (by decide)

lemma isStrWhiteSpace_of_alike (c d : Char) (h : alike c d = true)
    (hc : isStrWhiteSpace c = true) : isStrWhiteSpace d = true :=
  cls_of_alike (by decide) (fun _ hspace _ => hspace) h hc

lemma bearer_of_alike : ∀ r ∈ bearerPattern.runs, ∀ c d, alike c d = true → r.cls c = true →
    r.cls d = true := by
  have hb := @eitherCase_of_alike 'b' (by decide) (by decide) (by decide)
  have he := @eitherCase_of_alike 'e' (by decide) (by decide) (by decide)
  have ha := @eitherCase_of_alike 'a' (by decide) (by decide) (by decide)
  have hr := @eitherCase_of_alike 'r' (by decide) (by decide) (by decide)
  simp only [bearerPattern, List.forall_mem_cons]
  exact ⟨hb, he, ha, hr, he, hr, isStrWhiteSpace_of_alike, alphanumericOr_of_alike (by decide),
    List.forall_mem_nil _⟩

/-- The part of `JWT` after its first three letters. -/
def jwtTail : List CharRun := jwtPattern.runs.drop 3

lemma jwtTail_of_alike : ∀ r ∈ jwtTail, ∀ c d, alike c d = true → r.cls c = true →
    r.cls d = true :=
  List.forall_mem_cons.mpr ⟨alphanumericOr_of_alike (by decide), List.forall_mem_cons.mpr
    ⟨dot_of_alike, List.forall_mem_cons.mpr ⟨alphanumericOr_of_alike (by decide),
    List.forall_mem_cons.mpr ⟨dot_of_alike, List.forall_mem_singleton.mpr
      (alphanumericOr_of_alike (by decide))⟩⟩⟩⟩

lemma alike_refl (c : Char) : alike c c = true := by
  rw [alike, beq_self_eq_true, Bool.true_or, Bool.true_or]

/-- A match of a long pattern that goes on into `Bearer ` starts before it. -/
lemma exists_start {P : SearchPattern} (hlong : 7 < P.minLength)
    (h : P.Occurs (front ++ "Bearer ".toList)) :
    ∃ f u m back, front = f ++ u ∧ u ≠ [] ∧ u ++ "Bearer ".toList = m ++ back ∧
      RunsMatch P.runs m := by
  obtain ⟨f, m, back, hsplit, hmatch, -⟩ := h
  have hlength : P.minLength ≤ m.length := hmatch.length_le
  rcases List.append_eq_append_iff.mp hsplit with ⟨f', rfl, htail⟩ | ⟨u, rfl, htail⟩
  · have hshort := congrArg List.length htail
    rw [List.length_append, List.length_append,
      show ("Bearer ".toList).length = 7 from by decide] at hshort
    omega
  · cases u with
    | nil =>
        have hshort := congrArg List.length htail
        rw [List.length_append, List.length_append, List.length_nil,
          show ("Bearer ".toList).length = 7 from by decide] at hshort
        omega
    | cons c u => exact ⟨f, c :: u, m, back, rfl, List.cons_ne_nil _ _, htail.symm, hmatch⟩

/-- Before a match of `BEARER` there is none that goes on into `Bearer `. -/
lemma not_occurs_bearer (hnone : bearerPattern.NoneStarts front (w ++ rest))
    (hmatch : RunsMatch bearerPattern.runs w) :
    ¬bearerPattern.Occurs (front ++ "Bearer ".toList) := by
  intro hoccurs
  obtain ⟨f, u, m, back, rfl, hne, hsplit, hm⟩ := exists_start (by decide) hoccurs
  obtain ⟨v, v', rfl, hv⟩ := bearer_of_runsMatch hmatch
  obtain ⟨m', back', hsplit', hm'⟩ := hm.exists_of_forall₂ alike_refl bearer_of_alike hsplit hv
  have hsome : (bearerPattern.matchHere (m' ++ (back' ++ (v' ++ rest)))).isSome :=
    matchHere_isSome hm' rfl
  have hhere := hnone f u rfl hne
  have hregroup : u ++ (v ++ v' ++ rest) = m' ++ (back' ++ (v' ++ rest)) := by
    rw [← List.append_assoc m', ← hsplit']
    simp only [List.append_assoc]
  rw [hregroup] at hhere
  rw [hhere] at hsome
  cases hsome

/-- Nor is there one of `JWT`. -/
lemma not_occurs_jwt (hmatch : RunsMatch bearerPattern.runs w)
    (h : ¬jwtPattern.Occurs (front ++ (w ++ rest))) :
    ¬jwtPattern.Occurs (front ++ "Bearer ".toList) := by
  intro hoccurs
  obtain ⟨f, u, m, back, rfl, hne, hsplit, hm⟩ := exists_start (by decide) hoccurs
  obtain ⟨v, v', rfl, hv⟩ := bearer_of_runsMatch hmatch
  obtain ⟨c₁, m₁, rfl, h₁, hrest₁⟩ := hm.one
  obtain ⟨c₂, m₂, rfl, h₂, hrest₂⟩ := hrest₁.one
  obtain ⟨c₃, m₃, rfl, h₃, htail⟩ := hrest₂.one
  -- the first three letters are none of `Bearer `
  obtain ⟨u₃, rfl, hsplit₃⟩ : ∃ u₃, u = c₁ :: c₂ :: c₃ :: u₃ ∧
      u₃ ++ "Bearer ".toList = m₃ ++ back := by
    have hlead : "Bearer ".toList = 'B' :: "earer ".toList := by decide
    rw [beq_iff_eq] at h₂ h₃
    subst h₂ h₃
    rcases u with _ | ⟨a, _ | ⟨b, _ | ⟨c, u⟩⟩⟩
    · exact absurd rfl hne
    · rw [hlead] at hsplit
      injection (List.cons.inj hsplit).2 with hhead
      exact absurd hhead (by decide)
    · rw [hlead] at hsplit
      injection (List.cons.inj (List.cons.inj hsplit).2).2 with hhead
      exact absurd hhead (by decide)
    · obtain ⟨ha, hsplit⟩ := List.cons.inj hsplit
      obtain ⟨hb, hsplit⟩ := List.cons.inj hsplit
      obtain ⟨hc, hsplit⟩ := List.cons.inj hsplit
      exact ⟨u, by rw [ha, hb, hc], hsplit⟩
  obtain ⟨m', back', hsplit', hm'⟩ :=
    RunsMatch.exists_of_forall₂ alike_refl jwtTail_of_alike htail hsplit₃ hv
  refine h ⟨f, c₁ :: c₂ :: c₃ :: m', back' ++ (v' ++ rest), ?_, ?_, rfl⟩
  · have hregroup : u₃ ++ (v ++ (v' ++ rest)) = m' ++ (back' ++ (v' ++ rest)) := by
      rw [← List.append_assoc, hsplit', List.append_assoc]
    simp only [List.append_assoc, List.cons_append]
    rw [hregroup]
  · exact .cons_one h₁ (.cons_one h₂ (.cons_one h₃ hm'))

/-! ### All four -/

lemma phone_next (c : Char) (w : List Char) (h : RunsMatch phoneE164Pattern.runs (c :: w)) :
    phoneE164Pattern.ends (some c) = true := by
  obtain ⟨d, v, hsplit, hd, -⟩ := h.one
  obtain ⟨rfl, -⟩ := List.cons.inj hsplit
  rw [show c = '+' from beq_iff_eq.mp hd]
  decide

lemma isClean_nil : IsClean [] where
  jwt := not_occurs_of_length_lt (by decide)
  bearer := not_occurs_of_length_lt (by decide)
  email := not_occurs_of_length_lt (by decide)
  phone := not_occurs_of_length_lt (by decide)

/-- What has been scrubbed is clean. -/
theorem isClean_scrubString (s : List Char) : IsClean (scrubString s) := by
  rw [scrubString]
  split
  · next hempty =>
    rw [hempty]
    exact isClean_nil
  · have hjwtWord : "<jwt>".toList = '<' :: ("jwt".toList ++ ['>']) := by decide
    have htokenWord : "Bearer <token>".toList =
        "Bearer ".toList ++ '<' :: ("token".toList ++ ['>']) := by decide
    have hemailWord : "<email>".toList = '<' :: ("email".toList ++ ['>']) := by decide
    have hphoneWord : "<phone>".toList = '<' :: ("phone".toList ++ ['>']) := by decide
    have hjwt : jwtPattern ∈ logPatterns := List.mem_cons_self
    have hbearer : bearerPattern ∈ logPatterns := List.mem_cons_of_mem _ List.mem_cons_self
    have hemail : emailPattern ∈ logPatterns :=
      List.mem_cons_of_mem _ (List.mem_cons_of_mem _ List.mem_cons_self)
    have hphone : phoneE164Pattern ∈ logPatterns :=
      List.mem_cons_of_mem _ (List.mem_cons_of_mem _ (List.mem_cons_of_mem _ List.mem_cons_self))
    rw [hjwtWord, htokenWord, hemailWord, hphoneWord]
    set s₁ := jwtPattern.replaceAll ('<' :: ("jwt".toList ++ ['>'])) s
    set s₂ := bearerPattern.replaceAll ("Bearer ".toList ++ '<' :: ("token".toList ++ ['>'])) s₁
    set s₃ := emailPattern.replaceAll ('<' :: ("email".toList ++ ['>'])) s₂
    have hjwt₁ : ¬jwtPattern.Occurs s₁ :=
      not_occurs_replaced hjwt (fun _ _ _ => rfl) (by decide) s
    have hjwt₂ : ¬jwtPattern.Occurs s₂ :=
      not_occurs_replaceAll (by decide) (separates hjwt (by decide))
        (fun _ _ _ hmatch hnot => not_occurs_jwt hmatch hnot) hjwt₁
    have hbearer₂ : ¬bearerPattern.Occurs s₂ :=
      not_occurs_replaceAll_self (separates hbearer (by decide))
        (fun _ _ _ hnone hmatch => not_occurs_bearer hnone hmatch) s₁
    have hjwt₃ : ¬jwtPattern.Occurs s₃ :=
      not_occurs_kept hemail hjwt (fun _ => rfl) (by decide) hjwt₂
    have hbearer₃ : ¬bearerPattern.Occurs s₃ :=
      not_occurs_kept hemail hbearer (fun _ => rfl) (by decide) hbearer₂
    have hemail₃ : ¬emailPattern.Occurs s₃ :=
      not_occurs_replaced hemail (fun _ _ _ => rfl) (by decide) s₂
    exact {
      jwt := not_occurs_kept hphone hjwt (fun _ => rfl) (by decide) hjwt₃
      bearer := not_occurs_kept hphone hbearer (fun _ => rfl) (by decide) hbearer₃
      email := not_occurs_kept hphone hemail (fun _ => rfl) (by decide) hemail₃
      phone := not_occurs_replaced hphone phone_next (by decide) s₃ }

/-- A clean text is left as it is. -/
theorem scrubString_of_isClean (h : IsClean s) : scrubString s = s := by
  rw [scrubString]
  split
  · rfl
  · rw [replaceAll_of_not_occurs h.jwt, replaceAll_of_not_occurs h.bearer,
      replaceAll_of_not_occurs h.email, replaceAll_of_not_occurs h.phone]

end

/-! ## Attributes -/

section

variable (L : LowerCase)

/-- The step goes under a sensitive key. -/
def JsonStep.isSensitive : JsonStep → Bool
  | .name k => isSensitiveAttrKey L k
  | .index _ => false

/-- No key of the path is sensitive. -/
def OpenPath (path : List JsonStep) : Prop := ∀ step ∈ path, step.isSensitive L = false

/-- What scrubbing makes of attributes. -/
structure ScrubsAttributes (attributes scrubbed : JsonValue) : Prop where
  /-- Strings are scrubbed where no key before them is sensitive. -/
  string : ∀ path s, OpenPath L path → attributes.at? path = some (.string s) →
    scrubbed.at? path = some (.string (String.ofList (scrubString s.toList)))
  /-- What is under a sensitive key is replaced. -/
  redacted : ∀ path k v, OpenPath L path → isSensitiveAttrKey L k = true →
    attributes.at? (path ++ [.name k]) = some v →
    scrubbed.at? (path ++ [.name k]) = some (.string redacted)
  /-- No string is left that is not clean. -/
  clean : ∀ path s, scrubbed.at? path = some (.string s) → IsClean s.toList

variable {L} {path : List JsonStep} {v : JsonValue}

lemma scrubElements_eq_map (elements : List JsonValue) :
    scrubElements L elements = elements.map (scrubValue L) := by
  induction elements with
  | nil => rfl
  | cons v elements ih => rw [scrubElements, ih, List.map_cons]

lemma find?_scrubAttributes (fields : List (String × JsonValue)) (k : String) :
    ((scrubAttributes L fields).find? fun field => decide (field.1 = k)).map Prod.snd =
      ((fields.find? fun field => decide (field.1 = k)).map Prod.snd).map fun w =>
        if isSensitiveAttrKey L k then .string redacted else scrubValue L w := by
  induction fields with
  | nil => rfl
  | cons field fields ih =>
      obtain ⟨k', v⟩ := field
      rw [scrubAttributes]
      by_cases hk : k' = k
      · rw [List.find?_cons_of_pos (by simpa using hk), List.find?_cons_of_pos (by simpa using hk)]
        rw [hk]
        rfl
      · rw [List.find?_cons_of_neg (by simpa using hk), List.find?_cons_of_neg (by simpa using hk)]
        exact ih

/-- One step into a scrubbed value. -/
lemma child?_scrubValue (v : JsonValue) (step : JsonStep) :
    (scrubValue L v).child? step = (v.child? step).map fun w =>
      if step.isSensitive L then .string redacted else scrubValue L w := by
  cases step with
  | name k =>
      cases v with
      | object fields =>
          rw [scrubValue]
          exact find?_scrubAttributes fields k
      | _ => rfl
  | index i =>
      cases v with
      | array elements =>
          rw [scrubValue, scrubElements_eq_map]
          exact List.getElem?_map
      | _ => rfl

/-- Where no key is sensitive, each value is scrubbed. -/
lemma at?_scrubValue (hpath : OpenPath L path) :
    (scrubValue L v).at? path = (v.at? path).map (scrubValue L) := by
  induction path generalizing v with
  | nil => rfl
  | cons step path ih =>
      obtain ⟨hstep, hrest⟩ := List.forall_mem_cons.mp hpath
      rw [JsonValue.at?, JsonValue.at?, child?_scrubValue, hstep]
      cases v.child? step with
      | none => rfl
      | some w => exact ih hrest

lemma at?_append (path path' : List JsonStep) (v : JsonValue) :
    v.at? (path ++ path') = (v.at? path).bind fun w => w.at? path' := by
  induction path generalizing v with
  | nil => rfl
  | cons step path ih =>
      rw [List.cons_append, JsonValue.at?, JsonValue.at?]
      cases v.child? step with
      | none => rfl
      | some w => exact ih w

lemma isClean_redacted : IsClean redacted.toList := by
  have hkept : scrubString redacted.toList = redacted.toList := by decide +kernel
  rw [← hkept]
  exact isClean_scrubString _

/-- Each string of a scrubbed value is clean. -/
lemma isClean_of_at?_scrubValue {s : String} (h : (scrubValue L v).at? path = some (.string s)) :
    IsClean s.toList := by
  induction path generalizing v with
  | nil =>
      replace h : scrubValue L v = .string s := Option.some.inj h
      cases v with
      | string t =>
          rw [scrubValue] at h
          injection h with htext
          rw [← htext, String.toList_ofList]
          exact isClean_scrubString _
      | _ =>
          rw [scrubValue] at h
          cases h
  | cons step path ih =>
      rw [JsonValue.at?, child?_scrubValue] at h
      obtain ⟨w, hw, hpath⟩ := Option.bind_eq_some_iff.mp h
      obtain ⟨child, -, rfl⟩ := Option.map_eq_some_iff.mp hw
      split at hpath
      · -- nothing is under the mark
        cases path with
        | nil =>
            injection Option.some.inj hpath with htext
            exact htext ▸ isClean_redacted
        | cons step path => cases step <;> cases hpath
      · exact ih hpath

/-- Attributes are scrubbed at any depth. -/
theorem scrubsAttributes (L : LowerCase) (attributes : List (String × JsonValue)) :
    ScrubsAttributes L (.object attributes) (.object (scrubAttributes L attributes)) := by
  have hscrub : JsonValue.object (scrubAttributes L attributes) =
      scrubValue L (.object attributes) := by rw [scrubValue]
  rw [hscrub]
  constructor
  · intro path s hpath hs
    rw [at?_scrubValue hpath, hs, Option.map_some, scrubValue]
  · intro path k v hpath hk hv
    rw [at?_append] at hv ⊢
    obtain ⟨w, hw, hkey⟩ := Option.bind_eq_some_iff.mp hv
    rw [at?_scrubValue hpath, hw, Option.map_some, Option.bind_some, JsonValue.at?,
      child?_scrubValue]
    obtain ⟨child, hchild, -⟩ := Option.bind_eq_some_iff.mp hkey
    have hsensitive : JsonStep.isSensitive L (.name k) = true := hk
    rw [hchild, Option.map_some, Option.bind_some, if_pos hsensitive]
    rfl
  · intro path s hs
    exact isClean_of_at?_scrubValue hs

/-- Scrubbed texts have no match of any pattern and are not changed by scrubbing them again, and
attributes are scrubbed everywhere but under sensitive keys, where they are replaced. -/
theorem scrubbing_complete : (∀ s, IsClean (scrubString s) ∧
      scrubString (scrubString s) = scrubString s) ∧
    ∀ (L : LowerCase) (attributes : List (String × JsonValue)),
      ScrubsAttributes L (.object attributes) (.object (scrubAttributes L attributes)) :=
  ⟨fun s => ⟨isClean_scrubString s, scrubString_of_isClean (isClean_scrubString s)⟩,
    scrubsAttributes⟩

end

end ExpresSync
