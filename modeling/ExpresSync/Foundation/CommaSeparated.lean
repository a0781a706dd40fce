import Mathlib.Data.List.Basic

/-!
# Records of comma-separated fields

A record is a line of fields with commas between them.  A field in which a comma, a quote or a line
break occurs is put between quotes, with its own quotes doubled.  What is written in this way is
read back (`read_write`).
-/

namespace CommaSeparated

/-- The field needs quotes. -/
def isSpecial (c : Char) : Bool := c = '"' || c = ',' || c = '\n'

/-- The text between the quotes. -/
def doubled (field : List Char) : List Char :=
  field.flatMap fun c => if c = '"' then ['"', '"'] else [c]

/-- A field as it is written. -/
def escape (field : List Char) : List Char :=
  if field.any isSpecial then '"' :: (doubled field ++ ['"']) else field

def line (record : List (List Char)) : List Char :=
  [','].intercalate (record.map escape) ++ ['\n']

/-- The text of some records. -/
def write (records : List (List (List Char))) : List Char := records.flatMap line

/-- Where a reader stands. -/
inductive Mode where
  /-- At the start of a field. -/
  | start
  | plain
  /-- Between quotes. -/
  | quoted
  /-- Behind a quote that is the last of its field, or the first of two. -/
  | closing
deriving DecidableEq

/-- Reads on, with the field and the record that it is in. -/
def readFrom (mode : Mode) (field : List Char) (record : List (List Char)) :
    List Char → List (List (List Char))
  | [] => if mode = .start ∧ record = [] then [] else [record ++ [field]]
  | c :: cs =>
      if mode = .quoted then
        if c = '"' then readFrom .closing field record cs
        else readFrom .quoted (field ++ [c]) record cs
      else if c = '"' ∧ mode ≠ .plain then
        -- Behind a quote, it is the second of two.
        readFrom .quoted (if mode = .closing then field ++ ['"'] else field) record cs
      else if c = ',' then readFrom .start [] (record ++ [field]) cs
      else if c = '\n' then (record ++ [field]) :: readFrom .start [] [] cs
      else readFrom .plain (field ++ [c]) record cs

/-- The records of a text. -/
def read (text : List Char) : List (List (List Char)) := readFrom .start [] [] text

variable {record : List (List Char)} {field text rest : List Char} {mode : Mode}

lemma readFrom_nil :
    readFrom mode field record [] =
      if mode = .start ∧ record = [] then [] else [record ++ [field]] := rfl

lemma readFrom_cons (c : Char) :
    readFrom mode field record (c :: rest) =
      if mode = .quoted then
        if c = '"' then readFrom .closing field record rest
        else readFrom .quoted (field ++ [c]) record rest
      else if c = '"' ∧ mode ≠ .plain then
        readFrom .quoted (if mode = .closing then field ++ ['"'] else field) record rest
      else if c = ',' then readFrom .start [] (record ++ [field]) rest
      else if c = '\n' then (record ++ [field]) :: readFrom .start [] [] rest
      else readFrom .plain (field ++ [c]) record rest := rfl

lemma readFrom_comma (hmode : mode ≠ .quoted) :
    readFrom mode field record (',' :: rest) = readFrom .start [] (record ++ [field]) rest := by
  simp [readFrom_cons, hmode]

lemma readFrom_newline (hmode : mode ≠ .quoted) :
    readFrom mode field record ('\n' :: rest) = (record ++ [field]) :: readFrom .start []
      [] rest := by
  simp [readFrom_cons, hmode]

/-- Between quotes. -/
lemma readFrom_doubled (field : List Char) :
    readFrom .quoted field record (doubled text ++ '"' :: rest) =
      readFrom .closing (field ++ text) record rest := by
  induction text generalizing field with
  | nil => simp [doubled, readFrom_cons]
  | cons c text ih =>
      have hcons :
          doubled (c :: text) = (if c = '"' then ['"', '"'] else [c]) ++ doubled text := rfl
      rw [hcons]
      by_cases hquote : c = '"'
      · subst hquote
        simp [readFrom_cons, ih]
      · simp [readFrom_cons, hquote, ih]

/-- Without quotes. -/
lemma readFrom_plain (hmode : mode = .plain ∨ mode = .start)
    (hspecial : text.any isSpecial = false) :
    readFrom mode field record (text ++ rest) =
      readFrom (if text = [] then mode else .plain) (field ++ text) record rest := by
  induction text generalizing field mode with
  | nil => simp
  | cons c text ih =>
      simp only [List.any_cons, Bool.or_eq_false_iff, isSpecial, decide_eq_false_iff_not]
        at hspecial
      obtain ⟨⟨⟨hquote, hcomma⟩, hnewline⟩, htext⟩ := hspecial
      have hquoted : mode ≠ .quoted := by rcases hmode with rfl | rfl <;> simp
      rw [List.cons_append, readFrom_cons, if_neg hquoted, if_neg (by simp [hquote]), if_neg hcomma,
        if_neg hnewline, ih (Or.inl rfl) htext]
      simp

/-- A field, up to what is behind it. -/
lemma readFrom_escape (record : List (List Char)) (field rest : List Char) :
    ∃ mode : Mode, mode ≠ .quoted ∧
    readFrom .start [] record (escape field ++ rest) = readFrom mode field record rest := by
  unfold escape
  by_cases hspecial : field.any isSpecial = true
  · refine ⟨.closing, by simp, ?_⟩
    rw [if_pos hspecial]
    have hquoted : readFrom .quoted [] record (doubled field ++ '"' :: rest) =
        readFrom .closing field record rest := readFrom_doubled []
    simpa [readFrom_cons] using hquoted
  · refine ⟨if field = [] then .start else .plain, by split <;> simp, ?_⟩
    rw [if_neg hspecial, readFrom_plain (Or.inr rfl) (by simpa using hspecial)]
    simp

lemma readFrom_line (hne : record ≠ []) (front : List (List Char)) (rest : List Char) :
    readFrom .start [] front (line record ++ rest) =
      (front ++ record) :: readFrom .start [] [] rest := by
  induction record generalizing front with
  | nil => exact absurd rfl hne
  | cons field record ih =>
      obtain ⟨mode, hmode, hread⟩ := readFrom_escape front field
        (if record = [] then '\n' :: rest else ',' :: (line record ++ rest))
      cases record with
      | nil => simpa [line, readFrom_newline hmode] using hread
      | cons next record =>
          have hrest := ih (by simp) (front ++ [field])
          rw [if_neg (by simp), readFrom_comma hmode, hrest] at hread
          simpa [line] using hread

/-- What is written is read back. -/
theorem read_write {records : List (List (List Char))} (h : ∀ record ∈ records, record ≠ []) :
    read (write records) = records := by
  unfold read
  induction records with
  | nil => exact readFrom_nil
  | cons record records ih =>
      obtain ⟨hrecord, hrecords⟩ := List.forall_mem_cons.mp h
      have hline := readFrom_line hrecord [] (write records)
      rw [ih hrecords] at hline
      simpa [write] using hline

end CommaSeparated
