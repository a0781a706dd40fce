import Mathlib.Data.List.Basic

/-!
# Decoding UTF-8 as it comes in

`TextDecoder` for UTF-8.  A character may be cut by the end of the input: with `stream`, the decoder
keeps what it has of it for the next call, and else it is replaced.  Bytes that are no UTF-8 are
replaced as well.  A byte order mark at the start of a stream is dropped.
-/

/-- Where a decoder stands within a character. -/
structure Utf8Decoder where
  needed : ℕ
  seen : ℕ
  codePoint : ℕ
  /-- What the next byte is at least. -/
  lower : ℕ
  /-- What the next byte is at most. -/
  upper : ℕ
deriving DecidableEq

namespace Utf8Decoder

/-- Between two characters. -/
def initial : Utf8Decoder := ⟨0, 0, 0, 0x80, 0xBF⟩

def replacement : Char := Char.ofNat 0xFFFD

def byteOrderMark : Char := Char.ofNat 0xFEFF

/-- The first byte of a character. -/
def lead (b : ℕ) : Utf8Decoder × List Char :=
  if b < 0x80 then (initial, [Char.ofNat b])
  else if 0xC2 ≤ b ∧ b ≤ 0xDF then (⟨1, 0, b % 0x20, 0x80, 0xBF⟩, [])
  else if 0xE0 ≤ b ∧ b ≤ 0xEF then
    (⟨2, 0, b % 0x10, if b = 0xE0 then 0xA0 else 0x80, if b = 0xED then 0x9F else 0xBF⟩, [])
  else if 0xF0 ≤ b ∧ b ≤ 0xF4 then
    (⟨3, 0, b % 0x08, if b = 0xF0 then 0x90 else 0x80, if b = 0xF4 then 0x8F else 0xBF⟩, [])
  else (initial, [replacement])

/-- One byte, and the characters that it completes. -/
def step (d : Utf8Decoder) (b : ℕ) : Utf8Decoder × List Char :=
  if d.needed = 0 then lead b
  -- A byte that cannot go on with the character is the first of the next.
  else if b < d.lower ∨ d.upper < b then ((lead b).1, replacement :: (lead b).2)
  else
    let codePoint := d.codePoint * 64 + b % 64
    if d.seen + 1 = d.needed then (initial, [Char.ofNat codePoint])
    else (⟨d.needed, d.seen + 1, codePoint, 0x80, 0xBF⟩, [])

def run (d : Utf8Decoder) : List UInt8 → Utf8Decoder × List Char
  | [] => (d, [])
  | b :: bytes =>
      let next := d.step b.toNat
      ((next.1.run bytes).1, next.2 ++ (next.1.run bytes).2)

/-- What the end of the input leaves. -/
def flush (d : Utf8Decoder) : List Char := if d.needed = 0 then [] else [replacement]

@[simp] lemma run_nil (d : Utf8Decoder) : d.run [] = (d, []) := rfl

lemma run_append (d : Utf8Decoder) (xs ys : List UInt8) :
    d.run (xs ++ ys) =
      (((d.run xs).1.run ys).1, (d.run xs).2 ++ ((d.run xs).1.run ys).2) := by
  induction xs generalizing d with
  | nil => simp
  | cons x xs ih => simp [run, ih]

/-- ASCII is decoded byte by byte. -/
lemma run_ascii {text : List Char} (h : ∀ c ∈ text, c.toNat < 128) :
    initial.run (text.map fun c => UInt8.ofNat c.toNat) = (initial, text) := by
  induction text with
  | nil => rfl
  | cons c text ih =>
      obtain ⟨hc, htext⟩ := List.forall_mem_cons.mp h
      have hbyte : (UInt8.ofNat c.toNat).toNat = c.toNat := by
        simp only [UInt8.toNat_ofNat']
        omega
      have hlead : initial.step c.toNat = (initial, [c]) := by
        simp [step, lead, initial, hc]
      simp [run, hbyte, hlead, ih htext]

end Utf8Decoder

/-- `TextDecoder` -/
structure TextDecoder where
  /-- The last call was one of a stream. -/
  doNotFlush : Bool
  bomSeen : Bool
  utf8 : Utf8Decoder
deriving DecidableEq

namespace TextDecoder

open Utf8Decoder

/-- `new TextDecoder()` -/
def new : TextDecoder := ⟨false, false, initial⟩

/-- The characters that are returned. -/
def serialized (bomSeen : Bool) (chars : List Char) : List Char :=
  if !bomSeen && chars.head? = some byteOrderMark then chars.tail else chars

/-- `decode(input, { stream })` -/
def decode (t : TextDecoder) (input : List UInt8) (stream : Bool) : List Char × TextDecoder :=
  let t := if t.doNotFlush then t else new
  let (utf8, chars) := t.utf8.run input
  let chars := if stream then chars else chars ++ utf8.flush
  (serialized t.bomSeen chars, ⟨stream, t.bomSeen || !chars.isEmpty, utf8⟩)

end TextDecoder
