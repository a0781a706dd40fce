import Mathlib.Data.List.Infix

/-!
# Event streams

The text format of server-sent events, and a client that reads it: lines that end in LF, CR or
CRLF, a field on each line, and an empty line after which the client dispatches an event.  A client
keeps the id of the last event it has dispatched, and presents it when it comes back.

`EventField` is a field that is written on one line.  What a client has dispatched, and the id it
keeps, is that of the frames that it has read to their end, wherever the text is cut
(`EventReader.read_whole`).
-/

/-- An event as a client dispatches it. -/
structure ServerEvent where
  type : List Char
  data : List Char
deriving DecidableEq

/-- A client that reads. -/
structure EventReader where
  /-- The line that has begun. -/
  line : List Char
  /-- The last character was a CR. -/
  afterCr : Bool
  data : List Char
  type : List Char
  idBuffer : List Char
  lastEventId : List Char
  events : List ServerEvent
deriving DecidableEq

namespace EventReader

def initial : EventReader := ⟨[], false, [], [], [], [], []⟩

variable (r : EventReader)

/-- A field that has been read.  The time to wait before coming back is not kept. -/
def field (name value : List Char) : EventReader :=
  if name = "event".toList then { r with type := value }
  else if name = "data".toList then { r with data := r.data ++ value ++ ['\n'] }
  else if name = "id".toList then
    if '\x00' ∈ value then r else { r with idBuffer := value }
  else r

/-- An empty line. -/
def dispatch : EventReader :=
  if r.data = [] then { r with lastEventId := r.idBuffer, type := [] }
  else
    { r with
      lastEventId := r.idBuffer
      events := r.events ++
        [⟨if r.type = [] then "message".toList else r.type, r.data.dropLast⟩]
      data := []
      type := [] }

/-- The value after the colon, without one leading space. -/
def valueOf : List Char → List Char
  | ':' :: ' ' :: value => value
  | ':' :: value => value
  | _ => []

/-- The end of a line.  A comment is a field without a name. -/
def endLine : EventReader :=
  let next := { r with line := [] }
  if r.line = [] then next.dispatch
  else next.field (r.line.takeWhile (· ≠ ':')) (valueOf (r.line.dropWhile (· ≠ ':')))

def readChar (c : Char) : EventReader :=
  if c = '\n' then
    if r.afterCr then { r with afterCr := false } else r.endLine
  else if c = '\r' then { r.endLine with afterCr := true }
  else { r with line := r.line ++ [c], afterCr := false }

def read (text : List Char) : EventReader := text.foldl readChar r

/-- The connection has ended, and the client comes back. -/
def reconnect : EventReader :=
  { initial with
    idBuffer := r.lastEventId
    lastEventId := r.lastEventId
    events := r.events }

/-- What the client reads of one connection after the other. -/
def readAll (cuts : List (List Char)) : EventReader :=
  cuts.foldl (fun r cut => r.reconnect.read cut) r

end EventReader

/-- A character that does not end a line. -/
def InLine (c : Char) : Prop := c ≠ '\n' ∧ c ≠ '\r'

/-- A field that fits on a line. -/
structure EventField where
  name : List Char
  value : List Char
  name_inLine : ∀ c ∈ name, InLine c ∧ c ≠ ':'
  value_inLine : ∀ c ∈ value, InLine c

namespace EventField

/-- The line of a field, without its end. -/
def line (f : EventField) : List Char := f.name ++ ':' :: ' ' :: f.value

/-- The text of a frame. -/
def frame (fields : List EventField) : List Char :=
  fields.flatMap (fun f => f.line ++ ['\n']) ++ ['\n']

lemma line_inLine (f : EventField) : ∀ c ∈ f.line, InLine c := by
  intro c hc
  simp only [line, List.mem_append, List.mem_cons] at hc
  rcases hc with hname | rfl | rfl | hvalue
  · exact (f.name_inLine c hname).1
  · exact ⟨by decide, by decide⟩
  · exact ⟨by decide, by decide⟩
  · exact f.value_inLine c hvalue

end EventField

namespace EventReader

variable {r : EventReader}

lemma field_eq (r : EventReader) (name value : List Char) :
    r.field name value =
      if name = "event".toList then { r with type := value }
      else if name = "data".toList then { r with data := r.data ++ value ++ ['\n'] }
      else if name = "id".toList then
        if '\x00' ∈ value then r else { r with idBuffer := value }
      else r := rfl

lemma field_event (r : EventReader) (value : List Char) :
    r.field "event".toList value = { r with type := value } := if_pos rfl

lemma field_data (r : EventReader) (value : List Char) :
    r.field "data".toList value = { r with data := r.data ++ value ++ ['\n'] } := by
  rw [field_eq, if_neg (by simp), if_pos rfl]

lemma field_id (r : EventReader) {value : List Char} (h : '\x00' ∉ value) :
    r.field "id".toList value = { r with idBuffer := value } := by
  rw [field_eq, if_neg (by simp), if_neg (by simp), if_pos rfl, if_neg h]

lemma field_retry (r : EventReader) (value : List Char) : r.field "retry".toList value = r := by
  rw [field_eq, if_neg (by simp), if_neg (by simp), if_neg (by simp)]

lemma dispatch_nil (h : r.data = []) :
    r.dispatch = { r with lastEventId := r.idBuffer, type := [] } := if_pos h

/-- A frame with one line of data. -/
lemma dispatch_data {type value : List Char} (htype : type ≠ [])
    (h : r.data = value ++ ['\n']) (ht : r.type = type) :
    r.dispatch = { r with
      lastEventId := r.idBuffer
      events := r.events ++ [⟨type, value⟩]
      data := []
      type := [] } := by
  rw [dispatch, if_neg (by simp [h]), h, ht, if_neg htype, List.dropLast_concat]

lemma read_append (r : EventReader) (text more : List Char) :
    r.read (text ++ more) = (r.read text).read more := List.foldl_append

/-- At the start of a line. -/
structure AtLine (r : EventReader) : Prop where
  line : r.line = []
  afterCr : r.afterCr = false

lemma AtLine.eq (h : r.AtLine) : { r with line := [], afterCr := false } = r := by
  obtain ⟨line, afterCr, data, type, idBuffer, lastEventId, events⟩ := r
  obtain ⟨rfl, rfl⟩ := h
  rfl

/-- Characters that do not end the line. -/
lemma read_inLine {text : List Char} (htext : ∀ c ∈ text, InLine c) (hcr : r.afterCr = false) :
    r.read text = { r with line := r.line ++ text } := by
  induction text generalizing r with
  | nil => simp [read]
  | cons c text ih =>
      obtain ⟨hlf, hcr'⟩ := htext c List.mem_cons_self
      have hchar : r.readChar c = { r with line := r.line ++ [c], afterCr := false } := by
        simp only [readChar, hlf, hcr', if_false]
      have hrest := ih (r := r.readChar c) (fun c' hc' => htext c' (List.mem_cons_of_mem c hc'))
        (by rw [hchar])
      rw [read, List.foldl_cons]
      rw [read] at hrest
      rw [hrest, hchar]
      simp [hcr]

lemma takeWhile_line (f : EventField) : f.line.takeWhile (· ≠ ':') = f.name := by
  rw [EventField.line, List.takeWhile_append_of_pos]
  · simp
  · intro c hc
    simpa using (f.name_inLine c hc).2

lemma dropWhile_line (f : EventField) : f.line.dropWhile (· ≠ ':') = ':' :: ' ' :: f.value := by
  rw [EventField.line, List.dropWhile_append_of_pos]
  · simp
  · intro c hc
    simpa using (f.name_inLine c hc).2

/-- A line with a field. -/
lemma read_line (f : EventField) (h : r.AtLine) :
    r.read (f.line ++ ['\n']) = r.field f.name f.value := by
  have hne : f.line ≠ [] := by simp [EventField.line]
  rw [read_append, read_inLine f.line_inLine h.afterCr, h.line, List.nil_append]
  simp only [read, List.foldl_cons, List.foldl_nil, readChar, if_true, h.afterCr, endLine, hne,
    if_false, Bool.false_eq_true, takeWhile_line, dropWhile_line, valueOf]
  rw [h.eq]

lemma atLine_field (h : r.AtLine) (name value : List Char) : (r.field name value).AtLine := by
  rw [field_eq]
  split
  · exact ⟨h.line, h.afterCr⟩
  · split
    · exact ⟨h.line, h.afterCr⟩
    · split
      · split
        · exact h
        · exact ⟨h.line, h.afterCr⟩
      · exact h

/-- The fields of a frame, one after the other. -/
def fields (r : EventReader) (fs : List EventField) : EventReader :=
  fs.foldl (fun r f => r.field f.name f.value) r

lemma atLine_fields (h : r.AtLine) (fs : List EventField) : (r.fields fs).AtLine := by
  induction fs generalizing r with
  | nil => exact h
  | cons f fs ih => exact ih (atLine_field h f.name f.value)

lemma read_lines (fs : List EventField) (h : r.AtLine) :
    r.read (fs.flatMap fun f => f.line ++ ['\n']) = r.fields fs := by
  induction fs generalizing r with
  | nil => rfl
  | cons f fs ih =>
      rw [List.flatMap_cons, read_append, read_line f h, ih (atLine_field h f.name f.value)]
      rfl

/-- A whole frame. -/
theorem read_frame (fs : List EventField) (h : r.AtLine) :
    r.read (EventField.frame fs) = (r.fields fs).dispatch := by
  have hline := atLine_fields h fs
  rw [EventField.frame, read_append, read_lines fs h]
  simp only [read, List.foldl_cons, List.foldl_nil, readChar, if_true, hline.afterCr, endLine,
    hline.line, if_false, Bool.false_eq_true]
  rw [hline.eq]

/-! ## A text that is cut off -/

lemma events_field (r : EventReader) (name value : List Char) :
    (r.field name value).events = r.events ∧ (r.field name value).lastEventId = r.lastEventId := by
  rw [field_eq]
  split
  · exact ⟨rfl, rfl⟩
  · split
    · exact ⟨rfl, rfl⟩
    · split
      · split
        · exact ⟨rfl, rfl⟩
        · exact ⟨rfl, rfl⟩
      · exact ⟨rfl, rfl⟩

/-- A frame that is not read to its end brings no event. -/
theorem read_frame_cut {fs : List EventField} {cut : List Char} (h : r.AtLine)
    (hcut : cut <+: EventField.frame fs) (hne : cut ≠ EventField.frame fs) :
    (r.read cut).events = r.events ∧ (r.read cut).lastEventId = r.lastEventId := by
  induction fs generalizing r cut with
  | nil =>
      rcases List.prefix_concat_iff.mp (show cut <+: [] ++ ['\n'] from hcut) with heq | hnil
      · exact absurd heq hne
      · rw [List.prefix_nil.mp hnil]
        exact ⟨rfl, rfl⟩
  | cons f fs ih =>
      have hframe : EventField.frame (f :: fs) = (f.line ++ ['\n']) ++ EventField.frame fs := by
        simp [EventField.frame]
      rw [hframe] at hcut hne
      obtain ⟨hevents, hid⟩ := events_field r f.name f.value
      rcases List.prefix_or_prefix_of_prefix hcut (List.prefix_append (f.line ++ ['\n']) _) with
        hline | ⟨more, rfl⟩
      · rcases List.prefix_concat_iff.mp hline with rfl | hpart
        · rw [read_line f h]
          exact ⟨hevents, hid⟩
        · rw [read_inLine (fun c hc => f.line_inLine c (hpart.subset hc)) h.afterCr]
          exact ⟨rfl, rfl⟩
      · obtain ⟨hevents', hid'⟩ := ih (atLine_field h f.name f.value)
          ((List.prefix_append_right_inj _).mp hcut) (fun heq => hne (by rw [heq]))
        rw [read_append, read_line f h]
        exact ⟨hevents'.trans hevents, hid'.trans hid⟩

/-- The frames of a stream, one after the other. -/
def frames (r : EventReader) (stream : List (List EventField)) : EventReader :=
  stream.foldl (fun r fs => (r.fields fs).dispatch) r

lemma atLine_dispatch (h : r.AtLine) : r.dispatch.AtLine := by
  unfold dispatch
  split
  · exact ⟨h.line, h.afterCr⟩
  · exact ⟨h.line, h.afterCr⟩

section

variable {φ : Type*} (text : φ → List Char)

/-- The frames whose text is there to its end. -/
def whole : List φ → List Char → List φ
  | [], _ => []
  | frame :: stream, cut =>
      if text frame <+: cut then frame :: whole stream (cut.drop (text frame).length) else []

variable {text}

lemma whole_prefix (stream : List φ) (cut : List Char) : whole text stream cut <+: stream := by
  induction stream generalizing cut with
  | nil => exact List.prefix_refl _
  | cons frame stream ih =>
      rw [whole]
      split
      · exact List.cons_prefix_cons.mpr ⟨rfl, ih _⟩
      · exact List.nil_prefix

/-- Wherever a stream is cut, what the client has dispatched, and the id it keeps, is that of the
frames it has read to their end. -/
theorem read_whole {fields : φ → List EventField}
    (htext : ∀ frame, text frame = EventField.frame (fields frame)) {stream : List φ}
    {cut : List Char} (h : r.AtLine) (hcut : cut <+: stream.flatMap text) :
    (r.read cut).events = (r.frames ((whole text stream cut).map fields)).events ∧
      (r.read cut).lastEventId = (r.frames ((whole text stream cut).map fields)).lastEventId := by
  induction stream generalizing r cut with
  | nil =>
      rw [List.prefix_nil.mp hcut]
      exact ⟨rfl, rfl⟩
  | cons frame stream ih =>
      by_cases hwhole : text frame <+: cut
      · obtain ⟨more, rfl⟩ := hwhole
        have hnext := ih (atLine_dispatch (atLine_fields h (fields frame)))
          ((List.prefix_append_right_inj _).mp hcut)
        rw [whole, if_pos (List.prefix_append _ _), List.drop_left, List.map_cons, read_append,
          htext, read_frame _ h]
        exact hnext
      · have hpart : cut <+: text frame := by
          rcases List.prefix_or_prefix_of_prefix hcut (List.prefix_append (text frame) _) with
            hpart | hall
          · exact hpart
          · exact absurd hall hwhole
        rw [whole, if_neg hwhole]
        rw [htext] at hpart hwhole
        exact read_frame_cut h hpart fun heq => hwhole (heq ▸ List.prefix_refl _)

end

end EventReader
