import ExpresSync.Model.SseStreams

/-!
# A stream that is cut off

A connection ends anywhere in the text of a stream.  The number that the client presents when it
comes back is that of the last event it has got whole, and what it has got is what was written,
whatever the payloads say (`resumes_where_cut`).  It is what the systems of `Model.SseStreams` take
a client to do, frame by frame.
-/

namespace ExpresSync

variable {P : Type*}

/-! ## Numbers as text -/

lemma isDigit_of_mem_toString {n : ℕ} {c : Char} (hc : c ∈ (toString n).toList) :
    c.isDigit = true := by
  rw [show (toString n).toList = Nat.toDigits 10 n from Nat.toList_repr] at hc
  exact Nat.isDigit_of_mem_toDigits (by omega) (by omega) hc

lemma nul_notMem_toString (n : ℕ) : '\x00' ∉ (toString n).toList := by
  intro hc
  simpa using isDigit_of_mem_toString hc

lemma toString_inLine (n : ℕ) : ∀ c ∈ (toString n).toList, InLine c := by
  intro c hc
  have hdigit := isDigit_of_mem_toString hc
  constructor
  · rintro rfl
    simp at hdigit
  · rintro rfl
    simp at hdigit

lemma parseUnsigned_toDigits (n : ℕ) : parseUnsigned (Nat.toDigits 10 n) = some n := by
  have hdigits : leadingDigits (Nat.toDigits 10 n) = Nat.toDigits 10 n :=
    List.takeWhile_eq_self_iff.mpr fun c hc =>
      Nat.isDigit_of_mem_toDigits (by omega) (by omega) hc
  have hne : (Nat.toDigits 10 n).isEmpty = false := by
    simp
  have hvalue : digitsValue (Nat.toDigits 10 n) = n := by
    rw [digitsValue, ← Nat.ofDigitChars_eq_foldl]
    exact Nat.ofDigitChars_toDigits (by omega) (by omega)
  rw [parseUnsigned, hdigits, hne, hvalue]
  simp

lemma not_isStrWhiteSpace_of_isDigit {c : Char} (h : c.isDigit = true) :
    isStrWhiteSpace c = false := by
  obtain ⟨hlow, hhigh⟩ : 48 ≤ c.toNat ∧ c.toNat ≤ 57 := by
    simpa [Char.isDigit, UInt32.le_iff_toNat_le] using h
  simp only [isStrWhiteSpace, List.contains_eq_mem, List.mem_cons, List.not_mem_nil, or_false,
    Bool.or_eq_false_iff, decide_eq_false_iff_not, Bool.and_eq_false_iff]
  omega

lemma parseInt_toString (n : ℕ) : parseInt (toString n) = some (n : ℤ) := by
  have hparse := parseUnsigned_toDigits n
  have hdigits : ∀ c ∈ Nat.toDigits 10 n, c.isDigit = true := fun c hc =>
    Nat.isDigit_of_mem_toDigits (by omega) (by omega) hc
  unfold parseInt
  rw [show (toString n).toList = Nat.toDigits 10 n from Nat.toList_repr]
  cases htext : Nat.toDigits 10 n with
  | nil => simp at htext
  | cons c rest =>
      rw [htext] at hparse hdigits
      have hdigit := hdigits c List.mem_cons_self
      rw [List.dropWhile_cons_of_neg (by simp [not_isStrWhiteSpace_of_isDigit hdigit])]
      split
      · next heq =>
        obtain ⟨rfl, -⟩ := List.cons.inj heq
        simp at hdigit
      · next heq =>
        obtain ⟨rfl, -⟩ := List.cons.inj heq
        simp at hdigit
      · rw [hparse]
        rfl

/-- The number of an event is read back from the text of its id. -/
lemma parseLastEventId_toString (n : ℕ) : parseLastEventId (some (toString n)) = n := by
  have htext : truthy (some (toString n)) = true := by
    refine bne_iff_ne.mpr fun hempty => ?_
    have hnan : parseInt "" = none := rfl
    have hparse := parseInt_toString n
    rw [hempty, hnan] at hparse
    cases hparse
  unfold parseLastEventId
  rw [if_pos htext, Option.getD_some, parseInt_toString]
  show (if (n : ℤ) > 0 then (n : ℤ).toNat else 0) = n
  split
  · exact Int.toNat_natCast n
  · omega

lemma parseLastEventId_nil : parseLastEventId (some (String.ofList [])) = 0 := rfl

/-! ## Frames as fields -/

/-- The name of a type is not empty, and fits on a line. -/
lemma text_isLine (type : EventBusEventType) :
    type.text.toList ≠ [] ∧ ∀ c ∈ type.text.toList, InLine c := by
  have hline : (!type.text.toList.isEmpty &&
      type.text.toList.all fun c => c != '\n' && c != '\r') = true := by
    cases type <;> rfl
  simpa [InLine] using hline

lemma heartbeatData_inLine (ts : ℕ) : ∀ c ∈ (heartbeatData ts).toList, InLine c := by
  have hopen : ∀ c ∈ "\x7b\"ts\":".toList, InLine c := by simp [InLine]
  have hclose : ∀ c ∈ "\x7d".toList, InLine c := by simp [InLine]
  intro c hc
  rw [show heartbeatData ts = "\x7b\"ts\":" ++ toString ts ++ "\x7d" from rfl] at hc
  simp only [String.toList_append, List.mem_append] at hc
  rcases hc with (hc | hc) | hc
  · exact hopen c hc
  · exact toString_inLine ts c hc
  · exact hclose c hc

/-- The names of the fields that are written. -/
inductive FieldName where
  | id
  | event
  | data
  | retry

def FieldName.text : FieldName → List Char
  | id => "id".toList
  | event => "event".toList
  | data => "data".toList
  | retry => "retry".toList

lemma FieldName.id_text : FieldName.id.text = "id".toList := rfl

lemma FieldName.event_text : FieldName.event.text = "event".toList := rfl

lemma FieldName.data_text : FieldName.data.text = "data".toList := rfl

lemma FieldName.retry_text : FieldName.retry.text = "retry".toList := rfl

lemma FieldName.text_inLine (name : FieldName) : ∀ c ∈ name.text, InLine c ∧ c ≠ ':' := by
  have hall : name.text.all (fun c => c != '\n' && c != '\r' && c != ':') = true := by
    cases name <;> rfl
  simpa [InLine] using hall

lemma retry_inLine : ∀ c ∈ "5000".toList, InLine c := by simp [InLine]

section

variable (stringify : P → JsonLine)

/-- The fields of a frame. -/
def SseFrame.fields (ts : ℕ) : SseFrame P → List EventField
  | .retry => [⟨FieldName.retry.text, _, FieldName.retry.text_inLine, retry_inLine⟩]
  | .heartbeat =>
      [⟨FieldName.event.text, _, FieldName.event.text_inLine,
          (text_isLine EventBusEventType.heartbeat).2⟩,
        ⟨FieldName.data.text, _, FieldName.data.text_inLine, heartbeatData_inLine ts⟩]
  | .event e =>
      [⟨FieldName.id.text, _, FieldName.id.text_inLine, toString_inLine e.seq⟩,
        ⟨FieldName.event.text, _, FieldName.event.text_inLine, (text_isLine e.type).2⟩,
        ⟨FieldName.data.text, _, FieldName.data.text_inLine, (stringify e.payload).inLine⟩]

lemma SseFrame.text_eq_frame (ts : ℕ) (frame : SseFrame P) :
    (frame.text stringify ts).toList = EventField.frame (frame.fields stringify ts) := by
  have hdata : "\ndata: ".toList = '\n' :: ("data".toList ++ [':', ' ']) := by simp
  have hend : "\n\n".toList = ['\n', '\n'] := by simp
  cases frame with
  | retry =>
      show "retry: 5000\n\n".toList = _
      have hretry : "retry: 5000\n\n".toList =
          "retry".toList ++ ':' :: ' ' :: ("5000".toList ++ ['\n', '\n']) := by simp
      simp only [hretry, SseFrame.fields, EventField.frame, EventField.line, FieldName.retry_text,
        List.flatMap_cons, List.flatMap_nil, List.append_assoc, List.cons_append, List.nil_append]
  | heartbeat =>
      show ("event: heartbeat\ndata: " ++ heartbeatData ts ++ "\n\n").toList = _
      have hevent : "event: heartbeat\ndata: ".toList =
          "event".toList ++ ':' :: ' ' :: ("heartbeat".toList ++ "\ndata: ".toList) := by simp
      simp only [String.toList_append, hevent, hdata, hend, SseFrame.fields, EventField.frame,
        EventField.line, FieldName.event_text, FieldName.data_text, EventBusEventType.text,
        List.flatMap_cons, List.flatMap_nil, List.append_assoc, List.cons_append, List.nil_append]
  | event e =>
      show ("id: " ++ toString e.seq ++ "\nevent: " ++ e.type.text ++ "\ndata: " ++
        (stringify e.payload).text ++ "\n\n").toList = _
      have hid : "id: ".toList = "id".toList ++ [':', ' '] := by simp
      have hevent : "\nevent: ".toList = '\n' :: ("event".toList ++ [':', ' ']) := by simp
      simp only [String.toList_append, hid, hevent, hdata, hend, SseFrame.fields, EventField.frame,
        EventField.line, FieldName.id_text, FieldName.event_text, FieldName.data_text,
        List.flatMap_cons, List.flatMap_nil, List.append_assoc,
        List.cons_append, List.nil_append]

/-- The event a client dispatches for a frame. -/
def SseFrame.dispatched (ts : ℕ) : SseFrame P → Option ServerEvent
  | .retry => none
  | .heartbeat => some ⟨"heartbeat".toList, (heartbeatData ts).toList⟩
  | .event e => some ⟨e.type.text.toList, (stringify e.payload).text.toList⟩

end

/-! ## What a client has got -/

section

variable (stringify : P → JsonLine)

/-- A connection: the frames that are written while it lasts, with their times, and how much of
their text reaches the client. -/
structure CutConnection where
  frames : List (SseFrame P × ℕ)
  cut : List Char
  isCut : cut <+: streamText stringify frames

variable {stringify} in
/-- The frames that reach the client whole. -/
def CutConnection.received (connection : CutConnection stringify) : List (SseFrame P × ℕ) :=
  EventReader.whole (fun frame => (frame.1.text stringify frame.2).toList) connection.frames
    connection.cut

/-- The events that a client dispatches for the frames. -/
def dispatchedEvents (frames : List (SseFrame P × ℕ)) : List ServerEvent :=
  frames.filterMap fun frame => frame.1.dispatched stringify frame.2

/-- The number of the last event; 0 when there is none. -/
def lastSeq (frames : List (SseFrame P × ℕ)) : ℕ :=
  ((frames.filterMap fun frame => frame.1.event?).getLast?.map DeliveredEvent.seq).getD 0

/-- A client between two frames, which has got these. -/
structure HasGot (frames : List (SseFrame P × ℕ)) (r : EventReader) : Prop where
  data : r.data = []
  type : r.type = []
  idBuffer : r.idBuffer = r.lastEventId
  events : r.events = dispatchedEvents stringify frames
  lastEventId : parseLastEventId (some (String.ofList r.lastEventId)) = lastSeq frames

end

variable {stringify : P → JsonLine} {frames : List (SseFrame P × ℕ)} {r : EventReader}

namespace HasGot

lemma initial : HasGot stringify [] EventReader.initial where
  data := rfl
  type := rfl
  idBuffer := rfl
  events := rfl
  lastEventId := parseLastEventId_nil

/-- A frame that is read to its end. -/
lemma concat (h : HasGot stringify frames r) (frame : SseFrame P × ℕ) :
    HasGot stringify (frames ++ [frame])
      (r.fields (frame.1.fields stringify frame.2)).dispatch := by
  obtain ⟨line, afterCr, data, type, idBuffer, lastEventId, events⟩ := r
  obtain ⟨hdata, htype, hid, hevents, hlast⟩ := h
  dsimp only at hdata htype hid hevents hlast
  subst hdata htype hid hevents
  obtain ⟨frame, ts⟩ := frame
  cases frame with
  | retry =>
      have hread : (EventReader.fields ⟨line, afterCr, [], [], idBuffer, idBuffer,
          dispatchedEvents stringify frames⟩ (SseFrame.fields stringify ts .retry)).dispatch =
          ⟨line, afterCr, [], [], idBuffer, idBuffer, dispatchedEvents stringify frames⟩ := by
        simp only [EventReader.fields, SseFrame.fields, List.foldl_cons, List.foldl_nil,
          FieldName.retry_text, EventReader.field_retry]
        exact EventReader.dispatch_nil rfl
      rw [hread]
      constructor
      · rfl
      · rfl
      · rfl
      · simp [dispatchedEvents, SseFrame.dispatched]
      · simpa [lastSeq, SseFrame.event?] using hlast
  | heartbeat =>
      have hread : (EventReader.fields ⟨line, afterCr, [], [], idBuffer, idBuffer,
          dispatchedEvents stringify frames⟩ (SseFrame.fields stringify ts .heartbeat)).dispatch =
          ⟨line, afterCr, [], [], idBuffer, idBuffer, dispatchedEvents stringify frames ++
            [⟨"heartbeat".toList, (heartbeatData ts).toList⟩]⟩ := by
        simp only [EventReader.fields, SseFrame.fields, List.foldl_cons, List.foldl_nil,
          FieldName.event_text, FieldName.data_text, EventReader.field_event,
          EventReader.field_data]
        exact EventReader.dispatch_data (by simp) rfl rfl
      rw [hread]
      constructor
      · rfl
      · rfl
      · rfl
      · simp [dispatchedEvents, SseFrame.dispatched]
      · simpa [lastSeq, SseFrame.event?] using hlast
  | event e =>
      have hread : (EventReader.fields ⟨line, afterCr, [], [], idBuffer, idBuffer,
          dispatchedEvents stringify frames⟩ (SseFrame.fields stringify ts (.event e))).dispatch =
          ⟨line, afterCr, [], [], (toString e.seq).toList, (toString e.seq).toList,
            dispatchedEvents stringify frames ++
              [⟨e.type.text.toList, (stringify e.payload).text.toList⟩]⟩ := by
        simp only [EventReader.fields, SseFrame.fields, List.foldl_cons, List.foldl_nil,
          FieldName.id_text, FieldName.event_text, FieldName.data_text, EventReader.field_event,
          EventReader.field_data]
        rw [EventReader.field_id _ (nul_notMem_toString e.seq)]
        exact EventReader.dispatch_data ((text_isLine e.type).1) rfl rfl
      rw [hread]
      constructor
      · rfl
      · rfl
      · rfl
      · simp [dispatchedEvents, SseFrame.dispatched]
      · rw [String.ofList_toList, parseLastEventId_toString]
        simp [lastSeq, SseFrame.event?]

lemma append (h : HasGot stringify frames r) (more : List (SseFrame P × ℕ)) :
    HasGot stringify (frames ++ more)
      (r.frames (more.map fun frame => frame.1.fields stringify frame.2)) := by
  induction more generalizing frames r with
  | nil =>
      rw [List.append_nil]
      exact h
  | cons frame more ih =>
      have hnext := ih (h.concat frame)
      rw [List.append_assoc] at hnext
      exact hnext

/-- What has been read of the next frame is given up with the connection. -/
lemma reconnect {r' : EventReader} (h : HasGot stringify frames r) (hevents : r'.events = r.events)
    (hid : r'.lastEventId = r.lastEventId) : HasGot stringify frames r'.reconnect where
  data := rfl
  type := rfl
  idBuffer := rfl
  events := hevents.trans h.events
  lastEventId := by
    rw [← h.lastEventId, ← hid]
    rfl

lemma connection (h : HasGot stringify frames r.reconnect) (connection : CutConnection stringify) :
    HasGot stringify (frames ++ connection.received)
      (r.reconnect.read connection.cut).reconnect := by
  obtain ⟨hevents, hid⟩ := EventReader.read_whole
    (fun frame : SseFrame P × ℕ => frame.1.text_eq_frame stringify frame.2)
    (show r.reconnect.AtLine from ⟨rfl, rfl⟩) connection.isCut
  exact (h.append connection.received).reconnect hevents hid

/-- One connection after the other. -/
lemma readAll (h : HasGot stringify frames r.reconnect)
    (connections : List (CutConnection stringify)) :
    HasGot stringify (frames ++ connections.flatMap CutConnection.received)
      (r.readAll (connections.map CutConnection.cut)).reconnect := by
  induction connections generalizing frames r with
  | nil =>
      rw [List.flatMap_nil, List.append_nil]
      exact h
  | cons connection connections ih =>
      have hnext := ih (h.connection connection)
      rw [List.append_assoc] at hnext
      rw [List.flatMap_cons]
      exact hnext

end HasGot

/-- **A client resumes where it was cut off.**  Wherever each of its connections ends, a client has
dispatched the events of the frames that have reached it whole, the first ones of each connection,
with the payloads that were written; and `parseLastEventId` reads the header that it presents as the
number of the last of them. -/
theorem resumes_where_cut (connections : List (CutConnection stringify)) :
    let r := EventReader.initial.readAll (connections.map CutConnection.cut)
    let received := connections.flatMap CutConnection.received
    r.events = dispatchedEvents stringify received ∧
      parseLastEventId (some (String.ofList r.lastEventId)) = lastSeq received ∧
      ∀ connection ∈ connections, connection.received <+: connection.frames := by
  intro r received
  have hgot : HasGot stringify ([] ++ received) r.reconnect :=
    HasGot.readAll (r := EventReader.initial) HasGot.initial connections
  exact ⟨hgot.events, hgot.lastEventId, fun connection _ => EventReader.whole_prefix _ _⟩

end ExpresSync
