import ExpresSync.Model.DockerLogStream

/-!
# How the log is cut into reads

What the daemon writes is a response head and frames.  `frameParser` takes frames off a buffer, and
on the buffers that come about here it is the loop of `streamLogs` (`nextFrame_eq`), so the same
payloads are found in whatever pieces they come.  Their lines do not depend on the pieces either,
but for the first payload: the decoder of the head has also seen what came in along with the end of
the head, and a character that was cut there is still in it (`readAll_frames`).
-/

namespace ExpresSync

/-! ## What the daemon writes -/

/-- The bytes of a size. -/
def sizeBytes (n : ℕ) : List UInt8 :=
  [.ofNat (n / 2 ^ 24), .ofNat (n / 2 ^ 16), .ofNat (n / 2 ^ 8), .ofNat n]

structure DockerFrame where
  streamType : UInt8
  payload : List UInt8
  length_lt : payload.length < 2 ^ 31

namespace DockerFrame

def bytes (frame : DockerFrame) : List UInt8 :=
  frame.streamType :: 0 :: 0 :: 0 :: (sizeBytes frame.payload.length ++ frame.payload)

lemma length_bytes (frame : DockerFrame) : frame.bytes.length = 8 + frame.payload.length := by
  simp [bytes, sizeBytes]
  omega

end DockerFrame

/-- The head of a response that is no error. -/
structure ResponseHead where
  headerSection : List Char
  ascii : ∀ c ∈ headerSection, c.toNat < 128
  /-- The first blank line is the one behind it. -/
  indexOf_blankLine : indexOf blankLine (headerSection ++ blankLine) = some headerSection.length
  isOk : ∃ statusCode, matchStatus headerSection = some statusCode ∧ digitsValue statusCode < 400

namespace ResponseHead

def text (head : ResponseHead) : List Char := head.headerSection ++ blankLine

def bytes (head : ResponseHead) : List UInt8 := head.text.map fun c => UInt8.ofNat c.toNat

lemma length_bytes (head : ResponseHead) : head.bytes.length = head.headerSection.length + 4 := by
  simp [bytes, text, blankLine]

lemma ascii_text (head : ResponseHead) : ∀ c ∈ head.text, c.toNat < 128 := by
  intro c hc
  rcases List.mem_append.mp hc with hsection | hblank
  · exact head.ascii c hsection
  · have hall : ∀ c ∈ blankLine, c.toNat < 128 := by simp [blankLine]
    exact hall c hblank

end ResponseHead

/-! ## Frames -/

/-- The size in a header. -/
def natSize (a b c d : UInt8) : ℕ :=
  ((a.toNat * 256 + b.toNat) * 256 + c.toNat) * 256 + d.toNat

/-- The first payload of a buffer, when sizes are not signed. -/
def frontFrame (buffer : List UInt8) : Option (List UInt8 × List UInt8) :=
  match buffer with
  | _ :: _ :: _ :: _ :: a :: b :: c :: d :: rest =>
      if rest.length < natSize a b c d then none
      else some (rest.take (natSize a b c d), rest.drop (natSize a b c d))
  | _ => none

lemma exists_of_frontFrame {buffer payload rest : List UInt8}
    (h : frontFrame buffer = some (payload, rest)) :
    ∃ t x y z a b c d body, buffer = t :: x :: y :: z :: a :: b :: c :: d :: body ∧
      natSize a b c d ≤ body.length ∧ payload = body.take (natSize a b c d) ∧
        rest = body.drop (natSize a b c d) := by
  unfold frontFrame at h
  split at h
  · next t x y z a b c d body =>
      split at h
      · simp at h
      · next hlength =>
          obtain ⟨rfl, rfl⟩ : _ ∧ _ := by simpa using h
          exact ⟨t, x, y, z, a, b, c, d, body, rfl, by omega, rfl, rfl⟩
  · simp at h

def frameParser : ItemParser UInt8 (List UInt8) where
  next := frontFrame
  length_lt := by
    intro buffer payload rest h
    obtain ⟨t, x, y, z, a, b, c, d, body, rfl, -, -, rfl⟩ := exists_of_frontFrame h
    simp only [List.length_cons, List.length_drop]
    omega
  next_append := by
    intro buffer payload rest more h
    obtain ⟨t, x, y, z, a, b, c, d, body, rfl, hlength, rfl, rfl⟩ := exists_of_frontFrame h
    have hnot : ¬(body ++ more).length < natSize a b c d := by
      rw [List.length_append]
      omega
    simp only [List.cons_append, frontFrame, if_neg hnot]
    rw [List.take_append_of_le_length hlength, List.drop_append_of_le_length hlength]

lemma natSize_sizeBytes {n : ℕ} (h : n < 2 ^ 31) :
    natSize (.ofNat (n / 2 ^ 24)) (.ofNat (n / 2 ^ 16)) (.ofNat (n / 2 ^ 8)) (.ofNat n) = n := by
  simp only [natSize, UInt8.toNat_ofNat']
  omega

lemma frontFrame_bytes (frame : DockerFrame) (more : List UInt8) :
    frontFrame (frame.bytes ++ more) = some (frame.payload, more) := by
  have hsize := natSize_sizeBytes frame.length_lt
  have hnot : ¬(frame.payload ++ more).length < frame.payload.length := by simp
  simp only [DockerFrame.bytes, sizeBytes, List.cons_append, List.nil_append, frontFrame, hsize,
    if_neg hnot]
  simp

/-- What is left of the bytes of frames, from the start of one of them on. -/
def IsFront (buffer : List UInt8) : Prop :=
  ∃ frames : List DockerFrame, buffer <+: frames.flatMap DockerFrame.bytes

lemma IsFront.of_frontFrame {buffer payload rest : List UInt8} (h : IsFront buffer)
    (hnext : frontFrame buffer = some (payload, rest)) : IsFront rest := by
  obtain ⟨frames, more, hmore⟩ := h
  cases frames with
  | nil =>
      obtain ⟨rfl, -⟩ := List.append_eq_nil_iff.mp hmore
      simp [frontFrame] at hnext
  | cons frame frames =>
      have happend := frameParser.next_append more hnext
      rw [hmore, List.flatMap_cons] at happend
      have heq := (frontFrame_bytes frame _).symm.trans happend
      refine ⟨frames, more, ?_⟩
      simpa using (congrArg Prod.snd (Option.some.inj heq)).symm

lemma slice_natCast {bytes : List UInt8} {i j : ℕ} (hi : i ≤ bytes.length)
    (hj : j ≤ bytes.length) : slice bytes i j = (bytes.take j).drop i := by
  have hindex : ∀ k ≤ bytes.length, sliceIndex bytes.length (k : ℤ) = k := by
    intro k hk
    rw [sliceIndex, if_neg (by omega)]
    omega
  rw [slice, hindex i hi, hindex j hj]

/-- A size with a sign, in a header whose size is below `2 ^ 31`. -/
lemma nextFrame_of_frameSize {t x y z a b c d : UInt8} {body : List UInt8}
    (h : frameSize a b c d = (natSize a b c d : ℕ)) :
    nextFrame (t :: x :: y :: z :: a :: b :: c :: d :: body) =
      frontFrame (t :: x :: y :: z :: a :: b :: c :: d :: body) := by
  set buffer := t :: x :: y :: z :: a :: b :: c :: d :: body with hbuffer
  set n := natSize a b c d with hn
  have hlength : buffer.length = body.length + 8 := by simp [hbuffer]
  have hnext : nextFrame buffer = if (buffer.length : ℤ) < 8 + (n : ℤ) then none
      else some (slice buffer 8 (8 + (n : ℤ)), slice buffer (8 + (n : ℤ)) buffer.length) := by
    simp only [hbuffer, nextFrame, h]
  have hfront : frontFrame buffer = if body.length < n then none
      else some (body.take n, body.drop n) := rfl
  rw [hnext, hfront]
  by_cases hshort : body.length < n
  · rw [if_pos hshort, if_pos (by omega)]
  · have hpayload : slice buffer (8 : ℕ) (8 + n : ℕ) = body.take n := by
      rw [slice_natCast (by omega) (by omega), hbuffer, Nat.add_comm]
      simp
    have hrest : slice buffer (8 + n : ℕ) buffer.length = body.drop n := by
      rw [slice_natCast (by omega) le_rfl, List.take_length, hbuffer, Nat.add_comm]
      simp
    push_cast at hpayload hrest
    rw [if_neg hshort, if_neg (by omega), hpayload, hrest]

/-- The loop of `streamLogs` takes the frames that there are. -/
lemma nextFrame_eq {buffer : List UInt8} (h : IsFront buffer) :
    nextFrame buffer = frontFrame buffer := by
  match buffer with
  | t :: x :: y :: z :: a :: b :: c :: d :: body =>
      obtain ⟨frames, more, hmore⟩ := h
      cases frames with
      | nil => simp at hmore
      | cons frame frames =>
          simp only [List.flatMap_cons, DockerFrame.bytes, sizeBytes, List.cons_append,
            List.cons.injEq] at hmore
          obtain ⟨-, -, -, -, rfl, rfl, rfl, rfl, -⟩ := hmore
          refine nextFrame_of_frameSize ?_
          have hlt := frame.length_lt
          have hsize := natSize_sizeBytes hlt
          rw [hsize]
          unfold natSize at hsize
          simp only [frameSize, hsize, if_pos hlt]
  | [] | [_] | [_, _] | [_, _, _] | [_, _, _, _] | [_, _, _, _, _] | [_, _, _, _, _, _]
  | [_, _, _, _, _, _, _] => rfl

lemma IsFront.of_append {buffer more : List UInt8} (h : IsFront (buffer ++ more)) :
    IsFront buffer := by
  obtain ⟨frames, hbegins⟩ := h
  exact ⟨frames, (List.prefix_append buffer more).trans hbegins⟩

lemma IsFront.drain {buffer more : List UInt8} (h : IsFront (buffer ++ more)) :
    IsFront ((frameParser.drain buffer).2 ++ more) := by
  induction buffer using ItemParser.drain.induct frameParser with
  | case1 buffer hnone => rwa [ItemParser.drain_of_none hnone]
  | case2 buffer payload rest hsome _ ih =>
      rw [ItemParser.drain_of_some hsome]
      exact ih (h.of_frontFrame (frameParser.next_append more hsome))

/-- The bytes of a frame that has not come in as a whole. -/
def IsIncomplete (buffer : List UInt8) : Prop :=
  ∃ frame : DockerFrame, ∃ more, more ≠ [] ∧ buffer ++ more = frame.bytes

lemma frontFrame_of_isIncomplete {buffer : List UInt8} (h : IsIncomplete buffer) :
    frontFrame buffer = none := by
  obtain ⟨frame, more, hmore, hbytes⟩ := h
  cases hnext : frontFrame buffer with
  | none => rfl
  | some found =>
      have happend := frameParser.next_append more hnext
      have hwhole := frontFrame_bytes frame []
      rw [List.append_nil, ← hbytes] at hwhole
      have hrest := congrArg Prod.snd (Option.some.inj (hwhole.symm.trans happend))
      simp_all

lemma isFront_frames (frames : List DockerFrame) {buffer : List UInt8} (h : IsIncomplete buffer) :
    IsFront (frames.flatMap DockerFrame.bytes ++ buffer) := by
  obtain ⟨frame, more, -, hbytes⟩ := h
  refine ⟨frames ++ [frame], more, ?_⟩
  simp [← hbytes]

/-! ## Lines -/

lemma yieldLines_append (decoder : TextDecoder) (xs ys : List (List UInt8)) :
    yieldLines decoder (xs ++ ys) =
      ((yieldLines decoder xs).1 ++ (yieldLines (yieldLines decoder xs).2 ys).1,
        (yieldLines (yieldLines decoder xs).2 ys).2) := by
  induction xs generalizing decoder with
  | nil => simp [yieldLines]
  | cons x xs ih => simp [yieldLines, ih]

/-- The lines of a payload that is decoded for itself. -/
def linesOf (payload : List UInt8) : List String :=
  payloadLines (TextDecoder.new.decode payload false).1

/-- The lines of the frames, when the decoder holds a part of a character at first. -/
def streamLines (cut : Utf8Decoder) : List DockerFrame → List String
  | [] => []
  | frame :: frames =>
      let text := (cut.run frame.payload).2 ++ (cut.run frame.payload).1.flush
      payloadLines text ++ frames.flatMap fun frame => linesOf frame.payload

lemma yieldLines_of_flushed {decoder : TextDecoder} (h : decoder.doNotFlush = false)
    (payloads : List (List UInt8)) :
      (yieldLines decoder payloads).1 = payloads.flatMap linesOf := by
  induction payloads generalizing decoder with
  | nil => rfl
  | cons payload payloads ih =>
      have hdecode : decoder.decode payload false = TextDecoder.new.decode payload false := by
        simp [TextDecoder.decode, h, TextDecoder.new]
      simp only [yieldLines, hdecode, List.flatMap_cons]
      rw [ih rfl, linesOf]

lemma yieldLines_eq_streamLines (cut : Utf8Decoder) (frames : List DockerFrame) :
    (yieldLines ⟨true, true, cut⟩ (frames.map DockerFrame.payload)).1 = streamLines cut frames := by
  cases frames with
  | nil => rfl
  | cons frame frames =>
      have hflushed : (TextDecoder.decode ⟨true, true, cut⟩ frame.payload false).2.doNotFlush =
          false := rfl
      have hrest := yieldLines_of_flushed hflushed (frames.map DockerFrame.payload)
      simp only [List.map_cons, yieldLines, hrest, streamLines, List.flatMap_map]
      simp [TextDecoder.decode, TextDecoder.serialized]

/-! ## Reads of frames -/

lemma readFrames_eq (decoder : TextDecoder) {rawBuffer : List UInt8} (h : IsFront rawBuffer) :
    LogReader.readFrames ⟨decoder, rawBuffer, true⟩ =
      ((yieldLines decoder (frameParser.drain rawBuffer).1).1,
        .awaits ⟨(yieldLines decoder (frameParser.drain rawBuffer).1).2,
          (frameParser.drain rawBuffer).2, true⟩) := by
  have hloop : drainLoop nextFrame (rawBuffer.length + 1) rawBuffer =
      some (frameParser.drain rawBuffer) := by
    refine frameParser.drainLoop_eq_drain (I := IsFront) ?_ ?_ (by omega) h
    · intro buffer hfront
      exact nextFrame_eq hfront
    · intro buffer payload rest hfront hnext
      exact hfront.of_frontFrame hnext
  simp only [LogReader.readFrames, hloop]

variable (containerName : String)

/-- Behind the head, the frames of all reads come out. -/
lemma readAll_of_headersParsed (decoder : TextDecoder) {buffer : List UInt8}
    {chunks : List (List UInt8)} (hfront : IsFront (buffer ++ chunks.flatten))
    (hnone : frameParser.next buffer = none) :
    LogReader.readAll containerName ⟨decoder, buffer, true⟩ chunks =
      ((yieldLines decoder (frameParser.feed buffer chunks).1).1,
        .awaits ⟨(yieldLines decoder (frameParser.feed buffer chunks).1).2,
          (frameParser.feed buffer chunks).2, true⟩) := by
  induction chunks generalizing decoder buffer with
  | nil => rfl
  | cons chunk chunks ih =>
      rw [List.flatten_cons, ← List.append_assoc] at hfront
      have hread : LogReader.read containerName ⟨decoder, buffer, true⟩ chunk =
          LogReader.readFrames ⟨decoder, buffer ++ chunk, true⟩ := by
        simp [LogReader.read]
      simp only [LogReader.readAll, hread, readFrames_eq decoder hfront.of_append]
      rw [ih _ hfront.drain (frameParser.next_drain _)]
      simp only [ItemParser.feed, yieldLines_append]

/-! ## Reads of the head -/

lemma length_le_of_indexOf {pattern text : List Char} {i : ℕ} (h : indexOf pattern text = some i) :
    i + pattern.length ≤ text.length := by
  induction text generalizing i with
  | nil =>
      simp only [indexOf, List.isEmpty_iff] at h
      split at h
      · next hnil =>
          obtain rfl := Option.some.inj h
          simp [hnil]
      · simp at h
  | cons c text ih =>
      rw [indexOf] at h
      split at h
      · next hbegins =>
          obtain rfl := Option.some.inj h
          have hle := (List.isPrefixOf_iff_prefix.mp hbegins).length_le
          omega
      · obtain ⟨j, hj, rfl⟩ := Option.map_eq_some_iff.mp h
        have hle := ih hj
        simp only [List.length_cons]
        omega

lemma indexOf_append {pattern text : List Char} {i : ℕ} (more : List Char)
    (h : indexOf pattern text = some i) : indexOf pattern (text ++ more) = some i := by
  induction text generalizing i with
  | nil =>
      simp only [indexOf, List.isEmpty_iff] at h
      split at h
      · next hnil =>
          subst hnil
          obtain rfl := Option.some.inj h
          cases more <;> simp [indexOf]
      · simp at h
  | cons c text ih =>
      have hle := length_le_of_indexOf h
      rw [indexOf] at h
      rw [List.cons_append, indexOf]
      split at h
      · next hbegins =>
          obtain rfl := Option.some.inj h
          have hmore : pattern.isPrefixOf (c :: (text ++ more)) = true := by
            rw [List.isPrefixOf_iff_prefix] at hbegins ⊢
            exact hbegins.trans (List.prefix_append (c :: text) more)
          rw [if_pos hmore]
      · next hnot =>
          obtain ⟨j, hj, rfl⟩ := Option.map_eq_some_iff.mp h
          have hmore : ¬pattern.isPrefixOf (c :: (text ++ more)) = true := by
            intro hbegins
            refine hnot (List.isPrefixOf_iff_prefix.mpr ?_)
            rw [List.isPrefixOf_iff_prefix] at hbegins
            exact List.prefix_of_prefix_length_le hbegins (List.prefix_append (c :: text) more)
              (by omega)
          rw [if_neg hmore, ih hj, Option.map_some]

/-- What comes before the end of the first occurrence has none. -/
lemma indexOf_of_prefix {pattern front text : List Char} {i : ℕ}
    (h : indexOf pattern text = some i) (hfront : front <+: text)
    (hlength : front.length < i + pattern.length) : indexOf pattern front = none := by
  obtain ⟨more, rfl⟩ := hfront
  cases hfound : indexOf pattern front with
  | none => rfl
  | some j =>
      have hle := length_le_of_indexOf hfound
      have heq : j = i := Option.some.inj ((indexOf_append more hfound).symm.trans h)
      omega

lemma utf8Length_ascii {text : List Char} (h : ∀ c ∈ text, c.toNat < 128) :
    utf8Length text = text.length := by
  induction text with
  | nil => rfl
  | cons c text ih =>
      obtain ⟨hc, htext⟩ := List.forall_mem_cons.mp h
      have hsize : c.utf8Size = 1 := by
        rw [Char.utf8Size_eq_one_iff, UInt32.le_iff_toNat_le]
        show c.toNat ≤ 127
        omega
      have hrest := ih htext
      simp only [utf8Length, List.map_cons, List.sum_cons, List.length_cons, hsize] at hrest ⊢
      omega

/-- The decoder has not been used, or holds no part of a character. -/
def IsWhole (decoder : TextDecoder) : Prop :=
  (if decoder.doNotFlush then decoder else .new).utf8 = Utf8Decoder.initial

lemma serialized_ascii {bomSeen : Bool} {c : Char} (h : c.toNat < 128) (text : List Char) :
    TextDecoder.serialized bomSeen (c :: text) = c :: text := by
  have hne : c ≠ Utf8Decoder.byteOrderMark := by
    rintro rfl
    exact absurd h (by decide)
  simp [TextDecoder.serialized, hne]

/-- A text in ASCII, and what comes in along with it. -/
lemma decode_ascii {decoder : TextDecoder} (hwhole : IsWhole decoder) {text : List Char}
    (hascii : ∀ c ∈ text, c.toNat < 128) (hne : text ≠ []) (more : List UInt8) :
    decoder.decode ((text.map fun c => UInt8.ofNat c.toNat) ++ more) true =
      (text ++ (Utf8Decoder.initial.run more).2,
        ⟨true, true, (Utf8Decoder.initial.run more).1⟩) := by
  obtain ⟨c, text, rfl⟩ := List.exists_cons_of_ne_nil hne
  have hc : c.toNat < 128 := hascii c List.mem_cons_self
  unfold IsWhole at hwhole
  simp only [TextDecoder.decode, hwhole, Utf8Decoder.run_append, Utf8Decoder.run_ascii hascii,
    if_true, List.cons_append, serialized_ascii hc]
  simp

lemma decode_nil {decoder : TextDecoder} (hwhole : IsWhole decoder) :
    ∃ decoder', decoder.decode [] true = ([], decoder') ∧ IsWhole decoder' := by
  unfold IsWhole at hwhole
  refine ⟨_, by simp [TextDecoder.decode, TextDecoder.serialized]; rfl, ?_⟩
  simpa [IsWhole] using hwhole

/-- What has come in after the read that completes the first `n` bytes. -/
def receivedWith (n : ℕ) (received : List UInt8) : List (List UInt8) → List UInt8
  | [] => received
  | chunk :: chunks =>
      if n ≤ (received ++ chunk).length then received ++ chunk
      else receivedWith n (received ++ chunk) chunks

/-- The part of a character with which the read ends that completes the head. -/
def cutCharacter (head : ResponseHead) (received : List UInt8) (chunks : List (List UInt8)) :
    Utf8Decoder :=
  (Utf8Decoder.initial.run
    ((receivedWith head.bytes.length received chunks).drop head.bytes.length)).1

lemma decode_front {decoder : TextDecoder} (hwhole : IsWhole decoder) {text : List Char}
    (hascii : ∀ c ∈ text, c.toNat < 128) :
    ∃ decoder', decoder.decode (text.map fun c => UInt8.ofNat c.toNat) true = (text, decoder') ∧
      IsWhole decoder' := by
  by_cases hne : text = []
  · subst hne
    exact decode_nil hwhole
  · have hdecode := decode_ascii hwhole hascii hne []
    rw [List.append_nil, Utf8Decoder.run_nil, List.append_nil] at hdecode
    exact ⟨_, hdecode, rfl⟩

/-- A read with which the head is not complete. -/
lemma read_of_short {head : ResponseHead} {decoder : TextDecoder} (hwhole : IsWhole decoder)
    {received chunk : List UInt8} (hbegins : received ++ chunk <+: head.bytes)
    (hshort : (received ++ chunk).length < head.bytes.length) :
    ∃ decoder', LogReader.read containerName ⟨decoder, received, false⟩ chunk =
      ([], .awaits ⟨decoder', received ++ chunk, false⟩) ∧ IsWhole decoder' := by
  obtain ⟨text, htext, hbytes⟩ : ∃ text, text <+: head.text ∧
      received ++ chunk = text.map fun c => UInt8.ofNat c.toNat := by
    refine ⟨head.text.take (received ++ chunk).length, List.take_prefix _ _, ?_⟩
    rw [List.map_take]
    exact List.prefix_iff_eq_take.mp hbegins
  have hascii : ∀ c ∈ text, c.toNat < 128 := fun c hc => head.ascii_text c (htext.subset hc)
  obtain ⟨decoder', hdecode, hwhole'⟩ := decode_front hwhole hascii
  have hnone : indexOf blankLine text = none := by
    apply indexOf_of_prefix head.indexOf_blankLine htext
    rw [hbytes, List.length_map, head.length_bytes] at hshort
    exact hshort
  refine ⟨decoder', ?_, hwhole'⟩
  simp [LogReader.read, hbytes, hdecode, hnone]

/-- The read that completes the head. -/
lemma read_of_complete {head : ResponseHead} {decoder : TextDecoder} (hwhole : IsWhole decoder)
    {received chunk more : List UInt8} (hbytes : received ++ chunk = head.bytes ++ more) :
    LogReader.read containerName ⟨decoder, received, false⟩ chunk =
      LogReader.readFrames ⟨⟨true, true, (Utf8Decoder.initial.run more).1⟩, more, true⟩ := by
  have hne : head.text ≠ [] := by simp [ResponseHead.text, blankLine]
  have hdecode := decode_ascii hwhole head.ascii_text hne more
  have hindex := indexOf_append (Utf8Decoder.initial.run more).2 head.indexOf_blankLine
  obtain ⟨statusCode, hstatus, hok⟩ := head.isOk
  have hlength : utf8Length head.text = head.bytes.length := by
    rw [utf8Length_ascii head.ascii_text, ResponseHead.bytes, List.length_map]
  have hsection : (head.text ++ (Utf8Decoder.initial.run more).2).take
      head.headerSection.length = head.headerSection := by
    simp [ResponseHead.text]
  have hhead : (head.text ++ (Utf8Decoder.initial.run more).2).take
      (head.headerSection.length + 4) = head.text := by
    have hfour : head.headerSection.length + 4 = head.text.length := by
      simp [ResponseHead.text, blankLine]
    rw [hfour, List.take_left]
  rw [show head.headerSection ++ blankLine = head.text from rfl] at hindex
  simp only [LogReader.read, hbytes, ResponseHead.bytes, hdecode, hindex, hsection, hstatus,
    if_neg (Nat.not_le.mpr hok), hhead, hlength]
  simp

lemma readAll_of_head {head : ResponseHead} {decoder : TextDecoder} (hwhole : IsWhole decoder)
    {received stream : List UInt8} {chunks : List (List UInt8)}
    (hchunks : received ++ chunks.flatten = head.bytes ++ stream)
    (hshort : received.length < head.bytes.length) (hfront : IsFront stream) :
    let lines :=
      yieldLines ⟨true, true, cutCharacter head received chunks⟩ (frameParser.drain stream).1
    LogReader.readAll containerName ⟨decoder, received, false⟩ chunks =
      (lines.1, .awaits ⟨lines.2, (frameParser.drain stream).2, true⟩) := by
  induction chunks generalizing decoder received with
  | nil =>
      have hlength := congrArg List.length hchunks
      simp only [List.flatten_nil, List.append_nil, List.length_append] at hlength
      omega
  | cons chunk chunks ih =>
      rw [List.flatten_cons, ← List.append_assoc] at hchunks
      by_cases hlong : head.bytes.length ≤ (received ++ chunk).length
      · obtain ⟨more, hmore⟩ : head.bytes <+: received ++ chunk :=
          List.prefix_of_prefix_length_le (hchunks ▸ List.prefix_append _ stream)
            (List.prefix_append _ chunks.flatten) hlong
        have hstream : stream = more ++ chunks.flatten := by
          rw [← hmore, List.append_assoc] at hchunks
          exact (List.append_cancel_left hchunks).symm
        have hcut : cutCharacter head received (chunk :: chunks) =
            (Utf8Decoder.initial.run more).1 := by
          rw [cutCharacter, receivedWith, if_pos hlong, ← hmore, List.drop_left]
        rw [hcut]
        subst hstream
        simp only [LogReader.readAll, read_of_complete containerName hwhole hmore.symm,
          readFrames_eq _ hfront.of_append]
        rw [readAll_of_headersParsed containerName _ hfront.drain (frameParser.next_drain _),
          frameParser.feed_drain _ _ (frameParser.next_drain _), frameParser.drain_append more]
        simp only [yieldLines_append]
      · have hbegins : received ++ chunk <+: head.bytes :=
          List.prefix_of_prefix_length_le (List.prefix_append _ chunks.flatten)
            (hchunks ▸ List.prefix_append _ stream) (by omega)
        obtain ⟨decoder', hread, hwhole'⟩ :=
          read_of_short containerName hwhole hbegins (by omega)
        have hcut : cutCharacter head received (chunk :: chunks) =
            cutCharacter head (received ++ chunk) chunks := by
          rw [cutCharacter, receivedWith, if_neg hlong, cutCharacter]
        simp only [LogReader.readAll, hread, hcut, ih hwhole' hchunks (by omega)]
        simp

/-- **However the response is cut into reads, the lines of its frames are yielded**, each once and
in their order, and an incomplete frame stays in the buffer.  The cut shows in the first frame only,
and only when the read that completes the head ends within a character. -/
theorem readAll_frames (containerName : String) (head : ResponseHead) (frames : List DockerFrame)
    (incomplete : List UInt8) (chunks : List (List UInt8)) (hincomplete : IsIncomplete incomplete)
    (hchunks : chunks.flatten =
      head.bytes ++ (frames.flatMap DockerFrame.bytes ++ incomplete)) :
    ∃ decoder, LogReader.initial.readAll containerName chunks =
      (streamLines (cutCharacter head [] chunks) frames, .awaits ⟨decoder, incomplete, true⟩) := by
  have hshort : ([] : List UInt8).length < head.bytes.length := by
    rw [head.length_bytes, List.length_nil]
    omega
  have hwrite : ∀ (frame : DockerFrame) (more : List UInt8),
      frameParser.next (frame.bytes ++ more) = some (frame.payload, more) := frontFrame_bytes
  have hdrain := ItemParser.drain_flatMap hwrite frames (frontFrame_of_isIncomplete hincomplete)
  have hwhole : IsWhole .new := rfl
  have hread := readAll_of_head containerName hwhole hchunks hshort
    (isFront_frames frames hincomplete)
  simp only [hdrain, yieldLines_eq_streamLines] at hread
  exact ⟨_, hread⟩

/-- Two frames, in three reads: the head and the first frame are cut. -/
theorem readAll_frames_inThree :
    ∃ decoder, LogReader.initial.readAll "steve"
      [[72, 84, 84, 80, 47, 49, 46, 49, 32], [50, 48, 48, 13, 10, 13, 10, 1, 0, 0, 0, 0, 0, 0, 3],
        [111, 107, 10, 2, 0, 0, 0, 0, 0, 0, 1, 33, 1]] =
      (["ok", "!"], .awaits ⟨decoder, [1], true⟩) := by
  have hincomplete : IsIncomplete [1] :=
    ⟨⟨1, [], by decide⟩, [0, 0, 0, 0, 0, 0, 0], by decide, by decide⟩
  obtain ⟨decoder, hread⟩ := readAll_frames "steve"
    ⟨['H', 'T', 'T', 'P', '/', '1', '.', '1', ' ', '2', '0', '0'], by simp, by decide,
      ['2', '0', '0'], by decide, by decide⟩
    [⟨1, [111, 107, 10], by decide⟩, ⟨2, [33], by decide⟩] [1]
    [[72, 84, 84, 80, 47, 49, 46, 49, 32], [50, 48, 48, 13, 10, 13, 10, 1, 0, 0, 0, 0, 0, 0, 3],
      [111, 107, 10, 2, 0, 0, 0, 0, 0, 0, 1, 33, 1]] hincomplete (by decide)
  refine ⟨decoder, hread.trans ?_⟩
  have hlines : streamLines .initial
      [⟨1, [111, 107, 10], by decide⟩, ⟨2, [33], by decide⟩] = ["ok", "!"] := by
    rfl
  rw [← hlines]
  rfl

end ExpresSync
