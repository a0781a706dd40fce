import ExpresSync.Model.DeviceLogs

/-!
# What the acknowledged number covers

A device drops its records up to the acknowledged number, so these have to be stored.  The number
is the greatest one that went through, whatever became of the records below it.
-/

namespace ExpresSync

variable {J : Type*} {deviceId : String} {nowMs : ℤ} {table : LogTable J}
  {logs : List (OTelLogRecord J × Bool)}

/-- The statement of a record with the number `seq` goes through, as an insert or a duplicate. -/
def GoesThrough (deviceId : String) (nowMs : ℤ) (record : OTelLogRecord J × Bool) (seq : ℤ) :
    Prop :=
  extractSeq record.1 = some seq ∧ record.2 = false ∧
    (record.1.row deviceId seq nowMs).fits = true

instance (deviceId : String) (nowMs : ℤ) (record : OTelLogRecord J × Bool) (seq : ℤ) :
    Decidable (GoesThrough deviceId nowMs record seq) :=
  inferInstanceAs (Decidable (_ ∧ _ ∧ _))

/-- Some record with the number `seq` goes through. -/
def Through (deviceId : String) (nowMs : ℤ) (logs : List (OTelLogRecord J × Bool)) (seq : ℤ) :
    Prop :=
  ∃ record ∈ logs, GoesThrough deviceId nowMs record seq

instance (deviceId : String) (nowMs : ℤ) (logs : List (OTelLogRecord J × Bool)) (seq : ℤ) :
    Decidable (Through deviceId nowMs logs seq) :=
  inferInstanceAs (Decidable (∃ record ∈ logs, _))

/-- Each record up to the acknowledged number is stored. -/
def AcksStored (deviceId : String) (nowMs : ℤ) (table : LogTable J)
    (logs : List (OTelLogRecord J × Bool)) : Prop :=
  let ingest := ingestLogs deviceId nowMs table logs
  ∀ record ∈ logs, ∀ seq ∈ extractSeq record.1, ∀ acked ∈ ingest.logsAckedSeq, seq ≤ acked →
    ingest.table.Has (deviceId, seq)

/-! ## One record -/

lemma insertRecord_of_not {ingest : LogIngest J} {record : OTelLogRecord J × Bool}
    (h : ∀ seq, ¬GoesThrough deviceId nowMs record seq) :
    ingest.insertRecord deviceId nowMs record = ingest := by
  unfold LogIngest.insertRecord
  dsimp only
  split
  · rfl
  · next seq hseq =>
    refine if_pos ?_
    have hnot := h seq
    simp only [GoesThrough, hseq, true_and, not_and, Bool.not_eq_true] at hnot
    cases hfails : record.2 with
    | true => rfl
    | false => simp [hnot hfails]

lemma insertRecord_of_goesThrough (ingest : LogIngest J) {record : OTelLogRecord J × Bool} {seq : ℤ}
    (h : GoesThrough deviceId nowMs record seq) :
    (ingest.insertRecord deviceId nowMs record).logsAckedSeq = ackSeq ingest.logsAckedSeq seq ∧
      ∀ id, (ingest.insertRecord deviceId nowMs record).table.Has id ↔
        ingest.table.Has id ∨ id = (deviceId, seq) := by
  obtain ⟨hseq, hfails, hfits⟩ := h
  unfold LogIngest.insertRecord
  simp only [hseq, hfails, hfits, Bool.not_true, Bool.or_self, Bool.false_eq_true, if_false]
  split
  · next hhas =>
    refine ⟨rfl, fun id => ⟨Or.inl, ?_⟩⟩
    rintro (hold | rfl)
    · exact hold
    · exact hhas
  · exact ⟨rfl, fun id => KeyedLog.has_record⟩

/-- A number is covered by what is acknowledged. -/
def IsCovered (acked : Option ℤ) (seq : ℤ) : Prop := ∃ n ∈ acked, seq ≤ n

lemma isCovered_ackSeq {acked : Option ℤ} {seq n : ℤ} :
    IsCovered (ackSeq acked seq) n ↔ IsCovered acked n ∨ n ≤ seq := by
  unfold ackSeq IsCovered
  cases acked with
  | none => simp
  | some old =>
      dsimp only
      split
      · next hlt =>
        simp only [Option.mem_some_iff, exists_eq_left']
        exact ⟨Or.inr, fun h => h.elim (fun hold => hold.trans hlt.le) id⟩
      · next hle =>
        simp only [Option.mem_some_iff, exists_eq_left']
        exact ⟨Or.inl, fun h => h.elim id fun hseq => hseq.trans (not_lt.mp hle)⟩

/-! ## The loop -/

lemma through_cons {record : OTelLogRecord J × Bool} {seq : ℤ} :
    Through deviceId nowMs (record :: logs) seq ↔
      GoesThrough deviceId nowMs record seq ∨ Through deviceId nowMs logs seq := by
  simp [Through]

lemma seq_unique {record : OTelLogRecord J × Bool} {seq seq' : ℤ}
    (h : GoesThrough deviceId nowMs record seq) (h' : GoesThrough deviceId nowMs record seq') :
    seq' = seq := Option.some.inj (h'.1.symm.trans h.1)

/-- What is stored, and what is acknowledged, after a list of records. -/
lemma foldl_insertRecord (deviceId : String) (nowMs : ℤ) (ingest : LogIngest J)
    (logs : List (OTelLogRecord J × Bool)) :
    (∀ id, (logs.foldl (LogIngest.insertRecord deviceId nowMs) ingest).table.Has id ↔
        ingest.table.Has id ∨ id.1 = deviceId ∧ Through deviceId nowMs logs id.2) ∧
      ∀ n, IsCovered (logs.foldl (LogIngest.insertRecord deviceId nowMs) ingest).logsAckedSeq n ↔
        IsCovered ingest.logsAckedSeq n ∨ ∃ seq, Through deviceId nowMs logs seq ∧ n ≤ seq := by
  induction logs generalizing ingest with
  | nil => simp [Through]
  | cons record logs ih =>
      obtain ⟨hhas, hcovered⟩ := ih (ingest.insertRecord deviceId nowMs record)
      rw [List.foldl_cons]
      by_cases hthrough : ∃ seq, GoesThrough deviceId nowMs record seq
      · obtain ⟨seq, hseq⟩ := hthrough
        obtain ⟨hacked, htable⟩ := insertRecord_of_goesThrough ingest hseq
        have hiff : ∀ n, GoesThrough deviceId nowMs record n ↔ n = seq := fun n =>
          ⟨seq_unique hseq, fun h => h ▸ hseq⟩
        constructor
        · intro id
          rw [hhas, htable, through_cons, hiff, Prod.ext_iff]
          tauto
        · intro n
          simp only [hcovered, hacked, isCovered_ackSeq, through_cons, hiff, or_and_right,
            exists_or, exists_eq_left, or_assoc]
      · have hnot : ∀ seq, ¬GoesThrough deviceId nowMs record seq := not_exists.mp hthrough
        rw [insertRecord_of_not hnot] at hhas hcovered ⊢
        simp only [hhas, hcovered, through_cons, hnot, false_or, implies_true, and_self]

namespace Scenario

def numberedLog (seq : String) : OTelLogRecord Unit :=
  ⟨1000000, "INFO", 9, "tap", [("expressync.seq", .string seq)], [], none, none⟩

/-- The statement of the first of two records throws. -/
def skippedLog : List (OTelLogRecord Unit × Bool) :=
  [(numberedLog "41", true), (numberedLog "42", false)]

end Scenario

open Scenario

end ExpresSync
