import ExpresSync.Foundation.Transition
import ExpresSync.Model.SseConnections
import Mathlib.Data.List.Nodup

/-!
# How many streams an address may have

The counter of an address is to say how many of its streams are open.  It does as long as no
request writes a count that has changed since it was read, and no stream is closed without giving
its slot back (`limitExact_iff`): `cleanup` does nothing for a stream that a failed write has
closed, and a device that connects again has its old stream cleaned up between the two.
-/

namespace ExpresSync

open Transition

variable {w w' : SlotWorld} {ip : String} {route : StreamRoute}

/-- The stream is open, and takes a slot of the address. -/
def SlotStream.holds (ip : String) (stream : SlotStream) : Bool :=
  decide (stream.ip = ip) && !stream.closed

namespace SlotWorld

/-- The open streams of the address. -/
def openCount (w : SlotWorld) (ip : String) : ℕ := w.streams.countP (SlotStream.holds ip)

def count (w : SlotWorld) (ip : String) : ℕ := (w.concurrentByIp ip).getD 0

def holdsSlot (w : SlotWorld) (ip : String) (i : ℕ) : Bool :=
  w.streams[i]?.any (SlotStream.holds ip)

/-- The request has the stream closed when it opens its own. -/
def replaces (w : SlotWorld) (route : StreamRoute) (req : SlotRequest) (stream : SlotStream) :
    Bool :=
  match route with
  | .scanDetect => false
  | .scanStream =>
      decide (stream.deviceId = req.deviceId) && (w.activeByDevice req.deviceId).isSome

end SlotWorld

/-- The counter of the address is the number of its open streams, and within the limit; without
open streams there is none, or it is zero. -/
def LimitExact (ip : String) (w : SlotWorld) : Prop :=
  w.count ip = w.openCount ip ∧ w.count ip ≤ maxConcurrentPerIp ∧
    (w.openCount ip = 0 → w.concurrentByIp ip = none ∨ w.concurrentByIp ip = some 0)

instance (ip : String) (w : SlotWorld) : Decidable (LimitExact ip w) :=
  inferInstanceAs (Decidable (_ ∧ _ ∧ _))

/-- A request of the address has read the number of those of its streams that stay open; and
nothing that is written to an open stream of the address, a last event included, fails. -/
def KeepsCount (route : StreamRoute) (ip : String) (w : SlotWorld) : SlotAction → Prop
  | .opens i ok => ∀ req ∈ w.requests[i]?,
      if req.ip = ip then
        req.cur = w.streams.countP fun stream =>
          stream.holds ip && !w.replaces route req stream
      else
        ∀ j, ∀ stream ∈ w.streams[j]?, stream.holds ip = true →
          w.replaces route req stream = true → ok j = true
  | .writes i ok | .ends i ok => w.holdsSlot ip i = true → ok = true
  | .requests .. | .refuses _ | .leaves _ => True

/-- The active stream of a device is one of its streams. -/
def ActiveNamed (w : SlotWorld) : Prop :=
  ∀ deviceId i, w.activeByDevice deviceId = some i →
    ∃ stream ∈ w.streams[i]?, stream.deviceId = deviceId

lemma limitExact_iff_count :
    LimitExact ip w ↔ w.count ip = w.openCount ip ∧ w.openCount ip ≤ maxConcurrentPerIp := by
  constructor
  · rintro ⟨hcount, hlimit, -⟩
    exact ⟨hcount, hcount ▸ hlimit⟩
  · rintro ⟨hcount, hlimit⟩
    refine ⟨hcount, hcount.symm ▸ hlimit, fun hnone => ?_⟩
    rw [hnone, SlotWorld.count] at hcount
    cases hslot : w.concurrentByIp ip with
    | none => exact Or.inl rfl
    | some n =>
        rw [hslot, Option.getD_some] at hcount
        exact Or.inr (by rw [hcount])

/-! ## Closing streams -/

lemma SlotStream.close_of_closed {stream : SlotStream} (h : stream.closed = true) :
    stream.close = stream := by
  cases stream
  simp only [SlotStream.close] at *
  rw [h]

lemma SlotStream.holds_close (stream : SlotStream) : stream.close.holds ip = false := by
  rw [SlotStream.holds, SlotStream.close, Bool.not_true, Bool.and_false]

lemma getElem?_modify_close (streams : List SlotStream) (i j : ℕ) :
    (streams.modify i SlotStream.close)[j]? =
      if i = j then streams[j]?.map SlotStream.close else streams[j]? := by
  rw [List.getElem?_modify]
  by_cases hij : i = j
  · simp only [if_pos hij, Option.map_eq_map]
  · simp only [if_neg hij, Option.map_eq_map, Option.map_id']

lemma any_holds_close (stream : Option SlotStream) :
    (stream.map SlotStream.close).any (SlotStream.holds ip) = false := by
  cases stream with
  | none => rfl
  | some stream => exact stream.holds_close

variable (ip) in
/-- One stream less is open when one is closed that was open. -/
lemma countP_modify_close (streams : List SlotStream) (i : ℕ) :
    (streams.modify i SlotStream.close).countP (SlotStream.holds ip) +
        (streams[i]?.any (SlotStream.holds ip)).toNat =
      streams.countP (SlotStream.holds ip) := by
  induction streams generalizing i with
  | nil => rw [List.modify_nil, List.getElem?_nil, Option.any_none, Bool.toNat_false, Nat.add_zero]
  | cons stream rest ih =>
      cases i with
      | zero =>
          rw [List.modify_zero_cons, List.countP_cons, List.countP_cons, SlotStream.holds_close,
            List.getElem?_cons_zero, Option.any_some]
          cases stream.holds ip <;> rfl
      | succ i =>
          rw [List.modify_succ_cons, List.countP_cons, List.countP_cons, List.getElem?_cons_succ,
            ← ih i]
          omega

section Steps

open SlotWorld

lemma cleanup_streams (i : ℕ) : (w.cleanup i).streams = w.streams.modify i SlotStream.close := by
  unfold SlotWorld.cleanup
  split
  · next hnone => rw [List.modify_eq_self (List.getElem?_eq_none_iff.mp hnone)]
  · next stream hstream =>
    split
    · next hclosed =>
      refine List.ext_getElem? fun j => ?_
      rw [getElem?_modify_close]
      split
      · next hj =>
        subst hj
        rw [hstream, Option.map_some, SlotStream.close_of_closed hclosed]
      · rfl
    · rfl

lemma releaseSlot_getD : (w.releaseSlot ip).getD 0 = w.count ip - 1 := by
  rw [SlotWorld.releaseSlot, SlotWorld.count]
  cases w.concurrentByIp ip with
  | none => rfl
  | some n =>
      dsimp only [Option.getD_some]
      split
      · next hzero => rw [hzero, Option.getD_none]
      · rfl

/-- The counter goes down when an open stream of the address is cleaned up. -/
lemma cleanup_count (i : ℕ) :
    (w.cleanup i).count ip = w.count ip - (w.holdsSlot ip i).toNat := by
  rw [holdsSlot, SlotWorld.cleanup]
  cases hstream : w.streams[i]? with
  | none => rfl
  | some stream =>
      rw [Option.any_some, SlotStream.holds]
      dsimp only
      by_cases hclosed : stream.closed = true
      · rw [if_pos hclosed, hclosed, Bool.not_true, Bool.and_false]
        rfl
      · rw [if_neg hclosed, Bool.eq_false_iff.mpr hclosed, Bool.not_false, Bool.and_true]
        show (Function.update w.concurrentByIp stream.ip (w.releaseSlot stream.ip) ip).getD 0 =
          w.count ip - (decide (stream.ip = ip)).toNat
        by_cases hip : stream.ip = ip
        · rw [decide_eq_true hip, hip, Function.update_self, releaseSlot_getD, Bool.toNat_true]
        · rw [decide_eq_false hip, Function.update_of_ne (Ne.symm hip), Bool.toNat_false,
            Nat.sub_zero, SlotWorld.count]

lemma cleanup_of_not_holds {i : ℕ} (h : ∀ stream ∈ w.streams[i]?, stream.closed = true) :
    w.cleanup i = w := by
  unfold SlotWorld.cleanup
  split
  · rfl
  · next stream hstream => rw [if_pos (h stream hstream)]

lemma safeEnqueue_streams (i : ℕ) (ok : Bool) :
    (w.safeEnqueue i ok).streams = if ok then w.streams else w.streams.modify i
      SlotStream.close := by
  cases ok <;> rfl

lemma safeEnqueue_count (i : ℕ) (ok : Bool) : (w.safeEnqueue i ok).count ip = w.count ip := by
  cases ok <;> rfl

variable (ip) in
lemma openCount_modify {i : ℕ} (h : w'.streams = w.streams.modify i SlotStream.close) :
    w'.openCount ip + (w.holdsSlot ip i).toNat = w.openCount ip := by
  rw [openCount, h]
  exact countP_modify_close ip w.streams i

lemma finish_streams (i : ℕ) (ok : Bool) :
    (w.finish i ok).streams = w.streams.modify i SlotStream.close := by
  rw [finish, cleanup_streams, safeEnqueue_streams]
  cases ok with
  | true => rfl
  | false =>
      refine List.ext_getElem? fun j => ?_
      rw [if_neg Bool.false_ne_true, getElem?_modify_close, getElem?_modify_close]
      by_cases hij : i = j
      · rw [if_pos hij, if_pos hij, Option.map_map]
        rfl
      · rw [if_neg hij]

variable (ip) in
/-- A stream whose last event cannot be written keeps its slot. -/
lemma finish_count (i : ℕ) (ok : Bool) :
    (w.finish i ok).count ip = w.count ip - (ok && w.holdsSlot ip i).toNat := by
  rw [finish, cleanup_count, safeEnqueue_count]
  cases ok with
  | true => rfl
  | false =>
      rw [Bool.false_and, holdsSlot, safeEnqueue_streams, if_neg Bool.false_ne_true,
        getElem?_modify_close, if_pos rfl, any_holds_close]

/-! ## Several streams -/

lemma foldl_finish_streams (ok : ℕ → Bool) (is : List ℕ) (j : ℕ) :
    (is.foldl (fun w i => w.finish i (ok i)) w).streams[j]? =
      if j ∈ is then w.streams[j]?.map SlotStream.close else w.streams[j]? := by
  induction is generalizing w with
  | nil => rw [List.foldl_nil, if_neg List.not_mem_nil]
  | cons i is ih =>
      rw [List.foldl_cons, ih, finish_streams, getElem?_modify_close]
      by_cases hij : i = j
      · subst hij
        rw [if_pos rfl, if_pos List.mem_cons_self, Option.map_map]
        split <;> rfl
      · have hmem : j ∈ i :: is ↔ j ∈ is := by
          rw [List.mem_cons, or_iff_right (Ne.symm hij)]
        simp only [if_neg hij, hmem]

/-- Streams of which the counter has count of all are finished: it stays right when nothing that
is written to one of the address fails. -/
lemma foldl_finish_count (ok : ℕ → Bool) (is : List ℕ) (hle : w.openCount ip ≤ w.count ip) :
    let w' := is.foldl (fun w i => w.finish i (ok i)) w
    w'.openCount ip ≤ w'.count ip ∧
      (w'.count ip = w'.openCount ip ↔ w.count ip = w.openCount ip ∧
        ∀ i ∈ is, w.holdsSlot ip i = true → ok i = true) := by
  induction is generalizing w with
  | nil => exact ⟨hle, (and_iff_left fun i hi => nomatch hi).symm⟩
  | cons i is ih =>
      have hopen := openCount_modify ip (finish_streams (w := w) i (ok i))
      have hcount := finish_count (w := w) ip i (ok i)
      have hslots : ∀ j, (w.finish i (ok i)).holdsSlot ip j = true ↔
          j ≠ i ∧ w.holdsSlot ip j = true := by
        intro j
        rw [holdsSlot, finish_streams, getElem?_modify_close]
        by_cases hij : i = j
        · subst hij
          rw [if_pos rfl, any_holds_close]
          exact iff_of_false Bool.false_ne_true fun h => h.1 rfl
        · rw [if_neg hij, ← holdsSlot, and_iff_right (Ne.symm hij)]
      have hstep : (w.finish i (ok i)).openCount ip ≤ (w.finish i (ok i)).count ip ∧
          ((w.finish i (ok i)).count ip = (w.finish i (ok i)).openCount ip ↔
            w.count ip = w.openCount ip ∧ (w.holdsSlot ip i = true → ok i = true)) := by
        rw [hcount]
        cases hslot : w.holdsSlot ip i <;> cases hok : ok i <;>
          simp only [hslot, hok, Bool.toNat_true, Bool.toNat_false, Bool.and_true, Bool.and_false,
            Bool.false_eq_true, imp_false, not_true, not_false_eq_true,
            forall_const, and_true, and_false, iff_false, IsEmpty.forall_iff] at hopen ⊢ <;> omega
      obtain ⟨hle', hiff⟩ := ih hstep.1
      refine ⟨hle', hiff.trans ?_⟩
      rw [hstep.2, List.forall_mem_cons, and_assoc]
      refine and_congr_right fun _ => and_congr_right fun hfirst => forall₂_congr fun j hj => ?_
      rw [hslots]
      by_cases hij : j = i
      · subst hij
        exact iff_of_true (fun h => absurd rfl h.1) hfirst
      · rw [and_iff_right hij]

lemma mem_streamsOf {deviceId : String} {j : ℕ} :
    j ∈ w.streamsOf deviceId ↔ ∃ stream ∈ w.streams[j]?, stream.deviceId = deviceId := by
  rw [streamsOf, List.mem_filter, List.mem_range, Option.any_eq_true]
  constructor
  · rintro ⟨-, stream, hstream, hdevice⟩
    exact ⟨stream, hstream, of_decide_eq_true hdevice⟩
  · rintro ⟨stream, hstream, hdevice⟩
    obtain ⟨hlt, -⟩ := List.getElem?_eq_some_iff.mp hstream
    exact ⟨hlt, stream, hstream, decide_eq_true hdevice⟩

/-- The active stream is one of those that have been told. -/
lemma kickOff_eq (h : ActiveNamed w) {deviceId : String} {previous : ℕ} (ok : ℕ → Bool)
    (hactive : w.activeByDevice deviceId = some previous) :
    w.kickOff deviceId ok =
      (w.streamsOf deviceId).foldl (fun w i => w.finish i (ok i)) w := by
  rw [kickOff, hactive]
  refine cleanup_of_not_holds fun stream hstream => ?_
  rw [foldl_finish_streams, if_pos (mem_streamsOf.mpr (h deviceId previous hactive))] at hstream
  obtain ⟨old, -, rfl⟩ := Option.map_eq_some_iff.mp hstream
  rfl

variable (ip route) in
/-- The streams that stay open. -/
lemma makeRoom_openCount (h : ActiveNamed w) (req : SlotRequest) (ok : ℕ → Bool) :
    (w.makeRoom route req ok).openCount ip = w.streams.countP fun stream =>
      stream.holds ip && !w.replaces route req stream := by
  have hkeep : w.streams.countP (SlotStream.holds ip) = w.streams.countP fun stream =>
      stream.holds ip && !false := by
    simp only [Bool.not_false, Bool.and_true]
  cases route with
  | scanDetect => exact hkeep
  | scanStream =>
      simp only [makeRoom, replaces]
      cases hactive : w.activeByDevice req.deviceId with
      | none =>
          simp only [Option.isSome_none, Bool.and_false]
          rw [← hkeep, kickOff, hactive, openCount]
      | some previous =>
          have hstreams : (w.kickOff req.deviceId ok).streams = w.streams.map fun stream =>
              if stream.deviceId = req.deviceId then stream.close else stream := by
            refine List.ext_getElem? fun j => ?_
            rw [kickOff_eq h ok hactive, foldl_finish_streams, List.getElem?_map]
            simp only [mem_streamsOf]
            cases w.streams[j]? with
            | none => exact ite_self _
            | some stream =>
                simp only [Option.mem_some_iff, exists_eq_left', Option.map_some]
                split <;> rfl
          rw [openCount, hstreams, List.countP_map]
          refine List.countP_congr fun stream _ => ?_
          rw [Function.comp_apply, Option.isSome_some, Bool.and_true]
          by_cases hdevice : stream.deviceId = req.deviceId
          · rw [if_pos hdevice, SlotStream.holds_close, decide_eq_true hdevice, Bool.not_true,
              Bool.and_false]
          · rw [if_neg hdevice, decide_eq_false hdevice, Bool.not_false, Bool.and_true]

lemma makeRoom_count (h : ActiveNamed w) (req : SlotRequest) (ok : ℕ → Bool)
    (hcount : w.count ip = w.openCount ip) :
    (w.makeRoom route req ok).count ip = (w.makeRoom route req ok).openCount ip ↔
      ∀ j, ∀ stream ∈ w.streams[j]?, stream.holds ip = true →
        w.replaces route req stream = true → ok j = true := by
  cases route with
  | scanDetect => exact iff_of_true hcount fun j stream _ _ hfalse => nomatch hfalse
  | scanStream =>
      simp only [makeRoom, replaces]
      cases hactive : w.activeByDevice req.deviceId with
      | none =>
          have hsame : w.kickOff req.deviceId ok = w := by rw [kickOff, hactive]
          rw [hsame]
          refine iff_of_true hcount fun j stream _ _ hfalse => ?_
          rw [Option.isSome_none, Bool.and_false] at hfalse
          cases hfalse
      | some previous =>
          rw [kickOff_eq h ok hactive, (foldl_finish_count ok _ hcount.ge).2,
            and_iff_right hcount]
          simp only [mem_streamsOf, holdsSlot, Option.any_eq_true, Option.isSome_some,
            Bool.and_true, decide_eq_true_eq]
          constructor
          · intro hok j stream hstream hholds hdevice
            exact hok j ⟨stream, hstream, hdevice⟩ ⟨stream, hstream, hholds⟩
          · rintro hok j ⟨stream, hstream, hdevice⟩ ⟨other, hother, hholds⟩
            obtain rfl := Option.some.inj (hstream.symm.trans hother)
            exact hok j stream hstream hholds hdevice

lemma register_openCount (req : SlotRequest) :
    (w.register route req).openCount ip = w.openCount ip + if req.ip = ip then 1 else 0 := by
  have hstreams : (w.register route req).streams =
      w.streams ++ [⟨req.ip, req.deviceId, false⟩] := rfl
  rw [openCount, hstreams, List.countP_append, List.countP_singleton, SlotStream.holds,
    Bool.not_false, Bool.and_true, openCount]
  simp only [decide_eq_true_eq]

lemma register_count (req : SlotRequest) :
    (w.register route req).count ip = if req.ip = ip then req.cur + 1 else w.count ip := by
  show (Function.update w.concurrentByIp req.ip (some (req.cur + 1)) ip).getD 0 = _
  split
  · next hip => rw [hip, Function.update_self, Option.getD_some]
  · next hip => rw [Function.update_of_ne (Ne.symm hip), SlotWorld.count]

variable (ip route) in
lemma openCount_makeRoom_le (h : ActiveNamed w) (req : SlotRequest) (ok : ℕ → Bool) :
    (w.makeRoom route req ok).openCount ip ≤ w.openCount ip := by
  rw [makeRoom_openCount ip route h]
  exact List.countP_mono_left fun stream _ hboth => ((Bool.and_eq_true _ _).mp hboth).1

/-- The count that is written for a new stream is the right one, or it is not. -/
lemma limitExact_openStream (h : ActiveNamed w) (hlimit : LimitExact ip w) (req : SlotRequest)
    (ok : ℕ → Bool) :
    (if req.ip = ip then
        req.cur = w.streams.countP fun stream => stream.holds ip && !w.replaces route req stream
      else
        ∀ j, ∀ stream ∈ w.streams[j]?, stream.holds ip = true →
          w.replaces route req stream = true → ok j = true) ↔
      LimitExact ip (w.openStream route req ok) := by
  obtain ⟨hcount, hle⟩ := limitExact_iff_count.mp hlimit
  have hroom := makeRoom_openCount ip route h req ok
  rw [limitExact_iff_count, openStream, register_count, register_openCount, ← hroom]
  have hfewer := openCount_makeRoom_le ip route h req ok
  have hfree := req.free
  split
  · constructor <;> intro hcur <;> omega
  · rw [← makeRoom_count h req ok hcount, Nat.add_zero]
    exact (and_iff_left (hfewer.trans hle)).symm

end Steps

/-! ## Runs -/

section Runs

open SlotWorld

lemma ActiveNamed.of_streams {w' : SlotWorld} (h : ActiveNamed w)
    (hactive : ∀ deviceId i, w'.activeByDevice deviceId = some i →
      w.activeByDevice deviceId = some i)
    (hstreams : ∀ (i : ℕ) (stream : SlotStream), stream ∈ w.streams[i]? →
      ∃ stream' ∈ w'.streams[i]?, stream'.deviceId = stream.deviceId) : ActiveNamed w' := by
  intro deviceId i hi
  obtain ⟨stream, hstream, hdevice⟩ := h deviceId i (hactive deviceId i hi)
  obtain ⟨stream', hstream', hdevice'⟩ := hstreams i stream hstream
  exact ⟨stream', hstream', hdevice'.trans hdevice⟩

lemma exists_mem_modify_close {streams : List SlotStream} {i j : ℕ} {stream : SlotStream}
    (hstream : stream ∈ streams[j]?) :
    ∃ stream' ∈ (streams.modify i SlotStream.close)[j]?, stream'.deviceId = stream.deviceId := by
  rw [getElem?_modify_close, hstream]
  split
  · exact ⟨stream.close, rfl, rfl⟩
  · exact ⟨stream, rfl, rfl⟩

lemma ActiveNamed.cleanup (h : ActiveNamed w) (i : ℕ) : ActiveNamed (w.cleanup i) := by
  refine h.of_streams (fun deviceId j hj => ?_) fun j stream hstream => ?_
  · unfold SlotWorld.cleanup at hj
    split at hj
    · exact hj
    · split at hj
      · exact hj
      · dsimp only at hj
        split at hj
        · rw [Function.update_apply] at hj
          split at hj
          · cases hj
          · exact hj
        · exact hj
  · rw [cleanup_streams]
    exact exists_mem_modify_close hstream

lemma ActiveNamed.safeEnqueue (h : ActiveNamed w) (i : ℕ) (ok : Bool) :
    ActiveNamed (w.safeEnqueue i ok) := by
  cases ok with
  | true => exact h
  | false => exact h.of_streams (fun _ _ hj => hj) fun _ _ => exists_mem_modify_close

lemma ActiveNamed.finish (h : ActiveNamed w) (i : ℕ) (ok : Bool) : ActiveNamed (w.finish i ok) :=
  (h.safeEnqueue i ok).cleanup i

lemma ActiveNamed.makeRoom (h : ActiveNamed w) (req : SlotRequest) (ok : ℕ → Bool) :
    ActiveNamed (w.makeRoom route req ok) := by
  cases route with
  | scanDetect => exact h
  | scanStream =>
      simp only [SlotWorld.makeRoom, SlotWorld.kickOff]
      split
      · exact h
      · exact (List.foldlRecOn _ _ h fun w h i _ => h.finish i (ok i)).cleanup _

lemma ActiveNamed.register (h : ActiveNamed w) (req : SlotRequest) :
    ActiveNamed (w.register route req) := by
  intro deviceId i hi
  have hold : w.activeByDevice deviceId = some i →
      ∃ stream ∈ (w.register route req).streams[i]?, stream.deviceId = deviceId := by
    intro hactive
    obtain ⟨stream, hstream, hdevice⟩ := h deviceId i hactive
    obtain ⟨hlt, -⟩ := List.getElem?_eq_some_iff.mp hstream
    refine ⟨stream, ?_, hdevice⟩
    exact (List.getElem?_append_left hlt).trans hstream
  cases route with
  | scanDetect => exact hold hi
  | scanStream =>
      change Function.update w.activeByDevice req.deviceId (some w.streams.length) deviceId =
        some i at hi
      rw [Function.update_apply] at hi
      split at hi
      · next hdevice =>
        obtain rfl := Option.some.inj hi
        exact ⟨_, List.getElem?_concat_length, hdevice.symm⟩
      · exact hold hi

lemma ActiveNamed.step {a : SlotAction} (h : ActiveNamed w) (hstep : w.step route a = some w') :
    ActiveNamed w' := by
  cases a with
  | requests ip deviceId =>
      obtain rfl := Option.some.inj hstep
      unfold SlotWorld.request
      dsimp only
      split
      · exact h
      · exact h
  | refuses i =>
      obtain rfl := Option.some.inj hstep
      exact h
  | opens i ok =>
      obtain ⟨req, -, rfl⟩ := Option.map_eq_some_iff.mp hstep
      exact (ActiveNamed.makeRoom (w := { w with requests := w.requests.eraseIdx i }) h req
        ok).register req
  | writes i ok =>
      obtain rfl := Option.some.inj hstep
      exact h.safeEnqueue i ok
  | ends i ok =>
      obtain rfl := Option.some.inj hstep
      exact h.finish i ok
  | leaves i =>
      obtain rfl := Option.some.inj hstep
      exact h.cleanup i

/-- A slot that is lost makes the count wrong. -/
lemma limitExact_iff_of_lost {lost : Bool} (hlimit : LimitExact ip w)
    (hcount : w'.count ip = w'.openCount ip + lost.toNat)
    (hle : w'.openCount ip ≤ w.openCount ip) : LimitExact ip w' ↔ lost = false := by
  obtain ⟨-, hlimit⟩ := limitExact_iff_count.mp hlimit
  rw [limitExact_iff_count]
  cases lost with
  | true =>
      rw [Bool.toNat_true] at hcount
      refine iff_of_false (fun h => ?_) (by decide)
      omega
  | false =>
      rw [Bool.toNat_false] at hcount
      exact iff_of_true ⟨hcount, hle.trans hlimit⟩ rfl

/-- A slot is lost when the stream that holds it cannot be written to. -/
lemma lost_eq_false_iff {held ok : Bool} : (held && !ok) = false ↔ (held = true → ok = true) := by
  cases held <;> cases ok <;> decide

variable (ip) in
lemma safeEnqueue_openCount (i : ℕ) (ok : Bool) :
    (w.safeEnqueue i ok).openCount ip + (w.holdsSlot ip i && !ok).toNat = w.openCount ip := by
  cases ok with
  | true =>
      rw [Bool.not_true, Bool.and_false, Bool.toNat_false, Nat.add_zero]
      rfl
  | false =>
      rw [Bool.not_false, Bool.and_true]
      exact openCount_modify ip rfl

lemma finish_lost (i : ℕ) (ok : Bool) (hcount : w.count ip = w.openCount ip) :
    (w.finish i ok).count ip =
      (w.finish i ok).openCount ip + (w.holdsSlot ip i && !ok).toNat := by
  have hopen := openCount_modify ip (finish_streams (w := w) i ok)
  rw [finish_count]
  cases hslot : w.holdsSlot ip i with
  | true =>
      rw [hslot, Bool.toNat_true] at hopen
      cases ok with
      | true =>
          show w.count ip - 1 = (w.finish i true).openCount ip + 0
          omega
      | false =>
          show w.count ip - 0 = (w.finish i false).openCount ip + 1
          omega
  | false =>
      rw [hslot, Bool.toNat_false] at hopen
      rw [Bool.and_false, Bool.false_and, Bool.toNat_false]
      omega

/-- The conditions on a step are what keeps the count. -/
lemma keepsCount_iff {a : SlotAction} (hnamed : ActiveNamed w) (hlimit : LimitExact ip w)
    (hstep : w.step route a = some w') : KeepsCount route ip w a ↔ LimitExact ip w' := by
  obtain ⟨hcount, hle⟩ := limitExact_iff_count.mp hlimit
  cases a with
  | requests other deviceId =>
      obtain rfl := Option.some.inj hstep
      refine iff_of_true trivial ?_
      unfold SlotWorld.request
      dsimp only
      split
      · exact hlimit
      · exact hlimit
  | refuses i =>
      obtain rfl := Option.some.inj hstep
      exact iff_of_true trivial hlimit
  | opens i ok =>
      obtain ⟨req, hreq, rfl⟩ := Option.map_eq_some_iff.mp hstep
      refine Iff.trans ?_ (limitExact_openStream
        (w := { w with requests := w.requests.eraseIdx i }) hnamed hlimit req ok)
      simp only [KeepsCount, hreq, Option.mem_some_iff, forall_eq']
      rfl
  | writes i ok =>
      obtain rfl := Option.some.inj hstep
      have hopen := safeEnqueue_openCount (w := w) ip i ok
      rw [KeepsCount, ← lost_eq_false_iff]
      refine (limitExact_iff_of_lost hlimit ?_ (by omega)).symm
      rw [safeEnqueue_count, hcount, hopen]
  | ends i ok =>
      obtain rfl := Option.some.inj hstep
      have hopen := openCount_modify ip (finish_streams (w := w) i ok)
      rw [KeepsCount, ← lost_eq_false_iff]
      exact (limitExact_iff_of_lost hlimit (finish_lost i ok hcount) (by omega)).symm
  | leaves i =>
      obtain rfl := Option.some.inj hstep
      refine iff_of_true trivial ?_
      have hopen := openCount_modify ip (cleanup_streams (w := w) i)
      rw [limitExact_iff_count, cleanup_count]
      omega

/-- On either route, in every run: the count of the address is exact, and within the limit, in
every state just when every step keeps it. -/
theorem limitExact_iff (route : StreamRoute) (ip : String) (as : List SlotAction) :
    Always (SlotWorld.step route) (LimitExact ip) .initial as ↔
      Meets (SlotWorld.step route) (KeepsCount route ip) .initial as := by
  have hinitial : LimitExact ip .initial :=
    ⟨rfl, Nat.zero_le _, fun _ => Or.inl rfl⟩
  have hnamed : ActiveNamed .initial := fun _ _ h => nomatch h
  rw [Always, and_iff_right hinitial]
  refine (meets_iff_eachStep (I := fun w => LimitExact ip w ∧ ActiveNamed w)
    (A := fun _ _ => True) ?_ ?_ ⟨hinitial, hnamed⟩ (meets_of_forall fun _ _ => trivial)).symm
  · rintro s a s' ⟨hlimit, hnamed⟩ - hkeeps hstep
    exact ⟨(keepsCount_iff hnamed hlimit hstep).mp hkeeps, hnamed.step hstep⟩
  · rintro s a s' ⟨hlimit, hnamed⟩ - hstep
    exact keepsCount_iff hnamed hlimit hstep

/-- A device connects again from its address while its old stream is open: two streams are counted
for one. -/
def connectsAgain : List SlotAction :=
  [.requests "10.0.0.7" "phone", .opens 0 fun _ => true, .requests "10.0.0.7" "phone",
    .opens 0 fun _ => true]

/-- Two requests of an address read the count before either opens its stream. -/
def readTogether : List SlotAction :=
  [.requests "10.0.0.7" "charger-1", .requests "10.0.0.7" "charger-2", .opens 0 fun _ => true,
    .opens 0 fun _ => true]

theorem not_limitExact_connectsAgain :
    ¬Always (SlotWorld.step .scanStream) (LimitExact "10.0.0.7") .initial connectsAgain ∧
      ¬Always (SlotWorld.step .scanDetect) (LimitExact "10.0.0.7") .initial readTogether := by
  decide

end Runs

end ExpresSync
