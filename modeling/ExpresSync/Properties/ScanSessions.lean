import ExpresSync.Foundation.Transition
import ExpresSync.Model.UnifiedScan

/-!
# Sessions of the scan flow

A step of the hook changes what its sessions hold in one of few ways (`SessionStep`), which keep the
pairing of the current session held and every other one released.  A session that has been
superseded returns at its next check; where there is none it shows what it has come to, or arms
what nobody releases (`isolates_and_releases_of_meets`).
-/

namespace ExpresSync

open Transition

/-- The pairing of the session is still to be reported. -/
def ScanPhase.isToArm : ScanPhase → Bool
  | loadingTargets | readingTargets | arming _ | readingArm _ _ => true
  | _ => false

def ScanPhase.isListening : ScanPhase → Bool
  | listening _ _ => true
  | _ => false

/-! ## Requests -/

namespace ArmAnswer

variable {answer : ArmAnswer} {opts : UseUnifiedScanOptions} {target : TapTargetEntry} {s : ℕ}
  {arm : ActiveArm}

lemma of_reports (h : answer.reports opts target s = some arm) :
    answer.hasCode = true ∧
      ⟨target.pairableType, answer.pairingCode.getD "", target.deviceId, opts.mode, s⟩ = arm := by
  unfold reports at h
  split at h
  · next hcode => exact ⟨hcode, Option.some.inj h⟩
  · cases h

/-- The `DELETE` goes where the pairing has been armed, with the code that was reported. -/
lemma releaseRequest_of_reports (h : answer.reports opts target s = some arm) :
    (releaseRequest arm).url = (armRequest opts target).url ∧
      ("pairingCode", answer.pairingCode) ∈ (releaseRequest arm).body := by
  obtain ⟨hcode, rfl⟩ := of_reports h
  obtain ⟨-, htruthy⟩ := Bool.and_eq_true_iff.mp hcode
  obtain ⟨code, hpairing⟩ := exists_of_truthy htruthy
  rw [hpairing]
  unfold releaseRequest armRequest
  dsimp only [Option.getD_some]
  cases opts.mode <;> cases target.pairableType <;> simp

end ArmAnswer

namespace ScanSessions

/-- Superseded or finished. -/
def IsOver (w : ScanSessions) (s : ℕ) : Prop := s ≠ w.sessionId ∨ w.phase s = .over

instance (w : ScanSessions) (s : ℕ) : Decidable (w.IsOver s) := inferInstanceAs (Decidable (_ ∨ _))

/-- The pairing of a session that is over has been released by one `DELETE`, where the server has
not ended it. -/
def Releases (w : ScanSessions) : Prop :=
  ∀ a ∈ w.reported, w.IsOver a.session → a.session ∉ w.ended → w.deletes.count a = 1

instance (w : ScanSessions) : Decidable w.Releases :=
  inferInstanceAs (Decidable (∀ a ∈ w.reported, _ → _ → _))

/-- The answer that the session reads has a code. -/
def readsCode (w : ScanSessions) (s : ℕ) : Bool :=
  match w.phase s with
  | .readingArm _ answer => answer.hasCode
  | _ => false

end ScanSessions

namespace ScanHook

/-- A callback of a session that has been superseded does not change what is shown. -/
def Isolates (w : ScanHook) (a : HookAction) (w' : ScanHook) : Prop :=
  ∀ s ∈ a.session?, s ≠ w.sessionId → w'.state = w.state

instance (w : ScanHook) (a : HookAction) (w' : ScanHook) : Decidable (w.Isolates a w') :=
  inferInstanceAs (Decidable (∀ s ∈ a.session?, _ → _))

/-- Where a callback is not checked it is of the current session, an arm request that has been
superseded is not answered with a code, the stream of a code opens, and a card is reported once the
server has ended the pairing. -/
def KeepsSessions (w : ScanHook) : HookAction → Prop
  | .targetsBody s _ | .loginBody s _ | .callbackEnds s _ | .released s => s = w.sessionId
  | .armAnswer s (some answer) =>
      answer.hasCode = true → s = w.sessionId ∨ s ∈ w.ended
  | .armBody s opens _ => s = w.sessionId ∧ (w.readsCode s = true → opens = true)
  | .message s (some payload) => s = w.sessionId → payload.idTag ≠ "" → s ∈ w.ended
  | _ => True

instance (w : ScanHook) (a : HookAction) : Decidable (w.KeepsSessions a) := by
  unfold KeepsSessions
  split <;> infer_instance

/-! ## Superseded sessions -/

section

variable {opts : UseUnifiedScanOptions} {w w' : ScanHook} {a : HookAction} {s : ℕ}

@[simp] lemma state_returns : (w.returns s).state = w.state := rfl

/-- A callback is checked, or the condition says that it is of the current session. -/
lemma isolates_step (hkeeps : w.KeepsSessions a) (hstep : w.step opts a = some w') :
    w.Isolates a w' := by
  intro s hs hne
  cases a with
  | start | selectTarget | backToPicker | retry | submitManual | shutdown | unmounts
    | serverEnds => cases hs
  | targetsBody | loginBody | callbackEnds | released =>
      obtain rfl := Option.some.inj hs
      exact absurd hkeeps hne
  | armBody =>
      obtain rfl := Option.some.inj hs
      exact absurd hkeeps.1 hne
  | ticks =>
      obtain rfl := Option.some.inj hs
      dsimp only [step] at hstep
      split at hstep
      · obtain rfl := Option.some.inj hstep
        rw [onTick, if_pos hne]
      · cases hstep
  | cancelled =>
      obtain rfl := Option.some.inj hs
      dsimp only [step] at hstep
      split at hstep
      · split at hstep
        · obtain rfl := Option.some.inj hstep
          rw [onCancelled, if_pos hne]
        · cases hstep
      · cases hstep
  | _ =>
      obtain rfl := Option.some.inj hs
      dsimp only [step] at hstep
      split at hstep
      · obtain rfl := Option.some.inj hstep
        simp only [onTargetsAnswer, onArmAnswer, onConnected, onTimeout, onMessage, onError,
          onLoginAnswer, onLookupAnswer, onLookupBody, if_pos hne, state_returns]
      · cases hstep

end

end ScanHook

/-! ## What sessions hold -/

namespace ScanSessions

/-- `sessionId` is counted up, and the pairing of the session before is released. -/
def next (w : ScanSessions) : ScanSessions := { w.releaseArm with sessionId := w.sessionId + 1 }

/-- The arm response of the session has reported the pairing. -/
def reports (w : ScanSessions) (arm : ActiveArm) : ScanSessions :=
  { w with reported := w.reported ++ [arm] }

/-- What a step does to the sessions. -/
inductive SessionStep (w : ScanSessions) : ScanSessions → Prop where
  | kept : SessionStep w w
  | supersedes : SessionStep w w.next
  /-- A new session has come to its first `await`. -/
  | starts (phase : ScanPhase) : SessionStep w (w.next.goesOn (w.sessionId + 1) phase)
  /-- A session that is not listening goes on. -/
  | goesOn {s : ℕ} {phase : ScanPhase} (hawaits : w.phase s ≠ .over)
      (hlistening : (w.phase s).isListening = false)
      (harm : phase.isToArm = true → (w.phase s).isToArm = true) : SessionStep w (w.goesOn s phase)
  /-- The current session comes to an end, and its pairing is released. -/
  | stops : SessionStep w (w.releaseArm.goesOn w.sessionId .over)
  /-- The current session has no pairing any more. -/
  | loses {phase : ScanPhase} (hended : w.sessionId ∈ w.ended) (harm : phase.isToArm = false) :
      SessionStep w ({ w with arm := none }.goesOn w.sessionId phase)
  /-- A session that is over gets a code. -/
  | drops {arm : ActiveArm} (hended : arm.session ∈ w.ended)
      (harm : (w.phase arm.session).isToArm = true) :
      SessionStep w ((w.goesOn arm.session .over).reports arm)
  /-- The current session has its pairing. -/
  | arms {arm : ActiveArm} {target : TapTargetEntry} (hcurrent : arm.session = w.sessionId)
      (harm : (w.phase w.sessionId).isToArm = true) :
      SessionStep w ({ w with arm := some arm }.reports arm |>.goesOn w.sessionId
        (.listening target arm.pairingCode))
  | serverEnds (s : ℕ) : SessionStep w { w with ended := s :: w.ended }

/-- What holds as long as no session overtakes a newer one. -/
structure Held (w : ScanSessions) : Prop where
  /-- The pairing that is held is of the current session, which is listening. -/
  current : ∀ a ∈ w.arm, a.session = w.sessionId ∧ a ∈ w.reported ∧ a ∉ w.deletes ∧
    (w.phase a.session).isListening = true
  released : ∀ a ∈ w.reported, w.arm = some a ∨ a.session ∈ w.ended ∨ w.deletes.count a = 1
  reported : ∀ a ∈ w.reported, (w.phase a.session).isToArm = false ∧ a.session ≤ w.sessionId
  deleted : ∀ a ∈ w.deletes, a ∈ w.reported
  future : ∀ s, w.sessionId < s → w.phase s = .over

variable {w w' : ScanSessions} {s : ℕ} {phase : ScanPhase} {arm : ActiveArm}

lemma phase_goesOn (w : ScanSessions) (s r : ℕ) (phase : ScanPhase) :
    (w.goesOn s phase).phase r = if r = s then phase else w.phase r := Function.update_apply ..

/-- The pairing of a session that is over is not held. -/
lemma Held.releases (h : w.Held) : w.Releases := by
  intro a ha hover hended
  rcases h.released a ha with harm | hin | hcount
  · obtain ⟨hcurrent, -, -, hlistening⟩ := h.current a harm
    rcases hover with hne | hphase
    · exact absurd hcurrent hne
    · rw [hphase] at hlistening
      cases hlistening
  · exact absurd hin hended
  · exact hcount

lemma Held.le_sessionId (h : w.Held) (hawaits : w.phase s ≠ .over) : s ≤ w.sessionId :=
  Nat.le_of_not_lt fun hlt => hawaits (h.future s hlt)

lemma Held.goesOn (h : w.Held) (hs : s ≤ w.sessionId) (hheld : ∀ a ∈ w.arm, a.session ≠ s)
    (hreported : phase.isToArm = true → ∀ a ∈ w.reported, a.session ≠ s) :
    (w.goesOn s phase).Held where
  current a ha := by
    rw [phase_goesOn, if_neg (hheld a ha)]
    exact h.current a ha
  released := h.released
  reported a ha := by
    refine ⟨?_, (h.reported a ha).2⟩
    rw [phase_goesOn]
    split
    · next hsession =>
      exact Bool.eq_false_iff.mpr fun hto => hreported hto a ha hsession
    · exact (h.reported a ha).1
  deleted := h.deleted
  future r hr := by
    rw [phase_goesOn, if_neg (ne_of_gt (lt_of_le_of_lt hs hr))]
    exact h.future r hr

lemma releaseArm_of_some (harm : w.arm = some arm) :
    w.releaseArm = { w with arm := none, deletes := w.deletes ++ [arm] } := by
  rw [releaseArm, harm]

lemma releaseArm_of_none (harm : w.arm = none) : w.releaseArm = w := by
  rw [releaseArm, harm]

lemma arm_releaseArm (w : ScanSessions) : w.releaseArm.arm = none := by
  cases harm : w.arm with
  | some arm => rw [releaseArm_of_some harm]
  | none => rw [releaseArm_of_none harm, harm]

lemma sessionId_releaseArm (w : ScanSessions) : w.releaseArm.sessionId = w.sessionId := by
  cases harm : w.arm with
  | some arm => rw [releaseArm_of_some harm]
  | none => rw [releaseArm_of_none harm]

/-- The pairing that is held gets its `DELETE`. -/
lemma Held.releaseArm (h : w.Held) : w.releaseArm.Held := by
  cases harm : w.arm with
  | none =>
      rw [releaseArm_of_none harm]
      exact h
  | some arm =>
      obtain ⟨hcurrent, hmem, hnot, -⟩ := h.current arm harm
      rw [releaseArm_of_some harm]
      refine ⟨nofun, fun a ha => ?_, h.reported, fun a ha => ?_, h.future⟩
      · refine .inr ((h.released a ha).elim (fun heq => .inr ?_) fun hrest => hrest.imp id ?_)
        · obtain rfl := Option.some.inj (harm.symm.trans heq)
          rw [List.count_append, List.count_eq_zero.mpr hnot, List.count_singleton_self]
        · intro hcount
          have hne : arm ≠ a := fun heq => hnot (heq ▸ List.count_pos_iff.mp (hcount ▸ one_pos))
          rw [List.count_append, hcount, List.count_singleton, beq_eq_false_iff_ne.mpr hne]
          rfl
      · rcases List.mem_append.mp ha with hold | hlast
        · exact h.deleted a hold
        · rw [List.mem_singleton.mp hlast]
          exact hmem

lemma Held.next (h : w.Held) : w.next.Held := by
  have hrel := h.releaseArm
  refine ⟨?_, hrel.released, ?_, hrel.deleted, ?_⟩
  · intro a ha
    exact absurd ha (by rw [ScanSessions.next, arm_releaseArm]; exact nofun)
  · intro a ha
    obtain ⟨hphase, hle⟩ := hrel.reported a ha
    rw [sessionId_releaseArm] at hle
    exact ⟨hphase, Nat.le_succ_of_le hle⟩
  · intro s hs
    exact hrel.future s (by rw [sessionId_releaseArm]; exact Nat.lt_of_succ_lt hs)

lemma Held.ne_of_isToArm (h : w.Held) (harm : (w.phase s).isToArm = true) {a : ActiveArm}
    (ha : a ∈ w.reported) : a.session ≠ s := by
  intro heq
  have hnot := (h.reported a ha).1
  rw [heq, harm] at hnot
  cases hnot

lemma Held.ne_of_not_isListening (h : w.Held) (hlistening : (w.phase s).isListening = false)
    {a : ActiveArm} (ha : a ∈ w.arm) : a.session ≠ s := by
  intro heq
  have hphase := (h.current a ha).2.2.2
  rw [heq, hlistening] at hphase
  cases hphase

/-- A session is no longer to arm once it listens. -/
lemma isListening_of_isToArm {phase : ScanPhase} (h : phase.isToArm = true) :
    phase ≠ .over ∧ phase.isListening = false := by
  cases phase with
  | loadingTargets | readingTargets | arming | readingArm => exact ⟨nofun, rfl⟩
  | _ => cases h

/-- A new pairing is one that the server has ended, or the one that is held. -/
lemma Held.arms {target : TapTargetEntry} (h : w.Held) (hcurrent : arm.session = w.sessionId)
    (harm : (w.phase w.sessionId).isToArm = true) :
    ({ w with arm := some arm }.reports arm |>.goesOn w.sessionId
      (.listening target arm.pairingCode)).Held := by
  have hnot : arm ∉ w.reported := fun hmem => h.ne_of_isToArm harm hmem hcurrent
  refine ⟨?_, ?_, ?_, ?_, ?_⟩
  · intro a ha
    obtain rfl := Option.some.inj ha
    refine ⟨hcurrent, List.mem_append_right _ (List.mem_singleton_self _),
      fun hmem => hnot (h.deleted _ hmem), ?_⟩
    rw [phase_goesOn, if_pos hcurrent]
    rfl
  · intro a ha
    rcases List.mem_append.mp ha with hold | hlast
    · refine .inr ((h.released a hold).resolve_left fun heq => ?_)
      exact h.ne_of_not_isListening (isListening_of_isToArm harm).2 heq (h.current a heq).1
    · exact .inl (congrArg some (List.mem_singleton.mp hlast).symm)
  · intro a ha
    rw [phase_goesOn]
    rcases List.mem_append.mp ha with hold | hlast
    · rw [if_neg (h.ne_of_isToArm harm hold)]
      exact h.reported a hold
    · rw [List.mem_singleton.mp hlast, if_pos hcurrent]
      exact ⟨rfl, hcurrent.le⟩
  · exact fun a ha => List.mem_append_left _ (h.deleted a ha)
  · intro r (hr : w.sessionId < r)
    rw [phase_goesOn, if_neg (ne_of_gt hr)]
    exact h.future r hr

lemma Held.reports (h : w.Held) (hended : arm.session ∈ w.ended)
    (hphase : (w.phase arm.session).isToArm = false) (hle : arm.session ≤ w.sessionId) :
    (w.reports arm).Held where
  current a ha := by
    obtain ⟨hcurrent, hmem, hrest⟩ := h.current a ha
    exact ⟨hcurrent, List.mem_append_left _ hmem, hrest⟩
  released a ha := by
    rcases List.mem_append.mp ha with hold | hlast
    · exact h.released a hold
    · rw [List.mem_singleton.mp hlast]
      exact .inr (.inl hended)
  reported a ha := by
    rcases List.mem_append.mp ha with hold | hlast
    · exact h.reported a hold
    · rw [List.mem_singleton.mp hlast]
      exact ⟨hphase, hle⟩
  deleted a ha := List.mem_append_left _ (h.deleted a ha)
  future := h.future

lemma Held.loses (h : w.Held) (hended : w.sessionId ∈ w.ended) : { w with arm := none }.Held where
  current := nofun
  released a ha := by
    rcases h.released a ha with harm | hrest
    · rw [← (h.current a harm).1] at hended
      exact .inr (.inl hended)
    · exact .inr hrest
  reported := h.reported
  deleted := h.deleted
  future := h.future

lemma Held.step (h : w.Held) (hstep : SessionStep w w') : w'.Held := by
  cases hstep with
  | kept => exact h
  | supersedes => exact h.next
  | starts phase =>
      refine h.next.goesOn le_rfl (fun a ha => ?_) fun _ a ha => ?_
      · exact absurd ha (by rw [ScanSessions.next, arm_releaseArm]; exact nofun)
      · have hle := (h.releaseArm.reported a ha).2
        rw [sessionId_releaseArm] at hle
        exact ne_of_lt (Nat.lt_succ_of_le hle)
  | goesOn hawaits hlistening harm =>
      exact h.goesOn (h.le_sessionId hawaits) (fun a => h.ne_of_not_isListening hlistening)
        fun hto a => h.ne_of_isToArm (harm hto)
  | stops =>
      refine h.releaseArm.goesOn (sessionId_releaseArm w).ge (fun a ha => ?_) nofun
      exact absurd ha (by rw [arm_releaseArm]; exact nofun)
  | loses hended harm =>
      exact (h.loses hended).goesOn le_rfl nofun fun hto => absurd hto (Bool.eq_false_iff.mp harm)
  | @drops arm hended harm =>
      obtain ⟨hawaits, hlistening⟩ := isListening_of_isToArm harm
      have hle := h.le_sessionId hawaits
      have hover : (w.goesOn arm.session .over).Held :=
        h.goesOn hle (fun a => h.ne_of_not_isListening hlistening) nofun
      refine hover.reports hended ?_ hle
      rw [phase_goesOn, if_pos rfl]
      rfl
  | arms hcurrent harm => exact h.arms hcurrent harm
  | serverEnds s =>
      refine ⟨h.current, fun a ha => ?_, h.reported, h.deleted, h.future⟩
      exact (h.released a ha).imp id fun hrest => hrest.imp (List.mem_cons_of_mem s) id

/-- A session that awaits something else than its stream goes on. -/
lemma SessionStep.of_phase {q : ScanPhase} (hphase : w.phase s = q)
    (hq : q ≠ .over ∧ q.isListening = false) (harm : phase.isToArm = true → q.isToArm = true) :
    SessionStep w (w.goesOn s phase) := by
  subst hphase
  exact .goesOn hq.1 hq.2 harm

end ScanSessions

namespace ScanHook

open ScanSessions (SessionStep)

variable {opts : UseUnifiedScanOptions} {w w' : ScanHook} {a : HookAction} {s : ℕ}

lemma sessions_showsPicker (w : ScanHook) :
    SessionStep w.toScanSessions w.supersede.showsPicker.toScanSessions := by
  unfold showsPicker
  split
  · exact .supersedes
  · exact .starts .loadingTargets

lemma sessions_start (opts : UseUnifiedScanOptions) (w : ScanHook) :
    SessionStep w.toScanSessions (w.start opts).toScanSessions := by
  dsimp only [start]
  split
  · exact .starts _
  · exact .starts .loadingTargets

lemma sessions_retry (opts : UseUnifiedScanOptions) (w : ScanHook) :
    SessionStep w.toScanSessions (w.retry opts).toScanSessions := by
  unfold retry
  split
  · split
    · exact w.sessions_showsPicker
    · dsimp only
      split
      · exact .starts _
      · exact w.sessions_showsPicker
  · exact .kept

lemma sessions_submitManual (opts : UseUnifiedScanOptions) (w : ScanHook) (idTag : String) :
    SessionStep w.toScanSessions (w.submitManual opts idTag).toScanSessions := by
  dsimp only [submitManual]
  split
  · exact .kept
  · split
    · exact .kept
    · unfold resolve
      split
      · exact .starts .loggingIn
      · exact .starts (.lookingUp _)

lemma sessions_onTargetsAnswer (status : Option ℕ) (hphase : w.phase s = .loadingTargets) :
    SessionStep w.toScanSessions (w.onTargetsAnswer s status).toScanSessions := by
  unfold onTargetsAnswer
  repeat' split
  all_goals exact .of_phase hphase ⟨nofun, rfl⟩ fun _ => rfl

lemma sessions_onTargetsBody (list : List TapTargetEntry) (hphase : w.phase s = .readingTargets) :
    SessionStep w.toScanSessions (w.onTargetsBody opts s list).toScanSessions := by
  dsimp only [onTargetsBody]
  repeat' split
  all_goals exact .of_phase hphase ⟨nofun, rfl⟩ fun _ => rfl

lemma sessions_onArmAnswer {target : TapTargetEntry} (answer : Option ArmAnswer)
    (hphase : w.phase s = .arming target)
    (hkeeps : w.KeepsSessions (.armAnswer s answer)) :
    SessionStep w.toScanSessions (w.onArmAnswer opts s target answer).toScanSessions := by
  unfold onArmAnswer
  split
  · next hne =>
    have hreturns : SessionStep w.toScanSessions (w.goesOn s .over) :=
      .of_phase hphase ⟨nofun, rfl⟩ nofun
    cases answer with
    | none =>
        rw [Option.bind_none, Option.toList_none, List.append_nil]
        exact hreturns
    | some answer =>
        rw [Option.bind_some]
        cases hreports : answer.reports opts target s with
        | none =>
            rw [Option.toList_none, List.append_nil]
            exact hreturns
        | some arm =>
            obtain ⟨hcode, harm⟩ := ArmAnswer.of_reports hreports
            obtain rfl : arm.session = s := congrArg ActiveArm.session harm.symm
            exact SessionStep.drops ((hkeeps hcode).resolve_left hne) (by rw [hphase]; rfl)
  · split
    · exact .of_phase hphase ⟨nofun, rfl⟩ nofun
    · exact .of_phase hphase ⟨nofun, rfl⟩ fun _ => rfl

lemma sessions_onArmBody {target : TapTargetEntry} {answer : ArmAnswer} {opens : Bool} (now : ℤ)
    (hphase : w.phase s = .readingArm target answer)
    (hkeeps : w.KeepsSessions (.armBody s opens now)) :
    SessionStep w.toScanSessions (w.onArmBody opts s target answer opens now).toScanSessions := by
  obtain ⟨hcurrent, hopens⟩ := hkeeps
  unfold onArmBody
  split
  · exact .of_phase hphase ⟨nofun, rfl⟩ nofun
  · next arm hreports =>
    obtain ⟨hcode, harm⟩ := ArmAnswer.of_reports hreports
    have hreads : w.readsCode s = true := by
      rw [ScanSessions.readsCode, hphase]
      exact hcode
    subst hcurrent
    dsimp only
    rw [if_neg (not_not.mpr rfl), hopens hreads, Bool.not_true, if_neg Bool.false_ne_true]
    exact SessionStep.arms (congrArg ActiveArm.session harm.symm) (by rw [hphase]; rfl)

lemma sessions_onCancelled (hended : s ∈ w.ended) :
    SessionStep w.toScanSessions (w.onCancelled s).toScanSessions := by
  unfold onCancelled
  split
  · exact .kept
  · next hcurrent =>
    obtain rfl := not_not.mp hcurrent
    exact .loses hended rfl

lemma sessions_onTimeout : SessionStep w.toScanSessions (w.onTimeout s).toScanSessions := by
  unfold onTimeout
  split
  · exact .kept
  · next hcurrent =>
    obtain rfl := not_not.mp hcurrent
    exact .stops

lemma sessions_onMessage {target : TapTargetEntry} {pairingCode : String}
    (payload : Option ScanDetectEvent) (hkeeps : w.KeepsSessions (.message s payload)) :
    SessionStep w.toScanSessions
      (w.onMessage opts s target pairingCode payload).toScanSessions := by
  unfold onMessage
  split
  · exact .kept
  · next hcurrent =>
    obtain rfl := not_not.mp hcurrent
    cases payload with
    | none => exact .kept
    | some payload =>
        dsimp only
        split
        · exact .kept
        · next hcard =>
          have hended := hkeeps rfl hcard
          unfold resolve
          split
          · exact .loses hended rfl
          · exact .loses hended rfl

lemma sessions_onError (closed : Bool) :
    SessionStep w.toScanSessions (w.onError s closed).toScanSessions := by
  unfold onError
  split
  · exact .kept
  · next hcurrent =>
    obtain rfl := not_not.mp hcurrent
    repeat' split
    · exact .kept
    · exact .kept
    · exact .stops

lemma sessions_onTick (now : ℤ) :
    SessionStep w.toScanSessions (w.onTick s now).toScanSessions := by
  unfold onTick
  split
  · exact .kept
  · next hcurrent =>
    obtain rfl := not_not.mp hcurrent
    split
    · dsimp only
      split
      · exact .stops
      · exact .kept
    · exact .kept

lemma sessions_onConnected (data : Option ConnectedData) (now : ℤ) :
    SessionStep w.toScanSessions (w.onConnected s data now).toScanSessions := by
  unfold onConnected
  repeat' split
  all_goals exact .kept

lemma sessions_onLoginAnswer (status : Option ℕ) (hphase : w.phase s = .loggingIn) :
    SessionStep w.toScanSessions (w.onLoginAnswer s status).toScanSessions := by
  unfold onLoginAnswer
  repeat' split
  all_goals exact .of_phase hphase ⟨nofun, rfl⟩ nofun

lemma sessions_onLoginBody {status : ℕ} (redirectTo : Option String)
    (hphase : w.phase s = .readingLogin status) :
    SessionStep w.toScanSessions (w.onLoginBody s status redirectTo).toScanSessions := by
  unfold onLoginBody
  split
  all_goals exact .of_phase hphase ⟨nofun, rfl⟩ nofun

lemma sessions_hands {phase : ScanPhase} (result : ScanResult) (hphase : w.phase s = phase)
    (hawaits : phase ≠ .over ∧ phase.isListening = false) :
    SessionStep w.toScanSessions (w.hands opts s result).toScanSessions := by
  unfold hands
  split
  all_goals exact .of_phase hphase hawaits nofun

lemma sessions_onLookupAnswer {idTag : String} (status : Option ℕ)
    (hphase : w.phase s = .lookingUp idTag) :
    SessionStep w.toScanSessions (w.onLookupAnswer opts s idTag status).toScanSessions := by
  unfold onLookupAnswer
  split
  · exact .of_phase hphase ⟨nofun, rfl⟩ nofun
  · split
    · exact .of_phase hphase ⟨nofun, rfl⟩ nofun
    · split
      · exact .of_phase hphase ⟨nofun, rfl⟩ nofun
      · split
        · exact sessions_hands _ hphase ⟨nofun, rfl⟩
        · exact .of_phase hphase ⟨nofun, rfl⟩ nofun

lemma sessions_onLookupBody {idTag : String} (result : ScanResult)
    (hphase : w.phase s = .readingLookup idTag) :
    SessionStep w.toScanSessions (w.onLookupBody opts s result).toScanSessions := by
  unfold onLookupBody
  split
  · exact .of_phase hphase ⟨nofun, rfl⟩ nofun
  · exact sessions_hands result hphase ⟨nofun, rfl⟩

lemma sessions_onCallbackEnds (thrown : Option (Option String))
    (hphase : w.phase s = .callingBack) :
    SessionStep w.toScanSessions (w.onCallbackEnds s thrown).toScanSessions := by
  unfold onCallbackEnds
  split
  all_goals exact .of_phase hphase ⟨nofun, rfl⟩ nofun

/-- What a step does to the sessions, one function of the source after the other. -/
lemma sessions_step (hkeeps : w.KeepsSessions a) (hstep : w.step opts a = some w') :
    SessionStep w.toScanSessions w'.toScanSessions := by
  cases a with
  | start =>
      obtain rfl := Option.some.inj hstep
      exact sessions_start opts w
  | selectTarget t =>
      obtain rfl := Option.some.inj hstep
      exact .starts (.arming t)
  | backToPicker =>
      obtain rfl := Option.some.inj hstep
      exact w.sessions_showsPicker
  | retry =>
      obtain rfl := Option.some.inj hstep
      exact sessions_retry opts w
  | submitManual idTag =>
      obtain rfl := Option.some.inj hstep
      exact sessions_submitManual opts w idTag
  | shutdown =>
      obtain rfl := Option.some.inj hstep
      exact .starts .releasing
  | unmounts =>
      obtain rfl := Option.some.inj hstep
      exact .supersedes
  | serverEnds s =>
      obtain rfl := Option.some.inj hstep
      exact .serverEnds s
  | ticks s now =>
      dsimp only [step] at hstep
      split at hstep
      · obtain rfl := Option.some.inj hstep
        exact sessions_onTick now
      · cases hstep
  | cancelled s =>
      dsimp only [step] at hstep
      split at hstep
      · split at hstep
        · next hended =>
          obtain rfl := Option.some.inj hstep
          exact sessions_onCancelled hended
        · cases hstep
      · cases hstep
  | targetsAnswer s status =>
      dsimp only [step] at hstep
      split at hstep
      · next hphase =>
        obtain rfl := Option.some.inj hstep
        exact sessions_onTargetsAnswer status hphase
      · cases hstep
  | targetsBody s devices =>
      dsimp only [step] at hstep
      split at hstep
      · next hphase =>
        obtain rfl := Option.some.inj hstep
        exact sessions_onTargetsBody devices hphase
      · cases hstep
  | armAnswer s answer =>
      dsimp only [step] at hstep
      split at hstep
      · next hphase =>
        obtain rfl := Option.some.inj hstep
        exact sessions_onArmAnswer answer hphase hkeeps
      · cases hstep
  | armBody s opens now =>
      dsimp only [step] at hstep
      split at hstep
      · next hphase =>
        obtain rfl := Option.some.inj hstep
        exact sessions_onArmBody now hphase hkeeps
      · cases hstep
  | connected s data now =>
      dsimp only [step] at hstep
      split at hstep
      · obtain rfl := Option.some.inj hstep
        exact sessions_onConnected data now
      · cases hstep
  | timeout s =>
      dsimp only [step] at hstep
      split at hstep
      · obtain rfl := Option.some.inj hstep
        exact sessions_onTimeout
      · cases hstep
  | message s payload =>
      dsimp only [step] at hstep
      split at hstep
      · obtain rfl := Option.some.inj hstep
        exact sessions_onMessage payload hkeeps
      · cases hstep
  | streamError s closed =>
      dsimp only [step] at hstep
      split at hstep
      · obtain rfl := Option.some.inj hstep
        exact sessions_onError closed
      · cases hstep
  | loginAnswer s status =>
      dsimp only [step] at hstep
      split at hstep
      · next hphase =>
        obtain rfl := Option.some.inj hstep
        exact sessions_onLoginAnswer status hphase
      · cases hstep
  | loginBody s redirectTo =>
      dsimp only [step] at hstep
      split at hstep
      · next hphase =>
        obtain rfl := Option.some.inj hstep
        exact sessions_onLoginBody redirectTo hphase
      · cases hstep
  | lookupAnswer s status =>
      dsimp only [step] at hstep
      split at hstep
      · next hphase =>
        obtain rfl := Option.some.inj hstep
        exact sessions_onLookupAnswer status hphase
      · cases hstep
  | lookupBody s isKnown tagPk hasMapping mappingId =>
      dsimp only [step] at hstep
      split at hstep
      · next hphase =>
        obtain rfl := Option.some.inj hstep
        exact sessions_onLookupBody _ hphase
      · cases hstep
  | callbackEnds s thrown =>
      dsimp only [step] at hstep
      split at hstep
      · next hphase =>
        obtain rfl := Option.some.inj hstep
        exact sessions_onCallbackEnds thrown hphase
      · cases hstep
  | released s =>
      dsimp only [step] at hstep
      split at hstep
      · next hphase =>
        obtain rfl := Option.some.inj hstep
        exact .of_phase hphase ⟨nofun, rfl⟩ nofun
      · cases hstep

/-! ## What the condition leaves out -/

/-- Nobody releases a pairing that is reported to a session which is over. -/
lemma not_releases_of_reported {arm : ActiveArm} (h : w.Held)
    (harm : (w.phase arm.session).isToArm = true) (hreported : arm ∈ w'.reported)
    (hdeletes : w'.deletes = w.deletes) (hover : w'.IsOver arm.session)
    (hended : arm.session ∉ w'.ended) : ¬w'.Releases := by
  intro hreleases
  have hcount := hreleases arm hreported hover hended
  have hnot : arm ∉ w.deletes := fun hmem => h.ne_of_isToArm harm (h.deleted arm hmem) rfl
  rw [hdeletes, List.count_eq_zero.mpr hnot] at hcount
  cases hcount

/-- A code that comes to a superseded session leaves its pairing armed, unless the server has ended
it. -/
theorem not_releases_of_armAnswer (h : w.Held) {answer : ArmAnswer} (hcode : answer.hasCode = true)
    (hne : s ≠ w.sessionId) (hended : s ∉ w.ended)
    (hstep : w.step opts (.armAnswer s (some answer)) = some w') : ¬w'.Releases := by
  dsimp only [step] at hstep
  split at hstep
  · next target hphase =>
    obtain rfl := Option.some.inj hstep
    rw [onArmAnswer, if_pos hne, Option.bind_some, ArmAnswer.reports, if_pos hcode]
    have harm : (w.phase s).isToArm = true := by
      rw [hphase]
      rfl
    refine not_releases_of_reported h harm (List.mem_append_right _ (List.mem_singleton_self _)) rfl
      (Or.inl hne) hended
  · cases hstep

/-- So does a code that is read late, or whose stream does not open. -/
theorem not_releases_of_armBody (h : w.Held) {opens : Bool} {now : ℤ}
    (hcode : w.readsCode s = true) (hlate : s ≠ w.sessionId ∨ opens = false) (hended : s ∉ w.ended)
    (hstep : w.step opts (.armBody s opens now) = some w') : ¬w'.Releases := by
  dsimp only [step] at hstep
  split at hstep
  · next target answer hphase =>
    obtain rfl := Option.some.inj hstep
    rw [ScanSessions.readsCode, hphase] at hcode
    have harm : (w.phase s).isToArm = true := by
      rw [hphase]
      rfl
    have hreported : ∀ arm : ActiveArm, arm ∈ w.reported ++ [arm] := fun arm =>
      List.mem_append_right _ (List.mem_singleton_self arm)
    have hover : ∀ state, (w.ends s state).IsOver s := fun _ => .inr (Function.update_self ..)
    rw [onArmBody, ArmAnswer.reports, if_pos hcode]
    dsimp only
    by_cases hne : s ≠ w.sessionId
    · rw [if_pos hne]
      exact not_releases_of_reported h harm (hreported _) rfl (Or.inl hne) hended
    · rw [if_neg hne, hlate.resolve_left hne, Bool.not_false, if_pos rfl]
      exact not_releases_of_reported h harm (hreported _) rfl (hover w.state) hended
  · cases hstep

/-! ## Runs -/

lemma held_initial : initial.Held where
  current := nofun
  released _ ha := absurd ha List.not_mem_nil
  reported _ ha := absurd ha List.not_mem_nil
  deleted _ ha := absurd ha List.not_mem_nil
  future _ _ := rfl

/-- Sessions are isolated and leave no armed pairing. -/
theorem isolates_and_releases_of_meets (opts : UseUnifiedScanOptions) (as : List HookAction)
    (h : Meets (step opts) KeepsSessions initial as) :
    EachStep (step opts) Isolates initial as ∧
      Always (step opts) (fun w => w.Releases) initial as := by
  have hkeep : ∀ (w : ScanHook) a w', w.Held → w.KeepsSessions a → w.step opts a = some w' →
      w'.Held := fun w a w' hw hkeeps hstep => hw.step (sessions_step hkeeps hstep)
  refine ⟨Meets.eachStep (I := fun w => w.Held) hkeep ?_ held_initial h, held_initial.releases,
    Meets.eachStep (I := fun w => w.Held) hkeep ?_ held_initial h⟩
  · exact fun w a w' _ hkeeps hstep => isolates_step hkeeps hstep
  · exact fun w a w' hw hkeeps hstep => (hkeep w a w' hw hkeeps hstep).releases

end ScanHook

/-! ## Overlapping sessions -/

/-- The phone that a card is tapped on. -/
def phoneTarget : TapTargetEntry := ⟨"phone-1", .device, true⟩

/-- An admin looks a card up, and something is done with the result. -/
def lookupOptions : UseUnifiedScanOptions where
  mode := .admin
  purpose := .lookupTag
  resolve := .callback
  preselected := none
  preselectedId := none
  ttlSeconds := none
  hintLabel := none

/-- The phone is picked from the list. -/
def picksPhone : List HookAction :=
  [.start, .targetsAnswer 1 (some 200), .targetsBody 1 [phoneTarget], .selectTarget phoneTarget]

/-- The session 2 gets a code, and its stream opens. -/
def armsPhone : List HookAction :=
  picksPhone ++ [.armAnswer 2 (some ⟨200, some "code-1"⟩), .armBody 2 true 1000]

/-- A card is read, and once more after the user has gone back and picked the phone again. -/
def scansTwice : List HookAction :=
  armsPhone ++ [.backToPicker, .selectTarget phoneTarget,
    .armAnswer 4 (some ⟨200, some "code-2"⟩), .armBody 4 true 2000, .serverEnds 4,
    .message 4 (some ⟨"CARD", none, none⟩), .lookupAnswer 4 (some 200),
    .lookupBody 4 true (some 1) (some false) none, .callbackEnds 4 none]

theorem isolates_and_releases_scansTwice :
    EachStep (ScanHook.step lookupOptions) ScanHook.Isolates .initial scansTwice ∧
      Always (ScanHook.step lookupOptions) (fun w => w.Releases) .initial scansTwice ∧
      (run (ScanHook.step lookupOptions) .initial scansTwice).map
        (fun w => (w.state, w.deletes.map ActiveArm.pairingCode)) =
          some (.success "Done.", ["code-1"]) := by
  obtain ⟨hisolates, hreleases⟩ := ScanHook.isolates_and_releases_of_meets lookupOptions scansTwice
    (by decide +kernel)
  exact ⟨hisolates, hreleases, by decide +kernel⟩

/-- The user goes back while the caller's function is awaited. -/
def goesBackWhileHanding : List HookAction :=
  armsPhone ++ [.serverEnds 2, .message 2 (some ⟨"CARD", none, none⟩), .lookupAnswer 2 (some 200),
    .lookupBody 2 true (some 1) (some false) none, .backToPicker, .callbackEnds 2 none]

/-- The picker gives way to the success of the session before. -/
theorem not_isolates_goesBackWhileHanding :
    ¬EachStep (ScanHook.step lookupOptions) ScanHook.Isolates .initial goesBackWhileHanding := by
  decide +kernel

/-- The user goes back while the arm request is in flight. -/
def goesBackWhileArming : List HookAction :=
  picksPhone ++ [.backToPicker, .armAnswer 2 (some ⟨200, some "code-1"⟩)]

/-- The code that comes then is dropped, and the pairing stays armed. -/
theorem not_releases_goesBackWhileArming :
    ¬(EachStep (ScanHook.step lookupOptions) ScanHook.Isolates .initial goesBackWhileArming ∧
      Always (ScanHook.step lookupOptions) (fun w => w.Releases) .initial goesBackWhileArming) := by
  rintro ⟨-, hreleases⟩
  have hend : ∃ w ∈ run (ScanHook.step lookupOptions) .initial goesBackWhileArming,
      ¬w.Releases := by decide +kernel
  obtain ⟨w, hrun, hnot⟩ := hend
  exact hnot (hreleases.of_run hrun)

end ExpresSync
