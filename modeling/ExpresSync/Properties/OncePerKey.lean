import ExpresSync.Foundation.Transition
import ExpresSync.Model.Idempotency

/-!
# One run of the handler for each key

Requests with the same key and route are to run the handler once, and all to get its response.  A
request that finds no row runs the handler, whether or not another one has done so and not stored
its response yet; `oncePerKey_iff` says which requests come at the right time.
-/

namespace ExpresSync

open Transition

variable {β : Type*}

/-- Which requests are the same. -/
def IdempotentRequest.scope (request : IdempotentRequest) : String × String :=
  (request.key, request.route)

def IdempotencyRow.scope (row : IdempotencyRow β) : String × String := (row.key, row.route)

/-- No handler has started twice for one key and route, and all answers are responses of theirs. -/
def OncePerKey (w : IdempotencyWorld β) : Prop :=
  (w.started.map IdempotentRequest.scope).Nodup ∧
    ∀ answered ∈ w.answers, ∃ returned ∈ w.returned, returned.1.scope = answered.1.scope ∧
      answered.2 = .responds returned.2.status returned.2.body

instance [DecidableEq β] (w : IdempotencyWorld β) : Decidable (OncePerKey w) :=
  inferInstanceAs (Decidable (_ ∧ ∀ answered ∈ w.answers, ∃ returned ∈ w.returned, _))

/-- Nothing is old enough to be pruned. -/
def InRetention (w : IdempotencyWorld β) : IdempotencyAction β → Prop
  | .prunes => ∀ row ∈ w.rows.entries, row.isExpired w.now = false
  | _ => True

instance (w : IdempotencyWorld β) (a : IdempotencyAction β) : Decidable (InRetention w a) := by
  unfold InRetention
  rcases a <;> infer_instance

/-! ## The condition -/

/-- The handler has started. -/
def IdempotencyPoint.isPast : IdempotencyPoint β → Bool
  | .lookup => false
  | .handler _ | .insert _ => true

/-- A request for the key and route is between its look-up and its insert. -/
def IsUnderWay (calls : List (IdempotentCall β)) (scope : String × String) : Prop :=
  ∃ call ∈ calls, call.point.isPast = true ∧ call.request.scope = scope

instance (calls : List (IdempotentCall β)) (scope : String × String) :
    Decidable (IsUnderWay calls scope) :=
  inferInstanceAs (Decidable (∃ call ∈ calls, _))

/-- A row is stored for the key and route, a request for them is under way, or a handler run for
them has ended without its row. -/
def IsTouched (w : IdempotencyWorld β) (scope : String × String) : Prop :=
  scope ∈ w.rows.entries.map IdempotencyRow.scope ∨ IsUnderWay w.calls scope ∨
    scope ∈ w.unstored.map IdempotentRequest.scope

instance (w : IdempotencyWorld β) (scope : String × String) : Decidable (IsTouched w scope) :=
  inferInstanceAs (Decidable (_ ∨ _ ∨ _))

/-- A look-up that fails, or finds no row, is the first for its key and route; and one that finds a
row finds one of its own route and user. -/
def LooksUpInTime (w : IdempotencyWorld β) : IdempotencyAction β → Prop
  | .looksUp i fails => ∀ call ∈ w.calls[i]?,
      match if fails then none else w.rows.get? call.request.key with
      | some row => row.route = call.request.route ∧ row.userId = call.request.userId
      | none => ¬IsTouched w call.request.scope
  | _ => True

instance (w : IdempotencyWorld β) (a : IdempotencyAction β) : Decidable (LooksUpInTime w a) := by
  unfold LooksUpInTime
  cases a with
  | looksUp i fails =>
      refine @Option.decidableForallMem _ _ (fun call => ?_) _
      split <;> infer_instance
  | _ => infer_instance

/-! ## What has become of the handler's runs -/

/-- A handler that has started is running, has left its row, or has ended without; and what is
stored, or about to be, is what it has returned. -/
structure RunsAccounted (w : IdempotencyWorld β) : Prop where
  started : ∀ scope, scope ∈ w.started.map IdempotentRequest.scope ↔ IsTouched w scope
  stored : ∀ row ∈ w.rows.entries, ∃ returned ∈ w.returned, returned.1.scope = row.scope ∧
    returned.2.status = row.responseStatus ∧ returned.2.body = row.responseBody
  inserting : ∀ call ∈ w.calls, ∀ response, call.point = .insert response →
    (call.request, response) ∈ w.returned

section Steps

open IdempotencyWorld

variable {w w' : IdempotencyWorld β} {a : IdempotencyAction β} {i : ℕ} {call : IdempotentCall β}

lemma isUnderWay_iff (hcall : w.calls[i]? = some call) {scope : String × String} :
    IsUnderWay w.calls scope ↔ call.point.isPast = true ∧ call.request.scope = scope ∨
      IsUnderWay (w.calls.eraseIdx i) scope :=
  InFlight.exists_mem_iff hcall

lemma isUnderWay_append {calls : List (IdempotentCall β)} {scope : String × String} :
    IsUnderWay (calls ++ [call]) scope ↔
      IsUnderWay calls scope ∨ call.point.isPast = true ∧ call.request.scope = scope := by
  simp [IsUnderWay, or_and_right, exists_or]

lemma isTouched_startHandler (hcall : w.calls[i]? = some call) (hpoint : call.point = .lookup)
    (cached : Bool) {scope : String × String} :
    IsTouched (w.startHandler i call.request cached) scope ↔
      IsTouched w scope ∨ call.request.scope = scope := by
  have hpast : call.point.isPast = false := by rw [hpoint]; rfl
  have hpast' : (IdempotencyPoint.handler cached : IdempotencyPoint β).isPast = true := rfl
  simp only [IsTouched, isUnderWay_iff hcall, startHandler, advance, isUnderWay_append, hpast,
    hpast', true_and, Bool.false_eq_true, false_and, false_or]
  tauto

lemma isTouched_answer (hcall : w.calls[i]? = some call) (hpoint : call.point = .lookup)
    (answer : IdempotencyAnswer β) {scope : String × String} :
    IsTouched (w.answer i call.request answer) scope ↔ IsTouched w scope := by
  have hpast : call.point.isPast = false := by rw [hpoint]; rfl
  simp only [IsTouched, isUnderWay_iff hcall, IdempotencyWorld.answer, hpast, Bool.false_eq_true,
    false_and, false_or]

lemma isTouched_endHandler {cached : Bool} (hcall : w.calls[i]? = some call)
    (hpoint : call.point = .handler cached) (result : HandlerResult β) {scope : String × String} :
    IsTouched (w.endHandler i call.request cached result) scope ↔ IsTouched w scope := by
  have hpast : call.point.isPast = true := by rw [hpoint]; rfl
  cases result with
  | throws =>
      simp only [IsTouched, isUnderWay_iff hcall, endHandler, hpast, true_and, List.map_append,
        List.map_cons, List.map_nil, List.mem_append, List.mem_singleton, eq_comm (a := scope)]
      tauto
  | returns response =>
      have hinsert : (IdempotencyPoint.insert response).isPast = true := rfl
      by_cases hstores : (cached && response.isJson) = true
      · simp only [IsTouched, isUnderWay_iff hcall, endHandler, hstores, if_true, advance,
          isUnderWay_append, hpast, hinsert, true_and]
        tauto
      · simp only [IsTouched, isUnderWay_iff hcall, endHandler, hstores, Bool.false_eq_true,
          if_false, IdempotencyWorld.answer, hpast, true_and, List.map_append, List.map_cons,
          List.map_nil, List.mem_append, List.mem_singleton, eq_comm (a := scope)]
        tauto

lemma isTouched_store {response : HandlerResponse β} (hcall : w.calls[i]? = some call)
    (hpoint : call.point = .insert response) (fails : Bool) {scope : String × String} :
    IsTouched (w.store i call.request response fails) scope ↔ IsTouched w scope := by
  have hpast : call.point.isPast = true := by rw [hpoint]; rfl
  simp only [store]
  split
  · simp only [IsTouched, isUnderWay_iff hcall, IdempotencyWorld.answer, hpast, true_and,
      List.map_append, List.map_cons, List.map_nil, List.mem_append, List.mem_singleton,
      eq_comm (a := scope)]
    tauto
  · next hfree =>
    simp only [Bool.or_eq_true, decide_eq_true_eq, not_or] at hfree
    have hrows : (w.rows.record (call.request.row response w.now)).entries =
        w.rows.entries ++ [call.request.row response w.now] := KeyedLog.entries_record hfree.2
    have hscope : (call.request.row response w.now).scope = call.request.scope := rfl
    simp only [IsTouched, isUnderWay_iff hcall, IdempotencyWorld.answer, hrows, hscope, hpast,
      true_and, List.map_append, List.map_cons, List.map_nil, List.mem_append, List.mem_singleton,
      eq_comm (a := scope)]
    tauto

/-- Only what a handler has returned is about to be stored. -/
def IsReturned (returned : List (IdempotentRequest × HandlerResponse β)) (call : IdempotentCall β) :
    Prop :=
  ∀ response, call.point = .insert response → (call.request, response) ∈ returned

lemma runsAccounted_startHandler (h : RunsAccounted w) (hcall : w.calls[i]? = some call)
    (hpoint : call.point = .lookup) (cached : Bool) :
    RunsAccounted (w.startHandler i call.request cached) := by
  refine ⟨fun scope => ?_, h.stored, ?_⟩
  · rw [isTouched_startHandler hcall hpoint, ← h.started]
    simp [startHandler, eq_comm]
  · exact InFlight.forall_mem_putBack (P := IsReturned w.returned) h.inserting
      fun response hresponse => by cases hresponse

lemma runsAccounted_answer (h : RunsAccounted w) (hcall : w.calls[i]? = some call)
    (hpoint : call.point = .lookup) (answer : IdempotencyAnswer β) :
    RunsAccounted (w.answer i call.request answer) := by
  refine ⟨fun scope => ?_, h.stored, ?_⟩
  · rw [isTouched_answer hcall hpoint]
    exact h.started scope
  · exact fun other hother => h.inserting other (InFlight.mem_of_mem_eraseIdx hother)

lemma runsAccounted_endHandler {cached : Bool} (h : RunsAccounted w)
    (hcall : w.calls[i]? = some call) (hpoint : call.point = .handler cached)
    (result : HandlerResult β) : RunsAccounted (w.endHandler i call.request cached result) := by
  have hstarted : ∀ scope, scope ∈ w.started.map IdempotentRequest.scope ↔
      IsTouched (w.endHandler i call.request cached result) scope := fun scope =>
    (h.started scope).trans (isTouched_endHandler hcall hpoint result).symm
  cases result with
  | throws =>
      exact ⟨hstarted, h.stored,
        fun other hother => h.inserting other (InFlight.mem_of_mem_eraseIdx hother)⟩
  | returns response =>
      have hstored : ∀ row ∈ w.rows.entries, ∃ returned ∈ w.returned ++ [(call.request, response)],
          returned.1.scope = row.scope ∧ returned.2.status = row.responseStatus ∧
            returned.2.body = row.responseBody := by
        intro row hrow
        obtain ⟨returned, hreturned, hsame⟩ := h.stored row hrow
        exact ⟨returned, List.mem_append_left _ hreturned, hsame⟩
      have hinserting : ∀ other ∈ w.calls, IsReturned (w.returned ++ [(call.request, response)])
          other := fun other hother response' hresponse =>
        List.mem_append_left _ (h.inserting other hother response' hresponse)
      simp only [endHandler] at hstarted ⊢
      split at hstarted
      · next hstores =>
        rw [if_pos hstores]
        refine ⟨hstarted, hstored, InFlight.forall_mem_putBack hinserting ?_⟩
        rintro _ ⟨⟩
        exact List.mem_append_right _ List.mem_cons_self
      · next hstores =>
        rw [if_neg hstores]
        exact ⟨hstarted, hstored,
          fun other hother => hinserting other (InFlight.mem_of_mem_eraseIdx hother)⟩

lemma runsAccounted_store {response : HandlerResponse β} (h : RunsAccounted w)
    (hcall : w.calls[i]? = some call) (hpoint : call.point = .insert response) (fails : Bool) :
    RunsAccounted (w.store i call.request response fails) := by
  have hstarted : ∀ scope, scope ∈ w.started.map IdempotentRequest.scope ↔
      IsTouched (w.store i call.request response fails) scope := fun scope =>
    (h.started scope).trans (isTouched_store hcall hpoint fails).symm
  have hinserting : ∀ other ∈ w.calls.eraseIdx i, IsReturned w.returned other :=
    fun other hother => h.inserting other (InFlight.mem_of_mem_eraseIdx hother)
  simp only [store] at hstarted ⊢
  split at hstarted
  · next hfails =>
    rw [if_pos hfails]
    exact ⟨hstarted, h.stored, hinserting⟩
  · next hfails =>
    rw [if_neg hfails]
    refine ⟨hstarted, fun row hrow => ?_, hinserting⟩
    rcases KeyedLog.mem_record hrow with hold | rfl
    · exact h.stored row hold
    · exact ⟨_, h.inserting call (List.mem_of_getElem? hcall) response hpoint, rfl, rfl, rfl⟩

lemma runsAccounted_step (h : RunsAccounted w) (hretention : InRetention w a)
    (hstep : w.step a = some w') : RunsAccounted w' := by
  cases a with
  | waits ms =>
      obtain rfl := Option.some.inj hstep
      exact ⟨h.started, h.stored, h.inserting⟩
  | posts header route userId =>
      simp only [step] at hstep
      split at hstep
      · obtain rfl := Option.some.inj hstep
        refine ⟨fun scope => ?_, h.stored, ?_⟩
        · rw [h.started]
          simp [IsTouched, isUnderWay_append, IdempotencyPoint.isPast]
        · rw [List.forall_mem_append]
          exact ⟨h.inserting, by simp⟩
      · cases hstep
      · cases hstep
  | looksUp i fails =>
      obtain ⟨call, hcall, hstep⟩ := Option.bind_eq_some_iff.mp hstep
      split at hstep
      · next hpoint =>
        split at hstep
        · obtain rfl := Option.some.inj hstep
          exact runsAccounted_startHandler h hcall hpoint false
        · split at hstep
          · obtain rfl := Option.some.inj hstep
            exact runsAccounted_answer h hcall hpoint _
          · obtain rfl := Option.some.inj hstep
            exact runsAccounted_startHandler h hcall hpoint true
      · cases hstep
  | handlerEnds i result =>
      obtain ⟨call, hcall, hstep⟩ := Option.bind_eq_some_iff.mp hstep
      split at hstep
      · next cached hpoint =>
        obtain rfl := Option.some.inj hstep
        exact runsAccounted_endHandler h hcall hpoint result
      · cases hstep
  | inserts i fails =>
      obtain ⟨call, hcall, hstep⟩ := Option.bind_eq_some_iff.mp hstep
      split at hstep
      · next response hpoint =>
        obtain rfl := Option.some.inj hstep
        exact runsAccounted_store h hcall hpoint fails
      · cases hstep
  | prunes =>
      obtain rfl := Option.some.inj hstep
      rw [KeyedLog.remove_of_forall hretention]
      exact ⟨h.started, h.stored, h.inserting⟩

/-! ## Starts and answers -/

/-- A second start comes with a look-up for what has been touched. -/
lemma oncePerKey_startHandler (h : RunsAccounted w) (honce : OncePerKey w)
    (request : IdempotentRequest) (cached : Bool) :
    OncePerKey (w.startHandler i request cached) ↔ ¬IsTouched w request.scope := by
  rw [← h.started]
  have hstarted : (w.startHandler i request cached).started.map IdempotentRequest.scope =
      w.started.map IdempotentRequest.scope ++ [request.scope] := List.map_append
  constructor
  · intro honce' hmem
    have hnodup := honce'.1
    rw [hstarted, List.nodup_append] at hnodup
    exact hnodup.2.2 _ hmem _ List.mem_cons_self rfl
  · intro hfresh
    refine ⟨?_, honce.2⟩
    rw [hstarted, ← List.concat_eq_append]
    exact honce.1.concat hfresh

/-- The answer from a row is the response it keeps when it is of the request's route and user. -/
lemma answer_eq_responds_iff {row : IdempotencyRow β} {request : IdempotentRequest} {status : ℕ}
    {body : β} :
    row.answer request = .responds status body ↔
      (row.route = request.route ∧ row.userId = request.userId) ∧ row.responseStatus = status ∧
        row.responseBody = body := by
  unfold IdempotencyRow.answer
  split
  · next hroute => simp [hroute]
  · next hroute =>
    split
    · next huser => simp [huser]
    · next huser => simp [not_not.mp hroute, not_not.mp huser]

/-- A request that finds a row is answered with a response to its key and route exactly when the
row is of its own route and user. -/
lemma oncePerKey_answer (h : RunsAccounted w) (honce : OncePerKey w) {row : IdempotencyRow β}
    {request : IdempotentRequest} (hrow : w.rows.get? request.key = some row) :
    OncePerKey (w.answer i request (row.answer request)) ↔
      row.route = request.route ∧ row.userId = request.userId := by
  obtain ⟨hmem, hkey⟩ := KeyedLog.get?_eq_some.mp hrow
  constructor
  · intro honce'
    obtain ⟨returned, -, -, hanswer⟩ := honce'.2 (request, row.answer request)
      (List.mem_append_right _ List.mem_cons_self)
    exact (answer_eq_responds_iff.mp hanswer).1
  · intro hown
    refine ⟨honce.1, ?_⟩
    simp only [IdempotencyWorld.answer, List.forall_mem_append, List.forall_mem_singleton]
    refine ⟨honce.2, ?_⟩
    obtain ⟨returned, hreturned, hscope, hstatus, hbody⟩ := h.stored row hmem
    refine ⟨returned, hreturned, ?_, ?_⟩
    · rw [hscope]
      exact Prod.ext hkey hown.1
    · rw [answer_eq_responds_iff, hstatus, hbody]
      exact ⟨hown, rfl, rfl⟩

lemma oncePerKey_endHandler (honce : OncePerKey w) (request : IdempotentRequest) (cached : Bool)
    (result : HandlerResult β) : OncePerKey (w.endHandler i request cached result) := by
  cases result with
  | throws => exact honce
  | returns response =>
      have hold : ∀ answered ∈ w.answers, ∃ returned ∈ w.returned ++ [(request, response)],
          returned.1.scope = answered.1.scope ∧
            answered.2 = .responds returned.2.status returned.2.body := by
        intro answered hanswered
        obtain ⟨returned, hreturned, hsame⟩ := honce.2 answered hanswered
        exact ⟨returned, List.mem_append_left _ hreturned, hsame⟩
      simp only [endHandler]
      split
      · exact ⟨honce.1, hold⟩
      · refine ⟨honce.1, ?_⟩
        simp only [IdempotencyWorld.answer, List.forall_mem_append, List.forall_mem_singleton]
        exact ⟨hold, (request, response), List.mem_append_right _ List.mem_cons_self, rfl, rfl⟩

lemma oncePerKey_store {response : HandlerResponse β} (h : RunsAccounted w) (honce : OncePerKey w)
    (hcall : w.calls[i]? = some call) (hpoint : call.point = .insert response) (fails : Bool) :
    OncePerKey (w.store i call.request response fails) := by
  have hanswers : ∀ answered ∈ w.answers ++
      [(call.request, IdempotencyAnswer.responds response.status response.body)],
      ∃ returned ∈ w.returned, returned.1.scope = answered.1.scope ∧
        answered.2 = .responds returned.2.status returned.2.body := by
    simp only [List.forall_mem_append, List.forall_mem_singleton]
    exact ⟨honce.2, _, h.inserting call (List.mem_of_getElem? hcall) response hpoint, rfl, rfl⟩
  simp only [store]
  split
  · exact ⟨honce.1, hanswers⟩
  · exact ⟨honce.1, hanswers⟩

/-- A step keeps to one run for each key exactly when it looks up in time. -/
lemma looksUpInTime_iff (h : RunsAccounted w) (honce : OncePerKey w)
    (hstep : w.step a = some w') : LooksUpInTime w a ↔ OncePerKey w' := by
  cases a with
  | waits ms =>
      obtain rfl := Option.some.inj hstep
      exact iff_of_true trivial honce
  | posts header route userId =>
      simp only [step] at hstep
      split at hstep
      · obtain rfl := Option.some.inj hstep
        exact iff_of_true trivial honce
      · cases hstep
      · cases hstep
  | looksUp i fails =>
      obtain ⟨call, hcall, hstep⟩ := Option.bind_eq_some_iff.mp hstep
      have hcondition : LooksUpInTime w (.looksUp i fails) ↔
          match if fails then none else w.rows.get? call.request.key with
          | some row => row.route = call.request.route ∧ row.userId = call.request.userId
          | none => ¬IsTouched w call.request.scope := by
        simp only [LooksUpInTime, hcall, Option.mem_some_iff, forall_eq']
      split at hstep
      · split at hstep
        · next hfails =>
          obtain rfl := Option.some.inj hstep
          rw [hcondition, if_pos hfails]
          exact (oncePerKey_startHandler h honce call.request false).symm
        · next hfails =>
          rw [if_neg hfails] at hcondition
          have hfound : ∀ row, w.rows.get? call.request.key = some row →
              (LooksUpInTime w (.looksUp i fails) ↔
                row.route = call.request.route ∧ row.userId = call.request.userId) :=
            fun row hrow => by rw [hcondition, hrow]
          have hnew : w.rows.get? call.request.key = none →
              (LooksUpInTime w (.looksUp i fails) ↔ ¬IsTouched w call.request.scope) :=
            fun hrow => by rw [hcondition, hrow]
          split at hstep
          · next row hrow =>
            obtain rfl := Option.some.inj hstep
            rw [hfound row hrow]
            exact (oncePerKey_answer h honce hrow).symm
          · next hrow =>
            obtain rfl := Option.some.inj hstep
            rw [hnew hrow]
            exact (oncePerKey_startHandler h honce call.request true).symm
      · cases hstep
  | handlerEnds i result =>
      obtain ⟨call, hcall, hstep⟩ := Option.bind_eq_some_iff.mp hstep
      split at hstep
      · next cached hpoint =>
        obtain rfl := Option.some.inj hstep
        exact iff_of_true trivial (oncePerKey_endHandler honce call.request cached result)
      · cases hstep
  | inserts i fails =>
      obtain ⟨call, hcall, hstep⟩ := Option.bind_eq_some_iff.mp hstep
      split at hstep
      · next response hpoint =>
        obtain rfl := Option.some.inj hstep
        exact iff_of_true trivial (oncePerKey_store h honce hcall hpoint fails)
      · cases hstep
  | prunes =>
      obtain rfl := Option.some.inj hstep
      exact iff_of_true trivial honce

end Steps

/-- The system has one run of the handler for each key and route, and all answers from it, exactly
as long as each request that runs the handler looks up before any other run of its key and route
has started, and each request that finds a row finds its own. -/
theorem oncePerKey_iff {as : List (IdempotencyAction β)}
    (hretention : Meets IdempotencyWorld.step InRetention .initial as) :
    Always IdempotencyWorld.step OncePerKey .initial as ↔
      Meets IdempotencyWorld.step LooksUpInTime .initial as := by
  have hstart : RunsAccounted (.initial : IdempotencyWorld β) ∧
      OncePerKey (.initial : IdempotencyWorld β) := by
    refine ⟨⟨fun scope => ?_, by simp [IdempotencyWorld.initial, KeyedLog.empty], by
      simp [IdempotencyWorld.initial]⟩, List.nodup_nil, by simp [IdempotencyWorld.initial]⟩
    simp [IsTouched, IsUnderWay, IdempotencyWorld.initial, KeyedLog.empty]
  have hiff := meets_iff_eachStep (I := fun w => RunsAccounted w ∧ OncePerKey w)
    (Q := fun _ _ w' => OncePerKey w')
    (fun _ _ _ hw hA hC hstep => ⟨runsAccounted_step hw.1 hA hstep,
      (looksUpInTime_iff hw.1 hw.2 hstep).mp hC⟩)
    (fun _ _ _ hw _ hstep => looksUpInTime_iff hw.1 hw.2 hstep) hstart hretention
  exact (and_iff_right hstart.2).trans hiff.symm

namespace Scenario

/-- A request of no user. -/
def keyedRequest : IdempotencyAction ℕ :=
  .posts (some " K1") "POST /api/devices/scan-result" none

/-- The request is repeated after its response has been stored. -/
def repeatedRequest : List (IdempotencyAction ℕ) :=
  [keyedRequest, .looksUp 0 false, .handlerEnds 0 (.returns ⟨200, true, 1⟩), .inserts 0 false,
    keyedRequest, .looksUp 0 false]

/-- The request is repeated while its handler is running. -/
def hastyRequest : List (IdempotencyAction ℕ) :=
  [keyedRequest, .looksUp 0 false, keyedRequest, .looksUp 1 false,
    .handlerEnds 0 (.returns ⟨200, true, 1⟩), .handlerEnds 0 (.returns ⟨404, true, 2⟩)]

end Scenario

open Scenario

theorem oncePerKey_repeatedRequest :
    Always IdempotencyWorld.step OncePerKey .initial repeatedRequest :=
  (oncePerKey_iff (by decide +kernel)).mpr (by decide +kernel)

/-- A request that is repeated at once runs the handler a second time. -/
theorem not_oncePerKey_hastyRequest :
    Meets IdempotencyWorld.step InRetention .initial hastyRequest ∧
      ¬Always IdempotencyWorld.step OncePerKey .initial hastyRequest := by
  decide +kernel

end ExpresSync
