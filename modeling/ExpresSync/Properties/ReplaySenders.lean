import ExpresSync.Foundation.Transition
import ExpresSync.Model.IdempotentRoutes
import ExpresSync.Properties.OncePerKey

/-!
# Whose responses are replayed

A row is found by its key and goes with the constant of the route and the id of the user.  As long
as different senders, or requests for different paths, do not come with the same three, a stored
response goes back to the sender of its request (`ReplayWorld.stays_with_sender_of_keys_apart`).
-/

namespace ExpresSync

open Transition

namespace ReplayWorld

section

variable {β : Type*}

/-- Nobody else has sent a request with this key, route constant and user id, and none was for
another path. -/
def KeysApart (w : ReplayWorld β) : ReplayAction β → Prop
  | .posts header route sender => ∀ request ∈ route.request header sender,
      ∀ earlier ∈ w.sent, earlier.2 = request → earlier.1 = sender
  | .goesOn _ => True

instance (w : ReplayWorld β) (a : ReplayAction β) : Decidable (w.KeysApart a) :=
  match a with
  | .posts header route sender => inferInstanceAs (Decidable
      (∀ request ∈ route.request header sender, ∀ earlier ∈ w.sent, _ → _))
  | .goesOn _ => inferInstanceAs (Decidable True)

/-! ## Calls -/

/-- The call `i` is answered or goes on. -/
def MovesOn (w w' : IdempotencyWorld β) (i : ℕ) (call : IdempotentCall β) : Prop :=
  w'.calls = w.calls.eraseIdx i ∨ ∃ point, w'.calls = w.calls.eraseIdx i ++ [⟨call.request, point⟩]

variable {w w' : IdempotencyWorld β} {i : ℕ} {call : IdempotentCall β}

lemma movesOn_of_looksUp {fails : Bool} (h : w.step (.looksUp i fails) = some w') :
    ∃ call, w.calls[i]? = some call ∧ MovesOn w w' i call ∧ w'.rows = w.rows := by
  obtain ⟨call, hcall, h⟩ := Option.bind_eq_some_iff.mp h
  refine ⟨call, hcall, ?_⟩
  split at h
  · split at h
    · obtain rfl := Option.some.inj h
      exact ⟨Or.inr ⟨_, rfl⟩, rfl⟩
    · split at h
      · obtain rfl := Option.some.inj h
        exact ⟨Or.inl rfl, rfl⟩
      · obtain rfl := Option.some.inj h
        exact ⟨Or.inr ⟨_, rfl⟩, rfl⟩
  · cases h

lemma movesOn_of_handlerEnds {result : HandlerResult β}
    (h : w.step (.handlerEnds i result) = some w') :
    ∃ call, w.calls[i]? = some call ∧ MovesOn w w' i call ∧ w'.rows = w.rows := by
  obtain ⟨call, hcall, h⟩ := Option.bind_eq_some_iff.mp h
  refine ⟨call, hcall, ?_⟩
  split at h
  · obtain rfl := Option.some.inj h
    cases result with
    | throws => exact ⟨Or.inl rfl, rfl⟩
    | returns response =>
        unfold IdempotencyWorld.endHandler
        dsimp only
        split
        · exact ⟨Or.inr ⟨_, rfl⟩, rfl⟩
        · exact ⟨Or.inl rfl, rfl⟩
  · cases h

/-- A row that is stored is that of the call. -/
lemma movesOn_of_inserts {fails : Bool} (h : w.step (.inserts i fails) = some w') :
    ∃ call, w.calls[i]? = some call ∧ MovesOn w w' i call ∧
      (w'.rows = w.rows ∨ ¬w.rows.Has call.request.key ∧ ∃ response now,
        w'.rows = w.rows.record (call.request.row response now)) := by
  obtain ⟨call, hcall, h⟩ := Option.bind_eq_some_iff.mp h
  refine ⟨call, hcall, ?_⟩
  split at h
  · next response _ =>
      obtain rfl := Option.some.inj h
      unfold IdempotencyWorld.store
      dsimp only
      split
      · exact ⟨Or.inl rfl, Or.inl rfl⟩
      · next hstored =>
          refine ⟨Or.inl rfl, Or.inr ⟨?_, response, w.now, rfl⟩⟩
          intro hhas
          apply hstored
          simp [IdempotencyWorld.answer, hhas]
  · cases h

lemma MovesOn.lt_iff (h : MovesOn w w' i call) (hcall : w.calls[i]? = some call) :
    w'.calls.length < w.calls.length ↔ w'.calls = w.calls.eraseIdx i := by
  obtain ⟨hlt, -⟩ := List.getElem?_eq_some_iff.mp hcall
  have herased : (w.calls.eraseIdx i).length + 1 = w.calls.length := by
    rw [List.length_eraseIdx_of_lt hlt]
    omega
  constructor
  · intro hless
    rcases h with hanswered | ⟨point, hon⟩
    · exact hanswered
    · rw [hon, List.length_append, List.length_singleton, herased] at hless
      exact absurd hless (lt_irrefl _)
  · intro hanswered
    rw [hanswered]
    omega

end

/-! ## Senders -/

section

variable {β : Type*} {w w' : ReplayWorld β} {world : IdempotencyWorld β} {i : ℕ}
  {call : IdempotentCall β}

/-- A sender has sent the request of a call. -/
def Sent (sent : List (Sender × IdempotentRequest)) (call : IdempotentCall β) (sender : Sender) :
    Prop :=
  (sender, call.request) ∈ sent

/-- Calls and rows are of requests that have been sent, and one request has one sender. -/
structure Traced (w : ReplayWorld β) : Prop where
  calls : List.Forall₂ (Sent w.sent) w.world.calls w.senders
  rows : ∀ row ∈ w.world.rows.entries, ∃ sender, w.origin row.key = some sender ∧
    (sender, ⟨row.key, row.route, row.userId⟩) ∈ w.sent
  apart : ∀ a ∈ w.sent, ∀ b ∈ w.sent, a.2 = b.2 → a.1 = b.1
  stays : w.StaysWithSender

lemma Traced.calls_follow (h : w.Traced) (hcall : w.world.calls[i]? = some call)
    (hmoves : MovesOn w.world world i call) :
    List.Forall₂ (Sent w.sent) world.calls (w.follow i world).senders := by
  obtain ⟨sender, hsender, hsent⟩ := InFlight.exists_of_forall₂ h.calls hcall
  have hrest := InFlight.forall₂_eraseIdx h.calls i
  by_cases hanswered : world.calls = w.world.calls.eraseIdx i
  · have hless := (hmoves.lt_iff hcall).mpr hanswered
    simp only [follow, hless, if_true, List.append_nil]
    rw [hanswered]
    exact hrest
  · have hless := mt (hmoves.lt_iff hcall).mp hanswered
    obtain ⟨point, hon⟩ := hmoves.resolve_left hanswered
    simp only [follow, hless, if_false, hsender, Option.toList_some]
    rw [hon]
    exact InFlight.forall₂_concat hrest hsent

/-- A replay is of a response to the same request. -/
lemma Traced.replay (h : w.Traced) {replay : Sender × Option Sender}
    (hreplay : w.replay? i = some replay) : replay.2 = some replay.1 := by
  unfold replay? at hreplay
  split at hreplay
  · next sender call hsender hcall =>
      obtain ⟨row, hrow, hreplay⟩ := Option.bind_eq_some_iff.mp hreplay
      obtain ⟨hmem, hkey⟩ := KeyedLog.get?_eq_some.mp hrow
      obtain ⟨source, horigin, hsource⟩ := h.rows row hmem
      obtain ⟨sender', hsender', hsent⟩ := InFlight.exists_of_forall₂ h.calls hcall
      rw [hsender] at hsender'
      obtain rfl := Option.some.inj hsender'
      split at hreplay
      · next hanswer =>
          obtain rfl := Option.some.inj hreplay
          have hsame := (answer_eq_responds_iff.mp hanswer).1
          have hrequest :
              (⟨row.key, row.route, row.userId⟩ : IdempotentRequest) = call.request := by
            rw [hkey, hsame.1, hsame.2]
          have hsender := h.apart _ hsource _ hsent hrequest
          show w.origin call.request.key = some sender
          rw [← hkey, horigin]
          exact congrArg some hsender
      · cases hreplay
  · cases hreplay

/-- What is sent later does not concern earlier calls. -/
lemma Sent.mono {sent sent' : List (Sender × IdempotentRequest)} {sender : Sender}
    (hsub : sent ⊆ sent') (h : Sent sent call sender) : Sent sent' call sender := hsub h

lemma Traced.posts (h : w.Traced) {header : Option String} {route : WrappedRoute} {sender : Sender}
    (hapart : w.KeysApart (.posts header route sender))
    (hstep : w.step (.posts header route sender) = some w') : w'.Traced := by
  cases hrequest : route.request header sender with
  | none =>
      simp only [ReplayWorld.step, hrequest] at hstep
      cases hstep
  | some request =>
      simp only [ReplayWorld.step, hrequest] at hstep
      obtain ⟨world, hworld, rfl⟩ := Option.map_eq_some_iff.mp hstep
      have hkeyed : ∃ key, readKeyHeader header = .key key ∧ request.key = key := by
        unfold WrappedRoute.request at hrequest
        split at hrequest
        · next key userId hkey _ =>
            split at hrequest
            · obtain rfl := Option.some.inj hrequest
              exact ⟨key, hkey, rfl⟩
            · cases hrequest
        · cases hrequest
      obtain ⟨key, hkey, rfl⟩ := hkeyed
      simp only [IdempotencyWorld.step, hkey] at hworld
      obtain rfl := Option.some.inj hworld
      have hsub : w.sent ⊆ w.sent ++ [(sender, request)] := List.subset_append_left _ _
      have hnew : (sender, request) ∈ w.sent ++ [(sender, request)] :=
        List.mem_append_right _ (List.mem_singleton.mpr rfl)
      refine ⟨?_, ?_, ?_, h.stays⟩
      · exact InFlight.forall₂_concat (h.calls.imp fun _ _ => Sent.mono hsub) hnew
      · intro row hrow
        obtain ⟨source, horigin, hsource⟩ := h.rows row hrow
        exact ⟨source, horigin, hsub hsource⟩
      · intro a ha b hb hsame
        rcases List.mem_append.mp ha with ha | ha <;> rcases List.mem_append.mp hb with hb | hb
        · exact h.apart a ha b hb hsame
        · obtain rfl := List.mem_singleton.mp hb
          exact hapart request hrequest a ha hsame
        · obtain rfl := List.mem_singleton.mp ha
          exact (hapart request hrequest b hb hsame.symm).symm
        · rw [List.mem_singleton.mp ha, List.mem_singleton.mp hb]

/-- A call moves on, and the rows stay. -/
lemma Traced.follow (h : w.Traced) (hcall : w.world.calls[i]? = some call)
    (hmoves : MovesOn w.world world i call) (hrows : world.rows = w.world.rows) :
    (w.follow i world).Traced := by
  refine ⟨h.calls_follow hcall hmoves, ?_, h.apart, h.stays⟩
  intro row hrow
  have hold : row ∈ w.world.rows.entries := by
    rw [← hrows]
    exact hrow
  exact h.rows row hold

lemma Traced.inserts (h : w.Traced) {fails : Bool}
    (hstep : w.step (.goesOn (.inserts i fails)) = some w') : w'.Traced := by
  obtain ⟨world, hworld, rfl⟩ := Option.map_eq_some_iff.mp hstep
  obtain ⟨call, hcall, hmoves, hrows⟩ := movesOn_of_inserts hworld
  obtain ⟨sender, hsender, hsent⟩ := InFlight.exists_of_forall₂ h.calls hcall
  refine ⟨h.calls_follow hcall hmoves, ?_, h.apart, h.stays⟩
  intro row hrow
  have hwas : ∀ row ∈ w.world.rows.entries, w.world.rows.Has row.key := fun row hrow =>
    List.mem_map.mpr ⟨row, hrow, rfl⟩
  rcases hrows with hsame | ⟨hfree, response, now, hstored⟩
  · have hold : row ∈ w.world.rows.entries := by
      rw [← hsame]
      exact hrow
    have hthere : ¬(world.rows.Has row.key ∧ ¬w.world.rows.Has row.key) :=
      fun hnew => hnew.2 (hwas row hold)
    dsimp only
    rw [if_neg hthere]
    exact h.rows row hold
  · have hentries : world.rows.entries =
        w.world.rows.entries ++ [call.request.row response now] := by
      rw [hstored]
      exact KeyedLog.entries_record hfree
    replace hrow : row ∈ world.rows.entries := hrow
    rw [hentries] at hrow
    rcases List.mem_append.mp hrow with hold | hnew
    · have hthere : ¬(world.rows.Has row.key ∧ ¬w.world.rows.Has row.key) :=
        fun hnew => hnew.2 (hwas row hold)
      dsimp only
      rw [if_neg hthere]
      exact h.rows row hold
    · obtain rfl := List.mem_singleton.mp hnew
      have hhas : world.rows.Has (call.request.row response now).key ∧
          ¬w.world.rows.Has (call.request.row response now).key := by
        refine ⟨List.mem_map.mpr ⟨_, ?_, rfl⟩, hfree⟩
        rw [hentries]
        exact List.mem_append_right _ (List.mem_singleton.mpr rfl)
      refine ⟨sender, ?_, hsent⟩
      dsimp only
      rw [if_pos hhas]
      exact hsender

lemma Traced.step {a : ReplayAction β} (h : w.Traced) (hapart : w.KeysApart a)
    (hstep : w.step a = some w') : w'.Traced := by
  cases a with
  | posts header route sender => exact h.posts hapart hstep
  | goesOn a =>
      cases a with
      | posts header route userId => cases hstep
      | inserts i fails => exact h.inserts hstep
      | handlerEnds i result =>
          obtain ⟨world, hworld, rfl⟩ := Option.map_eq_some_iff.mp hstep
          obtain ⟨call, hcall, hmoves, hrows⟩ := movesOn_of_handlerEnds hworld
          exact h.follow hcall hmoves hrows
      | looksUp i fails =>
          obtain ⟨world, hworld, rfl⟩ := Option.map_eq_some_iff.mp hstep
          obtain ⟨call, hcall, hmoves, hrows⟩ := movesOn_of_looksUp hworld
          obtain ⟨hcalls, hrows', happart, hstays⟩ := h.follow hcall hmoves hrows
          refine ⟨hcalls, hrows', happart, ?_⟩
          intro replay hreplay
          rcases List.mem_append.mp hreplay with hold | hnew
          · exact h.stays replay hold
          · split at hnew
            · exact absurd hnew List.not_mem_nil
            · exact h.replay (Option.mem_toList.mp hnew)
      | waits ms =>
          obtain rfl := Option.some.inj hstep
          exact ⟨h.calls, h.rows, h.apart, h.stays⟩
      | prunes =>
          obtain rfl := Option.some.inj hstep
          refine ⟨h.calls, fun row hrow => ?_, h.apart, h.stays⟩
          exact h.rows row (List.mem_of_mem_filter hrow)

/-- A stored response goes back to the sender of its request, for the same path, in every run in
which a key is not used by two senders, or for two paths, with the same route constant and the same
user id or none. -/
theorem stays_with_sender_of_keys_apart {β : Type*} (as : List (ReplayAction β))
    (h : Meets ReplayWorld.step KeysApart (initial : ReplayWorld β) as) :
    Always ReplayWorld.step StaysWithSender (initial : ReplayWorld β) as := by
  have hstart : (initial : ReplayWorld β).Traced :=
    ⟨.nil, fun _ hrow => absurd hrow List.not_mem_nil, fun _ ha => absurd ha List.not_mem_nil,
      fun _ hreplay => absurd hreplay List.not_mem_nil⟩
  exact ⟨hstart.stays, Meets.eachStep (fun _ _ _ hI hC hstep => hI.step hC hstep)
    (fun _ _ _ hI hC hstep => (hI.step hC hstep).stays) hstart h⟩

end

/-! ## One key -/

/-- A request is answered and its response stored; then comes another with the same key. -/
def sameKey (route : WrappedRoute) (first second : Sender) : List (ReplayAction ℕ) :=
  [.posts (some "key") route first, .goesOn (.looksUp 0 false),
    .goesOn (.handlerEnds 0 (.returns ⟨200, true, 7⟩)), .goesOn (.inserts 0 false),
    .posts (some "key") route second, .goesOn (.looksUp 0 false)]

/-- A device repeats its request. -/
theorem stays_with_sender_of_keys_apart_repeated :
    Always ReplayWorld.step StaysWithSender (initial : ReplayWorld ℕ)
      (sameKey .start ⟨.device "token-1", some "CP-1"⟩ ⟨.device "token-1", some "CP-1"⟩) :=
  stays_with_sender_of_keys_apart _ (by decide +kernel)

/-- The response to one device goes to another, that to one registration to another, and that for
one device id to a request for another. -/
theorem replays_cross_senders :
    ¬Always ReplayWorld.step StaysWithSender (initial : ReplayWorld ℕ)
        (sameKey .start ⟨.device "token-1", some "CP-1"⟩ ⟨.device "token-2", some "CP-1"⟩) ∧
      ¬Always ReplayWorld.step StaysWithSender (initial : ReplayWorld ℕ)
        (sameKey .register ⟨.client "phone-1", none⟩ ⟨.client "phone-2", none⟩) ∧
      ¬Always ReplayWorld.step StaysWithSender (initial : ReplayWorld ℕ)
        (sameKey .rename ⟨.user "admin", some "device-1"⟩ ⟨.user "admin", some "device-2"⟩) := by
  decide +kernel

end ReplayWorld

end ExpresSync
