import ExpresSync.Foundation.Transition
import ExpresSync.Model.EventBus
import Mathlib.Data.List.Nodup

/-!
# What each subscriber receives

Whatever the handlers do while an event is handed round, a subscriber receives each event for it
once, unless it leaves before its turn (`always_deliversOnce`).  Events come in the order of their
numbers, but that what a handler publishes is handed round before the event it was called for has
got to everybody.
-/

namespace ExpresSync

open Transition DeliveryWorld

variable {P : Type*} {workerId : String} {w w' : DeliveryWorld P}

/-- What the subscribers have received. -/
structure DeliversOnce (w : DeliveryWorld P) : Prop where
  wanted : ∀ d ∈ w.received, d.1.wants d.2 = true ∧ ∃ pub ∈ w.published, pub.event = d.2
  nodup : w.received.Nodup
  delivered : ∀ pub ∈ w.published, ∀ sub ∈ pub.subs, sub.wants pub.event = true →
    (sub, pub.event) ∈ w.received ∨ w.IsToCome pub.event sub ∨ sub ∈ pub.left
  /-- Of two events the first is the earlier one, or it has been published by a handler during the
  delivery of the other. -/
  ordered : w.received.Pairwise fun a b => a.1 = b.1 →
    a.2.seq < b.2.seq ∨ ∃ pub ∈ w.published, pub.event = a.2 ∧ b.2 ∈ pub.during

/-- Each subscriber receives the events in the order of their numbers. -/
def StrictlyInOrder (w : DeliveryWorld P) : Prop :=
  w.received.Pairwise fun a b => a.1 = b.1 → a.2.seq < b.2.seq

instance (w : DeliveryWorld P) : Decidable (StrictlyInOrder w) :=
  inferInstanceAs (Decidable (List.Pairwise _ _))

/-- At the end of all deliveries those have received an event for whom it was published. -/
def AllReceived (w : DeliveryWorld P) : Prop :=
  w.loops = [] → ∀ pub ∈ w.published, ∀ sub ∈ pub.subs, sub.wants pub.event = true →
    (sub, pub.event) ∈ w.received

/-- The deliveries in progress, as what has been published and received makes them. -/
structure Delivering (w : DeliveryWorld P) : Prop extends DeliversOnce w where
  ids : ∀ sub ∈ w.subs, sub.id < w.made
  subs : w.subs.Pairwise fun a b => a.id < b.id
  numbered : ∀ pub ∈ w.published, pub.event.seq ≤ w.bus.seq
  published : w.published.Pairwise fun a b => a.event.seq < b.event.seq
  loops : ∀ loop ∈ w.loops, ∃ pub ∈ w.published, pub.event = loop.event
  inner : w.loops.Pairwise fun a b => b.event.seq < a.event.seq
  during : ∀ pub ∈ w.published, ∀ loop ∈ w.loops, loop.event.seq < pub.event.seq →
    loop.event ∈ pub.during
  passed : ∀ loop ∈ w.loops, ∀ d ∈ w.received, d.2 = loop.event → d.1.id < loop.next

/-- Without handlers that publish, the events come in order. -/
lemma DeliversOnce.strictlyInOrder (h : DeliversOnce w)
    (hplain : ∀ pub ∈ w.published, pub.during = []) : StrictlyInOrder w := by
  refine h.ordered.imp fun hab heq => (hab heq).resolve_right ?_
  rintro ⟨pub, hpub, -, hduring⟩
  rw [hplain pub hpub] at hduring
  cases hduring

/-- The numbers tell the events apart. -/
lemma Delivering.event_eq (h : Delivering w) {a b : PublishedEvent P} (ha : a ∈ w.published)
    (hb : b ∈ w.published) (hseq : a.event.seq = b.event.seq) : a.event = b.event := by
  have hnodup : (w.published.map fun pub => pub.event.seq).Nodup :=
    List.pairwise_map.mpr (h.published.imp fun hlt => hlt.ne)
  rw [List.inj_on_of_nodup_map hnodup ha hb hseq]

lemma Delivering.event_eq_of_loop (h : Delivering w) {pub : PublishedEvent P} {loop : FanOut P}
    (hpub : pub ∈ w.published) (hloop : loop ∈ w.loops) (hseq : loop.event.seq = pub.event.seq) :
    loop.event = pub.event := by
  obtain ⟨other, hother, heq⟩ := h.loops loop hloop
  rw [← heq]
  exact h.event_eq hother hpub (heq ▸ hseq)

/-! ## The steps -/

/-- A delivery begins. -/
lemma Delivering.begin (h : Delivering w) (p : Publication P) :
    Delivering (w.begin workerId p) := by
  set e : DeliveredEvent P := w.bus.nextEvent workerId p.ts p.type p.payload with he
  have hseq : e.seq = w.bus.seq + 1 := rfl
  have hpublished : (w.begin workerId p).published =
      w.published ++ [⟨e, w.loops.map FanOut.event, w.subs, []⟩] := rfl
  have hloops : (w.begin workerId p).loops = ⟨e, 0⟩ :: w.loops := rfl
  have hbefore : ∀ loop ∈ w.loops, loop.event.seq ≤ w.bus.seq := by
    intro loop hloop
    obtain ⟨pub, hpub, heq⟩ := h.loops loop hloop
    exact heq ▸ h.numbered pub hpub
  constructor
  case toDeliversOnce =>
    constructor
    case wanted =>
      intro d hd
      obtain ⟨hwants, pub, hpub, heq⟩ := h.wanted d hd
      exact ⟨hwants, pub, List.mem_append_left _ hpub, heq⟩
    case nodup => exact h.nodup
    case delivered =>
      intro pub hpub sub hsub hwants
      rcases List.mem_append.mp (hpublished ▸ hpub) with hold | hnew
      · refine (h.delivered pub hold sub hsub hwants).imp_right (Or.imp_left ?_)
        rintro ⟨hmem, loop, hloop, htocome⟩
        exact ⟨hmem, loop, List.mem_cons_of_mem _ hloop, htocome⟩
      · obtain rfl := List.mem_singleton.mp hnew
        exact Or.inr (Or.inl ⟨hsub, ⟨e, 0⟩, List.mem_cons_self, rfl, Nat.zero_le _⟩)
    case ordered =>
      refine h.ordered.imp fun hab heq => (hab heq).imp_right ?_
      rintro ⟨pub, hpub, hduring⟩
      exact ⟨pub, List.mem_append_left _ hpub, hduring⟩
  case ids => exact h.ids
  case subs => exact h.subs
  case numbered =>
    intro pub hpub
    show pub.event.seq ≤ w.bus.seq + 1
    rcases List.mem_append.mp (hpublished ▸ hpub) with hold | hnew
    · exact (h.numbered pub hold).trans (Nat.le_succ _)
    · obtain rfl := List.mem_singleton.mp hnew
      exact Nat.le_refl _
  case published =>
    rw [hpublished]
    refine List.pairwise_append.mpr ⟨h.published, List.pairwise_singleton _ _, fun a ha b hb => ?_⟩
    obtain rfl := List.mem_singleton.mp hb
    exact Nat.lt_succ_of_le (h.numbered a ha)
  case loops =>
    intro loop hloop
    rcases List.mem_cons.mp (hloops ▸ hloop) with rfl | hold
    · exact ⟨_, List.mem_append_right _ (List.mem_singleton_self _), rfl⟩
    · obtain ⟨pub, hpub, heq⟩ := h.loops loop hold
      exact ⟨pub, List.mem_append_left _ hpub, heq⟩
  case inner =>
    rw [hloops]
    exact List.pairwise_cons.mpr ⟨fun loop hloop => Nat.lt_succ_of_le (hbefore loop hloop), h.inner⟩
  case during =>
    intro pub hpub loop hloop hlt
    rcases List.mem_cons.mp (hloops ▸ hloop) with rfl | hold
    · rcases List.mem_append.mp (hpublished ▸ hpub) with hpold | hnew
      · have hle := h.numbered pub hpold
        change w.bus.seq + 1 < pub.event.seq at hlt
        omega
      · obtain rfl := List.mem_singleton.mp hnew
        exact absurd hlt (lt_irrefl _)
    · rcases List.mem_append.mp (hpublished ▸ hpub) with hpold | hnew
      · exact h.during pub hpold loop hold hlt
      · obtain rfl := List.mem_singleton.mp hnew
        exact List.mem_map_of_mem hold
  case passed =>
    intro loop hloop d hd heq
    rcases List.mem_cons.mp (hloops ▸ hloop) with rfl | hold
    · obtain ⟨-, pub, hpub, hevent⟩ := h.wanted d hd
      have hle := h.numbered pub hpub
      rw [hevent, heq] at hle
      exact absurd hle (Nat.not_succ_le_self _)
    · exact h.passed loop hold d hd heq

/-- The innermost delivery has got to everybody. -/
lemma Delivering.finish (h : Delivering w) {loop : FanOut P} {outer : List (FanOut P)}
    (hloops : w.loops = loop :: outer)
    (hnone : ∀ sub ∈ w.subs, loop.Awaits sub → sub.wants loop.event = false) :
    Delivering { w with loops := outer } := by
  have hsub : ∀ other ∈ outer, other ∈ w.loops := fun other hother =>
    hloops ▸ List.mem_cons_of_mem _ hother
  refine { h with
    delivered := ?_
    loops := fun other hother => h.loops other (hsub other hother)
    inner := (List.pairwise_cons.mp (hloops ▸ h.inner)).2
    during := fun pub hpub other hother => h.during pub hpub other (hsub other hother)
    passed := fun other hother => h.passed other (hsub other hother) }
  intro pub hpub sub hmem hwants
  refine (h.delivered pub hpub sub hmem hwants).imp_right (Or.imp_left ?_)
  rintro ⟨hsubs, other, hother, hseq, hawaits⟩
  rcases List.mem_cons.mp (hloops ▸ hother) with rfl | houter
  · have hevent := h.event_eq_of_loop hpub hother hseq
    rw [← hevent, hnone sub hsubs hawaits] at hwants
    cases hwants
  · exact ⟨hsubs, other, houter, hseq, hawaits⟩

/-- The innermost delivery gets to the next subscription. -/
lemma Delivering.deliver (h : Delivering w) {loop : FanOut P} {outer : List (FanOut P)}
    (hloops : w.loops = loop :: outer) {sub : BusSubscription} (hawaits : loop.Awaits sub)
    (hwants : sub.wants loop.event = true)
    (hnext : ∀ other ∈ w.subs, loop.Awaits other → other.wants loop.event = true →
      other = sub ∨ sub.id < other.id) :
    Delivering { w with
      loops := { loop with next := sub.id + 1 } :: outer
      received := w.received ++ [(sub, loop.event)] } := by
  have hself : loop ∈ w.loops := hloops ▸ List.mem_cons_self
  have houter : ∀ other ∈ outer, other ∈ w.loops := fun other hother =>
    hloops ▸ List.mem_cons_of_mem _ hother
  have hinner := List.pairwise_cons.mp (hloops ▸ h.inner)
  have hfresh : (sub, loop.event) ∉ w.received := fun hmem =>
    absurd (h.passed loop hself _ hmem rfl) (Nat.not_lt_of_le hawaits)
  constructor
  case toDeliversOnce =>
    constructor
    case wanted =>
      intro d hd
      rcases List.mem_append.mp hd with hold | hnew
      · exact h.wanted d hold
      · obtain rfl := List.mem_singleton.mp hnew
        exact ⟨hwants, h.loops loop hself⟩
    case nodup =>
      refine List.nodup_append.mpr ⟨h.nodup, List.nodup_singleton _, fun a ha b hb heq => ?_⟩
      obtain rfl := List.mem_singleton.mp hb
      exact hfresh (heq ▸ ha)
    case delivered =>
      intro pub hpub other hother howants
      rcases h.delivered pub hpub other hother howants with hold | htocome | hleft
      · exact Or.inl (List.mem_append_left _ hold)
      · obtain ⟨hsubs, turn, hturn, hseq, hlater⟩ := htocome
        rcases List.mem_cons.mp (hloops ▸ hturn) with rfl | hturn'
        · have hevent := h.event_eq_of_loop hpub hturn hseq
          rcases hnext other hsubs hlater (hevent ▸ howants) with rfl | hlt
          · exact Or.inl (List.mem_append_right _ (List.mem_singleton.mpr (by rw [hevent])))
          · exact Or.inr (Or.inl ⟨hsubs, _, List.mem_cons_self, hseq, hlt⟩)
        · exact Or.inr (Or.inl ⟨hsubs, turn, List.mem_cons_of_mem _ hturn', hseq, hlater⟩)
      · exact Or.inr (Or.inr hleft)
    case ordered =>
      refine List.pairwise_append.mpr ⟨h.ordered, List.pairwise_singleton _ _, ?_⟩
      intro a ha b hb hsame
      obtain rfl := List.mem_singleton.mp hb
      obtain ⟨-, pub, hpub, hevent⟩ := h.wanted a ha
      rcases lt_trichotomy a.2.seq loop.event.seq with hlt | heq | hgt
      · exact Or.inl hlt
      · have hloop := h.event_eq_of_loop hpub hself (by rw [hevent, heq])
        refine absurd ha ?_
        rwa [show a = (sub, loop.event) from Prod.ext hsame (hevent.symm.trans hloop.symm)]
      · exact Or.inr ⟨pub, hpub, hevent, h.during pub hpub loop hself (by rwa [hevent])⟩
  case ids => exact h.ids
  case subs => exact h.subs
  case numbered => exact h.numbered
  case published => exact h.published
  case loops =>
    intro turn hturn
    rcases List.mem_cons.mp hturn with rfl | hturn'
    · exact h.loops loop hself
    · exact h.loops turn (houter turn hturn')
  case inner => exact List.pairwise_cons.mpr hinner
  case during =>
    intro pub hpub turn hturn
    rcases List.mem_cons.mp hturn with rfl | hturn'
    · exact h.during pub hpub loop hself
    · exact h.during pub hpub turn (houter turn hturn')
  case passed =>
    intro turn hturn d hd hevent
    rcases List.mem_cons.mp hturn with rfl | hturn'
    · rcases List.mem_append.mp hd with hold | hnew
      · have hlt := h.passed loop hself d hold hevent
        exact (hlt.trans_le hawaits).trans (Nat.lt_succ_self _)
      · obtain rfl := List.mem_singleton.mp hnew
        exact Nat.lt_succ_self _
    · rcases List.mem_append.mp hd with hold | hnew
      · exact h.passed turn (houter turn hturn') d hold hevent
      · obtain rfl := List.mem_singleton.mp hnew
        have hlt := hinner.1 turn hturn'
        rw [← hevent] at hlt
        exact absurd hlt (lt_irrefl _)

/-- The loop goes on, over the subscriptions as they are. -/
lemma Delivering.proceed (h : Delivering w) : Delivering w.proceed := by
  unfold DeliveryWorld.proceed
  split
  · exact h
  · next loop outer hloops =>
    split
    · next hfind =>
      refine h.finish hloops fun sub hsub hawaits => ?_
      have hnot := List.find?_eq_none.mp hfind sub hsub
      rw [decide_eq_true hawaits, Bool.true_and] at hnot
      exact Bool.eq_false_iff.mpr hnot
    · next sub hfind =>
      obtain ⟨hsub, before, after, hsplit, hbefore⟩ := List.find?_eq_some_iff_append.mp hfind
      obtain ⟨hawaits, hwants⟩ := (Bool.and_eq_true _ _).mp hsub
      refine h.deliver hloops (of_decide_eq_true hawaits) hwants fun other hother hlater hwant => ?_
      have hsorted := hsplit ▸ h.subs
      rw [hsplit, List.mem_append, List.mem_cons] at hother
      rcases hother with hmem | rfl | hmem
      · have hnot := hbefore other hmem
        rw [decide_eq_true hlater, hwant] at hnot
        cases hnot
      · exact Or.inl rfl
      · exact Or.inr ((List.pairwise_cons.mp (List.pairwise_append.mp hsorted).2.1).1 other hmem)

lemma Delivering.subscribe (h : Delivering w) (types : Option (List EventBusEventType)) :
    Delivering (w.subscribe types) := by
  refine { h with delivered := ?_, ids := ?_, subs := ?_ }
  · intro pub hpub sub hsub hwants
    refine (h.delivered pub hpub sub hsub hwants).imp_right (Or.imp_left ?_)
    rintro ⟨hmem, htocome⟩
    exact ⟨List.mem_append_left _ hmem, htocome⟩
  · intro sub hsub
    show sub.id < w.made + 1
    rcases List.mem_append.mp hsub with hold | hnew
    · exact (h.ids sub hold).trans (Nat.lt_succ_self _)
    · obtain rfl := List.mem_singleton.mp hnew
      exact Nat.lt_succ_self _
  · refine List.pairwise_append.mpr ⟨h.subs, List.pairwise_singleton _ _, fun a ha b hb => ?_⟩
    obtain rfl := List.mem_singleton.mp hb
    exact h.ids a ha

/-- Who leaves before its turn is recorded with the event. -/
lemma Delivering.unsubscribe (h : Delivering w) (id : ℕ) : Delivering (w.unsubscribe id) := by
  have hpublished : ∀ pub ∈ (w.unsubscribe id).published, ∃ old ∈ w.published,
      pub = { old with left := old.left ++ w.subs.filter fun sub =>
        sub.id = id ∧ w.IsToCome old.event sub } := by
    intro pub hpub
    obtain ⟨old, hold, rfl⟩ := List.mem_map.mp hpub
    exact ⟨old, hold, rfl⟩
  have hkept : ∀ old ∈ w.published, ∃ pub ∈ (w.unsubscribe id).published,
      pub.event = old.event ∧ pub.during = old.during := by
    intro old hold
    exact ⟨_, List.mem_map_of_mem hold, rfl, rfl⟩
  constructor
  case toDeliversOnce =>
    constructor
    case wanted =>
      intro d hd
      obtain ⟨hwants, old, hold, heq⟩ := h.wanted d hd
      obtain ⟨pub, hpub, hevent, -⟩ := hkept old hold
      exact ⟨hwants, pub, hpub, hevent.trans heq⟩
    case nodup => exact h.nodup
    case delivered =>
      intro pub hpub sub hsub hwants
      obtain ⟨old, hold, rfl⟩ := hpublished pub hpub
      rcases h.delivered old hold sub hsub hwants with hreceived | htocome | hleft
      · exact Or.inl hreceived
      · by_cases hid : sub.id = id
        · refine Or.inr (Or.inr (List.mem_append_right _ (List.mem_filter.mpr ⟨htocome.1, ?_⟩)))
          exact decide_eq_true ⟨hid, htocome⟩
        · refine Or.inr (Or.inl ⟨List.mem_filter.mpr ⟨htocome.1, ?_⟩, htocome.2⟩)
          exact decide_eq_true hid
      · exact Or.inr (Or.inr (List.mem_append_left _ hleft))
    case ordered =>
      refine h.ordered.imp fun hab hsame => (hab hsame).imp_right ?_
      rintro ⟨old, hold, heq, hmem⟩
      obtain ⟨pub, hpub, hevent, hduring⟩ := hkept old hold
      exact ⟨pub, hpub, hevent.trans heq, hduring ▸ hmem⟩
  case ids => exact fun sub hsub => h.ids sub (List.mem_of_mem_filter hsub)
  case subs => exact h.subs.filter _
  case numbered =>
    intro pub hpub
    obtain ⟨old, hold, rfl⟩ := hpublished pub hpub
    exact h.numbered old hold
  case published => exact List.pairwise_map.mpr h.published
  case loops =>
    intro loop hloop
    obtain ⟨old, hold, heq⟩ := h.loops loop hloop
    obtain ⟨pub, hpub, hevent, -⟩ := hkept old hold
    exact ⟨pub, hpub, hevent.trans heq⟩
  case inner => exact h.inner
  case during =>
    intro pub hpub loop hloop hlt
    obtain ⟨old, hold, rfl⟩ := hpublished pub hpub
    exact h.during old hold loop hloop hlt
  case passed => exact h.passed

lemma Delivering.step {a : DeliveryAction P} (h : Delivering w)
    (hstep : w.step workerId a = some w') : Delivering w' := by
  cases a with
  | publishes p =>
      obtain rfl := Option.some.inj hstep
      exact (h.begin p).proceed
  | subscribes types =>
      obtain rfl := Option.some.inj hstep
      exact h.subscribe types
  | unsubscribes id =>
      obtain rfl := Option.some.inj hstep
      exact h.unsubscribe id
  | returns =>
      rw [DeliveryWorld.step] at hstep
      split at hstep
      · cases hstep
      · obtain rfl := Option.some.inj hstep
        exact h.proceed

lemma delivering_initial : Delivering (initial : DeliveryWorld P) := by
  constructor
  case toDeliversOnce =>
    exact {
      wanted := fun d hd => nomatch hd
      nodup := List.nodup_nil
      delivered := fun pub hpub => nomatch hpub
      ordered := List.Pairwise.nil }
  case subs | published | inner => exact List.Pairwise.nil
  case ids | numbered | loops | during | passed => exact fun x hx => nomatch hx

/-- In every run, whatever the handlers publish, subscribe and unsubscribe, each subscriber gets
what is published for it once and in the order of the deliveries. -/
theorem always_deliversOnce (workerId : String) (as : List (DeliveryAction P)) :
    Always (DeliveryWorld.step workerId) DeliversOnce .initial as := by
  refine ⟨delivering_initial.toDeliversOnce, ?_⟩
  refine Meets.eachStep (I := Delivering) (C := fun _ _ => True) ?_ ?_ delivering_initial
    (meets_of_forall fun _ _ => trivial)
  · exact fun s a s' h _ hstep => h.step hstep
  · exact fun s a s' h _ hstep => (h.step hstep).toDeliversOnce

/-! ## Handlers that publish and unsubscribe -/

/-- Of two subscribers the first publishes in its handler: the second gets that event first. -/
def nestedPublish : List (DeliveryAction Unit) :=
  [.subscribes none, .subscribes none, .publishes ⟨.txStarted, (), 0, 0⟩,
    .publishes ⟨.chargerState, (), 0, 0⟩, .returns, .returns, .returns]

/-- Of two subscribers the first ends the subscription of the second in its handler. -/
def endedInTurn : List (DeliveryAction Unit) :=
  [.subscribes none, .subscribes none, .publishes ⟨.txStarted, (), 0, 0⟩, .unsubscribes 1,
    .returns]

instance (w : DeliveryWorld Unit) : Decidable (AllReceived w) :=
  decidable_of_iff (w.loops.isEmpty = true → ∀ pub ∈ w.published, ∀ sub ∈ pub.subs,
    sub.wants pub.event = true → (sub, pub.event) ∈ w.received) (by
      rw [List.isEmpty_iff]
      exact Iff.rfl)

theorem not_inOrder_nestedPublish :
    ¬Always (DeliveryWorld.step "worker") StrictlyInOrder .initial nestedPublish ∧
      ¬Always (DeliveryWorld.step "worker") AllReceived .initial endedInTurn := by
  decide

end ExpresSync
