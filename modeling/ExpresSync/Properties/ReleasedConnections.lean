import ExpresSync.Foundation.Transition
import ExpresSync.Model.SseConnections

/-!
# What closed connections hold

A step changes what the connections hold in one of few ways (`AccountStep`), all of which keep the
counter exact and leave nothing with a closed connection.  The exception is a write that fails:
`safeClose` alone closes the connection then, and its subscription and timers stay
(`accounted_iff`).
-/

namespace ExpresSync

open Transition

variable {P : Type*} {w w' : SseProcess P}

def SseResources.Released (r : SseResources) : Prop :=
  r.subscribed = false ∧ r.heartbeatTimer = false ∧ r.idleTimer = false

instance (r : SseResources) : Decidable r.Released := inferInstanceAs (Decidable (_ ∧ _ ∧ _))

namespace SseProcess

/-- What all connections hold. -/
def resources (w : SseProcess P) : List SseResources :=
  w.connections.map SseConnection.resources

/-- The counter is the number of connections that are not closed, and closed ones hold nothing. -/
structure Accounted (w : SseProcess P) : Prop where
  exact : w.openConnections = w.connections.countP fun c => !c.resources.closed
  limit : w.openConnections ≤ maxConnections
  released : ∀ c ∈ w.connections, c.resources.closed = true → c.resources.Released

instance (w : SseProcess P) : Decidable w.Accounted :=
  decidable_of_iff (_ ∧ _ ∧ ∀ c ∈ w.connections, c.resources.closed = true → c.resources.Released)
    ⟨fun ⟨exact, limit, released⟩ => ⟨exact, limit, released⟩,
      fun h => ⟨h.exact, h.limit, h.released⟩⟩

/-- No write fails while its connection is open. -/
def KeepsWrites (w : SseProcess P) : SseProcessAction P → Prop
  | .settles i ok => ∀ c ∈ w.connections[i]?, c.resources.closed = false → ok = true
  | _ => True

end SseProcess

/-! ## Accounts -/

/-- What a connection that has been cleaned up holds. -/
def SseResources.finished : SseResources := opened.release.close

lemma SseResources.eq_finished {r : SseResources} (hclosed : r.closed = true) (h : r.Released) :
    r = .finished := by
  obtain ⟨closed, subscribed, heartbeatTimer, idleTimer⟩ := r
  obtain ⟨rfl, rfl, rfl⟩ := h
  obtain rfl := hclosed
  rfl

/-- A step of the counter and of what the connections hold. -/
inductive AccountStep : ℕ → List SseResources → ℕ → List SseResources → Prop where
  | kept {n rs} : AccountStep n rs n rs
  | opens {n rs} (h : n < maxConnections) : AccountStep n rs (n + 1) (rs ++ [.opened])
  /-- The signal has been aborted before. -/
  | passes {n rs} (h : n < maxConnections) : AccountStep n rs n (rs ++ [.finished])
  | cleans {n rs i} {r : SseResources} (h : rs[i]? = some r) :
      AccountStep n rs (if r.closed then n else n - 1) (rs.set i r.release.close)

/-- The counter is exact. -/
structure Counted (n : ℕ) (rs : List SseResources) : Prop where
  exact : n = rs.countP fun r => !r.closed
  limit : n ≤ maxConnections

/-- A connection holds all until it is cleaned up. -/
structure HeldOrFinished (n : ℕ) (rs : List SseResources) : Prop extends Counted n rs where
  each : ∀ r ∈ rs, r = .opened ∨ r = .finished

section

variable {n n' i : ℕ} {rs rs' : List SseResources} {r r' : SseResources}

/-- A connection is closed, or has been before. -/
lemma Counted.set (h : Counted n rs) (hr : rs[i]? = some r) (hclosed : r'.closed = true) :
    Counted (if r.closed then n else n - 1) (rs.set i r') := by
  obtain ⟨hi, hget⟩ := List.getElem?_eq_some_iff.mp hr
  have hcount := List.countP_set (p := fun r => !r.closed) (a := r') hi
  rw [hget, hclosed, ← h.exact] at hcount
  have hlimit := h.limit
  cases hbefore : r.closed with
  | true =>
      rw [hbefore] at hcount
      exact ⟨hcount.symm, hlimit⟩
  | false =>
      rw [hbefore] at hcount
      exact ⟨hcount.symm, (Nat.sub_le _ _).trans hlimit⟩

lemma Counted.step (h : Counted n rs) (hstep : AccountStep n rs n' rs') : Counted n' rs' := by
  cases hstep with
  | kept => exact h
  | opens hlimit =>
      refine ⟨?_, hlimit⟩
      rw [List.countP_append, ← h.exact]
      rfl
  | passes hlimit =>
      refine ⟨?_, h.limit⟩
      rw [List.countP_append, ← h.exact]
      rfl
  | cleans hr => exact h.set hr rfl

lemma HeldOrFinished.step (h : HeldOrFinished n rs) (hstep : AccountStep n rs n' rs') :
    HeldOrFinished n' rs' := by
  refine ⟨h.toCounted.step hstep, ?_⟩
  have happend : ∀ {r' : SseResources}, r' = .opened ∨ r' = .finished →
      ∀ r ∈ rs ++ [r'], r = .opened ∨ r = .finished := by
    intro r' hr' r hr
    rcases List.mem_append.mp hr with hmem | hlast
    · exact h.each r hmem
    · rwa [List.mem_singleton.mp hlast]
  cases hstep with
  | kept => exact h.each
  | opens _ => exact happend (Or.inl rfl)
  | passes _ => exact happend (Or.inr rfl)
  | @cleans i r hr =>
      intro r' hr'
      rcases List.mem_or_eq_of_mem_set hr' with hmem | rfl
      · exact h.each r' hmem
      · rcases h.each r (List.mem_of_getElem? hr) with rfl | rfl
        · exact Or.inr rfl
        · exact Or.inr rfl

end

/-! ## Steps -/

section Steps

variable {α β : Type*}

lemma map_modify_of_eq {f : α → α} {g : α → β} (h : ∀ a, g (f a) = g a) (l : List α) (i : ℕ) :
    (l.modify i f).map g = l.map g := by
  induction l generalizing i with
  | nil => rw [List.modify_nil]
  | cons a l ih =>
      cases i with
      | zero => rw [List.modify_zero_cons, List.map_cons, List.map_cons, h]
      | succ i => rw [List.modify_succ_cons, List.map_cons, List.map_cons, ih]

lemma map_modify_eq_set {f : α → α} {g : α → β} {l : List α} {i : ℕ} {a : α}
    (h : l[i]? = some a) : (l.modify i f).map g = (l.map g).set i (g (f a)) := by
  induction l generalizing i with
  | nil => cases h
  | cons b l ih =>
      cases i with
      | zero =>
          obtain rfl := Option.some.inj h
          rfl
      | succ i =>
          rw [List.modify_succ_cons, List.map_cons, List.map_cons, List.set_cons_succ, ih h]

end Steps

namespace SseProcess

lemma heldOrFinished_iff : HeldOrFinished w.openConnections w.resources ↔
    w.Accounted ∧ ∀ c ∈ w.connections, c.resources.closed = false → c.resources = .opened := by
  have hcount : (w.resources.countP fun r => !r.closed) =
      w.connections.countP fun c => !c.resources.closed := List.countP_map
  constructor
  · intro h
    have heach : ∀ c ∈ w.connections, c.resources = .opened ∨ c.resources = .finished :=
      fun c hc => h.each _ (List.mem_map_of_mem hc)
    refine ⟨⟨h.exact.trans hcount, h.limit, fun c hc hclosed => ?_⟩, fun c hc hopen => ?_⟩
    · rcases heach c hc with heq | heq
      · rw [heq] at hclosed
        cases hclosed
      · rw [heq]
        decide
    · rcases heach c hc with heq | heq
      · exact heq
      · rw [heq] at hopen
        cases hopen
  · rintro ⟨haccounted, hopened⟩
    refine ⟨⟨haccounted.exact.trans hcount.symm, haccounted.limit⟩, fun r hr => ?_⟩
    obtain ⟨c, hc, rfl⟩ := List.mem_map.mp hr
    cases hclosed : c.resources.closed with
    | false => exact Or.inl (hopened c hc hclosed)
    | true =>
        exact Or.inr (SseResources.eq_finished hclosed (haccounted.released c hc hclosed))

/-! ### What the operations keep -/

variable {c : SseConnection P} {i : ℕ}

@[simp] lemma writeRaw_resources : c.writeRaw.resources = c.resources := by
  unfold SseConnection.writeRaw
  split <;> rfl

@[simp] lemma writeEvent_resources (maxPending : ℕ) :
    (c.writeEvent maxPending).resources = c.resources := by
  unfold SseConnection.writeEvent
  split
  · rfl
  · exact writeRaw_resources

@[simp] lemma handle_resources (maxPending : ℕ) (e : DeliveredEvent P) :
    (c.handle maxPending e).resources = c.resources := by
  unfold SseConnection.handle
  split
  · exact writeEvent_resources _
  · rfl

lemma connection_resources (opening : SseOpening P) :
    (w.connection opening).resources = .opened := by
  unfold connection
  dsimp only
  refine List.foldlRecOn (motive := fun c : SseConnection P => c.resources = .opened)
    (w.replayed opening) _ ?_ ?_
  · exact writeRaw_resources
  · intro c hc e _
    rw [handle_resources, hc]

lemma fanOut_resources (e : DeliveredEvent P) : (w.fanOut e).resources = w.resources := by
  rw [resources, fanOut, List.map_map]
  refine List.map_congr_left fun c _ => ?_
  show (if c.subscribesTo e then c.handle w.maxPending e else c).resources = c.resources
  split
  · exact handle_resources _ _
  · rfl

lemma modify_resources {f : SseConnection P → SseConnection P}
    (h : ∀ c, (f c).resources = c.resources) (i : ℕ) : (w.modify i f).resources = w.resources :=
  map_modify_of_eq h w.connections i

lemma getElem?_resources (h : w.connections[i]? = some c) : w.resources[i]? = some c.resources := by
  rw [resources, List.getElem?_map, h]
  rfl

/-- A connection that is closed, or has been before. -/
lemma safeClose_resources (h : w.connections[i]? = some c) :
    (w.safeClose i).openConnections =
        (if c.resources.closed then w.openConnections else w.openConnections - 1) ∧
      (w.safeClose i).resources = w.resources.set i c.resources.close := by
  unfold safeClose
  rw [h]
  dsimp only
  cases hclosed : c.resources.closed with
  | true =>
      refine ⟨rfl, ?_⟩
      obtain ⟨hi, hget⟩ := List.getElem?_eq_some_iff.mp (getElem?_resources h)
      have hsame : c.resources.close = w.resources[i] := by
        rw [hget, SseResources.close, ← hclosed]
      rw [hsame, List.set_getElem_self]
      rfl
  | false => exact ⟨rfl, map_modify_eq_set h⟩

lemma cleanup_resources (h : w.connections[i]? = some c) :
    (w.cleanup i).openConnections =
        (if c.resources.closed then w.openConnections else w.openConnections - 1) ∧
      (w.cleanup i).resources = w.resources.set i c.resources.release.close := by
  have hreleased : (w.modify i fun c => { c with resources := c.resources.release }
      ).connections[i]? = some { c with resources := c.resources.release } := by
    rw [modify, List.getElem?_modify_eq, h]
    rfl
  obtain ⟨hcount, hresources⟩ := safeClose_resources hreleased
  have hset : (w.modify i fun c => { c with resources := c.resources.release }).resources =
      w.resources.set i c.resources.release := map_modify_eq_set h
  rw [hset, List.set_set] at hresources
  exact ⟨hcount, hresources⟩

lemma accountStep_cleanup (h : w.connections[i]? = some c) :
    AccountStep w.openConnections w.resources
      (w.cleanup i).openConnections (w.cleanup i).resources := by
  obtain ⟨hcount, hresources⟩ := cleanup_resources h
  rw [hcount, hresources]
  exact AccountStep.cleans (getElem?_resources h)

lemma accountStep_openSseStream (opening : SseOpening P) :
    AccountStep w.openConnections w.resources
      (w.openSseStream opening).openConnections (w.openSseStream opening).resources := by
  unfold openSseStream
  split
  · exact .kept
  · next hlimit =>
    have hfree : w.openConnections < maxConnections := not_le.mp hlimit
    dsimp only
    set opened : SseProcess P := { w with
      openConnections := w.openConnections + 1
      connections := w.connections ++ [w.connection opening] } with hopened
    have hresources : opened.resources = w.resources ++ [.opened] := by
      rw [resources, hopened, List.map_append, List.map_singleton, connection_resources]
      rfl
    split
    · have hlast : opened.connections[w.connections.length]? = some (w.connection opening) :=
        List.getElem?_concat_length
      have hlength : w.resources.length = w.connections.length := List.length_map _
      obtain ⟨hcount, hcleaned⟩ := cleanup_resources hlast
      rw [connection_resources] at hcount hcleaned
      rw [hresources, ← hlength, List.set_append_right _ _ le_rfl, Nat.sub_self] at hcleaned
      rw [← hlength] at hcount ⊢
      rw [hcount, hcleaned]
      exact .passes hfree
    · rw [hresources]
      exact .opens hfree

/-- A write that settles. -/
lemma settle_resources (i : ℕ) (ok : Bool) :
    (w.settle i ok).openConnections =
        (if ok then w else w.safeClose i).openConnections ∧
      (w.settle i ok).resources = (if ok then w else w.safeClose i).resources := by
  have hsettled : ∀ v : SseProcess P,
      (v.modify i fun c => { c with pendingWrites := c.pendingWrites - 1 }).resources =
        v.resources := fun v =>
    modify_resources (f := fun c => { c with pendingWrites := c.pendingWrites - 1 })
      (fun _ => rfl) i
  unfold settle
  cases ok with
  | true =>
      refine ⟨rfl, (hsettled _).trans ?_⟩
      exact modify_resources (f := fun c => { c with lastWriteTs := w.now }) (fun _ => rfl) i
  | false => exact ⟨rfl, hsettled _⟩

lemma safeClose_of_closed (h : w.connections[i]? = some c) (hclosed : c.resources.closed = true) :
    w.safeClose i = w := by
  unfold safeClose
  rw [h]
  dsimp only
  rw [if_pos hclosed]

/-! ### Steps -/

/-- A step in which no write to an open connection fails. -/
lemma accountStep_of_keepsWrites {a : SseProcessAction P} (hkeeps : w.KeepsWrites a)
    (hstep : w.step a = some w') :
    AccountStep w.openConnections w.resources w'.openConnections w'.resources := by
  cases a with
  | waits ms =>
      obtain rfl := Option.some.inj hstep
      exact .kept
  | publishes type payload =>
      obtain rfl := Option.some.inj hstep
      rw [fanOut_resources]
      exact .kept
  | hears e =>
      obtain rfl := Option.some.inj hstep
      rw [fanOut_resources]
      exact .kept
  | opens opening =>
      obtain rfl := Option.some.inj hstep
      exact accountStep_openSseStream opening
  | settles i ok =>
      obtain ⟨c, hc, hsettle⟩ := Option.bind_eq_some_iff.mp hstep
      split at hsettle
      · cases hsettle
      · obtain rfl := Option.some.inj hsettle
        obtain ⟨hcount, hresources⟩ := settle_resources (w := w) i ok
        rw [hcount, hresources]
        cases ok with
        | true => exact .kept
        | false =>
            have hclosed : c.resources.closed = true := by
              by_contra hopen
              exact absurd (hkeeps c hc (Bool.not_eq_true _ ▸ hopen)) Bool.false_ne_true
            rw [if_neg Bool.false_ne_true, safeClose_of_closed hc hclosed]
            exact .kept
  | heartbeats i =>
      obtain ⟨c, -, htick⟩ := Option.bind_eq_some_iff.mp hstep
      split at htick
      · split at htick
        · obtain rfl := Option.some.inj htick
          exact .kept
        · obtain rfl := Option.some.inj htick
          rw [modify_resources fun _ => writeRaw_resources]
          exact .kept
      · cases htick
  | idles i =>
      obtain ⟨c, hc, htick⟩ := Option.bind_eq_some_iff.mp hstep
      split at htick
      · split at htick
        · obtain rfl := Option.some.inj htick
          exact .kept
        · split at htick
          · obtain rfl := Option.some.inj htick
            exact accountStep_cleanup hc
          · obtain rfl := Option.some.inj htick
            exact .kept
      · cases htick
  | aborts i =>
      obtain ⟨c, hc, habort⟩ := Option.bind_eq_some_iff.mp hstep
      split at habort
      · obtain rfl := Option.some.inj habort
        have hquiet : (w.modify i fun c => { c with listening := false }).connections[i]? =
            some { c with listening := false } := by
          rw [modify, List.getElem?_modify_eq, hc]
          rfl
        have hkept : (w.modify i fun c => { c with listening := false }).resources = w.resources :=
          modify_resources (f := fun c => { c with listening := false }) (fun _ => rfl) i
        have hcleanup := accountStep_cleanup hquiet
        rwa [hkept] at hcleanup
      · cases habort

/-- A write that fails, to an open connection. -/
lemma lost_cases {a : SseProcessAction P} (hlost : ¬w.KeepsWrites a) (hstep : w.step a = some w') :
    ∃ i c, w.connections[i]? = some c ∧ c.resources.closed = false ∧
      w'.openConnections = w.openConnections - 1 ∧
      w'.resources = w.resources.set i c.resources.close := by
  cases a with
  | settles i ok =>
      simp only [KeepsWrites, not_forall] at hlost
      obtain ⟨c, hc, hopen, hfails⟩ := hlost
      obtain rfl : ok = false := Bool.eq_false_iff.mpr hfails
      obtain ⟨_, -, hsettle⟩ := Option.bind_eq_some_iff.mp hstep
      split at hsettle
      · cases hsettle
      · obtain rfl := Option.some.inj hsettle
        obtain ⟨hcount, hresources⟩ := settle_resources (w := w) i false
        obtain ⟨hclosed, hset⟩ := safeClose_resources hc
        rw [if_neg (Bool.eq_false_iff.mp hopen)] at hclosed
        exact ⟨i, c, hc, hopen, hcount.trans hclosed, hresources.trans hset⟩
  | _ => exact absurd trivial hlost

/-- Such a connection has held all, and still does. -/
lemma not_accounted_of_lost (hinv : HeldOrFinished w.openConnections w.resources)
    {a : SseProcessAction P} (hlost : ¬w.KeepsWrites a) (hstep : w.step a = some w') :
    ¬w'.Accounted := by
  intro haccounted
  obtain ⟨i, c, hc, hopen, -, hresources⟩ := lost_cases hlost hstep
  have hheld : c.resources = .opened :=
    (heldOrFinished_iff.mp hinv).2 c (List.mem_of_getElem? hc) hopen
  have hi : i < w.resources.length := (List.getElem?_eq_some_iff.mp (getElem?_resources hc)).1
  have hmem : SseResources.opened.close ∈ w'.resources := by
    rw [hresources, hheld]
    exact List.mem_set hi _
  obtain ⟨left, hleft, heq⟩ := List.mem_map.mp hmem
  have hreleased := haccounted.released left hleft (by rw [heq]; rfl)
  rw [heq] at hreleased
  exact absurd hreleased (by decide)

/-- The counter is right after a failed write too. -/
lemma counted_step {a : SseProcessAction P} (h : Counted w.openConnections w.resources)
    (hstep : w.step a = some w') : Counted w'.openConnections w'.resources := by
  by_cases hkeeps : w.KeepsWrites a
  · exact h.step (accountStep_of_keepsWrites hkeeps hstep)
  · obtain ⟨i, c, hc, hopen, hcount, hresources⟩ := lost_cases hkeeps hstep
    have hclosed : c.resources.close.closed = true := rfl
    have hset := h.set (getElem?_resources hc) hclosed
    rwa [if_neg (Bool.eq_false_iff.mp hopen), ← hcount, ← hresources] at hset

end SseProcess

/-! ## Runs -/

/-- In a run the counter is exact and all closed connections are released, at all times, just when
no write to an open connection fails. -/
theorem accounted_iff (workerId : String) (maxPending now : ℕ) (as : List (SseProcessAction P)) :
    Always SseProcess.step SseProcess.Accounted (.initial workerId maxPending now) as ↔
      Meets SseProcess.step SseProcess.KeepsWrites (.initial workerId maxPending now) as := by
  have hinitial :
      HeldOrFinished (SseProcess.initial (P := P) workerId maxPending now).openConnections
      (SseProcess.initial (P := P) workerId maxPending now).resources :=
    ⟨⟨rfl, Nat.zero_le _⟩, fun r hr => nomatch hr⟩
  rw [Always, and_iff_right (SseProcess.heldOrFinished_iff.mp hinitial).1]
  refine (meets_iff_eachStep (I := fun w => HeldOrFinished w.openConnections w.resources)
    (A := fun _ _ => True) ?_ ?_ hinitial (meets_of_forall fun _ _ => trivial)).symm
  · intro w a w' hinv _ hkeeps hstep
    exact hinv.step (SseProcess.accountStep_of_keepsWrites hkeeps hstep)
  · intro w a w' hinv _ hstep
    constructor
    · intro hkeeps
      have hnext := hinv.step (SseProcess.accountStep_of_keepsWrites hkeeps hstep)
      exact (SseProcess.heldOrFinished_iff.mp hnext).1
    · intro haccounted
      by_contra hlost
      exact SseProcess.not_accounted_of_lost hinv hlost hstep haccounted

/-- In every run the counter is exact and within the limit, at all times. -/
theorem counted_always (workerId : String) (maxPending now : ℕ) (as : List (SseProcessAction P)) :
    Always SseProcess.step (fun w => Counted w.openConnections w.resources)
      (.initial workerId maxPending now) as := by
  have hinitial : Counted (SseProcess.initial (P := P) workerId maxPending now).openConnections
      (SseProcess.initial (P := P) workerId maxPending now).resources := ⟨rfl, Nat.zero_le _⟩
  refine ⟨hinitial, Meets.eachStep (I := fun w => Counted w.openConnections w.resources) ?_ ?_
    hinitial (meets_of_forall (C := fun _ _ => True) fun _ _ => trivial)⟩
  · exact fun _ _ _ h _ hstep => SseProcess.counted_step h hstep
  · exact fun _ _ _ h _ hstep => SseProcess.counted_step h hstep

/-- The first write to a new connection fails. -/
def firstWriteFails : List (SseProcessAction ℕ) :=
  [.opens ⟨none, fun _ => true, 0, false⟩, .settles 0 false]

/-- The connection is closed, and holds its subscription and its timers. -/
theorem not_accounted_firstWriteFails :
    ¬Always SseProcess.step SseProcess.Accounted (.initial "web" 100 0) firstWriteFails := by
  decide

end ExpresSync
