import ExpresSync.Model.MeterValues

/-!
# The mapping of a live session

What a meter value is published for decides which customer sees it.  A mapping is published for a
transaction only when a look-up has found it for the id tag that StEvE reported for that very
transaction, whatever other look-ups are under way (`published_are_looked_up`).  The price of the
cache is that an answer stands: once it is there, and no look-up for the transaction is under way,
it is given until 1023 other transactions have been remembered, whatever becomes of the mappings
(`cached_answer_stands`).
-/

namespace ExpresSync

variable {number : String → JsNumber} {toLowerCase : String → String}

/-- The mapping and the transaction of what is published, and of what is enqueued. -/
lemma postMeterValues_eq_some {now : String} {userMappingId : ℕ → Option ℕ} {body : MeterHookBody}
    {event : TransactionMeter} {sample : MeterSample}
    (h : postMeterValues number toLowerCase now userMappingId body = some (event, sample)) :
    body.transactionPk = some event.transactionId ∧
      event.userMappingId = userMappingId event.transactionId ∧
      sample.steveTransactionId = event.transactionId ∧
      sample.userMappingId = userMappingId event.transactionId := by
  unfold postMeterValues at h
  split at h
  · next chargeBoxId transactionPk _ hpk =>
    split at h
    · cases h
    · obtain ⟨rfl, rfl⟩ := Prod.mk.inj (Option.some.inj h)
      exact ⟨hpk, rfl, rfl, rfl⟩
  · cases h

namespace MeterHookWorld

variable {w w' : MeterHookWorld}

/-! ## Steps -/

/-- What a step can do. -/
inductive Stepped (number : String → JsNumber) (toLowerCase : String → String)
    (w : MeterHookWorld) : MeterHookWorld → Prop where
  | idle (userMappings : List TaggedMapping) (now : String) :
      Stepped number toLowerCase w { w with userMappings := userMappings, now := now }
  | hit {body : MeterHookBody} {transactionPk : ℕ} {mappingId : Option ℕ}
      (hbody : body.transactionPk = some transactionPk)
      (hcached : w.mappingCache.get? transactionPk = some (transactionPk, mappingId)) :
      Stepped number toLowerCase w (w.publish number toLowerCase body mappingId)
  | miss {body : MeterHookBody} {transactionPk : ℕ}
      (hbody : body.transactionPk = some transactionPk)
      (habsent : w.mappingCache.get? transactionPk = none) :
      Stepped number toLowerCase w
        { w with requests := w.requests ++ [⟨body, transactionPk, .steveLookup⟩] }
  /-- A look-up fails: the transaction goes on without a mapping, and nothing is remembered. -/
  | fails {i : ℕ} {request : MeterRequest} (hi : w.requests[i]? = some request) :
      Stepped number toLowerCase w
        ((w.dropRequest i).publish number toLowerCase request.body none)
  | reports {i : ℕ} {request : MeterRequest} (idTag : String)
      (hi : w.requests[i]? = some request) :
      Stepped number toLowerCase w { w with
        requests := w.requests.set i { request with point := .mappingLookup idTag }
        reported := w.reported ++ [(request.transactionPk, idTag)] }
  | resolves {i : ℕ} {request : MeterRequest} {mappingId : Option ℕ} {found : List TaggedMapping}
      (hi : w.requests[i]? = some request) (hsub : w.found ⊆ found)
      (hread : ∀ row ∈ found, row ∈ w.found ∨ row ∈ w.userMappings)
      (hmapping : ∀ id ∈ mappingId, ∃ idTag, request.point = .mappingLookup idTag ∧
        ⟨id, idTag⟩ ∈ found) :
      Stepped number toLowerCase w
        (({ w.dropRequest i with found := found }.rememberMapping request.transactionPk
          mappingId).publish number toLowerCase request.body mappingId)

lemma stepped_of_step {a : MeterHookAction} (h : w.step number toLowerCase a = some w') :
    Stepped number toLowerCase w w' := by
  cases a with
  | posts body =>
      simp only [step] at h
      split at h
      · obtain rfl := Option.some.inj h
        exact .idle _ _
      · next event sample hevent =>
        have hbody := (postMeterValues_eq_some hevent).1
        split at h
        · next entry hentry =>
          obtain rfl := Option.some.inj h
          obtain ⟨transactionPk, mappingId⟩ := entry
          obtain ⟨-, rfl⟩ := KeyedLog.get?_eq_some.mp hentry
          exact .hit hbody hentry
        · next habsent =>
          obtain rfl := Option.some.inj h
          exact .miss hbody habsent
  | steveAnswers i txs =>
      obtain ⟨request, hi, h⟩ := Option.bind_eq_some_iff.mp h
      split at h
      · cases h
      · split at h
        · obtain rfl := Option.some.inj h
          exact .fails hi
        · simp only at h
          split at h
          · obtain rfl := Option.some.inj h
            exact .reports _ hi
          · obtain rfl := Option.some.inj h
            refine .resolves hi (List.Subset.refl _) (fun _ => Or.inl) fun id hid => ?_
            cases hid
  | queryAnswers i row =>
      obtain ⟨request, hi, h⟩ := Option.bind_eq_some_iff.mp h
      split at h
      · cases h
      · next idTag hpoint =>
        split at h
        · obtain rfl := Option.some.inj h
          exact .fails hi
        · next row =>
          split at h
          · next hselects =>
            obtain rfl := Option.some.inj h
            refine .resolves hi (List.subset_append_left _ _) ?_ ?_
            · intro row' hrow'
              rcases List.mem_append.mp hrow' with hold | hnew
              · exact Or.inl hold
              · obtain rfl := Option.mem_toList.mp hnew
                exact Or.inr hselects.1
            · intro id hid
              obtain ⟨row', rfl, rfl⟩ := Option.mem_map.mp hid
              refine ⟨idTag, hpoint, List.mem_append_right _ ?_⟩
              rw [← hselects.2]
              exact Option.mem_toList.mpr rfl
          · cases h
  | mappingsWritten userMappings =>
      obtain rfl := Option.some.inj h
      exact .idle _ _
  | ticks now =>
      obtain rfl := Option.some.inj h
      exact .idle _ _

/-! ## What is published has been looked up -/

/-- A look-up has found the mapping for an id tag of the transaction. -/
def LookedUp (w : MeterHookWorld) (transactionPk mappingId : ℕ) : Prop :=
  ∃ idTag, (transactionPk, idTag) ∈ w.reported ∧ ⟨mappingId, idTag⟩ ∈ w.found

/-- What goes on with a mapping goes on with one that has been looked up. -/
structure Sound (w : MeterHookWorld) : Prop where
  bounded : w.mappingCache.entries.length ≤ mappingCacheMax
  cached : ∀ entry ∈ w.mappingCache.entries, ∀ mappingId ∈ entry.2, w.LookedUp entry.1 mappingId
  requests : ∀ request ∈ w.requests, request.body.transactionPk = some request.transactionPk ∧
    ∀ idTag, request.point = .mappingLookup idTag → (request.transactionPk, idTag) ∈ w.reported
  published : ∀ p ∈ w.published, ∀ mappingId ∈ p.1.userMappingId,
    w.LookedUp p.1.transactionId mappingId

namespace Sound

lemma initial (now : String) (userMappings : List TaggedMapping) :
    (initial now userMappings).Sound := by
  refine ⟨Nat.zero_le _, ?_, ?_, ?_⟩
  · intro entry hentry
    cases hentry
  · intro request hrequest
    cases hrequest
  · intro p hp
    cases hp

/-- What has been looked up stays looked up. -/
lemma lookedUp_mono {transactionPk mappingId : ℕ} (hreported : w.reported ⊆ w'.reported)
    (hfound : w.found ⊆ w'.found) (h : w.LookedUp transactionPk mappingId) :
    w'.LookedUp transactionPk mappingId := by
  obtain ⟨idTag, hpk, hrow⟩ := h
  exact ⟨idTag, hreported hpk, hfound hrow⟩

variable (h : w.Sound)

include h

lemma dropRequest (i : ℕ) : (w.dropRequest i).Sound :=
  { h with
    requests := fun request hrequest =>
      h.requests request (InFlight.mem_of_mem_eraseIdx hrequest) }

lemma rememberMapping {transactionPk : ℕ} {mappingId : Option ℕ}
    (hlooked : ∀ id ∈ mappingId, w.LookedUp transactionPk id) :
    (w.rememberMapping transactionPk mappingId).Sound := by
  refine { h with
    bounded := KeyedLog.length_remember_le (by decide) h.bounded
    cached := ?_ }
  intro entry hentry id hid
  rcases KeyedLog.mem_remember hentry with rfl | hold
  · exact hlooked id hid
  · exact h.cached entry hold id hid

lemma publish {body : MeterHookBody} {transactionPk : ℕ} {mappingId : Option ℕ}
    (hbody : body.transactionPk = some transactionPk)
    (hlooked : ∀ id ∈ mappingId, w.LookedUp transactionPk id) :
    (w.publish number toLowerCase body mappingId).Sound := by
  refine { h with published := ?_ }
  intro p hp id hid
  rcases List.mem_append.mp hp with hold | hnew
  · exact h.published p hold id hid
  · obtain ⟨event, sample⟩ := p
    obtain ⟨hpk, hmapping, -⟩ := postMeterValues_eq_some (Option.mem_toList.mp hnew)
    obtain rfl : transactionPk = event.transactionId := Option.some.inj (hbody.symm.trans hpk)
    exact hlooked id (hmapping ▸ hid)

lemma step (hstep : Stepped number toLowerCase w w') : w'.Sound := by
  cases hstep with
  | idle => exact { h with }
  | hit hbody hcached =>
      exact h.publish hbody (h.cached _ (KeyedLog.get?_eq_some.mp hcached).1)
  | miss hbody =>
      refine { h with requests := ?_ }
      intro request hrequest
      rcases List.mem_append.mp hrequest with hold | hnew
      · exact h.requests request hold
      · obtain rfl := List.mem_singleton.mp hnew
        refine ⟨hbody, fun idTag hpoint => ?_⟩
        cases hpoint
  | @fails i request hi =>
      refine (h.dropRequest i).publish (h.requests request (List.mem_of_getElem? hi)).1
        fun id hid => ?_
      cases hid
  | @reports i request idTag hi =>
      have hsub : w.reported ⊆ w.reported ++ [(request.transactionPk, idTag)] :=
        List.subset_append_left _ _
      refine ⟨h.bounded, ?_, ?_, ?_⟩
      · intro entry hentry id hid
        exact lookedUp_mono hsub (List.Subset.refl _) (h.cached entry hentry id hid)
      · intro request' hrequest'
        rcases List.mem_or_eq_of_mem_set hrequest' with hold | rfl
        · exact ⟨(h.requests request' hold).1, fun idTag' hpoint =>
            hsub ((h.requests request' hold).2 idTag' hpoint)⟩
        · refine ⟨(h.requests request (List.mem_of_getElem? hi)).1, fun idTag' hpoint => ?_⟩
          obtain rfl := MappingPoint.mappingLookup.inj hpoint
          exact List.mem_append_right _ (List.mem_singleton_self _)
      · intro p hp id hid
        exact lookedUp_mono hsub (List.Subset.refl _) (h.published p hp id hid)
  | @resolves i request mappingId found hi hsub hread hmapping =>
      obtain ⟨hbody, hreported⟩ := h.requests request (List.mem_of_getElem? hi)
      have hkept : ∀ {transactionPk id : ℕ}, w.LookedUp transactionPk id →
          { w.dropRequest i with found := found }.LookedUp transactionPk id :=
        lookedUp_mono (List.Subset.refl _) hsub
      have hmid : { w.dropRequest i with found := found }.Sound :=
        { h.dropRequest i with
          cached := fun entry hentry id hid => hkept (h.cached entry hentry id hid)
          published := fun p hp id hid => hkept (h.published p hp id hid) }
      have hlooked : ∀ id ∈ mappingId,
          { w.dropRequest i with found := found }.LookedUp request.transactionPk id := by
        intro id hid
        obtain ⟨idTag, hpoint, hrow⟩ := hmapping id hid
        exact ⟨idTag, hreported idTag hpoint, hrow⟩
      exact (hmid.rememberMapping hlooked).publish hbody hlooked

end Sound

lemma found_subset (hstep : Stepped number toLowerCase w w') :
    ∀ row ∈ w'.found, row ∈ w.found ∨ row ∈ w.userMappings := by
  cases hstep with
  | resolves _ _ hread => exact hread
  | _ => exact fun row hrow => Or.inl hrow

variable (number toLowerCase) in
/-- In every run, a mapping is published for a transaction only when a row of `user_mappings` with
that id has been found for an id tag that StEvE reported for the transaction, and the cache stays
within its bound. -/
theorem published_are_looked_up (now : String) (userMappings : List TaggedMapping)
    (as : List MeterHookAction) :
    Transition.EachStep (step number toLowerCase)
      (fun w _ w' => w'.mappingCache.entries.length ≤ mappingCacheMax ∧
        (∀ row ∈ w'.found, row ∈ w.found ∨ row ∈ w.userMappings) ∧
        ∀ p ∈ w'.published, ∀ mappingId ∈ p.1.userMappingId,
          ∃ idTag, (p.1.transactionId, idTag) ∈ w'.reported ∧ ⟨mappingId, idTag⟩ ∈ w'.found)
      (initial now userMappings) as := by
  refine Transition.EachStep.of_invariant (I := Sound) (R := fun _ _ _ => True) ?_ ?_
    (.initial now userMappings) (Transition.meets_of_forall fun _ _ => trivial)
  · intro w a w' h _ hstep
    exact h.step (stepped_of_step hstep)
  · intro w a w' h _ hstep
    have hstepped := stepped_of_step hstep
    have h' := h.step hstepped
    exact ⟨h'.bounded, found_subset hstepped, h'.published⟩

/-! ## A cached answer stands -/

/-- Since `w₀`, the answer for the transaction has been `mappingId`, and it has some reserve
left. -/
structure Stands (w₀ : MeterHookWorld) (transactionPk : ℕ) (mappingId : Option ℕ)
    (w : MeterHookWorld) : Prop where
  bounded : w.mappingCache.entries.length ≤ mappingCacheMax
  requests : ∀ request ∈ w.requests, request.transactionPk ≠ transactionPk ∧
    request.body.transactionPk = some request.transactionPk
  cached : w.mappingCache.get? transactionPk = some (transactionPk, mappingId)
  reserve : w₀.mappingCache.reserve mappingCacheMax transactionPk + w₀.remembered ≤
    w.mappingCache.reserve mappingCacheMax transactionPk + w.remembered
  published : ∃ later, w.published = w₀.published ++ later ∧
    ∀ p ∈ later, p.1.transactionId = transactionPk →
      p.1.userMappingId = mappingId ∧ p.2.userMappingId = mappingId

namespace Stands

variable {w₀ : MeterHookWorld} {transactionPk : ℕ} {mappingId : Option ℕ}
  (h : Stands w₀ transactionPk mappingId w)

include h

lemma dropRequest (i : ℕ) : Stands w₀ transactionPk mappingId (w.dropRequest i) :=
  { h with
    requests := fun request hrequest =>
      h.requests request (InFlight.mem_of_mem_eraseIdx hrequest) }

lemma publish {body : MeterHookBody} {otherPk : ℕ} {otherId : Option ℕ}
    (hbody : body.transactionPk = some otherPk)
    (hother : otherPk = transactionPk → otherId = mappingId) :
    Stands w₀ transactionPk mappingId (w.publish number toLowerCase body otherId) := by
  obtain ⟨later, hlater, hanswers⟩ := h.published
  refine { h with published := ⟨later ++ (postMeterValues number toLowerCase w.now
    (fun _ => otherId) body).toList, ?_, ?_⟩ }
  · rw [← List.append_assoc, ← hlater]
    rfl
  · intro p hp hpk
    rcases List.mem_append.mp hp with hold | hnew
    · exact hanswers p hold hpk
    · obtain ⟨event, sample⟩ := p
      obtain ⟨hbody', hevent, -, hsample⟩ := postMeterValues_eq_some (Option.mem_toList.mp hnew)
      obtain rfl : otherPk = event.transactionId := Option.some.inj (hbody.symm.trans hbody')
      rw [hevent, hsample, hother hpk]
      exact ⟨rfl, rfl⟩

/-- Remembering another transaction takes one of the reserve. -/
lemma rememberMapping {otherPk : ℕ} {otherId : Option ℕ} (hne : otherPk ≠ transactionPk)
    (hfew : w.remembered < w₀.remembered +
      w₀.mappingCache.reserve mappingCacheMax transactionPk) :
    Stands w₀ transactionPk mappingId (w.rememberMapping otherPk otherId) := by
  have hreserve := h.reserve
  have hkept := KeyedLog.remember_of_reserve (e := (otherPk, otherId)) h.bounded hne h.cached
    (by omega)
  refine { h with
    bounded := KeyedLog.length_remember_le (by decide) h.bounded
    cached := hkept.1
    reserve := ?_ }
  have hloss := hkept.2
  simp only [MeterHookWorld.rememberMapping]
  omega

lemma step (hstep : Stepped number toLowerCase w w')
    (hfew : w'.remembered ≤ w₀.remembered +
      w₀.mappingCache.reserve mappingCacheMax transactionPk) :
    Stands w₀ transactionPk mappingId w' := by
  cases hstep with
  | idle => exact { h with }
  | @hit body otherPk otherId hbody hcached =>
      refine h.publish hbody ?_
      rintro rfl
      rw [h.cached] at hcached
      exact (Prod.mk.inj (Option.some.inj hcached)).2.symm
  | @miss body otherPk hbody habsent =>
      refine { h with requests := ?_ }
      intro request hrequest
      rcases List.mem_append.mp hrequest with hold | hnew
      · exact h.requests request hold
      · obtain rfl := List.mem_singleton.mp hnew
        refine ⟨?_, hbody⟩
        rintro rfl
        rw [h.cached] at habsent
        cases habsent
  | @fails i request hi =>
      obtain ⟨hne, hbody⟩ := h.requests request (List.mem_of_getElem? hi)
      exact (h.dropRequest i).publish hbody fun heq => absurd heq hne
  | @reports i request idTag hi =>
      refine { h with requests := ?_ }
      intro request' hrequest'
      rcases List.mem_or_eq_of_mem_set hrequest' with hold | rfl
      · exact h.requests request' hold
      · exact h.requests request (List.mem_of_getElem? hi)
  | @resolves i request otherId found hi hsub hread hmapping =>
      obtain ⟨hne, hbody⟩ := h.requests request (List.mem_of_getElem? hi)
      have hmid : Stands w₀ transactionPk mappingId { w.dropRequest i with found := found } :=
        { h.dropRequest i with }
      exact (hmid.rememberMapping hne (Nat.lt_of_succ_le hfew)).publish hbody
        fun heq => absurd heq hne

end Stands

lemma remembered_le (hstep : Stepped number toLowerCase w w') : w.remembered ≤ w'.remembered := by
  cases hstep with
  | resolves => exact Nat.le_succ _
  | _ => exact Nat.le_refl _

/-- An answer that has just come into the cache has the whole reserve. -/
lemma reserve_inserted {transactionPk : ℕ} {mappingId : Option ℕ} (h : w.Sound)
    (hstep : Stepped number toLowerCase w w')
    (habsent : w.mappingCache.get? transactionPk = none)
    (hcached : w'.mappingCache.get? transactionPk = some (transactionPk, mappingId)) :
    w'.mappingCache.reserve mappingCacheMax transactionPk = mappingCacheMax - 1 := by
  cases hstep with
  | @resolves i request otherId found hi hsub hread hmapping =>
      obtain ⟨hmem, -⟩ := KeyedLog.get?_eq_some.mp hcached
      rcases KeyedLog.mem_remember hmem with heq | hold
      · obtain ⟨rfl, rfl⟩ := Prod.mk.inj heq
        refine KeyedLog.reserve_remember_self (by decide) h.bounded fun hhas => ?_
        obtain ⟨entry, hentry, hkey⟩ := List.mem_map.mp hhas
        have hthere := KeyedLog.get?_eq_some.mpr ⟨hentry, hkey⟩
        change w.mappingCache.get? request.transactionPk = some entry at hthere
        rw [habsent] at hthere
        cases hthere
      · have hthere := KeyedLog.get?_eq_some.mpr ⟨hold, rfl⟩
        change w.mappingCache.get? transactionPk = some (transactionPk, mappingId) at hthere
        rw [habsent] at hthere
        cases hthere
  | _ =>
      change w.mappingCache.get? transactionPk = some (transactionPk, mappingId) at hcached
      rw [habsent] at hcached
      cases hcached

/-- When the answer for a transaction has come into the cache, and no request for the transaction
is under way, what is published for it carries this answer until 1023 more answers have been
remembered. -/
theorem cached_answer_stands {now : String} {userMappings : List TaggedMapping}
    {before : List MeterHookAction} {a : MeterHookAction} {transactionPk : ℕ}
    {mappingId : Option ℕ} (as : List MeterHookAction)
    (hrun : Transition.run (step number toLowerCase) (initial now userMappings) before = some w)
    (hstep : w.step number toLowerCase a = some w')
    (habsent : w.mappingCache.get? transactionPk = none)
    (hcached : w'.mappingCache.get? transactionPk = some (transactionPk, mappingId))
    (hquiet : ∀ request ∈ w'.requests, request.transactionPk ≠ transactionPk) :
    Transition.EachStep (step number toLowerCase)
      (fun _ _ later => later.remembered ≤ w'.remembered + (mappingCacheMax - 1) →
        later.mappingCache.get? transactionPk = some (transactionPk, mappingId) ∧
        ∀ p ∈ later.published.drop w'.published.length, p.1.transactionId = transactionPk →
          p.1.userMappingId = mappingId ∧ p.2.userMappingId = mappingId)
      w' as := by
  have hsound : w.Sound :=
    Transition.EachStep.invariant (R := fun _ _ _ => True)
      (fun _ _ _ h _ hstep => h.step (stepped_of_step hstep)) (.initial now userMappings)
      (Transition.meets_of_forall fun _ _ => trivial) hrun
  have hsound' := hsound.step (stepped_of_step hstep)
  have hreserve := reserve_inserted hsound (stepped_of_step hstep) habsent hcached
  have hstart : Stands w' transactionPk mappingId w' :=
    { bounded := hsound'.bounded
      requests := fun request hrequest =>
        ⟨hquiet request hrequest, (hsound'.requests request hrequest).1⟩
      cached := hcached
      reserve := Nat.le_refl _
      published := ⟨[], (List.append_nil _).symm, List.forall_mem_nil _⟩ }
  have hkeep : ∀ (w₁ : MeterHookWorld) (a : MeterHookAction) (w₂ : MeterHookWorld),
      (w₁.remembered ≤ w'.remembered + (mappingCacheMax - 1) →
        Stands w' transactionPk mappingId w₁) →
      True → w₁.step number toLowerCase a = some w₂ →
      w₂.remembered ≤ w'.remembered + (mappingCacheMax - 1) →
        Stands w' transactionPk mappingId w₂ := by
    intro w₁ a w₂ h _ hstep hfew
    have hstepped := stepped_of_step hstep
    exact (h ((remembered_le hstepped).trans hfew)).step hstepped (hreserve ▸ hfew)
  refine Transition.EachStep.of_invariant
    (I := fun w₁ => w₁.remembered ≤ w'.remembered + (mappingCacheMax - 1) →
      Stands w' transactionPk mappingId w₁)
    (R := fun _ _ _ => True) hkeep ?_ (fun _ => hstart)
    (Transition.meets_of_forall fun _ _ => trivial)
  intro w₁ a w₂ h _ hstep hfew
  have hstands := hkeep w₁ a w₂ h trivial hstep hfew
  obtain ⟨later, hlater, hanswers⟩ := hstands.published
  refine ⟨hstands.cached, ?_⟩
  rw [hlater, List.drop_left]
  exact hanswers

/-- A sample of transaction 7, whose reading is no number. -/
def sampleOfSeven : MeterHookBody :=
  ⟨some "CP-1", some 7, none, none, [⟨"", none, none, none, none, none⟩]⟩

/-- StEvE has reported the id tag of transaction 7. -/
def sevenReported : MeterHookWorld :=
  { initial "" [⟨1, "TAG"⟩] with
    requests := [⟨sampleOfSeven, 7, .mappingLookup "TAG"⟩]
    reported := [(7, "TAG")] }

/-- The mapping is deleted, and the next sample is published with it all the same. -/
theorem cached_answer_stands_deletedMapping :
    ∃ w' later : MeterHookWorld,
      sevenReported.step (fun _ => .nan) id (.queryAnswers 0 (some (some ⟨1, "TAG"⟩))) = some w' ∧
      Transition.run (step (fun _ => .nan) id) w' [.mappingsWritten [], .posts sampleOfSeven] =
        some later ∧
      later.published.map (fun p => p.1.userMappingId) = [some 1, some 1] ∧
      Transition.EachStep (step (fun _ => .nan) id)
        (fun _ _ later => later.remembered ≤ w'.remembered + (mappingCacheMax - 1) →
          later.mappingCache.get? 7 = some (7, some 1) ∧
          ∀ p ∈ later.published.drop w'.published.length, p.1.transactionId = 7 →
            p.1.userMappingId = some 1 ∧ p.2.userMappingId = some 1)
        w' [.mappingsWritten [], .posts sampleOfSeven] := by
  have hrun : Transition.run (step (fun _ => .nan) id) (initial "" [⟨1, "TAG"⟩])
      [.posts sampleOfSeven, .steveAnswers 0 (some [some "TAG"])] = some sevenReported := rfl
  have hstep : sevenReported.step (fun _ => .nan) id (.queryAnswers 0 (some (some ⟨1, "TAG"⟩))) =
      some _ := rfl
  refine ⟨_, _, hstep, rfl, rfl, cached_answer_stands _ hrun hstep rfl rfl ?_⟩
  intro request hrequest
  cases hrequest

end MeterHookWorld

end ExpresSync
