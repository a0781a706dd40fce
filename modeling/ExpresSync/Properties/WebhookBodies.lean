import ExpresSync.Foundation.Transition
import ExpresSync.Model.LagoSignatures

/-!
# Whose body a verified webhook has

What is verified of a request is its signature, which signs a text of its own.  Requests whose
signature has been seen before keep to the bodies of Lago or they do not; if they do, then so does
whatever is stored (`WebhookInbox.bodies_genuine_of_kept`).
-/

namespace ExpresSync

open Transition

/-- The text that a JWT is the signature of. -/
def signedContent (jwt : String) : Option String :=
  match jwt.toList.splitOn '.' with
  | [headerB64, payloadB64, _] => some (String.ofList (headerB64 ++ '.' :: payloadB64))
  | _ => none

namespace WebhookInbox

section

variable {Key : Type*} (platform : WebPlatform Key) (w : WebhookInbox)

/-- Lago has signed this text. -/
def HasSigned (content : String) : Prop := ∃ sent ∈ w.genuine, signedContent sent.2 = some content

/-- The keys that a request can be verified with. -/
def keys (post : WebhookPost) : List String :=
  (w.cachedPublicKey.map CachedPublicKey.pem).toList ++ post.fetch.pem.toList ++
    post.refetch.pem.toList

/-- Nobody but Lago signs a text under its keys. -/
def Unforged : WebhookInboxAction → Prop
  | .signs _ _ => True
  | .posts post => ∀ signature content, post.signature = some signature →
      signedContent signature = some content →
      (∃ pem ∈ w.keys post, platform.verifyLagoSignature signature pem = some true) →
        w.HasSigned content

/-- A request with a text that Lago has signed has a body that Lago has sent. -/
def KeepsBody : WebhookInboxAction → Prop
  | .signs _ _ => True
  | .posts post => ∀ signature content raw body, post.signature = some signature →
      signedContent signature = some content → w.HasSigned content → post.raw = some raw →
      parseBody platform raw = some body → w.IsGenuine platform body

end

/-! ## Verification -/

section

variable {Key : Type*} {platform : WebPlatform Key} {w w' : WebhookInbox} {post : WebhookPost}
  {signature : String}

lemma exists_signedContent {pem : String}
    (h : platform.verifyLagoSignature signature pem = some true) :
    ∃ content, signedContent signature = some content := by
  unfold WebPlatform.verifyLagoSignature at h
  unfold signedContent
  generalize signature.toList.splitOn '.' = parts at h ⊢
  split at h
  · exact ⟨_, rfl⟩
  · cases h

/-- A key comes from the cache or from Lago. -/
lemma getPublicKey_eq {cached : Option CachedPublicKey} {force : Bool} {fetch : KeyFetch}
    {pem : String} (h : (getPublicKey cached force fetch).1 = some pem) :
    (force = false ∧ cached.map CachedPublicKey.pem = some pem) ∨ fetch.pem = some pem := by
  unfold getPublicKey at h
  split at h
  · next entry hentry =>
      obtain ⟨hcached, hfresh⟩ := Option.filter_eq_some_iff.mp hentry
      refine Or.inl ⟨?_, ?_⟩
      · by_contra hforce
        rw [Bool.not_eq_false] at hforce
        simp [hforce] at hfresh
      · rw [hcached]
        exact h
  · split at h
    · next hfetch => exact Or.inr (hfetch.trans h)
    · cases h

lemma verifiedBy_eq_true {pem : Option String} (h : verifiedBy platform signature pem = some true) :
    ∃ p, pem = some p ∧ platform.verifyLagoSignature signature p = some true := by
  unfold verifiedBy at h
  split at h
  · cases h
  · next p =>
      split at h
      · cases h
      · exact ⟨p, rfl, h⟩

/-- A request that is verified is verified under one of its keys. -/
lemma verified_eq_true (h : (w.verified platform signature post).1 = some true) :
    ∃ pem ∈ w.keys post, platform.verifyLagoSignature signature pem = some true := by
  have hkeys : ∀ {pem : String}, w.cachedPublicKey.map CachedPublicKey.pem = some pem ∨
      post.fetch.pem = some pem ∨ post.refetch.pem = some pem → pem ∈ w.keys post := by
    intro pem hpem
    simp only [keys, List.mem_append, Option.mem_toList]
    tauto
  unfold verified at h
  dsimp only at h
  split at h
  · obtain ⟨pem, hpem, hverified⟩ := verifiedBy_eq_true h
    rcases getPublicKey_eq hpem with ⟨hforce, -⟩ | hrefetch
    · cases hforce
    · exact ⟨pem, hkeys (Or.inr (Or.inr hrefetch)), hverified⟩
  · obtain ⟨pem, hpem, hverified⟩ := verifiedBy_eq_true h
    rcases getPublicKey_eq hpem with ⟨-, hcached⟩ | hfetch
    · exact ⟨pem, hkeys (Or.inl hcached), hverified⟩
    · exact ⟨pem, hkeys (Or.inr (Or.inl hfetch)), hverified⟩

/-! ## Requests -/

/-- A request stores nothing, or its own body after a verification of its signature. -/
inductive PostResult (platform : WebPlatform Key) (w : WebhookInbox) (post : WebhookPost) :
    Prop where
  | kept (hgenuine : (w.post platform post).2.genuine = w.genuine)
      (hevents : (w.post platform post).2.events = w.events)
      (hdispatched : (w.post platform post).2.dispatched = w.dispatched)
  | stored (raw signature : String) (body : JsonValue) (event : LagoWebhookEvent) (rowId : ℕ)
      (hraw : post.raw = some raw) (hsignature : post.signature = some signature)
      (hverified : (w.verified platform signature post).1 = some true)
      (hbody : parseBody platform raw = some body)
      (hevent : LagoWebhookEvent.ofBody body = some event)
      (hgenuine : (w.post platform post).2.genuine = w.genuine)
      (hevents : (w.post platform post).2.events = w.events ++ [(rowId, event)])
      (hdispatched : (w.post platform post).2.dispatched = w.dispatched ++ [(body, rowId)])

lemma receive_result (platform : WebPlatform Key) (w : WebhookInbox) (raw : String)
    (inserted : Option ℕ) :
    (w.receive platform raw inserted).2 = w ∨
      ∃ body event rowId, parseBody platform raw = some body ∧
        LagoWebhookEvent.ofBody body = some event ∧
        (w.receive platform raw inserted).2 =
          { w with
            events := w.events ++ [(rowId, event)]
            dispatched := w.dispatched ++ [(body, rowId)] } := by
  unfold receive
  split
  · exact Or.inl rfl
  · next body hbody =>
      split
      · next _ _ event rowId hevent => exact Or.inr ⟨body, event, rowId, hbody, hevent, rfl⟩
      · exact Or.inl rfl

lemma post_result (platform : WebPlatform Key) (w : WebhookInbox) (post : WebhookPost) :
    PostResult platform w post := by
  have hkept : ∀ cachedPublicKey,
      (w.post platform post).2 = { w with cachedPublicKey := cachedPublicKey } →
        PostResult platform w post := by
    intro cachedPublicKey h
    apply PostResult.kept <;> rw [h]
  cases hraw : post.raw with
  | none =>
      apply hkept w.cachedPublicKey
      simp only [WebhookInbox.post, hraw]
  | some raw =>
      cases hsignature : post.signature.filter fun s => decide (s ≠ "") with
      | none =>
          apply hkept w.cachedPublicKey
          simp only [WebhookInbox.post, hraw]
          rw [hsignature]
      | some signature =>
          have hpost : w.post platform post =
              { w with cachedPublicKey := (w.verified platform signature post).2 }.respond platform
                raw post.inserted (w.verified platform signature post).1 := by
            simp only [WebhookInbox.post, hraw]
            rw [hsignature]
          cases hanswer : (w.verified platform signature post).1 with
          | none => exact hkept _ (by rw [hpost, hanswer]; rfl)
          | some answer =>
              cases answer with
              | false => exact hkept _ (by rw [hpost, hanswer]; rfl)
              | true =>
                  rw [hanswer] at hpost
                  have hsnd : (w.post platform post).2 =
                      (receive platform { w with
                        cachedPublicKey := (w.verified platform signature post).2 } raw
                        post.inserted).2 := by
                    rw [hpost]
                    rfl
                  rcases receive_result platform _ raw post.inserted with
                    hsame | ⟨body, event, rowId, hbody, hevent, hstored⟩
                  · exact hkept _ (hsnd.trans hsame)
                  · rw [hstored] at hsnd
                    have hheader : post.signature = some signature :=
                      (Option.filter_eq_some_iff.mp hsignature).1
                    exact .stored raw signature body event rowId hraw hheader hanswer hbody hevent
                      (by rw [hsnd]) (by rw [hsnd]) (by rw [hsnd])

lemma post_genuine (platform : WebPlatform Key) (w : WebhookInbox) (post : WebhookPost) :
    (w.post platform post).2.genuine = w.genuine := by
  cases post_result platform w post with
  | kept hgenuine => exact hgenuine
  | stored _ _ _ _ _ _ _ _ _ _ hgenuine => exact hgenuine

/-! ## Bodies -/

variable {action : WebhookInboxAction}

lemma IsGenuine.mono {body : JsonValue} (h : w.IsGenuine platform body)
    (hsub : w.genuine ⊆ w'.genuine) : w'.IsGenuine platform body := by
  obtain ⟨sent, hsent, hbody⟩ := h
  exact ⟨sent, hsub hsent, hbody⟩

/-- What Lago has sent stays, and everything is genuine when what is new is. -/
lemma AllGenuine.of_subset (h : w.AllGenuine platform) (hsub : w.genuine ⊆ w'.genuine)
    (hevents : w'.events = w.events) (hdispatched : w'.dispatched = w.dispatched) :
    w'.AllGenuine platform where
  stored := by
    intro event hevent
    rw [hevents] at hevent
    obtain ⟨body, hgenuine, hrow⟩ := h.stored event hevent
    exact ⟨body, hgenuine.mono hsub, hrow⟩
  dispatched := by
    intro call hcall
    rw [hdispatched] at hcall
    exact (h.dispatched call hcall).mono hsub

lemma AllGenuine.step (h : w.AllGenuine platform) (hunforged : w.Unforged platform action)
    (hkeeps : w.KeepsBody platform action) (hstep : step platform w action = some w') :
    w'.AllGenuine platform := by
  cases action with
  | signs raw signature =>
      obtain rfl := Option.some.inj hstep
      exact h.of_subset (List.subset_append_left _ _) rfl rfl
  | posts post =>
      obtain rfl := Option.some.inj hstep
      cases post_result platform w post with
      | kept hgenuine hevents hdispatched =>
          exact h.of_subset (hgenuine ▸ List.Subset.refl _) hevents hdispatched
      | stored raw signature body event rowId hraw hsignature hverified hbody hevent hgenuine
          hevents hdispatched =>
          obtain ⟨pem, hpem, hvalid⟩ := verified_eq_true hverified
          obtain ⟨content, hcontent⟩ := exists_signedContent hvalid
          have hsigned := hunforged signature content hsignature hcontent ⟨pem, hpem, hvalid⟩
          have hsent := hkeeps signature content raw body hsignature hcontent hsigned hraw hbody
          have hsub : w.genuine ⊆ (w.post platform post).2.genuine :=
            hgenuine ▸ List.Subset.refl _
          constructor
          · intro row hrow
            rw [hevents] at hrow
            rcases List.mem_append.mp hrow with hold | hnew
            · obtain ⟨body', hgenuine', hrow'⟩ := h.stored row hold
              exact ⟨body', hgenuine'.mono hsub, hrow'⟩
            · obtain rfl := List.mem_singleton.mp hnew
              exact ⟨body, hsent.mono hsub, hevent⟩
          · intro call hcall
            rw [hdispatched] at hcall
            rcases List.mem_append.mp hcall with hold | hnew
            · exact (h.dispatched call hold).mono hsub
            · obtain rfl := List.mem_singleton.mp hnew
              exact hsent.mono hsub

end

/-- As long as nobody forges a signature, and whoever sends a text that Lago has signed sends a body
of Lago with it, everything that is stored and dispatched is a body of Lago. -/
theorem bodies_genuine_of_kept {Key : Type*} (platform : WebPlatform Key)
    (as : List WebhookInboxAction) (hunforged : Meets (step platform) (Unforged platform) start as)
    (hkeeps : Meets (step platform) (KeepsBody platform) start as) :
    Always (step platform) (AllGenuine platform) start as := by
  have hstart : start.AllGenuine platform :=
    ⟨fun _ h => absurd h List.not_mem_nil, fun _ h => absurd h List.not_mem_nil⟩
  have hboth := meets_and.mpr ⟨hunforged, hkeeps⟩
  refine ⟨hstart, Meets.eachStep (I := AllGenuine platform) ?_ ?_ hstart hboth⟩
  · intro w action w' h hC hstep
    exact h.step hC.1 hC.2 hstep
  · intro w action w' h hC hstep
    exact h.step hC.1 hC.2 hstep

/-! ## One token and two bodies -/

def startedBody : String := "\x7b\"webhook_type\":\"subscription.started\"\x7d"

def terminatedBody : String := "\x7b\"webhook_type\":\"subscription.terminated\"\x7d"

/-- The header says RS256, the payload is an empty object. -/
def lagoToken : String := "eyJhbGciOiJSUzI1NiJ9.e30.c2ln"

/-- Reads the header and the two bodies, and verifies the one token. -/
def tokenPlatform : WebPlatform Unit where
  decodeText bytes := String.ofList (bytes.map fun b => Char.ofNat b.toNat)
  parseJson text :=
    if text = "\x7b\"alg\":\"RS256\"\x7d" then some (.object [("alg", .string "RS256")])
    else if text = startedBody then
      some (.object [("webhook_type", .string "subscription.started")])
    else if text = terminatedBody then
      some (.object [("webhook_type", .string "subscription.terminated")])
    else none
  importKey _ := some ()
  verify _ signature content :=
    some (decide (signature = [115, 105, 103] ∧ content = "eyJhbGciOiJSUzI1NiJ9.e30"))

def lagoKey : String := "-----BEGIN PUBLIC KEY-----\nAAAA\n-----END PUBLIC KEY-----"

/-- A request with the token. -/
def tokenPost (raw : String) : WebhookPost :=
  ⟨some raw, some lagoToken, ⟨0, some lagoKey⟩, ⟨0, some lagoKey⟩, some 1⟩

/-- Lago has sent one webhook. -/
def startedSent : WebhookInbox := { start with genuine := [(startedBody, lagoToken)] }

lemma unforged_tokenPost (raw : String) :
    Meets (step tokenPlatform) (Unforged tokenPlatform) start
      [.signs startedBody lagoToken, .posts (tokenPost raw)] := by
  intro w hw
  obtain rfl : startedSent = w := Option.some.inj hw
  refine ⟨trivial, fun w' _ => ⟨?_, trivial⟩⟩
  intro signature content hsignature hcontent _
  obtain rfl := Option.some.inj hsignature
  exact ⟨(startedBody, lagoToken), List.mem_singleton.mpr rfl, hcontent⟩

/-- Lago's own request. -/
theorem bodies_genuine_of_kept_started :
    Always (step tokenPlatform) (AllGenuine tokenPlatform) start
    [.signs startedBody lagoToken, .posts (tokenPost startedBody)] := by
  refine bodies_genuine_of_kept tokenPlatform _ (unforged_tokenPost startedBody) ?_
  intro w hw
  obtain rfl : startedSent = w := Option.some.inj hw
  refine ⟨trivial, fun w' _ => ⟨?_, trivial⟩⟩
  intro signature content raw body _ _ _ hraw hbody
  obtain rfl := Option.some.inj hraw
  exact ⟨(startedBody, lagoToken), List.mem_singleton.mpr rfl, hbody⟩

/-- The body of another request with the token of Lago's is stored and dispatched. -/
theorem foreign_body_dispatched :
    Meets (step tokenPlatform) (Unforged tokenPlatform) start
        [.signs startedBody lagoToken, .posts (tokenPost terminatedBody)] ∧
      ¬Always (step tokenPlatform) (AllGenuine tokenPlatform) start
        [.signs startedBody lagoToken, .posts (tokenPost terminatedBody)] := by
  refine ⟨unforged_tokenPost terminatedBody, fun hall => ?_⟩
  let after := (startedSent.post tokenPlatform (tokenPost terminatedBody)).2
  have hafter : after.AllGenuine tokenPlatform := ((hall.2 startedSent rfl).2 after rfl).1
  have hcalls : after.dispatched.map (fun call => call.1.webhookType) =
      [some "subscription.terminated"] := by decide +kernel
  have hsent : after.genuine = [(startedBody, lagoToken)] := post_genuine _ _ _
  have hstarted : (parseBody tokenPlatform startedBody).bind JsonValue.webhookType =
      some "subscription.started" := by decide +kernel
  obtain ⟨call, hcall, htype⟩ : ∃ call ∈ after.dispatched,
      call.1.webhookType = some "subscription.terminated" := by
    apply List.mem_map.mp
    rw [hcalls]
    exact List.mem_singleton.mpr rfl
  obtain ⟨sent, hmem, hbody⟩ := hafter.dispatched call hcall
  rw [hsent] at hmem
  obtain rfl := List.mem_singleton.mp hmem
  rw [hbody, Option.bind_some, htype] at hstarted
  exact absurd hstarted (by decide)

end WebhookInbox

end ExpresSync
