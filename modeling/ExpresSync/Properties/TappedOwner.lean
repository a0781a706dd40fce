import ExpresSync.Foundation.Sql
import ExpresSync.Properties.SpentPairings

/-!
# The owner of the tapped card

Whom a `scan-login` request gets a session for.  The nonce ties the request to a scan a stream has
handed out, the consume ties it to a pairing, and the two look-ups to the owner of the card.  A
pairing that is still armed is consumed as well, though: then StEvE's log has reported the card,
and no `pre-authorize` call has matched it.

That nobody else can make a nonce is a condition on runs, `Unforged`.
-/

namespace ExpresSync

open Transition

/-- The mapping's owner is who the session is for. -/
def ScanWorld.Owns (w : ScanWorld) (idTag userId : String) : Prop :=
  ∃ mapping ∈ w.mappings, isMappingOf idTag mapping = true ∧ mapping.userId = some userId

instance (w : ScanWorld) (idTag userId : String) : Decidable (w.Owns idTag userId) :=
  inferInstanceAs (Decidable (∃ mapping ∈ w.mappings, _))

/-- A `pre-authorize` call has matched the row to the card while it had not expired. -/
def ScanWorld.Bound (w : ScanWorld) (id : ℕ) (idTag : String) : Prop :=
  ∃ tagMatch ∈ w.tagMatches, tagMatch.row.id = id ∧ tagMatch.idTag = idTag ∧
    tagMatch.row.isLive tagMatch.now = true

instance (w : ScanWorld) (id : ℕ) (idTag : String) : Decidable (w.Bound id idTag) :=
  inferInstanceAs (Decidable (∃ tagMatch ∈ w.tagMatches, _))

/-- Each session is for the owner of a card its pairing was matched to, and the only one of that
pairing. -/
def SessionsOfBound (w : ScanWorld) : Prop :=
  (∀ session ∈ w.sessions, ∃ tagMatch ∈ w.tagMatches,
    w.Bound session.row.id tagMatch.idTag ∧ w.Owns tagMatch.idTag session.userId) ∧
      OneSessionEach w

instance (w : ScanWorld) : Decidable (SessionsOfBound w) :=
  inferInstanceAs (Decidable ((∀ session ∈ w.sessions, ∃ tagMatch ∈ w.tagMatches, _) ∧ _))

/-- A nonce that verifies is one that a stream has handed out. -/
def Unforged (keys : ScanKeys) (w : ScanWorld) : Prop :=
  ∀ login ∈ w.logins, login.request.nonceMatches keys = true →
    ∃ message ∈ w.messages, message.text = login.request.text

instance (keys : ScanKeys) (w : ScanWorld) : Decidable (Unforged keys w) :=
  inferInstanceAs (Decidable (∀ login ∈ w.logins, _))

/-! ## What the nonce signs -/

/-- Free of what separates the parts of a signed text. -/
def IsPlain (s : String) : Prop := ':' ∉ s.toList

instance (s : String) : Decidable (IsPlain s) := inferInstanceAs (Decidable (_ ∉ _))

/-- The message is of the scan the request is for. -/
def IsSameScan (message : ScanMessage) (request : LoginRequest) : Prop :=
  message.idTag = request.idTag ∧ message.stream.pairingCode = request.pairingCode ∧
    message.stream.pairable.id = request.pairable.id

/-- No part of the message or of the request has a separator in it. -/
def ArePlain (message : ScanMessage) (request : LoginRequest) : Prop :=
  (IsPlain message.idTag ∧ IsPlain message.stream.pairingCode ∧
    IsPlain message.stream.pairable.id) ∧
      IsPlain request.idTag ∧ IsPlain request.pairingCode ∧ IsPlain request.pairable.id

lemma toList_nonceText (idTag pairingCode : String) (pairable : Pairable) (t : ℤ) :
    (nonceText idTag pairingCode pairable t).toList = idTag.toList ++ ':' ::
      (pairingCode.toList ++ ':' :: (pairable.id.toList ++ ':' :: (toString t).toList)) := by
  simp [nonceText]

/-- Without separators in its parts, the text determines them. -/
lemma isSameScan_of_text {message : ScanMessage} {request : LoginRequest}
    (hplain : ArePlain message request) (h : message.text = request.text) :
    IsSameScan message request := by
  obtain ⟨⟨htag, hcode, hid⟩, htag', hcode', hid'⟩ := hplain
  have hlist : message.text.toList = request.text.toList := by rw [h]
  rw [ScanMessage.text, LoginRequest.text, toList_nonceText, toList_nonceText] at hlist
  obtain ⟨htags, hlist⟩ := Sql.eq_of_delimiter_append htag htag' hlist
  obtain ⟨hcodes, hlist⟩ := Sql.eq_of_delimiter_append hcode hcode' hlist
  obtain ⟨hids, -⟩ := Sql.eq_of_delimiter_append hid hid' hlist
  exact ⟨String.toList_inj.mp htags, String.toList_inj.mp hcodes, String.toList_inj.mp hids⟩

/-! ## How a request comes by its session -/

/-- A stream has handed out the nonce of the request, for a card it had heard of. -/
def ScanWorld.Signed (w : ScanWorld) (request : LoginRequest) : Prop :=
  ∃ message ∈ w.messages, message.text = request.text ∧
    w.Reported message.stream.pairable message.idTag

/-- The pairing is the one the request names; and it was matched to the card, or still armed. -/
structure IsRightful (w : ScanWorld) (request : LoginRequest) (row : Verification) : Prop where
  signed : w.Signed request
  identifier : row.identifier = request.identifier
  matched : w.Bound row.id request.idTag ∨ row.value.status = some .armed

/-- The user is the owner of the card, and a customer. -/
def ScanWorld.OwnedByCustomer (w : ScanWorld) (idTag userId : String) : Prop :=
  w.Owns idTag userId ∧ ∃ user ∈ w.users, user.id = userId ∧ user.role = "customer"

/-- What holds of a request at each of its points. -/
def LoginOk (w : ScanWorld) (request : LoginRequest) : LoginPoint → Prop
  | .posted => True
  | .verified => w.Signed request
  | .consumed row => IsRightful w request row
  | .mapped row userId => IsRightful w request row ∧ w.Owns request.idTag userId
  | .authorized row user =>
      IsRightful w request row ∧ w.OwnedByCustomer request.idTag user.id

/-- What holds of requests, sessions and pairings in every state. -/
structure Attributed (w : ScanWorld) : Prop where
  logins : ∀ login ∈ w.logins, LoginOk w login.request login.point
  sessions : ∀ session ∈ w.sessions, IsRightful w session.request session.row ∧
    w.OwnedByCustomer session.request.idTag session.userId
  matched : ∀ row ∈ w.table.rows, ∀ idTag, row.IsMatched idTag → w.Bound row.id idTag
  reported : ∀ message ∈ w.messages, w.Reported message.stream.pairable message.idTag

section Growing

open ScanWorld

variable {keys : ScanKeys} {w w' : ScanWorld} {request : LoginRequest}

lemma ScanWorld.Grows.bound (h : w.Grows w') {id : ℕ} {idTag : String} (hbound : w.Bound id idTag) :
    w'.Bound id idTag := by
  obtain ⟨tagMatch, hmatch, hrest⟩ := hbound
  exact ⟨tagMatch, h.tagMatches hmatch, hrest⟩

lemma ScanWorld.Grows.reported (h : w.Grows w') {pairable : Pairable} {idTag : String}
    (hreported : w.Reported pairable idTag) : w'.Reported pairable idTag := by
  rcases hreported with ⟨event, hevent, hrest⟩ | ⟨reject, hreject, hrest⟩
  · exact Or.inl ⟨event, h.hears.events hevent, hrest⟩
  · exact Or.inr ⟨reject, h.hears.rejects hreject, hrest⟩

lemma ScanWorld.Grows.signed (h : w.Grows w') (hsigned : w.Signed request) : w'.Signed request := by
  obtain ⟨message, hmessage, htext, hreported⟩ := hsigned
  exact ⟨message, h.hears.messages hmessage, htext, h.reported hreported⟩

lemma ScanWorld.Grows.isRightful (h : w.Grows w') {row : Verification}
    (hright : IsRightful w request row) : IsRightful w' request row :=
  ⟨h.signed hright.signed, hright.identifier, hright.matched.imp_left h.bound⟩

lemma ScanWorld.Grows.owns (h : w.Grows w') {idTag userId : String} (howns : w.Owns idTag userId) :
    w'.Owns idTag userId := by
  unfold Owns
  rw [h.mappings]
  exact howns

lemma ScanWorld.Grows.ownedByCustomer (h : w.Grows w') {idTag userId : String}
    (howned : w.OwnedByCustomer idTag userId) : w'.OwnedByCustomer idTag userId := by
  refine ⟨h.owns howned.1, ?_⟩
  rw [h.users]
  exact howned.2

lemma ScanWorld.Grows.loginOk (h : w.Grows w') {point : LoginPoint}
    (hok : LoginOk w request point) : LoginOk w' request point := by
  cases point with
  | posted => trivial
  | verified => exact h.signed hok
  | consumed row => exact h.isRightful hok
  | mapped row userId => exact ⟨h.isRightful hok.1, h.owns hok.2⟩
  | authorized row user => exact ⟨h.isRightful hok.1, h.ownedByCustomer hok.2⟩

/-- What holds of a request as it goes on. -/
lemma loginOk_of_goesOn (h : Attributed w) (hunforged : Unforged keys w) {login : Login}
    (hlogin : login ∈ w.logins) {point : LoginPoint} (hgoes : w.GoesOn keys login point) :
    LoginOk w login.request point := by
  have hok := h.logins login hlogin
  cases point with
  | posted => exact hgoes.elim
  | verified =>
      obtain ⟨message, hmessage, htext⟩ := hunforged login hlogin hgoes.2.1
      exact ⟨message, hmessage, htext, h.reported message hmessage⟩
  | consumed row =>
      obtain ⟨hpoint, hrow⟩ := hgoes
      rw [hpoint] at hok
      obtain ⟨hmem, hconsumable⟩ := List.mem_filter.mp (hrow ▸ List.mem_singleton_self row)
      simp only [Verification.consumableBy, Verification.canMatch, Bool.and_eq_true,
        Bool.or_eq_true, beq_iff_eq] at hconsumable
      obtain ⟨⟨hidentifier, -⟩, hstatus⟩ := hconsumable
      exact ⟨hok, hidentifier, hstatus.symm.imp_left (h.matched row hmem login.request.idTag)⟩
  | mapped row userId =>
      rw [hgoes.1] at hok
      exact ⟨hok, hgoes.2⟩
  | authorized row user =>
      rw [hgoes.1] at hok
      exact ⟨hok.1, hok.2, user, hgoes.2.1, rfl, hgoes.2.2⟩

lemma attributed_step {a : ScanAction} (h : Attributed w) (hunforged : Unforged keys w)
    (hstep : w.step keys a = some w') : Attributed w' := by
  have hgrows := (ScanWorld.step_spec hstep).1
  have hlogins : ∀ login ∈ w.logins, LoginOk w' login.request login.point :=
    fun login hlogin => hgrows.loginOk (h.logins login hlogin)
  have hsessions : ∀ session ∈ w.sessions, IsRightful w' session.request session.row ∧
      w'.OwnedByCustomer session.request.idTag session.userId := fun session hsession =>
    ⟨hgrows.isRightful (h.sessions session hsession).1,
      hgrows.ownedByCustomer (h.sessions session hsession).2⟩
  have hmatched : ∀ row ∈ w'.table.rows, ∀ idTag, row.IsMatched idTag → w'.Bound row.id idTag := by
    intro row' hrow' idTag hmatched
    rcases hgrows.matched row' hrow' idTag hmatched with ⟨row, hrow, hid, hold⟩ | hnew
    · exact hid ▸ hgrows.bound (h.matched row hrow idTag hold)
    · exact hnew
  have hreported : ∀ message ∈ w'.messages,
      w'.Reported message.stream.pairable message.idTag := fun message hmessage =>
    (hgrows.hears.reported message hmessage).elim
      (fun hold => hgrows.reported (h.reported message hold)) id
  cases (ScanWorld.step_spec hstep).2 with
  | rests hlogins' hsessions' hclaims =>
      exact ⟨hlogins' ▸ hlogins, hsessions' ▸ hsessions, hmatched, hreported⟩
  | claims request row hrow hspent hlogins' hsessions' hclaims =>
      exact ⟨hlogins' ▸ hlogins, hsessions' ▸ hsessions, hmatched, hreported⟩
  | arrives request hlogins' hsessions' hclaims =>
      refine ⟨?_, hsessions' ▸ hsessions, hmatched, hreported⟩
      rw [hlogins', List.forall_mem_append]
      exact ⟨hlogins, by simp [LoginOk]⟩
  | goesOn i login point hlogin hgoes hspent hlogins' hsessions' hclaims =>
      refine ⟨?_, hsessions' ▸ hsessions, hmatched, hreported⟩
      rw [hlogins']
      exact InFlight.forall_mem_putBack hlogins (hgrows.loginOk
        (loginOk_of_goesOn h hunforged (List.mem_of_getElem? hlogin) hgoes))
  | ends i hlogins' hsessions' hclaims =>
      refine ⟨?_, hsessions' ▸ hsessions, hmatched, hreported⟩
      rw [hlogins']
      exact fun login hlogin => hlogins login (InFlight.mem_of_mem_eraseIdx hlogin)
  | mints i request row user hlogin hlogins' hsessions' hclaims =>
      refine ⟨?_, ?_, hmatched, hreported⟩
      · rw [hlogins']
        exact fun login hlogin => hlogins login (InFlight.mem_of_mem_eraseIdx hlogin)
      · rw [hsessions', List.forall_mem_append]
        refine ⟨hsessions, ?_⟩
        rw [List.forall_mem_singleton]
        exact hlogins _ (List.mem_of_getElem? hlogin)

end Growing

/-- Each session is for the customer who owns the card of its request.  That request names the
pairing it has consumed, which was matched to the card or still armed, and a stream has handed its
nonce out for a card that was reported at what the stream is of: for the very scan, as long as no
part of what is signed has a separator in it.  And it is the only session of that pairing. -/
def SessionsOfTapped (w : ScanWorld) : Prop :=
  (∀ session ∈ w.sessions,
    session.row.identifier = session.request.identifier ∧
      (w.Bound session.row.id session.request.idTag ∨ session.row.value.status = some .armed) ∧
      (∃ message ∈ w.messages, message.text = session.request.text ∧
        (ArePlain message session.request → IsSameScan message session.request) ∧
          w.Reported message.stream.pairable message.idTag) ∧
      w.OwnedByCustomer session.request.idTag session.userId) ∧
    OneSessionEach w

/-- In every run without a forged nonce, in every state. -/
theorem sessionsOfTapped (keys : ScanKeys) (mappings : List UserMapping) (users : List UserRow)
    (as : List ScanAction)
    (hunforged : Meets (ScanWorld.step keys) (fun w _ => Unforged keys w)
      (.initial mappings users) as) :
    Always (ScanWorld.step keys) SessionsOfTapped (.initial mappings users) as := by
  have hgoal : ∀ w, SpentOnce w → Attributed w → SessionsOfTapped w := by
    intro w hspent hattributed
    refine ⟨fun session hsession => ?_, hspent.oneSessionEach⟩
    obtain ⟨hright, howned⟩ := hattributed.sessions session hsession
    obtain ⟨message, hmessage, htext, hreported⟩ := hright.signed
    exact ⟨hright.identifier, hright.matched,
      ⟨message, hmessage, htext, fun hplain => isSameScan_of_text hplain htext, hreported⟩, howned⟩
  have hspent := spentOnce_initial mappings users
  have hattributed : Attributed (.initial mappings users) := by
    constructor <;> intro _ h <;> exact absurd h List.not_mem_nil
  refine ⟨hgoal _ hspent hattributed, ?_⟩
  refine Meets.eachStep (I := fun w => SpentOnce w ∧ Attributed w) ?_ ?_ ⟨hspent, hattributed⟩
    hunforged
  · exact fun w a w' h hunforged hstep =>
      ⟨spentOnce_step h.1 hstep, attributed_step h.2 hunforged hstep⟩
  · exact fun w a w' h hunforged hstep =>
      hgoal w' (spentOnce_step h.1 hstep) (attributed_step h.2 hunforged hstep)

namespace Scenario

def chargerKeys : ScanKeys where
  sign := fun _ => "04551b56d93d3ddd10271e9785ec628ced45c8418c81b3c5730986cdf909e5eb"
  signDevice := fun _ _ => ""

def loginSteps : List ScanAction :=
  [.loginPosts ⟨"10.0.0.1", "code", "CB-1", "", "TAG",
      "04551b56d93d3ddd10271e9785ec628ced45c8418c81b3c5730986cdf909e5eb", 1000⟩ false,
    .loginVerifies 0 false, .loginConsumes 0, .loginMaps 0 (some scanMapping), .loginFindsUser 0,
    .loginMints 0]

def armSteps : List ScanAction :=
  [.arms (.pairing (.armStarts ⟨"CB-1", none, none⟩ (.ok none))),
    .arms (.pairing (.armInserts 0 "code")), .detectOpens (.charger "CB-1") "code",
    .arms (.pairing (.waits 1000))]

/-- A card is tapped at the charger, `pre-authorize` matches the pairing to it, and the browser
logs in. -/
def tappedLogin : List ScanAction :=
  armSteps ++ [.preAuthorizes "CB-1" "TAG" [] (some 0), .detectHears 0 0] ++ loginSteps

/-- The log reports that the charger has rejected the card, and the browser logs in. -/
def loggedLogin : List ScanAction := armSteps ++ [.logRejects 0 "TAG"] ++ loginSteps

end Scenario

/-- What each login in flight signs has been handed out. -/
def HandedOut (w : ScanWorld) : Prop :=
  ∀ login ∈ w.logins, ∃ message ∈ w.messages, message.text = login.request.text

instance (w : ScanWorld) : Decidable (HandedOut w) :=
  inferInstanceAs (Decidable (∀ login ∈ w.logins, _))

lemma unforged_of_handedOut {keys : ScanKeys} {w : ScanWorld} {as : List ScanAction}
    (h : Meets (ScanWorld.step keys) (fun w _ => HandedOut w) w as) :
    Meets (ScanWorld.step keys) (fun w _ => Unforged keys w) w as :=
  Meets.eachStep (I := fun _ => True) (fun _ _ _ _ _ _ => trivial)
    (fun _ _ _ _ hout _ login hlogin _ => hout login hlogin) trivial h

/-- The run that goes through `pre-authorize` has no forged nonce, and ends with a session. -/
theorem sessionsOfTapped_tappedLogin :
    Always (ScanWorld.step Scenario.chargerKeys) SessionsOfTapped
        (.initial [Scenario.scanMapping] [Scenario.scanCustomer]) Scenario.tappedLogin ∧
      (run (ScanWorld.step Scenario.chargerKeys)
        (.initial [Scenario.scanMapping] [Scenario.scanCustomer])
        Scenario.tappedLogin).map (fun w => w.sessions.map ScanSession.userId) =
          some ["CUSTOMER"] := by
  have hrun : Meets (ScanWorld.step Scenario.chargerKeys) (fun w _ => HandedOut w)
      (.initial [Scenario.scanMapping] [Scenario.scanCustomer]) Scenario.tappedLogin ∧
        (run (ScanWorld.step Scenario.chargerKeys)
          (.initial [Scenario.scanMapping] [Scenario.scanCustomer])
          Scenario.tappedLogin).map (fun w => w.sessions.map ScanSession.userId) =
            some ["CUSTOMER"] := by decide +kernel
  exact ⟨sessionsOfTapped _ _ _ _ (unforged_of_handedOut hrun.1), hrun.2⟩

/-- A session without any `pre-authorize` call. -/
theorem not_sessionsOfBound_loggedLogin :
    Meets (ScanWorld.step Scenario.chargerKeys) (fun w _ => Unforged Scenario.chargerKeys w)
        (.initial [Scenario.scanMapping] [Scenario.scanCustomer]) Scenario.loggedLogin ∧
      ¬Always (ScanWorld.step Scenario.chargerKeys) SessionsOfBound
        (.initial [Scenario.scanMapping] [Scenario.scanCustomer]) Scenario.loggedLogin := by
  have hrun : Meets (ScanWorld.step Scenario.chargerKeys) (fun w _ => HandedOut w)
      (.initial [Scenario.scanMapping] [Scenario.scanCustomer]) Scenario.loggedLogin ∧
        ∃ w ∈ run (ScanWorld.step Scenario.chargerKeys)
          (.initial [Scenario.scanMapping] [Scenario.scanCustomer]) Scenario.loggedLogin,
            ¬SessionsOfBound w := by decide +kernel
  obtain ⟨hmeets, w, hend, hnot⟩ := hrun
  exact ⟨unforged_of_handedOut hmeets, fun halways => hnot (halways.of_run hend)⟩

end ExpresSync
