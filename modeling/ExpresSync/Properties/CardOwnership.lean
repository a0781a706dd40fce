import ExpresSync.Model.CustomerCards
import ExpresSync.Properties.LinkCascade

/-!
# Whose cards a customer uses

Both routes take the pk of a tag and ask `assertOwnership` about it, which takes it for the id of
a mapping.  A customer uses his own cards, and all of them, exactly as far as the two kinds of
numbers agree (`own_cards_iff_ids_agree`).
-/

namespace ExpresSync

/-! ## Ownership -/

namespace TagLinkTable

variable (table : TagLinkTable) (userId : String) (tagPk : ℤ)

/-- A mapping of the user has this pk. -/
def Owns : Prop := ∃ row ∈ table.ofUser userId, (row.steveOcppTagPk : ℤ) = tagPk

/-- An active mapping of the user has this pk. -/
def OwnsActive : Prop :=
  ∃ row ∈ table.ofUser userId, (row.steveOcppTagPk : ℤ) = tagPk ∧ row.isActive = some true

/-- A mapping of the user has this number as its id. -/
def HoldsId : Prop := ∃ row ∈ table.ofUser userId, (row.id : ℤ) = tagPk

end TagLinkTable

lemma mem_ofUser {table : TagLinkTable} {userId : String} {row : TagLink} :
    row ∈ table.ofUser userId ↔ row ∈ table.rows ∧ row.userId = some userId := by
  simp [TagLinkTable.ofUser]

section

variable {records : OwnedRecords} {table : TagLinkTable} {state : RequestState} {userId : String}
  {tagPk : ℤ} {capability : CustomerCapability} {mapping : TagLink}

lemma writer_eq_ok : state.writer = .ok userId ↔ state.user = some userId ∧ state.actingAs =
    none := by
  obtain ⟨user, actingAs⟩ := state
  cases user <;> cases actingAs <;> simp [RequestState.writer, pure, Except.pure, throw, throwThe,
    MonadExceptOf.throw]

/-- `assertOwnership` compares with the ids of the caller's mappings. -/
lemma assertOwnership_card (records : OwnedRecords) (tagPk : ℤ)
    (hwriter : state.writer = .ok userId)
    (hactive : (resolveCustomerScope table state).isActive = true) :
    assertOwnership records (resolveCustomerScope table state) .card (some tagPk) = true ↔
      table.HoldsId userId tagPk := by
  obtain ⟨huser, hacting⟩ := writer_eq_ok.mp hwriter
  have hscope : (resolveCustomerScope table state).mappingIds =
      (table.ofUser userId).map TagLink.id := by
    unfold resolveCustomerScope at hactive ⊢
    rw [huser, hacting] at hactive ⊢
    dsimp only [Option.none_or] at hactive ⊢
    split at hactive
    · cases hactive
    · next hne => rw [if_neg hne]
  simp only [assertOwnership, hscope, List.any_eq_true, List.mem_map, decide_eq_true_eq,
    TagLinkTable.HoldsId]
  constructor
  · rintro ⟨_, ⟨row, hrow, rfl⟩, heq⟩
    exact ⟨row, hrow, heq⟩
  · rintro ⟨row, hrow, heq⟩
    exact ⟨_, ⟨row, hrow, rfl⟩, heq⟩

lemma capability_of_isActive {scope : CustomerScope}
    (hcapability : capability = .reserve ∨ capability = .startCharge) :
    capability ∈ getCustomerCapabilities scope ↔ scope.isActive = true := by
  unfold getCustomerCapabilities
  rcases hcapability with rfl | rfl <;> split <;>
    simp_all [fullCapabilities, readOnlyCapabilities]

/-- What the look-up answers: it asks for a mapping with the pk as its id first, and returns the
mapping of the pk then. -/
inductive LookUpResult (records : OwnedRecords) (table : TagLinkTable) (state : RequestState)
    (userId : String) (capability : CustomerCapability) (tagPk : ℤ) : Prop where
  | inactive (hactive : (resolveCustomerScope table state).isActive = false)
      (h : lookUpCard records table state capability tagPk = .error (.capabilityDenied capability))
  | notHeld (hactive : (resolveCustomerScope table state).isActive = true)
      (hheld : ¬table.HoldsId userId tagPk)
      (h : lookUpCard records table state capability tagPk = .error .cardNotFound)
  | missing (hactive : (resolveCustomerScope table state).isActive = true)
      (hnone : ∀ row ∈ table.rows, (row.steveOcppTagPk : ℤ) ≠ tagPk)
      (h : lookUpCard records table state capability tagPk = .error .cardNotFound)
  | found (mapping : TagLink) (hactive : (resolveCustomerScope table state).isActive = true)
      (hheld : table.HoldsId userId tagPk) (hmem : mapping ∈ table.rows)
      (hpk : (mapping.steveOcppTagPk : ℤ) = tagPk)
      (h : lookUpCard records table state capability tagPk = .ok mapping)

lemma lookUpCard_result (records : OwnedRecords) (hwriter : state.writer = .ok userId)
    (hcapability : capability = .reserve ∨ capability = .startCharge) (tagPk : ℤ) :
    LookUpResult records table state userId capability tagPk := by
  cases hactive : (resolveCustomerScope table state).isActive with
  | false =>
      have hdenied : capability ∉ getCustomerCapabilities (resolveCustomerScope table state) := by
        rw [capability_of_isActive hcapability, hactive]
        exact Bool.false_ne_true
      refine .inactive hactive ?_
      unfold lookUpCard
      dsimp only
      rw [if_pos hdenied]
      rfl
  | true =>
      have hgranted : ¬capability ∉ getCustomerCapabilities (resolveCustomerScope table state) :=
        not_not.mpr ((capability_of_isActive hcapability).mpr hactive)
      have howned := assertOwnership_card records tagPk hwriter hactive
      by_cases hheld : table.HoldsId userId tagPk
      · have hpasses := howned.mpr hheld
        cases hfind : table.rows.find? fun row => decide ((row.steveOcppTagPk : ℤ) = tagPk) with
        | none =>
            refine .missing hactive (fun row hrow => ?_) ?_
            · simpa using List.find?_eq_none.mp hfind row hrow
            · unfold lookUpCard
              dsimp only
              rw [if_neg hgranted, hpasses, hfind]
              rfl
        | some mapping =>
            refine .found mapping hactive hheld (List.mem_of_find?_eq_some hfind) ?_ ?_
            · simpa using List.find?_some hfind
            · unfold lookUpCard
              dsimp only
              rw [if_neg hgranted, hpasses, hfind]
              rfl
      · have hrefused := Bool.eq_false_iff.mpr (mt howned.mp hheld)
        refine .notHeld hactive hheld ?_
        unfold lookUpCard
        dsimp only
        rw [if_neg hgranted, hrefused]
        rfl

lemma lookUpCard_eq_ok_iff (hwriter : state.writer = .ok userId)
    (hcapability : capability = .reserve ∨ capability = .startCharge) :
    lookUpCard records table state capability tagPk = .ok mapping ↔
      (resolveCustomerScope table state).isActive = true ∧ table.HoldsId userId tagPk ∧
        mapping ∈ table.rows ∧ (mapping.steveOcppTagPk : ℤ) = tagPk := by
  cases (lookUpCard_result records hwriter hcapability tagPk :
      LookUpResult records table state userId capability tagPk) with
  | inactive hactive h => simp [h, hactive]
  | notHeld hactive hheld h => simp [h, hheld]
  | missing hactive hnone h =>
      simp only [h, reduceCtorEq, false_iff]
      rintro ⟨-, -, hmem, hpk⟩
      exact hnone mapping hmem hpk
  | found mapping' hactive hheld hmem hpk h =>
      rw [h]
      constructor
      · intro heq
        obtain rfl := Except.ok.inj heq
        exact ⟨hactive, hheld, hmem, hpk⟩
      · rintro ⟨-, -, hmem', hpk'⟩
        have hsame : mapping' = mapping :=
          table.eq_of_pk hmem hmem' (by omega)
        rw [hsame]

lemma lookUpCard_eq_cardNotFound_iff (hwriter : state.writer = .ok userId)
    (hcapability : capability = .reserve ∨ capability = .startCharge) :
    lookUpCard records table state capability tagPk = .error .cardNotFound ↔
      (resolveCustomerScope table state).isActive = true ∧
        (table.HoldsId userId tagPk → ∀ row ∈ table.rows, (row.steveOcppTagPk : ℤ) ≠ tagPk) := by
  cases (lookUpCard_result records hwriter hcapability tagPk :
      LookUpResult records table state userId capability tagPk) with
  | inactive hactive h => simp [h, hactive]
  | notHeld hactive hheld h => simp [h, hactive, hheld]
  | missing hactive hnone h =>
      simp only [h, hactive, true_and, true_iff]
      exact fun _ => hnone
  | found mapping hactive hheld hmem hpk h =>
      simp only [h, reduceCtorEq, hactive, true_and, false_iff, Classical.not_imp]
      exact ⟨hheld, fun hnone => hnone mapping hmem hpk⟩

end

/-! ## Bodies -/

/-- The check fails with a 400, if at all. -/
def FailsInvalid {α : Type} (x : Except CardRefusal α) : Prop :=
  ∀ e, x = .error e → ∃ error, e = .invalid error

lemma FailsInvalid.bind {α β : Type} {x : Except CardRefusal α} {f : α → Except CardRefusal β}
    (hx : FailsInvalid x) (hf : ∀ a, FailsInvalid (f a)) : FailsInvalid (x >>= f) := by
  intro e h
  rcases Except.cases_of_bind_eq_error h with h | ⟨a, -, h⟩
  · exact hx e h
  · exact hf a e h

lemma failsInvalid_ok {α : Type} (a : α) : FailsInvalid (.ok a) := fun _ h => nomatch h

lemma failsInvalid_error {α : Type} (error : String) :
    FailsInvalid (.error (.invalid error) : Except CardRefusal α) := by
  intro e h
  exact ⟨error, (Except.error.inj h).symm⟩

lemma failsInvalid_requireChargeBox (value : BodyValue) : FailsInvalid value.requireChargeBox := by
  unfold BodyValue.requireChargeBox
  split
  · split
    · exact failsInvalid_error _
    · exact failsInvalid_ok _
  · exact failsInvalid_error _

lemma failsInvalid_requireInteger (error : String) (value : BodyValue) :
    FailsInvalid (value.requireInteger error) := by
  cases value <;> first | exact failsInvalid_ok _ | exact failsInvalid_error _

lemma failsInvalid_checkReservationBody (parseDate : String → Option ℕ)
    (body : Option ReservationBody) : FailsInvalid (checkReservationBody parseDate body) := by
  cases body with
  | none => exact failsInvalid_error _
  | some body =>
      refine (failsInvalid_requireChargeBox _).bind fun chargeBoxId => ?_
      refine (failsInvalid_requireInteger _ _).bind fun connectorId => ?_
      refine (failsInvalid_requireInteger _ _).bind fun steveOcppTagPk => ?_
      refine FailsInvalid.bind ?_ fun dates => ?_
      · unfold requireIsoStrings
        split
        · exact failsInvalid_ok _
        · exact failsInvalid_error _
      · dsimp only
        split
        · split
          · exact failsInvalid_ok _
          · exact failsInvalid_error _
        · exact failsInvalid_error _

lemma failsInvalid_checkScanStartBody (body : Option ScanStartBody) :
    FailsInvalid (checkScanStartBody body) := by
  cases body with
  | none => exact failsInvalid_error _
  | some body =>
      refine (failsInvalid_requireChargeBox _).bind fun chargeBoxId => ?_
      refine (failsInvalid_requireInteger _ _).bind fun ocppTagPk => ?_
      refine FailsInvalid.bind ?_ fun connectorId => failsInvalid_ok _
      unfold BodyValue.optionalConnector
      split
      · exact failsInvalid_ok _
      · split
        · exact failsInvalid_error _
        · exact failsInvalid_ok _
      · exact failsInvalid_error _

lemma of_requireInteger {error : String} {value : BodyValue} {n : ℤ}
    (h : value.requireInteger error = .ok n) : value = .integer n := by
  cases value with
  | integer m =>
      obtain rfl := Except.ok.inj h
      rfl
  | _ => cases h

/-! ## Requests -/

namespace CardRequest

/-- The pk in the body. -/
def tagPk : CardRequest → Option ℤ
  | reservation (some { steveOcppTagPk := .integer n, .. }) => some n
  | scanStart (some { ocppTagPk := .integer n, .. }) => some n
  | _ => none

/-- The pk in a body that passes the checks. -/
def checkedPk (parseDate : String → Option ℕ) : CardRequest → Option ℤ
  | reservation body => (checkReservationBody parseDate body).toOption.map (·.steveOcppTagPk)
  | scanStart body => (checkScanStartBody body).toOption.map (·.ocppTagPk)

def capability : CardRequest → CustomerCapability
  | reservation _ => .reserve
  | scanStart _ => .startCharge

/-- The rest of the handler goes through with this mapping. -/
def Accepts : CardRequest → TagLink → Prop
  | reservation _, _ => True
  | scanStart _, mapping => mapping.steveOcppIdTag ≠ ""

variable {parseDate : String → Option ℕ} {request : CardRequest} {records : OwnedRecords}
  {table : TagLinkTable} {state : RequestState} {userId : String} {n : ℤ}

lemma tagPk_of_checkedPk (h : request.checkedPk parseDate = some n) : request.tagPk = some n := by
  cases request with
  | reservation body =>
      obtain ⟨wish, hwish, rfl⟩ := Option.map_eq_some_iff.mp h
      cases hcheck : checkReservationBody parseDate body with
      | error e => rw [hcheck] at hwish; cases hwish
      | ok wish' =>
          rw [hcheck] at hwish
          obtain rfl := Option.some.inj hwish
          cases body with
          | none => cases hcheck
          | some body =>
              obtain ⟨chargeBoxId, -, hrest⟩ := Except.exists_of_bind_eq_ok hcheck
              obtain ⟨connectorId, -, hrest⟩ := Except.exists_of_bind_eq_ok hrest
              obtain ⟨pk, hpk, hrest⟩ := Except.exists_of_bind_eq_ok hrest
              obtain ⟨dates, -, hrest⟩ := Except.exists_of_bind_eq_ok hrest
              dsimp only at hrest
              split at hrest
              · split at hrest
                · obtain rfl := Except.ok.inj hrest
                  simp only [tagPk]
                  obtain ⟨_, _, _, _, _⟩ := body
                  obtain rfl := of_requireInteger hpk
                  rfl
                · cases hrest
              · cases hrest
  | scanStart body =>
      obtain ⟨wish, hwish, rfl⟩ := Option.map_eq_some_iff.mp h
      cases hcheck : checkScanStartBody body with
      | error e => rw [hcheck] at hwish; cases hwish
      | ok wish' =>
          rw [hcheck] at hwish
          obtain rfl := Option.some.inj hwish
          cases body with
          | none => cases hcheck
          | some body =>
              obtain ⟨chargeBoxId, -, hrest⟩ := Except.exists_of_bind_eq_ok hcheck
              obtain ⟨pk, hpk, hrest⟩ := Except.exists_of_bind_eq_ok hrest
              obtain ⟨connectorId, -, hrest⟩ := Except.exists_of_bind_eq_ok hrest
              obtain rfl := Except.ok.inj hrest
              obtain ⟨_, _, _⟩ := body
              obtain rfl := of_requireInteger hpk
              rfl

/-- A request that does not get as far as the look-up makes no call, and is not told that there is
no such card. -/
lemma calledIdTag_of_unchecked
    (h : ∀ userId, state.writer = .ok userId → request.checkedPk parseDate = none) :
    ∃ e, request.calledIdTag records table state parseDate = .error e ∧ e ≠ .cardNotFound := by
  cases hwriter : state.writer with
  | error e =>
      refine ⟨e, ?_, ?_⟩
      · cases request with
        | reservation body => simp only [calledIdTag, postReservation, hwriter]; rfl
        | scanStart body => simp only [calledIdTag, postScanStart, hwriter]; rfl
      · rintro rfl
        unfold RequestState.writer at hwriter
        split at hwriter <;> cases hwriter
  | ok userId =>
      have hnone := h userId hwriter
      cases request with
      | reservation body =>
          cases hcheck : checkReservationBody parseDate body with
          | ok wish => rw [checkedPk, hcheck] at hnone; cases hnone
          | error e =>
              obtain ⟨error, rfl⟩ := failsInvalid_checkReservationBody parseDate body e hcheck
              refine ⟨.invalid error, ?_, by simp⟩
              simp only [calledIdTag, postReservation, hwriter, hcheck]
              rfl
      | scanStart body =>
          cases hcheck : checkScanStartBody body with
          | ok wish => rw [checkedPk, hcheck] at hnone; cases hnone
          | error e =>
              obtain ⟨error, rfl⟩ := failsInvalid_checkScanStartBody body e hcheck
              refine ⟨.invalid error, ?_, by simp⟩
              simp only [calledIdTag, postScanStart, hwriter, hcheck]
              rfl

/-- What a handler does with the mapping, up to the call. -/
def finish : CardRequest → TagLink → Except CardRefusal String
  | reservation _, mapping => pure mapping.steveOcppIdTag
  | scanStart _, mapping =>
      if mapping.steveOcppIdTag = "" then throw (.invalid "Invalid RemoteStart params")
      else pure mapping.steveOcppIdTag

lemma exists_finish_eq_ok {mapping : TagLink} :
    (∃ idTag, request.finish mapping = .ok idTag) ↔ request.Accepts mapping := by
  cases request with
  | reservation body => simp [finish, Accepts, pure, Except.pure]
  | scanStart body =>
      by_cases hempty : mapping.steveOcppIdTag = ""
      · simp [finish, Accepts, hempty, throw, throwThe, MonadExceptOf.throw]
      · simp [finish, Accepts, hempty, pure, Except.pure]

lemma finish_ne_cardNotFound (mapping : TagLink) :
    request.finish mapping ≠ .error .cardNotFound := by
  intro h
  cases request with
  | reservation body => cases h
  | scanStart body =>
      by_cases hempty : mapping.steveOcppIdTag = ""
      · simp [finish, hempty, throw, throwThe, MonadExceptOf.throw] at h
      · simp [finish, hempty, pure, Except.pure] at h

lemma calledIdTag_of_checked (hwriter : state.writer = .ok userId)
    (hchecked : request.checkedPk parseDate = some n) :
    request.calledIdTag records table state parseDate =
      lookUpCard records table state request.capability n >>= request.finish := by
  cases request with
  | reservation body =>
      obtain ⟨wish, hwish, rfl⟩ := Option.map_eq_some_iff.mp hchecked
      cases hcheck : checkReservationBody parseDate body with
      | error e => rw [hcheck] at hwish; cases hwish
      | ok wish' =>
          rw [hcheck] at hwish
          obtain rfl := Option.some.inj hwish
          simp only [calledIdTag, postReservation, hwriter, hcheck, capability]
          show CreateReservationInput.steveOcppIdTag <$>
            (lookUpCard records table state .reserve wish'.steveOcppTagPk >>= _) = _
          cases lookUpCard records table state .reserve wish'.steveOcppTagPk with
          | error e => rfl
          | ok mapping => rfl
  | scanStart body =>
      obtain ⟨wish, hwish, rfl⟩ := Option.map_eq_some_iff.mp hchecked
      cases hcheck : checkScanStartBody body with
      | error e => rw [hcheck] at hwish; cases hwish
      | ok wish' =>
          rw [hcheck] at hwish
          obtain rfl := Option.some.inj hwish
          simp only [calledIdTag, postScanStart, hwriter, hcheck, capability]
          show RemoteStartParams.idTag <$>
            (lookUpCard records table state .startCharge wish'.ocppTagPk >>= _) = _
          cases lookUpCard records table state .startCharge wish'.ocppTagPk with
          | error e => rfl
          | ok mapping =>
              show RemoteStartParams.idTag <$> (if mapping.steveOcppIdTag = "" then _ else _) =
                if mapping.steveOcppIdTag = "" then _ else _
              split <;> rfl

/-- A request that gets to the look-up makes its call if a mapping is found that it accepts. -/
lemma exists_calledIdTag_iff (hwriter : state.writer = .ok userId)
    (hchecked : request.checkedPk parseDate = some n) :
    (∃ idTag, request.calledIdTag records table state parseDate = .ok idTag) ↔
      ∃ mapping, lookUpCard records table state request.capability n = .ok mapping ∧
        request.Accepts mapping := by
  rw [calledIdTag_of_checked hwriter hchecked]
  constructor
  · rintro ⟨idTag, h⟩
    obtain ⟨mapping, hfound, hfinish⟩ := Except.exists_of_bind_eq_ok h
    exact ⟨mapping, hfound, exists_finish_eq_ok.mp ⟨idTag, hfinish⟩⟩
  · rintro ⟨mapping, hfound, haccepts⟩
    obtain ⟨idTag, hfinish⟩ := exists_finish_eq_ok.mpr haccepts
    refine ⟨idTag, ?_⟩
    rw [hfound]
    exact hfinish

lemma calledIdTag_eq_cardNotFound_iff (hwriter : state.writer = .ok userId)
    (hchecked : request.checkedPk parseDate = some n) :
    request.calledIdTag records table state parseDate = .error .cardNotFound ↔
      lookUpCard records table state request.capability n = .error .cardNotFound := by
  rw [calledIdTag_of_checked hwriter hchecked]
  constructor
  · intro h
    rcases Except.cases_of_bind_eq_error h with hlook | ⟨mapping, -, hfinish⟩
    · exact hlook
    · exact absurd hfinish (finish_ne_cardNotFound mapping)
  · intro hlook
    rw [hlook]
    rfl

end CardRequest

/-! ## Own cards -/

section

variable (records : OwnedRecords) (table : TagLinkTable) (state : RequestState)
  (parseDate : String → Option ℕ) (request : CardRequest)

/-- The request makes its call with a card of the caller alone, and is not told of an active card of
his that there is none. -/
structure UsesOwnCards : Prop where
  own : ∀ idTag, request.calledIdTag records table state parseDate = .ok idTag →
    ∃ userId tagPk, state.user = some userId ∧ request.tagPk = some tagPk ∧
      table.Owns userId tagPk
  found : ∀ userId tagPk, state.user = some userId → request.tagPk = some tagPk →
    table.OwnsActive userId tagPk →
      request.calledIdTag records table state parseDate ≠ .error .cardNotFound

/-- For the pk that an active caller asks about, to hold a mapping of that id and to own the card of
that pk come to the same. -/
structure IdsAgree : Prop where
  owns_of_holdsId : ∀ userId tagPk, state.writer = .ok userId →
    (resolveCustomerScope table state).isActive = true →
    request.checkedPk parseDate = some tagPk → table.HoldsId userId tagPk →
    ∀ row ∈ table.rows, (row.steveOcppTagPk : ℤ) = tagPk → request.Accepts row →
      table.Owns userId tagPk
  holdsId_of_ownsActive : ∀ userId tagPk, state.writer = .ok userId →
    (resolveCustomerScope table state).isActive = true →
    request.checkedPk parseDate = some tagPk → table.OwnsActive userId tagPk →
      table.HoldsId userId tagPk

variable {records table state parseDate request}

lemma CardRequest.capability_eq :
    request.capability = .reserve ∨ request.capability = .startCharge := by
  cases request with
  | reservation _ => exact Or.inl rfl
  | scanStart _ => exact Or.inr rfl

lemma CardRequest.checked_of_calledIdTag
    (h : ∀ e, e ≠ .cardNotFound → request.calledIdTag records table state parseDate ≠ .error e) :
    ∃ userId tagPk, state.writer = .ok userId ∧ request.checkedPk parseDate = some tagPk := by
  by_contra hnone
  have hunchecked : ∀ userId, state.writer = .ok userId → request.checkedPk parseDate = none := by
    intro userId hwriter
    cases hchecked : request.checkedPk parseDate with
    | none => rfl
    | some tagPk => exact absurd ⟨userId, tagPk, hwriter, hchecked⟩ hnone
  obtain ⟨e, hcall, hne⟩ := calledIdTag_of_unchecked hunchecked
  exact h e hne hcall

/-- A customer acts with his own cards, and with all of them, if and only if the ids of his mappings
and the pks of his cards agree on the pk in the request. -/
theorem own_cards_iff_ids_agree (records : OwnedRecords) (table : TagLinkTable)
    (state : RequestState) (parseDate : String → Option ℕ) (request : CardRequest) :
    UsesOwnCards records table state parseDate request ↔
      IdsAgree table state parseDate request := by
  have hlook : request.capability = .reserve ∨ request.capability = .startCharge :=
    request.capability_eq
  constructor
  · intro huses
    refine ⟨?_, ?_⟩ <;> intro userId tagPk hwriter hactive hchecked
    · intro hheld row hrow hpk haccepts
      have hfound : lookUpCard records table state request.capability tagPk = .ok row :=
        (lookUpCard_eq_ok_iff hwriter hlook).mpr ⟨hactive, hheld, hrow, hpk⟩
      obtain ⟨idTag, hcall⟩ := (CardRequest.exists_calledIdTag_iff hwriter hchecked).mpr
        ⟨row, hfound, haccepts⟩
      obtain ⟨userId', tagPk', huser, htagPk, howns⟩ := huses.own idTag hcall
      rw [(writer_eq_ok.mp hwriter).1] at huser
      obtain rfl := Option.some.inj huser
      rw [CardRequest.tagPk_of_checkedPk hchecked] at htagPk
      obtain rfl := Option.some.inj htagPk
      exact howns
    · intro hown
      by_contra hheld
      have hmissed : lookUpCard records table state request.capability tagPk =
          .error .cardNotFound :=
        (lookUpCard_eq_cardNotFound_iff hwriter hlook).mpr
          ⟨hactive, fun hheld' => absurd hheld' hheld⟩
      exact huses.found userId tagPk (writer_eq_ok.mp hwriter).1
        (CardRequest.tagPk_of_checkedPk hchecked) hown
        ((CardRequest.calledIdTag_eq_cardNotFound_iff hwriter hchecked).mpr hmissed)
  · intro hagree
    refine ⟨?_, ?_⟩
    · intro idTag hcall
      obtain ⟨userId, tagPk, hwriter, hchecked⟩ := CardRequest.checked_of_calledIdTag
        fun e _ herror => by rw [hcall] at herror; cases herror
      obtain ⟨mapping, hfound, haccepts⟩ :=
        (CardRequest.exists_calledIdTag_iff hwriter hchecked).mp ⟨idTag, hcall⟩
      obtain ⟨hactive, hheld, hmem, hpk⟩ := (lookUpCard_eq_ok_iff hwriter hlook).mp hfound
      have howns := hagree.owns_of_holdsId userId tagPk hwriter hactive hchecked hheld mapping hmem
        hpk haccepts
      exact ⟨userId, tagPk, (writer_eq_ok.mp hwriter).1,
        CardRequest.tagPk_of_checkedPk hchecked, howns⟩
    · intro userId tagPk huser htagPk hown hcall
      obtain ⟨userId', tagPk', hwriter, hchecked⟩ := CardRequest.checked_of_calledIdTag
        fun e hne herror => hne (by rw [hcall] at herror; exact (Except.error.inj herror).symm)
      rw [(writer_eq_ok.mp hwriter).1] at huser
      obtain rfl := Option.some.inj huser
      rw [CardRequest.tagPk_of_checkedPk hchecked] at htagPk
      obtain rfl := Option.some.inj htagPk
      have hmissed := (CardRequest.calledIdTag_eq_cardNotFound_iff hwriter hchecked).mp hcall
      obtain ⟨hactive, hnone⟩ := (lookUpCard_eq_cardNotFound_iff hwriter hlook).mp hmissed
      have hheld := hagree.holdsId_of_ownsActive userId' tagPk' hwriter hactive hchecked hown
      obtain ⟨row, hrow, hpk, -⟩ := hown
      exact hnone hheld row (mem_ofUser.mp hrow).1 hpk

end

/-- Two customers with one card each: the id of either mapping is the pk of the other's card. -/
def crossedTable : TagLinkTable where
  rows :=
    [⟨1, 2, "ALICE", some "cust-a", none, some true, .standard, .evCard, some "alice"⟩,
     ⟨2, 1, "BOB", some "cust-b", none, some true, .standard, .evCard, some "bob"⟩]
  nodup_id := by decide
  nodup_pk := by decide

/-- A scan-start at a charger, with the card of this pk. -/
def scanStartWith (tagPk : ℤ) : CardRequest :=
  .scanStart (some ⟨.string "CP-1", .undefined, .integer tagPk⟩)

/-- A customer charges with the card of another, and is told that his own does not exist. -/
theorem card_of_another_called :
    ¬UsesOwnCards ⟨fun _ => none, fun _ => none⟩ crossedTable ⟨some "alice", none⟩ (fun _ => none)
        (scanStartWith 1) ∧
      ¬UsesOwnCards ⟨fun _ => none, fun _ => none⟩ crossedTable ⟨some "alice", none⟩
        (fun _ => none) (scanStartWith 2) := by
  refine ⟨fun huses => ?_, fun huses => ?_⟩
  · have hcall : (scanStartWith 1).calledIdTag ⟨fun _ => none, fun _ => none⟩ crossedTable
        ⟨some "alice", none⟩ (fun _ => none) = .ok "BOB" := by decide +kernel
    obtain ⟨userId, tagPk, huser, htagPk, row, hrow, hpk⟩ := huses.own "BOB" hcall
    obtain rfl := Option.some.inj huser
    obtain rfl := Option.some.inj htagPk
    revert row
    decide +kernel
  · have hcall : (scanStartWith 2).calledIdTag ⟨fun _ => none, fun _ => none⟩ crossedTable
        ⟨some "alice", none⟩ (fun _ => none) = .error .cardNotFound := by decide +kernel
    refine huses.found "alice" 2 rfl rfl ?_ hcall
    exact ⟨⟨1, 2, "ALICE", some "cust-a", none, some true, .standard, .evCard, some "alice"⟩,
      by decide +kernel, rfl, rfl⟩

end ExpresSync
