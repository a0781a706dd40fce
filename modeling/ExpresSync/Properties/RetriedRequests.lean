import ExpresSync.Foundation.NumberText
import ExpresSync.Model.HttpRetries

/-!
# Retries and the status

`retry` goes by the message of an error, in which the status stands next to texts that the other
side has written.  No word that it looks for lies across two parts of a message, so an attempt is
retried just when one of the parts has a word.
-/

namespace ExpresSync

/-! ## The loop -/

section

variable {E T : Type} {opts : RetryOptions E} {fn : ℕ → Except E T}

/-- An attempt with an error that is to be retried. -/
def RetriedBy (opts : RetryOptions E) (result : Except E T) : Prop :=
  ∃ error, result = .error error ∧ opts.isRetryable error = true

/-- The loop goes on while attempts are left and all of them have been retried. -/
lemma lt_calls_retryFrom {left attempt delay n : ℕ} :
    n < (retryFrom opts fn left attempt delay).calls ↔
      n ≤ left ∧ ∀ m < n, RetriedBy opts (fn (attempt + m)) := by
  induction left generalizing attempt delay n with
  | zero =>
      show n < 1 ↔ _
      constructor
      · intro hn
        obtain rfl : n = 0 := by omega
        exact ⟨Nat.le_refl _, fun m hm => absurd hm (Nat.not_lt_zero m)⟩
      · rintro ⟨hn, -⟩
        omega
  | succ left ih =>
      unfold retryFrom
      cases n with
      | zero =>
          refine iff_of_true ?_ ⟨Nat.zero_le _, fun m hm => absurd hm (Nat.not_lt_zero m)⟩
          split
          · exact Nat.one_pos
          · split
            · exact Nat.one_pos
            · exact Nat.succ_pos _
      | succ n =>
          have hfirst : (∀ m < n + 1, RetriedBy opts (fn (attempt + m))) ↔
              RetriedBy opts (fn attempt) ∧ ∀ m < n, RetriedBy opts (fn (attempt + 1 + m)) := by
            rw [Nat.forall_lt_succ_left']
            simp only [Nat.add_zero, Nat.add_right_comm attempt 1, Nat.add_assoc]
          rw [hfirst, Nat.succ_le_succ_iff]
          cases hresult : fn attempt with
          | ok value =>
              refine iff_of_false (Nat.not_lt.mpr (Nat.le_add_left _ _)) ?_
              rintro ⟨-, ⟨error, herror, -⟩, -⟩
              cases herror
          | error error =>
              dsimp only
              cases hretryable : opts.isRetryable error with
              | false =>
                  refine iff_of_false (Nat.not_lt.mpr (Nat.le_add_left _ _)) ?_
                  rintro ⟨-, ⟨error', herror', hretryable'⟩, -⟩
                  cases herror'
                  rw [hretryable] at hretryable'
                  cases hretryable'
              | true =>
                  have hretried : RetriedBy opts (.error error : Except E T) :=
                    ⟨error, rfl, hretryable⟩
                  rw [if_neg (by decide)]
                  show n + 1 < _ + 1 ↔ _
                  rw [Nat.succ_lt_succ_iff, ih, and_iff_right hretried]

/-- At most `maxAttempts` calls, each after the first one because the one before is retried. -/
lemma lt_calls_retry {n : ℕ} (hmax : 0 < opts.maxAttempts) :
    n < (retry opts fn).calls ↔ n < opts.maxAttempts ∧ ∀ m < n, RetriedBy opts (fn m) := by
  unfold retry
  simp only [lt_calls_retryFrom, Nat.zero_add]
  refine and_congr_left fun _ => ?_
  omega

end

/-! ## Words in a message -/

section

variable {L : LowerCase}

/-- The text has a word that `isRetryable` looks for. -/
def Marked (L : LowerCase) (text : String) : Prop :=
  ∃ word ∈ retryableWords, word.toList <:+: L.apply text.toList

instance (text : String) : Decidable (Marked L text) :=
  inferInstanceAs (Decidable (∃ word ∈ retryableWords, _))

lemma isRetryable_iff {message : String} : isRetryable L message = true ↔ Marked L message := by
  simp only [isRetryable, Marked, List.any_eq_true, decide_eq_true_eq]

/-- No word has a space. -/
lemma marked_spaced {a b : String} : Marked L (a ++ " " ++ b) ↔ Marked L a ∨ Marked L b := by
  have hspace : ∀ word ∈ retryableWords, ' ' ∉ word.toList := by decide
  have hsep : L.apply " ".toList = [' '] :=
    L.apply_ascii (List.forall_mem_singleton.mpr (by decide))
  have hlower : L.apply (a ++ " " ++ b).toList =
      L.apply a.toList ++ ' ' :: L.apply b.toList := by
    rw [String.toList_append, String.toList_append, L.apply_append, L.apply_append, hsep,
      List.append_assoc, List.singleton_append]
  unfold Marked
  rw [hlower, ← exists_or]
  refine exists_congr fun word => ?_
  rw [← and_or_left]
  exact and_congr_right fun hword => infix_separated_iff (hspace word hword)

lemma marked_ascii {text : String} (h : text.toList.all (fun c => decide (c.toNat < 128)) = true) :
    Marked L text ↔ ∃ word ∈ retryableWords, word.toList <:+: text.toList.map Char.toLower := by
  unfold Marked
  rw [L.apply_ascii fun c hc => of_decide_eq_true (List.all_eq_true.mp h c hc)]

/-! ### The status -/

lemma toList_status (n : ℕ) : (toString n).toList = decimalText n := by
  rw [Nat.toString_eq_repr, Nat.toList_repr, decimalText]

lemma toNat_lt_of_isDigit {c : Char} (h : c.isDigit = true) : c.toNat < 128 :=
  lt_of_le_of_lt (Char.isDigit_iff_toNat.mp h).2 (by decide)

lemma toLower_of_isDigit {c : Char} (h : c.isDigit = true) : c.toLower = c := by
  have hall : ∀ n < 128, (Char.ofNat n).isDigit = true → (Char.ofNat n).toLower = Char.ofNat n := by
    decide +kernel
  have hc := hall c.toNat (toNat_lt_of_isDigit h)
  rw [Char.ofNat_toNat] at hc
  exact hc h

/-- A word has a letter, or is a status. -/
lemma letter_or_status {word : String} (h : word ∈ retryableWords) :
    (∃ c ∈ word.toList, c.isDigit = false) ∨
      ∃ n ∈ [500, 502, 503, 504], word.toList = decimalText n ∧ (decimalText n).length = 3 := by
  have hwords : retryableWords = ["network", "timeout"] ++ [500, 502, 503, 504].map toString := rfl
  rw [hwords] at h
  rcases List.mem_append.mp h with hword | hstatus
  · have hletter : ∀ word ∈ ["network", "timeout"], 't' ∈ word.toList := by decide
    exact .inl ⟨'t', hletter word hword, rfl⟩
  · have hlength : ∀ n ∈ [500, 502, 503, 504], (decimalText n).length = 3 := by decide +kernel
    obtain ⟨n, hn, rfl⟩ := List.mem_map.mp hstatus
    exact .inr ⟨n, hn, toList_status n, hlength n hn⟩

/-- A status has three digits, so it has no word but itself. -/
lemma marked_status {status : ℕ} (h : status < 1000) :
    Marked L (toString status) ↔ status ∈ [500, 502, 503, 504] := by
  have hdigit : ∀ c ∈ (toString status).toList, c.isDigit = true := by
    intro c hc
    rw [toList_status] at hc
    exact isDigit_of_mem_decimalText hc
  have hlower : (toString status).toList.map Char.toLower = decimalText status := by
    rw [← toList_status]
    exact (List.map_congr_left fun c hc => toLower_of_isDigit (hdigit c hc)).trans (List.map_id _)
  rw [marked_ascii (List.all_eq_true.mpr fun c hc =>
    decide_eq_true (toNat_lt_of_isDigit (hdigit c hc))), hlower]
  constructor
  · rintro ⟨word, hword, hpart⟩
    rcases letter_or_status hword with ⟨c, hc, hletter⟩ | ⟨n, hn, htext, hlength⟩
    · rw [isDigit_of_mem_decimalText (hpart.subset hc)] at hletter
      cases hletter
    · rw [htext] at hpart
      have hle : (decimalText status).length ≤ (decimalText n).length := by
        rw [hlength]
        exact (Nat.length_toDigits_le_iff (by decide) (by decide)).mpr h
      rwa [← decimalText_inj (hpart.eq_of_length_le hle)]
  · intro hstatus
    have hword : toString status ∈ retryableWords :=
      List.mem_append_right ["network", "timeout"] (List.mem_map_of_mem hstatus)
    exact ⟨toString status, hword, by rw [toList_status]⟩

end

/-! ## Attempts -/

section

variable {T : Type} {client : ApiClient T} {L : LowerCase}

/-- One of the two clients; neither name has a word. -/
def ApiClient.IsNamed (client : ApiClient T) : Prop := client.name = "StEvE" ∨ client.name = "Lago"

lemma not_marked_of_ascii {text : String}
    (hascii : text.toList.all (fun c => decide (c.toNat < 128)) = true)
    (hwords : ¬∃ word ∈ retryableWords, word.toList <:+: text.toList.map Char.toLower) :
    ¬Marked L text := by
  rw [marked_ascii hascii]
  exact hwords

lemma not_marked_name (hname : client.IsNamed) : ¬Marked L client.name := by
  rcases hname with hname | hname
  · rw [hname]
    exact not_marked_of_ascii (by decide +kernel) (by decide +kernel)
  · rw [hname]
    exact not_marked_of_ascii (by decide +kernel) (by decide +kernel)

/-- The words of an error message are those of its parts. -/
lemma marked_apiError (hname : client.IsNamed) {status statusText errorText : String} :
    Marked L (client.name ++ " API error: " ++ status ++ " " ++ statusText ++ " - " ++ errorText) ↔
      Marked L status ∨ Marked L statusText ∨ Marked L errorText := by
  have hspaced : " API error: " = " " ++ "API error:" ++ " " := rfl
  have hdash : " - " = " " ++ "-" ++ " " := rfl
  have hparts : client.name ++ " API error: " ++ status ++ " " ++ statusText ++ " - " ++ errorText =
      client.name ++ " " ++ ("API error:" ++ " " ++ (status ++ " " ++ (statusText ++ " " ++
        ("-" ++ " " ++ errorText)))) := by
    rw [hspaced, hdash]
    simp only [String.append_assoc]
  have herror : ¬Marked L "API error:" :=
    not_marked_of_ascii (by decide +kernel) (by decide +kernel)
  have hminus : ¬Marked L "-" := not_marked_of_ascii (by decide +kernel) (by decide +kernel)
  rw [hparts]
  simp only [marked_spaced, not_marked_name hname, herror, hminus, false_or]

lemma marked_validationError (hname : client.IsNamed) {error : String} :
    Marked L (client.name ++ " API response validation failed: " ++ error) ↔ Marked L error := by
  have hspaced : " API response validation failed: " =
      " " ++ "API response validation failed:" ++ " " := rfl
  have hparts : client.name ++ " API response validation failed: " ++ error =
      client.name ++ " " ++ ("API response validation failed:" ++ " " ++ error) := by
    rw [hspaced]
    simp only [String.append_assoc]
  have hfailed : ¬Marked L "API response validation failed:" :=
    not_marked_of_ascii (by decide +kernel) (by decide +kernel)
  rw [hparts]
  simp only [marked_spaced, not_marked_name hname, hfailed, false_or]

namespace FetchOutcome

def IsNetworkError (o : FetchOutcome T) : Prop := ∃ message, o = .rejected message

def IsServerError (o : FetchOutcome T) : Prop :=
  ∃ r, o = .response r ∧ 500 ≤ r.status ∧ r.status < 600

def IsClientError (o : FetchOutcome T) : Prop :=
  ∃ r, o = .response r ∧ 400 ≤ r.status ∧ r.status < 500

/-- A success, whether the schema takes its data or not. -/
def IsSuccess (client : ApiClient T) (o : FetchOutcome T) : Prop :=
  ∃ r, o = .response r ∧ r.isOk = true ∧
    (r.status = 204 ∧ client.noContent.isSome ∨ ∃ parsed, r.data = .ok parsed)

/-- The texts of an outcome agree with its status: a word stands in the message of a network error
and in a 5xx response, unless its status is one, and none stands in a 4xx response or in the error
of the schema. -/
def Plain (client : ApiClient T) (L : LowerCase) : FetchOutcome T → Prop
  | .rejected message => Marked L message
  | .response r =>
      if 500 ≤ r.status ∧ r.status < 600 then
        match r.text with
        | .ok text => r.status ∈ [500, 502, 503, 504] ∨ Marked L r.statusText ∨ Marked L text
        | .error message => Marked L message
      else if 400 ≤ r.status ∧ r.status < 500 then
        match r.text with
        | .ok text => ¬Marked L r.statusText ∧ ¬Marked L text
        | .error message => ¬Marked L message
      else if r.isOk = true ∧ ¬(r.status = 204 ∧ client.noContent.isSome) then
        match r.data with
        | .ok (.error error) => ¬Marked L error
        | _ => True
      else True

/-- The attempt throws an error that is to be retried. -/
def Retried (client : ApiClient T) (L : LowerCase) (o : FetchOutcome T) : Prop :=
  RetriedBy (defaultRetryOptions L) (client.attempt o)

variable {o : FetchOutcome T}

lemma retried_iff_of_error {message : String} (h : client.attempt o = .error message) :
    o.Retried client L ↔ Marked L message := by
  unfold Retried RetriedBy
  rw [h, ← isRetryable_iff]
  constructor
  · rintro ⟨error, herror, hretryable⟩
    cases herror
    exact hretryable
  · intro hretryable
    exact ⟨message, rfl, hretryable⟩

lemma not_retried_of_ok {value : T} (h : client.attempt o = .ok value) : ¬o.Retried client L := by
  rintro ⟨error, herror, -⟩
  rw [h] at herror
  cases herror

/-- A response that is not ok is retried by its message. -/
lemma retried_of_not_isOk (hname : client.IsNamed) {r : HttpResponse T} (hok : r.isOk = false) :
    (FetchOutcome.response r).Retried client L ↔
      match r.text with
      | .ok text => Marked L (toString r.status) ∨ Marked L r.statusText ∨ Marked L text
      | .error message => Marked L message := by
  cases htext : r.text with
  | error message =>
      refine retried_iff_of_error ?_
      simp only [ApiClient.attempt, hok, htext, Bool.not_false, if_true]
  | ok text =>
      have hattempt : client.attempt (.response r) = .error (client.name ++ " API error: " ++
          toString r.status ++ " " ++ r.statusText ++ " - " ++ text) := by
        simp only [ApiClient.attempt, hok, htext, Bool.not_false, if_true]
      rw [retried_iff_of_error hattempt]
      exact marked_apiError hname

/-- An ok response is retried by the message that reading its data throws. -/
lemma retried_of_isOk (hname : client.IsNamed) {r : HttpResponse T} (hok : r.isOk = true) :
    (FetchOutcome.response r).Retried client L ↔
      ¬(r.status = 204 ∧ client.noContent.isSome) ∧
        match r.data with
        | .error message => Marked L message
        | .ok (.error error) => Marked L error
        | .ok (.ok _) => False := by
  by_cases hempty : r.status = 204 ∧ client.noContent.isSome
  · obtain ⟨value, hvalue⟩ := Option.isSome_iff_exists.mp hempty.2
    have hattempt : client.attempt (.response r) = .ok value := by
      simp only [ApiClient.attempt, hok, hempty.1, hvalue, Bool.not_true, Bool.false_eq_true,
        if_false, if_true]
    exact iff_of_false (not_retried_of_ok hattempt) fun h => h.1 hempty
  · have hnone : (if r.status = 204 then client.noContent else none) = none := by
      split
      · next hstatus =>
        exact Option.not_isSome_iff_eq_none.mp fun hsome => hempty ⟨hstatus, hsome⟩
      · rfl
    rw [and_iff_right hempty]
    cases hdata : r.data with
    | error message =>
        refine retried_iff_of_error ?_
        simp only [ApiClient.attempt, hok, hnone, hdata, Bool.not_true, Bool.false_eq_true,
          if_false]
    | ok parsed =>
        cases parsed with
        | error error =>
            have herror : client.attempt (.response r) =
                .error (client.name ++ " API response validation failed: " ++ error) := by
              simp only [ApiClient.attempt, hok, hnone, hdata, Bool.not_true, Bool.false_eq_true,
                if_false]
            rw [retried_iff_of_error herror]
            exact marked_validationError hname
        | ok validated =>
            have hattempt : client.attempt (.response r) = .ok validated := by
              simp only [ApiClient.attempt, hok, hnone, hdata, Bool.not_true, Bool.false_eq_true,
                if_false]
            exact iff_of_false (not_retried_of_ok hattempt) id

/-! ### The status of an outcome -/

/-- An attempt that is retried just when its status says so. -/
def FollowsStatus (client : ApiClient T) (L : LowerCase) (o : FetchOutcome T) : Prop :=
  (o.IsNetworkError ∨ o.IsServerError → o.Retried client L) ∧
    (o.IsClientError ∨ o.IsSuccess client → ¬o.Retried client L)

lemma isOk_iff {r : HttpResponse T} : r.isOk = true ↔ 200 ≤ r.status ∧ r.status < 300 := by
  simp only [HttpResponse.isOk, Bool.and_eq_true, decide_eq_true_eq]

lemma isOk_eq_false {r : HttpResponse T} (h : 300 ≤ r.status) : r.isOk = false := by
  rw [Bool.eq_false_iff, Ne, isOk_iff]
  omega

lemma isServerError_response {r : HttpResponse T} :
    (FetchOutcome.response r).IsServerError ↔ 500 ≤ r.status ∧ r.status < 600 := by
  constructor
  · rintro ⟨r', hr', h⟩
    cases hr'
    exact h
  · intro h
    exact ⟨r, rfl, h⟩

lemma isClientError_response {r : HttpResponse T} :
    (FetchOutcome.response r).IsClientError ↔ 400 ≤ r.status ∧ r.status < 500 := by
  constructor
  · rintro ⟨r', hr', h⟩
    cases hr'
    exact h
  · intro h
    exact ⟨r, rfl, h⟩

lemma isSuccess_response {r : HttpResponse T} :
    (FetchOutcome.response r).IsSuccess client ↔ r.isOk = true ∧
      (r.status = 204 ∧ client.noContent.isSome ∨ ∃ parsed, r.data = .ok parsed) := by
  constructor
  · rintro ⟨r', hr', h⟩
    cases hr'
    exact h
  · intro h
    exact ⟨r, rfl, h⟩

lemma not_isNetworkError_response {r : HttpResponse T} :
    ¬(FetchOutcome.response r).IsNetworkError := by
  rintro ⟨message, hmessage⟩
  cases hmessage

lemma followsStatus_response {r : HttpResponse T} :
    (FetchOutcome.response r).FollowsStatus client L ↔
      (500 ≤ r.status ∧ r.status < 600 → (FetchOutcome.response r).Retried client L) ∧
        (400 ≤ r.status ∧ r.status < 500 ∨ r.isOk = true ∧
            (r.status = 204 ∧ client.noContent.isSome ∨ ∃ parsed, r.data = .ok parsed) →
          ¬(FetchOutcome.response r).Retried client L) := by
  unfold FollowsStatus
  rw [or_iff_right not_isNetworkError_response, isServerError_response, isClientError_response,
    isSuccess_response]

lemma followsStatus_serverError (hname : client.IsNamed) {r : HttpResponse T}
    (hserver : 500 ≤ r.status ∧ r.status < 600) :
    (FetchOutcome.response r).FollowsStatus client L ↔
      (FetchOutcome.response r).Plain client L := by
  have hok : r.isOk = false := isOk_eq_false (by omega)
  have hother : ¬(400 ≤ r.status ∧ r.status < 500 ∨ r.isOk = true ∧
      (r.status = 204 ∧ client.noContent.isSome ∨ ∃ parsed, r.data = .ok parsed)) := by
    rintro (hclient | ⟨hyes, -⟩)
    · omega
    · rw [hok] at hyes
      cases hyes
  rw [followsStatus_response, forall_prop_of_true hserver, and_iff_left fun h => absurd h hother,
    retried_of_not_isOk hname hok]
  unfold Plain
  dsimp only
  rw [if_pos hserver]
  cases r.text with
  | error message => exact Iff.rfl
  | ok text => exact or_congr_left (marked_status (by omega))

lemma followsStatus_clientError (hname : client.IsNamed) {r : HttpResponse T}
    (hclient : 400 ≤ r.status ∧ r.status < 500) :
    (FetchOutcome.response r).FollowsStatus client L ↔
      (FetchOutcome.response r).Plain client L := by
  have hok : r.isOk = false := isOk_eq_false (by omega)
  have hserver : ¬(500 ≤ r.status ∧ r.status < 600) := by omega
  rw [followsStatus_response, and_iff_right fun h => absurd h hserver,
    forall_prop_of_true (Or.inl hclient), retried_of_not_isOk hname hok]
  unfold Plain
  dsimp only
  rw [if_neg hserver, if_pos hclient]
  cases r.text with
  | error message => exact Iff.rfl
  | ok text =>
      have hstatus : ¬Marked L (toString r.status) := by
        rw [marked_status (by omega)]
        simp only [List.mem_cons, List.not_mem_nil, or_false]
        omega
      dsimp only
      rw [or_iff_right hstatus, not_or]

/-- Only the error of the schema can be retried where there should be an end. -/
lemma followsStatus_otherStatus (hname : client.IsNamed) {r : HttpResponse T}
    (hserver : ¬(500 ≤ r.status ∧ r.status < 600)) (hclient : ¬(400 ≤ r.status ∧ r.status < 500)) :
    (FetchOutcome.response r).FollowsStatus client L ↔
      (FetchOutcome.response r).Plain client L := by
  rw [followsStatus_response, and_iff_right fun h => absurd h hserver, or_iff_right hclient]
  unfold Plain
  dsimp only
  rw [if_neg hserver, if_neg hclient]
  by_cases hread : r.isOk = true ∧ ¬(r.status = 204 ∧ client.noContent.isSome)
  · rw [if_pos hread, retried_of_isOk hname hread.1, and_iff_right hread.2,
      or_iff_right hread.2, and_iff_right hread.1]
    cases r.data with
    | error message =>
        refine iff_of_true ?_ trivial
        rintro ⟨parsed, hparsed⟩
        cases hparsed
    | ok parsed =>
        rw [forall_prop_of_true ⟨parsed, rfl⟩]
        cases parsed with
        | error error => exact Iff.rfl
        | ok validated => exact iff_of_true id trivial
  · rw [if_neg hread]
    refine iff_of_true ?_ trivial
    rintro ⟨hok, -⟩
    rw [retried_of_isOk hname hok]
    exact fun h => hread ⟨hok, h.1⟩

/-- An outcome is plain just when its attempt follows the status. -/
lemma followsStatus_iff_plain (hname : client.IsNamed) :
    o.FollowsStatus client L ↔ o.Plain client L := by
  cases o with
  | rejected message =>
      have hretried : (FetchOutcome.rejected message : FetchOutcome T).Retried client L ↔
          Marked L message := retried_iff_of_error rfl
      unfold FollowsStatus
      rw [hretried]
      show _ ↔ Marked L message
      constructor
      · intro h
        exact h.1 (Or.inl ⟨message, rfl⟩)
      · intro hmarked
        refine ⟨fun _ => hmarked, ?_⟩
        rintro (⟨r, hr, -⟩ | ⟨r, hr, -⟩)
        · cases hr
        · cases hr
  | response r =>
      by_cases hserver : 500 ≤ r.status ∧ r.status < 600
      · exact followsStatus_serverError hname hserver
      · by_cases hclient : 400 ≤ r.status ∧ r.status < 500
        · exact followsStatus_clientError hname hclient
        · exact followsStatus_otherStatus hname hserver hclient

end FetchOutcome

/-! ## Requests -/

/-- How often a request fetches, and after which outcomes again. -/
structure RetriesByStatus (client : ApiClient T) (calls : ℕ) (outcomes : ℕ → FetchOutcome T) :
    Prop where
  atMost : calls ≤ 3
  again : ∀ n < calls, n + 1 < 3 →
    (outcomes n).IsNetworkError ∨ (outcomes n).IsServerError → n + 1 < calls
  noMore : ∀ n < calls, (outcomes n).IsClientError ∨ (outcomes n).IsSuccess client →
    calls = n + 1

lemma lt_calls_request {outcomes : ℕ → FetchOutcome T} {n : ℕ} :
    n < (client.request L outcomes).calls ↔ n < 3 ∧ ∀ m < n, (outcomes m).Retried client L :=
  lt_calls_retry (Nat.succ_pos 2)

lemma retriesByStatus_iff (hname : client.IsNamed) {outcomes : ℕ → FetchOutcome T} :
    RetriesByStatus client (client.request L outcomes).calls outcomes ↔
      ∀ n < 2, (∀ m < n, (outcomes m).Retried client L) → (outcomes n).Plain client L := by
  have hnext : ∀ {n}, n < (client.request L outcomes).calls → n + 1 < 3 →
      (n + 1 < (client.request L outcomes).calls ↔ (outcomes n).Retried client L) := by
    intro n hn hlt
    rw [lt_calls_request] at hn ⊢
    rw [and_iff_right hlt, Nat.forall_lt_succ_right, and_iff_right hn.2]
  have hmost : (client.request L outcomes).calls ≤ 3 := by
    by_contra hmore
    exact absurd (lt_calls_request.mp (Nat.lt_of_not_le hmore)).1 (Nat.lt_irrefl 3)
  constructor
  · intro h n hn hbefore
    have hreached : n < (client.request L outcomes).calls :=
      lt_calls_request.mpr ⟨by omega, hbefore⟩
    rw [← FetchOutcome.followsStatus_iff_plain hname]
    refine ⟨fun hagain => ?_, fun hnoMore hretried => ?_⟩
    · exact (hnext hreached (by omega)).mp (h.again n hreached (by omega) hagain)
    · have hlast := h.noMore n hreached hnoMore
      have hmore := (hnext hreached (by omega)).mpr hretried
      omega
  · intro hplain
    refine ⟨hmost, fun n hn hlt hagain => ?_, fun n hn hnoMore => ?_⟩
    · have hfollows := (FetchOutcome.followsStatus_iff_plain hname).mpr
        (hplain n (by omega) (lt_calls_request.mp hn).2)
      exact (hnext hn hlt).mpr (hfollows.1 hagain)
    · by_cases hlt : n + 1 < 3
      · have hfollows := (FetchOutcome.followsStatus_iff_plain hname).mpr
          (hplain n (by omega) (lt_calls_request.mp hn).2)
        have hstops := mt (hnext hn hlt).mp (hfollows.2 hnoMore)
        omega
      · omega

end

/-- Both clients retry by the status just when the texts of the outcomes that may be followed by
another fetch agree with it. -/
theorem retriesByStatus_request_iff {T : Type} (empty : T) (L : LowerCase)
    (outcomes : ℕ → FetchOutcome T) :
    (RetriesByStatus steveApi (SteveClient.request L outcomes).calls outcomes ↔
      ∀ n < 2, (∀ m < n, (outcomes m).Retried steveApi L) → (outcomes n).Plain steveApi L) ∧
    (RetriesByStatus (lagoApi empty) (LagoClient.request empty L outcomes).calls outcomes ↔
      ∀ n < 2, (∀ m < n, (outcomes m).Retried (lagoApi empty) L) →
        (outcomes n).Plain (lagoApi empty) L) :=
  ⟨retriesByStatus_iff (Or.inl rfl), retriesByStatus_iff (Or.inr rfl)⟩

/-! ## A number in a text -/

/-- `toLowerCase` of a text in ASCII. -/
def asciiLowerCase : LowerCase where
  lower c := [c.toLower]
  ascii _ _ := rfl

/-- StEvE does not know the charger. -/
def unknownCharger : FetchOutcome Unit := .response
  { status := 404
    statusText := "Not Found"
    text := .ok "There is no charge box CB-1500"
    data := .error "Body already consumed." }

/-- The command is sent three times. -/
theorem not_retriesByStatus_unknownCharger : ¬∀ (L : LowerCase) (outcomes : ℕ → FetchOutcome Unit),
    RetriesByStatus steveApi (SteveClient.request L outcomes).calls outcomes := by
  intro hall
  have hthree : (SteveClient.request asciiLowerCase fun _ => unknownCharger).calls = 3 := by
    decide +kernel
  have hstatus : unknownCharger.IsClientError := ⟨_, rfl, by decide, by decide⟩
  have hone := (hall asciiLowerCase fun _ => unknownCharger).noMore 0 (by omega) (Or.inl hstatus)
  omega

end ExpresSync
