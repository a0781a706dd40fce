import ExpresSync.Foundation.Transition
import ExpresSync.Model.RegistrationClaims

/-!
# A code is claimed once, by its owner

A claim reads the row of its code, compares the verifier, and consumes the row in one statement that
looks at its status and expiry again.  Whoever fails before that statement has written nothing, and
the row it consumes is the one whose challenge was compared (`CodeWorld.Sound`).
-/

namespace ExpresSync

open Transition

/-! ## Digests -/

lemma hexDigit_not_isMeta {n : ℕ} (hn : n < 16) : ¬Sql.IsMeta (hexDigit n) := by
  have hall : ∀ n < 16, ¬Sql.IsMeta (hexDigit n) := by decide
  exact hall n hn

lemma hexDigit_injective {m n : ℕ} (hm : m < 16) (hn : n < 16) (h : hexDigit m = hexDigit n) :
    m = n := by
  have hall : ∀ m < 16, ∀ n < 16, hexDigit m = hexDigit n → m = n := by decide
  exact hall m hm n hn h

lemma hexByte_injective {a b : UInt8} (h : hexByte a = hexByte b) : a = b := by
  have ha : a.toNat < 256 := a.toNat_lt
  have hb : b.toNat < 256 := b.toNat_lt
  simp only [hexByte, List.cons.injEq, and_true] at h
  have hhigh : a.toNat / 16 = b.toNat / 16 := hexDigit_injective (by omega) (by omega) h.1
  have hlow : a.toNat % 16 = b.toNat % 16 := hexDigit_injective (by omega) (by omega) h.2
  have hnat : a.toNat = b.toNat := by omega
  exact UInt8.toNat_inj.mp hnat

lemma length_flatMap_hexByte (bytes : List UInt8) :
    (bytes.flatMap hexByte).length = 2 * bytes.length := by
  induction bytes with
  | nil => rfl
  | cons a bytes ih =>
      have hbyte : (hexByte a).length = 2 := rfl
      rw [List.flatMap_cons, List.length_append, ih, hbyte, List.length_cons]
      omega

lemma flatMap_hexByte_injective {as bs : List UInt8}
    (h : as.flatMap hexByte = bs.flatMap hexByte) : as = bs := by
  induction as generalizing bs with
  | nil =>
      have hlength := congrArg List.length h
      rw [length_flatMap_hexByte, length_flatMap_hexByte] at hlength
      have hnil : bs.length = 0 := by
        rw [List.length_nil] at hlength
        omega
      exact (List.length_eq_zero_iff.mp hnil).symm
  | cons a as ih =>
      cases bs with
      | nil =>
          have hlength := congrArg List.length h
          rw [length_flatMap_hexByte, length_flatMap_hexByte, List.length_cons,
            List.length_nil] at hlength
          omega
      | cons b bs =>
          rw [List.flatMap_cons, List.flatMap_cons] at h
          obtain ⟨hhead, hrest⟩ := List.append_inj h rfl
          rw [hexByte_injective hhead, ih hrest]

section

variable {sha256 : String → Vector UInt8 32}

lemma length_sha256Hex (input : String) : (sha256Hex sha256 input).toList.length = 64 := by
  rw [sha256Hex, String.toList_ofList, length_flatMap_hexByte, Vector.length_toList]

lemma sha256Hex_eq_iff {a b : String} :
    sha256Hex sha256 a = sha256Hex sha256 b ↔ sha256 a = sha256 b := by
  constructor
  · intro h
    have hlists := congrArg String.toList h
    simp only [sha256Hex, String.toList_ofList] at hlists
    exact Vector.toList_inj.mp (flatMap_hexByte_injective hlists)
  · intro h
    rw [sha256Hex, h, sha256Hex]

/-- The look-up finds the rows of the code, whoever minted them. -/
lemma isFound_iff {now : ℕ} {rawCode input : String} {code : RegistrationCode}
    (hcode : code.hashedCode = sha256Hex sha256 input) :
    code.IsFound now (sha256Hex sha256 rawCode) ↔
      code.hashedCode = sha256Hex sha256 rawCode ∧ now < code.expiresAt := by
  have hliteral : ∀ c ∈ "expresscan-register:".toList, ¬Sql.IsMeta c := by
    simp [Sql.IsMeta]
  have hlast : ∀ c ∈ ':' :: (sha256Hex sha256 rawCode).toList, ¬Sql.IsMeta c := by
    intro c hc
    rcases List.mem_cons.mp hc with hcolon | hdigit
    · rw [hcolon]
      decide
    · rw [sha256Hex, String.toList_ofList] at hdigit
      obtain ⟨byte, -, hbyte⟩ := List.mem_flatMap.mp hdigit
      have hlt : byte.toNat < 256 := byte.toNat_lt
      simp only [hexByte, List.mem_cons, List.not_mem_nil, or_false] at hbyte
      rcases hbyte with hhigh | hlow
      · rw [hhigh]
        exact hexDigit_not_isMeta (by omega)
      · rw [hlow]
        exact hexDigit_not_isMeta (by omega)
  unfold RegistrationCode.IsFound
  refine and_congr_left fun _ => ?_
  refine (Sql.like_literal_anyText_literal hliteral hlast).trans ?_
  unfold buildIdentifier
  constructor
  · rintro ⟨inner, htext⟩
    simp only [String.toList_append] at htext
    have hlength : code.hashedCode.toList.length = (sha256Hex sha256 rawCode).toList.length := by
      rw [hcode, length_sha256Hex, length_sha256Hex]
    rw [List.append_cons] at htext
    exact String.toList_injective (List.append_inj_right' htext hlength)
  · intro heq
    refine ⟨code.userId.toList, ?_⟩
    rw [heq]
    simp [String.toList_append]

end

/-! ## Claims -/

/-- The raw code that an action brings. -/
def CodeAction.rawCode? : CodeAction → Option String
  | .mints _ _ _ _ rawCode => some rawCode
  | .claims rawCode _ => some rawCode
  | _ => none

/-- No two of the raw codes of a run have the same digest. -/
def CollisionFree (sha256 : String → Vector UInt8 32) (as : List CodeAction) : Prop :=
  Set.InjOn sha256 {rawCode | ∃ a ∈ as, a.rawCode? = some rawCode}

namespace CodeWorld

section

variable (sha256 : String → Vector UInt8 32) (w : CodeWorld)

/-- A call of `claimOneTimeCode` that nothing interrupts. -/
def attempt (codeId : ℕ) (rawCode codeVerifier : String) : List CodeAction :=
  let i := w.calls.length
  [.claims rawCode codeVerifier, .hashes i false, .looksUp i (some codeId) false,
    .verifies i false, .consumes i .answers]

/-- Such a call claims the code. -/
def CanClaim (codeId : ℕ) (rawCode codeVerifier : String) : Prop :=
  ∃ w' payload, run (step sha256) w (w.attempt codeId rawCode codeVerifier) = some w' ∧
    w'.claims = w.claims ++ [⟨rawCode, codeVerifier, codeId, w.now, payload⟩]

/-- No code has been claimed twice. -/
def ClaimedOnce : Prop := (w.claims.map SuccessfulClaim.codeId).Nodup

/-- Every claim was of a code that was minted with its raw code, before it expired, with the
verifier of its challenge. -/
def ClaimedByOwner : Prop :=
  ∀ claim ∈ w.claims, (claim.codeId, claim.rawCode) ∈ w.minted ∧
    ∃ code ∈ w.codes.rows, code.id = claim.codeId ∧
      sha256Base64Url sha256 claim.codeVerifier = code.codeChallenge ∧
        claim.claimedAt < code.expiresAt

/-- The action is one of a claim with this verifier. -/
def IsClaimWith (codeVerifier : String) : CodeAction → Prop
  | .claims _ codeVerifier' => codeVerifier' = codeVerifier
  | .hashes i _ | .looksUp i _ _ | .verifies i _ | .consumes i _ =>
      ∃ call ∈ w.calls[i]?, call.codeVerifier = codeVerifier
  | _ => False

/-- A claim with a wrong verifier, or of an expired code, leaves the code as claimable as it was. -/
def LeavesClaimable (a : CodeAction) (w' : CodeWorld) : Prop :=
  ∀ codeVerifier, w.IsClaimWith codeVerifier a → ∀ code ∈ w.codes.rows,
    sha256Base64Url sha256 codeVerifier ≠ code.codeChallenge ∨ code.expiresAt ≤ w.now →
      ∀ rawCode verifier,
        w'.CanClaim sha256 code.id rawCode verifier ↔ w.CanClaim sha256 code.id rawCode verifier

end

/-! ## A claim that nothing interrupts -/

section

variable {sha256 : String → Vector UInt8 32} {w w' : CodeWorld} {codeId : ℕ}
  {rawCode codeVerifier : String} {row : RegistrationCode}

/-- The code is there, armed and alive, and the verifier is right. -/
def Claimable (sha256 : String → Vector UInt8 32) (w : CodeWorld) (codeId : ℕ)
    (rawCode codeVerifier : String) : Prop :=
  AcceptsLengths rawCode codeVerifier ∧ ∃ row, w.codes.get? codeId = some row ∧
    row.IsFound w.now (sha256Hex sha256 rawCode) ∧ row.status = .armed ∧
      sha256Base64Url sha256 codeVerifier = row.codeChallenge

/-- The world with one more call. -/
def withCall (w : CodeWorld) (call : ClaimCall) : CodeWorld := { w with calls := w.calls ++ [call] }

lemma getElem?_withCall (call : ClaimCall) :
    (w.withCall call).calls[w.calls.length]? = some call := by
  simp [withCall]

lemma eraseIdx_withCall (call : ClaimCall) :
    (w.withCall call).calls.eraseIdx w.calls.length = w.calls := by
  simp [withCall, List.eraseIdx_append_of_length_le]

lemma goOn_withCall (call : ClaimCall) (point : ClaimPoint) :
    (w.withCall call).goOn w.calls.length call point = w.withCall { call with point := point } := by
  rw [goOn, eraseIdx_withCall]
  rfl

lemma returnNull_withCall (call : ClaimCall) : (w.withCall call).returnNull w.calls.length = w := by
  rw [returnNull, eraseIdx_withCall]
  rfl

lemma getElem?_calls_length : w.calls[w.calls.length]? = none := List.getElem?_eq_none (le_refl _)

lemma countP_isConsumable (hrow : w.codes.get? codeId = some row) (hlive : w.now < row.expiresAt)
    (harmed : row.status = .armed) : w.codes.rows.countP (w.isConsumable row.id) = 1 := by
  obtain ⟨hmem, -⟩ := SerialTable.get?_eq_some.mp hrow
  refine SerialTable.countP_eq_one hmem ?_ fun other _ hsel => ?_
  · exact decide_eq_true ⟨rfl, hlive, harmed⟩
  · exact (of_decide_eq_true hsel).1

section Attempt

variable (sha256 w codeId rawCode codeVerifier row)

/-- Time passes for a call that is under way, too. -/
example : (w.withCall ⟨rawCode, codeVerifier, .hashing⟩).step sha256 (.waits 1) =
    some { w.withCall ⟨rawCode, codeVerifier, .hashing⟩ with now := w.now + 1 } := by
  rw [step]
  rfl

lemma step_claims (hlengths : AcceptsLengths rawCode codeVerifier) :
    w.step sha256 (.claims rawCode codeVerifier) =
      some (w.withCall ⟨rawCode, codeVerifier, .hashing⟩) := by
  rw [step, if_pos hlengths]
  rfl

lemma step_hashes :
    (w.withCall ⟨rawCode, codeVerifier, .hashing⟩).step sha256 (.hashes w.calls.length false) =
      some (w.withCall ⟨rawCode, codeVerifier, .lookingUp⟩) := by
  rw [step, getElem?_withCall]
  exact congrArg some (goOn_withCall _ _)

lemma step_looksUp :
    (w.withCall ⟨rawCode, codeVerifier, .lookingUp⟩).step sha256
        (.looksUp w.calls.length (some codeId) false) =
      (w.codes.get? codeId).bind fun row =>
        if row.IsFound w.now (sha256Hex sha256 rawCode) then
          some (if row.status = .armed then
            w.withCall ⟨rawCode, codeVerifier, .verifying row⟩ else w)
        else none := by
  rw [step, getElem?_withCall]
  show lookUp sha256 (w.withCall _) _ _ (some codeId) = _
  unfold lookUp
  simp only [goOn_withCall, returnNull_withCall]
  rfl

lemma step_verifies :
    (w.withCall ⟨rawCode, codeVerifier, .verifying row⟩).step sha256
        (.verifies w.calls.length false) =
      some (if sha256Base64Url sha256 codeVerifier = row.codeChallenge then
        w.withCall ⟨rawCode, codeVerifier, .consuming row⟩ else w) := by
  rw [step, getElem?_withCall]
  simp only [Option.bind_some, goOn_withCall, returnNull_withCall, Bool.not_false, Bool.true_and,
    decide_eq_true_eq]

lemma step_consumes (hone : w.codes.rows.countP (w.isConsumable row.id) = 1) :
    (w.withCall ⟨rawCode, codeVerifier, .consuming row⟩).step sha256
        (.consumes w.calls.length .answers) =
      some { w.consumeRow row.id with
        claims := w.claims ++ [⟨rawCode, codeVerifier, row.id, w.now, row.claimed⟩] } := by
  rw [step, getElem?_withCall]
  have hone' : (w.withCall ⟨rawCode, codeVerifier, .consuming row⟩).codes.rows.countP
      ((w.withCall ⟨rawCode, codeVerifier, .consuming row⟩).isConsumable row.id) = 1 := hone
  simp only [Option.bind_some, consume, if_pos hone', returnNull, consumeRow, eraseIdx_withCall]
  rfl

/-- No call is left to go on. -/
lemma step_without_call {a : CodeAction} (ha : a = .hashes w.calls.length false ∨
    a = .verifies w.calls.length false ∨ a = .consumes w.calls.length .answers) :
    w.step sha256 a = none := by
  rcases ha with ha | ha | ha
  all_goals
    rw [ha, step, getElem?_calls_length]
    rfl

end Attempt

/-- An uninterrupted claim succeeds exactly when the code is claimable. -/
lemma canClaim_iff :
    w.CanClaim sha256 codeId rawCode codeVerifier ↔
      w.Claimable sha256 codeId rawCode codeVerifier := by
  constructor
  · rintro ⟨w', payload, hrun, -⟩
    obtain ⟨w₁, h₁, hrun⟩ := run_cons_eq_some.mp hrun
    obtain ⟨w₂, h₂, hrun⟩ := run_cons_eq_some.mp hrun
    by_cases hlengths : AcceptsLengths rawCode codeVerifier
    · rw [step_claims sha256 w _ _ hlengths, Option.some.injEq] at h₁
      rw [← h₁, step_hashes, Option.some.injEq] at h₂
      obtain ⟨w₃, h₃, hrun⟩ := run_cons_eq_some.mp hrun
      obtain ⟨w₄, h₄, hrun⟩ := run_cons_eq_some.mp hrun
      rw [← h₂, step_looksUp] at h₃
      obtain ⟨row, hrow, h₃⟩ := Option.bind_eq_some_iff.mp h₃
      split_ifs at h₃ with hfound harmed
      · rw [Option.some.injEq] at h₃
        rw [← h₃, step_verifies, Option.some.injEq] at h₄
        by_cases hmatch : sha256Base64Url sha256 codeVerifier = row.codeChallenge
        · exact ⟨hlengths, row, hrow, hfound, harmed, hmatch⟩
        · obtain ⟨w₅, h₅, -⟩ := run_cons_eq_some.mp hrun
          rw [if_neg hmatch] at h₄
          rw [← h₄, step_without_call sha256 w (by simp)] at h₅
          exact absurd h₅ (Option.some_ne_none _).symm
      · rw [Option.some.injEq] at h₃
        rw [← h₃, step_without_call sha256 w (by simp)] at h₄
        exact absurd h₄ (Option.some_ne_none _).symm
    · rw [step, if_neg hlengths, Option.some.injEq] at h₁
      rw [← h₁, step_without_call sha256 w (by simp)] at h₂
      exact absurd h₂ (Option.some_ne_none _).symm
  · rintro ⟨hlengths, row, hrow, hfound, harmed, hmatch⟩
    have hid : row.id = codeId := (SerialTable.get?_eq_some.mp hrow).2
    have hlookUp := step_looksUp sha256 w codeId rawCode codeVerifier
    have hverify := step_verifies sha256 w rawCode codeVerifier row
    have hone := countP_isConsumable hrow hfound.2 harmed
    rw [hrow, Option.bind_some, if_pos hfound, if_pos harmed] at hlookUp
    rw [if_pos hmatch] at hverify
    subst hid
    refine ⟨{ w.consumeRow row.id with
      claims := w.claims ++ [⟨rawCode, codeVerifier, row.id, w.now, row.claimed⟩] },
      row.claimed, ?_, rfl⟩
    refine run_cons_eq_some.mpr ⟨_, step_claims sha256 w _ _ hlengths, ?_⟩
    refine run_cons_eq_some.mpr ⟨_, step_hashes sha256 w _ _, ?_⟩
    refine run_cons_eq_some.mpr ⟨_, hlookUp, ?_⟩
    refine run_cons_eq_some.mpr ⟨_, hverify, ?_⟩
    exact run_cons_eq_some.mpr ⟨_, step_consumes sha256 w _ _ row hone, rfl⟩

end

/-! ## What is known of calls and rows -/

/-- What a row never changes. -/
def SameCode (a b : RegistrationCode) : Prop := { a with status := b.status } = b

lemma SameCode.refl (a : RegistrationCode) : SameCode a a := rfl

lemma SameCode.trans {a b c : RegistrationCode} (hab : SameCode a b) (hbc : SameCode b c) :
    SameCode a c := by
  unfold SameCode at *
  rw [← hbc, ← hab]

lemma SameCode.fields {a b : RegistrationCode} (h : SameCode a b) :
    b.id = a.id ∧ b.hashedCode = a.hashedCode ∧ b.codeChallenge = a.codeChallenge ∧
      b.expiresAt = a.expiresAt := by
  unfold SameCode at h
  rw [← h]
  exact ⟨rfl, rfl, rfl, rfl⟩

/-- The rows are still there, and those that were consumed still are. -/
def RowsKept (codes codes' : List RegistrationCode) : Prop :=
  ∀ row ∈ codes, ∃ row' ∈ codes', SameCode row row' ∧
    (row.status = .consumed → row'.status = .consumed)

section

variable (sha256 : String → Vector UInt8 32) (R : Set String) (codes : List RegistrationCode)

/-- The row that a call has read is one of its code. -/
def HasRead (call : ClaimCall) (row : RegistrationCode) : Prop :=
  row.hashedCode = sha256Hex sha256 call.rawCode ∧ ∃ code ∈ codes, SameCode row code

/-- What a call has established. -/
def Established (call : ClaimCall) : Prop :=
  match call.point with
  | .hashing | .lookingUp => True
  | .verifying row => HasRead sha256 codes call row
  | .consuming row =>
      HasRead sha256 codes call row ∧
        sha256Base64Url sha256 call.codeVerifier = row.codeChallenge

/-- A claim, and the row that it consumed. -/
def SuccessfulClaim.Consumed (claim : SuccessfulClaim) (code : RegistrationCode) : Prop :=
  code.id = claim.codeId ∧ code.status = .consumed ∧
    code.hashedCode = sha256Hex sha256 claim.rawCode ∧
      sha256Base64Url sha256 claim.codeVerifier = code.codeChallenge ∧
        claim.claimedAt < code.expiresAt

/-- The invariant, for raw codes from `R`. -/
structure Sound (w : CodeWorld) : Prop where
  once : w.ClaimedOnce
  claims : ∀ claim ∈ w.claims, claim.rawCode ∈ R ∧
    ∃ code ∈ w.codes.rows, SuccessfulClaim.Consumed sha256 claim code
  minted : ∀ code ∈ w.codes.rows, ∃ rawCode ∈ R, (code.id, rawCode) ∈ w.minted ∧
    code.hashedCode = sha256Hex sha256 rawCode
  mints : ∀ call ∈ w.mints, call.rawCode ∈ R
  calls : ∀ call ∈ w.calls, call.rawCode ∈ R ∧ Established sha256 w.codes.rows call

end

section

variable {sha256 : String → Vector UInt8 32} {R : Set String}
  {codes codes' : List RegistrationCode} {w w' : CodeWorld}

lemma HasRead.mono {call : ClaimCall} {row : RegistrationCode} (h : HasRead sha256 codes call row)
    (hkept : RowsKept codes codes') : HasRead sha256 codes' call row := by
  obtain ⟨hhash, code, hcode, hsame⟩ := h
  obtain ⟨code', hcode', hsame', -⟩ := hkept code hcode
  exact ⟨hhash, code', hcode', hsame.trans hsame'⟩

lemma Established.mono {call : ClaimCall} (h : Established sha256 codes call)
    (hkept : RowsKept codes codes') : Established sha256 codes' call := by
  unfold Established at *
  cases hpoint : call.point with
  | hashing => trivial
  | lookingUp => trivial
  | verifying row =>
      rw [hpoint] at h
      exact h.mono hkept
  | consuming row =>
      rw [hpoint] at h
      exact ⟨h.1.mono hkept, h.2⟩

lemma SuccessfulClaim.Consumed.mono {claim : SuccessfulClaim} {code : RegistrationCode}
    (h : Consumed sha256 claim code) (hcode : code ∈ codes) (hkept : RowsKept codes codes') :
    ∃ code' ∈ codes', Consumed sha256 claim code' := by
  obtain ⟨hid, hstatus, hhash, hverifier, hexpiry⟩ := h
  obtain ⟨code', hcode', hsame, hspent⟩ := hkept code hcode
  obtain ⟨hid', hhash', hchallenge', hexpiry'⟩ := hsame.fields
  refine ⟨code', hcode', hid'.trans hid, hspent hstatus, hhash'.trans hhash, ?_, ?_⟩
  · rw [hchallenge']
    exact hverifier
  · rw [hexpiry']
    exact hexpiry

lemma mem_consumeRow {codeId : ℕ} {code : RegistrationCode} :
    code ∈ (w.consumeRow codeId).codes.rows ↔ ∃ old ∈ w.codes.rows,
      code = if w.isConsumable codeId old then { old with status := .consumed } else old :=
  SerialTable.mem_rewrite

lemma rowsKept_consumeRow {codeId : ℕ} :
    RowsKept w.codes.rows (w.consumeRow codeId).codes.rows := by
  intro row hrow
  by_cases hsel : w.isConsumable codeId row = true
  · exact ⟨{ row with status := .consumed },
      mem_consumeRow.mpr ⟨row, hrow, by rw [if_pos hsel]⟩, rfl, fun _ => rfl⟩
  · exact ⟨row, mem_consumeRow.mpr ⟨row, hrow, by rw [if_neg hsel]⟩, rfl, id⟩

/-! ## Steps -/

lemma sound_initial (now : ℕ) : Sound sha256 R (initial now) where
  once := List.nodup_nil
  claims := fun _ h => absurd h List.not_mem_nil
  minted := fun _ h => absurd h List.not_mem_nil
  mints := fun _ h => absurd h List.not_mem_nil
  calls := fun _ h => absurd h List.not_mem_nil

lemma Sound.of_mints (h : Sound sha256 R w) {mints : List MintCall}
    (hmints : ∀ call ∈ mints, call.rawCode ∈ R) : Sound sha256 R { w with mints := mints } :=
  ⟨h.once, h.claims, h.minted, hmints, h.calls⟩

lemma Sound.of_calls (h : Sound sha256 R w) {calls : List ClaimCall}
    (hcalls : ∀ call ∈ calls, call.rawCode ∈ R ∧ Established sha256 w.codes.rows call) :
    Sound sha256 R { w with calls := calls } :=
  ⟨h.once, h.claims, h.minted, h.mints, hcalls⟩

lemma Sound.returnNull (h : Sound sha256 R w) (i : ℕ) : Sound sha256 R (w.returnNull i) :=
  h.of_calls fun call hcall => h.calls call (InFlight.mem_of_mem_eraseIdx hcall)

lemma Sound.goOn (h : Sound sha256 R w) {i : ℕ} {call : ClaimCall} (hcall : w.calls[i]? = some call)
    {point : ClaimPoint} (hpoint : Established sha256 w.codes.rows { call with point := point }) :
    Sound sha256 R (w.goOn i call point) :=
  h.of_calls (InFlight.forall_mem_putBack h.calls
    ⟨(h.calls call (List.mem_of_getElem? hcall)).1, hpoint⟩)

lemma Sound.eraseMint (h : Sound sha256 R w) (j : ℕ) :
    Sound sha256 R { w with mints := w.mints.eraseIdx j } :=
  h.of_mints fun call hcall => h.mints call (InFlight.mem_of_mem_eraseIdx hcall)

lemma Sound.insertCode (h : Sound sha256 R w) {call : MintCall} (hcall : call.rawCode ∈ R)
    (expiresAt : ℕ) : Sound sha256 R (w.insertCode sha256 call expiresAt) := by
  have hkept : RowsKept w.codes.rows (w.insertCode sha256 call expiresAt).codes.rows :=
    fun row hrow => ⟨row, SerialTable.mem_insert.mpr (Or.inl hrow), SameCode.refl row, id⟩
  constructor
  · exact h.once
  · intro claim hclaim
    obtain ⟨hraw, code, hcode, hconsumed⟩ := h.claims claim hclaim
    exact ⟨hraw, hconsumed.mono hcode hkept⟩
  · intro code hcode
    rcases SerialTable.mem_insert.mp hcode with hold | hnew
    · obtain ⟨rawCode, hraw, hmem, hhash⟩ := h.minted code hold
      exact ⟨rawCode, hraw, List.mem_append_left _ hmem, hhash⟩
    · rw [hnew]
      exact ⟨call.rawCode, hcall, List.mem_append_right _ (List.mem_singleton.mpr rfl), rfl⟩
  · exact h.mints
  · intro other hother
    obtain ⟨hraw, hestablished⟩ := h.calls other hother
    exact ⟨hraw, hestablished.mono hkept⟩

/-- The `UPDATE` of a claim, before its caller hears of it. -/
lemma Sound.consumeRow (h : Sound sha256 R w) (codeId : ℕ) :
    Sound sha256 R (w.consumeRow codeId) where
  once := h.once
  claims := fun claim hclaim => by
    obtain ⟨hraw, code, hcode, hconsumed⟩ := h.claims claim hclaim
    exact ⟨hraw, hconsumed.mono hcode rowsKept_consumeRow⟩
  minted := fun code hcode => by
    obtain ⟨old, hold, heq⟩ := mem_consumeRow.mp hcode
    obtain ⟨rawCode, hraw, hmem, hhash⟩ := h.minted old hold
    refine ⟨rawCode, hraw, ?_, ?_⟩
    · rw [heq]
      split
      · exact hmem
      · exact hmem
    · rw [heq]
      split
      · exact hhash
      · exact hhash
  mints := h.mints
  calls := fun call hcall => by
    obtain ⟨hraw, hestablished⟩ := h.calls call hcall
    exact ⟨hraw, hestablished.mono rowsKept_consumeRow⟩

/-- The row that the `UPDATE` has consumed was armed, so no claim was of it. -/
lemma Sound.codeId_notMem (h : Sound sha256 R w) {code : RegistrationCode}
    (hcode : code ∈ w.codes.rows) (harmed : code.status = .armed) :
    code.id ∉ w.claims.map SuccessfulClaim.codeId := by
  intro hmem
  obtain ⟨claim, hclaim, hid⟩ := List.mem_map.mp hmem
  obtain ⟨-, spent, hspent, hid', hstatus, -⟩ := h.claims claim hclaim
  have heq : spent = code := SerialTable.eq_of_key hspent hcode (hid'.trans hid)
  rw [heq, harmed] at hstatus
  exact absurd hstatus (by decide)

/-- A claim that consumes a row is the first of that row. -/
lemma Sound.consume (h : Sound sha256 R w) {i : ℕ} {call : ClaimCall} {row : RegistrationCode}
    (hcall : w.calls[i]? = some call) (hpoint : call.point = .consuming row)
    (fate : StatementFate) :
    Sound sha256 R (w.consume i call row fate) := by
  obtain ⟨hraw, hestablished⟩ := h.calls call (List.mem_of_getElem? hcall)
  unfold Established at hestablished
  rw [hpoint] at hestablished
  obtain ⟨⟨hhash, -⟩, hverifier⟩ := hestablished
  have hconsumed : Sound sha256 R ((w.consumeRow row.id).returnNull i) :=
    (h.consumeRow row.id).returnNull i
  cases fate with
  | fails => exact h.returnNull i
  | answerLost => exact hconsumed
  | answers =>
      unfold CodeWorld.consume
      dsimp only
      split
      · next hone =>
          have hpos : 0 < w.codes.rows.countP (w.isConsumable row.id) := by omega
          obtain ⟨code, hcode, hsel⟩ := List.countP_pos_iff.mp hpos
          obtain ⟨hid, hlive, harmed⟩ := of_decide_eq_true hsel
          have hsame : SameCode row code := by
            obtain ⟨-, hestablished⟩ := h.calls call (List.mem_of_getElem? hcall)
            unfold Established at hestablished
            rw [hpoint] at hestablished
            obtain ⟨⟨-, other, hother, hsame⟩, -⟩ := hestablished
            have heq : other = code :=
              SerialTable.eq_of_key hother hcode (hsame.fields.1.trans hid.symm)
            exact heq ▸ hsame
          obtain ⟨-, hhash', hchallenge', -⟩ := hsame.fields
          constructor
          · show ((w.claims ++ [_]).map SuccessfulClaim.codeId).Nodup
            rw [List.map_append, List.map_singleton, List.nodup_append_comm]
            refine List.nodup_cons.mpr ⟨?_, h.once⟩
            show row.id ∉ _
            rw [← hid]
            exact h.codeId_notMem hcode harmed
          · intro claim hclaim
            rcases List.mem_append.mp hclaim with hold | hnew
            · exact hconsumed.claims claim hold
            · rw [List.mem_singleton.mp hnew]
              refine ⟨hraw, { code with status := .consumed },
                mem_consumeRow.mpr ⟨code, hcode, by rw [if_pos hsel]⟩, hid, rfl,
                hhash'.trans hhash, ?_, hlive⟩
              show _ = code.codeChallenge
              rw [hchallenge']
              exact hverifier
          · exact hconsumed.minted
          · exact hconsumed.mints
          · exact hconsumed.calls
      · exact hconsumed

lemma Sound.lookUp (h : Sound sha256 R w) {i : ℕ} {call : ClaimCall} {found : Option ℕ}
    (hcall : w.calls[i]? = some call) (hlookUp : w.lookUp sha256 i call found = some w') :
    Sound sha256 R w' := by
  cases found with
  | none =>
      unfold CodeWorld.lookUp at hlookUp
      split_ifs at hlookUp
      rw [← Option.some.inj hlookUp]
      exact h.returnNull i
  | some id =>
      obtain ⟨row, hrow, hlookUp⟩ := Option.bind_eq_some_iff.mp hlookUp
      split_ifs at hlookUp with hfound harmed
      · rw [← Option.some.inj hlookUp]
        obtain ⟨hmem, -⟩ := SerialTable.get?_eq_some.mp hrow
        obtain ⟨rawCode, -, -, hhash⟩ := h.minted row hmem
        refine h.goOn hcall ⟨?_, row, hmem, SameCode.refl row⟩
        exact ((isFound_iff hhash).mp hfound).1
      · rw [← Option.some.inj hlookUp]
        exact h.returnNull i

/-- Every step keeps the invariant. -/
lemma sound_step {a : CodeAction} (h : Sound sha256 R w)
    (hraw : ∀ rawCode ∈ a.rawCode?, rawCode ∈ R)
    (hstep : w.step sha256 a = some w') : Sound sha256 R w' := by
  cases a with
  | waits ms =>
      rw [← Option.some.inj hstep]
      exact ⟨h.once, h.claims, h.minted, h.mints, h.calls⟩
  | mints userId codeChallenge label requestedCapabilities rawCode =>
      rw [← Option.some.inj hstep]
      refine h.of_mints fun call hcall => ?_
      rcases List.mem_append.mp hcall with hold | hnew
      · exact h.mints call hold
      · rw [List.mem_singleton.mp hnew]
        exact hraw rawCode rfl
  | hashesMint j fails =>
      obtain ⟨call, hcall, hstep⟩ := Option.bind_eq_some_iff.mp hstep
      split_ifs at hstep with hdone hfails
      · rw [← Option.some.inj hstep, List.append_nil]
        exact h.eraseMint j
      · rw [← Option.some.inj hstep]
        refine h.of_mints (InFlight.forall_mem_putBack h.mints ?_)
        exact h.mints call (List.mem_of_getElem? hcall)
  | inserts j fate =>
      obtain ⟨call, hcall, hstep⟩ := Option.bind_eq_some_iff.mp hstep
      obtain ⟨expiresAt, -, hstep⟩ := Option.map_eq_some_iff.mp hstep
      rw [← hstep]
      dsimp only
      split
      · exact h.eraseMint j
      · exact (h.eraseMint j).insertCode (h.mints call (List.mem_of_getElem? hcall)) expiresAt
  | claims rawCode codeVerifier =>
      rw [← Option.some.inj hstep]
      split
      · refine h.of_calls fun call hcall => ?_
        rcases List.mem_append.mp hcall with hold | hnew
        · exact h.calls call hold
        · rw [List.mem_singleton.mp hnew]
          exact ⟨hraw rawCode rfl, trivial⟩
      · exact h
  | hashes i fails =>
      obtain ⟨call, hcall, hstep⟩ := Option.bind_eq_some_iff.mp hstep
      split at hstep
      · rw [← Option.some.inj hstep]
        split
        · exact h.returnNull i
        · exact h.goOn hcall trivial
      · exact absurd hstep (Option.some_ne_none _).symm
  | looksUp i found fails =>
      obtain ⟨call, hcall, hstep⟩ := Option.bind_eq_some_iff.mp hstep
      split at hstep
      · split_ifs at hstep
        · rw [← Option.some.inj hstep]
          exact h.returnNull i
        · exact h.lookUp hcall hstep
      · exact absurd hstep (Option.some_ne_none _).symm
  | verifies i fails =>
      obtain ⟨call, hcall, hstep⟩ := Option.bind_eq_some_iff.mp hstep
      split at hstep
      · next row hpoint =>
          rw [← Option.some.inj hstep]
          split
          · next hmatch =>
              rw [Bool.and_eq_true, decide_eq_true_eq] at hmatch
              obtain ⟨-, hestablished⟩ := h.calls call (List.mem_of_getElem? hcall)
              unfold Established at hestablished
              rw [hpoint] at hestablished
              exact h.goOn hcall ⟨hestablished, hmatch.2⟩
          · exact h.returnNull i
      · exact absurd hstep (Option.some_ne_none _).symm
  | consumes i fate =>
      obtain ⟨call, hcall, hstep⟩ := Option.bind_eq_some_iff.mp hstep
      split at hstep
      · next row hpoint =>
          rw [← Option.some.inj hstep]
          exact h.consume hcall hpoint fate
      · exact absurd hstep (Option.some_ne_none _).symm

/-! ## A code stays claimable -/

/-- Whether a code is claimable is a matter of its row and of the time. -/
lemma canClaim_congr {codeId : ℕ} {rawCode verifier : String} (hnow : w'.now = w.now)
    (hrow : w'.codes.get? codeId = w.codes.get? codeId) :
    w'.CanClaim sha256 codeId rawCode verifier ↔ w.CanClaim sha256 codeId rawCode verifier := by
  rw [canClaim_iff, canClaim_iff]
  unfold Claimable
  rw [hnow, hrow]

/-- Of the `UPDATE` of a claim only the row is affected whose challenge it has compared, and not
after the expiry. -/
lemma get?_consumeRow {codeId : ℕ} {code : RegistrationCode} (hcode : code ∈ w.codes.rows)
    (hnot : code.id = codeId → code.expiresAt ≤ w.now) :
    (w.consumeRow codeId).codes.get? code.id = w.codes.get? code.id := by
  unfold consumeRow
  apply SerialTable.get?_update
  case hf => exact fun _ => rfl
  intro row hrow hid
  rw [SerialTable.eq_of_key hrow hcode hid]
  refine decide_eq_false ?_
  rintro ⟨heq, hlive, -⟩
  have hexpired := hnot heq
  omega

/-- The parts of a world that an `UPDATE` does not touch. -/
lemma consume_codes (w : CodeWorld) (i : ℕ) (call : ClaimCall) (row : RegistrationCode)
    (fate : StatementFate) :
    (w.consume i call row fate).now = w.now ∧
      ((w.consume i call row fate).codes = w.codes ∨
        (w.consume i call row fate).codes = (w.consumeRow row.id).codes) := by
  cases fate with
  | fails => exact ⟨rfl, Or.inl rfl⟩
  | answerLost => exact ⟨rfl, Or.inr rfl⟩
  | answers =>
      unfold CodeWorld.consume
      dsimp only
      split
      · exact ⟨rfl, Or.inr rfl⟩
      · exact ⟨rfl, Or.inr rfl⟩

lemma lookUp_codes {i : ℕ} {call : ClaimCall} {found : Option ℕ}
    (hlookUp : w.lookUp sha256 i call found = some w') : w'.now = w.now ∧ w'.codes = w.codes := by
  cases found with
  | none =>
      unfold CodeWorld.lookUp at hlookUp
      split_ifs at hlookUp
      rw [← Option.some.inj hlookUp]
      exact ⟨rfl, rfl⟩
  | some id =>
      obtain ⟨row, -, hlookUp⟩ := Option.bind_eq_some_iff.mp hlookUp
      split_ifs at hlookUp
      all_goals
        rw [← Option.some.inj hlookUp]
        exact ⟨rfl, rfl⟩

/-- A wrong verifier, or one that comes too late, burns no code. -/
lemma leavesClaimable_step {a : CodeAction} (h : Sound sha256 R w)
    (hstep : w.step sha256 a = some w') : w.LeavesClaimable sha256 a w' := by
  intro codeVerifier hclaim code hcode hcase rawCode verifier
  cases a with
  | waits ms => exact absurd hclaim id
  | mints userId codeChallenge label requestedCapabilities raw => exact absurd hclaim id
  | hashesMint j fails => exact absurd hclaim id
  | inserts j fate => exact absurd hclaim id
  | claims raw codeVerifier' =>
      rw [← Option.some.inj hstep]
      split
      · exact canClaim_congr rfl rfl
      · exact Iff.rfl
  | hashes i fails =>
      obtain ⟨call, -, hstep⟩ := Option.bind_eq_some_iff.mp hstep
      split at hstep
      · rw [← Option.some.inj hstep]
        split
        · exact canClaim_congr rfl rfl
        · exact canClaim_congr rfl rfl
      · exact absurd hstep (Option.some_ne_none _).symm
  | looksUp i found fails =>
      obtain ⟨call, -, hstep⟩ := Option.bind_eq_some_iff.mp hstep
      split at hstep
      · split_ifs at hstep
        · rw [← Option.some.inj hstep]
          exact canClaim_congr rfl rfl
        · obtain ⟨hnow, hcodes⟩ := lookUp_codes hstep
          exact canClaim_congr hnow (congrArg (SerialTable.get? · code.id) hcodes)
      · exact absurd hstep (Option.some_ne_none _).symm
  | verifies i fails =>
      obtain ⟨call, -, hstep⟩ := Option.bind_eq_some_iff.mp hstep
      split at hstep
      · rw [← Option.some.inj hstep]
        split
        · exact canClaim_congr rfl rfl
        · exact canClaim_congr rfl rfl
      · exact absurd hstep (Option.some_ne_none _).symm
  | consumes i fate =>
      obtain ⟨call, hcall, hstep⟩ := Option.bind_eq_some_iff.mp hstep
      obtain ⟨call', hcall', hverifier⟩ := hclaim
      have heq : call' = call := Option.some.inj (hcall'.symm.trans hcall)
      rw [heq] at hverifier
      split at hstep
      · next row hpoint =>
          rw [← Option.some.inj hstep]
          obtain ⟨-, hestablished⟩ := h.calls call (List.mem_of_getElem? hcall)
          unfold Established at hestablished
          rw [hpoint, hverifier] at hestablished
          obtain ⟨⟨-, current, hcurrent, hsame⟩, hmatch⟩ := hestablished
          have hnot : code.id = row.id → code.expiresAt ≤ w.now := by
            intro hid
            have hcode' : current = code :=
              SerialTable.eq_of_key hcurrent hcode (hsame.fields.1.trans hid.symm)
            rcases hcase with hwrong | hexpired
            · rw [← hcode', hsame.fields.2.2.1] at hwrong
              exact absurd hmatch hwrong
            · exact hexpired
          obtain ⟨hnow, hcodes | hcodes⟩ := consume_codes w i call row fate
          · exact canClaim_congr hnow (congrArg (SerialTable.get? · code.id) hcodes)
          · refine canClaim_congr hnow ?_
            rw [hcodes]
            exact get?_consumeRow hcode hnot
      · exact absurd hstep (Option.some_ne_none _).symm

/-- Without collisions, the claims of a sound world are those of the codes that were minted. -/
lemma Sound.claimedByOwner (h : Sound sha256 R w) (hinj : Set.InjOn sha256 R) :
    w.ClaimedByOwner sha256 := by
  intro claim hclaim
  obtain ⟨hraw, code, hcode, hid, -, hhash, hverifier, hexpiry⟩ := h.claims claim hclaim
  obtain ⟨rawCode, hraw', hminted, hhash'⟩ := h.minted code hcode
  have hdigest : sha256 claim.rawCode = sha256 rawCode :=
    sha256Hex_eq_iff.mp (hhash.symm.trans hhash')
  have heq : claim.rawCode = rawCode := hinj hraw hraw' hdigest
  refine ⟨?_, code, hcode, hid, hverifier, hexpiry⟩
  rw [heq, ← hid]
  exact hminted

end

end CodeWorld

open CodeWorld

/-- **A code is claimed once, by its owner.**  Whatever the order of the awaits, no code is claimed
twice; every claim is of a minted code, before its expiry, with the verifier of its challenge; and a
claim with another verifier, or after the expiry, leaves the code as claimable as it was. -/
theorem codes_claimedOnce_byOwner (sha256 : String → Vector UInt8 32) (now : ℕ)
    (as : List CodeAction) (hcollisions : CollisionFree sha256 as) :
    Always (step sha256) (fun w => w.ClaimedOnce ∧ w.ClaimedByOwner sha256) (.initial now) as ∧
      EachStep (step sha256) (fun w a w' => w.LeavesClaimable sha256 a w') (.initial now) as := by
  have hmeets : Meets (step sha256) (fun _ a => a ∈ as) (initial now) as :=
    meets_of_mem fun a ha => ha
  have hkeep : ∀ w a w', Sound sha256 {rawCode | ∃ a ∈ as, a.rawCode? = some rawCode} w →
      a ∈ as → step sha256 w a = some w' →
        Sound sha256 {rawCode | ∃ a ∈ as, a.rawCode? = some rawCode} w' :=
    fun w a w' hsound ha hstep => sound_step hsound (fun rawCode hraw => ⟨a, ha, hraw⟩) hstep
  have hsound : Sound sha256 {rawCode | ∃ a ∈ as, a.rawCode? = some rawCode} (initial now) :=
    sound_initial now
  refine ⟨⟨⟨hsound.once, hsound.claimedByOwner hcollisions⟩, ?_⟩, ?_⟩
  · refine Meets.eachStep hkeep (fun w a w' h ha hstep => ?_) hsound hmeets
    have hsound' := hkeep w a w' h ha hstep
    exact ⟨hsound'.once, hsound'.claimedByOwner hcollisions⟩
  · exact Meets.eachStep hkeep (fun w a w' h _ hstep => leavesClaimable_step h hstep) hsound hmeets

/-- The digests of the texts of the run below. -/
def sampleSha256 (input : String) : Vector UInt8 32 :=
  if input = "uDLC7HESwsVECPK8i039SB2kiD4DhzQg0YD25L51xqQ" then
    #v[228, 155, 179, 184, 247, 167, 193, 107, 48, 160, 230, 101, 96, 62, 158, 58,
      107, 169, 197, 218, 149, 42, 232, 111, 108, 16, 15, 88, 216, 54, 37, 218]
  else if input = "dBjftJeZ4CVP-mB92K27uhbUJU1p1r_wW1gFWFOEjXk" then
    #v[19, 211, 30, 150, 26, 26, 216, 236, 47, 22, 177, 12, 76, 152, 46, 8,
      118, 168, 120, 173, 109, 241, 68, 86, 110, 225, 137, 74, 203, 112, 249, 195]
  else
    #v[14, 174, 8, 82, 250, 95, 175, 170, 100, 178, 141, 104, 115, 28, 6, 214,
      229, 122, 128, 164, 91, 109, 234, 208, 59, 172, 141, 91, 250, 224, 233, 254]

/-- A code is minted, and claimed by three callers at a time: with a wrong verifier, with the right
one, and with the right one again. -/
def contestedCode : List CodeAction :=
  let rawCode := "uDLC7HESwsVECPK8i039SB2kiD4DhzQg0YD25L51xqQ"
  let codeVerifier := "dBjftJeZ4CVP-mB92K27uhbUJU1p1r_wW1gFWFOEjXk"
  [.mints "usr_1" "E9Melhoa2OwvFrEMTJguCHaoeK1t8URWbuGJSstw-cM" "Lobby" [.scanner] rawCode,
    .hashesMint 0 false, .inserts 0 .answers,
    .claims rawCode "V5R_F7uV4t56weI08C2X7W9tq6Ze90iUCcmVAfPzQ4c",
    .claims rawCode codeVerifier, .claims rawCode codeVerifier,
    .hashes 0 false, .hashes 0 false, .hashes 0 false,
    .looksUp 0 (some 0) false, .looksUp 0 (some 0) false, .looksUp 0 (some 0) false,
    .verifies 0 false, .verifies 0 false, .verifies 0 false,
    .consumes 0 .answers, .consumes 0 .answers]

lemma collisionFree_contestedCode : CollisionFree sampleSha256 contestedCode := by
  have hone : ∀ a ∈ contestedCode, ∀ rawCode ∈ a.rawCode?,
      rawCode = "uDLC7HESwsVECPK8i039SB2kiD4DhzQg0YD25L51xqQ" := by
    decide +kernel
  rintro rawCode ⟨a, ha, hraw⟩ rawCode' ⟨a', ha', hraw'⟩ -
  rw [hone a ha rawCode hraw, hone a' ha' rawCode' hraw']

theorem codes_claimedOnce_byOwner_contested :
    CollisionFree sampleSha256 contestedCode ∧
      Always (step sampleSha256) (fun w => w.ClaimedOnce ∧ w.ClaimedByOwner sampleSha256)
        (.initial 0) contestedCode ∧
      EachStep (step sampleSha256) (fun w a w' => w.LeavesClaimable sampleSha256 a w')
        (.initial 0) contestedCode ∧
      ∃ w, run (step sampleSha256) (.initial 0) contestedCode = some w ∧
        w.claims.map SuccessfulClaim.codeId = [0] := by
  obtain ⟨halways, hsteps⟩ :=
    codes_claimedOnce_byOwner sampleSha256 0 contestedCode collisionFree_contestedCode
  have hrun : ((run (step sampleSha256) (.initial 0) contestedCode).map
      fun w => w.claims.map SuccessfulClaim.codeId) = some [0] := by
    decide +kernel
  obtain ⟨w, hw, hclaims⟩ := Option.map_eq_some_iff.mp hrun
  exact ⟨collisionFree_contestedCode, halways, hsteps, w, hw, hclaims⟩

end ExpresSync
