import ExpresSync.Foundation.Transition
import ExpresSync.Model.ApnsTokens
import Mathlib.Tactic.IntervalCases

/-!
# Tokens that are read back

What `base64UrlEncodeBytes` writes is read back by `base64UrlDecodeToBytes`, byte by byte
(`base64UrlDecodeToBytes_encode`).  So a JWT falls into its three parts again, and a push message
goes out with one whose header and claims are those of a call of the last 50 minutes, whichever
calls have been signing at a time (`returned_jwt_reads_back`).
-/

namespace ExpresSync

open Transition

/-! ## Base64 -/

/-- The digits of bytes, as numbers. -/
def sextets : List UInt8 → List ℕ
  | [] => []
  | [a] => [a.toNat / 4, a.toNat % 4 * 16]
  | [a, b] => [a.toNat / 4, a.toNat % 4 * 16 + b.toNat / 16, b.toNat % 16 * 4]
  | a :: b :: c :: rest =>
      a.toNat / 4 :: (a.toNat % 4 * 16 + b.toNat / 16) :: (b.toNat % 16 * 4 + c.toNat / 64) ::
        c.toNat % 64 :: sextets rest

lemma base64UrlEncode_eq (bytes : List UInt8) :
    base64UrlEncode bytes = (sextets bytes).map base64UrlDigit := by
  fun_induction sextets bytes with
  | case1 => rfl
  | case2 => rfl
  | case3 => rfl
  | case4 a b c rest ih => simp only [base64UrlEncode, List.map_cons, ih]

lemma lt_of_mem_sextets (bytes : List UInt8) : ∀ n ∈ sextets bytes, n < 64 := by
  fun_induction sextets bytes with
  | case1 => simp
  | case2 a =>
      have ha := a.toNat_lt
      simp only [List.mem_cons, List.not_mem_nil, or_false]
      omega
  | case3 a b =>
      have ha := a.toNat_lt
      have hb := b.toNat_lt
      simp only [List.mem_cons, List.not_mem_nil, or_false]
      omega
  | case4 a b c rest ih =>
      have ha := a.toNat_lt
      have hb := b.toNat_lt
      have hc := c.toNat_lt
      simp only [List.mem_cons]
      rintro n (rfl | rfl | rfl | rfl | hn)
      · omega
      · omega
      · omega
      · omega
      · exact ih n hn

lemma length_sextets_mod (bytes : List UInt8) : (sextets bytes).length % 4 ≠ 1 := by
  fun_induction sextets bytes with
  | case1 => simp
  | case2 => simp
  | case3 => simp
  | case4 a b c rest ih =>
      simp only [List.length_cons]
      omega

lemma ofNat_eq {n : ℕ} {b : UInt8} (h : n % 256 = b.toNat) : UInt8.ofNat n = b := by
  apply UInt8.toNat_inj.mp
  rw [UInt8.toNat_ofNat']
  exact h

/-- The bits of the digits are those of the bytes. -/
lemma base64Bytes_sextets (bytes : List UInt8) : base64Bytes (sextets bytes) = some bytes := by
  fun_induction sextets bytes with
  | case1 => rfl
  | case2 a =>
      have ha := a.toNat_lt
      simp only [base64Bytes, Option.some.injEq, List.cons.injEq, and_true]
      apply ofNat_eq
      omega
  | case3 a b =>
      have ha := a.toNat_lt
      have hb := b.toNat_lt
      simp only [base64Bytes, Option.some.injEq, List.cons.injEq, and_true]
      constructor
      · apply ofNat_eq
        omega
      · apply ofNat_eq
        omega
  | case4 a b c rest ih =>
      have ha := a.toNat_lt
      have hb := b.toNat_lt
      have hc := c.toNat_lt
      simp only [base64Bytes, ih, Option.map_some, Option.some.injEq, List.cons.injEq, and_true]
      refine ⟨?_, ?_, ?_⟩
      · apply ofNat_eq
        omega
      · apply ofNat_eq
        omega
      · apply ofNat_eq
        omega

/-- The digit of plain base64 that a digit of base64url stands for. -/
def plainDigit (n : ℕ) : Char :=
  if base64UrlDigit n = '-' then '+' else if base64UrlDigit n = '_' then '/' else base64UrlDigit n

lemma base64Value_plainDigit : ∀ n < 64, base64Value (plainDigit n) = some n := by decide

lemma plainDigit_isPlain :
    ∀ n < 64, plainDigit n ≠ '=' ∧ isAsciiWhitespace (plainDigit n) = false := by
  decide

lemma base64UrlDigit_ne_dot : ∀ n < 64, base64UrlDigit n ≠ '.' := by decide

lemma dot_not_mem_encode (bytes : List UInt8) : '.' ∉ base64UrlEncode bytes := by
  rw [base64UrlEncode_eq]
  intro hdot
  obtain ⟨n, hn, heq⟩ := List.mem_map.mp hdot
  exact base64UrlDigit_ne_dot n (lt_of_mem_sextets bytes n hn) heq

lemma mapM_plainDigit {ns : List ℕ} (h : ∀ n ∈ ns, n < 64) :
    (ns.map plainDigit).mapM base64Value = some ns := by
  induction ns with
  | nil => rfl
  | cons n ns ih =>
      obtain ⟨hn, hns⟩ := List.forall_mem_cons.mp h
      rw [List.map_cons, List.mapM_cons, base64Value_plainDigit n hn, ih hns]
      rfl

lemma dropPadding_of_not_mem {cs : List Char} (h : '=' ∉ cs) : dropPadding cs = cs := by
  rw [dropPadding, if_neg]
  intro hlast
  exact h (List.mem_of_getLast? hlast)

lemma dropPadding_concat (cs : List Char) : dropPadding (cs ++ ['=']) = cs := by
  simp [dropPadding]

/-- Digits with the padding that fills their last group are read as the digits. -/
lemma atob_padded {ns : List ℕ} (h : ∀ n ∈ ns, n < 64) (hlength : ns.length % 4 ≠ 1) :
    atob (String.ofList (ns.map plainDigit ++
      if ns.length % 4 = 0 then [] else List.replicate (4 - ns.length % 4) '=')) =
      base64Bytes ns := by
  have hplain : ∀ c ∈ ns.map plainDigit, c ≠ '=' ∧ isAsciiWhitespace c = false := by
    intro c hc
    obtain ⟨n, hn, rfl⟩ := List.mem_map.mp hc
    exact plainDigit_isPlain n (h n hn)
  have hnot : '=' ∉ ns.map plainDigit := fun hmem => (hplain _ hmem).1 rfl
  have hkept : ∀ k, (ns.map plainDigit ++ List.replicate k '=').filter
      (fun c => !isAsciiWhitespace c) = ns.map plainDigit ++ List.replicate k '=' := by
    intro k
    rw [List.filter_eq_self]
    intro c hc
    rcases List.mem_append.mp hc with hdigit | hpad
    · rw [(hplain c hdigit).2]
      rfl
    · rw [List.eq_of_mem_replicate hpad]
      rfl
  have hread : ∀ k, (ns.length + k) % 4 = 0 → k ≤ 2 →
      atob (String.ofList (ns.map plainDigit ++ List.replicate k '=')) = base64Bytes ns := by
    intro k hmod hk
    simp only [atob, String.toList_ofList, hkept, List.length_append, List.length_map,
      List.length_replicate, hmod, if_true]
    have hdropped : dropPadding (dropPadding (ns.map plainDigit ++ List.replicate k '=')) =
        ns.map plainDigit := by
      interval_cases k
      · rw [List.replicate_zero, List.append_nil, dropPadding_of_not_mem hnot,
          dropPadding_of_not_mem hnot]
      · rw [List.replicate_one, dropPadding_concat, dropPadding_of_not_mem hnot]
      · rw [List.replicate_succ', ← List.append_assoc, dropPadding_concat, List.replicate_one,
          dropPadding_concat]
    rw [hdropped, mapM_plainDigit h]
    rfl
  split
  · next hzero => simpa using hread 0 (by simpa using hzero) (by omega)
  · next hne => exact hread (4 - ns.length % 4) (by omega) (by omega)

/-- Bytes that are written in base64url are read back. -/
theorem base64UrlDecodeToBytes_encode (bytes : List UInt8) :
    base64UrlDecodeToBytes (String.ofList (base64UrlEncode bytes)) = some bytes := by
  have hmap : (base64UrlEncode bytes).map
      (fun c => if c = '-' then '+' else if c = '_' then '/' else c) =
      (sextets bytes).map plainDigit := by
    rw [base64UrlEncode_eq, List.map_map]
    rfl
  have hread := atob_padded (lt_of_mem_sextets bytes) (length_sextets_mod bytes)
  simp only [base64UrlDecodeToBytes, String.toList_ofList, hmap, List.length_map]
  rw [hread, base64Bytes_sextets]

/-! ## The parts of a JWT -/

/-- The bytes of the parts of a token. -/
def jwtParts (token : String) : Option (List (List UInt8)) :=
  (token.toList.splitOn '.').mapM fun part => base64UrlDecodeToBytes (String.ofList part)

/-- A JWT falls into its parts. -/
lemma jwtParts_jwt (config : ApnsConfig) (iatSec : ℕ) (signature : List UInt8) :
    jwtParts (config.jwt iatSec signature) =
      some [encodeText config.header, encodeText (config.claims iatSec), signature] := by
  rw [jwtParts, ApnsConfig.jwt, String.toList_ofList, ApnsConfig.signingInput, List.append_assoc,
    List.cons_append, List.splitOn_append_cons_self_of_not_mem (dot_not_mem_encode _),
    List.splitOn_append_cons_self_of_not_mem (dot_not_mem_encode _),
    List.splitOn_eq_singleton (dot_not_mem_encode _)]
  simp only [List.mapM_cons, List.mapM_nil, base64UrlDecodeToBytes_encode]
  rfl

/-! ## Calls -/

namespace ApnsWorld

variable {w w' : ApnsWorld} {a : ApnsAction}

/-- The token has been signed for a call at that time. -/
def SignedAt (w : ApnsWorld) (token : String) (now : ℕ) : Prop :=
  ∃ call ∈ w.calls, call.now = now ∧ call.config.missing = none ∧
    ∃ signature, token = call.config.jwt (now / 1000) signature

/-- The calls stay, with their times and what they have read of the configuration. -/
def KeepsCalls (w w' : ApnsWorld) : Prop :=
  ∀ call ∈ w.calls, ∃ call' ∈ w'.calls, call'.config = call.config ∧ call'.now = call.now

lemma SignedAt.of_keepsCalls {token : String} {now : ℕ} (h : w.SignedAt token now)
    (hkeeps : w.KeepsCalls w') : w'.SignedAt token now := by
  obtain ⟨call, hcall, hnow, hmissing, signature, htoken⟩ := h
  obtain ⟨call', hcall', hconfig, hnow'⟩ := hkeeps call hcall
  exact ⟨call', hcall', hnow'.trans hnow, hconfig ▸ hmissing, signature, hconfig ▸ htoken⟩

lemma keepsCalls_set {i : ℕ} {call : ApnsCall} (hcall : w.calls[i]? = some call)
    (point : ApnsPoint) (hcalls : w'.calls = w.calls.set i { call with point := point }) :
    w.KeepsCalls w' := by
  intro other hother
  rw [hcalls]
  obtain ⟨j, hj⟩ := List.mem_iff_getElem?.mp hother
  by_cases hij : i = j
  · subst hij
    obtain rfl := Option.some.inj (hcall.symm.trans hj)
    exact ⟨_, List.mem_of_getElem? (List.getElem?_set_self (List.getElem?_eq_some_iff.mp hj).1),
      rfl, rfl⟩
  · exact ⟨other, List.mem_of_getElem? ((List.getElem?_set_ne hij).trans hj), rfl, rfl⟩

/-- What holds of the token in memory, and of a call. -/
structure Issues (w : ApnsWorld) : Prop where
  cached : ∀ cached ∈ w.cachedJwt, ∃ now, w.SignedAt cached.1 now ∧ now ≤ w.now ∧
    cached.2 = now + jwtTtlMs
  past : ∀ call ∈ w.calls, call.now ≤ w.now
  signing : ∀ call ∈ w.calls, call.point = .signing → call.config.missing = none
  returned : ∀ call ∈ w.calls, ∀ token, call.point = .returned token →
    ∃ now, w.SignedAt token now ∧ now ≤ call.now ∧ call.now < now + jwtTtlMs

lemma issues_initial (now : ℕ) : (initial now).Issues where
  cached _ h := by cases h
  past _ h := absurd h List.not_mem_nil
  signing _ h := absurd h List.not_mem_nil
  returned _ h := absurd h List.not_mem_nil

/-- A call that begins returns the token in memory only while it is young enough. -/
lemma Issues.calls (h : w.Issues) (config : ApnsConfig) :
    Issues { w with calls := w.calls ++ [⟨config, w.now, w.firstPoint config⟩] } := by
  have hkeeps : w.KeepsCalls
      { w with calls := w.calls ++ [⟨config, w.now, w.firstPoint config⟩] } := fun call hcall =>
    ⟨call, List.mem_append_left _ hcall, rfl, rfl⟩
  refine ⟨fun cached hcached => ?_, ?_, ?_, ?_⟩
  · obtain ⟨now, hsigned, hle, hexpires⟩ := h.cached cached hcached
    exact ⟨now, hsigned.of_keepsCalls hkeeps, hle, hexpires⟩
  · intro call hcall
    rcases List.mem_append.mp hcall with hold | hnew
    · exact h.past call hold
    · rw [List.mem_singleton.mp hnew]
  · intro call hcall hpoint
    rcases List.mem_append.mp hcall with hold | hnew
    · exact h.signing call hold hpoint
    · rw [List.mem_singleton.mp hnew] at hpoint ⊢
      dsimp only [firstPoint] at hpoint
      split at hpoint
      · cases hpoint
      · split at hpoint
        · cases hpoint
        · next hmissing => exact hmissing
  · intro call hcall token hpoint
    rcases List.mem_append.mp hcall with hold | hnew
    · obtain ⟨now, hsigned, hbounds⟩ := h.returned call hold token hpoint
      exact ⟨now, hsigned.of_keepsCalls hkeeps, hbounds⟩
    · rw [List.mem_singleton.mp hnew] at hpoint ⊢
      dsimp only [firstPoint] at hpoint
      split at hpoint
      · next cachedToken expiresAt hfilter =>
        obtain ⟨hcached, hyoung⟩ := Option.filter_eq_some_iff.mp hfilter
        obtain ⟨now, hsigned, hle, hexpires⟩ := h.cached _ hcached
        obtain rfl := ApnsPoint.returned.inj hpoint
        have hlt : w.now < expiresAt := by simpa using hyoung
        exact ⟨now, hsigned.of_keepsCalls hkeeps, hle, by dsimp only at hexpires ⊢; omega⟩
      · split at hpoint <;> cases hpoint

lemma Issues.sign (h : w.Issues) {i : ℕ} {call : ApnsCall} (hcall : w.calls[i]? = some call)
    (hpoint : call.point = .signing) (signature : List UInt8) :
      (w.sign i call signature).Issues := by
  have hmem : call ∈ w.calls := List.mem_of_getElem? hcall
  have hkeeps : w.KeepsCalls (w.sign i call signature) := keepsCalls_set hcall _ rfl
  have hsigned : w.SignedAt (call.config.jwt (call.now / 1000) signature) call.now :=
    ⟨call, hmem, rfl, h.signing call hmem hpoint, signature, rfl⟩
  refine ⟨?_, ?_, ?_, ?_⟩
  · intro cached hcached
    obtain rfl := Option.some.inj hcached
    exact ⟨call.now, hsigned.of_keepsCalls hkeeps, h.past call hmem, rfl⟩
  · intro other hother
    rcases List.mem_or_eq_of_mem_set hother with hold | rfl
    · exact h.past other hold
    · exact h.past call hmem
  · intro other hother hsigning
    rcases List.mem_or_eq_of_mem_set hother with hold | rfl
    · exact h.signing other hold hsigning
    · cases hsigning
  · intro other hother token htoken
    rcases List.mem_or_eq_of_mem_set hother with hold | rfl
    · obtain ⟨now, hold, hbounds⟩ := h.returned other hold token htoken
      exact ⟨now, hold.of_keepsCalls hkeeps, hbounds⟩
    · obtain rfl := ApnsPoint.returned.inj htoken
      refine ⟨call.now, hsigned.of_keepsCalls hkeeps, le_rfl, ?_⟩
      exact Nat.lt_add_of_pos_right (by decide)

/-- A signature that fails leaves the token in memory as it is. -/
lemma Issues.fails (h : w.Issues) {i : ℕ} {call : ApnsCall} (hcall : w.calls[i]? = some call)
    (message : Option String) :
    Issues { w with calls := w.calls.set i { call with point := .thrown message } } := by
  have hmem : call ∈ w.calls := List.mem_of_getElem? hcall
  have hkeeps :
      w.KeepsCalls { w with calls := w.calls.set i { call with point := .thrown message } } :=
    keepsCalls_set hcall _ rfl
  refine ⟨fun cached hcached => ?_, ?_, ?_, ?_⟩
  · obtain ⟨now, hsigned, hbounds⟩ := h.cached cached hcached
    exact ⟨now, hsigned.of_keepsCalls hkeeps, hbounds⟩
  · intro other hother
    rcases List.mem_or_eq_of_mem_set hother with hold | rfl
    · exact h.past other hold
    · exact h.past call hmem
  · intro other hother hsigning
    rcases List.mem_or_eq_of_mem_set hother with hold | rfl
    · exact h.signing other hold hsigning
    · cases hsigning
  · intro other hother token htoken
    rcases List.mem_or_eq_of_mem_set hother with hold | rfl
    · obtain ⟨now, hsigned, hbounds⟩ := h.returned other hold token htoken
      exact ⟨now, hsigned.of_keepsCalls hkeeps, hbounds⟩
    · cases htoken

lemma Issues.step (h : w.Issues) (hstep : w.step a = some w') : w'.Issues := by
  cases a with
  | waits ms =>
      obtain rfl := Option.some.inj hstep
      refine ⟨fun cached hcached => ?_, fun call hcall => ?_, h.signing, h.returned⟩
      · obtain ⟨now, hsigned, hle, hexpires⟩ := h.cached cached hcached
        exact ⟨now, hsigned, Nat.le_add_right_of_le hle, hexpires⟩
      · exact Nat.le_add_right_of_le (h.past call hcall)
  | calls config =>
      obtain rfl := Option.some.inj hstep
      exact h.calls config
  | signs i signature =>
      obtain ⟨call, hcall, hsigns⟩ := Option.bind_eq_some_iff.mp hstep
      cases hpoint : call.point with
      | signing =>
          rw [hpoint] at hsigns
          cases signature with
          | some signature =>
              obtain rfl := Option.some.inj hsigns
              exact h.sign hcall hpoint signature
          | none =>
              obtain rfl := Option.some.inj hsigns
              exact h.fails hcall none
      | returned token =>
          rw [hpoint] at hsigns
          cases hsigns
      | thrown message =>
          rw [hpoint] at hsigns
          cases hsigns
  | resets =>
      obtain rfl := Option.some.inj hstep
      exact ⟨nofun, h.past, h.signing, h.returned⟩

/-- Every token that a call returns is read back as the header and the claims of a call, made at
most 50 minutes before, whose key and team are set. -/
theorem returned_jwt_reads_back {start : ℕ} {as : List ApnsAction}
    (hrun : run step (initial start) as = some w) {call : ApnsCall} (hcall : call ∈ w.calls)
    {token : String} (htoken : call.point = .returned token) :
    ∃ signer ∈ w.calls, signer.config.missing = none ∧ signer.now ≤ call.now ∧
      call.now < signer.now + jwtTtlMs ∧ ∃ signature, jwtParts token =
        some [encodeText signer.config.header,
          encodeText (signer.config.claims (signer.now / 1000)), signature] := by
  have hissues : w.Issues := (meets_of_forall (C := fun _ _ => True) fun _ _ => trivial).invariant
    (fun _ _ _ h _ hstep => h.step hstep) (issues_initial start) hrun
  obtain ⟨now, ⟨signer, hsigner, rfl, hmissing, signature, rfl⟩, hle, hlt⟩ :=
    hissues.returned call hcall token htoken
  exact ⟨signer, hsigner, hmissing, hle, hlt, signature, jwtParts_jwt _ _ _⟩

def oneConfig : ApnsConfig := ⟨"KEYIDABCDE", "TEAMID9999", "cDg="⟩

/-- Two calls sign at a time, and the older one ends last. -/
def overlappingCalls : List ApnsAction :=
  [.calls oneConfig, .waits 1000, .calls oneConfig, .signs 1 (some [1, 2]), .signs 0 (some [3]),
    .waits 2998999, .calls oneConfig]

theorem returned_jwt_reads_back_overlappingCalls :
    ∃ w, run step (initial 1745600000000) overlappingCalls = some w ∧ ∃ call ∈ w.calls,
      call.now = 1745602999999 ∧ call.point = .returned (oneConfig.jwt 1745600000 [3]) ∧
      ∃ signer ∈ w.calls, signer.config.missing = none ∧ signer.now ≤ call.now ∧
        call.now < signer.now + jwtTtlMs ∧ ∃ signature,
          jwtParts (oneConfig.jwt 1745600000 [3]) = some [encodeText signer.config.header,
            encodeText (signer.config.claims (signer.now / 1000)), signature] := by
  let w := (run step (initial 1745600000000) overlappingCalls).get (by decide)
  have hrun : run step (initial 1745600000000) overlappingCalls = some w :=
    (Option.some_get _).symm
  let call : ApnsCall :=
    ⟨oneConfig, 1745602999999, .returned (oneConfig.jwt 1745600000 [3])⟩
  have hcall : call ∈ w.calls := List.mem_of_getElem? (i := 2) rfl
  exact ⟨w, hrun, call, hcall, rfl, rfl, returned_jwt_reads_back hrun hcall rfl⟩

end ApnsWorld

end ExpresSync
