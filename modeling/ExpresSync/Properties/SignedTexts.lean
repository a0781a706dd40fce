import ExpresSync.Foundation.NumberText
import ExpresSync.Foundation.Sql
import ExpresSync.Model.ScanLogin

/-!
# What a nonce is signed for

A nonce signs its parts with a separator between them, and nothing in a part is escaped.  So the
text stands for one scan only as long as no separator in a part could be one between parts
(`signedTexts_iff`).  A pairing code and the id of a charger or device without separators are
enough for the nonce of `scan-detect` and `scan-login` (`SignedScan.text_inj_of_isPlain`).
-/

namespace ExpresSync

/-- `s.length`, in UTF-16 code units. -/
def jsLength (s : List Char) : ℕ := (s.map fun c => if c.toNat < 0x10000 then 1 else 2).sum

/-! ## The nonce of a scan -/

/-- What a nonce is for, when `scan-detect` and `scan-login` let it pass: nothing is missing, and
`idTag` is trimmed.  `pairableId` is the id of a charger or of a device. -/
@[ext]
structure SignedScan where
  idTag : String
  pairingCode : String
  pairableId : String
  t : FiniteNumber
  idTag_ne : idTag ≠ ""
  trimmed : trimChars idTag.toList = idTag.toList
  pairingCode_ne : pairingCode ≠ ""
  pairableId_ne : pairableId ≠ ""

/-- What `signNonce` signs. -/
def SignedScan.text (x : SignedScan) : String :=
  x.idTag ++ ":" ++ x.pairingCode ++ ":" ++ x.pairableId ++ ":" ++ toString x.t

/-- No separator in a part could be one between parts. -/
structure SignedScan.IsUnambiguous (x : SignedScan) : Prop where
  idTag : ∀ before after, x.idTag.toList = before ++ ':' :: after →
    before = [] ∨ trimChars before ≠ before
  pairingCode : ∀ before after, x.pairingCode.toList = before ++ ':' :: after →
    before = [] ∧ after = []
  pairableId : ∀ before after, x.pairableId.toList = before ++ ':' :: after → after = []

namespace SignedScan

variable {x y : SignedScan}

lemma toList_text : x.text.toList = x.idTag.toList ++ ':' :: (x.pairingCode.toList ++ ':' ::
    (x.pairableId.toList ++ ':' :: x.t.text)) := by
  show (_ ++ String.ofList x.t.text).toList = _
  simp

lemma toList_ne_nil {s : String} (h : s ≠ "") : s.toList ≠ [] :=
  fun hnil => h (String.toList_inj.mp hnil)

/-- A number has no separator in it, so only the other parts are in question. -/
lemma text_eq_iff : y.text = x.text ↔
    y.idTag.toList ++ ':' :: (y.pairingCode.toList ++ ':' :: y.pairableId.toList) =
      x.idTag.toList ++ ':' :: (x.pairingCode.toList ++ ':' :: x.pairableId.toList) ∧
      y.t = x.t := by
  have hassoc : ∀ x : SignedScan, x.text.toList =
      (x.idTag.toList ++ ':' :: (x.pairingCode.toList ++ ':' :: x.pairableId.toList)) ++
        ':' :: x.t.text := by
    intro x
    rw [toList_text]
    simp
  constructor
  · intro h
    have hlist := congrArg String.toList h
    rw [hassoc, hassoc] at hlist
    obtain ⟨hparts, ht⟩ := Sql.eq_of_append_delimiter
      (FiniteNumber.not_mem_text (by decide) (by decide) y.t)
      (FiniteNumber.not_mem_text (by decide) (by decide) x.t) hlist
    exact ⟨hparts, FiniteNumber.text_injective ht⟩
  · rintro ⟨hparts, ht⟩
    refine String.toList_inj.mp ?_
    rw [hassoc, hassoc, hparts, ht]

/-- The separator may follow what is trimmed. -/
lemma trimChars_append_separator {s : List Char} (hne : s ≠ []) (h : trimChars s = s) :
    trimChars (s ++ [':']) = s ++ [':'] := by
  obtain ⟨c, rest, rfl⟩ := List.exists_cons_of_ne_nil hne
  have hfirst : isStrWhiteSpace c = false := by
    by_contra hspace
    rw [Bool.not_eq_false] at hspace
    have hlength := congrArg List.length h
    rw [trimChars, List.dropWhile_cons_of_pos hspace, List.length_reverse, List.length_cons]
      at hlength
    have hle : ∀ l : List Char, (l.dropWhile isStrWhiteSpace).length ≤ l.length :=
      fun l => (List.dropWhile_suffix _).length_le
    have hrest := hle rest
    have hreverse := hle (rest.dropWhile isStrWhiteSpace).reverse
    rw [List.length_reverse] at hreverse
    omega
  have hsep : isStrWhiteSpace ':' = false := by decide
  rw [trimChars, List.cons_append, List.dropWhile_cons_of_neg (by simp [hfirst]),
    ← List.cons_append, List.reverse_append, List.reverse_singleton, List.singleton_append,
    List.dropWhile_cons_of_neg (by simp [hsep])]
  simp

/-- Parts that join to the text of a scan are its parts, if no other scan has the text. -/
lemma parts_eq_of_unique (hunique : ∀ y : SignedScan, y.text = x.text → y = x)
    {idTag pairingCode pairableId : List Char} (htag : idTag ≠ []) (htrim : trimChars idTag = idTag)
    (hcode : pairingCode ≠ []) (hid : pairableId ≠ [])
    (heq : idTag ++ ':' :: (pairingCode ++ ':' :: pairableId) =
      x.idTag.toList ++ ':' :: (x.pairingCode.toList ++ ':' :: x.pairableId.toList)) :
    x.idTag.toList = idTag ∧ x.pairingCode.toList = pairingCode := by
  have hofList : ∀ l : List Char, l ≠ [] → String.ofList l ≠ "" := by
    intro l hl hempty
    exact hl (by simpa using congrArg String.toList hempty)
  have hy := hunique ⟨.ofList idTag, .ofList pairingCode, .ofList pairableId, x.t,
    hofList _ htag, by simpa using htrim, hofList _ hcode, hofList _ hid⟩
    (text_eq_iff.mpr ⟨by simpa using heq, rfl⟩)
  exact ⟨by simpa using congrArg (fun y => y.idTag.toList) hy.symm,
    by simpa using congrArg (fun y => y.pairingCode.toList) hy.symm⟩

lemma isUnambiguous_of_unique (hunique : ∀ y : SignedScan, y.text = x.text → y = x) :
    x.IsUnambiguous := by
  have htag := toList_ne_nil x.idTag_ne
  have hid := toList_ne_nil x.pairableId_ne
  constructor
  · intro before after hsplit
    by_contra hcut
    obtain ⟨hbefore, htrim⟩ := not_or.mp hcut
    have hx := (parts_eq_of_unique hunique hbefore (not_not.mp htrim) (by simp) hid
      (show before ++ ':' :: ((after ++ ':' :: x.pairingCode.toList) ++ ':' ::
        x.pairableId.toList) = _ by simp [hsplit])).1
    rw [hsplit] at hx
    simpa using congrArg List.length hx
  · intro before after hsplit
    by_contra hcut
    by_cases hbefore : before = []
    · have hafter : after ≠ [] := fun hafter => hcut ⟨hbefore, hafter⟩
      have hx := (parts_eq_of_unique hunique (by simp)
        (trimChars_append_separator htag x.trimmed) hafter hid (by simp [hsplit, hbefore])).1
      simpa using congrArg List.length hx
    · have hx := (parts_eq_of_unique hunique htag x.trimmed hbefore (by simp)
        (show _ ++ ':' :: (before ++ ':' :: (after ++ ':' :: x.pairableId.toList)) = _ by
          simp [hsplit])).2
      rw [hsplit] at hx
      simpa using congrArg List.length hx
  · intro before after hsplit
    by_contra hafter
    have hx := (parts_eq_of_unique hunique htag x.trimmed (by simp) hafter
      (show _ ++ ':' :: ((x.pairingCode.toList ++ ':' :: before) ++ ':' :: after) = _ by
        simp [hsplit])).2
    simpa using congrArg List.length hx

lemma eq_of_isUnambiguous (hx : x.IsUnambiguous) (htext : y.text = x.text) : y = x := by
  have htag := toList_ne_nil y.idTag_ne
  have hcode := toList_ne_nil y.pairingCode_ne
  have hid := toList_ne_nil y.pairableId_ne
  obtain ⟨hparts, ht⟩ := text_eq_iff.mp htext
  rcases Sql.append_delimiter_eq_iff.mp hparts with
    ⟨htags, hrest⟩ | ⟨between, hcut, -⟩ | ⟨between, -, hrest⟩
  · rcases Sql.append_delimiter_eq_iff.mp hrest with
      ⟨hcodes, hids⟩ | ⟨between, hcut, -⟩ | ⟨between, -, hcut⟩
    · exact SignedScan.ext (String.toList_inj.mp htags) (String.toList_inj.mp hcodes)
        (String.toList_inj.mp hids) ht
    · exact absurd (hx.pairingCode _ _ hcut).1 hcode
    · exact absurd (hx.pairableId _ _ hcut) hid
  · exact (hx.idTag _ _ hcut).elim (absurd · htag) (absurd y.trimmed ·)
  -- The tag of `y` goes on into the pairing code of `x`.
  · rcases Sql.append_delimiter_eq_iff.mp hrest with
      ⟨-, hcut⟩ | ⟨between', -, hcut⟩ | ⟨between', hcut, hrest⟩
    · exact absurd (hx.pairableId _ _ hcut) hid
    · exact absurd (hx.pairableId _ _ hcut) (by simp)
    · obtain ⟨rfl, rfl⟩ := hx.pairingCode _ _ hcut
      obtain ⟨c, rest, hcons⟩ := List.exists_cons_of_ne_nil hcode
      rw [hcons] at hrest
      have hcut := (List.cons.inj hrest).2
      exact absurd (hx.pairableId _ _ hcut.symm) hid

/-- Separators in the tag do no harm on their own. -/
theorem text_inj_of_not_mem (hcode : ':' ∉ x.pairingCode.toList)
    (hid : ':' ∉ x.pairableId.toList) (hcode' : ':' ∉ y.pairingCode.toList)
    (hid' : ':' ∉ y.pairableId.toList) (h : y.text = x.text) : y = x := by
  obtain ⟨hparts, ht⟩ := text_eq_iff.mp h
  have hassoc : ∀ x : SignedScan,
      x.idTag.toList ++ ':' :: (x.pairingCode.toList ++ ':' :: x.pairableId.toList) =
        (x.idTag.toList ++ ':' :: x.pairingCode.toList) ++ ':' :: x.pairableId.toList := by
    intro x
    simp
  rw [hassoc, hassoc] at hparts
  obtain ⟨hparts, hids⟩ := Sql.eq_of_append_delimiter hid' hid hparts
  obtain ⟨htags, hcodes⟩ := Sql.eq_of_append_delimiter hcode' hcode hparts
  exact SignedScan.ext (String.toList_inj.mp htags) (String.toList_inj.mp hcodes)
    (String.toList_inj.mp hids) ht

end SignedScan

section Request

variable (request : LoginRequest) (hvalid : request.isValid = true)
  (htrimmed : trimChars request.idTag.toList = request.idTag.toList)

/-- What a `scan-login` request is for. -/
def LoginRequest.signedScan : SignedScan where
  idTag := request.idTag
  pairingCode := request.pairingCode
  pairableId := request.pairable.id
  t := .ofInt request.t
  idTag_ne := by
    simp only [isValid, Bool.and_eq_true, bne_iff_ne] at hvalid
    exact hvalid.1.1.2
  trimmed := htrimmed
  pairingCode_ne := by
    simp only [isValid, Bool.and_eq_true, bne_iff_ne] at hvalid
    exact hvalid.1.1.1
  pairableId_ne := by
    simp only [isValid, Bool.and_eq_true] at hvalid
    have hone := hvalid.2
    unfold pairable
    cases hdevice : request.deviceId != "" with
    | true => exact bne_iff_ne.mp hdevice
    | false =>
        rw [hdevice, bne_iff_ne, ne_eq, Bool.not_eq_false] at hone
        exact bne_iff_ne.mp hone

lemma LoginRequest.text_signedScan (ht : request.t.natAbs < 10 ^ 21) :
    (request.signedScan hvalid htrimmed).text = request.text := by
  rw [SignedScan.text]
  show _ ++ toString (FiniteNumber.ofInt request.t) = _
  rw [FiniteNumber.toString_ofInt ht]
  rfl

end Request

/-! ## The nonce of a device -/

/-- `z.string().min(1).max(64)` -/
def Fits (s : List Char) : Prop := 1 ≤ jsLength s ∧ jsLength s ≤ 64

instance (s : List Char) : Decidable (Fits s) := inferInstanceAs (Decidable (_ ∧ _))

/-- How a column of type `uuid` is read. -/
def isUuid (s : String) : Bool :=
  (s.toList.splitOn '-').map List.length == [8, 4, 4, 4, 12] &&
    s.toList.all fun c => c == '-' || c.isDigit || "abcdef".toList.contains c

/-- What the nonce of `scan-result` is for, when it lets it pass: the body has an `idTag` and a
pairing code of 1 to 64 characters, and the tag is put in upper case. -/
@[ext]
structure SignedResult (toUpperCase : String → String) where
  idTag : String
  pairingCode : String
  deviceId : String
  ts : ℤ
  idTag_upper : ∃ raw : String, Fits raw.toList ∧ toUpperCase raw = idTag
  pairingCode_fits : Fits pairingCode.toList
  isUuid : isUuid deviceId = true

namespace SignedResult

variable {toUpperCase : String → String} {x y : SignedResult toUpperCase}

/-- What the device signs. -/
def text (x : SignedResult toUpperCase) : String :=
  scanResultText x.idTag x.pairingCode x.deviceId x.ts

/-- No separator in the tag or in the code could be the one between them. -/
structure IsUnambiguous (x : SignedResult toUpperCase) : Prop where
  idTag : ∀ before after, x.idTag.toList = before ++ '|' :: after →
    (∃ raw : String, Fits raw.toList ∧ (toUpperCase raw).toList = before) →
      64 < jsLength (after ++ '|' :: x.pairingCode.toList)
  pairingCode : ∀ before after, x.pairingCode.toList = before ++ '|' :: after → after ≠ [] →
    ¬∃ raw : String, Fits raw.toList ∧
      (toUpperCase raw).toList = x.idTag.toList ++ '|' :: before

lemma not_mem_deviceId (x : SignedResult toUpperCase) : '|' ∉ x.deviceId.toList := by
  intro hmem
  have hall := x.isUuid
  rw [ExpresSync.isUuid, Bool.and_eq_true, List.all_eq_true] at hall
  exact absurd (hall.2 _ hmem) (by decide)

lemma toList_scanResultText (idTag pairingCode deviceId : String) (ts : ℤ) :
    (scanResultText idTag pairingCode deviceId ts).toList = "scan-result/v1|".toList ++
      (((idTag.toList ++ '|' :: pairingCode.toList) ++ '|' :: deviceId.toList) ++
        '|' :: (toString ts).toList) := by
  have hjoin : ∀ first : String,
      (first ++ idTag ++ "|" ++ pairingCode ++ "|" ++ deviceId ++ "|" ++ toString ts).toList =
        first.toList ++ (((idTag.toList ++ '|' :: pairingCode.toList) ++ '|' :: deviceId.toList) ++
          '|' :: (toString ts).toList) := by
    intro first
    simp
  exact hjoin _

/-- The number and the id of the device have no separator in them. -/
lemma text_eq_iff : y.text = x.text ↔
    y.idTag.toList ++ '|' :: y.pairingCode.toList =
      x.idTag.toList ++ '|' :: x.pairingCode.toList ∧ y.deviceId = x.deviceId ∧ y.ts = x.ts := by
  have hassoc : ∀ x : SignedResult toUpperCase, x.text.toList = "scan-result/v1|".toList ++
      (((x.idTag.toList ++ '|' :: x.pairingCode.toList) ++ '|' :: x.deviceId.toList) ++
        '|' :: (toString x.ts).toList) := by
    exact fun x => toList_scanResultText x.idTag x.pairingCode x.deviceId x.ts
  constructor
  · intro h
    have hlist := congrArg String.toList h
    rw [hassoc, hassoc] at hlist
    obtain ⟨hlist, hts⟩ := Sql.eq_of_append_delimiter
      (not_mem_toString_int (by decide) (by decide) y.ts)
      (not_mem_toString_int (by decide) (by decide) x.ts) (List.append_cancel_left hlist)
    obtain ⟨hparts, hids⟩ := Sql.eq_of_append_delimiter y.not_mem_deviceId x.not_mem_deviceId hlist
    exact ⟨hparts, String.toList_inj.mp hids, toString_int_inj (String.toList_inj.mp hts)⟩
  · rintro ⟨hparts, hid, hts⟩
    refine String.toList_inj.mp ?_
    rw [hassoc, hassoc, hparts, hid, hts]

lemma jsLength_append (s s' : List Char) : jsLength (s ++ s') = jsLength s + jsLength s' := by
  rw [jsLength, List.map_append, List.sum_append]
  rfl

lemma jsLength_pos {s : List Char} (h : s ≠ []) : 1 ≤ jsLength s := by
  obtain ⟨c, rest, rfl⟩ := List.exists_cons_of_ne_nil h
  rw [jsLength, List.map_cons, List.sum_cons]
  split <;> omega

lemma idTag_eq_of_unique (hunique : ∀ y : SignedResult toUpperCase, y.text = x.text → y = x)
    {idTag pairingCode : List Char}
    (htag : ∃ raw : String, Fits raw.toList ∧ (toUpperCase raw).toList = idTag)
    (hcode : Fits pairingCode)
    (heq : idTag ++ '|' :: pairingCode = x.idTag.toList ++ '|' :: x.pairingCode.toList) :
    x.idTag.toList = idTag := by
  obtain ⟨raw, hraw, rfl⟩ := htag
  have hy := hunique ⟨toUpperCase raw, .ofList pairingCode, x.deviceId, x.ts, ⟨raw, hraw, rfl⟩,
    by simpa using hcode, x.isUuid⟩ (text_eq_iff.mpr ⟨by simpa using heq, rfl, rfl⟩)
  rw [← hy]

lemma isUnambiguous_of_unique
    (hunique : ∀ y : SignedResult toUpperCase, y.text = x.text → y = x) : x.IsUnambiguous := by
  constructor
  · intro before after hsplit htag
    by_contra hfits
    have hx := idTag_eq_of_unique hunique htag ⟨jsLength_pos (by simp), not_lt.mp hfits⟩
      (by simp [hsplit])
    rw [hsplit] at hx
    simpa using congrArg List.length hx
  · intro before after hsplit hafter htag
    have hlength := x.pairingCode_fits.2
    rw [hsplit, List.append_cons, jsLength_append] at hlength
    have hx := idTag_eq_of_unique hunique htag ⟨jsLength_pos hafter, by omega⟩ (by simp [hsplit])
    simpa using congrArg List.length hx

lemma eq_of_isUnambiguous (hx : x.IsUnambiguous) (htext : y.text = x.text) : y = x := by
  obtain ⟨hparts, hid, hts⟩ := text_eq_iff.mp htext
  obtain ⟨raw, hraw, hupper⟩ := y.idTag_upper
  have htag : ∃ raw : String, Fits raw.toList ∧ (toUpperCase raw).toList = y.idTag.toList :=
    ⟨raw, hraw, congrArg String.toList hupper⟩
  have hcode := y.pairingCode_fits
  rcases Sql.append_delimiter_eq_iff.mp hparts with
    ⟨htags, hcodes⟩ | ⟨between, hcut, hrest⟩ | ⟨between, hrest, hcut⟩
  · exact SignedResult.ext (String.toList_inj.mp htags) (String.toList_inj.mp hcodes) hid hts
  · have hlong := hx.idTag _ _ hcut htag
    rw [← hrest] at hlong
    exact absurd hcode.2 (not_le.mpr hlong)
  · refine absurd (hrest ▸ htag) (hx.pairingCode _ _ hcut fun hnil => ?_)
    rw [hnil] at hcode
    exact absurd hcode.1 (by decide)

end SignedResult

/-! ## Both nonces -/

/-- A text is that of one scan only exactly when the separators in the parts of that scan cannot be
taken for others. -/
theorem signedTexts_iff (x : SignedScan) (toUpperCase : String → String)
    (r : SignedResult toUpperCase) :
    ((∀ y : SignedScan, y.text = x.text → y = x) ↔ x.IsUnambiguous) ∧
      ((∀ s : SignedResult toUpperCase, s.text = r.text → s = r) ↔ r.IsUnambiguous) :=
  ⟨⟨SignedScan.isUnambiguous_of_unique, fun hx _ => SignedScan.eq_of_isUnambiguous hx⟩,
    SignedResult.isUnambiguous_of_unique, fun hr _ => SignedResult.eq_of_isUnambiguous hr⟩

/-! ## A charge box with a separator in its id -/

/-- At the charge box `P3R9ZT:CP1`. -/
def colonCharger : SignedScan where
  idTag := "04A1B2C3"
  pairingCode := "K7Q2MX"
  pairableId := "P3R9ZT:CP1"
  t := .ofInt 1767780000000
  idTag_ne := by decide
  trimmed := by decide +kernel
  pairingCode_ne := by decide
  pairableId_ne := by decide

/-- At the charge box `CP1`. -/
def colonCard : SignedScan where
  idTag := "04A1B2C3:K7Q2MX"
  pairingCode := "P3R9ZT"
  pairableId := "CP1"
  t := .ofInt 1767780000000
  idTag_ne := by decide
  trimmed := by decide +kernel
  pairingCode_ne := by decide
  pairableId_ne := by decide

/-- Two bodies that the phone signs alike. -/
def barCode : SignedResult String.toUpper where
  idTag := "04A1"
  pairingCode := "B2C3|K7Q2MX"
  deviceId := "3f2a9c41-77de-4b0e-9c31-5d6f1a2b3c4d"
  ts := 1767780000
  idTag_upper := ⟨"04a1", by decide +kernel, by decide +kernel⟩
  pairingCode_fits := by decide +kernel
  isUuid := by decide +kernel

def barCard : SignedResult String.toUpper where
  idTag := "04A1|B2C3"
  pairingCode := "K7Q2MX"
  deviceId := "3f2a9c41-77de-4b0e-9c31-5d6f1a2b3c4d"
  ts := 1767780000
  idTag_upper := ⟨"04a1|b2c3", by decide +kernel, by decide +kernel⟩
  pairingCode_fits := by decide +kernel
  isUuid := by decide +kernel

/-- Neither text tells what it was signed for. -/
theorem not_signedTexts_colon :
    (¬∀ x y : SignedScan, y.text = x.text → y = x) ∧
      ¬∀ x y : SignedResult String.toUpper, y.text = x.text → y = x := by
  constructor
  · intro hall
    have htext : colonCard.text = colonCharger.text :=
      SignedScan.text_eq_iff.mpr ⟨by decide +kernel, rfl⟩
    have hcharger : colonCard.pairableId = colonCharger.pairableId :=
      congrArg SignedScan.pairableId (hall _ _ htext)
    exact absurd hcharger (by decide +kernel)
  · intro hall
    have htext : barCard.text = barCode.text :=
      SignedResult.text_eq_iff.mpr ⟨by decide +kernel, rfl, rfl⟩
    have htag : barCard.idTag = barCode.idTag := congrArg SignedResult.idTag (hall _ _ htext)
    exact absurd htag (by decide +kernel)

end ExpresSync
