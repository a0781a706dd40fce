import ExpresSync.Model.InvoiceFees
import ExpresSync.Properties.LagoCacheSteps

/-!
# Cached fees and the fees of a payload

An upsert of an invoice with fees leaves just the fees of the payload active for that invoice, and
takes from another invoice only the fees that the payload names.  An empty array is passed over like
an invoice without the field: what was active stays active.
-/

namespace ExpresSync

/-- The ids of the fees of a payload. -/
def feeIds (fees : List JsonValue) : List String := fees.filterMap feeLagoId

namespace LagoFeeTable

variable {table : LagoFeeTable} {invoiceLagoId id : String}

lemma mem_activeFeeIds : id ∈ table.activeFeeIds invoiceLagoId ↔
    ∃ row, table.get? id = some row ∧ row.invoiceLagoId = some invoiceLagoId ∧
      row.deletedAt = none := by
  simp only [activeFeeIds, List.mem_map, List.mem_filter, decide_eq_true_eq, KeyedLog.get?_eq_some,
    Option.isNone_iff_eq_none]
  constructor
  · rintro ⟨row, ⟨hrow, hactive⟩, hid⟩
    exact ⟨row, ⟨hrow, hid⟩, hactive⟩
  · rintro ⟨row, ⟨hrow, hid⟩, hactive⟩
    exact ⟨row, ⟨hrow, hactive⟩, hid⟩

/-- An active row that is upserted counts for its own invoice only. -/
lemma mem_activeFeeIds_upsert {row : LagoFeeRow} (hactive : row.deletedAt = none) :
    id ∈ activeFeeIds (table.upsert row) invoiceLagoId ↔
      if row.lagoId = id then row.invoiceLagoId = some invoiceLagoId
      else id ∈ table.activeFeeIds invoiceLagoId := by
  rw [mem_activeFeeIds, KeyedLog.get?_upsert]
  split
  · constructor
    · rintro ⟨found, hfound, hinvoice, -⟩
      obtain rfl := Option.some.inj hfound
      exact hinvoice
    · intro hinvoice
      exact ⟨row, rfl, hinvoice, hactive⟩
  · exact mem_activeFeeIds.symm

lemma mem_activeFeeIds_softDelete {ids : List String} {now : ℕ} :
    id ∈ (table.softDelete ids now).activeFeeIds invoiceLagoId ↔
      id ∈ table.activeFeeIds invoiceLagoId ∧ id ∉ ids := by
  simp only [mem_activeFeeIds, softDelete, KeyedLog.get?_eq_some, KeyedLog.mem_map]
  constructor
  · rintro ⟨row, ⟨⟨old, hold, rfl⟩, hid⟩, hinvoice, hactive⟩
    by_cases hmem : old.lagoId ∈ ids
    · rw [if_pos hmem] at hactive
      cases hactive
    · rw [if_neg hmem] at hid hinvoice hactive
      exact ⟨⟨old, ⟨hold, hid⟩, hinvoice, hactive⟩, hid ▸ hmem⟩
  · rintro ⟨⟨row, ⟨hrow, hid⟩, hinvoice, hactive⟩, hmem⟩
    have hkept : row.lagoId ∉ ids := hid ▸ hmem
    exact ⟨row, ⟨⟨row, hrow, if_neg hkept⟩, hid⟩, hinvoice, hactive⟩

/-- A fee is active for one invoice at most. -/
lemma invoice_unique {other : String} (h : id ∈ table.activeFeeIds invoiceLagoId)
    (hother : id ∈ table.activeFeeIds other) : invoiceLagoId = other := by
  obtain ⟨row, hrow, hinvoice, -⟩ := mem_activeFeeIds.mp h
  obtain ⟨row', hrow', hinvoice', -⟩ := mem_activeFeeIds.mp hother
  rw [hrow] at hrow'
  obtain rfl := Option.some.inj hrow'
  rw [hinvoice] at hinvoice'
  exact Option.some.inj hinvoice'

end LagoFeeTable

/-! ## The loop -/

section

variable {invoiceLagoId : String} {now : ℕ} {succeeds : ℕ → Bool} {table table' : LagoFeeTable}
  {freshFeeIds freshFeeIds' : List String} {place : ℕ} {fees : List JsonValue}

/-- What one fee with an id does to the active fees. -/
lemma mem_activeFeeIds_feeRow {f : JsonValue} {lagoId other id : String} :
    id ∈ LagoFeeTable.activeFeeIds (table.upsert (feeRow invoiceLagoId lagoId f now)) other ↔
      if lagoId = id then invoiceLagoId = other else id ∈ table.activeFeeIds other := by
  rw [LagoFeeTable.mem_activeFeeIds_upsert rfl]
  show (if lagoId = id then some invoiceLagoId = some other else _) ↔ _
  rw [Option.some.injEq]

/-- A loop that gets through has seen the ids of all fees, and has made them the invoice's. -/
lemma upsertFeeRows_ok
    (h : upsertFeeRows invoiceLagoId now succeeds table freshFeeIds place fees =
      .ok (table', freshFeeIds')) :
    freshFeeIds' = freshFeeIds ++ feeIds fees ∧
      ∀ other id, id ∈ table'.activeFeeIds other ↔
        if id ∈ feeIds fees then invoiceLagoId = other else id ∈ table.activeFeeIds other := by
  induction fees generalizing table freshFeeIds place with
  | nil =>
      cases h
      exact ⟨(List.append_nil _).symm, fun _ _ => (if_neg List.not_mem_nil).symm ▸ Iff.rfl⟩
  | cons f fees ih =>
      unfold upsertFeeRows at h
      split at h
      · next heq => cases heq
      · cases h
      · next heq =>
        cases heq
        cases hid : feeLagoId f with
        | none =>
            have hids : feeIds (f :: fees) = feeIds fees := List.filterMap_cons_none hid
            rw [hid] at h
            rw [hids]
            exact ih h
        | some lagoId =>
            have hids : feeIds (f :: fees) = lagoId :: feeIds fees := List.filterMap_cons_some hid
            rw [hid] at h
            dsimp only at h
            split at h
            · obtain ⟨hfresh, hactive⟩ := ih h
              refine ⟨by rw [hfresh, hids, List.append_assoc, List.singleton_append], ?_⟩
              intro other id
              rw [hactive, mem_activeFeeIds_feeRow, hids]
              by_cases hmem : id ∈ feeIds fees
              · rw [if_pos hmem, if_pos (List.mem_cons_of_mem _ hmem)]
              · rw [if_neg hmem]
                by_cases heq : lagoId = id
                · rw [if_pos heq, if_pos (heq ▸ List.mem_cons_self)]
                · have hnot : id ∉ lagoId :: feeIds fees := by
                    rw [List.mem_cons]
                    exact fun hor => hor.elim (fun h => heq h.symm) hmem
                  rw [if_neg heq, if_neg hnot]
            · cases h

end

/-! ## A call -/

section

variable {statements : InvoiceStatements} {now : ℕ} {table table' : LagoFeeTable}
  {invoiceLagoId id : String} {fees : List JsonValue}

/-- The two branches at the end of a call do the same to the active fees. -/
lemma upsertInvoiceFees_active
    (h : upsertInvoiceFees statements now table invoiceLagoId fees = .ok table') (other : String) :
    id ∈ table'.activeFeeIds other ↔
      if other = invoiceLagoId then id ∈ feeIds fees
      else id ∈ table.activeFeeIds other ∧ id ∉ feeIds fees := by
  unfold upsertInvoiceFees at h
  split at h
  · cases h
  · next upserted freshFeeIds hloop =>
    obtain ⟨hfresh, hactive⟩ := upsertFeeRows_ok hloop
    rw [List.nil_append] at hfresh
    subst hfresh
    -- the orphans are active fees of the invoice that the payload does not name
    have horphan : id ∈ findOrphans (feeIds fees) (upserted.activeFeeIds invoiceLagoId) ↔
        id ∈ table.activeFeeIds invoiceLagoId ∧ id ∉ feeIds fees := by
      rw [mem_findOrphans, hactive]
      by_cases hmem : id ∈ feeIds fees
      · simp only [hmem, not_true_eq_false, and_false]
      · simp only [if_neg hmem]
    have hdeleted : id ∈ table'.activeFeeIds other ↔ id ∈ upserted.activeFeeIds other ∧
        id ∉ findOrphans (feeIds fees) (upserted.activeFeeIds invoiceLagoId) := by
      dsimp only at h
      split at h
      · cases h
      · split at h
        · next hnone =>
          cases h
          rw [hnone]
          exact (and_iff_left List.not_mem_nil).symm
        · split at h
          · cases h
            exact LagoFeeTable.mem_activeFeeIds_softDelete
          · cases h
    rw [hdeleted, horphan, hactive]
    by_cases hmem : id ∈ feeIds fees
    · simp only [hmem, not_true_eq_false, and_false, not_false_eq_true, and_true, if_true]
      by_cases heq : other = invoiceLagoId
      · simp only [heq, if_true]
      · simp only [if_neg heq, Ne.symm heq]
    · simp only [hmem, if_false, not_false_eq_true, and_true]
      by_cases heq : other = invoiceLagoId
      · subst heq
        simp only [and_not_self, if_true]
      · rw [if_neg heq]
        refine and_iff_left_of_imp fun hother hown => heq ?_
        exact LagoFeeTable.invoice_unique hother hown

end

namespace InvoiceCache

variable {parseDate : String → Option ℕ} {statements : InvoiceStatements} {now version : ℕ}
  {cache cache' : InvoiceCache parseDate} {inv : LagoInvoiceExtended} {fees : List JsonValue}

/-- The active cached fees of an invoice are the fees of a payload. -/
def Mirrors (cache : InvoiceCache parseDate) (invoiceLagoId : String) (fees : List JsonValue) :
    Prop :=
  ∀ id, id ∈ cache.fees.activeFeeIds invoiceLagoId ↔ id ∈ feeIds fees

/-- What a call that gets through does to the table of fees. -/
lemma upsertInvoice_fees (hfees : inv.fees = some fees)
    (h : cache.upsertInvoice statements now version inv = .ok cache') :
    fees = [] ∧ cache'.fees = cache.fees ∨
      fees ≠ [] ∧
        upsertInvoiceFees statements now cache.fees inv.lagoId fees = .ok cache'.fees := by
  unfold upsertInvoice at h
  rw [hfees] at h
  split at h
  · cases h
  · cases fees with
    | nil =>
        cases h
        exact Or.inl ⟨rfl, rfl⟩
    | cons f fees =>
        dsimp only at h
        split at h
        · cases h
        · next hcall =>
          cases h
          exact Or.inr ⟨List.cons_ne_nil _ _, hcall⟩

/-- A call that gets through mirrors the payload unless the array is empty and fees are active. -/
theorem upsertInvoice_mirrors_iff (hfees : inv.fees = some fees)
    (h : cache.upsertInvoice statements now version inv = .ok cache') :
    cache'.Mirrors inv.lagoId fees ↔
      fees ≠ [] ∨ cache.fees.activeFeeIds inv.lagoId = [] := by
  unfold Mirrors
  rcases upsertInvoice_fees hfees h with ⟨rfl, hkept⟩ | ⟨hne, hcall⟩
  · rw [hkept, List.eq_nil_iff_forall_not_mem]
    constructor
    · intro hmirrors
      exact Or.inr fun id hid => List.not_mem_nil ((hmirrors id).mp hid)
    · rintro (hne | hnone) id
      · exact absurd rfl hne
      · exact iff_of_false (hnone id) List.not_mem_nil
  · refine iff_of_true (fun id => ?_) (Or.inl hne)
    rw [upsertInvoiceFees_active hcall, if_pos rfl]

/-- Another invoice keeps its active fees but those that the payload names. -/
theorem upsertInvoice_other (hfees : inv.fees = some fees)
    (h : cache.upsertInvoice statements now version inv = .ok cache') {other : String}
    (hother : other ≠ inv.lagoId) (id : String) :
    id ∈ cache'.fees.activeFeeIds other ↔
      id ∈ cache.fees.activeFeeIds other ∧ id ∉ feeIds fees := by
  rcases upsertInvoice_fees hfees h with ⟨rfl, hkept⟩ | ⟨-, hcall⟩
  · rw [hkept]
    exact (and_iff_left List.not_mem_nil).symm
  · rw [upsertInvoiceFees_active hcall, if_neg hother]

end InvoiceCache

/-! ## Completion -/

/-- The loop throws for a `null` and for a statement that fails only. -/
lemma upsertFeeRows_completes {invoiceLagoId : String} {now : ℕ} {succeeds : ℕ → Bool}
    (hsucceeds : ∀ place, succeeds place = true) {fees : List JsonValue}
    (hnull : ∀ f ∈ fees, f ≠ .null) (table : LagoFeeTable) (freshFeeIds : List String)
    (place : ℕ) :
    ∃ result, upsertFeeRows invoiceLagoId now succeeds table freshFeeIds place fees =
      .ok result := by
  induction fees generalizing table freshFeeIds place with
  | nil => exact ⟨_, rfl⟩
  | cons f fees ih =>
      have ih := ih fun f' hf' => hnull f' (List.mem_cons_of_mem _ hf')
      unfold upsertFeeRows
      split
      · next heq => cases heq
      · next heq =>
        cases heq
        exact absurd rfl (hnull .null List.mem_cons_self)
      · next heq =>
        cases heq
        split
        · exact ih _ _ _
        · rw [if_pos (hsucceeds _)]
          exact ih _ _ _

/-- A call gets through when its statements do and no fee is `null`. -/
theorem InvoiceCache.upsertInvoice_completes {parseDate : String → Option ℕ}
    {statements : InvoiceStatements} (hinvoice : statements.invoice = true)
    (hfee : ∀ place, statements.fee place = true) (hselect : statements.select = true)
    (hsoftDelete : statements.softDelete = true) {inv : LagoInvoiceExtended}
    (hnull : ∀ fees, inv.fees = some fees → ∀ f ∈ fees, f ≠ .null)
    (now version : ℕ) (cache : InvoiceCache parseDate) :
    ∃ cache', cache.upsertInvoice statements now version inv = .ok cache' := by
  have hkind : ¬(invoiceKind parseDate).Taken cache.invoices inv.toLagoInvoicePayload := by
    rintro ⟨row, -, -, hunique, -⟩
    cases hunique
  have hrow : ExpresSync.upsertInvoice parseDate cache.invoices inv.toLagoInvoicePayload version
      now = some (cache.invoices.upsert
        ((invoiceKind parseDate).row inv.toLagoInvoicePayload version now)) := if_neg hkind
  have hfees : ∀ fees, inv.fees = some fees →
      ∃ table, upsertInvoiceFees statements now cache.fees inv.lagoId fees = .ok table := by
    intro fees hsome
    obtain ⟨result, hloop⟩ : ∃ result,
        upsertFeeRows inv.lagoId now statements.fee cache.fees [] 0 fees = .ok result :=
      upsertFeeRows_completes hfee (hnull fees hsome) cache.fees [] 0
    unfold upsertInvoiceFees
    rw [hloop, hselect, hsoftDelete]
    simp only [Bool.not_true, Bool.false_eq_true, if_false, if_true]
    split
    · exact ⟨_, rfl⟩
    · exact ⟨_, rfl⟩
  unfold InvoiceCache.upsertInvoice
  rw [hinvoice, if_pos rfl, hrow]
  dsimp only
  split
  · exact ⟨_, rfl⟩
  · exact ⟨_, rfl⟩
  · next hsome =>
    obtain ⟨table, htable⟩ := hfees _ hsome
    rw [htable]
    exact ⟨_, rfl⟩

/-! ## A draft whose last fee is dropped -/

/-- A draft with one fee for each of these ids. -/
def draftInvoice (ids : List String) : LagoInvoiceExtended where
  lagoId := "invoice-1"
  number := "EXP-001"
  externalCustomerId := some "customer"
  status := "draft"
  paymentStatus := "pending"
  invoiceType := "subscription"
  totalAmountCents := 0
  currency := "EUR"
  issuingDate := "2026-01-31"
  paymentOverdue := some false
  createdAt := none
  updatedAt := none
  fees := some (ids.map fun id => .object [("lago_id", .string id)])

def allSucceed : InvoiceStatements := ⟨true, fun _ => true, true, true⟩

/-- The cache after an upsert of a draft with two fees. -/
def cachedDraft : InvoiceCache fun _ => none where
  invoices := ⟨[(invoiceKind fun _ => none).row
    (draftInvoice ["fee-1", "fee-2"]).toLagoInvoicePayload 0 0], by decide⟩
  fees := ⟨["fee-1", "fee-2"].map fun id =>
    feeRow "invoice-1" id (.object [("lago_id", .string id)]) 0, by decide⟩

/-- One of the two fees is dropped, and is no longer active. -/
theorem dropped_fee_mirrored :
    ∃ cache', cachedDraft.upsertInvoice allSucceed 60000 1 (draftInvoice ["fee-2"]) = .ok cache' ∧
      cache'.Mirrors (draftInvoice ["fee-2"]).lagoId [.object [("lago_id", .string "fee-2")]] := by
  have hcall : cachedDraft.upsertInvoice allSucceed 60000 1 (draftInvoice ["fee-2"]) = .ok _ := rfl
  exact ⟨_, hcall,
    (InvoiceCache.upsertInvoice_mirrors_iff rfl hcall).mpr (Or.inl (List.cons_ne_nil _ _))⟩

/-- Both fees are dropped, and both stay active. -/
theorem last_fee_stays : ¬∀ (parseDate : String → Option ℕ) (statements : InvoiceStatements)
    (now version : ℕ) (cache cache' : InvoiceCache parseDate) (inv : LagoInvoiceExtended)
    (fees : List JsonValue), inv.fees = some fees →
    cache.upsertInvoice statements now version inv = .ok cache' →
    cache'.Mirrors inv.lagoId fees := by
  intro hall
  have hmirrors :=
    hall (fun _ => none) allSucceed 60000 1 cachedDraft _ (draftInvoice []) [] rfl rfl
  have hactive : "fee-1" ∈ cachedDraft.fees.activeFeeIds "invoice-1" := by decide
  exact List.not_mem_nil ((hmirrors "fee-1").mp hactive)

end ExpresSync
