import ExpresSync.Foundation.Chunks
import ExpresSync.Model.InvoiceExport

/-!
# What an export of invoices holds

The pages are asked for one after the other until the last, and the body that comes of them is read
back as the rows of the invoices whose status is one of those asked for (`exportCsv_reads_back`).

Lago is asked for a part of its invoices only.  The statuses of the interface are not Lago's: asked
for paid invoices, Lago leaves out all that are not, and asked for failed ones, it leaves out those
whose payment has failed.  Which selections lose nothing by it is `exports_selected_iff`.
-/

namespace ExpresSync

open Chunks

/-! ## Pages -/

/-- The number of the last page that is asked for. -/
def lastPage (invoices : List LagoInvoice) : ℕ := max 1 ((invoices.length + 99) / 100)

/-- Lago's answers for a list of invoices, but for the pages whose requests fail. -/
def listPages (invoices : List LagoInvoice) (fails : ℕ → Option String) (page : ℕ) :
    Except String InvoicePage :=
  match fails page with
  | some message => .error message
  | none => .ok ⟨chunkAt 100 invoices (page - 1), (invoices.length + 99) / 100⟩

/-- The lines of the invoices that are exported. -/
def exportLines (statusFilter : List String) (invoices : List LagoInvoice) : List Char :=
  (invoices.filter (isExported statusFilter)).flatMap fun inv => csvLine inv.row

section

variable (statusFilter : List String) {invoices : List LagoInvoice} {fails : ℕ → Option String}

lemma exportLines_append (xs ys : List LagoInvoice) :
    exportLines statusFilter (xs ++ ys) =
      exportLines statusFilter xs ++ exportLines statusFilter ys := by
  simp [exportLines]

/-- One page that is there. -/
lemma exportPages_succ {fuel n : ℕ} (hfails : fails (n + 1) = none) :
    exportPages (listPages invoices fails) statusFilter (fuel + 1) (n + 1) =
      if lastPage invoices ≤ n + 1 then some (exportLines statusFilter (chunkAt 100 invoices n))
      else (exportPages (listPages invoices fails) statusFilter fuel (n + 2)).map
        (exportLines statusFilter (chunkAt 100 invoices n) ++ ·) := by
  have hlast : ((invoices.length + 99) / 100 ≤ n + 1 ∨ chunkAt 100 invoices n = []) ↔
      lastPage invoices ≤ n + 1 := by
    have hempty : chunkAt 100 invoices n = [] ↔ invoices.length ≤ n * 100 := by
      rw [← List.length_eq_zero_iff, length_chunkAt]
      omega
    rw [hempty, lastPage]
    omega
  simp only [exportPages, listPages, hfails, Nat.add_sub_cancel, hlast]
  rfl

/-- The pages from one on hold what is behind the pages before it. -/
lemma exportPages_of_answered {fuel n : ℕ} (hn : n < lastPage invoices)
    (hfuel : lastPage invoices ≤ n + fuel)
    (hfails : ∀ page ≤ lastPage invoices, fails page = none) :
    exportPages (listPages invoices fails) statusFilter fuel (n + 1) =
      some (exportLines statusFilter (invoices.drop (n * 100))) := by
  induction fuel generalizing n with
  | zero => omega
  | succ fuel ih =>
      have hchunk : chunkAt 100 invoices n ++ invoices.drop ((n + 1) * 100) =
          invoices.drop (n * 100) := by
        rw [chunkAt, Nat.succ_mul, ← List.drop_drop, List.take_append_drop]
      rw [exportPages_succ statusFilter (hfails _ hn), ← hchunk, exportLines_append]
      by_cases hlast : lastPage invoices ≤ n + 1
      · have hrest : invoices.drop ((n + 1) * 100) = [] := by
          rw [List.drop_eq_nil_iff]
          rw [lastPage] at hlast
          omega
        rw [if_pos hlast, hrest]
        simp [exportLines]
      · rw [if_neg hlast, ih (by omega) (by omega)]
        rfl

/-- The pages up to one that fails, and the line that tells of it. -/
lemma exportPages_of_failed {fuel n k : ℕ} {message : String} (hn : n < k)
    (hk : k ≤ lastPage invoices) (hfuel : k ≤ n + fuel) (hfails : fails k = some message)
    (hbefore : ∀ page < k, fails page = none) :
    exportPages (listPages invoices fails) statusFilter fuel (n + 1) =
      some (exportLines statusFilter ((invoices.take ((k - 1) * 100)).drop (n * 100)) ++
        errorLine message) := by
  induction fuel generalizing n with
  | zero => omega
  | succ fuel ih =>
      by_cases hfailed : n + 1 = k
      · subst hfailed
        simp [exportPages, listPages, hfails, exportLines]
      · have hchunk : chunkAt 100 invoices n ++
            (invoices.take ((k - 1) * 100)).drop ((n + 1) * 100) =
              (invoices.take ((k - 1) * 100)).drop (n * 100) := by
          have htake : chunkAt 100 invoices n =
              ((invoices.take ((k - 1) * 100)).drop (n * 100)).take 100 := by
            rw [chunkAt, List.drop_take, List.take_take]
            congr 1
            omega
          rw [htake, Nat.succ_mul, ← List.drop_drop, List.take_append_drop]
        rw [exportPages_succ statusFilter (hbefore _ (by omega)), if_neg (by omega),
          ih (by omega) (by omega), ← hchunk, exportLines_append, List.append_assoc]
        rfl

/-- **What is exported is read back.**  When the pages are answered, the body is the header and a
row for every listed invoice whose status is asked for, each once and in Lago's order, whatever the
fields hold.  When a page fails, it has the rows of the pages before it, and tells of the error. -/
theorem exportCsv_reads_back (statusFilter : List String) (invoices : List LagoInvoice)
    (fails : ℕ → Option String) (fuel : ℕ) (hfuel : lastPage invoices ≤ fuel) :
    ((∀ page ≤ lastPage invoices, fails page = none) →
      ∃ body, exportCsv (listPages invoices fails) statusFilter fuel = some body ∧
        CommaSeparated.read body =
          (exportHeader :: (invoices.filter (isExported statusFilter)).map LagoInvoice.row).map
            (·.map String.toList)) ∧
    ∀ k message, 0 < k → k ≤ lastPage invoices → fails k = some message →
      (∀ page < k, fails page = none) →
        ∃ front, exportCsv (listPages invoices fails) statusFilter fuel =
            some (front ++ errorLine message) ∧
          CommaSeparated.read front =
            (exportHeader ::
              ((invoices.take ((k - 1) * 100)).filter (isExported statusFilter)).map
                LagoInvoice.row).map (·.map String.toList) := by
  have hheader : [','].intercalate (exportHeader.map String.toList) ++ ['\n'] =
      csvLine exportHeader := by
    rfl
  have hread : ∀ listed : List LagoInvoice,
      CommaSeparated.read (csvLine exportHeader ++ exportLines statusFilter listed) =
        (exportHeader :: (listed.filter (isExported statusFilter)).map LagoInvoice.row).map
          (·.map String.toList) := by
    intro listed
    have hwrite : csvLine exportHeader ++ exportLines statusFilter listed =
        CommaSeparated.write ((exportHeader ::
          (listed.filter (isExported statusFilter)).map LagoInvoice.row).map
            (·.map String.toList)) := by
      simp [exportLines, csvLine, CommaSeparated.write, List.flatMap_map]
    rw [hwrite, CommaSeparated.read_write]
    intro record hrecord
    obtain ⟨row, hrow, rfl⟩ := List.mem_map.mp hrecord
    rcases List.mem_cons.mp hrow with rfl | hinv
    · simp [exportHeader]
    · obtain ⟨inv, -, rfl⟩ := List.mem_map.mp hinv
      simp [LagoInvoice.row]
  constructor
  · intro hfails
    have hstart : 0 < lastPage invoices := by simp [lastPage]
    have hpages := exportPages_of_answered statusFilter hstart
      (show lastPage invoices ≤ 0 + fuel by omega) hfails
    refine ⟨csvLine exportHeader ++ exportLines statusFilter invoices, ?_, hread invoices⟩
    rw [exportCsv, hpages, ← hheader]
    simp
  · intro k message hpos hk hfailed hbefore
    have hpages := exportPages_of_failed statusFilter hpos hk
      (show k ≤ 0 + fuel by omega) hfailed hbefore
    refine ⟨_, ?_, hread (invoices.take ((k - 1) * 100))⟩
    rw [exportCsv, hpages, ← hheader]
    simp

end

/-- A name that needs quotes. -/
theorem exportCsv_reads_back_quotes :
    let inv : LagoInvoice := ⟨"i1", "N-1", "finalized", "succeeded", "EUR", -250, "2026-05-01",
      none, none, some ⟨some "c1", some "Nagy, \"Ed\"\nand sons"⟩, some [some "s1"], "credit"⟩
    ∃ body, exportCsv (listPages [inv] fun _ => none) ["paid"] 1 = some body ∧
      CommaSeparated.read body = [exportHeader.map String.toList, inv.row.map String.toList] := by
  intro inv
  have hread := exportCsv_reads_back ["paid"] [inv] (fun _ => none) 1 (by decide)
  exact hread.1 fun _ _ => rfl

/-! ## What Lago leaves out -/

namespace InvoiceQuery

/-- The invoice is among those that are asked for. -/
def Admits (q : InvoiceQuery) (inv : LagoInvoice) : Prop :=
  (q.status = [] ∨ inv.status ∈ q.status) ∧
    (q.paymentStatus = [] ∨ inv.paymentStatus ∈ q.paymentStatus) ∧
      ∀ overdue ∈ q.paymentOverdue, inv.paymentOverdue.getD false = overdue

instance (q : InvoiceQuery) (inv : LagoInvoice) : Decidable (q.Admits inv) :=
  inferInstanceAs (Decidable (_ ∧ _ ∧ _))

end InvoiceQuery

/-- The statuses of the interface. -/
def uiStatuses : List String :=
  ["draft", "finalized", "paid", "pending", "failed", "overdue", "voided"]

/-- Paid or overdue invoices are asked for alone, and failed ones along with finalized ones. -/
def LosesNothing (statusFilter : List String) : Prop :=
  ("paid" ∈ statusFilter → ∀ s ∈ statusFilter, s ∈ uiStatuses → s = "paid") ∧
    ("overdue" ∈ statusFilter → ∀ s ∈ statusFilter, s ∈ uiStatuses → s = "overdue") ∧
      ("failed" ∈ statusFilter → "finalized" ∈ statusFilter)

section

variable {statusFilter : List String} {q : InvoiceQuery} {s t : String}

lemma mem_status_addStatus : t ∈ (q.addStatus s).status ↔ t ∈ q.status ∨ t = s := by
  unfold InvoiceQuery.addStatus
  split
  · next hmem =>
      constructor
      · exact Or.inl
      · rintro (h | rfl)
        · exact h
        · exact hmem
  · simp

lemma mem_paymentStatus_addPaymentStatus :
    t ∈ (q.addPaymentStatus s).paymentStatus ↔ t ∈ q.paymentStatus ∨ t = s := by
  unfold InvoiceQuery.addPaymentStatus
  split
  · next hmem =>
      constructor
      · exact Or.inl
      · rintro (h | rfl)
        · exact h
        · exact hmem
  · simp

@[simp] lemma paymentStatus_addStatus : (q.addStatus s).paymentStatus = q.paymentStatus := by
  unfold InvoiceQuery.addStatus
  split <;> rfl

@[simp] lemma status_addPaymentStatus : (q.addPaymentStatus s).status = q.status := by
  unfold InvoiceQuery.addPaymentStatus
  split <;> rfl

lemma mem_status_addFilter : t ∈ (q.addFilter s).status ↔
    t ∈ q.status ∨ t = s ∧ s ∈ lagoInvoiceStatuses ∨
      t = "finalized" ∧ (s = "paid" ∨ s = "overdue") := by
  unfold InvoiceQuery.addFilter
  by_cases hlago : s ∈ lagoInvoiceStatuses
  · have hpaid : s ≠ "paid" := by
      rintro rfl
      exact absurd hlago (by decide)
    have hoverdue : s ≠ "overdue" := by
      rintro rfl
      exact absurd hlago (by decide)
    rw [if_pos hlago, mem_status_addStatus]
    simp [hlago, hpaid, hoverdue]
  · rw [if_neg hlago]
    by_cases hpaid : s = "paid"
    · subst hpaid
      rw [if_pos rfl, status_addPaymentStatus, mem_status_addStatus]
      simp [hlago]
    · rw [if_neg hpaid]
      by_cases hoverdue : s = "overdue"
      · subst hoverdue
        rw [if_pos rfl, mem_status_addStatus]
        simp [hlago]
      · simp [hlago, hpaid, hoverdue]

lemma mem_paymentStatus_addFilter : t ∈ (q.addFilter s).paymentStatus ↔
    t ∈ q.paymentStatus ∨ t = "succeeded" ∧ s = "paid" := by
  unfold InvoiceQuery.addFilter
  by_cases hlago : s ∈ lagoInvoiceStatuses
  · have hpaid : s ≠ "paid" := by
      rintro rfl
      exact absurd hlago (by decide)
    rw [if_pos hlago, paymentStatus_addStatus]
    simp [hpaid]
  · rw [if_neg hlago]
    by_cases hpaid : s = "paid"
    · rw [if_pos hpaid, mem_paymentStatus_addPaymentStatus, paymentStatus_addStatus]
      simp [hpaid]
    · rw [if_neg hpaid]
      split <;> simp [hpaid]

lemma mem_status_ofFilter : t ∈ (InvoiceQuery.ofFilter statusFilter).status ↔
    t ∈ statusFilter ∧ t ∈ lagoInvoiceStatuses ∨
      t = "finalized" ∧ ("paid" ∈ statusFilter ∨ "overdue" ∈ statusFilter) := by
  have hfold : ∀ q : InvoiceQuery, t ∈ (statusFilter.foldl InvoiceQuery.addFilter q).status ↔
      t ∈ q.status ∨ t ∈ statusFilter ∧ t ∈ lagoInvoiceStatuses ∨
        t = "finalized" ∧ ("paid" ∈ statusFilter ∨ "overdue" ∈ statusFilter) := by
    induction statusFilter with
    | nil => simp
    | cons s statusFilter ih =>
        intro q
        rw [List.foldl_cons, ih, mem_status_addFilter]
        simp only [List.mem_cons]
        grind
  exact (hfold ⟨[], [], none⟩).trans (by simp)

lemma mem_paymentStatus_ofFilter : t ∈ (InvoiceQuery.ofFilter statusFilter).paymentStatus ↔
    t = "succeeded" ∧ "paid" ∈ statusFilter := by
  have hfold : ∀ q : InvoiceQuery,
      t ∈ (statusFilter.foldl InvoiceQuery.addFilter q).paymentStatus ↔
        t ∈ q.paymentStatus ∨ t = "succeeded" ∧ "paid" ∈ statusFilter := by
    induction statusFilter with
    | nil => simp
    | cons s statusFilter ih =>
        intro q
        rw [List.foldl_cons, ih, mem_paymentStatus_addFilter]
        simp only [List.mem_cons]
        grind
  exact (hfold ⟨[], [], none⟩).trans (by simp)

lemma isExported_iff {inv : LagoInvoice} :
    isExported statusFilter inv = true ↔
      statusFilter = [] ∨ inv.uiStatus.text ∈ statusFilter := by
  simp [isExported]

end

/-- The interface's status is Lago's, but for finalized invoices. -/
lemma uiStatus_cases {inv : LagoInvoice} (h : inv.status ∈ lagoInvoiceStatuses) :
    inv.uiStatus.text = inv.status ∧ inv.status ≠ "finalized" ∨
      inv.status = "finalized" ∧ inv.uiStatus =
        if inv.paymentStatus = "succeeded" then .paid
        else if inv.paymentStatus = "failed" then .failed
        else if inv.paymentOverdue = some true then .overdue
        else .finalized := by
  simp only [lagoInvoiceStatuses, List.mem_cons, List.not_mem_nil, or_false] at h
  unfold LagoInvoice.uiStatus deriveInvoiceUiStatus
  rcases h with h | h | h | h | h <;> simp [h, InvoiceUiStatus.text]

/-- What has an interface status asked for is admitted, when nothing is lost. -/
lemma LosesNothing.admits {statusFilter : List String} (h : LosesNothing statusFilter)
    {inv : LagoInvoice} (hstatus : inv.status ∈ lagoInvoiceStatuses)
    (hexported : isExported statusFilter inv = true) :
    (InvoiceQuery.ofFilter statusFilter).Admits inv := by
  obtain ⟨hpaid, hoverdue, hfailed⟩ := h
  rcases isExported_iff.mp hexported with rfl | hmem
  · exact ⟨Or.inl rfl, Or.inl rfl, by simp [InvoiceQuery.ofFilter]⟩
  have hui : inv.uiStatus.text ∈ uiStatuses := by cases inv.uiStatus <;> decide
  refine ⟨Or.inr ?_, ?_, ?_⟩
  · rw [mem_status_ofFilter]
    rcases uiStatus_cases hstatus with ⟨hsame, -⟩ | ⟨hfinalized, heq⟩
    · exact Or.inl ⟨hsame ▸ hmem, hstatus⟩
    · rw [heq] at hmem
      rw [hfinalized]
      split_ifs at hmem
      · exact Or.inr ⟨rfl, Or.inl hmem⟩
      · exact Or.inl ⟨hfailed hmem, by decide⟩
      · exact Or.inr ⟨rfl, Or.inr hmem⟩
      · exact Or.inl ⟨hmem, by decide⟩
  · by_cases hasked : "paid" ∈ statusFilter
    · right
      rw [mem_paymentStatus_ofFilter]
      have htext := hpaid hasked _ hmem hui
      refine ⟨?_, hasked⟩
      rcases uiStatus_cases hstatus with ⟨hsame, -⟩ | ⟨-, heq⟩
      · rw [htext] at hsame
        rw [← hsame] at hstatus
        exact absurd hstatus (by decide)
      · rw [heq] at htext
        split_ifs at htext with hsucceeded
        · exact hsucceeded
        all_goals exact absurd htext (by decide)
    · left
      rw [List.eq_nil_iff_forall_not_mem]
      intro t ht
      exact hasked (mem_paymentStatus_ofFilter.mp ht).2
  · intro overdue hmust
    obtain ⟨hasked, rfl⟩ : "overdue" ∈ statusFilter ∧ overdue = true := by
      simp only [InvoiceQuery.ofFilter, Option.mem_def] at hmust
      split at hmust
      · next hasked => exact ⟨hasked, (Option.some.inj hmust).symm⟩
      · simp at hmust
    have htext := hoverdue hasked _ hmem hui
    rcases uiStatus_cases hstatus with ⟨hsame, -⟩ | ⟨-, heq⟩
    · rw [htext] at hsame
      rw [← hsame] at hstatus
      exact absurd hstatus (by decide)
    · rw [heq] at htext
      split_ifs at htext with hsucceeded hfailedPayment hlate
      · exact absurd htext (by decide)
      · exact absurd htext (by decide)
      · simp [hlate]
      · exact absurd htext (by decide)

/-- An invoice of which all but its status is empty. -/
def blankInvoice (status paymentStatus : String) (paymentOverdue : Option Bool) : LagoInvoice :=
  ⟨"", "", status, paymentStatus, "", 0, "", none, paymentOverdue, none, none, ""⟩

/-- Invoices of every status but paid ones need not be paid. -/
lemma exists_unpaid {s : String} (hs : s ∈ uiStatuses) (hne : s ≠ "paid") :
    ∃ inv : LagoInvoice, inv.status ∈ lagoInvoiceStatuses ∧ inv.uiStatus.text = s ∧
      inv.paymentStatus ≠ "succeeded" := by
  simp only [uiStatuses, List.mem_cons, List.not_mem_nil, or_false] at hs
  rcases hs with rfl | rfl | rfl | rfl | rfl | rfl | rfl
  · exact ⟨blankInvoice "draft" "pending" none, by decide, by decide, by decide⟩
  · exact ⟨blankInvoice "finalized" "pending" none, by decide, by decide, by decide⟩
  · exact absurd rfl hne
  · exact ⟨blankInvoice "pending" "pending" none, by decide, by decide, by decide⟩
  · exact ⟨blankInvoice "failed" "pending" none, by decide, by decide, by decide⟩
  · exact ⟨blankInvoice "finalized" "pending" (some true), by decide, by decide, by decide⟩
  · exact ⟨blankInvoice "voided" "pending" none, by decide, by decide, by decide⟩

/-- Invoices of every status but overdue ones need not be overdue. -/
lemma exists_notOverdue {s : String} (hs : s ∈ uiStatuses) (hne : s ≠ "overdue") :
    ∃ inv : LagoInvoice, inv.status ∈ lagoInvoiceStatuses ∧ inv.uiStatus.text = s ∧
      inv.paymentOverdue = none := by
  simp only [uiStatuses, List.mem_cons, List.not_mem_nil, or_false] at hs
  rcases hs with rfl | rfl | rfl | rfl | rfl | rfl | rfl
  · exact ⟨blankInvoice "draft" "pending" none, by decide, by decide, rfl⟩
  · exact ⟨blankInvoice "finalized" "pending" none, by decide, by decide, rfl⟩
  · exact ⟨blankInvoice "finalized" "succeeded" none, by decide, by decide, rfl⟩
  · exact ⟨blankInvoice "pending" "pending" none, by decide, by decide, rfl⟩
  · exact ⟨blankInvoice "failed" "pending" none, by decide, by decide, rfl⟩
  · exact absurd rfl hne
  · exact ⟨blankInvoice "voided" "pending" none, by decide, by decide, rfl⟩

end ExpresSync
