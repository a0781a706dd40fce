import ExpresSync.Model.LagoCache

/-!
# The steps of the Lago cache

What each step needs and what it leaves, and what the statements do to the rows of the cache.
-/

namespace ExpresSync

variable {E C : Type} {K : LagoEntityKind E C}

/-! ## Statements -/

namespace LagoEntityKind

variable {cache : CacheTable K} {id : String} {version now : ℕ}

lemma mem_softDelete {row' : CacheRow E C} :
    row' ∈ (K.softDelete cache id version now).entries ↔ ∃ row ∈ cache.entries, row' =
      if K.lagoId row.payload = id then
        { row with deletedAt := row.deletedAt.or (some now), deletedBy := version :: row.deletedBy }
      else row := by
  simp only [softDelete, KeyedLog.mem_map, eq_comm (a := row')]

lemma mem_softDeleteOrphans {lago : LagoTable K} {orphanIds : List String} {row' : CacheRow E C} :
    row' ∈ (K.softDeleteOrphans cache lago orphanIds now).entries ↔ ∃ row ∈ cache.entries, row' =
      if K.lagoId row.payload ∈ orphanIds then
        { row with
          deletedAt := some now
          deletedBy :=
            ((lago.get? (K.lagoId row.payload)).map LagoRecord.version).toList ++ row.deletedBy }
      else row := by
  simp only [softDeleteOrphans, KeyedLog.mem_map, eq_comm (a := row')]

end LagoEntityKind

lemma mem_findOrphans {freshIds localIds : List String} {id : String} :
    id ∈ findOrphans freshIds localIds ↔ id ∈ localIds ∧ id ∉ freshIds := by
  simp [findOrphans]

/-! ## Steps -/

namespace LagoCacheWorld

variable {w w' : LagoCacheWorld K}

lemma upserts_cases (w : LagoCacheWorld K) (entity : E) (version : ℕ) (succeeds : Bool) :
    w.upserts entity version succeeds =
      if succeeds = true ∧ ¬K.Taken w.cache entity then
        { w with
          cache := w.cache.upsert (K.row entity version w.now)
          applied := (K.lagoId entity, version) :: w.applied }
      else w := by
  unfold upserts LagoEntityKind.upsertEntity
  cases succeeds with
  | false => simp
  | true => by_cases htaken : K.Taken w.cache entity <;> simp [htaken]

lemma pass_upserts {entity : E} {version : ℕ} {succeeds : Bool} :
    (w.upserts entity version succeeds).pass = w.pass := by
  rw [upserts_cases]
  split <;> rfl

variable [DecidableEq E]

lemma step_webhook {number : ℕ} {succeeds : Bool} :
    w.step (.webhook number succeeds) = some w' ↔
      (∃ entity, w.changes[number]? = some (.saved entity) ∧
        w' = w.upserts entity number succeeds) ∨
      ∃ lagoId, w.changes[number]? = some (.deleted lagoId) ∧ K.deletedWebhook = true ∧
        w' = if succeeds = true ∧ w.cache.Has lagoId then
          { w with
            cache := K.softDelete w.cache lagoId number w.now
            applied := (lagoId, number) :: w.applied }
        else w := by
  simp only [step, Option.bind_eq_some_iff]
  constructor
  · rintro ⟨change, hchange, hhandle⟩
    cases change with
    | saved entity => exact Or.inl ⟨entity, hchange, (Option.some.inj hhandle).symm⟩
    | deleted lagoId =>
        unfold handleWebhook at hhandle
        cases hdeleted : K.deletedWebhook with
        | false => simp [hdeleted] at hhandle
        | true =>
            simp only [hdeleted, Bool.not_true, Bool.false_eq_true, if_false] at hhandle
            refine Or.inr ⟨lagoId, hchange, rfl, ?_⟩
            split at hhandle
            · next happlies =>
              rw [if_pos happlies]
              exact (Option.some.inj hhandle).symm
            · next hskips =>
              rw [if_neg hskips]
              exact (Option.some.inj hhandle).symm
  · rintro (⟨entity, hchange, rfl⟩ | ⟨lagoId, hchange, hdeleted, rfl⟩)
    · exact ⟨_, hchange, rfl⟩
    · refine ⟨_, hchange, ?_⟩
      unfold handleWebhook
      simp only [hdeleted, Bool.not_true, Bool.false_eq_true, if_false]
      split <;> rfl

lemma step_passStarts {listed : List (ListedEntity E)} :
    w.step (.passStarts listed) = some w' ↔ w.pass = .idle ∧
      ∃ complete : listed.Perm (K.existing w.lago w.changes.length),
        w' = { w with pass := .listing ⟨w.lago, w.changes.length, listed, complete⟩ 0 [] } := by
  simp only [step]
  constructor
  · intro hstep
    split at hstep
    · next hidle =>
      split at hstep
      · next complete => exact ⟨hidle, complete, (Option.some.inj hstep).symm⟩
      · cases hstep
    · cases hstep
  · rintro ⟨hidle, complete, rfl⟩
    simp only [hidle, complete, dite_true]

lemma step_passFetchesPage :
    w.step .passFetchesPage = some w' ↔ ∃ source pages allItems,
      w.pass = .listing source pages allItems ∧
        w' = { w with pass := w.fetchesPage source pages allItems } := by
  simp only [step]
  constructor
  · intro hstep
    split at hstep
    · next source pages allItems heq =>
      exact ⟨source, pages, allItems, heq, (Option.some.inj hstep).symm⟩
    · cases hstep
  · rintro ⟨source, pages, allItems, heq, rfl⟩
    simp only [heq]

lemma step_passUpserts {succeeds : Bool} :
    w.step (.passUpserts succeeds) = some w' ↔ ∃ source fetched item remaining,
      w.pass = .upserting source fetched (item :: remaining) ∧
        w' = { w.upserts item.entity item.version succeeds with
          pass := .upserting source fetched remaining } := by
  simp only [step]
  constructor
  · intro hstep
    split at hstep
    · next source fetched item remaining heq =>
      exact ⟨source, fetched, item, remaining, heq, (Option.some.inj hstep).symm⟩
    · cases hstep
  · rintro ⟨source, fetched, item, remaining, heq, rfl⟩
    simp only [heq]

lemma step_passReadsLocal :
    w.step .passReadsLocal = some w' ↔ ∃ source fetched,
      w.pass = .upserting source fetched [] ∧
        w' = { w with pass := .deleting source fetched (K.activeIds w.cache) } := by
  simp only [step]
  constructor
  · intro hstep
    split at hstep
    · next source fetched heq => exact ⟨source, fetched, heq, (Option.some.inj hstep).symm⟩
    · cases hstep
  · rintro ⟨source, fetched, heq, rfl⟩
    simp only [heq]

lemma step_passDeletesOrphans :
    w.step .passDeletesOrphans = some w' ↔ ∃ source fetched localActive,
      w.pass = .deleting source fetched localActive ∧
        w' = w.deletesOrphans source fetched localActive := by
  simp only [step]
  constructor
  · intro hstep
    split at hstep
    · next source fetched localActive heq =>
      exact ⟨source, fetched, localActive, heq, (Option.some.inj hstep).symm⟩
    · cases hstep
  · rintro ⟨source, fetched, localActive, heq, rfl⟩
    simp only [heq]

lemma step_passFails (hstep : w.step .passFails = some w') : w' = { w with pass := .idle } := by
  simp only [step] at hstep
  split at hstep
  · cases hstep
  · cases hstep
  · exact (Option.some.inj hstep).symm

end LagoCacheWorld

end ExpresSync
