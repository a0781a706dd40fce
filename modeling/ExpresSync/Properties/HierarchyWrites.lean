import ExpresSync.Model.InlinePushes

/-!
# Tags that stay in place

What the writes of a step do to the places of the tags, their parent and their expiry date, and
to the mirror of the places in `user_mappings`.

`Follows R D` says where the tags of a later world come from: from a tag of the same number, `R`
relating the two, unless they have been created meanwhile.  No listed id tag goes but those in
`D`.
-/

namespace ExpresSync

/-- The tag has its parent and its expiry date still. -/
def StEvEOcppTag.SamePlace (tag tag' : StEvEOcppTag) : Prop :=
  tag'.parentIdTag = tag.parentIdTag ∧ tag'.expiryDate = tag.expiryDate

namespace StEvEOcppTag.SamePlace

variable {tag tag' tag'' : StEvEOcppTag}

lemma refl : tag.SamePlace tag := ⟨rfl, rfl⟩

lemma trans (h : tag.SamePlace tag') (h' : tag'.SamePlace tag'') : tag.SamePlace tag'' :=
  ⟨h'.1.trans h.1, h'.2.trans h.2⟩

end StEvEOcppTag.SamePlace

namespace SteveTags

variable (tags : SteveTags)

/-- The row mirrors the parent of its tag, if StEvE lists the tag. -/
def MirrorsParent (m : UserMapping) : Prop :=
  ∀ tag ∈ tags.table.rows, tag.ocppTagPk = m.steveOcppTagPk → m.steveParentIdTag = tag.parentIdTag

/-- The row mirrors the expiry date of its tag. -/
def MirrorsExpiry (m : UserMapping) : Prop :=
  ∀ tag ∈ tags.table.rows, tag.ocppTagPk = m.steveOcppTagPk → m.steveExpiryDate = tag.expiryDate

end SteveTags

namespace TagWorld

/-- Every row mirrors the place of its tag, but for the parents of the tags `linked`. -/
def MirrorsBut (linked : List ℕ) (w : TagWorld) : Prop :=
  ∀ m ∈ w.mappings.table.rows, w.tags.MirrorsExpiry m ∧
    (m.steveOcppTagPk ∉ linked → w.tags.MirrorsParent m)

lemma MirrorsBut.mono {linked linked' : List ℕ} {w : TagWorld} (h : w.MirrorsBut linked)
    (hsub : linked ⊆ linked') : w.MirrorsBut linked' :=
  fun m hm => ⟨(h m hm).1, fun hout => (h m hm).2 fun hmem => hout (hsub hmem)⟩

/-- A parent that is known by a name in `known` is listed. -/
def Grounded (known : String → Prop) (w : TagWorld) : Prop :=
  ∀ tag ∈ w.tags.table.rows, ∀ idTag, tag.parentIdTag = some idTag → known idTag →
    w.tags.Lists idTag

/-- Where the tags of `w'` come from. -/
structure Follows (R : StEvEOcppTag → StEvEOcppTag → Prop) (D : String → Prop)
    (w w' : TagWorld) : Prop where
  next_le : w.tags.table.next ≤ w'.tags.table.next
  origin : ∀ tag' ∈ w'.tags.table.rows, (∃ tag ∈ w.tags.table.rows,
    tag'.ocppTagPk = tag.ocppTagPk ∧ tag'.idTag = tag.idTag ∧ R tag tag') ∨
      w.tags.table.next ≤ tag'.ocppTagPk
  lists : ∀ idTag, w.tags.Lists idTag → ¬D idTag → w'.tags.Lists idTag

/-- The rows of `w` are still there, under their numbers. -/
def KeepsRows (w w' : TagWorld) : Prop :=
  ∀ m ∈ w.mappings.table.rows, ∃ m' ∈ w'.mappings.table.rows,
    m'.id = m.id ∧ m'.steveOcppTagPk = m.steveOcppTagPk

variable {w w' w'' : TagWorld} {R R' : StEvEOcppTag → StEvEOcppTag → Prop} {D D' : String → Prop}
  {linked : List ℕ} {known : String → Prop}

namespace Follows

lemma of_tags (hR : ∀ tag, R tag tag) (h : w'.tags = w.tags) : Follows R D w w' := by
  refine ⟨?_, fun tag' htag' => Or.inl ⟨tag', ?_, rfl, rfl, hR tag'⟩, fun idTag hlists _ => ?_⟩
  · rw [h]
  · rwa [h] at htag'
  · rwa [h]

lemma trans (hR : ∀ tag tag' tag'', R tag tag' → R tag' tag'' → R tag tag'')
    (h : Follows R D w w') (h' : Follows R D w' w'') : Follows R D w w'' where
  next_le := h.next_le.trans h'.next_le
  origin := by
    intro tag'' htag''
    rcases h'.origin tag'' htag'' with ⟨tag', htag', hpk', hname', hR'⟩ | hnew
    · rcases h.origin tag' htag' with ⟨tag, htag, hpk, hname, hR₀⟩ | hnew
      · exact Or.inl ⟨tag, htag, hpk'.trans hpk, hname'.trans hname, hR _ _ _ hR₀ hR'⟩
      · exact Or.inr (hpk'.symm ▸ hnew)
    · exact Or.inr (h.next_le.trans hnew)
  lists := fun idTag hlists hD => h'.lists idTag (h.lists idTag hlists hD) hD

lemma mono (h : Follows R D w w')
    (hR : ∀ tag tag', tag'.ocppTagPk = tag.ocppTagPk → R tag tag' → R' tag tag')
    (hD : ∀ idTag, D idTag → D' idTag) : Follows R' D' w w' where
  next_le := h.next_le
  origin := by
    intro tag' htag'
    rcases h.origin tag' htag' with ⟨tag, htag, hpk, hname, hR₀⟩ | hnew
    · exact Or.inl ⟨tag, htag, hpk, hname, hR _ _ hpk hR₀⟩
    · exact Or.inr hnew
  lists := fun idTag hlists hD' => h.lists idTag hlists fun hD₀ => hD' (hD idTag hD₀)

/-- A tag whose number was given out before comes from a tag. -/
lemma exists_tag (h : Follows R D w w') {tag' : StEvEOcppTag} (htag' : tag' ∈ w'.tags.table.rows)
    (hlt : tag'.ocppTagPk < w.tags.table.next) : ∃ tag ∈ w.tags.table.rows,
      tag'.ocppTagPk = tag.ocppTagPk ∧ tag'.idTag = tag.idTag ∧ R tag tag' :=
  (h.origin tag' htag').resolve_right (Nat.not_le_of_lt hlt)

/-- The tag of a number is related to the one that had the number. -/
lemma related (h : Follows R D w w') {tag tag' : StEvEOcppTag} (htag : tag ∈ w.tags.table.rows)
    (htag' : tag' ∈ w'.tags.table.rows) (hpk : tag'.ocppTagPk = tag.ocppTagPk) : R tag tag' := by
  obtain ⟨old, hold, hpk', -, hR⟩ := h.exists_tag htag' (hpk ▸ w.tags.table.key_lt tag htag)
  exact SerialTable.eq_of_key hold htag (hpk'.symm.trans hpk) ▸ hR

lemma mirrorsExpiry (h : Follows R D w w') {m : UserMapping}
    (hlt : m.steveOcppTagPk < w.tags.table.next)
    (hR : ∀ tag tag', tag.ocppTagPk = m.steveOcppTagPk → R tag tag' →
      tag'.expiryDate = tag.expiryDate) (hm : w.tags.MirrorsExpiry m) :
    w'.tags.MirrorsExpiry m := by
  intro tag' htag' hpk'
  obtain ⟨tag, htag, hpk, -, hrel⟩ := h.exists_tag htag' (hpk'.symm ▸ hlt)
  have hself : tag.ocppTagPk = m.steveOcppTagPk := hpk.symm.trans hpk'
  rw [hR tag tag' hself hrel]
  exact hm tag htag hself

lemma mirrorsParent (h : Follows R D w w') {m : UserMapping}
    (hlt : m.steveOcppTagPk < w.tags.table.next)
    (hR : ∀ tag tag', tag.ocppTagPk = m.steveOcppTagPk → R tag tag' →
      tag'.parentIdTag = tag.parentIdTag) (hm : w.tags.MirrorsParent m) :
    w'.tags.MirrorsParent m := by
  intro tag' htag' hpk'
  obtain ⟨tag, htag, hpk, -, hrel⟩ := h.exists_tag htag' (hpk'.symm ▸ hlt)
  have hself : tag.ocppTagPk = m.steveOcppTagPk := hpk.symm.trans hpk'
  rw [hR tag tag' hself hrel]
  exact hm tag htag hself

/-- Where the tags stay in place and the rows are the same, the mirror is as good as before. -/
lemma mirrorsBut (h : Follows StEvEOcppTag.SamePlace D w w') (hrows : w'.mappings = w.mappings)
    (hm : w.MirrorsBut linked) : w'.MirrorsBut linked := by
  intro m hmem
  rw [hrows] at hmem
  have hlt : m.steveOcppTagPk < w.tags.table.next := w.numbered m hmem
  obtain ⟨hexpiry, hparent⟩ := hm m hmem
  exact ⟨h.mirrorsExpiry hlt (fun _ _ _ hsame => hsame.2) hexpiry,
    fun hout => h.mirrorsParent hlt (fun _ _ _ hsame => hsame.1) (hparent hout)⟩

/-- Tags that stay in place keep their listed parents, if new ones have listed parents, too. -/
lemma grounded (h : Follows StEvEOcppTag.SamePlace (fun _ => False) w w')
    (hnew : ∀ tag ∈ w'.tags.table.rows, w.tags.table.next ≤ tag.ocppTagPk →
      ∀ idTag, tag.parentIdTag = some idTag → known idTag → w'.tags.Lists idTag)
    (hg : w.Grounded known) : w'.Grounded known := by
  intro tag' htag' idTag hparent hknown
  rcases h.origin tag' htag' with ⟨tag, htag, -, -, hsame⟩ | hlate
  · exact h.lists idTag (hg tag htag idTag (hsame.1.symm.trans hparent) hknown) not_false
  · exact hnew tag' htag' hlate idTag hparent hknown

end Follows

/-- What a step keeps: it moves tags as `R` says, and the mirror stays as good as it has to. -/
structure Keeps (R : StEvEOcppTag → StEvEOcppTag → Prop) (D : String → Prop) (linked : List ℕ)
    (known : String → Prop) (w w' : TagWorld) : Prop where
  follows : Follows R D w w'
  mirrorsBut : w'.MirrorsBut linked
  grounded : w'.Grounded known

namespace Keeps

lemma of_tags (hR : ∀ tag, R tag tag) (h : w'.tags = w.tags) (hm : w'.MirrorsBut linked)
    (hg : w.Grounded known) : Keeps R D linked known w w' := by
  refine ⟨.of_tags hR h, hm, ?_⟩
  intro tag htag idTag hparent hknown
  rw [h] at htag ⊢
  exact hg tag htag idTag hparent hknown

lemma trans {linked' : List ℕ} (hR : ∀ tag tag' tag'', R tag tag' → R tag' tag'' → R tag tag'')
    (h : Keeps R D linked known w w') (h' : Keeps R D linked' known w' w'') :
    Keeps R D linked' known w w'' :=
  ⟨h.follows.trans hR h'.follows, h'.mirrorsBut, h'.grounded⟩

lemma mono (h : Keeps R D linked known w w')
    (hR : ∀ tag tag', tag'.ocppTagPk = tag.ocppTagPk → R tag tag' → R' tag tag')
    (hD : ∀ idTag, D idTag → D' idTag) : Keeps R' D' linked known w w' :=
  ⟨h.follows.mono hR hD, h.mirrorsBut, h.grounded⟩

end Keeps

/-! ## Requests -/

section Requests

variable {faults : SteveFaults} {update : StEvEOcppTag}

lemma tags_update (haccepts : faults.accepts (.update update) = true) :
    (w.sendAll faults [.update update]).tags = w.tags.updateOcppTag update := if_pos haccepts

lemma next_update :
    (w.sendAll faults [.update update]).tags.table.next = w.tags.table.next := by
  show (if faults.accepts (.update update) then w.tags.updateOcppTag update
    else w.tags).table.next = _
  split <;> rfl

/-- The update of a tag moves it, if it is carried out. -/
lemma follows_update : Follows
    (fun tag tag' => tag.SamePlace tag' ∨ tag.ocppTagPk = update.ocppTagPk ∧ update.SamePlace tag')
    (fun _ => False) w (w.sendAll faults [.update update]) := by
  by_cases haccepts : faults.accepts (.update update) = true
  · refine ⟨SteveTags.next_le_sendAll _, ?_, ?_⟩
    · intro tag' htag'
      rw [tags_update haccepts] at htag'
      obtain ⟨tag, htag, rfl⟩ := SteveTags.mem_updateOcppTag.mp htag'
      refine Or.inl ⟨tag, htag, ?_⟩
      split
      · next hpk => exact ⟨rfl, rfl, Or.inr ⟨hpk, rfl, rfl⟩⟩
      · exact ⟨rfl, rfl, Or.inl .refl⟩
    · rintro idTag ⟨tag, htag, rfl⟩ -
      rw [tags_update haccepts]
      refine ⟨_, SteveTags.mem_updateOcppTag.mpr ⟨tag, htag, rfl⟩, ?_⟩
      split <;> rfl
  · exact .of_tags (fun _ => Or.inl .refl) (if_neg haccepts)

/-- An update that names the place of its tag leaves every tag in place. -/
lemma follows_update_samePlace
    (h : ∀ tag ∈ w.tags.table.rows, tag.ocppTagPk = update.ocppTagPk → tag.SamePlace update) :
    Follows StEvEOcppTag.SamePlace (fun _ => False) w (w.sendAll faults [.update update]) := by
  refine ⟨follows_update.next_le, fun tag' htag' => ?_, follows_update.lists⟩
  rcases follows_update.origin tag' htag' with ⟨tag, htag, hpk, hname, hplace⟩ | hnew
  · refine Or.inl ⟨tag, htag, hpk, hname, ?_⟩
    rcases hplace with hsame | ⟨hself, hsame⟩
    · exact hsame
    · exact (h tag htag hself).trans hsame
  · exact Or.inr hnew

variable {idTag : String} {note parentIdTag : Option String} {limit : ℤ}

lemma follows_create (hfree : ¬w.tags.Lists idTag)
    (htags : w'.tags = w.tags.createOcppTag idTag note parentIdTag limit) :
    Follows StEvEOcppTag.SamePlace (fun _ => False) w w' := by
  have hmem := SteveTags.mem_createOcppTag hfree note parentIdTag limit
  refine ⟨?_, ?_, ?_⟩
  · rw [htags]
    exact SteveTags.next_le_createOcppTag
  · intro tag' htag'
    rw [htags] at htag'
    rcases (hmem tag').mp htag' with hold | rfl
    · exact Or.inl ⟨tag', hold, rfl, rfl, .refl⟩
    · exact Or.inr (Nat.le_refl _)
  · rintro idTag' ⟨tag, htag, hname⟩ -
    rw [htags]
    exact ⟨tag, (hmem tag).mpr (Or.inl htag), hname⟩

/-- The only new tag is the one that has been created. -/
lemma eq_of_next_le (hfree : ¬w.tags.Lists idTag) {tag : StEvEOcppTag}
    (htag : tag ∈ (w.tags.createOcppTag idTag note parentIdTag limit).table.rows)
    (hlate : w.tags.table.next ≤ tag.ocppTagPk) :
    tag = ⟨idTag, w.tags.table.next, note, parentIdTag, none, some limit, none⟩ := by
  rcases (SteveTags.mem_createOcppTag hfree note parentIdTag limit tag).mp htag with hold | hself
  · exact absurd (w.tags.table.key_lt tag hold) (Nat.not_lt_of_le hlate)
  · exact hself

end Requests

/-! ## Rows -/

section Rows

variable {sel : UserMapping → Bool} {f : UserMapping → UserMapping} {hid : ∀ m, (f m).id = m.id}
  {hpk : ∀ m, (f m).steveOcppTagPk = m.steveOcppTagPk}

lemma KeepsRows.trans (h : KeepsRows w w') (h' : KeepsRows w' w'') : KeepsRows w w'' := by
  intro m hm
  obtain ⟨m', hm', hid', hpk'⟩ := h m hm
  obtain ⟨m'', hm'', hid'', hpk''⟩ := h' m' hm'
  exact ⟨m'', hm'', hid''.trans hid', hpk''.trans hpk'⟩

lemma KeepsRows.of_mappings (h : w'.mappings = w.mappings) : KeepsRows w w' :=
  fun m hm => ⟨m, h ▸ hm, rfl, rfl⟩

lemma mem_updateMappings {m : UserMapping} :
    m ∈ (w.updateMappings sel f hid hpk).mappings.table.rows ↔
      ∃ old ∈ w.mappings.table.rows, m = if sel old then f old else old := by
  show m ∈ SerialTable.rewrite _ _ _ ↔ _
  exact SerialTable.mem_rewrite

lemma keepsRows_updateMappings : KeepsRows w (w.updateMappings sel f hid hpk) := by
  intro m hm
  refine ⟨_, mem_updateMappings.mpr ⟨m, hm, rfl⟩, ?_⟩
  split
  · exact ⟨hid m, hpk m⟩
  · exact ⟨rfl, rfl⟩

lemma keepsRows_insertMapping {row : UserMapping} (hfree : ¬w.mappings.HasPk row.steveOcppTagPk)
    (hlt : row.steveOcppTagPk < w.tags.table.next) : KeepsRows w (w.insertMapping row) :=
  fun m hm => ⟨m, (mem_insertMapping hfree hlt).mpr (Or.inl hm), rfl, rfl⟩

/-- A row mirrors the same place of the same tag. -/
def HasRowLike (w : TagWorld) (m' : UserMapping) : Prop :=
  ∃ m ∈ w.mappings.table.rows, m'.steveOcppTagPk = m.steveOcppTagPk ∧
    m'.steveParentIdTag = m.steveParentIdTag ∧ m'.steveExpiryDate = m.steveExpiryDate

lemma hasRowLike_self {m : UserMapping} (hm : m ∈ w.mappings.table.rows) : w.HasRowLike m :=
  ⟨m, hm, rfl, rfl, rfl⟩

lemma HasRowLike.lt {m : UserMapping} (h : w.HasRowLike m) :
    m.steveOcppTagPk < w.tags.table.next := by
  obtain ⟨old, hold, hpk, -, -⟩ := h
  exact hpk.symm ▸ w.numbered old hold

/-- What mirrors the place of a tag mirrors it in a row like it. -/
lemma MirrorsBut.place (h : w.MirrorsBut linked) {m : UserMapping} (hm : w.HasRowLike m) :
    w.tags.MirrorsExpiry m ∧ (m.steveOcppTagPk ∉ linked → w.tags.MirrorsParent m) := by
  obtain ⟨old, hold, hpk, hparent, hexpiry⟩ := hm
  obtain ⟨hexpiryOld, hparentOld⟩ := h old hold
  refine ⟨fun tag htag hself => ?_, fun hout tag htag hself => ?_⟩
  · rw [hexpiry]
    exact hexpiryOld tag htag (hself.trans hpk)
  · rw [hparent]
    exact hparentOld (hpk ▸ hout) tag htag (hself.trans hpk)

/-- Rows that are like rows of before mirror what these mirrored. -/
lemma mirrorsBut_of_hasRowLike (htags : w'.tags = w.tags)
    (hrows : ∀ m ∈ w'.mappings.table.rows, w.HasRowLike m) (h : w.MirrorsBut linked) :
    w'.MirrorsBut linked := by
  intro m hm
  rw [htags]
  exact h.place (hrows m hm)

/-- Every row is like one of before, or it is the row of a tag that had none, and mirrors no
place. -/
def AddsRow (w w' : TagWorld) (ocppTagPk : ℕ) : Prop :=
  ∀ m ∈ w'.mappings.table.rows, w.HasRowLike m ∨
    ¬w.mappings.HasPk ocppTagPk ∧ m.steveOcppTagPk = ocppTagPk ∧ m.steveParentIdTag = none ∧
      m.steveExpiryDate = none

/-- A statement that leaves the mirror columns alone keeps the mirror. -/
lemma hasRowLike_of_mem_updateMappings (hparent : ∀ m, (f m).steveParentIdTag = m.steveParentIdTag)
    (hexpiry : ∀ m, (f m).steveExpiryDate = m.steveExpiryDate) {m : UserMapping}
    (hm : m ∈ (w.updateMappings sel f hid hpk).mappings.table.rows) : w.HasRowLike m := by
  obtain ⟨old, hold, rfl⟩ := mem_updateMappings.mp hm
  refine ⟨old, hold, ?_⟩
  split
  · exact ⟨hpk old, hparent old, hexpiry old⟩
  · exact ⟨rfl, rfl, rfl⟩

/-- A row that is added mirrors the place of its tag, when that is no place. -/
lemma AddsRow.mirrorsBut {ocppTagPk : ℕ} (h : w.AddsRow w' ocppTagPk) (htags : w'.tags = w.tags)
    (hplace : ¬w.mappings.HasPk ocppTagPk → ∀ tag ∈ w.tags.table.rows,
      tag.ocppTagPk = ocppTagPk → tag.parentIdTag = none ∧ tag.expiryDate = none)
    (hm : w.MirrorsBut linked) : w'.MirrorsBut linked := by
  intro m' hm'
  rw [htags]
  rcases h m' hm' with hlike | ⟨hfree, hpk, hparent, hexpiry⟩
  · exact hm.place hlike
  · refine ⟨fun tag htag hself => ?_, fun _ tag htag hself => ?_⟩
    · rw [hexpiry, (hplace hfree tag htag (hself.trans hpk)).2]
    · rw [hparent, (hplace hfree tag htag (hself.trans hpk)).1]

end Rows

/-! ## Pushes -/

section Push

variable {faults : SteveFaults} {timestamp : ℕ → String} {rows : List UserMapping} {m : UserMapping}

lemma push_cons : w.push faults timestamp (m :: rows) =
    (w.push faults timestamp [m]).push faults timestamp rows := rfl

/-- What has been carried out has moved the tag to where the row says. -/
lemma mirrorsParent_push
    (haccepts : faults.accepts (.update (singleTagUpdate (timestamp m.id) m)) = true) :
    (w.push faults timestamp [m]).tags.MirrorsParent m := by
  intro tag' htag' hpk
  have htags : (w.push faults timestamp [m]).tags =
      w.tags.updateOcppTag (singleTagUpdate (timestamp m.id) m) := tags_update haccepts
  rw [htags] at htag'
  obtain ⟨tag, htag, rfl⟩ := SteveTags.mem_updateOcppTag.mp htag'
  split
  · rfl
  · next hother =>
    rw [if_neg hother] at hpk
    exact absurd hpk hother

/-- The push of rows that mirror the places of their tags leaves every tag in place. -/
lemma follows_push (h : ∀ m ∈ rows, w.tags.MirrorsExpiry m ∧ w.tags.MirrorsParent m)
    (hlt : ∀ m ∈ rows, m.steveOcppTagPk < w.tags.table.next) :
    Follows StEvEOcppTag.SamePlace (fun _ => False) w (w.push faults timestamp rows) := by
  induction rows generalizing w with
  | nil => exact .of_tags (fun _ => .refl) rfl
  | cons m rows ih =>
      obtain ⟨⟨hexpiry, hparent⟩, hrest⟩ := List.forall_mem_cons.mp h
      obtain ⟨-, hlt⟩ := List.forall_mem_cons.mp hlt
      have hone : Follows StEvEOcppTag.SamePlace (fun _ => False) w (w.push faults timestamp [m]) :=
        follows_update_samePlace fun tag htag hself =>
          ⟨hparent tag htag hself, hexpiry tag htag hself⟩
      rw [push_cons]
      refine hone.trans (fun _ _ _ => .trans) (ih ?_ ?_)
      · intro m' hm'
        obtain ⟨hexpiry', hparent'⟩ := hrest m' hm'
        exact ⟨hone.mirrorsExpiry (hlt m' hm') (fun _ _ _ hsame => hsame.2) hexpiry',
          hone.mirrorsParent (hlt m' hm') (fun _ _ _ hsame => hsame.1) hparent'⟩
      · intro m' hm'
        exact (hlt m' hm').trans_le hone.next_le

lemma next_push : (w.push faults timestamp rows).tags.table.next = w.tags.table.next := by
  induction rows generalizing w with
  | nil => rfl
  | cons m rows ih =>
      rw [push_cons, ih]
      exact next_update

variable (faults timestamp) in
/-- So it keeps the mirror as it is. -/
lemma keeps_push (h : ∀ m ∈ rows, w.tags.MirrorsExpiry m ∧ w.tags.MirrorsParent m)
    (hlt : ∀ m ∈ rows, m.steveOcppTagPk < w.tags.table.next) (hm : w.MirrorsBut [])
    (hg : w.Grounded known) :
    Keeps StEvEOcppTag.SamePlace (fun _ => False) [] known w (w.push faults timestamp rows) := by
  have hfollows : Follows StEvEOcppTag.SamePlace (fun _ => False) w
      (w.push faults timestamp rows) := follows_push h hlt
  refine ⟨hfollows, hfollows.mirrorsBut rfl hm, hfollows.grounded (fun tag htag hlate => ?_) hg⟩
  have hlt : tag.ocppTagPk < w.tags.table.next := next_push ▸ SerialTable.key_lt _ tag htag
  exact absurd hlt (Nat.not_lt_of_le hlate)

variable (faults timestamp) in
/-- Rows like those of the table mirror the places of their tags. -/
lemma keeps_push_rows (h : ∀ m ∈ rows, w.HasRowLike m) (hm : w.MirrorsBut [])
    (hg : w.Grounded known) :
    Keeps StEvEOcppTag.SamePlace (fun _ => False) [] known w (w.push faults timestamp rows) := by
  refine keeps_push faults timestamp (fun m hmem => ?_) (fun m hmem => (h m hmem).lt) hm hg
  obtain ⟨hexpiry, hparent⟩ := hm.place (h m hmem)
  exact ⟨hexpiry, hparent List.not_mem_nil⟩

end Push

end TagWorld

end ExpresSync
