import ExpresSync.Model.FeatureFlags
import Mathlib.Data.Finset.Card
import Mathlib.Data.List.Nodup

/-!
# Equality of JSON values

Two JSON values are the same when a reader that follows names and indices finds the same in both,
whatever the order of the names in an object.  `deepEqualJson` decides it (`deepEqualJson_iff`).
-/

namespace ExpresSync

/-- A step of a reader into a value. -/
inductive JsonStep where
  | index (i : ℕ)
  | name (k : String)

/-- What a reader sees of a value before it goes on. -/
inductive JsonShape where
  | null
  | bool (b : Bool)
  | number (text : String)
  | string (s : String)
  | array (length : ℕ)
  | object (names : Finset String)
deriving DecidableEq

namespace JsonValue

def child? : JsonStep → JsonValue → Option JsonValue
  | .index i, .array elements => elements[i]?
  | .name k, .object fields => (fields.find? fun field => decide (field.1 = k)).map Prod.snd
  | _, _ => none

def at? (value : JsonValue) : List JsonStep → Option JsonValue
  | [] => some value
  | step :: path => (value.child? step).bind fun child => child.at? path

def shape : JsonValue → JsonShape
  | .null => .null
  | .bool b => .bool b
  | .number text => .number text
  | .string s => .string s
  | .array elements => .array elements.length
  | .object fields => .object (fields.map Prod.fst).toFinset

end JsonValue

def SameJson (a b : JsonValue) : Prop :=
  ∀ path, (a.at? path).map JsonValue.shape = (b.at? path).map JsonValue.shape

lemma SameJson.refl (a : JsonValue) : SameJson a a := fun _ => rfl

lemma SameJson.symm {a b : JsonValue} (h : SameJson a b) : SameJson b a := fun path => (h path).symm

variable {a b x y : JsonValue} {step : JsonStep} {fields : List (String × JsonValue)}

lemma SameJson.shape_eq (h : SameJson a b) : a.shape = b.shape := Option.some.inj (h [])

lemma SameJson.child (h : SameJson a b) (ha : a.child? step = some x)
    (hb : b.child? step = some y) :
    SameJson x y := by
  intro path
  have hpath := h (step :: path)
  rwa [JsonValue.at?, JsonValue.at?, ha, hb, Option.bind_some, Option.bind_some] at hpath

/-- What is the same at every step, is the same. -/
lemma sameJson_of_children {R : JsonValue → JsonValue → Prop}
    (hstep : ∀ a b, R a b → a.shape = b.shape ∧ ∀ step,
      (a.child? step = none ∧ b.child? step = none) ∨
        ∃ x y, a.child? step = some x ∧ b.child? step = some y ∧ R x y) (h : R a b) :
    SameJson a b := by
  intro path
  induction path generalizing a b with
  | nil => exact congrArg some (hstep a b h).1
  | cons step path ih =>
      rw [JsonValue.at?, JsonValue.at?]
      rcases (hstep a b h).2 step with ⟨ha, hb⟩ | ⟨x, y, ha, hb, hxy⟩
      · rw [ha, hb]
      · rw [ha, hb]
        exact ih hxy

/-! ## Fields and elements -/

lemma find?_name_isSome {k : String} :
    (fields.find? fun field => decide (field.1 = k)).isSome = true ↔ k ∈ fields.map Prod.fst := by
  rw [List.find?_isSome, List.mem_map]
  simp only [decide_eq_true_eq]

lemma find?_name_eq_some {field : String × JsonValue} {k : String}
    (h : fields.find? (fun field => decide (field.1 = k)) = some field) :
    field ∈ fields ∧ field.1 = k :=
  ⟨List.mem_of_find?_eq_some h, by simpa using List.find?_some h⟩

/-- With different names every field is found. -/
lemma find?_name_of_mem (hnodup : (fields.map Prod.fst).Nodup) {field : String × JsonValue}
    (hfield : field ∈ fields) :
    fields.find? (fun other => decide (other.1 = field.1)) = some field := by
  obtain ⟨found, hfound⟩ := Option.isSome_iff_exists.mp
    (find?_name_isSome.mpr (List.mem_map_of_mem hfield))
  obtain ⟨hmem, hname⟩ := find?_name_eq_some hfound
  rw [hfound, List.inj_on_of_nodup_map hnodup hmem hfield hname]

lemma deepEqualElements_iff {as bs : List JsonValue} :
    deepEqualElements as bs = true ↔
      ∀ (i : ℕ) (x y : JsonValue), as[i]? = some x → bs[i]? = some y →
        deepEqualJson x y = true := by
  induction as generalizing bs with
  | nil => exact iff_of_true rfl fun i x y hx => nomatch hx
  | cons a as ih =>
      cases bs with
      | nil => exact iff_of_true rfl fun i x y _ hy => nomatch hy
      | cons b bs =>
          rw [deepEqualElements, Bool.and_eq_true, ih]
          constructor
          · rintro ⟨hhead, hrest⟩ i x y hx hy
            cases i with
            | zero =>
                obtain rfl := Option.some.inj hx
                obtain rfl := Option.some.inj hy
                exact hhead
            | succ i => exact hrest i x y hx hy
          · intro h
            exact ⟨h 0 a b rfl rfl, fun i x y hx hy => h (i + 1) x y hx hy⟩

lemma deepEqualFields_iff {others : List (String × JsonValue)} :
    deepEqualFields fields others = true ↔ ∀ field ∈ fields, ∃ other,
      others.find? (fun other => decide (other.1 = field.1)) = some other ∧
        deepEqualJson field.2 other.2 = true := by
  induction fields with
  | nil => exact iff_of_true rfl fun field hfield => nomatch hfield
  | cons field fields ih =>
      obtain ⟨k, value⟩ := field
      rw [deepEqualFields, List.forall_mem_cons]
      cases hfind : others.find? fun other => decide (other.1 = k) with
      | none =>
          refine iff_of_false Bool.false_ne_true ?_
          rintro ⟨⟨other, hother, -⟩, -⟩
          cases hother
      | some other =>
          dsimp only
          rw [Bool.and_eq_true, ih]
          refine and_congr_left fun _ => ?_
          constructor
          · intro h
            exact ⟨other, rfl, h⟩
          · rintro ⟨found, hfound, h⟩
            obtain rfl := Option.some.inj hfound
            exact h

lemma distinctNamesAll_iff {elements : List JsonValue} :
    JsonValue.distinctNamesAll elements = true ↔
      ∀ element ∈ elements, element.distinctNames = true := by
  induction elements with
  | nil => exact iff_of_true rfl fun element h => nomatch h
  | cons element elements ih =>
      rw [JsonValue.distinctNamesAll, Bool.and_eq_true, ih, List.forall_mem_cons]

lemma distinctNamesFields_iff :
    JsonValue.distinctNamesFields fields = true ↔
      ∀ field ∈ fields, field.2.distinctNames = true := by
  induction fields with
  | nil => exact iff_of_true rfl fun field h => nomatch h
  | cons field fields ih =>
      rw [JsonValue.distinctNamesFields, Bool.and_eq_true, ih, List.forall_mem_cons]

/-- The names in a part are different ones. -/
lemma distinctNames_child (h : a.distinctNames = true) (hx : a.child? step = some x) :
    x.distinctNames = true := by
  cases step with
  | index i =>
      cases a with
      | array elements => exact distinctNamesAll_iff.mp h x (List.mem_of_getElem? hx)
      | null | bool | number | string | object => cases hx
  | name k =>
      cases a with
      | object fields =>
          obtain ⟨field, hfield, rfl⟩ := Option.map_eq_some_iff.mp hx
          rw [JsonValue.distinctNames, Bool.and_eq_true, distinctNamesFields_iff] at h
          exact h.2 field (find?_name_eq_some hfield).1
      | null | bool | number | string | array => cases hx

lemma sizeOf_child (hx : a.child? step = some x) : sizeOf x < sizeOf a := by
  cases step with
  | index i =>
      cases a with
      | array elements =>
          have hlt := List.sizeOf_lt_of_mem (List.mem_of_getElem? hx)
          simp only [JsonValue.array.sizeOf_spec]
          omega
      | null | bool | number | string | object => cases hx
  | name k =>
      cases a with
      | object fields =>
          obtain ⟨⟨name, value⟩, hfield, rfl⟩ := Option.map_eq_some_iff.mp hx
          have hlt := List.sizeOf_lt_of_mem (find?_name_eq_some hfield).1
          simp only [JsonValue.object.sizeOf_spec, Prod.mk.sizeOf_spec] at hlt ⊢
          omega
      | null | bool | number | string | array => cases hx

/-- As many different names, all of which the other object has, are all of its names. -/
lemma names_eq {others : List (String × JsonValue)} (hnodup : (fields.map Prod.fst).Nodup)
    (hlength : fields.length = others.length)
    (hsub : ∀ field ∈ fields, field.1 ∈ others.map Prod.fst) :
    (fields.map Prod.fst).toFinset = (others.map Prod.fst).toFinset := by
  refine Finset.eq_of_subset_of_card_le (fun k hk => ?_) ?_
  · obtain ⟨field, hfield, rfl⟩ := List.mem_map.mp (List.mem_toFinset.mp hk)
    exact List.mem_toFinset.mpr (hsub field hfield)
  · rw [List.toFinset_card_of_nodup hnodup, List.length_map, hlength,
      ← List.length_map (f := Prod.fst)]
    exact List.toFinset_card_le _

/-! ## One step into two values -/

/-- What `deepEqualJson` holds for equal looks the same, and so do its parts. -/
lemma deepEqualJson_step (h : deepEqualJson a b = true) (hdistinct : a.distinctNames = true) :
    a.shape = b.shape ∧ ∀ step, (a.child? step = none ∧ b.child? step = none) ∨
      ∃ x y, a.child? step = some x ∧ b.child? step = some y ∧ deepEqualJson x y = true := by
  cases a <;> cases b <;> try cases h
  case null.null => exact ⟨rfl, fun step => Or.inl (by cases step <;> exact ⟨rfl, rfl⟩)⟩
  case bool.bool =>
    obtain rfl := of_decide_eq_true h
    exact ⟨rfl, fun step => Or.inl (by cases step <;> exact ⟨rfl, rfl⟩)⟩
  case number.number =>
    obtain rfl := of_decide_eq_true h
    exact ⟨rfl, fun step => Or.inl (by cases step <;> exact ⟨rfl, rfl⟩)⟩
  case string.string =>
    obtain rfl := of_decide_eq_true h
    exact ⟨rfl, fun step => Or.inl (by cases step <;> exact ⟨rfl, rfl⟩)⟩
  case array.array as bs =>
    rw [deepEqualJson, Bool.and_eq_true, decide_eq_true_eq, deepEqualElements_iff] at h
    obtain ⟨hlength, hall⟩ := h
    refine ⟨congrArg JsonShape.array hlength, fun step => ?_⟩
    cases step with
    | name k => exact Or.inl ⟨rfl, rfl⟩
    | index i =>
        by_cases hi : i < as.length
        · have hx : as[i]? = some as[i] := List.getElem?_eq_getElem hi
          have hj : i < bs.length := hlength ▸ hi
          have hy : bs[i]? = some bs[i] := List.getElem?_eq_getElem hj
          exact Or.inr ⟨_, _, hx, hy, hall i _ _ hx hy⟩
        · exact Or.inl ⟨List.getElem?_eq_none_iff.mpr (by omega),
            List.getElem?_eq_none_iff.mpr (by omega)⟩
  case object.object fields others =>
    rw [deepEqualJson, Bool.and_eq_true, decide_eq_true_eq, deepEqualFields_iff] at h
    obtain ⟨hlength, hall⟩ := h
    rw [JsonValue.distinctNames, Bool.and_eq_true, decide_eq_true_eq] at hdistinct
    have hnames := names_eq hdistinct.1 hlength fun field hfield => by
      obtain ⟨other, hother, -⟩ := hall field hfield
      exact find?_name_isSome.mp (Option.isSome_iff_exists.mpr ⟨other, hother⟩)
    refine ⟨congrArg JsonShape.object hnames, fun step => ?_⟩
    cases step with
    | index i => exact Or.inl ⟨rfl, rfl⟩
    | name k =>
        have hsome : (fields.find? fun field => decide (field.1 = k)).isSome =
            (others.find? fun other => decide (other.1 = k)).isSome := by
          rw [Bool.eq_iff_iff, find?_name_isSome, find?_name_isSome, ← List.mem_toFinset, hnames,
            List.mem_toFinset]
        cases hfield : fields.find? fun field => decide (field.1 = k) with
        | none =>
            rw [hfield, Option.isSome_none, eq_comm, Option.isSome_eq_false_iff,
              Option.isNone_iff_eq_none] at hsome
            exact Or.inl ⟨congrArg (Option.map Prod.snd) hfield,
              congrArg (Option.map Prod.snd) hsome⟩
        | some field =>
            obtain ⟨hmem, rfl⟩ := find?_name_eq_some hfield
            obtain ⟨other, hother, hdeep⟩ := hall field hmem
            exact Or.inr ⟨field.2, other.2, congrArg (Option.map Prod.snd) hfield,
              congrArg (Option.map Prod.snd) hother, hdeep⟩

/-- What looks the same and has equal parts, is equal to `deepEqualJson`. -/
lemma deepEqualJson_of_children (ha : a.distinctNames = true) (hb : b.distinctNames = true)
    (hshape : a.shape = b.shape)
    (hparts : ∀ step x y, a.child? step = some x → b.child? step = some y →
      deepEqualJson x y = true) : deepEqualJson a b = true := by
  cases a <;> cases b <;> try cases hshape
  case null.null => rfl
  case bool.bool => exact decide_eq_true rfl
  case number.number => exact decide_eq_true rfl
  case string.string => exact decide_eq_true rfl
  case array.array as bs =>
    rw [deepEqualJson, Bool.and_eq_true, decide_eq_true_eq, deepEqualElements_iff]
    exact ⟨JsonShape.array.inj hshape, fun i x y hx hy => hparts (.index i) x y hx hy⟩
  case object.object fields others =>
    have hnames : (fields.map Prod.fst).toFinset = (others.map Prod.fst).toFinset :=
      JsonShape.object.inj hshape
    rw [JsonValue.distinctNames, Bool.and_eq_true, decide_eq_true_eq] at ha hb
    rw [deepEqualJson, Bool.and_eq_true, decide_eq_true_eq, deepEqualFields_iff]
    constructor
    · have hcard := congrArg Finset.card hnames
      rwa [List.toFinset_card_of_nodup ha.1, List.toFinset_card_of_nodup hb.1, List.length_map,
        List.length_map] at hcard
    · intro field hfield
      have hk : field.1 ∈ (others.map Prod.fst).toFinset :=
        hnames ▸ List.mem_toFinset.mpr (List.mem_map_of_mem hfield)
      obtain ⟨other, hother⟩ := Option.isSome_iff_exists.mp
        (find?_name_isSome.mpr (List.mem_toFinset.mp hk))
      refine ⟨other, hother, hparts (.name field.1) _ _ ?_ (congrArg (Option.map Prod.snd) hother)⟩
      exact congrArg (Option.map Prod.snd) (find?_name_of_mem ha.1 hfield)

/-! ## All steps -/

lemma deepEqualJson_of_same (ha : a.distinctNames = true) (hb : b.distinctNames = true)
    (h : SameJson a b) : deepEqualJson a b = true := by
  induction hsize : sizeOf a using Nat.strong_induction_on generalizing a b with
  | _ size ih =>
    refine deepEqualJson_of_children ha hb h.shape_eq fun step x y hx hy => ?_
    exact ih (sizeOf x) (hsize ▸ sizeOf_child hx) (distinctNames_child ha hx)
      (distinctNames_child hb hy) (h.child hx hy) rfl

/-- `deepEqualJson` compares JSON values as their readers do. -/
theorem deepEqualJson_iff (a b : Json) :
    deepEqualJson a.value b.value = true ↔ SameJson a.value b.value := by
  refine ⟨fun h => ?_, deepEqualJson_of_same a.distinct b.distinct⟩
  refine sameJson_of_children (R := fun a b => deepEqualJson a b = true ∧ a.distinctNames = true)
    ?_ ⟨h, a.distinct⟩
  rintro a b ⟨hequal, hdistinct⟩
  obtain ⟨hshape, hparts⟩ := deepEqualJson_step hequal hdistinct
  refine ⟨hshape, fun step => (hparts step).imp_right ?_⟩
  rintro ⟨x, y, hx, hy, hxy⟩
  exact ⟨x, y, hx, hy, hxy, distinctNames_child hdistinct hx⟩

end ExpresSync
