import PathQuery.Evaluation.Basic
import PathQuery.Proofs.Catalog.Faults
import PathQuery.Proofs.Validation.Conforms
import PathQuery.Validation

namespace PathQuery

variable {maps : Bool} {v : Value} {name : String}

def Failure.IsBenign : Failure → Prop
  | .keyNotFound _ => True
  | .call _ cause => cause.IsBenign
  | _ => False

theorem DataType.Covers.isNull_eq_false {t : DataType} (h : t.Covers maps v.kind) :
    v.isNull = false := by
  cases v <;> cases t <;> simp_all [DataType.Covers, Value.kind, Value.isNull]

theorem DataType.Covers.kind_ne_sequence {t : DataType} {k : Kind} (h : t.Covers maps k) :
    k ≠ .sequence := by
  rintro rfl
  cases t <;> simp_all [DataType.Covers]

namespace Shape

variable {s : Shape}

theorem isPlain_innermost (h : s.isPlain = true) : s.innermost.isPlain = true := by
  rw [isPlain_iff] at h ⊢
  exact ⟨everywhere_innermost h.1, everywhere_innermost h.2⟩

theorem dataType_ne_unknown (h : s.isPlain = true) : s.type.dataType ≠ .unknown := by
  rw [isPlain_iff] at h
  exact dataType_of_known h.1

end Shape

namespace Standing

structure IsPlain (s : Standing) : Prop where
  known : s.type.dataType ≠ .unknown
  shape : s.type.dataType = .record → ∃ shape, s.shape? = some shape ∧ shape.isPlain = true

structure Holds (maps : Bool) (s : Standing) (v : Value) : Prop where
  covers : s.type.dataType.Covers maps v.kind
  conforms : s.type.dataType = .record → ∀ shape, s.shape? = some shape → Conforms maps shape v

-- The values that a standing stands for: one value, or a list of them.
inductive Describes (maps : Bool) (s : Standing) : Value → Prop where
  | one {v : Value} (single : s.type.isList = false) (holds : s.Holds maps v) : Describes maps s v
  | list {vs : List Value} (isList : s.type.isList = true) (holds : ∀ v ∈ vs, s.Holds maps v) :
    Describes maps s (.sequence vs)

structure Fits (maps : Bool) (s : Standing) (v : Value) : Prop where
  plain : s.IsPlain
  describes : s.Describes maps v

-- The run takes each value of the one standing to a value of the other.
structure Leads (maps : Bool) (s t : Standing) (run : Value → Result) : Prop where
  plain : t.IsPlain
  gives : ∀ v, s.Describes maps v → Gives (t.Describes maps) Failure.IsBenign (run v)

variable {s t : Standing}

theorem Describes.type (h : s.Describes maps v) : s.type.Describes maps v := by
  cases h with
  | one single holds => exact .one single holds.covers
  | list isList holds => exact .list isList fun w hw => (holds w hw).covers

theorem Describes.isNull_eq_false (h : s.Describes maps v) : v.isNull = false := by
  cases h with
  | one single holds => exact holds.covers.isNull_eq_false
  | list => rfl

theorem Describes.of_sequence {vs : List Value} (h : s.Describes maps (.sequence vs)) :
    ∀ v ∈ vs, s.Holds maps v := by
  cases h with
  | one single holds => exact absurd rfl holds.covers.kind_ne_sequence
  | list isList holds => exact holds

theorem Fits.atRoot (h : s.Fits maps v) (b : Bool) : { s with atRoot := b }.Fits maps v := by
  refine ⟨⟨h.plain.known, h.plain.shape⟩, ?_⟩
  cases h.describes with
  | one single holds => exact .one single ⟨holds.covers, holds.conforms⟩
  | list isList holds => exact .list isList fun w hw => ⟨(holds w hw).covers, (holds w hw).conforms⟩

theorem Holds.element (hp : s.IsPlain) (h : s.Holds maps v) : s.element.Fits maps v :=
  ⟨⟨hp.known, hp.shape⟩, .one rfl ⟨h.covers, h.conforms⟩⟩

section Shapes

variable {shape : Shape}

theorem ofShape_isPlain (h : shape.isPlain = true) (isList : Bool) :
    (ofShape shape isList).IsPlain :=
  ⟨Shape.dataType_ne_unknown h, fun _ => ⟨_, rfl, Shape.isPlain_innermost h⟩⟩

theorem ofShape_holds {isList : Bool} (h : Conforms maps shape.innermost v) :
    (ofShape shape isList).Holds maps v := by
  refine ⟨?_, fun _ inner hinner => Option.some.inj hinner ▸ h⟩
  have hc := h.covers (Shape.isList_innermost shape)
  rwa [Shape.dataType_innermost] at hc

theorem ofShape_fits (hp : shape.isPlain = true) (h : Conforms maps shape v) :
    (ofShape shape false).Fits maps v := by
  refine ⟨ofShape_isPlain hp false, ?_⟩
  cases hs : shape.isList with
  | true =>
    cases shape with
    | list element =>
      simp only [Shape.isPlain, Bool.and_eq_true, Bool.not_eq_true'] at hp
      obtain ⟨vs, rfl, hvs⟩ := Conforms.list_iff.mp h
      refine .list rfl fun w hw => ofShape_holds ?_
      rw [Shape.innermost, Shape.innermost_of_not_list hp.1]
      exact hvs w hw
    | _ => cases hs
  | false =>
    refine .one ?_ (ofShape_holds (by rwa [Shape.innermost_of_not_list hs]))
    cases shape with
    | list element => cases hs
    | _ => rfl

theorem ofShape_describes_list {vs : List Value} (hs : shape.isList = false)
    (h : ∀ v ∈ vs, Conforms maps shape v) : (ofShape shape true).Describes maps (.sequence vs) := by
  refine .list (Bool.or_true _) fun w hw => ofShape_holds ?_
  rw [Shape.innermost_of_not_list hs]
  exact h w hw

end Shapes

section Fields

variable {g : Ground}

theorem field_eq_ok (hp : s.IsPlain) (h : s.field g name = .ok t) :
    s.type.dataType = .record ∧ ∃ shape shape', s.shape? = some shape ∧ shape.isPlain = true ∧
      shape.field? name = some shape' ∧ (s.type.isList && shape'.isList) = false ∧
      t = ofShape shape' s.type.isList := by
  simp only [field] at h
  split at h
  · cases h
  · split at h
    · next hu => exact absurd hu hp.known
    · next hr =>
      obtain ⟨shape, hs, hshape⟩ := hp.shape hr
      simp only [hs, Option.bind_some] at h
      split at h
      · cases h
      · next shape' hf =>
        split at h
        · cases h
        · next hl =>
          cases h
          exact ⟨hr, shape, shape', hs, hshape, hf, Bool.eq_false_iff.mpr hl, rfl⟩
    · cases h

theorem Holds.lookup {shape shape' : Shape} (h : s.Holds maps v) (hr : s.type.dataType = .record)
    (hs : s.shape? = some shape) (hf : shape.field? name = some shape') :
    ∃ w, v.lookup? name = some w ∧ Conforms maps shape' w :=
  (h.conforms hr shape hs).field hf

theorem readField_of_lookup {w : Value} (hv : DataType.record.Covers maps v.kind)
    (h : v.lookup? name = some w) : v.readField name = .ok w := by
  cases v with
  | record | map => simp only [Value.readField, h]
  | _ => simp [DataType.Covers, Value.kind] at hv

theorem readField_sequence {vs : List Value} {p : Value → Prop}
    (h : ∀ v ∈ vs, ∀ w, v.lookup? name = some w → p w) :
    Gives (fun r => ∃ found, r = .sequence found ∧ ∀ w ∈ found, p w) Failure.IsBenign
      (Value.readField name (.sequence vs)) := by
  have hall : ∀ w ∈ vs.filterMap (·.lookup? name), p w := by
    intro w hw
    obtain ⟨v, hv, hvw⟩ := List.mem_filterMap.mp hw
    exact h v hv w hvw
  simp only [Value.readField]
  split
  · trivial
  · exact ⟨_, rfl, hall⟩

theorem IsPlain.field (h : s.IsPlain) (ht : s.field g name = .ok t) :
    s.Leads maps t (·.readField name) := by
  obtain ⟨hr, shape, shape', hs, hshape, hf, hlists, rfl⟩ := field_eq_ok h ht
  have hshape' := Shape.isPlain_field hshape hf
  refine ⟨ofShape_isPlain hshape' _, fun v hv => ?_⟩
  cases hv with
  | one single holds =>
    obtain ⟨w, hw, hc⟩ := holds.lookup hr hs hf
    rw [readField_of_lookup (hr ▸ holds.covers) hw, single]
    exact (ofShape_fits hshape' hc).describes
  | list isList holds =>
    rw [isList] at hlists ⊢
    refine (readField_sequence (p := Conforms maps shape') fun w hw u hu => ?_).mono ?_
    · obtain ⟨u', hu', hc⟩ := (holds w hw).lookup hr hs hf
      rw [hu] at hu'
      exact Option.some.inj hu' ▸ hc
    · rintro r ⟨found, rfl, hfound⟩
      exact ofShape_describes_list hlists hfound

end Fields

section Filters

variable {bad : Failure → Prop} {test : Value → Result} {vs : List Value}

theorem keep_gives (h : ∀ v ∈ vs, Gives (fun _ => True) bad (test v)) :
    Gives (fun kept => ∀ w ∈ kept, w ∈ vs) bad (Value.keep test vs) := by
  induction vs with
  | nil => exact fun w hw => hw
  | cons v vs ih =>
    simp only [Value.keep]
    refine (h v (List.mem_cons_self ..)).bind fun w _ => ?_
    refine (ih fun u hu => h u (List.mem_cons_of_mem _ hu)).bind fun kept hkept => ?_
    cases w.isTrue with
    | true => exact fun u hu => List.cons_subset_cons v hkept hu
    | false => exact fun u hu => List.mem_cons_of_mem _ (hkept u hu)

theorem IsPlain.filterBy (h : s.IsPlain) (hs : s.type.isList = true)
    (ht : ∀ w, s.Holds maps w → Gives (fun _ => True) Failure.IsBenign (test w)) :
    s.Leads maps s (·.filterBy test) := by
  refine ⟨h, fun v hv => ?_⟩
  cases hv with
  | one single holds => simp [hs] at single
  | list isList holds =>
    refine (keep_gives fun w hw => ht w (holds w hw)).map fun kept hkept => ?_
    exact .list hs fun w hw => holds w (hkept w hw)

end Filters

end Standing

end PathQuery
