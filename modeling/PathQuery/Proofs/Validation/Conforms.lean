import PathQuery.Proofs.Schema.Shape

namespace PathQuery

def DataType.Covers (maps : Bool) : DataType → Kind → Prop
  | .bool, k => k = .bool
  | .string, k => k = .string
  | .number, k => k = .number
  | .record, k => k = .record ∨ maps = true ∧ k = .map
  | .unknown, _ => False

inductive ResolvedType.Describes (maps : Bool) (t : ResolvedType) : Value → Prop where
  | one {v : Value} (single : t.isList = false) (covers : t.dataType.Covers maps v.kind) :
    Describes maps t v
  | list {vs : List Value} (isList : t.isList = true)
    (covers : ∀ v ∈ vs, t.dataType.Covers maps v.kind) : Describes maps t (.sequence vs)

namespace Shape

mutual

def isPlain : Shape → Bool
  | .bool | .string | .number => true
  | .unknown => false
  | .record fields => arePlain fields
  | .list element => !element.isList && element.isPlain

def arePlain : List (String × Shape) → Bool
  | [] => true
  | (_, s) :: fields => s.isPlain && arePlain fields

end

mutual

theorem isPlain_iff : ∀ s : Shape,
    s.isPlain = true ↔ s.everywhere isKnown = true ∧ s.everywhere isFlat = true
  | .bool | .string | .number => by simp [isPlain, everywhere, isKnown, isFlat]
  | .unknown => by simp [isPlain, everywhere, isKnown]
  | .record fields => by
    simp only [isPlain, everywhere, isKnown, isFlat, Bool.true_and]
    exact arePlain_iff fields
  | .list element => by
    simp only [isPlain, everywhere, isKnown, isFlat, Bool.true_and, Bool.and_eq_true]
    rw [isPlain_iff element]
    exact and_left_comm

theorem arePlain_iff : ∀ fields : List (String × Shape),
    arePlain fields = true ↔ everyField isKnown fields = true ∧ everyField isFlat fields = true
  | [] => by simp [arePlain, everyField]
  | (_, s) :: fields => by
    simp only [arePlain, everyField, Bool.and_eq_true]
    rw [isPlain_iff s, arePlain_iff fields]
    exact and_and_and_comm

end

theorem isPlain_field {s s' : Shape} {name : String} (h : s.isPlain = true)
    (hf : s.field? name = some s') : s'.isPlain = true := by
  rw [isPlain_iff] at h ⊢
  exact ⟨everywhere_field h.1 hf, everywhere_field h.2 hf⟩

end Shape

inductive Conforms (maps : Bool) : Shape → Value → Prop where
  | bool (b : Bool) : Conforms maps .bool (.bool b)
  | string (s : String) : Conforms maps .string (.string s)
  | number (d : Decimal) : Conforms maps .number (.number d)
  | record {fields : List (String × Shape)} {v : Value} (answer : String → Value)
    (covers : DataType.record.Covers maps v.kind)
    (answers : ∀ name s, named? fields name = some s → v.lookup? name = some (answer name))
    (conforms : ∀ name s, named? fields name = some s → Conforms maps s (answer name)) :
    Conforms maps (.record fields) v
  | list {element : Shape} {vs : List Value} (conforms : ∀ v ∈ vs, Conforms maps element v) :
    Conforms maps (.list element) (.sequence vs)

namespace Conforms

variable {maps : Bool} {s s' : Shape} {v : Value} {name : String}

theorem record_iff {fields : List (String × Shape)} :
    Conforms maps (.record fields) v ↔ DataType.record.Covers maps v.kind ∧
      ∀ name s, named? fields name = some s → ∃ w, v.lookup? name = some w ∧ Conforms maps s w := by
  constructor
  · rintro (_ | _ | _ | ⟨answer, covers, answers, conforms⟩ | _)
    exact ⟨covers, fun name s h => ⟨answer name, answers name s h, conforms name s h⟩⟩
  · rintro ⟨covers, h⟩
    refine .record (fun name => (v.lookup? name).getD .null) covers ?_ ?_
    · intro name s hs
      obtain ⟨w, hw, -⟩ := h name s hs
      rw [hw]
      rfl
    · intro name s hs
      obtain ⟨w, hw, hc⟩ := h name s hs
      rwa [hw]

theorem record_of_entries {entries : List (String × Shape × Value)}
    (h : ∀ e ∈ entries, Conforms maps e.2.1 e.2.2) :
    Conforms maps (.record (entries.map fun e => (e.1, e.2.1)))
      (.record (entries.map fun e => (e.1, e.2.2))) := by
  refine record_iff.mpr ⟨.inl rfl, fun name s hs => ?_⟩
  rw [named?_map entries Prod.fst] at hs
  obtain ⟨part, hpart, rfl⟩ := Option.map_eq_some_iff.mp hs
  obtain ⟨e, he, rfl⟩ := exists_mem_of_named? hpart
  refine ⟨e.2.2, ?_, h e he⟩
  simp only [Value.lookup?, Fields.lookup?, named?_map entries Prod.snd, hpart, Option.map_some]

theorem list_iff {element : Shape} : Conforms maps (.list element) v ↔
    ∃ vs, v = .sequence vs ∧ ∀ w ∈ vs, Conforms maps element w := by
  constructor
  · rintro (_ | _ | _ | _ | h)
    exact ⟨_, rfl, h⟩
  · rintro ⟨vs, rfl, h⟩
    exact .list h

theorem covers (h : Conforms maps s v) (hs : s.isList = false) :
    s.type.dataType.Covers maps v.kind := by
  cases h with
  | bool | string | number => rfl
  | record answer covers answers conforms => exact covers
  | list => cases hs

theorem field (h : Conforms maps s v) (hf : s.field? name = some s') :
    ∃ w, v.lookup? name = some w ∧ Conforms maps s' w := by
  cases h with
  | record answer covers answers conforms => exact ⟨_, answers name s' hf, conforms name s' hf⟩
  | _ => cases hf

end Conforms

end PathQuery
