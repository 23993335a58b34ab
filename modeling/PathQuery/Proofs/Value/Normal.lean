import PathQuery.Proofs.Json.Members
import PathQuery.Value.Json

namespace PathQuery.Value

mutual

def norm : Value → Value
  | .record fields => .record (byName (normFields fields))
  | .map entries => .record (byName (normEntries entries))
  | .sequence items => .sequence (normItems items)
  | v => v

def normFields : Fields → Fields
  | [] => []
  | (name, v) :: fields => (name, v.norm) :: normFields fields

def normEntries : Entries → Fields
  | [] => []
  | (key, v) :: entries => (key.text, v.norm) :: normEntries entries

def normItems : List Value → List Value
  | [] => []
  | v :: items => v.norm :: normItems items

end

mutual

def IsKeyed : Value → Prop
  | .record fields => (fields.map (·.1)).Nodup ∧ FieldsKeyed fields
  | .map entries => (entries.map (·.1.text)).Nodup ∧ EntriesKeyed entries
  | .sequence items => ItemsKeyed items
  | _ => True

def FieldsKeyed : Fields → Prop
  | [] => True
  | (_, v) :: fields => v.IsKeyed ∧ FieldsKeyed fields

def EntriesKeyed : Entries → Prop
  | [] => True
  | (_, v) :: entries => v.IsKeyed ∧ EntriesKeyed entries

def ItemsKeyed : List Value → Prop
  | [] => True
  | v :: items => v.IsKeyed ∧ ItemsKeyed items

end

mutual

def depth : Value → Nat
  | .record fields => fieldsDepth fields + 1
  | .map entries => entriesDepth entries + 1
  | .sequence items => itemsDepth items + 1
  | _ => 0

def fieldsDepth : Fields → Nat
  | [] => 0
  | (_, v) :: fields => max v.depth (fieldsDepth fields)

def entriesDepth : Entries → Nat
  | [] => 0
  | (_, v) :: entries => max v.depth (entriesDepth entries)

def itemsDepth : List Value → Nat
  | [] => 0
  | v :: items => max v.depth (itemsDepth items)

end

theorem normFields_names (fields : Fields) :
    (normFields fields).map (·.1) = fields.map (·.1) := by
  induction fields with
  | nil => rfl
  | cons f fields ih => simp [normFields, ih]

theorem normEntries_names (entries : Entries) :
    (normEntries entries).map (·.1) = entries.map (·.1.text) := by
  induction entries with
  | nil => rfl
  | cons e entries ih => simp [normEntries, ih]

theorem fieldsDepth_perm {fields fields' : Fields} (h : fields.Perm fields') :
    fieldsDepth fields = fieldsDepth fields' := by
  induction h with
  | nil => rfl
  | cons f _ ih => simp only [fieldsDepth, ih]
  | swap f g fields => simp only [fieldsDepth, Nat.max_left_comm]
  | trans _ _ ih ih' => exact ih.trans ih'

mutual

theorem depth_norm : ∀ v : Value, v.norm.depth = v.depth
  | .null | .bool _ | .number _ | .string _ => rfl
  | .record fields => by
    rw [norm, depth, depth, fieldsDepth_perm (byName_perm _), fieldsDepth_norm]
  | .map entries => by
    rw [norm, depth, depth, fieldsDepth_perm (byName_perm _), entriesDepth_norm]
  | .sequence items => by rw [norm, depth, depth, itemsDepth_norm]
termination_by structural v => v

theorem fieldsDepth_norm : ∀ fields : Fields, fieldsDepth (normFields fields) = fieldsDepth fields
  | [] => rfl
  | (_, v) :: fields => by
    rw [normFields, fieldsDepth, fieldsDepth, depth_norm v, fieldsDepth_norm fields]
termination_by structural fields => fields

theorem entriesDepth_norm : ∀ entries : Entries,
    fieldsDepth (normEntries entries) = entriesDepth entries
  | [] => rfl
  | (_, v) :: entries => by
    rw [normEntries, fieldsDepth, entriesDepth, depth_norm v, entriesDepth_norm entries]
termination_by structural entries => entries

theorem itemsDepth_norm : ∀ items : List Value, itemsDepth (normItems items) = itemsDepth items
  | [] => rfl
  | v :: items => by rw [normItems, itemsDepth, itemsDepth, depth_norm v, itemsDepth_norm items]
termination_by structural items => items

end

section Json

variable (style : NumberStyle)

theorem fieldsToJson_eq_map (fields : Fields) :
    fieldsToJson style fields = fields.map fun f => (f.1, f.2.toJson style) := by
  induction fields with
  | nil => rfl
  | cons f fields ih => rw [fieldsToJson, ih, List.map_cons]

theorem fieldsToJson_names (fields : Fields) :
    (fieldsToJson style fields).map (·.1) = fields.map (·.1) := by
  simp [fieldsToJson_eq_map]

theorem sortMembers_byName {fields : Fields} (h : (fields.map (·.1)).Nodup) :
    Json.sortMembers (fieldsToJson style (byName fields)) =
      Json.sortMembers (fieldsToJson style fields) := by
  refine Json.sortMembers_congr ?_ ?_
  · rw [fieldsToJson_names]
    exact ((byName_perm fields).map (·.1)).nodup_iff.mpr h
  · rw [fieldsToJson_eq_map, fieldsToJson_eq_map]
    exact (byName_perm fields).map _

mutual

theorem toJson_norm : ∀ v : Value, v.IsKeyed → v.norm.toJson style = v.toJson style
  | .null, _ | .bool _, _ | .number _, _ | .string _, _ => rfl
  | .record fields, h => by
    have hnames : ((normFields fields).map (·.1)).Nodup := (normFields_names fields).symm ▸ h.1
    rw [norm, toJson, toJson, sortMembers_byName style hnames, fieldsToJson_norm fields h.2]
  | .map entries, h => by
    have hnames : ((normEntries entries).map (·.1)).Nodup :=
      (normEntries_names entries).symm ▸ h.1
    rw [norm, toJson, toJson, sortMembers_byName style hnames, entriesToJson_norm entries h.2]
  | .sequence items, h => by rw [norm, toJson, toJson, itemsToJson_norm items h]
termination_by structural v => v

theorem fieldsToJson_norm : ∀ fields : Fields, FieldsKeyed fields →
    fieldsToJson style (normFields fields) = fieldsToJson style fields
  | [], _ => rfl
  | (_, v) :: fields, h => by
    rw [normFields, fieldsToJson, fieldsToJson, toJson_norm v h.1, fieldsToJson_norm fields h.2]
termination_by structural fields => fields

theorem entriesToJson_norm : ∀ entries : Entries, EntriesKeyed entries →
    fieldsToJson style (normEntries entries) = entriesToJson style entries
  | [], _ => rfl
  | (_, v) :: entries, h => by
    rw [normEntries, fieldsToJson, entriesToJson, toJson_norm v h.1,
      entriesToJson_norm entries h.2]
termination_by structural entries => entries

theorem itemsToJson_norm : ∀ items : List Value, ItemsKeyed items →
    itemsToJson style (normItems items) = itemsToJson style items
  | [], _ => rfl
  | v :: items, h => by
    rw [normItems, itemsToJson, itemsToJson, toJson_norm v h.1, itemsToJson_norm items h.2]
termination_by structural items => items

end

end Json

mutual

def IsNormal : Value → Prop
  | .record fields => NamesIncrease fields ∧ FieldsNormal fields
  | .map _ => False
  | .sequence items => ItemsNormal items
  | _ => True

def FieldsNormal : Fields → Prop
  | [] => True
  | (_, v) :: fields => v.IsNormal ∧ FieldsNormal fields

def ItemsNormal : List Value → Prop
  | [] => True
  | v :: items => v.IsNormal ∧ ItemsNormal items

end

theorem fieldsNormal_iff {fields : Fields} :
    FieldsNormal fields ↔ ∀ f ∈ fields, f.2.IsNormal := by
  induction fields with
  | nil => simp [FieldsNormal]
  | cons f fields ih => rw [FieldsNormal, ih, List.forall_mem_cons]

theorem fieldsNormal_byName {fields : Fields} (h : FieldsNormal fields) :
    FieldsNormal (byName fields) :=
  fieldsNormal_iff.mpr fun f hf => fieldsNormal_iff.mp h f ((byName_perm fields).mem_iff.mp hf)

mutual

theorem norm_isNormal : ∀ v : Value, v.IsKeyed → v.norm.IsNormal
  | .null, _ | .bool _, _ | .number _, _ | .string _, _ => trivial
  | .record fields, h =>
    ⟨byName_increase ((normFields_names fields).symm ▸ h.1),
      fieldsNormal_byName (normFields_normal fields h.2)⟩
  | .map entries, h =>
    ⟨byName_increase ((normEntries_names entries).symm ▸ h.1),
      fieldsNormal_byName (normEntries_normal entries h.2)⟩
  | .sequence items, h => normItems_normal items h
termination_by structural v => v

theorem normFields_normal : ∀ fields : Fields, FieldsKeyed fields → FieldsNormal (normFields fields)
  | [], _ => trivial
  | (_, v) :: fields, h => ⟨norm_isNormal v h.1, normFields_normal fields h.2⟩
termination_by structural fields => fields

theorem normEntries_normal : ∀ entries : Entries, EntriesKeyed entries →
    FieldsNormal (normEntries entries)
  | [], _ => trivial
  | (_, v) :: entries, h => ⟨norm_isNormal v h.1, normEntries_normal entries h.2⟩
termination_by structural entries => entries

theorem normItems_normal : ∀ items : List Value, ItemsKeyed items → ItemsNormal (normItems items)
  | [], _ => trivial
  | v :: items, h => ⟨norm_isNormal v h.1, normItems_normal items h.2⟩
termination_by structural items => items

end

end PathQuery.Value
