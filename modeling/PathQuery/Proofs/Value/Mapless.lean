import PathQuery.Proofs.Value.Named
import PathQuery.Value.Json

namespace PathQuery.Value

mutual

def withoutMaps : Value → Value
  | .record fields => .record (fieldsWithoutMaps fields)
  | .map entries => .record (entriesWithoutMaps entries)
  | .sequence items => .sequence (itemsWithoutMaps items)
  | v => v

def fieldsWithoutMaps : Fields → Fields
  | [] => []
  | (name, v) :: fields => (name, v.withoutMaps) :: fieldsWithoutMaps fields

def entriesWithoutMaps : Entries → Fields
  | [] => []
  | (key, v) :: entries => (key.text, v.withoutMaps) :: entriesWithoutMaps entries

def itemsWithoutMaps : List Value → List Value
  | [] => []
  | v :: items => v.withoutMaps :: itemsWithoutMaps items

end

theorem fieldsWithoutMaps_eq_map (fields : Fields) :
    fieldsWithoutMaps fields = fields.map fun f => (f.1, f.2.withoutMaps) := by
  induction fields with
  | nil => rfl
  | cons f fields ih => rw [fieldsWithoutMaps, ih, List.map_cons]

theorem entriesWithoutMaps_eq_map (entries : Entries) :
    entriesWithoutMaps entries = (Entries.texts entries).map fun f => (f.1, f.2.withoutMaps) := by
  induction entries with
  | nil => rfl
  | cons e entries ih => rw [entriesWithoutMaps, ih, Entries.texts, Entries.texts]; rfl

theorem itemsWithoutMaps_eq_map (items : List Value) :
    itemsWithoutMaps items = items.map withoutMaps := by
  induction items with
  | nil => rfl
  | cons v items ih => rw [itemsWithoutMaps, ih, List.map_cons]

theorem lookup?_withoutMaps (v : Value) (name : String) :
    v.withoutMaps.lookup? name = (v.lookup? name).map withoutMaps := by
  cases v with
  | record fields =>
    rw [withoutMaps, lookup?, Fields.lookup?, fieldsWithoutMaps_eq_map, named?_map]
    rfl
  | map entries =>
    rw [withoutMaps, lookup?, Fields.lookup?, entriesWithoutMaps_eq_map, named?_map]
    rfl
  | _ => rfl

section Json

variable (style : NumberStyle)

mutual

theorem toJson_withoutMaps : ∀ v : Value, v.withoutMaps.toJson style = v.toJson style
  | .null | .bool _ | .number _ | .string _ => rfl
  | .record fields => by rw [withoutMaps, toJson, toJson, fieldsToJson_withoutMaps fields]
  | .map entries => by rw [withoutMaps, toJson, toJson, entriesToJson_withoutMaps entries]
  | .sequence items => by rw [withoutMaps, toJson, toJson, itemsToJson_withoutMaps items]
termination_by structural v => v

theorem fieldsToJson_withoutMaps : ∀ fields : Fields,
    fieldsToJson style (fieldsWithoutMaps fields) = fieldsToJson style fields
  | [] => rfl
  | (_, v) :: fields => by
    rw [fieldsWithoutMaps, fieldsToJson, fieldsToJson, toJson_withoutMaps v,
      fieldsToJson_withoutMaps fields]
termination_by structural fields => fields

theorem entriesToJson_withoutMaps : ∀ entries : Entries,
    fieldsToJson style (entriesWithoutMaps entries) = entriesToJson style entries
  | [] => rfl
  | (_, v) :: entries => by
    rw [entriesWithoutMaps, fieldsToJson, entriesToJson, toJson_withoutMaps v,
      entriesToJson_withoutMaps entries]
termination_by structural entries => entries

theorem itemsToJson_withoutMaps : ∀ items : List Value,
    itemsToJson style (itemsWithoutMaps items) = itemsToJson style items
  | [] => rfl
  | v :: items => by
    rw [itemsWithoutMaps, itemsToJson, itemsToJson, toJson_withoutMaps v,
      itemsToJson_withoutMaps items]
termination_by structural items => items

end

end Json

def IsMapless (v : Value) : Prop := v.withoutMaps = v

theorem isMapless_record {fields : Fields} (h : ∀ f ∈ fields, f.2.IsMapless) :
    (Value.record fields).IsMapless := by
  rw [IsMapless, withoutMaps, fieldsWithoutMaps_eq_map]
  have hid : fields.map (fun f => (f.1, f.2.withoutMaps)) = fields.map id :=
    List.map_congr_left fun f hf => Prod.ext rfl (h f hf)
  rw [hid, List.map_id]

theorem isMapless_sequence {items : List Value} (h : ∀ v ∈ items, v.IsMapless) :
    (Value.sequence items).IsMapless := by
  have hid : items.map withoutMaps = items.map id := List.map_congr_left h
  rw [IsMapless, withoutMaps, itemsWithoutMaps_eq_map, hid, List.map_id]

end PathQuery.Value
