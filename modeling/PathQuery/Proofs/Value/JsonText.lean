import PathQuery.Command.Basic
import PathQuery.Proofs.Json.RoundTrip
import PathQuery.Proofs.Result
import PathQuery.Proofs.Value.Normal

namespace PathQuery.Value

mutual

def unsignZeros : Value → Value
  | .number d => .number d.unsignZero
  | .record fields => .record (unsignFields fields)
  | .map entries => .map (unsignEntries entries)
  | .sequence items => .sequence (unsignItems items)
  | v => v

def unsignFields : Fields → Fields
  | [] => []
  | (name, v) :: fields => (name, v.unsignZeros) :: unsignFields fields

def unsignEntries : Entries → Entries
  | [] => []
  | (key, v) :: entries => (key, v.unsignZeros) :: unsignEntries entries

def unsignItems : List Value → List Value
  | [] => []
  | v :: items => v.unsignZeros :: unsignItems items

end

theorem fieldsToJson_increase (style : NumberStyle) {fields : Fields} (h : NamesIncrease fields) :
    NamesIncrease (fieldsToJson style fields) := by
  rw [fieldsToJson_eq_map]
  exact List.pairwise_map.mpr h

theorem toJson_record (style : NumberStyle) {fields : Fields} (h : NamesIncrease fields) :
    (Value.record fields).toJson style = .object (fieldsToJson style fields) := by
  rw [toJson, Json.sortMembers_of_increase (fieldsToJson_increase style h)]

section Style

variable (style : NumberStyle)

mutual

theorem depth_toJson : ∀ v : Value, v.IsNormal → (v.toJson style).depth = v.depth
  | .null, _ | .bool _, _ | .string _, _ => rfl
  | .number _, _ => by cases style <;> rfl
  | .record fields, h => by
    rw [toJson_record style h.1, Json.depth, depth, fieldsDepth_toJson fields h.2]
  | .sequence items, h => by rw [toJson, Json.depth, depth, itemsDepth_toJson items h]
termination_by structural v => v

theorem fieldsDepth_toJson : ∀ fields : Fields, FieldsNormal fields →
    Json.membersDepth (fieldsToJson style fields) = fieldsDepth fields
  | [], _ => rfl
  | (_, v) :: fields, h => by
    rw [fieldsToJson, Json.membersDepth, fieldsDepth, depth_toJson v h.1,
      fieldsDepth_toJson fields h.2]
termination_by structural fields => fields

theorem itemsDepth_toJson : ∀ items : List Value, ItemsNormal items →
    Json.itemsDepth (itemsToJson style items) = itemsDepth items
  | [], _ => rfl
  | v :: items, h => by
    rw [itemsToJson, Json.itemsDepth, itemsDepth, depth_toJson v h.1, itemsDepth_toJson items h.2]
termination_by structural items => items

end

mutual

theorem sorted_toJson : ∀ v : Value, v.IsNormal → (v.toJson style).sorted = v.toJson style
  | .null, _ | .bool _, _ | .string _, _ => rfl
  | .number _, _ => by cases style <;> rfl
  | .record fields, h => by
    rw [toJson_record style h.1, Json.sorted, sortedMembers_toJson fields h.2,
      Json.sortMembers_of_increase (fieldsToJson_increase style h.1)]
  | .sequence items, h => by rw [toJson, Json.sorted, sortedItems_toJson items h]
termination_by structural v => v

theorem sortedMembers_toJson : ∀ fields : Fields, FieldsNormal fields →
    Json.sortedMembers (fieldsToJson style fields) = fieldsToJson style fields
  | [], _ => rfl
  | (_, v) :: fields, h => by
    rw [fieldsToJson, Json.sortedMembers, sorted_toJson v h.1, sortedMembers_toJson fields h.2]
termination_by structural fields => fields

theorem sortedItems_toJson : ∀ items : List Value, ItemsNormal items →
    Json.sortedItems (itemsToJson style items) = itemsToJson style items
  | [], _ => rfl
  | v :: items, h => by
    rw [itemsToJson, Json.sortedItems, sorted_toJson v h.1, sortedItems_toJson items h.2]
termination_by structural items => items

end

end Style

mutual

theorem hasNumbers_toJson : ∀ v : Value, v.IsNormal → (v.toJson .bare).HasNumbers
  | .null, _ | .bool _, _ | .string _, _ => trivial
  | .number d, _ => Json.isNumber_text d
  | .record fields, h => by
    rw [toJson_record .bare h.1]
    exact membersHaveNumbers_toJson fields h.2
  | .sequence items, h => haveNumbers_toJson items h
termination_by structural v => v

theorem membersHaveNumbers_toJson : ∀ fields : Fields, FieldsNormal fields →
    Json.MembersHaveNumbers (fieldsToJson .bare fields)
  | [], _ => trivial
  | (_, v) :: fields, h => ⟨hasNumbers_toJson v h.1, membersHaveNumbers_toJson fields h.2⟩
termination_by structural fields => fields

theorem haveNumbers_toJson : ∀ items : List Value, ItemsNormal items →
    Json.HaveNumbers (itemsToJson .bare items)
  | [], _ => trivial
  | v :: items, h => ⟨hasNumbers_toJson v h.1, haveNumbers_toJson items h.2⟩
termination_by structural items => items

end

mutual

theorem ofJson_toJson : ∀ v : Value, v.IsNormal → ofJson (v.toJson .bare) = .ok v.unsignZeros
  | .null, _ | .bool _, _ | .string _, _ => rfl
  | .number d, _ => by
    rw [toJson, ofJson, Decimal.read, Decimal.read?_text]
    rfl
  | .record fields, h => by
    rw [toJson_record .bare h.1, ofJson, ofMembers_toJson fields h.2]
    rfl
  | .sequence items, h => by
    rw [toJson, ofJson, ofItems_toJson items h]
    rfl
termination_by structural v => v

theorem ofMembers_toJson : ∀ fields : Fields, FieldsNormal fields →
    ofMembers (fieldsToJson .bare fields) = .ok (unsignFields fields)
  | [], _ => rfl
  | (_, v) :: fields, h => by
    rw [fieldsToJson, ofMembers, ofJson_toJson v h.1, ofMembers_toJson fields h.2]
    rfl
termination_by structural fields => fields

theorem ofItems_toJson : ∀ items : List Value, ItemsNormal items →
    ofItems (itemsToJson .bare items) = .ok (unsignItems items)
  | [], _ => rfl
  | v :: items, h => by
    rw [itemsToJson, ofItems, ofJson_toJson v h.1, ofItems_toJson items h.2]
    rfl
termination_by structural items => items

end

theorem readInput_of_read? {v : Value} {text : String} (h : v.IsNormal)
    (hread : Json.read? text = some (v.toJson .bare)) : readInput text = .ok v.unsignZeros := by
  have hjson : readJson text = .ok v.unsignZeros := by
    rw [readJson, hread]
    simp only [sorted_toJson .bare v h, ofJson_toJson v h]
    rfl
  rw [readInput, hjson]
  rfl

theorem readInput_jsonText {v : Value} (hkeyed : v.IsKeyed) (hdepth : v.depth ≤ 127) :
    readInput (v.jsonText .bare) = .ok v.norm.unsignZeros ∧
      readInput (v.prettyJsonText .bare) = .ok v.norm.unsignZeros ∧
      ∀ w : Value, w.IsKeyed → w.norm = v.norm → w.jsonText .bare = v.jsonText .bare := by
  have hnormal := norm_isNormal v hkeyed
  have hnumbers := hasNumbers_toJson v.norm hnormal
  have hnested : (v.norm.toJson .bare).depth ≤ Json.maxDepth := by
    rw [depth_toJson .bare v.norm hnormal, depth_norm]
    exact hdepth
  have hjson := toJson_norm .bare v hkeyed
  refine ⟨?_, ?_, fun w hw heq => ?_⟩
  · rw [jsonText, ← hjson]
    exact readInput_of_read? hnormal (Json.read?_text hnumbers hnested)
  · rw [prettyJsonText, ← hjson]
    exact readInput_of_read? hnormal (Json.read?_prettyText hnumbers hnested)
  · rw [jsonText, jsonText, ← hjson, ← toJson_norm .bare w hw, heq]

theorem readInput_jsonText_nested :
    readInput ((Value.record [("b", .map [(.number ⟨false, 250, 2, by decide, by decide⟩,
        .sequence [.number ⟨true, 150, 2, by decide, by decide⟩])]),
        ("a", .number ⟨true, 0, 1, by decide, by decide⟩)]).jsonText .bare) =
      .ok (.record [("a", .number ⟨false, 0, 1, by decide, by decide⟩),
        ("b", .record [("2.50", .sequence [.number ⟨true, 150, 2, by decide, by decide⟩])])]) := by
  have h := (readInput_jsonText (v := .record [("b", .map [(.number ⟨false, 250, 2, by decide,
      by decide⟩, .sequence [.number ⟨true, 150, 2, by decide, by decide⟩])]),
      ("a", .number ⟨true, 0, 1, by decide, by decide⟩)])
    (by simp [IsKeyed, FieldsKeyed, EntriesKeyed, ItemsKeyed]) (by decide)).1
  have hkey : Key.text (.number ⟨false, 250, 2, by decide, by decide⟩) = "2.50" := by decide
  simpa [norm, normFields, normEntries, normItems, byName, nameLe, unsignZeros, unsignFields,
    unsignItems, Decimal.unsignZero, Decimal.isZero, hkey, List.mergeSort] using h

theorem readInput_jsonText_negativeZero :
    ¬∀ v : Value, v.IsKeyed → v.depth ≤ 127 → readInput (v.jsonText .bare) = .ok v.norm := by
  intro h
  have hread := h (.number ⟨true, 0, 28, by decide, by decide⟩) trivial (by decide)
  have hunsigned : readInput (jsonText .bare (.number ⟨true, 0, 28, by decide, by decide⟩)) =
      .ok (.number ⟨false, 0, 28, by decide, by decide⟩) :=
    readInput_of_read? (v := .number _) trivial
      (Json.read?_text (Json.isNumber_text _) (by decide))
  have heq := hunsigned.symm.trans hread
  simp [norm] at heq

end PathQuery.Value
