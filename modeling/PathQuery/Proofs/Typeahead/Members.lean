import PathQuery.Typeahead.Printer
import PathQuery.Proofs.Json.Blanks

namespace PathQuery

open Json

section Full

def ResolvedType.fullJson (t : ResolvedType) : Json :=
  .object [("dataType", .string t.dataType.name), ("array", .bool t.isList)]

def Suggestions.fullJson (s : Suggestions) : Json :=
  .object [("fields", .strings s.fields), ("functions", .strings s.functions),
    ("filters", .bool s.filters)]

mutual

def Note.fullJson : Note → Json
  | ⟨text, _, _, parts, type?, complaint?, suggestions?⟩ =>
    .object [("string", .string text), ("parts", .array (Note.listFullJson parts)),
      ("type", orNull (type?.map ResolvedType.fullJson)),
      ("error", orNull (complaint?.map fun c => .string c.message)),
      ("available", orNull (suggestions?.map Suggestions.fullJson))]

def Note.listFullJson : List Note → List Json
  | [] => []
  | n :: notes => n.fullJson :: Note.listFullJson notes

end

def DataMap.fullJson (d : DataMap) : Json :=
  .object [("string", .string d.text), ("requiredData", .strings d.required)]

def Validation.fullJson (v : Validation) : Json :=
  .object [("typeahead", v.note.fullJson), ("dataMap", v.dataMap.fullJson)]

end Full

section Kept

theorem Json.kept_strings (name : String) (ss : List String) :
    kept name (strings ss) = stringsMember name ss := by
  cases ss <;> rfl

theorem Json.kept_flag (name : String) (b : Bool) : kept name (.bool b) = flagMember name b := by
  cases b <;> rfl

theorem Suggestions.isBlank_toJson (s : Suggestions) : s.toJson.isBlank = s.isEmpty := by
  obtain ⟨fields, functions, filters⟩ := s
  cases fields <;> cases functions <;> cases filters <;> rfl

theorem Suggestions.kept_toJson (s? : Option Suggestions) :
    kept "available" (orNull (s?.map toJson)) = Suggestions.member s? := by
  cases s? with
  | none => rfl
  | some s =>
    show kept "available" s.toJson = _
    rw [kept, s.isBlank_toJson, Suggestions.member]

theorem Note.kept_listToJson (notes : List Note) :
    kept "parts" (.array (Note.listToJson notes)) = Note.partsMember notes := by
  cases notes <;> rfl

theorem Note.toJson_eq (n : Note) : n.toJson = .object (kept "string" (.string n.text) ++
    (kept "parts" (.array (Note.listToJson n.parts)) ++
      (kept "type" (orNull (n.type?.map ResolvedType.toJson)) ++
        (kept "error" (orNull (n.complaint?.map fun c => .string c.message)) ++
          (kept "available" (orNull (n.suggestions?.map Suggestions.toJson)) ++ []))))) := by
  obtain ⟨text, kind, rootField?, parts, type?, complaint?, suggestions?⟩ := n
  rw [Note.kept_listToJson, Suggestions.kept_toJson, Note.toJson, List.append_nil]
  cases type? <;> cases complaint? <;> simp [kept, orNull, isBlank, ResolvedType.toJson]

end Kept

section Pruned

theorem ResolvedType.withoutBlanks_fullJson (t : ResolvedType) :
    t.fullJson.withoutBlanks = t.toJson := by
  simp only [fullJson, toJson, withoutBlanks_object, membersWithoutBlanks, List.append_nil]
  rw [← kept_flag]
  rfl

theorem Suggestions.withoutBlanks_fullJson (s : Suggestions) :
    s.fullJson.withoutBlanks = s.toJson := by
  simp only [fullJson, toJson, withoutBlanks_object, membersWithoutBlanks, withoutBlanks_strings,
    kept_strings, List.append_nil, List.append_assoc]
  rw [← kept_flag]
  rfl

theorem DataMap.withoutBlanks_fullJson (d : DataMap) : d.fullJson.withoutBlanks = d.toJson := by
  simp only [fullJson, toJson, withoutBlanks_object, membersWithoutBlanks, withoutBlanks_strings,
    kept_strings, List.append_nil]
  rfl

mutual

theorem Note.withoutBlanks_fullJson : ∀ n : Note, n.fullJson.withoutBlanks = n.toJson
  | ⟨text, _, _, parts, type?, complaint?, suggestions?⟩ => by
    have hparts : (Json.array (Note.listFullJson parts)).withoutBlanks =
        .array (Note.listToJson parts) :=
      congrArg Json.array (Note.withoutBlanks_listFullJson parts)
    have hmessage (c : Complaint) : (Json.string c.message).withoutBlanks = .string c.message := rfl
    rw [Note.toJson_eq]
    simp only [Note.fullJson, withoutBlanks_object, membersWithoutBlanks, hparts,
      withoutBlanks_orNull ResolvedType.withoutBlanks_fullJson, withoutBlanks_orNull hmessage,
      withoutBlanks_orNull Suggestions.withoutBlanks_fullJson]
    rfl
termination_by structural n => n

theorem Note.withoutBlanks_listFullJson : ∀ notes : List Note,
    itemsWithoutBlanks (Note.listFullJson notes) = Note.listToJson notes
  | [] => rfl
  | n :: notes => by
    rw [Note.listFullJson, itemsWithoutBlanks, Note.withoutBlanks_fullJson n,
      Note.withoutBlanks_listFullJson notes, Note.listToJson]
termination_by structural notes => notes

end

theorem Validation.withoutBlanks_fullJson (v : Validation) :
    v.fullJson.withoutBlanks = v.toJson := by
  simp only [fullJson, toJson, withoutBlanks_object, membersWithoutBlanks,
    Note.withoutBlanks_fullJson, DataMap.withoutBlanks_fullJson, Note.toJson_eq]
  rfl

end Pruned

section Tidy

theorem Json.isTidy_strings {ss : List String} (h : (strings ss).isBlank = false) :
    (strings ss).IsTidy := by
  apply isTidy_array h
  intro j hj
  obtain ⟨t, -, rfl⟩ := List.mem_map.mp hj
  exact isTidy_string t

theorem Json.isTidy_of_mem_stringsMember {name : String} {ss : List String} :
    ∀ m ∈ stringsMember name ss, m.2.IsTidy := by
  rw [← kept_strings]
  exact isTidy_of_mem_kept isTidy_strings

theorem Json.isTidy_of_mem_flagMember {name : String} {b : Bool} :
    ∀ m ∈ flagMember name b, m.2.IsTidy := by
  cases b with
  | false => nofun
  | true => exact List.forall_mem_singleton.mpr isTidy_true

theorem ResolvedType.isTidy_toJson (t : ResolvedType) : t.toJson.IsTidy := by
  apply isTidy_object rfl
  exact List.forall_mem_cons.mpr ⟨isTidy_string _, isTidy_of_mem_flagMember⟩

theorem Suggestions.isTidy_toJson {s : Suggestions} (h : s.toJson.isBlank = false) :
    s.toJson.IsTidy := by
  apply isTidy_object h
  simp only [List.forall_mem_append]
  exact ⟨⟨isTidy_of_mem_stringsMember, isTidy_of_mem_stringsMember⟩, isTidy_of_mem_flagMember⟩

theorem DataMap.isTidy_toJson (d : DataMap) : d.toJson.IsTidy := by
  apply isTidy_object rfl
  exact List.forall_mem_cons.mpr ⟨isTidy_string _, isTidy_of_mem_stringsMember⟩

mutual

theorem Note.isTidy_toJson : ∀ n : Note, n.toJson.IsTidy
  | ⟨text, kind, rootField?, parts, type?, complaint?, suggestions?⟩ => by
    rw [Note.toJson_eq]
    apply isTidy_object
    · rfl
    · simp only [List.forall_mem_append]
      refine ⟨?_, ?_, ?_, ?_, ?_, nofun⟩
      · exact isTidy_of_mem_kept fun _ => isTidy_string text
      · exact isTidy_of_mem_kept fun h => isTidy_array h (Note.isTidy_listToJson parts)
      · exact isTidy_of_mem_kept (isTidy_orNull fun t _ => t.isTidy_toJson)
      · exact isTidy_of_mem_kept (isTidy_orNull fun c _ => isTidy_string c.message)
      · exact isTidy_of_mem_kept (isTidy_orNull fun s h => Suggestions.isTidy_toJson h)
termination_by structural n => n

theorem Note.isTidy_listToJson : ∀ notes : List Note, ∀ j ∈ Note.listToJson notes, j.IsTidy
  | [] => nofun
  | n :: notes => List.forall_mem_cons.mpr ⟨Note.isTidy_toJson n, Note.isTidy_listToJson notes⟩
termination_by structural notes => notes

end

theorem Validation.isTidy_toJson (v : Validation) : v.toJson.IsTidy := by
  apply isTidy_object rfl
  exact List.forall_mem_cons.mpr
    ⟨v.note.isTidy_toJson, List.forall_mem_singleton.mpr v.dataMap.isTidy_toJson⟩

end Tidy

section Nodes

inductive Note.IsIn : Note → Note → Prop where
  | self (n : Note) : IsIn n n
  | part {k m n : Note} (mem : m ∈ n.parts) (inner : IsIn k m) : IsIn k n

structure Note.IsWritten (n : Note) (j : Json) : Prop where
  string : j.member? "string" = some (.string n.text)
  parts : j.member? "parts" = none ↔ n.parts = []
  type : j.member? "type" = none ↔ n.type? = none
  error : j.member? "error" = none ↔ n.complaint? = none
  available : j.member? "available" = none ↔ ∀ s, n.suggestions? = some s →
    s.fields = [] ∧ s.functions = [] ∧ s.filters = false

theorem Note.toJson_mem_listToJson {n : Note} {notes : List Note} (h : n ∈ notes) :
    n.toJson ∈ Note.listToJson notes := by
  induction h with
  | head => exact List.mem_cons_self
  | tail m _ ih => exact List.mem_cons_of_mem _ ih

theorem Note.contains_part {m n : Note} (h : m ∈ n.parts) : n.toJson.Contains m.toJson := by
  have hitem := Note.toJson_mem_listToJson h
  have hkept : ("parts", Json.array (Note.listToJson n.parts)) ∈
      kept "parts" (.array (Note.listToJson n.parts)) := by
    cases hparts : Note.listToJson n.parts with
    | nil => simp [hparts] at hitem
    | cons => exact List.mem_singleton_self _
  rw [Note.toJson_eq n]
  exact .member (List.mem_append_right _ (List.mem_append_left _ hkept)) (.item hitem (.self _))

theorem Note.IsIn.contains {m n : Note} (h : m.IsIn n) : n.toJson.Contains m.toJson := by
  induction h with
  | self => exact .self _
  | part mem _ ih => exact (Note.contains_part mem).trans ih

theorem Suggestions.isEmpty_iff {s : Suggestions} :
    s.isEmpty = true ↔ s.fields = [] ∧ s.functions = [] ∧ s.filters = false := by
  simp [isEmpty, and_assoc]

theorem Note.isWritten (n : Note) : n.IsWritten n.toJson := by
  rw [Note.toJson_eq]
  constructor
  · rfl
  · rw [member?, lookup_kept_of_ne rfl, lookup_kept_eq_none]
    · cases n.parts <;> simp [Note.listToJson, isBlank]
    · rw [lookup_kept_of_ne rfl, lookup_kept_of_ne rfl, lookup_kept_of_ne rfl]
      rfl
  · rw [member?, lookup_kept_of_ne rfl, lookup_kept_of_ne rfl, lookup_kept_eq_none]
    · cases n.type? <;> simp [orNull, isBlank, ResolvedType.toJson]
    · rw [lookup_kept_of_ne rfl, lookup_kept_of_ne rfl]
      rfl
  · rw [member?, lookup_kept_of_ne rfl, lookup_kept_of_ne rfl, lookup_kept_of_ne rfl,
      lookup_kept_eq_none]
    · cases n.complaint? <;> simp [orNull, isBlank]
    · rw [lookup_kept_of_ne rfl]
      rfl
  · rw [member?, lookup_kept_of_ne rfl, lookup_kept_of_ne rfl, lookup_kept_of_ne rfl,
      lookup_kept_of_ne rfl, lookup_kept_eq_none]
    · cases n.suggestions? with
      | none => simp [orNull, isBlank]
      | some s => simpa [orNull, Suggestions.isBlank_toJson] using Suggestions.isEmpty_iff
    · rfl

end Nodes

end PathQuery
