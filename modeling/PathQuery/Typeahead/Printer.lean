import PathQuery.Json.Basic
import PathQuery.Typeahead.Note

namespace PathQuery

namespace Json

def stringsMember (name : String) (ss : List String) : List (String × Json) :=
  if ss.isEmpty then [] else [(name, .strings ss)]

def flagMember (name : String) (b : Bool) : List (String × Json) :=
  if b then [(name, .bool true)] else []

end Json

def ResolvedType.toJson (t : ResolvedType) : Json :=
  .object (("dataType", .string t.dataType.name) :: Json.flagMember "array" t.isList)

def Suggestions.toJson (s : Suggestions) : Json :=
  .object (Json.stringsMember "fields" s.fields ++ Json.stringsMember "functions" s.functions ++
    Json.flagMember "filters" s.filters)

def Suggestions.member (s? : Option Suggestions) : List (String × Json) :=
  match s? with
  | some s => if s.isEmpty then [] else [("available", s.toJson)]
  | none => []

namespace Note

mutual

def toJson : Note → Json
  | ⟨text, _, _, parts, type?, complaint?, suggestions?⟩ =>
    .object (("string", .string text) :: partsMember parts ++
      (type?.toList.map fun t => ("type", t.toJson)) ++
      (complaint?.toList.map fun c => ("error", .string c.message)) ++
      Suggestions.member suggestions?)

def partsMember : List Note → List (String × Json)
  | [] => []
  | n :: notes => [("parts", .array (n.toJson :: listToJson notes))]

def listToJson : List Note → List Json
  | [] => []
  | n :: notes => n.toJson :: listToJson notes

end

end Note

def DataMap.toJson (d : DataMap) : Json :=
  .object (("string", .string d.text) :: Json.stringsMember "requiredData" d.required)

def Validation.toJson (v : Validation) : Json :=
  .object [("typeahead", v.note.toJson), ("dataMap", v.dataMap.toJson)]

end PathQuery
