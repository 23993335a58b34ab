import PathQuery.Json.Printer
import PathQuery.Json.Reader
import PathQuery.Decimal.Reader
import PathQuery.Value.Lookup

namespace PathQuery

inductive NumberStyle where
  | bare | quoted
deriving DecidableEq, Repr

structure NumberOutOfRange where
  text : String
deriving DecidableEq, Repr

def NumberOutOfRange.message (e : NumberOutOfRange) : String :=
  "number '" ++ e.text ++ "' cannot be represented as an exact decimal"

def Decimal.read (text : String) : Except NumberOutOfRange Decimal :=
  match Decimal.read? text with
  | some d => .ok d
  | none => .error ⟨text⟩

namespace Value

mutual

def toJson (style : NumberStyle) : Value → Json
  | .null => .null
  | .bool b => .bool b
  | .number d =>
    match style with
    | .bare => .number d.text
    | .quoted => .string d.text
  | .string s => .string s
  | .record fields => .object (Json.sortMembers (fieldsToJson style fields))
  | .map entries => .object (Json.sortMembers (entriesToJson style entries))
  | .sequence items => .array (itemsToJson style items)

def fieldsToJson (style : NumberStyle) : List (String × Value) → List (String × Json)
  | [] => []
  | (name, v) :: fields => (name, v.toJson style) :: fieldsToJson style fields

def entriesToJson (style : NumberStyle) : List (Key × Value) → List (String × Json)
  | [] => []
  | (key, v) :: entries => (key.text, v.toJson style) :: entriesToJson style entries

def itemsToJson (style : NumberStyle) : List Value → List Json
  | [] => []
  | v :: items => v.toJson style :: itemsToJson style items

end

mutual

def ofJson : Json → Except NumberOutOfRange Value
  | .null => .ok .null
  | .bool b => .ok (.bool b)
  | .number text => (Decimal.read text).map .number
  | .string s => .ok (.string s)
  | .array items => (ofItems items).map .sequence
  | .object members => (ofMembers members).map .record

def ofItems : List Json → Except NumberOutOfRange (List Value)
  | [] => .ok []
  | j :: items => do
    let v ← ofJson j
    let vs ← ofItems items
    return v :: vs

def ofMembers : List (String × Json) → Except NumberOutOfRange (List (String × Value))
  | [] => .ok []
  | (name, j) :: members => do
    let v ← ofJson j
    let vs ← ofMembers members
    return (name, v) :: vs

end

def jsonText (style : NumberStyle) (v : Value) : String := (v.toJson style).text

def prettyJsonText (style : NumberStyle) (v : Value) : String := (v.toJson style).prettyText

end Value

inductive JsonFault where
  | malformed
  | number (e : NumberOutOfRange)
deriving DecidableEq, Repr

def Value.readJson (text : String) : Except JsonFault Value :=
  match Json.read? text with
  | none => .error .malformed
  | some j => (ofJson j.sorted).mapError .number

end PathQuery
