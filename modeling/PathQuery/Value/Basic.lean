import PathQuery.Decimal.Basic

namespace PathQuery

inductive Kind where
  | null | bool | number | string | record | map | sequence
deriving DecidableEq, Repr

def Kind.name : Kind → String
  | .null => "null"
  | .bool => "bool"
  | .number => "number"
  | .string => "string"
  | .record => "record"
  | .map => "map"
  | .sequence => "sequence"

inductive Key where
  | bool (b : Bool)
  | number (d : Decimal)
  | string (s : String)
deriving DecidableEq, Repr

namespace Key

def boolText (b : Bool) : String := if b then "true" else "false"

def text : Key → String
  | .bool b => boolText b
  | .number d => d.text
  | .string s => s

def compare : Key → Key → Ordering
  | .bool a, .bool b => Ord.compare a b
  | .bool _, _ => .lt
  | .number _, .bool _ => .gt
  | .number a, .number b => a.compare b
  | .number _, .string _ => .lt
  | .string a, .string b => Ord.compare a b
  | .string _, _ => .gt

end Key

inductive Value where
  | null
  | bool (b : Bool)
  | number (d : Decimal)
  | string (s : String)
  | record (fields : List (String × Value))
  | map (entries : List (Key × Value))
  | sequence (items : List Value)
deriving Inhabited

abbrev Fields := List (String × Value)

abbrev Entries := List (Key × Value)

namespace Value

def kind : Value → Kind
  | .null => .null
  | .bool _ => .bool
  | .number _ => .number
  | .string _ => .string
  | .record _ => .record
  | .map _ => .map
  | .sequence _ => .sequence

def isNull : Value → Bool
  | .null => true
  | _ => false

def isTrue : Value → Bool
  | .bool b => b
  | _ => false

mutual

def isZero : Value → Bool
  | .null => true
  | .bool b => !b
  | .number d => d.isZero
  | .string s => s.isEmpty
  | .record fields => areZero fields
  | .map entries => entries.isEmpty
  | .sequence items => items.isEmpty

def areZero : List (String × Value) → Bool
  | [] => true
  | (_, v) :: fields => v.isZero && areZero fields

end

end Value
end PathQuery
