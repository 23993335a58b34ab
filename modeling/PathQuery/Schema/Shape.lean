import PathQuery.DataType
import PathQuery.Value.Lookup

namespace PathQuery

inductive Shape where
  | bool
  | string
  | number
  | unknown
  | record (fields : List (String × Shape))
  | list (element : Shape)
deriving Inhabited

namespace Shape

def isList : Shape → Bool
  | .list _ => true
  | _ => false

def type : Shape → ResolvedType
  | .bool => .single .bool
  | .string => .single .string
  | .number => .single .number
  | .unknown => .single .unknown
  | .record _ => .single .record
  | .list element => ⟨element.type.dataType, true⟩

def innermost : Shape → Shape
  | .list element => element.innermost
  | s => s

def fields : Shape → List (String × Shape)
  | .record fields => fields
  | _ => []

def field? (s : Shape) (name : String) : Option Shape := named? s.fields name

def element? : Shape → Option Shape
  | .list element => some element
  | _ => none

end Shape
end PathQuery
