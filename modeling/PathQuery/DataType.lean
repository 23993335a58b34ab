namespace PathQuery

inductive DataType where
  | bool | string | number | record | unknown
deriving DecidableEq, Repr

namespace DataType

def name : DataType → String
  | .bool => "bool"
  | .string => "string"
  | .number => "number"
  | .record => "record"
  | .unknown => "unknown"

def isScalar : DataType → Bool
  | .bool | .string | .number => true
  | .record | .unknown => false

end DataType

structure ResolvedType where
  dataType : DataType
  isList : Bool
deriving DecidableEq, Repr

namespace ResolvedType

def single (t : DataType) : ResolvedType := ⟨t, false⟩

def list (t : DataType) : ResolvedType := ⟨t, true⟩

def text (t : ResolvedType) : String :=
  if t.isList then "list of " ++ t.dataType.name else t.dataType.name

def isPredicate (t : ResolvedType) : Bool := !t.isList && t.dataType == .bool

end ResolvedType
end PathQuery
