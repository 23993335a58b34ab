import PathQuery.Catalog.Builtin
import PathQuery.DataType
import PathQuery.SortedList

namespace PathQuery

inductive ParameterType where
  | number
  | string
  | scalar
deriving DecidableEq, Repr

namespace ParameterType

def text : ParameterType → String
  | .number => "number"
  | .string => "string"
  | .scalar => "number, string or bool"

def accepts : ParameterType → DataType → Bool
  | .number, t => t == .number
  | .string, t => t == .string
  | .scalar, t => t.isScalar

end ParameterType

inductive Arity where
  | fixed (types : List ParameterType)
  | variadic (least : Nat) (type : ParameterType)
deriving DecidableEq, Repr

namespace Arity

def text : Arity → String
  | .fixed types => Nat.repr types.length
  | .variadic least _ => "at least " ++ Nat.repr least

def typeAt? : Arity → Nat → Option ParameterType
  | .fixed types, i => types[i]?
  | .variadic _ type, _ => some type

def accepts : Arity → Nat → Bool
  | .fixed types, n => types.length == n
  | .variadic least _, n => least ≤ n

def isFixed : Arity → Bool
  | .fixed _ => true
  | .variadic _ _ => false

end Arity

inductive SubjectType where
  | any
  | scalar
  | number
  | string
  | numbers
  | list
  | listOrRecord
deriving DecidableEq, Repr

namespace SubjectType

def text : SubjectType → String
  | .any => "any value"
  | .scalar => "a number, string or bool"
  | .number => "a number"
  | .string => "a string"
  | .numbers => "a number or list of numbers"
  | .list => "a list"
  | .listOrRecord => "a list or record"

def accepts (s : SubjectType) (t : ResolvedType) : Bool :=
  if t.dataType = .unknown then true
  else match s with
    | .any => true
    | .scalar => !t.isList && t.dataType.isScalar
    | .number => !t.isList && t.dataType == .number
    | .string => !t.isList && t.dataType == .string
    | .numbers => t.dataType == .number
    | .list => t.isList
    | .listOrRecord => t.isList || t.dataType == .record

end SubjectType

inductive ReturnType where
  | bool
  | number
  | string
  | element
  | unknown
deriving DecidableEq, Repr

def ReturnType.name : ReturnType → String
  | .bool => "bool"
  | .number => "number"
  | .string => "string"
  | .element => "element"
  | .unknown => "unknown"

structure Signature where
  subject : SubjectType
  arity : Arity
  returns : ReturnType
deriving DecidableEq, Repr

def Signature.passesThrough (s : Signature) : Bool := s.returns == .element

namespace Builtin

def signature : Builtin → Signature
  | .equal | .notEqual => ⟨.scalar, .fixed [.scalar], .bool⟩
  | .less | .lessOrEqual | .greater | .greaterOrEqual => ⟨.number, .fixed [.number], .bool⟩
  | .contains | .notContains | .startsWith | .notStartsWith | .endsWith | .notEndsWith =>
    ⟨.string, .fixed [.string], .bool⟩
  | .anyOf => ⟨.scalar, .variadic 1 .scalar, .bool⟩
  | .count => ⟨.listOrRecord, .fixed [], .number⟩
  | .any => ⟨.listOrRecord, .fixed [], .bool⟩
  | .first | .last => ⟨.list, .fixed [], .element⟩
  | .index => ⟨.list, .fixed [.number], .element⟩
  | .sum | .avg | .max | .min => ⟨.numbers, .variadic 0 .number, .number⟩
  | .add | .sub | .div | .mul | .mod => ⟨.number, .fixed [.number], .number⟩
  | .trimLeft | .trimRight | .left | .right => ⟨.string, .fixed [.number], .string⟩
  | .replaceAll | .replaceRegex => ⟨.string, .fixed [.string, .string], .string⟩
  | .doesMatchRegex => ⟨.string, .fixed [.string], .bool⟩
  | .parseJson | .parseXml | .parseYaml | .parseToml => ⟨.string, .fixed [], .unknown⟩
  | .asJson => ⟨.any, .fixed [], .string⟩

def callableOn (t : ResolvedType) : List String :=
  sortNames ((all.filter fun f => f.signature.subject.accepts t).map name)

end Builtin
end PathQuery
