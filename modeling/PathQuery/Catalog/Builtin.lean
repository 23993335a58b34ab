namespace PathQuery

inductive Builtin where
  | equal | notEqual
  | less | lessOrEqual | greater | greaterOrEqual
  | contains | notContains | startsWith | notStartsWith | endsWith | notEndsWith
  | anyOf
  | count | any | first | last | index
  | sum | avg | max | min
  | add | sub | div | mul | mod
  | trimLeft | trimRight | left | right
  | replaceAll | replaceRegex | doesMatchRegex
  | parseJson | parseXml | parseYaml | parseToml | asJson
deriving DecidableEq, Repr

namespace Builtin

def all : List Builtin :=
  [.equal, .notEqual, .less, .lessOrEqual, .greater, .greaterOrEqual, .contains, .notContains,
    .startsWith, .notStartsWith, .endsWith, .notEndsWith, .anyOf, .count, .any, .first, .last,
    .index, .sum, .avg, .max, .min, .add, .sub, .div, .mul, .mod, .trimLeft, .trimRight, .left,
    .right, .replaceAll, .replaceRegex, .doesMatchRegex, .parseJson, .parseXml, .parseYaml,
    .parseToml, .asJson]

def name : Builtin → String
  | .equal => "Equal"
  | .notEqual => "NotEqual"
  | .less => "Less"
  | .lessOrEqual => "LessOrEqual"
  | .greater => "Greater"
  | .greaterOrEqual => "GreaterOrEqual"
  | .contains => "Contains"
  | .notContains => "NotContains"
  | .startsWith => "Prefix"
  | .notStartsWith => "NotPrefix"
  | .endsWith => "Suffix"
  | .notEndsWith => "NotSuffix"
  | .anyOf => "AnyOf"
  | .count => "Count"
  | .any => "Any"
  | .first => "First"
  | .last => "Last"
  | .index => "Index"
  | .sum => "Sum"
  | .avg => "Avg"
  | .max => "Max"
  | .min => "Min"
  | .add => "Add"
  | .sub => "Sub"
  | .div => "Div"
  | .mul => "Mul"
  | .mod => "Mod"
  | .trimLeft => "TrimLeft"
  | .trimRight => "TrimRight"
  | .left => "Left"
  | .right => "Right"
  | .replaceAll => "ReplaceAll"
  | .replaceRegex => "ReplaceRegex"
  | .doesMatchRegex => "DoesMatchRegex"
  | .parseJson => "ParseJSON"
  | .parseXml => "ParseXML"
  | .parseYaml => "ParseYAML"
  | .parseToml => "ParseTOML"
  | .asJson => "AsJSON"

def aliases : List (List Char × Builtin) :=
  [("average".toList, .avg), ("maximum".toList, .max), ("minimum".toList, .min),
    ("subtract".toList, .sub), ("divide".toList, .div), ("multiply".toList, .mul),
    ("modulo".toList, .mod)]

def lowered (s : String) : List Char := s.toList.map Char.toLower

def table : List (List Char × Builtin) := aliases ++ all.map fun f => (lowered f.name, f)

def named? (spelled : String) : Option Builtin :=
  (table.find? fun e => e.1 == lowered spelled).map (·.2)

theorem mem_all (f : Builtin) : f ∈ all := by cases f <;> decide

end Builtin
end PathQuery
