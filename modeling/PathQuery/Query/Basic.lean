import PathQuery.Catalog.Builtin
import PathQuery.Decimal.Basic

namespace PathQuery

inductive Origin where
  | root | current
deriving DecidableEq, Repr

inductive Callee where
  | known (f : Builtin)
  | unknown (name : String)
deriving DecidableEq, Repr

inductive Operator where
  | and
  | or
  | invalid (word : String)
deriving DecidableEq, Repr

def Operator.isValid : Operator → Bool
  | .invalid _ => false
  | _ => true

mutual

structure Path where
  origin : Origin
  inFilter : Bool
  asPredicate : Bool
  segments : List Segment

inductive Segment where
  | field (name : String)
  | filter (predicate : Group)
  | call (callee : Callee) (arguments : List Argument)

inductive Argument where
  | number (value : Decimal) (text : String)
  | string (s : String)
  | bool (b : Bool)
  | path (p : Path)

structure Group where
  operator : Operator
  isExplicit : Bool
  isBraced : Bool
  operands : List Query

inductive Query where
  | path (p : Path)
  | group (g : Group)

end

instance : Inhabited Path := ⟨⟨.root, false, false, []⟩⟩
instance : Inhabited Group := ⟨⟨.and, false, false, []⟩⟩
instance : Inhabited Query := ⟨.path default⟩

def Group.ofPath (p : Path) : Group := ⟨.and, false, false, [.path p]⟩

inductive NodeKind where
  | path | field | filter | group | call
deriving DecidableEq, Repr

def Segment.kind : Segment → NodeKind
  | .field _ => .field
  | .filter _ => .filter
  | .call _ _ => .call

def Query.kind : Query → NodeKind
  | .path _ => .path
  | .group _ => .group

end PathQuery
