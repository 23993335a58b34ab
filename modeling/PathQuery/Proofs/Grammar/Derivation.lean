import PathQuery.Query.Partial
import PathQuery.Value.Basic

namespace PathQuery.Grammar

inductive Role where
  | query | operand | filterOperand | argument
deriving DecidableEq, Repr

def Role.inFilter : Role → Bool
  | .filterOperand => true
  | _ => false

def Role.asPredicate : Role → Bool
  | .operand | .filterOperand => true
  | _ => false

mutual

inductive PathDerivation : Role → Type where
  | mk {role : Role} (origin : Origin) (allowed : origin = .root → role.inFilter = false)
    (segments : SegmentsDerivation) : PathDerivation role

inductive SegmentsDerivation : Type where
  | nil
  | cons (first : SegmentDerivation) (rest : SegmentsDerivation)

inductive SegmentDerivation : Type where
  | field (name : String)
  | emptyCall (name : String)
  | call (name : String) (arguments : ArgumentsDerivation)
  | filter (predicate : OperandDerivation .filterOperand)

inductive ArgumentsDerivation : Type where
  | one (a : ArgumentDerivation)
  | more (a : ArgumentDerivation) (rest : ArgumentsDerivation)

inductive ArgumentDerivation : Type where
  | number (text : String) (value : Decimal) (representable : Decimal.read? text = some value)
  | string (s : String)
  | bool (b : Bool)
  | path (p : PathDerivation .argument)

inductive OperandDerivation : Role → Type where
  | path {role : Role} (p : PathDerivation role) : OperandDerivation role
  | group {role : Role} (g : GroupDerivation role) : OperandDerivation role

inductive OperandsDerivation : Role → Type where
  | one {role : Role} (o : OperandDerivation role) : OperandsDerivation role
  | more {role : Role} (o : OperandDerivation role) (rest : OperandsDerivation role) :
    OperandsDerivation role

inductive GroupDerivation : Role → Type where
  | mk {role : Role} (word? : Option String) (operands : OperandsDerivation role) :
    GroupDerivation role

end

inductive QueryDerivation : Type where
  | path (p : PathDerivation .query)
  | group (g : GroupDerivation .operand)

def originToken : Origin → Token
  | .root => .rune '$'
  | .current => .rune '@'

def wordTokens : Option String → List Token
  | none => []
  | some word => [.ident word, .rune ',']

mutual

def PathDerivation.tokens {role : Role} : PathDerivation role → List Token
  | .mk origin _ segments => originToken origin :: segments.tokens

def SegmentsDerivation.tokens : SegmentsDerivation → List Token
  | .nil => []
  | .cons first rest => first.tokens ++ rest.tokens

def SegmentDerivation.tokens : SegmentDerivation → List Token
  | .field name => [.rune '.', .ident name]
  | .emptyCall name => [.rune '.', .ident name, .rune '(', .rune ')']
  | .call name arguments =>
    .rune '.' :: .ident name :: .rune '(' :: (arguments.tokens ++ [.rune ')'])
  | .filter predicate => .rune '[' :: (predicate.tokens ++ [.rune ']'])

def ArgumentsDerivation.tokens : ArgumentsDerivation → List Token
  | .one a => a.tokens
  | .more a rest => a.tokens ++ .rune ',' :: rest.tokens

def ArgumentDerivation.tokens : ArgumentDerivation → List Token
  | .number text _ _ => [.number text]
  | .string s => [.string s]
  | .bool b => [.ident (Key.boolText b)]
  | .path p => p.tokens

def OperandDerivation.tokens {role : Role} : OperandDerivation role → List Token
  | .path p => p.tokens
  | .group g => g.tokens

def OperandsDerivation.tokens {role : Role} : OperandsDerivation role → List Token
  | .one o => o.tokens
  | .more o rest => o.tokens ++ .rune ',' :: rest.tokens

def GroupDerivation.tokens {role : Role} : GroupDerivation role → List Token
  | .mk word? operands =>
    .rune '\x7b' :: (wordTokens word? ++ operands.tokens ++ [.rune '\x7d'])

end

def QueryDerivation.tokens : QueryDerivation → List Token
  | .path p => p.tokens ++ [.endOfInput]
  | .group g => g.tokens ++ [.endOfInput]

def operatorOf : Option String → Operator
  | none => .and
  | some word => .ofWord word

mutual

def PathDerivation.tree {role : Role} : PathDerivation role → Path
  | .mk origin _ segments => ⟨origin, role.inFilter, role.asPredicate, segments.trees⟩

def SegmentsDerivation.trees : SegmentsDerivation → List Segment
  | .nil => []
  | .cons first rest => first.tree :: rest.trees

def SegmentDerivation.tree : SegmentDerivation → Segment
  | .field name => .field name
  | .emptyCall name => .call (.named name) []
  | .call name arguments => .call (.named name) arguments.trees
  | .filter predicate => .filter predicate.predicate

def ArgumentsDerivation.trees : ArgumentsDerivation → List Argument
  | .one a => [a.tree]
  | .more a rest => a.tree :: rest.trees

def ArgumentDerivation.tree : ArgumentDerivation → Argument
  | .number text value _ => .number value text
  | .string s => .string s
  | .bool b => .bool b
  | .path p => .path p.tree

def OperandDerivation.predicate {role : Role} : OperandDerivation role → Group
  | .path p => .ofPath p.tree
  | .group g => g.tree

def OperandDerivation.tree {role : Role} : OperandDerivation role → Query
  | .path p => .path p.tree
  | .group g => .group g.tree

def OperandsDerivation.trees {role : Role} : OperandsDerivation role → List Query
  | .one o => [o.tree]
  | .more o rest => o.tree :: rest.trees

def GroupDerivation.tree {role : Role} : GroupDerivation role → Group
  | .mk word? operands => ⟨operatorOf word?, word?.isSome, true, operands.trees⟩

end

def QueryDerivation.tree : QueryDerivation → Query
  | .path p => .path p.tree
  | .group g => .group g.tree

end PathQuery.Grammar
