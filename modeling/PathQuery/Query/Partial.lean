import PathQuery.Query.Basic
import PathQuery.Query.SyntaxError
import PathQuery.Decimal.Reader

namespace PathQuery

mutual

inductive PathContext where
  | query
  | operand (g : OpenGroup)
  | filter (p : OpenPath)
  | argument (c : OpenCall)

inductive GroupContext where
  | query
  | operand (g : OpenGroup)
  | filter (p : OpenPath)

structure OpenPath where
  context : PathContext
  origin : Origin
  segments : List Segment

structure OpenGroup where
  context : GroupContext
  operator : Operator
  isExplicit : Bool
  operands : List Query

structure OpenCall where
  path : OpenPath
  callee : Callee
  arguments : List Argument

end

def GroupContext.inFilter : GroupContext → Bool
  | .query => false
  | .operand ⟨context, _, _, _⟩ => context.inFilter
  | .filter _ => true

def PathContext.inFilter : PathContext → Bool
  | .query | .argument _ => false
  | .operand g => g.context.inFilter
  | .filter _ => true

def PathContext.asPredicate : PathContext → Bool
  | .query | .argument _ => false
  | .operand _ | .filter _ => true

def OpenPath.push (p : OpenPath) (s : Segment) : OpenPath :=
  { p with segments := s :: p.segments }

def OpenGroup.push (g : OpenGroup) (q : Query) : OpenGroup :=
  { g with operands := q :: g.operands }

def OpenCall.push (c : OpenCall) (a : Argument) : OpenCall :=
  { c with arguments := a :: c.arguments }

def OpenPath.toPath (p : OpenPath) : Path :=
  ⟨p.origin, p.context.inFilter, p.context.asPredicate, p.segments.reverse⟩

def OpenGroup.toGroup (g : OpenGroup) : Group :=
  ⟨g.operator, g.isExplicit, true, g.operands.reverse⟩

def OpenCall.close (c : OpenCall) : OpenPath :=
  c.path.push (.call c.callee c.arguments.reverse)

def Callee.named (name : String) : Callee :=
  match Builtin.named? name with
  | some f => .known f
  | none => .unknown name

def Operator.ofWord (word : String) : Operator :=
  if word.toList.map Char.toUpper = ['A', 'N', 'D'] then .and
  else if word.toList.map Char.toUpper = ['O', 'R'] then .or
  else .invalid word

inductive PartialQuery where
  | nothing
  | path (p : OpenPath)
  | dot (p : OpenPath)
  | named (p : OpenPath) (name : String)
  | bracket (p : OpenPath)
  | predicate (p : OpenPath) (g : Group)
  | brace (c : GroupContext)
  | operator (c : GroupContext) (word : String)
  | operandComma (g : OpenGroup)
  | operand (g : OpenGroup)
  | parenthesis (c : OpenCall)
  | argumentComma (c : OpenCall)
  | argument (c : OpenCall)
  | complete (q : Query)

namespace PartialQuery

def closePath (p : OpenPath) : PartialQuery :=
  match p.context with
  | .query => .complete (.path p.toPath)
  | .operand g => .operand (g.push (.path p.toPath))
  | .filter around => .predicate around (.ofPath p.toPath)
  | .argument c => .argument (c.push (.path p.toPath))

def closeGroup (g : OpenGroup) : PartialQuery :=
  match g.context with
  | .query => .complete (.group g.toGroup)
  | .operand around => .operand (around.push (.group g.toGroup))
  | .filter p => .predicate p g.toGroup

def emptyGroup (c : GroupContext) : OpenGroup := ⟨c, .and, false, []⟩

def refuse {α : Type} (expected : String) (t : PlacedToken) : Except SyntaxError α :=
  match t.token with
  | .invalid reason => .error (.malformed reason t.position)
  | token => .error (.unexpected token.description expected t.position)

def startPath (context : PathContext) (origin : Origin) : PartialQuery :=
  .path ⟨context, origin, []⟩

def stepOperand (g : OpenGroup) (expected : String) (t : PlacedToken) :
    Except SyntaxError PartialQuery :=
  match t.token with
  | .rune '{' => .ok (.brace (.operand g))
  | .rune '@' => .ok (startPath (.operand g) .current)
  | .rune '$' =>
    if g.context.inFilter then .error (.rootInFilter t.position)
    else .ok (startPath (.operand g) .root)
  | _ => refuse expected t

def stepArgument (c : OpenCall) (t : PlacedToken) : Except SyntaxError PartialQuery :=
  match t.token with
  | .number text =>
    match Decimal.read? text with
    | some d => .ok (.argument (c.push (.number d text)))
    | none => .error (.invalidNumber text t.position)
  | .string s => .ok (.argument (c.push (.string s)))
  | .ident "true" => .ok (.argument (c.push (.bool true)))
  | .ident "false" => .ok (.argument (c.push (.bool false)))
  | .rune '@' => .ok (startPath (.argument c) .current)
  | .rune '$' => .ok (startPath (.argument c) .root)
  | _ => refuse "a number, string, bool or path" t

def stepComplete (p : PartialQuery) (t : PlacedToken) : Except SyntaxError PartialQuery :=
  match p with
  | .predicate p g =>
    match t.token with
    | .rune ']' => .ok (.path (p.push (.filter g)))
    | _ => refuse "']'" t
  | .operand g =>
    match t.token with
    | .rune ',' => .ok (.operandComma g)
    | .rune '}' => .ok (closeGroup g)
    | _ => refuse "',' or '\x7d'" t
  | .argument c =>
    match t.token with
    | .rune ',' => .ok (.argumentComma c)
    | .rune ')' => .ok (.path c.close)
    | _ => refuse "',' or ')'" t
  | .complete q =>
    match t.token with
    | .endOfInput => .ok (.complete q)
    | .invalid reason => .error (.malformed reason t.position)
    | token => .error (.trailing token.description t.position)
  | _ => refuse "end of input" t

def stepPath (p : OpenPath) (t : PlacedToken) : Except SyntaxError PartialQuery :=
  match t.token with
  | .rune '.' => .ok (.dot p)
  | .rune '[' => .ok (.bracket p)
  | _ => stepComplete (closePath p) t

def step (p : PartialQuery) (t : PlacedToken) : Except SyntaxError PartialQuery :=
  match p with
  | .nothing =>
    match t.token with
    | .rune '{' => .ok (.brace .query)
    | .rune '@' => .ok (startPath .query .current)
    | .rune '$' => .ok (startPath .query .root)
    | _ => refuse "'\x7b', '$' or '@'" t
  | .path p => stepPath p t
  | .dot p =>
    match t.token with
    | .ident name => .ok (.named p name)
    | _ => refuse "a field or function name" t
  | .named p name =>
    match t.token with
    | .rune '(' => .ok (.parenthesis ⟨p, .named name, []⟩)
    | _ => stepPath (p.push (.field name)) t
  | .bracket p =>
    match t.token with
    | .rune '{' => .ok (.brace (.filter p))
    | .rune '@' => .ok (startPath (.filter p) .current)
    | .rune '$' => .error (.rootInFilter t.position)
    | _ => refuse "'\x7b' or '@'" t
  | .brace c =>
    match t.token with
    | .ident word => .ok (.operator c word)
    | _ => stepOperand (emptyGroup c) "a path or '\x7b'" t
  | .operator c word =>
    match t.token with
    | .rune ',' => .ok (.operandComma ⟨c, .ofWord word, true, []⟩)
    | _ => refuse "',' after the operator" t
  | .operandComma g => stepOperand g "a path or '\x7b'" t
  | .parenthesis c =>
    match t.token with
    | .rune ')' => .ok (.path c.close)
    | _ => stepArgument c t
  | .argumentComma c => stepArgument c t
  | p => stepComplete p t

def run (p : PartialQuery) : List PlacedToken → Except SyntaxError PartialQuery
  | [] => .ok p
  | t :: ts =>
    match p.step t with
    | .ok p => run p ts
    | .error e => .error e

end PartialQuery

def Query.read (s : String) : Except SyntaxError Query :=
  match PartialQuery.run .nothing (tokens anyIdent s) with
  | .ok (.complete q) => .ok q
  | .ok _ => .error (.unexpected Token.endOfInput.description "end of input" .start)
  | .error e => .error e

end PathQuery
