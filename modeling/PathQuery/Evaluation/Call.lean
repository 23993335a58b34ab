import PathQuery.Decimal.Arithmetic
import PathQuery.Evaluation.Failure
import PathQuery.Regex.Replacement
import PathQuery.Text.Search

namespace PathQuery

abbrev CallResult := Except CallFailure Value

def Value.sameScalar : Value → Value → Bool
  | .number a, .number b => a.sameNumber b
  | .string a, .string b => a == b
  | .bool a, .bool b => a == b
  | .null, .null => true
  | _, _ => false

namespace Call

def mismatch {α : Type} (m : Mismatch) : Except CallFailure α := .error (.mismatch m)

def number (v : Value) : Except CallFailure Decimal :=
  match v with
  | .number d => .ok d
  | v => mismatch (.number v.kind)

def string (v : Value) : Except CallFailure String :=
  match v with
  | .string s => .ok s
  | v => mismatch (.string v.kind)

def list (v : Value) : Except CallFailure (List Value) :=
  match v with
  | .sequence items => .ok items
  | v => mismatch (.list v.kind)

def numbers : List Value → Except CallFailure (List Decimal)
  | [] => .ok []
  | v :: vs => do
    let d ← number v
    let ds ← numbers vs
    return d :: ds

def ofDecimal? (d : Option Decimal) : CallResult :=
  match d with
  | some d => .ok (.number d)
  | none => .error .overflow

def compare (test : Decimal → Decimal → Bool) (subject p : Value) : CallResult := do
  let a ← number subject
  let b ← number p
  return .bool (test a b)

def matchText (test : List Char → List Char → Bool) (subject p : Value) : CallResult := do
  let s ← string subject
  let t ← string p
  return .bool (test s.toList t.toList)

def count (subject : Value) : CallResult :=
  match subject with
  | .null => ofDecimal? (Decimal.ofInt? 0)
  | .sequence items => ofDecimal? (Decimal.ofInt? items.length)
  | .record fields => ofDecimal? (Decimal.ofInt? fields.length)
  | .map entries => ofDecimal? (Decimal.ofInt? entries.length)
  | v => mismatch (.count v.kind)

def any (subject : Value) : CallResult :=
  match subject with
  | .null => .ok (.bool false)
  | .sequence items => .ok (.bool !items.isEmpty)
  | .map entries => .ok (.bool !entries.isEmpty)
  | .record fields => .ok (.bool (Value.record fields).isZero)
  | v => mismatch (.any v.kind)

def first (subject : Value) : CallResult := do
  match (← list subject).head? with
  | some v => return v
  | none => .error .emptyList

def last (subject : Value) : CallResult := do
  match (← list subject).getLast? with
  | some v => return v
  | none => .error .emptyList

-- A position has no places other than zeros and no sign, not even on a zero.
def index (subject p : Value) : CallResult := do
  let items ← list subject
  let d ← number p
  if d.isIntegral ∧ ¬ d.isNegative then
    match items[d.trunc.toNat]? with
    | some v => return v
    | none => .error (.indexOutOfRange d items.length)
  else .error (.indexOutOfRange d items.length)

def pool (subject : Value) (params : List Value) : Except CallFailure (List Decimal) := do
  let own ← match subject with
    | .sequence items => numbers items
    | v => (number v).map ([·])
  let more ← numbers params
  return own ++ more

def total? : Decimal → List Decimal → Option Decimal
  | acc, [] => some acc
  | acc, d :: ds => (acc.add? d).bind fun acc => total? acc ds

def mean? (d : Decimal) (ds : List Decimal) : Option Decimal := do
  let sum ← total? d ds
  let n ← Decimal.ofInt? (ds.length + 1)
  sum.div? n

def reduce (f : Decimal → List Decimal → Option Decimal) (subject : Value) (params : List Value) :
    CallResult := do
  match ← pool subject params with
  | [] => return .number .zero
  | [d] => return .number d
  | d :: ds => ofDecimal? (f d ds)

def arithmetic (f : Decimal → Decimal → Option Decimal) (subject p : Value) : CallResult := do
  let a ← number subject
  let b ← number p
  ofDecimal? (f a b)

def divide (f : Decimal → Decimal → Option Decimal) (subject p : Value) : CallResult := do
  let b ← number p
  if b.isZero then .error .divisionByZero else arithmetic f subject p

def clamp (d : Decimal) (length : Nat) : Nat := min d.trunc.toNat length

def slice (f : Nat → List Char → List Char) (subject p : Value) : CallResult := do
  let s ← string subject
  let d ← number p
  return .string (String.ofList (f (clamp d s.toList.length) s.toList))

def takeRight (n : Nat) (cs : List Char) : List Char := cs.drop (cs.length - n)

def dropRight (n : Nat) (cs : List Char) : List Char := cs.take (cs.length - n)

def replaceAll (subject p q : Value) : CallResult := do
  let s ← string subject
  let part ← string p
  let replacement ← string q
  return .string (String.ofList (Text.replaceAll part.toList replacement.toList s.toList))

def regex (v : Value) : Except CallFailure Regex := do
  let pattern ← string v
  match Regex.ofText? pattern with
  | some r => return r
  | none => .error .pattern

def replaceRegex (subject p q : Value) : CallResult := do
  let s ← string subject
  let r ← regex p
  let replacement ← string q
  return .string (r.replaceAll s replacement)

def doesMatchRegex (subject p : Value) : CallResult := do
  let s ← string subject
  let r ← regex p
  return .bool (r.isMatch s)

def parse (codecs : Codecs) (f : Format) (subject : Value) : CallResult := do
  let s ← string subject
  (codecs.read f s).mapError .codec

end Call

def ParameterType.acceptsKind : ParameterType → Kind → Bool
  | .number, k => k == .number
  | .string, k => k == .string
  | .scalar, k => k == .number || k == .string || k == .bool || k == .null

def checkTypes (a : Arity) (i : Nat) : List Value → Except CallFailure Unit
  | [] => .ok ()
  | v :: vs =>
    match a.typeAt? i with
    | none => checkTypes a (i + 1) vs
    | some type =>
      if type.acceptsKind v.kind then checkTypes a (i + 1) vs
      else .error (.mismatch (.parameter (i + 1) type v.kind))

def checkCounts (a : Arity) (declared found : Nat) : Except CallFailure Unit :=
  if !a.accepts declared then .error (.arity a declared)
  else
    match a with
    | .fixed types => if types.length = found then .ok () else .error (.arity a found)
    | .variadic _ _ => .ok ()

namespace Builtin

def call0 (f : Builtin) (codecs : Codecs) (subject : Value) : CallResult :=
  match f with
  | .count => Call.count subject
  | .any => Call.any subject
  | .first => Call.first subject
  | .last => Call.last subject
  | .parseJson => Call.parse codecs .json subject
  | .parseXml => Call.parse codecs .xml subject
  | .parseYaml => Call.parse codecs .yaml subject
  | .parseToml => Call.parse codecs .toml subject
  | .asJson => .ok (.string (codecs.jsonText subject))
  | f => .error (.arity f.signature.arity 0)

def call1 (f : Builtin) (subject p : Value) : CallResult :=
  match f with
  | .equal => .ok (.bool (subject.sameScalar p))
  | .notEqual => .ok (.bool !subject.sameScalar p)
  | .less => Call.compare Decimal.less subject p
  | .lessOrEqual => Call.compare (fun a b => !b.less a) subject p
  | .greater => Call.compare (fun a b => b.less a) subject p
  | .greaterOrEqual => Call.compare (fun a b => !a.less b) subject p
  | .contains => Call.matchText (fun s t => Text.occursIn t s) subject p
  | .notContains => Call.matchText (fun s t => !Text.occursIn t s) subject p
  | .startsWith => Call.matchText (fun s t => t.isPrefixOf s) subject p
  | .notStartsWith => Call.matchText (fun s t => !t.isPrefixOf s) subject p
  | .endsWith => Call.matchText (fun s t => t.isSuffixOf s) subject p
  | .notEndsWith => Call.matchText (fun s t => !t.isSuffixOf s) subject p
  | .index => Call.index subject p
  | .add => Call.arithmetic Decimal.add? subject p
  | .sub => Call.arithmetic Decimal.sub? subject p
  | .mul => Call.arithmetic Decimal.mul? subject p
  | .div => Call.divide Decimal.div? subject p
  | .mod => Call.divide Decimal.rem? subject p
  | .trimLeft => Call.slice List.drop subject p
  | .trimRight => Call.slice Call.dropRight subject p
  | .left => Call.slice List.take subject p
  | .right => Call.slice Call.takeRight subject p
  | .doesMatchRegex => Call.doesMatchRegex subject p
  | f => .error (.arity f.signature.arity 1)

def call2 (f : Builtin) (subject p q : Value) : CallResult :=
  match f with
  | .replaceAll => Call.replaceAll subject p q
  | .replaceRegex => Call.replaceRegex subject p q
  | f => .error (.arity f.signature.arity 2)

def callMany (f : Builtin) (subject : Value) (params : List Value) : CallResult :=
  match f with
  | .anyOf => .ok (.bool (params.any subject.sameScalar))
  | .sum => Call.reduce Call.total? subject params
  | .avg => Call.reduce Call.mean? subject params
  | .max => Call.reduce (fun d ds => some (ds.foldl Decimal.max d)) subject params
  | .min => Call.reduce (fun d ds => some (ds.foldl Decimal.min d)) subject params
  | f => .error (.arity f.signature.arity params.length)

def call (f : Builtin) (codecs : Codecs) (subject : Value) (params : List Value)
    (declared : Nat) : CallResult := do
  let arity := f.signature.arity
  checkCounts arity declared params.length
  checkTypes arity 0 params
  match arity, params with
  | .variadic _ _, params => f.callMany subject params
  | .fixed _, [] => f.call0 codecs subject
  | .fixed _, [p] => f.call1 subject p
  | .fixed _, [p, q] => f.call2 subject p q
  | .fixed _, params => .error (.arity arity params.length)

end Builtin
end PathQuery
