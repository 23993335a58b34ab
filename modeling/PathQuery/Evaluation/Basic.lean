import PathQuery.Evaluation.Call
import PathQuery.Query.Basic

namespace PathQuery

abbrev Result := Except Failure Value

namespace Value

def readField (name : String) (v : Value) : Result :=
  match v with
  | .record _ | .map _ =>
    match v.lookup? name with
    | some w => .ok w
    | none => .error (.keyNotFound name)
  | .sequence items =>
    match items.filterMap (·.lookup? name) with
    | [] => .error (.keyNotFound name)
    | found => .ok (.sequence found)
  | v => .error (.mismatch (.field name v.kind))

def keep (test : Value → Result) : List Value → Except Failure (List Value)
  | [] => .ok []
  | v :: vs => do
    let w ← test v
    let kept ← keep test vs
    return if w.isTrue then v :: kept else kept

def filterBy (test : Value → Result) (v : Value) : Result :=
  match v with
  | .sequence items => (keep test items).map .sequence
  | .record _ | .map _ => do
    let w ← test v
    return if w.isTrue then v else .null
  | v => .error (.mismatch (.filter v.kind))

def spread : Value → List Value
  | .sequence items => items
  | v => [v]

end Value

mutual

def Path.eval (codecs : Codecs) (current root : Value) : Path → Result
  | ⟨.root, true, _, _⟩ => .error .rootInFilter
  | ⟨.root, false, _, segments⟩ => Segment.evalAll codecs current root root segments
  | ⟨.current, _, _, segments⟩ => Segment.evalAll codecs current root current segments

-- Null passes by all segments that are left.
def Segment.evalAll (codecs : Codecs) (current root v : Value) : List Segment → Result
  | [] => .ok v
  | s :: segments =>
    if v.isNull then .ok .null
    else do
      let w ← s.eval codecs current root v
      Segment.evalAll codecs current root w segments

def Segment.eval (codecs : Codecs) (current root v : Value) : Segment → Result
  | .field name => v.readField name
  | .filter g => v.filterBy fun item => g.eval codecs item root
  | .call callee arguments =>
    match callee with
    | .unknown name => .error (.unknownFunction name)
    | .known f => do
      let params ← Argument.evalAll codecs current root arguments
      (f.call codecs v params arguments.length).mapError (.call f)

def Argument.evalAll (codecs : Codecs) (current root : Value) :
    List Argument → Except Failure (List Value)
  | [] => .ok []
  | a :: arguments => do
    let vs ← a.eval codecs current root
    let rest ← Argument.evalAll codecs current root arguments
    return vs ++ rest

def Argument.eval (codecs : Codecs) (current root : Value) :
    Argument → Except Failure (List Value)
  | .number d _ => .ok [.number d]
  | .string s => .ok [.string s]
  | .bool b => .ok [.bool b]
  | .path p => (p.eval codecs current root).map Value.spread

def Group.eval (codecs : Codecs) (current root : Value) : Group → Result
  | ⟨.and, _, _, operands⟩ => Query.evalAnd codecs current root operands
  | ⟨.or, _, _, operands⟩ => Query.evalOr codecs current root operands
  | ⟨.invalid word, _, _, _⟩ => .error (.invalidOperator word)

def Query.evalAnd (codecs : Codecs) (current root : Value) : List Query → Result
  | [] => .ok (.bool true)
  | q :: operands => do
    let v ← q.eval codecs current root
    if v.isTrue then Query.evalAnd codecs current root operands else return .bool false

def Query.evalOr (codecs : Codecs) (current root : Value) : List Query → Result
  | [] => .ok (.bool false)
  | q :: operands => do
    let v ← q.eval codecs current root
    if v.isTrue then return .bool true else Query.evalOr codecs current root operands

def Query.eval (codecs : Codecs) (current root : Value) : Query → Result
  | .path p => p.eval codecs current root
  | .group g => g.eval codecs current root

end

end PathQuery
