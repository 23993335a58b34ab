import PathQuery.Query.Printer
import PathQuery.Schema.Document
import PathQuery.Typeahead.Note

namespace PathQuery

structure Standing where
  shape? : Option Shape
  type : ResolvedType
  atRoot : Bool
  isResult : Bool

namespace Standing

def ofShape (s : Shape) (isList : Bool) : Standing :=
  ⟨some s.innermost, ⟨s.type.dataType, s.type.isList || isList⟩, false, false⟩

def ofType (t : ResolvedType) : Standing := ⟨none, t, false, false⟩

def fieldNames (s : Standing) : List String :=
  match s.shape? with
  | some shape =>
    if s.type.dataType = .record then sortNames (shape.fields.map (·.1)) else []
  | none => []

def suggestions (s : Standing) : Suggestions :=
  ⟨s.fieldNames, Builtin.callableOn s.type, s.type.isList⟩

def element (s : Standing) : Standing :=
  { s with type := .single s.type.dataType, atRoot := false }

end Standing

structure Ground where
  root : Shape
  blocked : List String

namespace Ground

def standing (g : Ground) : Standing := { Standing.ofShape g.root false with atRoot := true }

def isBlocked (g : Ground) (name : String) : Bool := g.blocked.any fun b => Text.sameName b name

end Ground

def Standing.field (g : Ground) (s : Standing) (name : String) : Except Complaint Standing :=
  if s.atRoot && g.isBlocked name then .error (.notAvailable name)
  else
    match s.type.dataType with
    | .unknown =>
      if s.isResult then .error (.unknownResult name)
      else .ok (.ofType ⟨.unknown, s.type.isList⟩)
    | .record =>
      match s.shape?.bind (·.field? name) with
      | none => .error (.noField name)
      | some shape =>
        if s.type.isList && shape.isList then .error .secondList
        else .ok (.ofShape shape s.type.isList)
    | _ => .error (.noRecord name s.type)

def Standing.result (s : Standing) (r : ReturnType) : Standing :=
  match r with
  | .bool => .ofType (.single .bool)
  | .number => .ofType (.single .number)
  | .string => .ofType (.single .string)
  | .element => s.element
  | .unknown => { Standing.ofType (.single .unknown) with isResult := true }

def parameterComplaint? (f : Builtin) (i : Nat) (type? : Option ResolvedType) :
    Option CallComplaint :=
  match f.signature.arity.typeAt? i, type? with
  | some expected, some t =>
    if t.dataType = .unknown then none
    else if !expected.accepts t.dataType then some (.parameter (i + 1) f expected t)
    else if t.isList && f.signature.arity.isFixed then some (.parameterList (i + 1) f expected t)
    else none
  | _, _ => none

def parameterComplaints (f : Builtin) (i : Nat) : List (Option ResolvedType) → List CallComplaint
  | [] => []
  | t :: types => (parameterComplaint? f i t).toList ++ parameterComplaints f (i + 1) types

def callComplaints (f : Builtin) (subject : ResolvedType) (types : List (Option ResolvedType)) :
    List CallComplaint :=
  (if f.signature.subject.accepts subject then [] else [.subject f subject]) ++
    (if f.signature.arity.accepts types.length then [] else [.count f types.length]) ++
    parameterComplaints f 0 types

def Segment.unreachable (s : Segment) : Note :=
  { Note.bare s.kind s.text with complaint? := some .unreachable }

def Note.leadingTo (n : Note) (next : Option Standing) : Note :=
  match next with
  | some s => { n with type? := some s.type, suggestions? := some s.suggestions }
  | none => n

def Note.asOperand (n : Note) : Note :=
  match n.validType? with
  | some t => if t.isPredicate then n else { n with complaint? := some (.noPredicate t) }
  | none => n

def Origin.standing (g : Ground) (current : Standing) (inFilter : Bool) : Origin → Standing
  | .root => g.standing
  | .current => { current with atRoot := !inFilter }

mutual

def Path.note (g : Ground) (current : Standing) (inFilter : Bool) : Path → Note
  | ⟨origin, isOperand, asPredicate, segments⟩ =>
    let start := origin.standing g current inFilter
    let (notes, last) := Segment.notes g current inFilter start segments
    let text := Path.text ⟨origin, isOperand, asPredicate, segments⟩
    { Note.bare .path text with
      parts := notes
      type? := last.map (·.type)
      suggestions? := some (last.getD start).suggestions }

def Segment.notes (g : Ground) (current : Standing) (inFilter : Bool) (s : Standing) :
    List Segment → List Note × Option Standing
  | [] => ([], some s)
  | segment :: segments =>
    let (note, next) := segment.note g current inFilter s
    match next with
    | some t =>
      let (notes, last) := Segment.notes g current inFilter t segments
      (note.leadingTo (some t) :: notes, last)
    | none => (note :: segments.map Segment.unreachable, none)

def Segment.note (g : Ground) (current : Standing) (inFilter : Bool) (s : Standing) :
    Segment → Note × Option Standing
  | .field name =>
    let note := { Note.bare .field name with rootField? := if s.atRoot then some name else none }
    match s.field g name with
    | .ok next => (note, some next)
    | .error c => ({ note with complaint? := some c }, none)
  | .filter group =>
    let text := (Segment.filter group).text
    let note := { Note.bare .filter text with parts := [group.note g s.element true] }
    if !s.type.isList && s.type.dataType != .unknown then
      ({ note with complaint? := some (.noList s.type) }, none)
    else (note, some s)
  | .call callee arguments =>
    let text := (Segment.call callee arguments).text
    let notes := Argument.notes g current inFilter arguments
    let note := { Note.bare .call text with parts := notes.filterMap (·.1) }
    match callee with
    | .unknown name => ({ note with complaint? := some (.unknownFunction name) }, none)
    | .known f =>
      let next := s.result f.signature.returns
      match callComplaints f s.type (notes.map (·.2)) with
      | [] => (note, some next)
      | complaints => ({ note with complaint? := some (.call complaints) }, some next)

def Argument.notes (g : Ground) (current : Standing) (inFilter : Bool) :
    List Argument → List (Option Note × Option ResolvedType)
  | [] => []
  | a :: arguments =>
    a.note g current inFilter :: Argument.notes g current inFilter arguments

def Argument.note (g : Ground) (current : Standing) (inFilter : Bool) :
    Argument → Option Note × Option ResolvedType
  | .number _ _ => (none, some (.single .number))
  | .string _ => (none, some (.single .string))
  | .bool _ => (none, some (.single .bool))
  | .path p =>
    let note := p.note g current inFilter
    (some note, note.validType?)

def Group.note (g : Ground) (current : Standing) (inFilter : Bool) : Group → Note
  | ⟨operator, isExplicit, isBraced, operands⟩ =>
    let text := Group.text ⟨operator, isExplicit, isBraced, operands⟩
    { Note.bare .group text with
      parts := Query.notes g current inFilter operands
      type? := some (.single .bool)
      complaint? := if operator.isValid then none else some (.unknownOperator operator.text) }

def Query.notes (g : Ground) (current : Standing) (inFilter : Bool) : List Query → List Note
  | [] => []
  | q :: operands => q.operandNote g current inFilter :: Query.notes g current inFilter operands

def Query.operandNote (g : Ground) (current : Standing) (inFilter : Bool) : Query → Note
  | .path p => (p.note g current inFilter).asOperand
  | .group h => h.note g current inFilter

end

def Query.note (g : Ground) : Query → Note
  | .path p => p.note g g.standing false
  | .group h => h.note g g.standing false

def Query.validate (g : Ground) (q : Query) : Validation :=
  let note := q.note g
  ⟨note, ⟨q.text, sortNames note.rootFields⟩⟩

end PathQuery
