import PathQuery.Catalog.Signature
import PathQuery.Query.Basic

namespace PathQuery

inductive CallComplaint where
  | subject (f : Builtin) (found : ResolvedType)
  | count (f : Builtin) (found : Nat)
  | parameter (position : Nat) (f : Builtin) (expected : ParameterType) (found : ResolvedType)
  | parameterList (position : Nat) (f : Builtin) (expected : ParameterType) (found : ResolvedType)
deriving DecidableEq, Repr

def CallComplaint.message : CallComplaint → String
  | .subject f found =>
    f.name ++ " cannot be called on " ++ found.text ++ ", it needs " ++ f.signature.subject.text
  | .count f found =>
    f.name ++ " takes " ++ f.signature.arity.text ++ " parameters, got " ++ Nat.repr found
  | .parameter i f expected found =>
    "parameter " ++ Nat.repr i ++ " of " ++ f.name ++ " must be " ++ expected.text ++ ", got " ++
      found.text
  | .parameterList i f expected found =>
    "parameter " ++ Nat.repr i ++ " of " ++ f.name ++ " must be a single " ++ expected.text ++
      ", got " ++ found.text

inductive Complaint where
  | unreachable
  | notAvailable (field : String)
  | noField (field : String)
  | unknownResult (field : String)
  | secondList
  | noRecord (field : String) (found : ResolvedType)
  | noList (found : ResolvedType)
  | unknownOperator (word : String)
  | noPredicate (found : ResolvedType)
  | unknownFunction (name : String)
  | call (complaints : List CallComplaint)
deriving DecidableEq, Repr

def joinMessages : List String → String
  | [] => ""
  | [s] => s
  | s :: rest => s ++ "; " ++ joinMessages rest

def Complaint.message : Complaint → String
  | .unreachable => "cannot continue due to previous error"
  | .notAvailable field => "field " ++ field ++ " is not available"
  | .noField field => "field " ++ field ++ " does not exist"
  | .unknownResult field =>
    "cannot address '" ++ field ++ "' into a function result of unknown type"
  | .secondList => "cannot address into an array a second time"
  | .noRecord field found => "cannot address '" ++ field ++ "' into " ++ found.text
  | .noList found => "filter needs a list, got " ++ found.text
  | .unknownOperator word => "unknown logical operator '" ++ word ++ "'"
  | .noPredicate found =>
    "path must end in a predicate returning a single bool, got " ++ found.text
  | .unknownFunction name => "unknown function '" ++ name ++ "'"
  | .call complaints => joinMessages (complaints.map CallComplaint.message)

structure Suggestions where
  fields : List String
  functions : List String
  filters : Bool
deriving DecidableEq, Repr

def Suggestions.isEmpty (s : Suggestions) : Bool :=
  s.fields.isEmpty && s.functions.isEmpty && !s.filters

structure Note where
  text : String
  kind : NodeKind
  rootField? : Option String
  parts : List Note
  type? : Option ResolvedType
  complaint? : Option Complaint
  suggestions? : Option Suggestions

namespace Note

def bare (kind : NodeKind) (text : String) : Note := ⟨text, kind, none, [], none, none, none⟩

mutual

def complaints : Note → List Complaint
  | ⟨_, _, _, parts, _, complaint?, _⟩ => complaint?.toList ++ allComplaints parts

def allComplaints : List Note → List Complaint
  | [] => []
  | n :: notes => n.complaints ++ allComplaints notes

end

mutual

def kinds : Note → List NodeKind
  | ⟨_, kind, _, parts, _, _, _⟩ => kind :: allKinds parts

def allKinds : List Note → List NodeKind
  | [] => []
  | n :: notes => n.kinds ++ allKinds notes

end

mutual

def rootFields : Note → List String
  | ⟨_, _, rootField?, parts, _, _, _⟩ => rootField?.toList ++ allRootFields parts

def allRootFields : List Note → List String
  | [] => []
  | n :: notes => n.rootFields ++ allRootFields notes

end

def isValid (n : Note) : Bool := n.complaints.isEmpty

def validType? (n : Note) : Option ResolvedType := if n.isValid then n.type? else none

end Note

structure DataMap where
  text : String
  required : List String
deriving DecidableEq, Repr

structure Validation where
  note : Note
  dataMap : DataMap

end PathQuery
