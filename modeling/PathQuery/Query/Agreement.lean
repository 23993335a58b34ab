import PathQuery.Query.Basic

namespace PathQuery

mutual

def Path.agrees : Path → Path → Bool
  | ⟨origin, inFilter, asPredicate, segments⟩, ⟨origin', inFilter', asPredicate', segments'⟩ =>
    origin == origin' && inFilter == inFilter' && asPredicate == asPredicate' &&
      Segment.listAgrees segments segments'

def Segment.listAgrees : List Segment → List Segment → Bool
  | [], [] => true
  | a :: as, b :: bs => a.agrees b && Segment.listAgrees as bs
  | _, _ => false

def Segment.agrees : Segment → Segment → Bool
  | .field a, .field b => a == b
  | .filter g, .filter h => g.agrees h
  | .call f as, .call g bs => f == g && Argument.listAgrees as bs
  | _, _ => false

def Argument.listAgrees : List Argument → List Argument → Bool
  | [], [] => true
  | a :: as, b :: bs => a.agrees b && Argument.listAgrees as bs
  | _, _ => false

def Argument.agrees : Argument → Argument → Bool
  | .number d s, .number e t => d.sameNumber e && s == t
  | .string s, .string t => s == t
  | .bool a, .bool b => a == b
  | .path p, .path q => p.agrees q
  | _, _ => false

def Group.agrees : Group → Group → Bool
  | ⟨operator, isExplicit, isBraced, operands⟩, ⟨operator', isExplicit', isBraced', operands'⟩ =>
    operator == operator' && isExplicit == isExplicit' && isBraced == isBraced' &&
      Query.listAgrees operands operands'

def Query.listAgrees : List Query → List Query → Bool
  | [], [] => true
  | a :: as, b :: bs => a.agrees b && Query.listAgrees as bs
  | _, _ => false

def Query.agrees : Query → Query → Bool
  | .path p, .path q => p.agrees q
  | .group g, .group h => g.agrees h
  | _, _ => false

end

end PathQuery
