import PathQuery.Query.Basic

namespace PathQuery

mutual

def Path.callees : Path → List Callee
  | ⟨_, _, _, segments⟩ => Segment.allCallees segments

def Segment.allCallees : List Segment → List Callee
  | [] => []
  | s :: segments => s.callees ++ Segment.allCallees segments

def Segment.callees : Segment → List Callee
  | .field _ => []
  | .filter g => g.callees
  | .call callee arguments => callee :: Argument.allCallees arguments

def Argument.allCallees : List Argument → List Callee
  | [] => []
  | a :: arguments => a.callees ++ Argument.allCallees arguments

def Argument.callees : Argument → List Callee
  | .path p => p.callees
  | _ => []

def Group.callees : Group → List Callee
  | ⟨_, _, _, operands⟩ => Query.allCallees operands

def Query.allCallees : List Query → List Callee
  | [] => []
  | q :: operands => q.callees ++ Query.allCallees operands

def Query.callees : Query → List Callee
  | .path p => p.callees
  | .group g => g.callees

end

inductive Node where
  | path (p : Path)
  | segment (s : Segment)
  | argument (a : Argument)
  | group (g : Group)

-- Which parts of a query are meant. Within a filter the value at hand is another one.
inductive Scope where
  | everywhere | outsideFilters
deriving DecidableEq

mutual

def Path.nodes (scope : Scope) : Path → List Node
  | ⟨origin, inFilter, asPredicate, segments⟩ =>
    .path ⟨origin, inFilter, asPredicate, segments⟩ :: Segment.allNodes scope segments

def Segment.allNodes (scope : Scope) : List Segment → List Node
  | [] => []
  | s :: segments => s.nodes scope ++ Segment.allNodes scope segments

def Segment.nodes (scope : Scope) : Segment → List Node
  | .field name => [.segment (.field name)]
  | .filter g =>
    .segment (.filter g) :: match scope with
      | .everywhere => g.nodes scope
      | .outsideFilters => []
  | .call callee arguments => .segment (.call callee arguments) :: Argument.allNodes scope arguments

def Argument.allNodes (scope : Scope) : List Argument → List Node
  | [] => []
  | a :: arguments => a.nodes scope ++ Argument.allNodes scope arguments

def Argument.nodes (scope : Scope) : Argument → List Node
  | .path p => .argument (.path p) :: p.nodes scope
  | a => [.argument a]

def Group.nodes (scope : Scope) : Group → List Node
  | ⟨operator, isExplicit, isBraced, operands⟩ =>
    .group ⟨operator, isExplicit, isBraced, operands⟩ :: Query.allNodes scope operands

def Query.allNodes (scope : Scope) : List Query → List Node
  | [] => []
  | q :: operands => q.nodes scope ++ Query.allNodes scope operands

def Query.nodes (scope : Scope) : Query → List Node
  | .path p => p.nodes scope
  | .group g => g.nodes scope

end

end PathQuery
