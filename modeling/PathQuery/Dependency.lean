import PathQuery.Catalog.Signature
import PathQuery.Query.Basic

namespace PathQuery

abbrev Chain := List String

def Callee.passesThrough : Callee → Bool
  | .known f => f.signature.passesThrough
  | .unknown _ => false

mutual

def Path.chains (current : Chain) : Path → List Chain
  | ⟨.root, _, _, segments⟩ => Segment.chainsAlong current [] true segments
  | ⟨.current, _, _, segments⟩ => Segment.chainsAlong current current true segments

def Segment.chainsAlong (current chain : Chain) (isOpen : Bool) : List Segment → List Chain
  | [] => if chain.isEmpty then [] else [chain]
  | s :: segments =>
    s.ownChains current chain ++
      Segment.chainsAlong current (s.extend chain isOpen) (isOpen && s.keepsOpen) segments

def Segment.ownChains (current chain : Chain) : Segment → List Chain
  | .field _ => []
  | .filter g => g.chains chain
  | .call _ arguments => Argument.allChains current arguments

def Segment.extend (chain : Chain) (isOpen : Bool) : Segment → Chain
  | .field name => if isOpen then chain ++ [name] else chain
  | _ => chain

def Segment.keepsOpen : Segment → Bool
  | .field _ => true
  | .filter _ => false
  | .call callee _ => callee.passesThrough

def Argument.allChains (current : Chain) : List Argument → List Chain
  | [] => []
  | a :: arguments => a.chains current ++ Argument.allChains current arguments

def Argument.chains (current : Chain) : Argument → List Chain
  | .path p => p.chains current
  | _ => []

def Group.chains (current : Chain) : Group → List Chain
  | ⟨_, _, _, operands⟩ => Query.allChains current operands

def Query.allChains (current : Chain) : List Query → List Chain
  | [] => []
  | q :: operands => q.chains current ++ Query.allChains current operands

def Query.chains (current : Chain) : Query → List Chain
  | .path p => p.chains current
  | .group g => g.chains current

end

def Query.dependencies (q : Query) : List Chain := sortDistinct compareNames (q.chains [])

end PathQuery
