import PathQuery.Proofs.Grammar.Exactness

namespace PathQuery

open Grammar (Role)

mutual

def Path.isPlaced (role : Role) : Path → Bool
  | ⟨origin, inFilter, asPredicate, segments⟩ =>
    (inFilter == role.inFilter && asPredicate == role.asPredicate) &&
      (origin == .current || !role.inFilter) && Segment.allPlaced segments

def Segment.allPlaced : List Segment → Bool
  | [] => true
  | s :: segments => s.isPlaced && Segment.allPlaced segments

def Segment.isPlaced : Segment → Bool
  | .field _ => true
  | .filter g => g.isPlaced .filterOperand
  | .call _ arguments => Argument.allPlaced arguments

def Argument.allPlaced : List Argument → Bool
  | [] => true
  | a :: arguments => a.isPlaced && Argument.allPlaced arguments

def Argument.isPlaced : Argument → Bool
  | .path p => p.isPlaced .argument
  | _ => true

def Group.isPlaced (role : Role) : Group → Bool
  | ⟨_, _, _, operands⟩ => Query.allPlaced role operands

def Query.allPlaced (role : Role) : List Query → Bool
  | [] => true
  | q :: operands => q.isOperandPlaced role && Query.allPlaced role operands

def Query.isOperandPlaced (role : Role) : Query → Bool
  | .path p => p.isPlaced role
  | .group g => g.isPlaced role

end

def Query.isPlaced : Query → Bool
  | .path p => p.isPlaced .query
  | .group g => g.isPlaced .operand

namespace Grammar

mutual

theorem PathDerivation.isPlaced {role : Role} :
    ∀ d : PathDerivation role, d.tree.isPlaced role = true
  | .mk origin allowed segments => by
    have horigin : (origin == .current || !role.inFilter) = true := by
      cases origin with
      | root => simpa using allowed rfl
      | current => rfl
    simp only [PathDerivation.tree, Path.isPlaced, beq_self_eq_true, Bool.true_and, horigin,
      segments.allPlaced]
termination_by structural d => d

theorem SegmentsDerivation.allPlaced :
    ∀ d : SegmentsDerivation, Segment.allPlaced d.trees = true
  | .nil => rfl
  | .cons first rest => by
    simp only [SegmentsDerivation.trees, Segment.allPlaced, first.isPlaced, rest.allPlaced,
      Bool.and_self]
termination_by structural d => d

theorem SegmentDerivation.isPlaced : ∀ d : SegmentDerivation, d.tree.isPlaced = true
  | .field _ => rfl
  | .emptyCall _ => rfl
  | .call _ arguments => arguments.allPlaced
  | .filter predicate => predicate.isPredicatePlaced
termination_by structural d => d

theorem ArgumentsDerivation.allPlaced :
    ∀ d : ArgumentsDerivation, Argument.allPlaced d.trees = true
  | .one a => by simp only [ArgumentsDerivation.trees, Argument.allPlaced, a.isPlaced, Bool.and_self]
  | .more a rest => by
    simp only [ArgumentsDerivation.trees, Argument.allPlaced, a.isPlaced, rest.allPlaced,
      Bool.and_self]
termination_by structural d => d

theorem ArgumentDerivation.isPlaced : ∀ d : ArgumentDerivation, d.tree.isPlaced = true
  | .number _ _ _ => rfl
  | .string _ => rfl
  | .bool _ => rfl
  | .path p => p.isPlaced
termination_by structural d => d

theorem OperandDerivation.isPredicatePlaced {role : Role} :
    ∀ d : OperandDerivation role, d.predicate.isPlaced role = true
  | .path p => by
    simp only [OperandDerivation.predicate, Group.ofPath, Group.isPlaced, Query.allPlaced,
      Query.isOperandPlaced, p.isPlaced, Bool.and_self]
  | .group g => g.isPlaced
termination_by structural d => d

theorem OperandDerivation.isPlaced {role : Role} :
    ∀ d : OperandDerivation role, d.tree.isOperandPlaced role = true
  | .path p => p.isPlaced
  | .group g => g.isPlaced
termination_by structural d => d

theorem OperandsDerivation.allPlaced {role : Role} :
    ∀ d : OperandsDerivation role, Query.allPlaced role d.trees = true
  | .one o => by simp only [OperandsDerivation.trees, Query.allPlaced, o.isPlaced, Bool.and_self]
  | .more o rest => by
    simp only [OperandsDerivation.trees, Query.allPlaced, o.isPlaced, rest.allPlaced, Bool.and_self]
termination_by structural d => d

theorem GroupDerivation.isPlaced {role : Role} :
    ∀ d : GroupDerivation role, d.tree.isPlaced role = true
  | .mk _ operands => operands.allPlaced
termination_by structural d => d

end

theorem QueryDerivation.isPlaced (d : QueryDerivation) : d.tree.isPlaced = true := by
  cases d with
  | path p => exact p.isPlaced
  | group g => exact g.isPlaced

end Grammar

theorem Query.isPlaced_of_read {text : String} {q : Query} (h : Query.read text = .ok q) :
    q.isPlaced = true := by
  obtain ⟨d, -, rfl⟩ := Grammar.exists_derives h
  exact d.isPlaced

end PathQuery
