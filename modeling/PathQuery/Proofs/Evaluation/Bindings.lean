import PathQuery.Proofs.Query.Parts
import PathQuery.Evaluation.Basic

namespace PathQuery

def Node.startsAt (o : Origin) : Node → Bool
  | .path p => p.origin == o
  | _ => false

def Query.readsCurrent (q : Query) : Bool := (q.nodes .outsideFilters).any (·.startsAt .current)

def Query.readsRoot (q : Query) : Bool := (q.nodes .everywhere).any (·.startsAt .root)

structure SameFor (free all : List Node) (c c' r r' : Value) : Prop where
  current : ∀ n ∈ free, n.startsAt .current = true → c = c'
  root : ∀ n ∈ all, n.startsAt .root = true → r = r'

namespace SameFor

variable {n : Node} {free free' all all' : List Node} {c c' r r' : Value}

theorem tail (h : SameFor (n :: free) (n :: all) c c' r r') : SameFor free all c c' r r' :=
  ⟨(List.forall_mem_cons.mp h.current).2, (List.forall_mem_cons.mp h.root).2⟩

theorem left (h : SameFor (free ++ free') (all ++ all') c c' r r') : SameFor free all c c' r r' :=
  ⟨(List.forall_mem_append.mp h.current).1, (List.forall_mem_append.mp h.root).1⟩

theorem right (h : SameFor (free ++ free') (all ++ all') c c' r r') :
    SameFor free' all' c c' r r' :=
  ⟨(List.forall_mem_append.mp h.current).2, (List.forall_mem_append.mp h.root).2⟩

-- What is free within a filter is not free around it, but reads the same element in both runs.
theorem within (h : SameFor free (n :: all) c c' r r') (v : Value) :
    SameFor free' all v v r r' :=
  ⟨fun _ _ _ => rfl, (List.forall_mem_cons.mp h.root).2⟩

end SameFor

section

variable {codecs : Codecs}

-- Both pairs of values vary: a filter goes on with the same value at hand, a path with the same one of
-- the pair it starts at.
mutual

theorem Path.eval_congr : ∀ (p : Path) {c c' r r' : Value},
    SameFor (p.nodes .outsideFilters) (p.nodes .everywhere) c c' r r' →
    p.eval codecs c r = p.eval codecs c' r'
  | ⟨.root, true, _, _⟩, _, _, _, _, _ => rfl
  | ⟨.root, false, _, segments⟩, _, _, r, r', h => by
    have hr : r = r' := h.root _ List.mem_cons_self rfl
    rw [Path.eval, Path.eval, ← hr]
    exact Segment.evalAll_congr segments r (hr ▸ h.tail)
  | ⟨.current, _, _, segments⟩, c, c', _, _, h => by
    have hc : c = c' := h.current _ List.mem_cons_self rfl
    rw [Path.eval, Path.eval, ← hc]
    exact Segment.evalAll_congr segments c (hc ▸ h.tail)
termination_by structural p => p

theorem Segment.evalAll_congr : ∀ (segments : List Segment) (v : Value) {c c' r r' : Value},
    SameFor (Segment.allNodes .outsideFilters segments) (Segment.allNodes .everywhere segments)
      c c' r r' →
    Segment.evalAll codecs c r v segments = Segment.evalAll codecs c' r' v segments
  | [], _, _, _, _, _, _ => rfl
  | s :: segments, v, _, _, _, _, h => by
    rw [Segment.evalAll, Segment.evalAll, Segment.eval_congr s v h.left]
    split
    · rfl
    · exact bind_congr fun w => Segment.evalAll_congr segments w h.right
termination_by structural segments => segments

theorem Segment.eval_congr : ∀ (s : Segment) (v : Value) {c c' r r' : Value},
    SameFor (s.nodes .outsideFilters) (s.nodes .everywhere) c c' r r' →
    s.eval codecs c r v = s.eval codecs c' r' v
  | .field _, _, _, _, _, _, _ => rfl
  | .filter g, v, _, _, r, r', h => by
    have hg : (fun item => g.eval codecs item r) = fun item => g.eval codecs item r' :=
      funext fun item => Group.eval_congr g (h.within item)
    rw [Segment.eval, Segment.eval, hg]
  | .call (.unknown _) _, _, _, _, _, _, _ => rfl
  | .call (.known _) arguments, _, _, _, _, _, h => by
    rw [Segment.eval, Segment.eval, Argument.evalAll_congr arguments h.tail]
termination_by structural s => s

theorem Argument.evalAll_congr : ∀ (arguments : List Argument) {c c' r r' : Value},
    SameFor (Argument.allNodes .outsideFilters arguments) (Argument.allNodes .everywhere arguments)
      c c' r r' →
    Argument.evalAll codecs c r arguments = Argument.evalAll codecs c' r' arguments
  | [], _, _, _, _, _ => rfl
  | a :: arguments, _, _, _, _, h => by
    rw [Argument.evalAll, Argument.evalAll, Argument.eval_congr a h.left,
      Argument.evalAll_congr arguments h.right]
termination_by structural arguments => arguments

theorem Argument.eval_congr : ∀ (a : Argument) {c c' r r' : Value},
    SameFor (a.nodes .outsideFilters) (a.nodes .everywhere) c c' r r' →
    a.eval codecs c r = a.eval codecs c' r'
  | .number _ _, _, _, _, _, _ => rfl
  | .string _, _, _, _, _, _ => rfl
  | .bool _, _, _, _, _, _ => rfl
  | .path p, _, _, _, _, h => by
    rw [Argument.eval, Argument.eval, Path.eval_congr p h.tail]
termination_by structural a => a

theorem Group.eval_congr : ∀ (g : Group) {c c' r r' : Value},
    SameFor (g.nodes .outsideFilters) (g.nodes .everywhere) c c' r r' →
    g.eval codecs c r = g.eval codecs c' r'
  | ⟨.and, _, _, operands⟩, _, _, _, _, h => (Query.evalAll_congr operands h.tail).1
  | ⟨.or, _, _, operands⟩, _, _, _, _, h => (Query.evalAll_congr operands h.tail).2
  | ⟨.invalid _, _, _, _⟩, _, _, _, _, _ => rfl
termination_by structural g => g

theorem Query.evalAll_congr : ∀ (operands : List Query) {c c' r r' : Value},
    SameFor (Query.allNodes .outsideFilters operands) (Query.allNodes .everywhere operands)
      c c' r r' →
    Query.evalAnd codecs c r operands = Query.evalAnd codecs c' r' operands ∧
      Query.evalOr codecs c r operands = Query.evalOr codecs c' r' operands
  | [], _, _, _, _, _ => ⟨rfl, rfl⟩
  | q :: operands, _, _, _, _, h => by
    obtain ⟨ha, ho⟩ := Query.evalAll_congr operands h.right
    constructor
    · rw [Query.evalAnd, Query.evalAnd, Query.eval_congr q h.left, ha]
    · rw [Query.evalOr, Query.evalOr, Query.eval_congr q h.left, ho]
termination_by structural operands => operands

theorem Query.eval_congr : ∀ (q : Query) {c c' r r' : Value},
    SameFor (q.nodes .outsideFilters) (q.nodes .everywhere) c c' r r' →
    q.eval codecs c r = q.eval codecs c' r'
  | .path p, _, _, _, _, h => Path.eval_congr p h
  | .group g, _, _, _, _, h => Group.eval_congr g h
termination_by structural q => q

end

end

theorem Query.eval_of_not_reads (codecs : Codecs) (q : Query) :
    (q.readsCurrent = false →
      ∀ c c' root, q.eval codecs c root = q.eval codecs c' root) ∧
    (q.readsRoot = false →
      ∀ current r r', q.eval codecs current r = q.eval codecs current r') := by
  constructor
  · intro h c c' root
    refine q.eval_congr ⟨fun n hn ho => ?_, fun _ _ _ => rfl⟩
    exact absurd ho (List.any_eq_false.mp h n hn)
  · intro h current r r'
    refine q.eval_congr ⟨fun _ _ _ => rfl, fun n hn ho => ?_⟩
    exact absurd ho (List.any_eq_false.mp h n hn)

theorem Query.eval_of_not_reads_tags :
    let q : Query := .path ⟨.root, false, false, [.field "tags",
      .filter (.ofPath ⟨.current, true, true, [.field "on"]⟩), .call (.known .any) []]⟩
    let q' : Query := .path ⟨.current, false, false, [.field "tags",
      .call (.known .equal) [.path ⟨.current, false, false, [.field "size"]⟩]]⟩
    let d : Value := .record [("tags", .sequence [.record [("on", .bool true)]]), ("size", .null)]
    q.readsCurrent = false ∧ q'.readsRoot = false ∧
      q.eval (.none .bare) .null d = q.eval (.none .bare) d d ∧
      q'.eval (.none .bare) d .null = q'.eval (.none .bare) d d := by
  intro q q' d
  have hq : q.readsCurrent = false := by decide
  have hq' : q'.readsRoot = false := by decide
  exact ⟨hq, hq', (Query.eval_of_not_reads (.none .bare) q).1 hq .null d d,
    (Query.eval_of_not_reads (.none .bare) q').2 hq' d .null d⟩

end PathQuery
