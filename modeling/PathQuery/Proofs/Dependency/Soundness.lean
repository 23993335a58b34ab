import PathQuery.Proofs.Dependency.Step
import PathQuery.Proofs.SortedList

namespace PathQuery

def Segment.followed : List Segment → Chain
  | [] => []
  | .field name :: segments => name :: Segment.followed segments
  | .filter _ :: _ => []
  | .call callee _ :: segments => if callee.passesThrough then Segment.followed segments else []

mutual

def Path.readsFields (inFilter : Bool) : Path → Bool
  | ⟨origin, _, _, segments⟩ =>
    (inFilter && origin == .current || !(Segment.followed segments).isEmpty) &&
      Segment.allReadFields inFilter segments

def Segment.allReadFields (inFilter : Bool) : List Segment → Bool
  | [] => true
  | s :: segments => s.readsFields inFilter && Segment.allReadFields inFilter segments

def Segment.readsFields (inFilter : Bool) : Segment → Bool
  | .field _ => true
  | .filter g => g.readsFields true
  | .call _ arguments => Argument.allReadFields inFilter arguments

def Argument.allReadFields (inFilter : Bool) : List Argument → Bool
  | [] => true
  | a :: arguments => a.readsFields inFilter && Argument.allReadFields inFilter arguments

def Argument.readsFields (inFilter : Bool) : Argument → Bool
  | .path p => p.readsFields inFilter
  | _ => true

def Group.readsFields (inFilter : Bool) : Group → Bool
  | ⟨_, _, _, operands⟩ => Query.allReadFields inFilter operands

def Query.allReadFields (inFilter : Bool) : List Query → Bool
  | [] => true
  | q :: operands => q.readsFields inFilter && Query.allReadFields inFilter operands

def Query.readsFields (inFilter : Bool) : Query → Bool
  | .path p => p.readsFields inFilter
  | .group g => g.readsFields inFilter

end

def Segment.left (isOpen : Bool) (segments : List Segment) : Chain :=
  if isOpen then Segment.followed segments else []

theorem Segment.left_nil (isOpen : Bool) : Segment.left isOpen [] = [] := by
  cases isOpen <;> rfl

theorem Segment.left_cons (isOpen : Bool) (s : Segment) (segments : List Segment) (chain : Chain) :
    s.extend chain isOpen ++ Segment.left (isOpen && s.keepsOpen) segments =
      chain ++ Segment.left isOpen (s :: segments) := by
  cases isOpen <;> cases s <;>
    simp [Segment.left, Segment.extend, Segment.keepsOpen, Segment.followed]

theorem Segment.mem_chainsAlong (current : Chain) (segments : List Segment) {chain : Chain}
    {isOpen : Bool} (h : chain ++ Segment.left isOpen segments ≠ []) :
    chain ++ Segment.left isOpen segments ∈ Segment.chainsAlong current chain isOpen segments := by
  induction segments generalizing chain isOpen with
  | nil =>
    rw [Segment.left_nil, List.append_nil] at h ⊢
    simp [Segment.chainsAlong, h]
  | cons s segments ih =>
    rw [← Segment.left_cons] at h ⊢
    exact List.mem_append_right _ (ih h)

-- Two runs: they share the value at hand within filters, and outside of them each has its own
-- document at hand.
structure Runs (chains : List Chain) (root root' : Value) (inFilter : Bool) (current current' : Value)
    (chain : Chain) : Prop where
  agree : ∀ c ∈ chains, c ≠ [] → Along c root root'
  shared : inFilter = true → current = current'
  whole : inFilter = false → root = current ∧ root' = current' ∧ chain = []

theorem Runs.item {chains : List Chain} {root root' current current' : Value} {inFilter : Bool}
    {chain : Chain} (h : Runs chains root root' inFilter current current' chain) (item : Value)
    (chain' : Chain) : Runs chains root root' true item item chain' :=
  ⟨h.agree, fun _ => rfl, nofun⟩

section

variable {codecs : Codecs} {chains : List Chain} {root root' current current' : Value}
  {inFilter : Bool} {chain : Chain}

mutual

theorem Path.eval_agrees : ∀ (p : Path) {inFilter : Bool} {current current' : Value} {chain : Chain},
    Runs chains root root' inFilter current current' chain → p.readsFields inFilter = true →
    (∀ c ∈ p.chains chain, c ∈ chains) →
    p.eval codecs current root = p.eval codecs current' root'
  | ⟨.root, true, _, _⟩, _, _, _, _, _, _, _ => rfl
  | ⟨.root, false, _, segments⟩, _, _, _, _, h, hr, hc => by
    simp only [Path.readsFields, Bool.and_eq_true] at hr
    have hn : [] ++ Segment.left true segments ≠ [] := by simpa [Segment.left] using hr.1
    have ha := h.agree _ (hc _ (Segment.mem_chainsAlong _ segments hn)) hn
    exact Segment.evalAll_agrees segments h hr.2 hc ha
  | ⟨.current, _, _, segments⟩, true, _, _, _, h, hr, hc => by
    simp only [Path.readsFields, Bool.and_eq_true] at hr
    obtain rfl := h.shared rfl
    exact Segment.evalAll_agrees segments h hr.2 hc (.same (Segment.left true segments) _)
  | ⟨.current, _, _, segments⟩, false, _, _, _, h, hr, hc => by
    simp only [Path.readsFields, Bool.and_eq_true] at hr
    obtain ⟨rfl, rfl, rfl⟩ := h.whole rfl
    have hn : [] ++ Segment.left true segments ≠ [] := by simpa [Segment.left] using hr.1
    have ha := h.agree _ (hc _ (Segment.mem_chainsAlong _ segments hn)) hn
    exact Segment.evalAll_agrees segments h hr.2 hc ha
termination_by structural p => p

theorem Segment.evalAll_agrees : ∀ (segments : List Segment) {inFilter isOpen : Bool}
    {current current' v v' : Value} {chain along : Chain},
    Runs chains root root' inFilter current current' chain →
    Segment.allReadFields inFilter segments = true →
    (∀ c ∈ Segment.chainsAlong chain along isOpen segments, c ∈ chains) →
    Along (Segment.left isOpen segments) v v' →
    Segment.evalAll codecs current root v segments = Segment.evalAll codecs current' root' v' segments
  | [], _, isOpen, _, _, v, v', _, _, _, _, _, ha => by
    rw [Segment.left_nil] at ha
    rw [Segment.evalAll, Segment.evalAll, ha.eq]
  | s :: segments, _, isOpen, _, _, v, v', _, _, h, hr, hc, ha => by
    simp only [Segment.allReadFields, Bool.and_eq_true] at hr
    simp only [Segment.chainsAlong, List.forall_mem_append] at hc
    rw [Segment.evalAll, Segment.evalAll, ha.isNull_eq]
    split
    · rfl
    · exact (Segment.eval_agrees s segments h hr.1 hc.1 ha).bind_eq fun w w' hw =>
        Segment.evalAll_agrees segments h hr.2 hc.2 hw
termination_by structural segments => segments

theorem Segment.eval_agrees : ∀ (s : Segment) (segments : List Segment) {inFilter isOpen : Bool}
    {current current' v v' : Value} {chain along : Chain},
    Runs chains root root' inFilter current current' chain → s.readsFields inFilter = true →
    (∀ c ∈ s.ownChains chain along, c ∈ chains) → Along (Segment.left isOpen (s :: segments)) v v' →
    ResultAlong (Segment.left (isOpen && s.keepsOpen) segments) (s.eval codecs current root v)
      (s.eval codecs current' root' v')
  | .field name, segments, _, true, _, _, v, v', _, _, _, _, _, ha => readField_along ha
  | .field name, segments, _, false, _, _, v, v', _, _, _, _, _, ha => by
    rw [ha.eq]
    exact .refl _ _
  | .filter g, segments, _, isOpen, _, _, v, v', _, along, h, hr, hc, ha => by
    have hv : v = v' := by cases isOpen <;> exact ha.eq
    have hg : (fun item => g.eval codecs item root) = fun item => g.eval codecs item root' :=
      funext fun item => Group.eval_agrees g (h.item item along) hr hc
    rw [Segment.eval, Segment.eval, hv, hg]
    exact .refl _ _
  | .call (.unknown name) arguments, segments, _, isOpen, _, _, v, v', _, _, _, _, _, _ => rfl
  | .call (.known f) arguments, segments, _, isOpen, _, _, v, v', _, _, h, hr, hc, ha => by
    rw [Segment.eval, Segment.eval, Argument.evalAll_agrees arguments h hr hc]
    refine ResultAlong.bind _ fun params => ResultAlong.mapError _ ?_
    cases hf : f.signature.passesThrough with
    | false =>
      have hv : v = v' := by
        cases isOpen <;> simp [Segment.left, Segment.followed, Callee.passesThrough, hf] at ha <;>
          exact ha.eq
      rw [hv]
      exact .refl _ _
    | true =>
      simp [Segment.left, Segment.followed, Segment.keepsOpen, Callee.passesThrough, hf] at ha ⊢
      exact call_along hf codecs params _ ha
termination_by structural s => s

theorem Argument.evalAll_agrees : ∀ (arguments : List Argument) {inFilter : Bool}
    {current current' : Value} {chain : Chain},
    Runs chains root root' inFilter current current' chain →
    Argument.allReadFields inFilter arguments = true →
    (∀ c ∈ Argument.allChains chain arguments, c ∈ chains) →
    Argument.evalAll codecs current root arguments = Argument.evalAll codecs current' root' arguments
  | [], _, _, _, _, _, _, _ => rfl
  | a :: arguments, _, _, _, _, h, hr, hc => by
    simp only [Argument.allReadFields, Bool.and_eq_true] at hr
    simp only [Argument.allChains, List.forall_mem_append] at hc
    rw [Argument.evalAll, Argument.evalAll, Argument.eval_agrees a h hr.1 hc.1,
      Argument.evalAll_agrees arguments h hr.2 hc.2]
termination_by structural arguments => arguments

theorem Argument.eval_agrees : ∀ (a : Argument) {inFilter : Bool} {current current' : Value}
    {chain : Chain}, Runs chains root root' inFilter current current' chain →
    a.readsFields inFilter = true → (∀ c ∈ a.chains chain, c ∈ chains) →
    a.eval codecs current root = a.eval codecs current' root'
  | .number _ _, _, _, _, _, _, _, _ => rfl
  | .string _, _, _, _, _, _, _, _ => rfl
  | .bool _, _, _, _, _, _, _, _ => rfl
  | .path p, _, _, _, _, h, hr, hc => by
    rw [Argument.eval, Argument.eval, Path.eval_agrees p h hr hc]
termination_by structural a => a

theorem Group.eval_agrees : ∀ (g : Group) {inFilter : Bool} {current current' : Value}
    {chain : Chain}, Runs chains root root' inFilter current current' chain →
    g.readsFields inFilter = true → (∀ c ∈ g.chains chain, c ∈ chains) →
    g.eval codecs current root = g.eval codecs current' root'
  | ⟨.and, _, _, operands⟩, _, _, _, _, h, hr, hc => (Query.evalAll_agrees operands h hr hc).1
  | ⟨.or, _, _, operands⟩, _, _, _, _, h, hr, hc => (Query.evalAll_agrees operands h hr hc).2
  | ⟨.invalid _, _, _, _⟩, _, _, _, _, _, _, _ => rfl
termination_by structural g => g

theorem Query.evalAll_agrees : ∀ (operands : List Query) {inFilter : Bool}
    {current current' : Value} {chain : Chain},
    Runs chains root root' inFilter current current' chain →
    Query.allReadFields inFilter operands = true →
    (∀ c ∈ Query.allChains chain operands, c ∈ chains) →
    Query.evalAnd codecs current root operands = Query.evalAnd codecs current' root' operands ∧
      Query.evalOr codecs current root operands = Query.evalOr codecs current' root' operands
  | [], _, _, _, _, _, _, _ => ⟨rfl, rfl⟩
  | q :: operands, _, _, _, _, h, hr, hc => by
    simp only [Query.allReadFields, Bool.and_eq_true] at hr
    simp only [Query.allChains, List.forall_mem_append] at hc
    obtain ⟨ha, ho⟩ := Query.evalAll_agrees operands h hr.2 hc.2
    have hq := Query.eval_agrees q h hr.1 hc.1
    rw [Query.evalAnd, Query.evalAnd, Query.evalOr, Query.evalOr, hq, ha, ho]
    exact ⟨rfl, rfl⟩
termination_by structural operands => operands

theorem Query.eval_agrees : ∀ (q : Query) {inFilter : Bool} {current current' : Value}
    {chain : Chain}, Runs chains root root' inFilter current current' chain →
    q.readsFields inFilter = true → (∀ c ∈ q.chains chain, c ∈ chains) →
    q.eval codecs current root = q.eval codecs current' root'
  | .path p, _, _, _, _, h, hr, hc => Path.eval_agrees p h hr hc
  | .group g, _, _, _, _, h, hr, hc => Group.eval_agrees g h hr hc
termination_by structural q => q

end

end

theorem Query.eval_prune (codecs : Codecs) (q : Query) (d : Value)
    (h : q.readsFields false = true) :
    q.eval codecs (d.prune q.dependencies) (d.prune q.dependencies) = q.eval codecs d d := by
  have hruns : Runs q.dependencies d (d.prune q.dependencies) false d (d.prune q.dependencies) [] :=
    ⟨fun c hc hn => d.prune_along hc hn, nofun, fun _ => ⟨rfl, rfl, rfl⟩⟩
  exact (Query.eval_agrees q hruns h fun c hc => mem_sortDistinct eq_of_compareNames hc).symm

theorem Query.eval_prune_items :
    let q : Query := .path ⟨.root, false, false, [.field "ITEMS", .call (.known .first) [],
      .field "tags", .filter ⟨.and, false, false, [.path ⟨.current, true, true, [.field "on"]⟩]⟩,
      .call (.known .any) [],
      .call (.known .equal) [.path ⟨.current, false, false, [.field "flag"]⟩]]⟩
    let tags : Value := .sequence [.record [("on", .bool true), ("size", .string "8")]]
    let whole : Value := .record [("items", .sequence [.record [("tags", tags), ("key", .null)],
      .null]), ("note", .string "n"), ("flag", .bool true)]
    let part : Value := .record [("items", .sequence [.record [("tags", tags)], .null]),
      ("flag", .bool true)]
    q.readsFields false = true ∧ whole.prune q.dependencies = part ∧
      q.eval (.none .bare) (whole.prune q.dependencies) (whole.prune q.dependencies) =
        q.eval (.none .bare) whole whole :=
  ⟨by decide, rfl, Query.eval_prune (.none .bare) _ _ (by decide)⟩

end PathQuery
