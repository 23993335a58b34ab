import Mathlib.Data.List.Forall2
import PathQuery.Proofs.Query.Parts
import PathQuery.Evaluation.Basic

namespace PathQuery

inductive CallFailureKind where
  | mismatch | arity | indexOutOfRange | emptyList | divisionByZero | overflow | pattern
  | codec (fault : CodecFault)
deriving DecidableEq, Repr

def CallFailure.kind : CallFailure → CallFailureKind
  | .mismatch _ => .mismatch
  | .arity _ _ => .arity
  | .indexOutOfRange _ _ => .indexOutOfRange
  | .emptyList => .emptyList
  | .divisionByZero => .divisionByZero
  | .overflow => .overflow
  | .pattern => .pattern
  | .codec fault => .codec fault

inductive FailureKind where
  | keyNotFound | mismatch | rootInFilter | unknownFunction | invalidOperator
  | call (f : Builtin) (cause : CallFailureKind)
deriving DecidableEq, Repr

def Failure.kind : Failure → FailureKind
  | .keyNotFound _ => .keyNotFound
  | .mismatch _ => .mismatch
  | .rootInFilter => .rootInFilter
  | .unknownFunction _ => .unknownFunction
  | .invalidOperator _ => .invalidOperator
  | .call f cause => .call f cause.kind

section Alike

variable {ε δ κ ι α β γ η : Type} {kind : ε → κ} {R : α → β → Prop} {S : γ → η → Prop}
  {x : Except ε α} {y : Except ε β}

inductive Alike (kind : ε → κ) (R : α → β → Prop) : Except ε α → Except ε β → Prop
  | ok {a : α} {b : β} (h : R a b) : Alike kind R (.ok a) (.ok b)
  | error {e e' : ε} (h : kind e = kind e') : Alike kind R (.error e) (.error e')

namespace Alike

theorem bind {f : α → Except ε γ} {g : β → Except ε η} (h : Alike kind R x y)
    (hfg : ∀ a b, R a b → Alike kind S (f a) (g b)) : Alike kind S (x >>= f) (y >>= g) := by
  cases h with
  | ok hab => exact hfg _ _ hab
  | error he => exact .error he

theorem bind_eq {x y : Except ε α} {f : α → Except ε γ} {g : α → Except ε η}
    (h : Alike kind Eq x y) (hfg : ∀ a, Alike kind S (f a) (g a)) :
    Alike kind S (x >>= f) (y >>= g) := by
  refine h.bind fun a b hab => ?_
  subst hab
  exact hfg a

theorem refl (x : Except ε α) : Alike kind Eq x x := by
  cases x with
  | ok a => exact .ok rfl
  | error e => exact .error rfl

theorem map {f : α → γ} {g : β → η} (h : Alike kind R x y)
    (hfg : ∀ a b, R a b → S (f a) (g b)) : Alike kind S (x.map f) (y.map g) := by
  cases h with
  | ok hab => exact .ok (hfg _ _ hab)
  | error he => exact .error he

theorem mapError {f : ε → δ} {kind' : δ → ι} (h : Alike kind R x y)
    (hf : ∀ e e', kind e = kind e' → kind' (f e) = kind' (f e')) :
    Alike kind' R (x.mapError f) (y.mapError f) := by
  cases h with
  | ok hab => exact .ok hab
  | error he => exact .error (hf _ _ he)

theorem mono {R' : α → β → Prop} (h : Alike kind R x y) (hR : ∀ a b, R a b → R' a b) :
    Alike kind R' x y := by
  cases h with
  | ok hab => exact .ok (hR _ _ hab)
  | error he => exact .error he

end Alike

end Alike

namespace Value

def IsScalar : Value → Prop
  | .record _ | .map _ | .sequence _ => False
  | _ => True

def HasFields : Value → Prop
  | .record _ | .map _ => True
  | _ => False

namespace HasFields

variable {v : Value}

theorem isNull (h : v.HasFields) : v.isNull = false := by
  cases v with
  | record | map => rfl
  | _ => exact h.elim

theorem isTrue (h : v.HasFields) : v.isTrue = false := by
  cases v with
  | record | map => rfl
  | _ => exact h.elim

theorem spread (h : v.HasFields) : v.spread = [v] := by
  cases v with
  | record | map => rfl
  | _ => exact h.elim

theorem readField (h : v.HasFields) (name : String) :
    v.readField name = match v.lookup? name with
      | some w => .ok w
      | none => .error (.keyNotFound name) := by
  cases v with
  | record | map => rfl
  | _ => exact h.elim

theorem filterBy (h : v.HasFields) (test : Value → Result) :
    v.filterBy test = (test v).map fun w => if w.isTrue then v else .null := by
  cases v with
  | record | map => simp only [Value.filterBy]; cases test _ <;> rfl
  | _ => exact h.elim

end HasFields

inductive SameShape (R : Value → Value → Prop) : Value → Value → Prop
  | scalar {v : Value} (h : v.IsScalar) : SameShape R v v
  | fields {v v' : Value} (h : v.HasFields) (h' : v'.HasFields) : SameShape R v v'
  | list {vs vs' : List Value} (h : List.Forall₂ R vs vs') :
      SameShape R (.sequence vs) (.sequence vs')

end Value

mutual

inductive Path.Respelled (same : String → String → Prop) : Path → Path → Prop
  | intro {origin : Origin} {inFilter asPredicate : Bool} {segments segments' : List Segment}
      (h : Segment.AllRespelled same segments segments') :
      Path.Respelled same ⟨origin, inFilter, asPredicate, segments⟩
        ⟨origin, inFilter, asPredicate, segments'⟩

inductive Segment.AllRespelled (same : String → String → Prop) :
    List Segment → List Segment → Prop
  | nil : Segment.AllRespelled same [] []
  | cons {s s' : Segment} {segments segments' : List Segment} (h : Segment.Respelled same s s')
      (hs : Segment.AllRespelled same segments segments') :
      Segment.AllRespelled same (s :: segments) (s' :: segments')

inductive Segment.Respelled (same : String → String → Prop) : Segment → Segment → Prop
  | field {name name' : String} (h : same name name') :
      Segment.Respelled same (.field name) (.field name')
  | filter {g g' : Group} (h : Group.Respelled same g g') :
      Segment.Respelled same (.filter g) (.filter g')
  | call {callee : Callee} {arguments arguments' : List Argument}
      (h : Argument.AllRespelled same arguments arguments') :
      Segment.Respelled same (.call callee arguments) (.call callee arguments')

inductive Argument.AllRespelled (same : String → String → Prop) :
    List Argument → List Argument → Prop
  | nil : Argument.AllRespelled same [] []
  | cons {a a' : Argument} {arguments arguments' : List Argument}
      (h : Argument.Respelled same a a')
      (hs : Argument.AllRespelled same arguments arguments') :
      Argument.AllRespelled same (a :: arguments) (a' :: arguments')

inductive Argument.Respelled (same : String → String → Prop) : Argument → Argument → Prop
  | number (d : Decimal) (text : String) : Argument.Respelled same (.number d text) (.number d text)
  | string (s : String) : Argument.Respelled same (.string s) (.string s)
  | bool (b : Bool) : Argument.Respelled same (.bool b) (.bool b)
  | path {p p' : Path} (h : Path.Respelled same p p') : Argument.Respelled same (.path p) (.path p')

inductive Group.Respelled (same : String → String → Prop) : Group → Group → Prop
  | intro {operator : Operator} {isExplicit isBraced : Bool} {operands operands' : List Query}
      (h : Query.AllRespelled same operands operands') :
      Group.Respelled same ⟨operator, isExplicit, isBraced, operands⟩
        ⟨operator, isExplicit, isBraced, operands'⟩

inductive Query.AllRespelled (same : String → String → Prop) : List Query → List Query → Prop
  | nil : Query.AllRespelled same [] []
  | cons {q q' : Query} {operands operands' : List Query} (h : Query.Respelled same q q')
      (hs : Query.AllRespelled same operands operands') :
      Query.AllRespelled same (q :: operands) (q' :: operands')

inductive Query.Respelled (same : String → String → Prop) : Query → Query → Prop
  | path {p p' : Path} (h : Path.Respelled same p p') : Query.Respelled same (.path p) (.path p')
  | group {g g' : Group} (h : Group.Respelled same g g') :
      Query.Respelled same (.group g) (.group g')

end

section Refl

variable {same : String → String → Prop}

mutual

theorem Path.Respelled.refl (hs : ∀ name, same name name) : ∀ p : Path, p.Respelled same p
  | ⟨_, _, _, segments⟩ => .intro (Segment.AllRespelled.refl hs segments)
termination_by structural p => p

theorem Segment.AllRespelled.refl (hs : ∀ name, same name name) :
    ∀ segments : List Segment, Segment.AllRespelled same segments segments
  | [] => .nil
  | s :: segments => .cons (Segment.Respelled.refl hs s) (Segment.AllRespelled.refl hs segments)
termination_by structural segments => segments

theorem Segment.Respelled.refl (hs : ∀ name, same name name) : ∀ s : Segment, s.Respelled same s
  | .field name => .field (hs name)
  | .filter g => .filter (Group.Respelled.refl hs g)
  | .call _ arguments => .call (Argument.AllRespelled.refl hs arguments)
termination_by structural s => s

theorem Argument.AllRespelled.refl (hs : ∀ name, same name name) :
    ∀ arguments : List Argument, Argument.AllRespelled same arguments arguments
  | [] => .nil
  | a :: arguments =>
    .cons (Argument.Respelled.refl hs a) (Argument.AllRespelled.refl hs arguments)
termination_by structural arguments => arguments

theorem Argument.Respelled.refl (hs : ∀ name, same name name) : ∀ a : Argument, a.Respelled same a
  | .number d text => .number d text
  | .string s => .string s
  | .bool b => .bool b
  | .path p => .path (Path.Respelled.refl hs p)
termination_by structural a => a

theorem Group.Respelled.refl (hs : ∀ name, same name name) : ∀ g : Group, g.Respelled same g
  | ⟨_, _, _, operands⟩ => .intro (Query.AllRespelled.refl hs operands)
termination_by structural g => g

theorem Query.AllRespelled.refl (hs : ∀ name, same name name) :
    ∀ operands : List Query, Query.AllRespelled same operands operands
  | [] => .nil
  | q :: operands => .cons (Query.Respelled.refl hs q) (Query.AllRespelled.refl hs operands)
termination_by structural operands => operands

theorem Query.Respelled.refl (hs : ∀ name, same name name) : ∀ q : Query, q.Respelled same q
  | .path p => .path (Path.Respelled.refl hs p)
  | .group g => .group (Group.Respelled.refl hs g)
termination_by structural q => q

end

end Refl

theorem Argument.AllRespelled.length_eq {same : String → String → Prop}
    {arguments arguments' : List Argument} (h : Argument.AllRespelled same arguments arguments') :
    arguments.length = arguments'.length := by
  induction arguments generalizing arguments' with
  | nil => cases h; rfl
  | cons a arguments ih =>
    cases h with
    | cons _ hs => rw [List.length_cons, List.length_cons, ih hs]

def CallsOnly (allowed : Builtin → Prop) (callees : List Callee) : Prop :=
  ∀ f, .known f ∈ callees → allowed f

namespace CallsOnly

variable {allowed : Builtin → Prop} {callee : Callee} {cs cs' : List Callee}

theorem left (h : CallsOnly allowed (cs ++ cs')) : CallsOnly allowed cs :=
  fun f hf => h f (List.mem_append_left _ hf)

theorem right (h : CallsOnly allowed (cs ++ cs')) : CallsOnly allowed cs' :=
  fun f hf => h f (List.mem_append_right _ hf)

theorem tail (h : CallsOnly allowed (callee :: cs)) : CallsOnly allowed cs :=
  fun f hf => h f (List.mem_cons_of_mem _ hf)

end CallsOnly

structure IsSimulation (codecs : Codecs) (same : String → String → Prop)
    (allowed : Builtin → Prop) (R : Value → Value → Prop) : Prop where
  shape : ∀ {v v' : Value}, R v v' → Value.SameShape R v v'
  scalar : ∀ {v : Value}, v.IsScalar → R v v
  list : ∀ {vs vs' : List Value}, List.Forall₂ R vs vs' → R (.sequence vs) (.sequence vs')
  lookup : ∀ {v v' : Value} {name name' : String}, R v v' → same name name' →
    Option.Rel R (v.lookup? name) (v'.lookup? name')
  call : ∀ {f : Builtin} {v v' : Value} {params params' : List Value} (declared : Nat), allowed f →
    R v v' → List.Forall₂ R params params' →
    Alike CallFailure.kind R (f.call codecs v params declared) (f.call codecs v' params' declared)

namespace IsSimulation

variable {codecs : Codecs} {same : String → String → Prop} {allowed : Builtin → Prop}
  {R : Value → Value → Prop} {v v' : Value} {vs vs' : List Value} {name name' : String}

theorem isNull_eq (sim : IsSimulation codecs same allowed R) (h : R v v') :
    v.isNull = v'.isNull := by
  cases sim.shape h with
  | scalar _ => rfl
  | fields hv hv' => rw [hv.isNull, hv'.isNull]
  | list _ => rfl

theorem isTrue_eq (sim : IsSimulation codecs same allowed R) (h : R v v') :
    v.isTrue = v'.isTrue := by
  cases sim.shape h with
  | scalar _ => rfl
  | fields hv hv' => rw [hv.isTrue, hv'.isTrue]
  | list _ => rfl

theorem spread (sim : IsSimulation codecs same allowed R) (h : R v v') :
    List.Forall₂ R v.spread v'.spread := by
  cases hs : sim.shape h with
  | fields hv hv' =>
    rw [hv.spread, hv'.spread]
    exact .cons h .nil
  | list hvs => exact hvs
  | scalar hv =>
    cases v with
    | sequence _ => exact hv.elim
    | _ => exact .cons h .nil

theorem readField (sim : IsSimulation codecs same allowed R) (h : R v v') (hn : same name name') :
    Alike Failure.kind R (v.readField name) (v'.readField name') := by
  cases sim.shape h with
  | scalar hv =>
    cases v with
    | record _ | map _ | sequence _ => exact hv.elim
    | _ => exact .error rfl
  | fields hv hv' =>
    have hl := sim.lookup h hn
    rw [hv.readField, hv'.readField]
    cases hw : v.lookup? name <;> cases hw' : v'.lookup? name' <;> rw [hw, hw'] at hl
    · exact .error rfl
    · cases hl
    · cases hl
    · cases hl with | some hl => exact .ok hl
  | @list vs vs' hvs =>
    have hfound := List.rel_filterMap (fun _ _ hw => sim.lookup hw hn) hvs
    simp only [Value.readField]
    generalize vs.filterMap (·.lookup? name) = found at hfound ⊢
    generalize vs'.filterMap (·.lookup? name') = found' at hfound ⊢
    cases hfound with
    | nil => exact .error rfl
    | cons hw hws => exact .ok (sim.list (.cons hw hws))

section Test

variable {test test' : Value → Result}
  (ht : ∀ w w', R w w' → Alike Failure.kind R (test w) (test' w'))
include ht

theorem keep (sim : IsSimulation codecs same allowed R) (h : List.Forall₂ R vs vs') :
    Alike Failure.kind (List.Forall₂ R) (Value.keep test vs) (Value.keep test' vs') := by
  induction h with
  | nil => exact .ok .nil
  | cons hv _ ih =>
    refine (ht _ _ hv).bind fun w w' hw => ih.bind fun kept kept' hkept => ?_
    rw [sim.isTrue_eq hw]
    cases w'.isTrue with
    | true => exact .ok (.cons hv hkept)
    | false => exact .ok hkept

theorem filterBy (sim : IsSimulation codecs same allowed R) (h : R v v') :
    Alike Failure.kind R (v.filterBy test) (v'.filterBy test') := by
  cases sim.shape h with
  | scalar hv =>
    cases v with
    | record _ | map _ | sequence _ => exact hv.elim
    | _ => exact .error rfl
  | fields hv hv' =>
    rw [hv.filterBy, hv'.filterBy]
    refine (ht _ _ h).map fun w w' hw => ?_
    rw [sim.isTrue_eq hw]
    cases w'.isTrue with
    | true => exact h
    | false => exact sim.scalar trivial
  | list hvs => exact (sim.keep ht hvs).map fun _ _ => sim.list

end Test

end IsSimulation

section Eval

variable {codecs : Codecs} {same : String → String → Prop} {allowed : Builtin → Prop}
  {R : Value → Value → Prop} {r r' : Value}

-- The values at hand vary, since a filter goes on with a pair of elements; the documents stay.
mutual

theorem Path.eval_alike (sim : IsSimulation codecs same allowed R) (hr : R r r') :
    ∀ (p : Path) {p' : Path} {c c' : Value}, p.Respelled same p' → CallsOnly allowed p.callees →
    R c c' → Alike Failure.kind R (p.eval codecs c r) (p'.eval codecs c' r')
  | ⟨.root, true, _, _⟩, _, _, _, .intro _, _, _ => .error rfl
  | ⟨.root, false, _, segments⟩, _, _, _, .intro h, hf, hc =>
    Segment.evalAll_alike sim hr segments h hf hc hr
  | ⟨.current, _, _, segments⟩, _, _, _, .intro h, hf, hc =>
    Segment.evalAll_alike sim hr segments h hf hc hc
termination_by structural p => p

theorem Segment.evalAll_alike (sim : IsSimulation codecs same allowed R) (hr : R r r') :
    ∀ (segments : List Segment) {segments' : List Segment} {c c' v v' : Value},
    Segment.AllRespelled same segments segments' →
    CallsOnly allowed (Segment.allCallees segments) → R c c' → R v v' →
    Alike Failure.kind R (Segment.evalAll codecs c r v segments)
      (Segment.evalAll codecs c' r' v' segments')
  | [], _, _, _, _, _, .nil, _, _, hv => .ok hv
  | s :: segments, _, _, _, _, _, .cons h hs, hf, hc, hv => by
    rw [Segment.evalAll, Segment.evalAll, sim.isNull_eq hv]
    split
    · exact .ok (sim.scalar trivial)
    · exact (Segment.eval_alike sim hr s h hf.left hc hv).bind fun w w' hw =>
        Segment.evalAll_alike sim hr segments hs hf.right hc hw
termination_by structural segments => segments

theorem Segment.eval_alike (sim : IsSimulation codecs same allowed R) (hr : R r r') :
    ∀ (s : Segment) {s' : Segment} {c c' v v' : Value}, s.Respelled same s' →
    CallsOnly allowed s.callees → R c c' → R v v' →
    Alike Failure.kind R (s.eval codecs c r v) (s'.eval codecs c' r' v')
  | .field _, _, _, _, _, _, .field h, _, _, hv => sim.readField hv h
  | .filter g, _, _, _, _, _, .filter h, hf, _, hv =>
    sim.filterBy (fun _ _ hw => Group.eval_alike sim hr g h hf hw) hv
  | .call (.unknown _) _, _, _, _, _, _, .call _, _, _, _ => .error rfl
  | .call (.known f) arguments, _, _, _, _, _, .call h, hf, hc, hv => by
    have hallowed : allowed f := hf f List.mem_cons_self
    refine (Argument.evalAll_alike sim hr arguments h hf.tail hc).bind fun params params' hps => ?_
    rw [← Argument.AllRespelled.length_eq h]
    refine (sim.call arguments.length hallowed hv hps).mapError fun e e' he => ?_
    exact congrArg (FailureKind.call f) he
termination_by structural s => s

theorem Argument.evalAll_alike (sim : IsSimulation codecs same allowed R) (hr : R r r') :
    ∀ (arguments : List Argument) {arguments' : List Argument} {c c' : Value},
    Argument.AllRespelled same arguments arguments' →
    CallsOnly allowed (Argument.allCallees arguments) → R c c' →
    Alike Failure.kind (List.Forall₂ R) (Argument.evalAll codecs c r arguments)
      (Argument.evalAll codecs c' r' arguments')
  | [], _, _, _, .nil, _, _ => .ok .nil
  | a :: arguments, _, _, _, .cons h hs, hf, hc =>
    (Argument.eval_alike sim hr a h hf.left hc).bind fun _ _ hvs =>
      (Argument.evalAll_alike sim hr arguments hs hf.right hc).bind fun _ _ hrest =>
        .ok (List.rel_append hvs hrest)
termination_by structural arguments => arguments

theorem Argument.eval_alike (sim : IsSimulation codecs same allowed R) (hr : R r r') :
    ∀ (a : Argument) {a' : Argument} {c c' : Value}, a.Respelled same a' →
    CallsOnly allowed a.callees → R c c' →
    Alike Failure.kind (List.Forall₂ R) (a.eval codecs c r) (a'.eval codecs c' r')
  | .number _ _, _, _, _, .number _ _, _, _ => .ok (.cons (sim.scalar trivial) .nil)
  | .string _, _, _, _, .string _, _, _ => .ok (.cons (sim.scalar trivial) .nil)
  | .bool _, _, _, _, .bool _, _, _ => .ok (.cons (sim.scalar trivial) .nil)
  | .path p, _, _, _, .path h, hf, hc => (Path.eval_alike sim hr p h hf hc).map fun _ _ => sim.spread
termination_by structural a => a

theorem Group.eval_alike (sim : IsSimulation codecs same allowed R) (hr : R r r') :
    ∀ (g : Group) {g' : Group} {c c' : Value}, g.Respelled same g' → CallsOnly allowed g.callees →
    R c c' → Alike Failure.kind R (g.eval codecs c r) (g'.eval codecs c' r')
  | ⟨.and, _, _, operands⟩, _, _, _, .intro h, hf, hc =>
    (Query.evalAll_alike sim hr operands h hf hc).1
  | ⟨.or, _, _, operands⟩, _, _, _, .intro h, hf, hc =>
    (Query.evalAll_alike sim hr operands h hf hc).2
  | ⟨.invalid _, _, _, _⟩, _, _, _, .intro _, _, _ => .error rfl
termination_by structural g => g

theorem Query.evalAll_alike (sim : IsSimulation codecs same allowed R) (hr : R r r') :
    ∀ (operands : List Query) {operands' : List Query} {c c' : Value},
    Query.AllRespelled same operands operands' → CallsOnly allowed (Query.allCallees operands) →
    R c c' →
    Alike Failure.kind R (Query.evalAnd codecs c r operands)
        (Query.evalAnd codecs c' r' operands') ∧
      Alike Failure.kind R (Query.evalOr codecs c r operands) (Query.evalOr codecs c' r' operands')
  | [], _, _, _, .nil, _, _ => ⟨.ok (sim.scalar trivial), .ok (sim.scalar trivial)⟩
  | q :: operands, _, _, _, .cons h hs, hf, hc => by
    obtain ⟨ha, ho⟩ := Query.evalAll_alike sim hr operands hs hf.right hc
    have hq := Query.eval_alike sim hr q h hf.left hc
    constructor
    · refine hq.bind fun v v' hv => ?_
      rw [sim.isTrue_eq hv]
      split
      · exact ha
      · exact .ok (sim.scalar trivial)
    · refine hq.bind fun v v' hv => ?_
      rw [sim.isTrue_eq hv]
      split
      · exact .ok (sim.scalar trivial)
      · exact ho
termination_by structural operands => operands

theorem Query.eval_alike (sim : IsSimulation codecs same allowed R) (hr : R r r') :
    ∀ (q : Query) {q' : Query} {c c' : Value}, q.Respelled same q' → CallsOnly allowed q.callees →
    R c c' → Alike Failure.kind R (q.eval codecs c r) (q'.eval codecs c' r')
  | .path p, _, _, _, .path h, hf, hc => Path.eval_alike sim hr p h hf hc
  | .group g, _, _, _, .group h, hf, hc => Group.eval_alike sim hr g h hf hc
termination_by structural q => q

end

end Eval

end PathQuery
