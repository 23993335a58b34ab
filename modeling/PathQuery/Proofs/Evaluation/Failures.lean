import PathQuery.Proofs.Catalog.Causes
import PathQuery.Proofs.Query.Parts
import PathQuery.Evaluation.Basic

namespace PathQuery

def Failure.ArisesIn (ns : List Node) : Failure → Prop
  | .keyNotFound name => .segment (.field name) ∈ ns
  | .mismatch m => (∃ name k, m = .field name k ∧ .segment (.field name) ∈ ns) ∨
      ∃ g k, m = .filter k ∧ .segment (.filter g) ∈ ns
  | .rootInFilter => ∃ p, .path p ∈ ns ∧ p.origin = .root ∧ p.inFilter = true
  | .unknownFunction name => ∃ arguments, .segment (.call (.unknown name) arguments) ∈ ns
  | .invalidOperator word => ∃ g, .group g ∈ ns ∧ g.operator = .invalid word
  | .call f cause => (∃ arguments, .segment (.call (.known f) arguments) ∈ ns) ∧ f.MayFail cause

namespace Value

variable {ns : List Node}

theorem readField_fails {name : String} (h : .segment (.field name) ∈ ns) (v : Value) :
    Fails (·.ArisesIn ns) (v.readField name) := by
  have hmismatch (k : Kind) : (Failure.mismatch (.field name k)).ArisesIn ns :=
    .inl ⟨name, k, rfl, h⟩
  cases v with
  | record | map =>
    simp only [readField]
    split
    · trivial
    · exact h
  | sequence vs =>
    simp only [readField]
    split
    · exact h
    · trivial
  | _ => exact hmismatch _

theorem keep_fails {bad : Failure → Prop} {test : Value → Result} (h : ∀ v, Fails bad (test v))
    (vs : List Value) : Fails bad (keep test vs) := by
  induction vs with
  | nil => trivial
  | cons v vs ih => exact (h v).bind fun _ => ih.bind fun _ => trivial

theorem filterBy_fails {g : Group} (hg : .segment (.filter g) ∈ ns) {test : Value → Result}
    (h : ∀ v, Fails (·.ArisesIn ns) (test v)) (v : Value) :
    Fails (·.ArisesIn ns) (v.filterBy test) := by
  have hmismatch (k : Kind) : (Failure.mismatch (.filter k)).ArisesIn ns := .inr ⟨g, k, rfl, hg⟩
  cases v with
  | sequence vs => exact (keep_fails h vs).map Value.sequence
  | record | map => exact (h _).bind fun _ => trivial
  | _ => exact hmismatch _

end Value

section

variable {codecs : Codecs} {root : Value} {ns : List Node}

-- The nodes of each part are among `ns`, those of the whole query, so that all failures are of it.
mutual

theorem Path.eval_fails : ∀ (p : Path) (current : Value), p.nodes .everywhere ⊆ ns →
    Fails (·.ArisesIn ns) (p.eval codecs current root)
  | ⟨.root, true, asPredicate, segments⟩, _, h =>
    ⟨⟨.root, true, asPredicate, segments⟩, h List.mem_cons_self, rfl, rfl⟩
  | ⟨.root, false, _, segments⟩, current, h =>
    Segment.evalAll_fails segments current root (List.subset_of_cons_subset h)
  | ⟨.current, _, _, segments⟩, current, h =>
    Segment.evalAll_fails segments current current (List.subset_of_cons_subset h)
termination_by structural p => p

theorem Segment.evalAll_fails : ∀ (segments : List Segment) (current v : Value),
    Segment.allNodes .everywhere segments ⊆ ns →
    Fails (·.ArisesIn ns) (Segment.evalAll codecs current root v segments)
  | [], _, _, _ => trivial
  | s :: segments, current, v, h => by
    obtain ⟨hs, hrest⟩ := List.append_subset.mp h
    rw [Segment.evalAll]
    split
    · trivial
    · exact (Segment.eval_fails s current v hs).bind fun w =>
        Segment.evalAll_fails segments current w hrest
termination_by structural segments => segments

theorem Segment.eval_fails : ∀ (s : Segment) (current v : Value), s.nodes .everywhere ⊆ ns →
    Fails (·.ArisesIn ns) (s.eval codecs current root v)
  | .field name, _, v, h => v.readField_fails (h List.mem_cons_self)
  | .filter g, _, v, h => by
    obtain ⟨hs, hg⟩ := List.cons_subset.mp h
    exact Value.filterBy_fails hs (fun item => Group.eval_fails g item hg) v
  | .call (.unknown name) arguments, _, _, h => ⟨arguments, h List.mem_cons_self⟩
  | .call (.known f) arguments, current, v, h => by
    obtain ⟨hs, ha⟩ := List.cons_subset.mp h
    refine (Argument.evalAll_fails arguments current ha).bind fun params => ?_
    exact (f.call_fails codecs v params arguments.length).mapError fun cause hc => ⟨⟨arguments, hs⟩, hc⟩
termination_by structural s => s

theorem Argument.evalAll_fails : ∀ (arguments : List Argument) (current : Value),
    Argument.allNodes .everywhere arguments ⊆ ns →
    Fails (·.ArisesIn ns) (Argument.evalAll codecs current root arguments)
  | [], _, _ => trivial
  | a :: arguments, current, h => by
    obtain ⟨ha, hrest⟩ := List.append_subset.mp h
    exact (Argument.eval_fails a current ha).bind fun _ =>
      (Argument.evalAll_fails arguments current hrest).bind fun _ => trivial
termination_by structural arguments => arguments

theorem Argument.eval_fails : ∀ (a : Argument) (current : Value), a.nodes .everywhere ⊆ ns →
    Fails (·.ArisesIn ns) (a.eval codecs current root)
  | .number _ _, _, _ => trivial
  | .string _, _, _ => trivial
  | .bool _, _, _ => trivial
  | .path p, current, h =>
    (Path.eval_fails p current (List.subset_of_cons_subset h)).map Value.spread
termination_by structural a => a

theorem Group.eval_fails : ∀ (g : Group) (current : Value), g.nodes .everywhere ⊆ ns →
    Fails (·.ArisesIn ns) (g.eval codecs current root)
  | ⟨.and, _, _, operands⟩, current, h =>
    (Query.evalAll_fails operands current (List.subset_of_cons_subset h)).1
  | ⟨.or, _, _, operands⟩, current, h =>
    (Query.evalAll_fails operands current (List.subset_of_cons_subset h)).2
  | ⟨.invalid word, isExplicit, isBraced, operands⟩, _, h =>
    ⟨⟨.invalid word, isExplicit, isBraced, operands⟩, h List.mem_cons_self, rfl⟩
termination_by structural g => g

theorem Query.evalAll_fails : ∀ (operands : List Query) (current : Value),
    Query.allNodes .everywhere operands ⊆ ns →
    Fails (·.ArisesIn ns) (Query.evalAnd codecs current root operands) ∧
      Fails (·.ArisesIn ns) (Query.evalOr codecs current root operands)
  | [], _, _ => ⟨trivial, trivial⟩
  | q :: operands, current, h => by
    obtain ⟨hq, hrest⟩ := List.append_subset.mp h
    obtain ⟨ha, ho⟩ := Query.evalAll_fails operands current hrest
    have hq := Query.eval_fails q current hq
    constructor
    · refine hq.bind fun v => ?_
      split
      · exact ha
      · trivial
    · refine hq.bind fun v => ?_
      split
      · trivial
      · exact ho
termination_by structural operands => operands

theorem Query.eval_fails : ∀ (q : Query) (current : Value), q.nodes .everywhere ⊆ ns →
    Fails (·.ArisesIn ns) (q.eval codecs current root)
  | .path p, current, h => Path.eval_fails p current h
  | .group g, current, h => Group.eval_fails g current h
termination_by structural q => q

end

end

section

variable {codecs : Codecs} {current root : Value} {e : Failure}

theorem Argument.eval_eq_error_iff {a : Argument} : a.eval codecs current root = .error e ↔
    ∃ p, a = .path p ∧ p.eval codecs current root = .error e := by
  cases a with
  | path p => simp [Argument.eval, map_eq_error]
  | _ => simp [Argument.eval]

theorem Argument.evalAll_cons_eq_ok_iff {a : Argument} {arguments : List Argument} :
    (∃ vs, Argument.evalAll codecs current root (a :: arguments) = .ok vs) ↔
      (∃ vs, a.eval codecs current root = .ok vs) ∧
        ∃ vs, Argument.evalAll codecs current root arguments = .ok vs := by
  simp only [Argument.evalAll, bind_eq_ok, pure_eq_ok]
  constructor
  · rintro ⟨-, vs, ha, rest, hrest, -⟩
    exact ⟨⟨vs, ha⟩, rest, hrest⟩
  · rintro ⟨⟨vs, ha⟩, rest, hrest⟩
    exact ⟨vs ++ rest, vs, ha, rest, hrest, rfl⟩

theorem Argument.evalAll_cons_eq_error_iff {a : Argument} {arguments : List Argument} :
    Argument.evalAll codecs current root (a :: arguments) = .error e ↔
      a.eval codecs current root = .error e ∨ (∃ vs, a.eval codecs current root = .ok vs) ∧
        Argument.evalAll codecs current root arguments = .error e := by
  rw [Argument.evalAll, bind_eq_error]
  refine or_congr_right ?_
  constructor
  · rintro ⟨vs, ha, h⟩
    exact ⟨⟨vs, ha⟩, (bind_eq_error.mp h).resolve_right (by rintro ⟨_, -, h⟩; cases h)⟩
  · rintro ⟨⟨vs, ha⟩, h⟩
    exact ⟨vs, ha, bind_eq_error.mpr (.inl h)⟩

theorem Argument.evalAll_eq_error_iff {arguments : List Argument} :
    Argument.evalAll codecs current root arguments = .error e ↔
      ∃ before p after, arguments = before ++ .path p :: after ∧
        (∃ vs, Argument.evalAll codecs current root before = .ok vs) ∧
        p.eval codecs current root = .error e := by
  induction arguments with
  | nil => exact ⟨nofun, fun ⟨before, p, after, h, _⟩ => absurd h (by simp)⟩
  | cons a arguments ih =>
    rw [Argument.evalAll_cons_eq_error_iff, Argument.eval_eq_error_iff, ih]
    constructor
    · rintro (⟨p, rfl, hp⟩ | ⟨ha, before, p, after, rfl, hb, hp⟩)
      · exact ⟨[], p, arguments, rfl, ⟨[], rfl⟩, hp⟩
      · exact ⟨a :: before, p, after, rfl, Argument.evalAll_cons_eq_ok_iff.mpr ⟨ha, hb⟩, hp⟩
    · rintro ⟨before, p, after, h, hb, hp⟩
      cases before with
      | nil =>
        obtain ⟨rfl, rfl⟩ := List.cons.inj h
        exact .inl ⟨p, rfl, hp⟩
      | cons b before =>
        obtain ⟨rfl, rfl⟩ := List.cons.inj h
        obtain ⟨ha, hb⟩ := Argument.evalAll_cons_eq_ok_iff.mp hb
        exact .inr ⟨ha, before, p, after, rfl, hb, hp⟩

theorem Segment.eval_call_eq_error_iff {f : Builtin} {arguments : List Argument} {v : Value} :
    (Segment.call (.known f) arguments).eval codecs current root v = .error e ↔
      Argument.evalAll codecs current root arguments = .error e ∨
        ∃ params cause, Argument.evalAll codecs current root arguments = .ok params ∧
          f.call codecs v params arguments.length = .error cause ∧ e = .call f cause := by
  rw [Segment.eval, bind_eq_error]
  simp only [mapError_eq_error, exists_and_left]

end

theorem Query.eval_failure (codecs : Codecs) (q : Query) (current root : Value) :
    (∀ e, q.eval codecs current root = .error e → e.ArisesIn (q.nodes .everywhere)) ∧
      ∀ f arguments v e,
        (Segment.call (.known f) arguments).eval codecs current root v = .error e ↔
          (∃ before p after, arguments = before ++ .path p :: after ∧
            (∃ vs, Argument.evalAll codecs current root before = .ok vs) ∧
            p.eval codecs current root = .error e) ∨
          ∃ params cause, Argument.evalAll codecs current root arguments = .ok params ∧
            f.call codecs v params arguments.length = .error cause ∧ e = .call f cause := by
  constructor
  · intro e h
    exact (q.eval_fails current (List.Subset.refl _)).of_error h
  · intro f arguments v e
    rw [Segment.eval_call_eq_error_iff, Argument.evalAll_eq_error_iff]

theorem Query.eval_failure_nested :
    let quotient : Path := ⟨.root, false, false,
      [.field "b", .call (.known .div) [.number .zero "0"]]⟩
    let q : Query := .path ⟨.root, false, false, [.field "a", .call (.known .add) [.path quotient]]⟩
    let d : Value := .record [("a", .number .zero), ("b", .number .zero)]
    q.eval (.none .bare) d d = .error (.call .div .divisionByZero) ∧
      (Failure.call .div .divisionByZero).ArisesIn (q.nodes .everywhere) := by
  intro quotient q d
  have h : q.eval (.none .bare) d d = .error (.call .div .divisionByZero) := rfl
  exact ⟨h, (Query.eval_failure (.none .bare) q d d).1 _ h⟩

end PathQuery
