import PathQuery.Proofs.Result
import PathQuery.Evaluation.Basic

namespace PathQuery

def Operator.decisive : Operator → Bool
  | .or => true
  | _ => false

variable {codecs : Codecs} {current root : Value} {decisive : Bool}

def Query.evalUntil (codecs : Codecs) (current root : Value) (decisive : Bool) : List Query → Result
  | [] => .ok (.bool !decisive)
  | q :: operands => do
    let v ← q.eval codecs current root
    if v.isTrue = decisive then return .bool decisive
    else Query.evalUntil codecs current root decisive operands

theorem Query.evalAnd_eq (operands : List Query) :
    Query.evalAnd codecs current root operands =
      Query.evalUntil codecs current root false operands := by
  induction operands with
  | nil => rfl
  | cons q operands ih =>
    rw [Query.evalAnd, Query.evalUntil, ih]
    refine congrArg _ (funext fun v => ?_)
    cases v.isTrue with
    | false => rfl
    | true => rfl

theorem Query.evalOr_eq (operands : List Query) :
    Query.evalOr codecs current root operands = Query.evalUntil codecs current root true operands := by
  induction operands with
  | nil => rfl
  | cons q operands ih => rw [Query.evalOr, Query.evalUntil, ih]

theorem Group.eval_eq {op : Operator} (h : op.isValid = true) (isExplicit isBraced : Bool)
    (operands : List Query) : Group.eval codecs current root ⟨op, isExplicit, isBraced, operands⟩ =
      Query.evalUntil codecs current root op.decisive operands := by
  cases op with
  | and => exact Query.evalAnd_eq operands
  | or => exact Query.evalOr_eq operands
  | invalid word => cases h

namespace Query

theorem evalUntil_append (xs ys : List Query) :
    evalUntil codecs current root decisive (xs ++ ys) =
      evalUntil codecs current root decisive xs >>= fun v =>
        if v.isTrue = decisive then .ok (.bool decisive)
        else evalUntil codecs current root decisive ys := by
  induction xs with
  | nil =>
    have hother : (Value.bool !decisive).isTrue ≠ decisive := by
      cases decisive with
      | false => decide
      | true => decide
    rw [List.nil_append, evalUntil, ok_bind, if_neg hother]
  | cons x xs ih =>
    rw [List.cons_append, evalUntil, evalUntil, bind_assoc]
    refine congrArg _ (funext fun v => ?_)
    by_cases hv : v.isTrue = decisive
    · have hdecisive : (Value.bool decisive).isTrue = decisive := rfl
      rw [if_pos hv, if_pos hv, pure_bind, if_pos hdecisive]
      rfl
    · rw [if_neg hv, if_neg hv, ih]

theorem evalUntil_nested {g : Group} {ys : List Query}
    (h : g.eval codecs current root = evalUntil codecs current root decisive ys) (xs zs : List Query) :
    evalUntil codecs current root decisive (xs ++ .group g :: zs) =
      evalUntil codecs current root decisive (xs ++ ys ++ zs) := by
  have hgroup : evalUntil codecs current root decisive (.group g :: zs) =
      evalUntil codecs current root decisive (ys ++ zs) := by
    rw [evalUntil_append, evalUntil, Query.eval, h]
    rfl
  rw [List.append_assoc, evalUntil_append xs, evalUntil_append xs, hgroup]

def GoesOn (codecs : Codecs) (current root : Value) (decisive : Bool) (q : Query) : Prop :=
  ∃ v, q.eval codecs current root = .ok v ∧ v.isTrue ≠ decisive

theorem evalUntil_of_goesOn {xs : List Query}
    (h : ∀ x ∈ xs, x.GoesOn codecs current root decisive) (ys : List Query) :
    evalUntil codecs current root decisive (xs ++ ys) = evalUntil codecs current root decisive ys := by
  induction xs with
  | nil => rfl
  | cons x xs ih =>
    obtain ⟨⟨v, hx, hv⟩, h⟩ := List.forall_mem_cons.mp h
    rw [List.cons_append, evalUntil, hx, ok_bind, if_neg hv, ih h]

theorem evalUntil_of_not_goesOn {q : Query} (h : ¬q.GoesOn codecs current root decisive)
    (ys : List Query) : evalUntil codecs current root decisive (q :: ys) =
      (q.eval codecs current root).map fun _ => .bool decisive := by
  rw [evalUntil]
  cases hq : q.eval codecs current root with
  | error e => rfl
  | ok v =>
    have hv : v.isTrue = decisive := Decidable.not_not.mp fun hv => h ⟨v, hq, hv⟩
    rw [ok_bind, if_pos hv]
    rfl

theorem exists_first_not_goesOn (operands : List Query) :
    (∀ q ∈ operands, q.GoesOn codecs current root decisive) ∨
      ∃ xs q zs, operands = xs ++ q :: zs ∧ (∀ x ∈ xs, x.GoesOn codecs current root decisive) ∧
        ¬q.GoesOn codecs current root decisive := by
  induction operands with
  | nil => exact .inl (List.forall_mem_nil _)
  | cons q operands ih =>
    by_cases hq : q.GoesOn codecs current root decisive
    · rcases ih with h | ⟨xs, r, zs, rfl, hxs, hr⟩
      · exact .inl (List.forall_mem_cons.mpr ⟨hq, h⟩)
      · exact .inr ⟨q :: xs, r, zs, rfl, List.forall_mem_cons.mpr ⟨hq, hxs⟩, hr⟩
    · exact .inr ⟨[], q, operands, rfl, List.forall_mem_nil _, hq⟩

theorem evalUntil_singleton (q : Query) : evalUntil codecs current root decisive [q] =
    (q.eval codecs current root).map fun v => .bool v.isTrue := by
  rw [evalUntil]
  cases hq : q.eval codecs current root with
  | error e => rfl
  | ok v =>
    by_cases hv : v.isTrue = decisive
    · rw [ok_bind, if_pos hv, ← hv]
      rfl
    · have hother : v.isTrue = !decisive := by
        cases decisive <;> simpa using hv
      rw [ok_bind, if_neg hv, evalUntil, ← hother]
      rfl

end Query

theorem Group.eval_operands {op : Operator} (h : op.isValid = true) (isExplicit isBraced : Bool)
    (codecs : Codecs) (current root : Value) :
    (∀ (xs zs : List Query) (g : Group), g.operator = op →
      Group.eval codecs current root ⟨op, isExplicit, isBraced, xs ++ .group g :: zs⟩ =
        Group.eval codecs current root ⟨op, isExplicit, isBraced, xs ++ g.operands ++ zs⟩) ∧
    (∀ operands : List Query,
      (∀ q ∈ operands, q.GoesOn codecs current root op.decisive) ∧
          Group.eval codecs current root ⟨op, isExplicit, isBraced, operands⟩ =
            .ok (.bool !op.decisive) ∨
        ∃ xs q zs, operands = xs ++ q :: zs ∧
          (∀ x ∈ xs, x.GoesOn codecs current root op.decisive) ∧
          ¬q.GoesOn codecs current root op.decisive ∧
          ∀ zs', Group.eval codecs current root ⟨op, isExplicit, isBraced, xs ++ q :: zs'⟩ =
            (q.eval codecs current root).map fun _ => .bool op.decisive) ∧
    (∀ q : Query, Group.eval codecs current root ⟨op, isExplicit, isBraced, [q]⟩ =
      (q.eval codecs current root).map fun v => .bool v.isTrue) ∧
    ∀ p : Path, (Group.ofPath p).eval codecs current root =
      (p.eval codecs current root).map fun v => .bool v.isTrue := by
  refine ⟨?_, ?_, ?_, ?_⟩
  · rintro xs zs ⟨op', isExplicit', isBraced', ys⟩ rfl
    have hnested : Group.eval codecs current root ⟨op', isExplicit', isBraced', ys⟩ =
        Query.evalUntil codecs current root op'.decisive ys := Group.eval_eq h isExplicit' isBraced' ys
    rw [Group.eval_eq h, Group.eval_eq h, Query.evalUntil_nested hnested]
  · intro operands
    rcases Query.exists_first_not_goesOn operands with hall | ⟨xs, q, zs, hsplit, hxs, hq⟩
    · have hend := Query.evalUntil_of_goesOn hall []
      rw [List.append_nil] at hend
      exact .inl ⟨hall, (Group.eval_eq h isExplicit isBraced operands).trans hend⟩
    · refine .inr ⟨xs, q, zs, hsplit, hxs, hq, fun zs' => ?_⟩
      rw [Group.eval_eq h, Query.evalUntil_of_goesOn hxs, Query.evalUntil_of_not_goesOn hq]
  · intro q
    rw [Group.eval_eq h, Query.evalUntil_singleton]
  · intro p
    have hand : (Group.ofPath p).eval codecs current root =
        Query.evalUntil codecs current root false [.path p] := Group.eval_eq rfl false false [.path p]
    exact hand.trans (Query.evalUntil_singleton (.path p))

theorem Group.eval_operands_disjunction :
    let operand (name : String) : Query := .path ⟨.current, true, true, [.field name]⟩
    let d : Value := .record [("a", .bool true), ("b", .string "true")]
    Group.eval (.none .bare) d d ⟨.or, true, true,
        [operand "b", .group ⟨.or, true, true, [operand "b", operand "a"]⟩, operand "c"]⟩ =
      .ok (.bool true) ∧
    Group.eval (.none .bare) d d ⟨.or, true, true,
        [operand "b", .group ⟨.or, true, true, [operand "c", operand "a"]⟩]⟩ =
      .error (.keyNotFound "c") := by
  intro operand d
  obtain ⟨hnested, -⟩ := @Group.eval_operands .or rfl true true (.none .bare) d d
  have hdecided := hnested [operand "b"] [operand "c"]
    ⟨.or, true, true, [operand "b", operand "a"]⟩ rfl
  have hfailed := hnested [operand "b"] [] ⟨.or, true, true, [operand "c", operand "a"]⟩ rfl
  exact ⟨hdecided.trans rfl, hfailed.trans rfl⟩

end PathQuery
