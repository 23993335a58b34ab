import PathQuery.Evaluation.Call
import PathQuery.Proofs.Result

namespace PathQuery

def ReturnType.Yields (r : ReturnType) (subject w : Value) : Prop :=
  match r with
  | .bool => w.kind = .bool
  | .number => w.kind = .number
  | .string => w.kind = .string
  | .element => ∃ vs, subject = .sequence vs ∧ w ∈ vs
  | .unknown => True

namespace Call

theorem ofDecimal?_yields {d : Option Decimal} {w : Value} (h : ofDecimal? d = .ok w) :
    w.kind = .number := by
  cases d with
  | none => cases h
  | some d => cases h; rfl

theorem compare_yields {test : Decimal → Decimal → Bool} {subject p w : Value}
    (h : compare test subject p = .ok w) : w.kind = .bool := by
  simp only [compare, bind_eq_ok, pure_eq_ok] at h
  obtain ⟨a, -, b, -, rfl⟩ := h
  rfl

theorem matchText_yields {test : List Char → List Char → Bool} {subject p w : Value}
    (h : matchText test subject p = .ok w) : w.kind = .bool := by
  simp only [matchText, bind_eq_ok, pure_eq_ok] at h
  obtain ⟨s, -, t, -, rfl⟩ := h
  rfl

theorem count_yields {subject w : Value} (h : count subject = .ok w) : w.kind = .number := by
  cases subject with
  | null | sequence | record | map =>
    simp only [count] at h
    exact ofDecimal?_yields h
  | _ => cases h

theorem any_yields {subject w : Value} (h : any subject = .ok w) : w.kind = .bool := by
  cases subject <;> cases h <;> rfl

theorem list_eq_ok {subject : Value} {vs : List Value} (h : list subject = .ok vs) :
    subject = .sequence vs := by
  cases subject <;> cases h
  rfl

theorem first_yields {subject w : Value} (h : first subject = .ok w) :
    ∃ vs, subject = .sequence vs ∧ w ∈ vs := by
  simp only [first, bind_eq_ok] at h
  obtain ⟨vs, hvs, h⟩ := h
  split at h
  · next v hv =>
    cases h
    exact ⟨vs, list_eq_ok hvs, List.mem_of_head? hv⟩
  · cases h

theorem last_yields {subject w : Value} (h : last subject = .ok w) :
    ∃ vs, subject = .sequence vs ∧ w ∈ vs := by
  simp only [last, bind_eq_ok] at h
  obtain ⟨vs, hvs, h⟩ := h
  split at h
  · next v hv =>
    cases h
    exact ⟨vs, list_eq_ok hvs, List.mem_of_getLast? hv⟩
  · cases h

theorem index_yields {subject p w : Value} (h : index subject p = .ok w) :
    ∃ vs, subject = .sequence vs ∧ w ∈ vs := by
  simp only [index, bind_eq_ok] at h
  obtain ⟨vs, hvs, d, -, h⟩ := h
  split at h
  · split at h
    · next v hv =>
      cases h
      exact ⟨vs, list_eq_ok hvs, List.mem_of_getElem? hv⟩
    · cases h
  · cases h

theorem reduce_yields {f : Decimal → List Decimal → Option Decimal} {subject w : Value}
    {params : List Value} (h : reduce f subject params = .ok w) : w.kind = .number := by
  simp only [reduce, bind_eq_ok] at h
  obtain ⟨ds, -, h⟩ := h
  split at h
  · cases h; rfl
  · cases h; rfl
  · exact ofDecimal?_yields h

theorem arithmetic_yields {f : Decimal → Decimal → Option Decimal} {subject p w : Value}
    (h : arithmetic f subject p = .ok w) : w.kind = .number := by
  simp only [arithmetic, bind_eq_ok] at h
  obtain ⟨a, -, b, -, h⟩ := h
  exact ofDecimal?_yields h

theorem divide_yields {f : Decimal → Decimal → Option Decimal} {subject p w : Value}
    (h : divide f subject p = .ok w) : w.kind = .number := by
  simp only [divide, bind_eq_ok] at h
  obtain ⟨b, -, h⟩ := h
  split at h
  · cases h
  · exact arithmetic_yields h

theorem slice_yields {f : Nat → List Char → List Char} {subject p w : Value}
    (h : slice f subject p = .ok w) : w.kind = .string := by
  simp only [slice, bind_eq_ok, pure_eq_ok] at h
  obtain ⟨s, -, d, -, rfl⟩ := h
  rfl

theorem replaceAll_yields {subject p q w : Value} (h : replaceAll subject p q = .ok w) :
    w.kind = .string := by
  simp only [replaceAll, bind_eq_ok, pure_eq_ok] at h
  obtain ⟨s, -, t, -, u, -, rfl⟩ := h
  rfl

theorem replaceRegex_yields {subject p q w : Value} (h : replaceRegex subject p q = .ok w) :
    w.kind = .string := by
  simp only [replaceRegex, bind_eq_ok, pure_eq_ok] at h
  obtain ⟨s, -, r, -, u, -, rfl⟩ := h
  rfl

theorem doesMatchRegex_yields {subject p w : Value} (h : doesMatchRegex subject p = .ok w) :
    w.kind = .bool := by
  simp only [doesMatchRegex, bind_eq_ok, pure_eq_ok] at h
  obtain ⟨s, -, r, -, rfl⟩ := h
  rfl

end Call

namespace Builtin

variable {f : Builtin} {codecs : Codecs} {subject p q w : Value} {params : List Value}

theorem call0_yields (h : f.call0 codecs subject = .ok w) :
    f.signature.returns.Yields subject w := by
  cases f with
  | count => exact Call.count_yields h
  | any => exact Call.any_yields h
  | first => exact Call.first_yields h
  | last => exact Call.last_yields h
  | asJson => cases h; rfl
  | parseJson | parseXml | parseYaml | parseToml => trivial
  | _ => cases h

theorem call1_yields (h : f.call1 subject p = .ok w) : f.signature.returns.Yields subject w := by
  cases f with
  | equal | notEqual => cases h; rfl
  | less | lessOrEqual | greater | greaterOrEqual =>
    simp only [call1] at h
    exact Call.compare_yields h
  | contains | notContains | startsWith | notStartsWith | endsWith | notEndsWith =>
    simp only [call1] at h
    exact Call.matchText_yields h
  | index => exact Call.index_yields h
  | add | sub | mul => exact Call.arithmetic_yields h
  | div | mod => exact Call.divide_yields h
  | trimLeft | trimRight | left | right => exact Call.slice_yields h
  | doesMatchRegex => exact Call.doesMatchRegex_yields h
  | _ => cases h

theorem call2_yields (h : f.call2 subject p q = .ok w) : f.signature.returns.Yields subject w := by
  cases f with
  | replaceAll => exact Call.replaceAll_yields h
  | replaceRegex => exact Call.replaceRegex_yields h
  | _ => cases h

theorem callMany_yields (h : f.callMany subject params = .ok w) :
    f.signature.returns.Yields subject w := by
  cases f with
  | anyOf => cases h; rfl
  | sum | avg | max | min => exact Call.reduce_yields h
  | _ => cases h

theorem call_yields {declared : Nat} (h : f.call codecs subject params declared = .ok w) :
    f.signature.returns.Yields subject w := by
  simp only [call, bind_eq_ok] at h
  obtain ⟨-, -, -, -, h⟩ := h
  split at h
  · exact callMany_yields h
  · exact call0_yields h
  · exact call1_yields h
  · exact call2_yields h
  · cases h

end Builtin

end PathQuery
