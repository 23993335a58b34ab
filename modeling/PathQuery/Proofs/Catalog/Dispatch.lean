import Mathlib.Data.List.Basic
import PathQuery.Proofs.Catalog.Causes

namespace PathQuery

namespace Call

def takeRight? (n : Nat) (cs : List Char) : Option (List Char) :=
  if n ≤ cs.length then some (cs.drop (cs.length - n)) else none

def dropRight? (n : Nat) (cs : List Char) : Option (List Char) :=
  if n ≤ cs.length then some (cs.take (cs.length - n)) else none

def slice? (f : Nat → List Char → Option (List Char)) (subject p : Value) : Option CallResult :=
  match string subject, number p with
  | .error e, _ => some (.error e)
  | .ok _, .error e => some (.error e)
  | .ok s, .ok d =>
    (f (clamp d s.toList.length) s.toList).map fun cs => .ok (.string (String.ofList cs))

theorem clamp_le (d : Decimal) (length : Nat) : clamp d length ≤ length := Nat.min_le_right ..

theorem slice?_eq {f? : Nat → List Char → Option (List Char)} {f : Nat → List Char → List Char}
    (hf : ∀ n cs, n ≤ cs.length → f? n cs = some (f n cs)) (subject p : Value) :
    slice? f? subject p = some (slice f subject p) := by
  unfold slice? slice
  cases string subject with
  | error e => rfl
  | ok s =>
    cases number p with
    | error e => rfl
    | ok d =>
      have hcut := hf (clamp d s.toList.length) s.toList (clamp_le d _)
      simp only [hcut]
      rfl

theorem takeRight?_eq (n : Nat) (cs : List Char) (h : n ≤ cs.length) :
    takeRight? n cs = some (takeRight n cs) := if_pos h

theorem dropRight?_eq (n : Nat) (cs : List Char) (h : n ≤ cs.length) :
    dropRight? n cs = some (dropRight n cs) := if_pos h

end Call

theorem checkCounts_eq_ok {a : Arity} {declared found : Nat} :
    checkCounts a declared found = .ok () ↔
      a.accepts declared = true ∧ ∀ types, a = .fixed types → types.length = found := by
  unfold checkCounts
  cases ha : a.accepts declared with
  | false => simp
  | true =>
    cases a with
    | fixed types => by_cases hn : types.length = found <;> simp [hn]
    | variadic least type => simp

def CallFailure.NotArity : CallFailure → Prop
  | .arity _ _ => False
  | _ => True

theorem checkTypes_ne_arity (a : Arity) (params : List Value) :
    Fails CallFailure.NotArity (checkTypes a 0 params) :=
  checkTypes_fails (fun _ _ => trivial) a 0 params

namespace Builtin

def run? (f : Builtin) (codecs : Codecs) (subject : Value) (params : List Value) :
    Option CallResult :=
  match f with
  | .equal => params[0]?.map fun p => .ok (.bool (subject.sameScalar p))
  | .notEqual => params[0]?.map fun p => .ok (.bool !subject.sameScalar p)
  | .less => params[0]?.map (Call.compare Decimal.less subject)
  | .lessOrEqual => params[0]?.map (Call.compare (fun a b => !b.less a) subject)
  | .greater => params[0]?.map (Call.compare (fun a b => b.less a) subject)
  | .greaterOrEqual => params[0]?.map (Call.compare (fun a b => !a.less b) subject)
  | .contains => params[0]?.map (Call.matchText (fun s t => Text.occursIn t s) subject)
  | .notContains => params[0]?.map (Call.matchText (fun s t => !Text.occursIn t s) subject)
  | .startsWith => params[0]?.map (Call.matchText (fun s t => t.isPrefixOf s) subject)
  | .notStartsWith => params[0]?.map (Call.matchText (fun s t => !t.isPrefixOf s) subject)
  | .endsWith => params[0]?.map (Call.matchText (fun s t => t.isSuffixOf s) subject)
  | .notEndsWith => params[0]?.map (Call.matchText (fun s t => !t.isSuffixOf s) subject)
  | .anyOf => some (.ok (.bool (params.any subject.sameScalar)))
  | .count => some (Call.count subject)
  | .any => some (Call.any subject)
  | .first => some (Call.first subject)
  | .last => some (Call.last subject)
  | .index => params[0]?.map (Call.index subject)
  | .sum => some (Call.reduce Call.total? subject params)
  | .avg => some (Call.reduce Call.mean? subject params)
  | .max => some (Call.reduce (fun d ds => some (ds.foldl Decimal.max d)) subject params)
  | .min => some (Call.reduce (fun d ds => some (ds.foldl Decimal.min d)) subject params)
  | .add => params[0]?.map (Call.arithmetic Decimal.add? subject)
  | .sub => params[0]?.map (Call.arithmetic Decimal.sub? subject)
  | .mul => params[0]?.map (Call.arithmetic Decimal.mul? subject)
  | .div => params[0]?.map (Call.divide Decimal.div? subject)
  | .mod => params[0]?.map (Call.divide Decimal.rem? subject)
  | .trimLeft => params[0]?.map (Call.slice List.drop subject)
  | .trimRight => params[0]?.bind (Call.slice? Call.dropRight? subject)
  | .left => params[0]?.map (Call.slice List.take subject)
  | .right => params[0]?.bind (Call.slice? Call.takeRight? subject)
  | .replaceAll => params[0]?.bind fun p => params[1]?.map (Call.replaceAll subject p)
  | .replaceRegex => params[0]?.bind fun p => params[1]?.map (Call.replaceRegex subject p)
  | .doesMatchRegex => params[0]?.map (Call.doesMatchRegex subject)
  | .parseJson => some (Call.parse codecs .json subject)
  | .parseXml => some (Call.parse codecs .xml subject)
  | .parseYaml => some (Call.parse codecs .yaml subject)
  | .parseToml => some (Call.parse codecs .toml subject)
  | .asJson => some (.ok (.string (codecs.jsonText subject)))

def call? (f : Builtin) (codecs : Codecs) (subject : Value) (params : List Value)
    (declared : Nat) : Option CallResult :=
  match checkCounts f.signature.arity declared params.length with
  | .error e => some (.error e)
  | .ok () =>
    match checkTypes f.signature.arity 0 params with
    | .error e => some (.error e)
    | .ok () => f.run? codecs subject params

variable {f : Builtin} {codecs : Codecs} {subject p q : Value} {params : List Value}
  {declared : Nat} {a : Arity} {n : Nat}

theorem run?_nil (ha : f.signature.arity = .fixed []) :
    f.run? codecs subject [] = some (f.call0 codecs subject) := by
  cases f with
  | count | any | first | last | parseJson | parseXml | parseYaml | parseToml | asJson => rfl
  | _ => cases ha

theorem run?_singleton {type : ParameterType} (ha : f.signature.arity = .fixed [type]) :
    f.run? codecs subject [p] = some (f.call1 subject p) := by
  cases f with
  | trimRight => exact Call.slice?_eq Call.dropRight?_eq subject p
  | right => exact Call.slice?_eq Call.takeRight?_eq subject p
  | equal | notEqual | less | lessOrEqual | greater | greaterOrEqual | contains | notContains
  | startsWith | notStartsWith | endsWith | notEndsWith | index | add | sub | mul | div | mod
  | trimLeft | left | doesMatchRegex => rfl
  | _ => cases ha

theorem run?_pair {type type' : ParameterType} (ha : f.signature.arity = .fixed [type, type']) :
    f.run? codecs subject [p, q] = some (f.call2 subject p q) := by
  cases f with
  | replaceAll | replaceRegex => rfl
  | _ => cases ha

theorem run?_variadic {least : Nat} {type : ParameterType}
    (ha : f.signature.arity = .variadic least type) :
    f.run? codecs subject params = some (f.callMany subject params) := by
  cases f with
  | anyOf | sum | avg | max | min => rfl
  | _ => cases ha

theorem length_types_le {types : List ParameterType} (ha : f.signature.arity = .fixed types) :
    types.length ≤ 2 := by
  cases f <;> cases ha <;> decide

theorem call?_eq (f : Builtin) (codecs : Codecs) (subject : Value) (params : List Value)
    (declared : Nat) :
    f.call? codecs subject params declared = some (f.call codecs subject params declared) := by
  cases hcounts : checkCounts f.signature.arity declared params.length with
  | error e =>
    simp only [call?, call, hcounts]
    rfl
  | ok _ =>
    cases htypes : checkTypes f.signature.arity 0 params with
    | error e =>
      simp only [call?, call, hcounts, htypes]
      rfl
    | ok _ =>
      simp only [call?, call, hcounts, htypes, ok_bind]
      have hfixed := (checkCounts_eq_ok.mp hcounts).2
      cases ha : f.signature.arity with
      | variadic least type => exact run?_variadic ha
      | fixed types =>
        have hlength := hfixed types ha
        have hle := length_types_le ha
        rcases types with - | ⟨type, - | ⟨type', - | ⟨type'', types⟩⟩⟩
        · obtain rfl := List.length_eq_zero_iff.mp hlength.symm
          exact run?_nil ha
        · obtain ⟨p, rfl⟩ := List.length_eq_one_iff.mp hlength.symm
          exact run?_singleton ha
        · obtain ⟨p, q, rfl⟩ := List.length_eq_two.mp hlength.symm
          exact run?_pair ha
        · simp only [List.length_cons] at hle
          omega

theorem run?_fails {r : CallResult} (h : f.run? codecs subject params = some r) :
    Fails CallFailure.NotArity r := by
  have hm : ∀ m : Mismatch, m.isOfCall = true → (CallFailure.mismatch m).NotArity :=
    fun _ _ => trivial
  have hpair {g : Value → Value → CallResult} {r : CallResult}
      (h : (params[0]?.bind fun p => params[1]?.map (g p)) = some r) : ∃ p q, r = g p q := by
    obtain ⟨p, -, h⟩ := Option.bind_eq_some_iff.mp h
    obtain ⟨q, -, rfl⟩ := Option.map_eq_some_iff.mp h
    exact ⟨p, q, rfl⟩
  cases f with
  | count =>
    cases h
    exact Call.count_fails hm trivial subject
  | any =>
    cases h
    exact Call.any_fails hm subject
  | first =>
    cases h
    exact Call.first_fails hm trivial subject
  | last =>
    cases h
    exact Call.last_fails hm trivial subject
  | sum | avg | max | min =>
    cases h
    exact Call.reduce_fails hm (fun _ _ _ => trivial) subject params
  | parseJson | parseXml | parseYaml | parseToml =>
    cases h
    exact Call.parse_fails hm (fun _ => trivial) codecs _ subject
  | anyOf | asJson =>
    cases h
    trivial
  | equal | notEqual =>
    obtain ⟨p, -, rfl⟩ := Option.map_eq_some_iff.mp h
    trivial
  | less | lessOrEqual | greater | greaterOrEqual =>
    obtain ⟨p, -, rfl⟩ := Option.map_eq_some_iff.mp h
    exact Call.compare_fails hm _ subject p
  | contains | notContains | startsWith | notStartsWith | endsWith | notEndsWith =>
    obtain ⟨p, -, rfl⟩ := Option.map_eq_some_iff.mp h
    exact Call.matchText_fails hm _ subject p
  | index =>
    obtain ⟨p, -, rfl⟩ := Option.map_eq_some_iff.mp h
    exact Call.index_fails hm (fun _ _ => trivial) subject p
  | add | sub | mul =>
    obtain ⟨p, -, rfl⟩ := Option.map_eq_some_iff.mp h
    exact Call.arithmetic_fails hm trivial _ subject p
  | div | mod =>
    obtain ⟨p, -, rfl⟩ := Option.map_eq_some_iff.mp h
    exact Call.divide_fails hm trivial trivial _ subject p
  | trimLeft | left =>
    obtain ⟨p, -, rfl⟩ := Option.map_eq_some_iff.mp h
    exact Call.slice_fails hm _ subject p
  | trimRight =>
    obtain ⟨p, -, h⟩ := Option.bind_eq_some_iff.mp h
    rw [Call.slice?_eq Call.dropRight?_eq] at h
    cases h
    exact Call.slice_fails hm _ subject p
  | right =>
    obtain ⟨p, -, h⟩ := Option.bind_eq_some_iff.mp h
    rw [Call.slice?_eq Call.takeRight?_eq] at h
    cases h
    exact Call.slice_fails hm _ subject p
  | replaceAll =>
    obtain ⟨p, q, rfl⟩ := hpair h
    exact Call.replaceAll_fails hm subject p q
  | replaceRegex =>
    obtain ⟨p, q, rfl⟩ := hpair h
    exact Call.replaceRegex_fails hm trivial subject p q
  | doesMatchRegex =>
    obtain ⟨p, -, rfl⟩ := Option.map_eq_some_iff.mp h
    exact Call.doesMatchRegex_fails hm trivial subject p

theorem call_eq_arity_iff : f.call codecs subject params declared = .error (.arity a n) ↔
    checkCounts f.signature.arity declared params.length = .error (.arity a n) := by
  constructor
  · intro h
    have hcall := f.call?_eq codecs subject params declared
    rw [h, call?] at hcall
    split at hcall
    · next e he =>
      cases hcall
      exact he
    · split at hcall
      · next e he =>
        cases hcall
        cases (checkTypes_ne_arity f.signature.arity params).of_error he
      · cases run?_fails hcall
  · intro h
    simp only [call, h]
    rfl

theorem Explains.ne {e : CallFailure} (h : f.Explains e) :
    (∀ m, e ≠ .mismatch m) ∧ ∀ a n, e ≠ .arity a n := by
  constructor
  · rintro m rfl
    rcases h with h | ⟨-, fault, h⟩
    · exact h
    · cases h
  · rintro a n rfl
    rcases h with h | ⟨-, fault, h⟩
    · exact h
    · cases h

theorem call_of_signature (f : Builtin) (codecs : Codecs) (subject : Value) (params : List Value)
    (declared : Nat) :
    f.call? codecs subject params declared = some (f.call codecs subject params declared) ∧
      (∀ w, f.call codecs subject params declared = .ok w →
        f.signature.returns.Yields subject w) ∧
      (f.signature.subject.Admits subject → f.signature.arity.Admits declared params →
        ∀ e, f.call codecs subject params declared = .error e →
          (∀ m, e ≠ .mismatch m) ∧ ∀ a n, e ≠ .arity a n) := by
  refine ⟨f.call?_eq codecs subject params declared, fun w hw => call_yields hw, ?_⟩
  intro hs hp e he
  have hexplains := call_error hs hp he
  exact hexplains.ne

theorem call_of_signature_index :
    let subject : Value := .sequence [.null]
    let params : List Value := [.number ⟨false, 5, 0, by decide, by decide⟩]
    Builtin.index.signature.subject.Admits subject ∧
      Builtin.index.signature.arity.Admits 1 params ∧
      ∃ e, Builtin.index.call (.none .bare) subject params 1 = .error e ∧
        (∀ m, e ≠ .mismatch m) ∧ ∀ a n, e ≠ .arity a n := by
  intro subject params
  have hs : Builtin.index.signature.subject.Admits subject := rfl
  have hp : Builtin.index.signature.arity.Admits 1 params := by
    refine ⟨rfl, fun _ => rfl, fun i p type hi ht => ?_⟩
    cases i with
    | zero =>
      cases hi
      cases ht
      rfl
    | succ i => cases hi
  have he : Builtin.index.call (.none .bare) subject params 1 =
      .error (.indexOutOfRange ⟨false, 5, 0, by decide, by decide⟩ 1) := rfl
  obtain ⟨-, -, hfails⟩ := Builtin.index.call_of_signature (.none .bare) subject params 1
  exact ⟨hs, hp, _, he, hfails hs hp _ he⟩

end Builtin

end PathQuery
