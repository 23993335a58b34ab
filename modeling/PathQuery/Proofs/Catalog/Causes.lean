import PathQuery.Proofs.Catalog.Faults

namespace PathQuery

def Mismatch.isOfCall : Mismatch → Bool
  | .field _ _ | .filter _ => false
  | _ => true

def Builtin.mayOverflow : Builtin → Bool
  | .count | .sum | .avg | .add | .sub | .mul | .div | .mod => true
  | _ => false

def Builtin.MayFail (f : Builtin) : CallFailure → Prop
  | .mismatch m => m.isOfCall = true
  | .arity a _ => a = f.signature.arity
  | .indexOutOfRange _ _ => f = .index
  | .emptyList => f = .first ∨ f = .last
  | .divisionByZero => f = .div ∨ f = .mod
  | .overflow => f.mayOverflow = true
  | .pattern => f = .replaceRegex ∨ f = .doesMatchRegex
  | .codec _ => f.isReader = true

namespace Call

variable {bad : CallFailure → Prop}

theorem ofDecimal?_fails {d : Option Decimal} (ho : d = none → bad .overflow) :
    Fails bad (ofDecimal? d) := by
  cases d with
  | none => exact ho rfl
  | some d => trivial

variable (hm : ∀ m : Mismatch, m.isOfCall = true → bad (.mismatch m))
include hm

theorem number_fails (v : Value) : Fails bad (number v) := by
  cases v with
  | number d => trivial
  | _ => exact hm _ rfl

theorem string_fails (v : Value) : Fails bad (string v) := by
  cases v with
  | string s => trivial
  | _ => exact hm _ rfl

theorem list_fails (v : Value) : Fails bad (list v) := by
  cases v with
  | sequence vs => trivial
  | _ => exact hm _ rfl

theorem numbers_fails (vs : List Value) : Fails bad (numbers vs) := by
  induction vs with
  | nil => trivial
  | cons v vs ih => exact (number_fails hm v).bind fun _ => ih.bind fun _ => trivial

theorem compare_fails (test : Decimal → Decimal → Bool) (subject p : Value) :
    Fails bad (compare test subject p) :=
  (number_fails hm subject).bind fun _ => (number_fails hm p).bind fun _ => trivial

theorem matchText_fails (test : List Char → List Char → Bool) (subject p : Value) :
    Fails bad (matchText test subject p) :=
  (string_fails hm subject).bind fun _ => (string_fails hm p).bind fun _ => trivial

theorem count_fails (ho : bad .overflow) (subject : Value) : Fails bad (count subject) := by
  cases subject with
  | null | sequence | record | map =>
    simp only [count]
    exact ofDecimal?_fails fun _ => ho
  | _ => exact hm _ rfl

theorem any_fails (subject : Value) : Fails bad (any subject) := by
  cases subject with
  | null | sequence | record | map => trivial
  | _ => exact hm _ rfl

theorem first_fails (he : bad .emptyList) (subject : Value) : Fails bad (first subject) := by
  refine (list_fails hm subject).bind fun vs => ?_
  split
  · trivial
  · exact he

theorem last_fails (he : bad .emptyList) (subject : Value) : Fails bad (last subject) := by
  refine (list_fails hm subject).bind fun vs => ?_
  split
  · trivial
  · exact he

theorem index_fails (hi : ∀ d n, bad (.indexOutOfRange d n)) (subject p : Value) :
    Fails bad (index subject p) := by
  refine (list_fails hm subject).bind fun vs => (number_fails hm p).bind fun d => ?_
  split
  · split
    · trivial
    · exact hi d vs.length
  · exact hi d vs.length

theorem pool_fails (subject : Value) (params : List Value) : Fails bad (pool subject params) := by
  have hmore (own : List Decimal) : Fails bad (numbers params >>= fun more => .ok (own ++ more)) :=
    (numbers_fails hm params).bind fun _ => trivial
  cases subject with
  | sequence vs => exact (numbers_fails hm vs).bind hmore
  | _ => exact ((number_fails hm _).map ([·])).bind hmore

theorem reduce_fails {f : Decimal → List Decimal → Option Decimal}
    (ho : ∀ d ds, f d ds = none → bad .overflow) (subject : Value) (params : List Value) :
    Fails bad (reduce f subject params) := by
  refine (pool_fails hm subject params).bind fun ds => ?_
  split
  · trivial
  · trivial
  · exact ofDecimal?_fails (ho _ _)

theorem arithmetic_fails (ho : bad .overflow) (f : Decimal → Decimal → Option Decimal)
    (subject p : Value) : Fails bad (arithmetic f subject p) :=
  (number_fails hm subject).bind fun _ => (number_fails hm p).bind fun _ =>
    ofDecimal?_fails fun _ => ho

theorem divide_fails (ho : bad .overflow) (hz : bad .divisionByZero)
    (f : Decimal → Decimal → Option Decimal) (subject p : Value) :
    Fails bad (divide f subject p) := by
  refine (number_fails hm p).bind fun d => ?_
  split
  · exact hz
  · exact arithmetic_fails hm ho f subject p

theorem slice_fails (f : Nat → List Char → List Char) (subject p : Value) :
    Fails bad (slice f subject p) :=
  (string_fails hm subject).bind fun _ => (number_fails hm p).bind fun _ => trivial

theorem replaceAll_fails (subject p q : Value) : Fails bad (replaceAll subject p q) :=
  (string_fails hm subject).bind fun _ => (string_fails hm p).bind fun _ =>
    (string_fails hm q).bind fun _ => trivial

theorem regex_fails (hp : bad .pattern) (v : Value) : Fails bad (regex v) := by
  refine (string_fails hm v).bind fun s => ?_
  split
  · trivial
  · exact hp

theorem replaceRegex_fails (hp : bad .pattern) (subject p q : Value) :
    Fails bad (replaceRegex subject p q) :=
  (string_fails hm subject).bind fun _ => (regex_fails hm hp p).bind fun _ =>
    (string_fails hm q).bind fun _ => trivial

theorem doesMatchRegex_fails (hp : bad .pattern) (subject p : Value) :
    Fails bad (doesMatchRegex subject p) :=
  (string_fails hm subject).bind fun _ => (regex_fails hm hp p).bind fun _ => trivial

theorem parse_fails (hc : ∀ fault, bad (.codec fault)) (codecs : Codecs) (form : Format)
    (subject : Value) : Fails bad (parse codecs form subject) := by
  refine (string_fails hm subject).bind fun s => ?_
  cases codecs.read form s with
  | error fault => exact hc fault
  | ok v => trivial

end Call

theorem checkTypes_fails {bad : CallFailure → Prop}
    (hm : ∀ m : Mismatch, m.isOfCall = true → bad (.mismatch m)) (a : Arity) (i : Nat)
    (params : List Value) : Fails bad (checkTypes a i params) := by
  induction params generalizing i with
  | nil => trivial
  | cons p params ih =>
    simp only [checkTypes]
    split
    · exact ih (i + 1)
    · split
      · exact ih (i + 1)
      · exact hm _ rfl

theorem checkCounts_fails {bad : CallFailure → Prop} {a : Arity} (ha : ∀ n, bad (.arity a n))
    (declared found : Nat) : Fails bad (checkCounts a declared found) := by
  unfold checkCounts
  split
  · exact ha declared
  · split
    · split
      · trivial
      · exact ha found
    · trivial

namespace Builtin

variable (f : Builtin) (codecs : Codecs) (subject : Value)

theorem mayFail_mismatch (m : Mismatch) (hm : m.isOfCall = true) : f.MayFail (.mismatch m) := hm

theorem call0_fails : Fails f.MayFail (f.call0 codecs subject) := by
  have hm := f.mayFail_mismatch
  cases f with
  | count => exact Call.count_fails hm rfl subject
  | any => exact Call.any_fails hm subject
  | first => exact Call.first_fails hm (.inl rfl) subject
  | last => exact Call.last_fails hm (.inr rfl) subject
  | parseJson | parseXml | parseYaml | parseToml =>
    exact Call.parse_fails hm (fun _ => rfl) codecs _ subject
  | asJson => trivial
  | _ => rfl

theorem call1_fails (p : Value) : Fails f.MayFail (f.call1 subject p) := by
  have hm := f.mayFail_mismatch
  cases f with
  | equal | notEqual => trivial
  | less | lessOrEqual | greater | greaterOrEqual => exact Call.compare_fails hm _ subject p
  | contains | notContains | startsWith | notStartsWith | endsWith | notEndsWith =>
    simp only [call1]
    exact Call.matchText_fails hm _ subject p
  | index => exact Call.index_fails hm (fun _ _ => rfl) subject p
  | add | sub | mul => exact Call.arithmetic_fails hm rfl _ subject p
  | div => exact Call.divide_fails hm rfl (.inl rfl) _ subject p
  | mod => exact Call.divide_fails hm rfl (.inr rfl) _ subject p
  | trimLeft | trimRight | left | right => exact Call.slice_fails hm _ subject p
  | doesMatchRegex => exact Call.doesMatchRegex_fails hm (.inr rfl) subject p
  | _ => rfl

theorem call2_fails (p q : Value) : Fails f.MayFail (f.call2 subject p q) := by
  have hm := f.mayFail_mismatch
  cases f with
  | replaceAll => exact Call.replaceAll_fails hm subject p q
  | replaceRegex => exact Call.replaceRegex_fails hm (.inl rfl) subject p q
  | _ => rfl

theorem callMany_fails (params : List Value) : Fails f.MayFail (f.callMany subject params) := by
  have hm := f.mayFail_mismatch
  cases f with
  | anyOf => trivial
  | sum | avg => exact Call.reduce_fails hm (fun _ _ _ => rfl) subject params
  | max | min =>
    refine Call.reduce_fails hm ?_ subject params
    intro d ds h
    cases h
  | _ => rfl

theorem call_fails (params : List Value) (declared : Nat) :
    Fails f.MayFail (f.call codecs subject params declared) := by
  refine (checkCounts_fails (fun _ => rfl) declared params.length).bind fun _ => ?_
  refine (checkTypes_fails f.mayFail_mismatch _ 0 params).bind fun _ => ?_
  split
  · exact f.callMany_fails subject _
  · exact f.call0_fails codecs subject
  · exact f.call1_fails subject _
  · exact f.call2_fails subject _ _
  · rfl

end Builtin

end PathQuery
