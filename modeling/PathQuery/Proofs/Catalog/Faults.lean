import PathQuery.Proofs.Catalog.Typing

namespace PathQuery

def SubjectType.Admits : SubjectType → Value → Prop
  | .any, _ => True
  | .scalar, v => v.kind = .number ∨ v.kind = .string ∨ v.kind = .bool
  | .number, v => v.kind = .number
  | .string, v => v.kind = .string
  | .numbers, v => v.kind = .number ∨ ∃ vs, v = .sequence vs ∧ ∀ w ∈ vs, w.kind = .number
  | .list, v => v.kind = .sequence
  | .listOrRecord, v => v.kind = .sequence ∨ v.kind = .record ∨ v.kind = .map

structure Arity.Admits (a : Arity) (declared : Nat) (params : List Value) : Prop where
  count : a.accepts declared = true
  found : a.isFixed = true → params.length = declared
  types : ∀ i p type, params[i]? = some p → a.typeAt? i = some type →
    type.acceptsKind p.kind = true

def CallFailure.IsBenign : CallFailure → Prop
  | .indexOutOfRange _ _ | .emptyList | .divisionByZero | .overflow | .pattern => True
  | .mismatch _ | .arity _ _ | .codec _ => False

def Builtin.isReader : Builtin → Bool
  | .parseJson | .parseXml | .parseYaml | .parseToml => true
  | _ => false

theorem Builtin.returns_ne_unknown {f : Builtin} (h : f.isReader = false) :
    f.signature.returns ≠ .unknown := by
  cases f with
  | parseJson | parseXml | parseYaml | parseToml => cases h
  | _ => exact nofun

namespace Value

variable {v : Value}

theorem kind_eq_number : v.kind = .number ↔ ∃ d, v = .number d := by cases v <;> simp [kind]

theorem kind_eq_string : v.kind = .string ↔ ∃ s, v = .string s := by cases v <;> simp [kind]

theorem kind_eq_sequence : v.kind = .sequence ↔ ∃ vs, v = .sequence vs := by
  cases v <;> simp [kind]

end Value

theorem ParameterType.acceptsKind_number {v : Value}
    (h : ParameterType.number.acceptsKind v.kind = true) : ∃ d, v = .number d :=
  Value.kind_eq_number.mp (beq_iff_eq.mp h)

theorem ParameterType.acceptsKind_string {v : Value}
    (h : ParameterType.string.acceptsKind v.kind = true) : ∃ s, v = .string s :=
  Value.kind_eq_string.mp (beq_iff_eq.mp h)

namespace Arity

variable {a : Arity} {declared : Nat} {params : List Value}

theorem Admits.checkCounts (h : a.Admits declared params) :
    checkCounts a declared params.length = .ok () := by
  simp only [PathQuery.checkCounts, h.count, Bool.not_true, Bool.false_eq_true, if_false]
  cases a with
  | fixed types =>
    have hcount : types.length = declared := beq_iff_eq.mp h.count
    simp only [hcount, h.found rfl, if_true]
  | variadic => rfl

theorem Admits.length_eq {types : List ParameterType} (h : (fixed types).Admits declared params) :
    params.length = types.length :=
  (h.found rfl).trans (beq_iff_eq.mp h.count).symm

theorem checkTypes_eq_ok {i : Nat} (h : ∀ j p type, params[j]? = some p →
    a.typeAt? (i + j) = some type → type.acceptsKind p.kind = true) :
    checkTypes a i params = .ok () := by
  induction params generalizing i with
  | nil => rfl
  | cons p params ih =>
    have hrest : checkTypes a (i + 1) params = .ok () :=
      ih fun j q type hq ht => h (j + 1) q type hq (by rwa [Nat.add_right_comm] at ht)
    simp only [checkTypes]
    split
    · exact hrest
    · next type htype => simp only [h 0 p type rfl htype, if_true, hrest]

theorem Admits.checkTypes (h : a.Admits declared params) : checkTypes a 0 params = .ok () :=
  checkTypes_eq_ok fun j p type hp ht => h.types j p type hp (by rwa [Nat.zero_add] at ht)

end Arity

namespace Call

theorem ofDecimal?_error {d : Option Decimal} {e : CallFailure} (h : ofDecimal? d = .error e) :
    e = .overflow := by
  cases d with
  | none => cases h; rfl
  | some d => cases h

theorem numbers_of_kinds {vs : List Value} (h : ∀ v ∈ vs, v.kind = .number) :
    ∃ ds, numbers vs = .ok ds := by
  induction vs with
  | nil => exact ⟨[], rfl⟩
  | cons v vs ih =>
    obtain ⟨d, rfl⟩ := Value.kind_eq_number.mp (h v (List.mem_cons_self ..))
    obtain ⟨ds, hds⟩ := ih fun w hw => h w (List.mem_cons_of_mem _ hw)
    exact ⟨d :: ds, by simp only [numbers, number, hds]; rfl⟩

theorem pool_of_kinds {subject : Value} {params : List Value}
    (hs : SubjectType.numbers.Admits subject) (hp : ∀ p ∈ params, p.kind = .number) :
    ∃ ds, pool subject params = .ok ds := by
  obtain ⟨more, hmore⟩ := numbers_of_kinds hp
  rcases hs with hs | ⟨vs, rfl, hvs⟩
  · obtain ⟨d, rfl⟩ := Value.kind_eq_number.mp hs
    exact ⟨d :: more, by simp only [pool, hmore]; rfl⟩
  · obtain ⟨own, hown⟩ := numbers_of_kinds hvs
    exact ⟨own ++ more, by simp only [pool, hown, hmore]; rfl⟩

theorem reduce_error {f : Decimal → List Decimal → Option Decimal} {subject : Value}
    {params : List Value} {e : CallFailure} (hs : SubjectType.numbers.Admits subject)
    (hp : ∀ p ∈ params, p.kind = .number) (h : reduce f subject params = .error e) :
    e = .overflow := by
  obtain ⟨ds, hds⟩ := pool_of_kinds hs hp
  simp only [reduce, hds] at h
  rcases ds with - | ⟨d, - | ⟨d', ds⟩⟩
  · cases h
  · cases h
  · exact ofDecimal?_error h

theorem count_error {subject : Value} {e : CallFailure}
    (hs : SubjectType.listOrRecord.Admits subject) (h : count subject = .error e) :
    e = .overflow := by
  cases subject with
  | sequence | record | map =>
    simp only [count] at h
    exact ofDecimal?_error h
  | _ => simp [SubjectType.Admits, Value.kind] at hs

theorem any_error {subject : Value} {e : CallFailure}
    (hs : SubjectType.listOrRecord.Admits subject) : any subject ≠ .error e := by
  cases subject with
  | sequence | record | map => exact nofun
  | _ => simp [SubjectType.Admits, Value.kind] at hs

theorem first_error {vs : List Value} {e : CallFailure} (h : first (.sequence vs) = .error e) :
    e = .emptyList := by
  cases vs <;> cases h
  rfl

theorem last_error {vs : List Value} {e : CallFailure} (h : last (.sequence vs) = .error e) :
    e = .emptyList := by
  simp only [last, list, ok_bind] at h
  split at h <;> cases h
  rfl

theorem index_error {vs : List Value} {d : Decimal} {e : CallFailure}
    (h : index (.sequence vs) (.number d) = .error e) : e = .indexOutOfRange d vs.length := by
  simp only [index, list, number, ok_bind] at h
  split at h
  · split at h <;> cases h
    rfl
  · cases h
    rfl

theorem divide_error {f : Decimal → Decimal → Option Decimal} {a b : Decimal} {e : CallFailure}
    (h : divide f (.number a) (.number b) = .error e) : e = .divisionByZero ∨ e = .overflow := by
  simp only [divide, arithmetic, number, ok_bind] at h
  split at h
  · cases h
    exact .inl rfl
  · exact .inr (ofDecimal?_error h)

theorem regex_error {s : String} {e : CallFailure} (h : regex (.string s) = .error e) :
    e = .pattern := by
  simp only [regex, string, ok_bind] at h
  split at h <;> cases h
  rfl

theorem regex_bind_error {f : Regex → CallResult} {s : String} {e : CallFailure}
    (hf : ∀ r, f r ≠ .error e) (h : regex (.string s) >>= f = .error e) : e = .pattern := by
  cases hr : regex (.string s) with
  | error cause =>
    rw [hr] at h
    cases h
    exact regex_error hr
  | ok r =>
    rw [hr] at h
    exact absurd h (hf r)

theorem doesMatchRegex_error {s t : String} {e : CallFailure}
    (h : doesMatchRegex (.string s) (.string t) = .error e) : e = .pattern :=
  regex_bind_error (f := fun r => .ok (.bool (r.isMatch s))) (fun _ => nofun) h

theorem replaceRegex_error {s t u : String} {e : CallFailure}
    (h : replaceRegex (.string s) (.string t) (.string u) = .error e) : e = .pattern :=
  regex_bind_error (f := fun r => .ok (.string (r.replaceAll s u))) (fun _ => nofun) h

theorem parse_error {codecs : Codecs} {form : Format} {s : String} {e : CallFailure}
    (h : parse codecs form (.string s) = .error e) : ∃ fault, e = .codec fault := by
  simp only [parse, string, ok_bind] at h
  cases hr : codecs.read form s with
  | error fault =>
    rw [hr] at h
    cases h
    exact ⟨fault, rfl⟩
  | ok v =>
    rw [hr] at h
    cases h

end Call

namespace Builtin

variable {f : Builtin} {codecs : Codecs} {subject p q : Value} {params : List Value}
  {e : CallFailure}

def Explains (f : Builtin) (e : CallFailure) : Prop :=
  e.IsBenign ∨ f.isReader = true ∧ ∃ fault, e = .codec fault

theorem call0_error (ha : f.signature.arity = .fixed []) (hs : f.signature.subject.Admits subject)
    (h : f.call0 codecs subject = .error e) : f.Explains e := by
  cases f with
  | count => exact .inl (Call.count_error hs h ▸ trivial)
  | any => exact absurd h (Call.any_error hs)
  | first =>
    obtain ⟨vs, rfl⟩ := Value.kind_eq_sequence.mp hs
    exact .inl (Call.first_error h ▸ trivial)
  | last =>
    obtain ⟨vs, rfl⟩ := Value.kind_eq_sequence.mp hs
    exact .inl (Call.last_error h ▸ trivial)
  | parseJson | parseXml | parseYaml | parseToml =>
    obtain ⟨s, rfl⟩ := Value.kind_eq_string.mp hs
    exact .inr ⟨rfl, Call.parse_error h⟩
  | asJson => cases h
  | _ => cases ha

theorem call1_error {type : ParameterType} (ha : f.signature.arity = .fixed [type])
    (hs : f.signature.subject.Admits subject) (hp : type.acceptsKind p.kind = true)
    (h : f.call1 subject p = .error e) : f.Explains e := by
  cases f with
  | equal | notEqual => cases h
  | less | lessOrEqual | greater | greaterOrEqual =>
    cases ha
    obtain ⟨a, rfl⟩ := Value.kind_eq_number.mp hs
    obtain ⟨b, rfl⟩ := ParameterType.acceptsKind_number hp
    cases h
  | contains | notContains | startsWith | notStartsWith | endsWith | notEndsWith =>
    cases ha
    obtain ⟨s, rfl⟩ := Value.kind_eq_string.mp hs
    obtain ⟨t, rfl⟩ := ParameterType.acceptsKind_string hp
    cases h
  | index =>
    cases ha
    obtain ⟨vs, rfl⟩ := Value.kind_eq_sequence.mp hs
    obtain ⟨d, rfl⟩ := ParameterType.acceptsKind_number hp
    exact .inl (Call.index_error h ▸ trivial)
  | add | sub | mul =>
    cases ha
    obtain ⟨a, rfl⟩ := Value.kind_eq_number.mp hs
    obtain ⟨b, rfl⟩ := ParameterType.acceptsKind_number hp
    exact .inl (Call.ofDecimal?_error h ▸ trivial)
  | div | mod =>
    cases ha
    obtain ⟨a, rfl⟩ := Value.kind_eq_number.mp hs
    obtain ⟨b, rfl⟩ := ParameterType.acceptsKind_number hp
    rcases Call.divide_error h with rfl | rfl
    · exact .inl trivial
    · exact .inl trivial
  | trimLeft | trimRight | left | right =>
    cases ha
    obtain ⟨s, rfl⟩ := Value.kind_eq_string.mp hs
    obtain ⟨d, rfl⟩ := ParameterType.acceptsKind_number hp
    cases h
  | doesMatchRegex =>
    cases ha
    obtain ⟨s, rfl⟩ := Value.kind_eq_string.mp hs
    obtain ⟨t, rfl⟩ := ParameterType.acceptsKind_string hp
    exact .inl (Call.doesMatchRegex_error h ▸ trivial)
  | _ => cases ha

theorem call2_error {type type' : ParameterType} (ha : f.signature.arity = .fixed [type, type'])
    (hs : f.signature.subject.Admits subject) (hp : type.acceptsKind p.kind = true)
    (hq : type'.acceptsKind q.kind = true) (h : f.call2 subject p q = .error e) :
    f.Explains e := by
  cases f with
  | replaceAll =>
    cases ha
    obtain ⟨s, rfl⟩ := Value.kind_eq_string.mp hs
    obtain ⟨t, rfl⟩ := ParameterType.acceptsKind_string hp
    obtain ⟨u, rfl⟩ := ParameterType.acceptsKind_string hq
    cases h
  | replaceRegex =>
    cases ha
    obtain ⟨s, rfl⟩ := Value.kind_eq_string.mp hs
    obtain ⟨t, rfl⟩ := ParameterType.acceptsKind_string hp
    obtain ⟨u, rfl⟩ := ParameterType.acceptsKind_string hq
    exact .inl (Call.replaceRegex_error h ▸ trivial)
  | _ => cases ha

theorem callMany_error {least : Nat} {type : ParameterType}
    (ha : f.signature.arity = .variadic least type) (hs : f.signature.subject.Admits subject)
    (hp : ∀ p ∈ params, type.acceptsKind p.kind = true)
    (h : f.callMany subject params = .error e) : f.Explains e := by
  cases f with
  | anyOf => cases h
  | sum | avg | max | min =>
    cases ha
    exact .inl (Call.reduce_error hs (fun p hm => beq_iff_eq.mp (hp p hm)) h ▸ trivial)
  | _ => cases ha

theorem call_error {declared : Nat} (hs : f.signature.subject.Admits subject)
    (hp : f.signature.arity.Admits declared params)
    (h : f.call codecs subject params declared = .error e) : f.Explains e := by
  simp only [call, hp.checkCounts, hp.checkTypes, ok_bind] at h
  cases ha : f.signature.arity with
  | variadic least type =>
    simp only [ha] at h hp
    refine callMany_error ha hs (fun p hm => ?_) h
    obtain ⟨i, hi⟩ := List.getElem?_of_mem hm
    exact hp.types i p type hi rfl
  | fixed types =>
    simp only [ha] at h hp
    have hlength := hp.length_eq
    rcases types with - | ⟨type, - | ⟨type', - | ⟨type'', types⟩⟩⟩
    · obtain rfl := List.length_eq_zero_iff.mp hlength
      exact call0_error ha hs h
    · obtain ⟨p, rfl⟩ := List.length_eq_one_iff.mp hlength
      exact call1_error ha hs (hp.types 0 p type rfl rfl) h
    · rcases params with - | ⟨p, - | ⟨q, - | ⟨r, params⟩⟩⟩
      · cases hlength
      · cases hlength
      · exact call2_error ha hs (hp.types 0 p type rfl rfl) (hp.types 1 q type' rfl rfl) h
      · cases hlength
    · cases f <;> cases ha

end Builtin

end PathQuery
