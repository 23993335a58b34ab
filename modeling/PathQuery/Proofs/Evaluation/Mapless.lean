import PathQuery.Proofs.Codec.Mapless
import PathQuery.Proofs.Evaluation.Simulation

namespace PathQuery

def Unmaps (v w : Value) : Prop := w = v.withoutMaps

theorem forall₂_unmaps_iff {vs ws : List Value} :
    List.Forall₂ Unmaps vs ws ↔ ws = vs.map Value.withoutMaps := by
  rw [eq_comm, ← List.forall₂_eq_eq_eq, List.forall₂_map_left_iff]
  exact ⟨.imp fun _ _ => Eq.symm, .imp fun _ _ => Eq.symm⟩

abbrev CallUnmaps (x y : CallResult) : Prop := Alike CallFailure.kind Unmaps x y

theorem Value.sameScalar_withoutMaps (v w : Value) :
    v.withoutMaps.sameScalar w.withoutMaps = v.sameScalar w := by
  cases v <;> cases w <;> rfl

namespace Call

theorem number_withoutMaps (v : Value) :
    Alike CallFailure.kind Eq (number v) (number v.withoutMaps) := by
  cases v with
  | number d => exact .ok rfl
  | _ => exact .error rfl

theorem string_withoutMaps (v : Value) :
    Alike CallFailure.kind Eq (string v) (string v.withoutMaps) := by
  cases v with
  | string s => exact .ok rfl
  | _ => exact .error rfl

theorem list_withoutMaps (v : Value) : Alike CallFailure.kind
    (fun vs ws => ws = vs.map Value.withoutMaps) (list v) (list v.withoutMaps) := by
  cases v with
  | sequence vs => exact .ok (Value.itemsWithoutMaps_eq_map vs)
  | _ => exact .error rfl

theorem numbers_withoutMaps (vs : List Value) :
    Alike CallFailure.kind Eq (numbers vs) (numbers (vs.map Value.withoutMaps)) := by
  induction vs with
  | nil => exact .ok rfl
  | cons v vs ih => exact (number_withoutMaps v).bind_eq fun _ => ih.bind_eq fun _ => .ok rfl

theorem ofDecimal?_unmaps (d : Option Decimal) : CallUnmaps (ofDecimal? d) (ofDecimal? d) := by
  cases d with
  | none => exact .error rfl
  | some d => exact .ok rfl

theorem compare_unmaps (test : Decimal → Decimal → Bool) (v p : Value) :
    CallUnmaps (compare test v p) (compare test v.withoutMaps p.withoutMaps) :=
  (number_withoutMaps v).bind_eq fun _ => (number_withoutMaps p).bind_eq fun _ => .ok rfl

theorem matchText_unmaps (test : List Char → List Char → Bool) (v p : Value) :
    CallUnmaps (matchText test v p) (matchText test v.withoutMaps p.withoutMaps) :=
  (string_withoutMaps v).bind_eq fun _ => (string_withoutMaps p).bind_eq fun _ => .ok rfl

theorem count_unmaps (v : Value) : CallUnmaps (count v) (count v.withoutMaps) := by
  cases v with
  | null => exact ofDecimal?_unmaps (Decimal.ofInt? 0)
  | sequence vs =>
    simp only [Value.withoutMaps, count, Value.itemsWithoutMaps_eq_map, List.length_map]
    exact ofDecimal?_unmaps _
  | record fields =>
    simp only [Value.withoutMaps, count, Value.fieldsWithoutMaps_eq_map, List.length_map]
    exact ofDecimal?_unmaps _
  | map entries =>
    simp only [Value.withoutMaps, count, Value.entriesWithoutMaps_eq_map, Entries.texts,
      List.length_map]
    exact ofDecimal?_unmaps _
  | _ => exact .error rfl

theorem first_unmaps (v : Value) : CallUnmaps (first v) (first v.withoutMaps) := by
  refine (list_withoutMaps v).bind fun vs ws hws => ?_
  subst hws
  rw [List.head?_map]
  cases vs.head? with
  | none => exact .error rfl
  | some w => exact .ok rfl

theorem last_unmaps (v : Value) : CallUnmaps (last v) (last v.withoutMaps) := by
  refine (list_withoutMaps v).bind fun vs ws hws => ?_
  subst hws
  rw [List.getLast?_map]
  cases vs.getLast? with
  | none => exact .error rfl
  | some w => exact .ok rfl

theorem index_unmaps (v p : Value) :
    CallUnmaps (index v p) (index v.withoutMaps p.withoutMaps) := by
  refine (list_withoutMaps v).bind fun vs ws hws => (number_withoutMaps p).bind_eq fun d => ?_
  subst hws
  split
  · rw [List.getElem?_map]
    cases vs[d.trunc.toNat]? with
    | none => exact .error rfl
    | some w => exact .ok rfl
  · exact .error rfl

theorem pool_withoutMaps (v : Value) (params : List Value) : Alike CallFailure.kind Eq
    (pool v params) (pool v.withoutMaps (params.map Value.withoutMaps)) := by
  have hmore (own : List Decimal) : Alike CallFailure.kind Eq
      (numbers params >>= fun more => .ok (own ++ more))
      (numbers (params.map Value.withoutMaps) >>= fun more => .ok (own ++ more)) :=
    (numbers_withoutMaps params).bind_eq fun _ => .ok rfl
  cases v with
  | sequence vs =>
    have hown := numbers_withoutMaps vs
    rw [← Value.itemsWithoutMaps_eq_map] at hown
    exact hown.bind_eq hmore
  | number d => exact hmore [d]
  | _ => exact .error rfl

theorem reduce_unmaps (f : Decimal → List Decimal → Option Decimal) (v : Value)
    (params : List Value) : CallUnmaps (reduce f v params)
      (reduce f v.withoutMaps (params.map Value.withoutMaps)) := by
  refine (pool_withoutMaps v params).bind_eq fun ds => ?_
  split
  · exact .ok rfl
  · exact .ok rfl
  · exact ofDecimal?_unmaps _

theorem arithmetic_unmaps (f : Decimal → Decimal → Option Decimal) (v p : Value) :
    CallUnmaps (arithmetic f v p) (arithmetic f v.withoutMaps p.withoutMaps) :=
  (number_withoutMaps v).bind_eq fun _ => (number_withoutMaps p).bind_eq fun _ =>
    ofDecimal?_unmaps _

theorem divide_unmaps (f : Decimal → Decimal → Option Decimal) (v p : Value) :
    CallUnmaps (divide f v p) (divide f v.withoutMaps p.withoutMaps) := by
  refine (number_withoutMaps p).bind_eq fun d => ?_
  split
  · exact .error rfl
  · exact arithmetic_unmaps f v p

theorem slice_unmaps (f : Nat → List Char → List Char) (v p : Value) :
    CallUnmaps (slice f v p) (slice f v.withoutMaps p.withoutMaps) :=
  (string_withoutMaps v).bind_eq fun _ => (number_withoutMaps p).bind_eq fun _ => .ok rfl

theorem replaceAll_unmaps (v p q : Value) :
    CallUnmaps (replaceAll v p q) (replaceAll v.withoutMaps p.withoutMaps q.withoutMaps) :=
  (string_withoutMaps v).bind_eq fun _ => (string_withoutMaps p).bind_eq fun _ =>
    (string_withoutMaps q).bind_eq fun _ => .ok rfl

theorem regex_withoutMaps (v : Value) :
    Alike CallFailure.kind Eq (regex v) (regex v.withoutMaps) := by
  refine (string_withoutMaps v).bind_eq fun pattern => ?_
  split
  · exact .ok rfl
  · exact .error rfl

theorem replaceRegex_unmaps (v p q : Value) :
    CallUnmaps (replaceRegex v p q) (replaceRegex v.withoutMaps p.withoutMaps q.withoutMaps) :=
  (string_withoutMaps v).bind_eq fun _ => (regex_withoutMaps p).bind_eq fun _ =>
    (string_withoutMaps q).bind_eq fun _ => .ok rfl

theorem doesMatchRegex_unmaps (v p : Value) :
    CallUnmaps (doesMatchRegex v p) (doesMatchRegex v.withoutMaps p.withoutMaps) :=
  (string_withoutMaps v).bind_eq fun _ => (regex_withoutMaps p).bind_eq fun _ => .ok rfl

theorem parse_unmaps (numbers : NumberStyle) (f : Format) (v : Value) :
    CallUnmaps (parse (.standard numbers) f v) (parse (.standard numbers) f v.withoutMaps) := by
  refine (string_withoutMaps v).bind_eq fun text => ?_
  have hmapless := Codecs.standard_mapless numbers f text
  cases hread : (Codecs.standard numbers).read f text with
  | error fault => exact .error rfl
  | ok w =>
    rw [hread] at hmapless
    exact .ok hmapless.symm

end Call

theorem ParameterType.acceptsKind_withoutMaps (type : ParameterType) (v : Value) :
    type.acceptsKind v.withoutMaps.kind = type.acceptsKind v.kind := by
  cases type <;> cases v <;> rfl

theorem checkTypes_withoutMaps (a : Arity) (i : Nat) (params : List Value) :
    Alike CallFailure.kind Eq (checkTypes a i params)
      (checkTypes a i (params.map Value.withoutMaps)) := by
  induction params generalizing i with
  | nil => exact .ok rfl
  | cons p params ih =>
    simp only [List.map_cons, checkTypes, ParameterType.acceptsKind_withoutMaps]
    split
    · exact ih (i + 1)
    · split
      · exact ih (i + 1)
      · exact .error rfl

namespace Builtin

variable {f : Builtin} (numbers : NumberStyle) (v p q : Value) (params : List Value)

theorem call0_unmaps (hf : f ≠ .any) : CallUnmaps (f.call0 (.standard numbers) v)
    (f.call0 (.standard numbers) v.withoutMaps) := by
  cases f with
  | any => exact absurd rfl hf
  | count => exact Call.count_unmaps v
  | first => exact Call.first_unmaps v
  | last => exact Call.last_unmaps v
  | parseJson | parseXml | parseYaml | parseToml => exact Call.parse_unmaps numbers _ v
  | asJson =>
    refine .ok ?_
    simp only [Codecs.jsonText, Value.jsonText, Value.toJson_withoutMaps]
    rfl
  | _ => exact .error rfl

theorem call1_unmaps (f : Builtin) :
    CallUnmaps (f.call1 v p) (f.call1 v.withoutMaps p.withoutMaps) := by
  cases f with
  | equal | notEqual =>
    simp only [call1, Value.sameScalar_withoutMaps]
    exact .ok rfl
  | less | lessOrEqual | greater | greaterOrEqual => exact Call.compare_unmaps _ v p
  | contains | notContains | startsWith | notStartsWith | endsWith | notEndsWith =>
    simp only [call1]
    exact Call.matchText_unmaps _ v p
  | index => exact Call.index_unmaps v p
  | add | sub | mul => exact Call.arithmetic_unmaps _ v p
  | div | mod => exact Call.divide_unmaps _ v p
  | trimLeft | trimRight | left | right => exact Call.slice_unmaps _ v p
  | doesMatchRegex => exact Call.doesMatchRegex_unmaps v p
  | _ => exact .error rfl

theorem call2_unmaps (f : Builtin) :
    CallUnmaps (f.call2 v p q) (f.call2 v.withoutMaps p.withoutMaps q.withoutMaps) := by
  cases f with
  | replaceAll => exact Call.replaceAll_unmaps v p q
  | replaceRegex => exact Call.replaceRegex_unmaps v p q
  | _ => exact .error rfl

theorem callMany_unmaps (f : Builtin) : CallUnmaps (f.callMany v params)
    (f.callMany v.withoutMaps (params.map Value.withoutMaps)) := by
  cases f with
  | anyOf =>
    have hsame : (params.map Value.withoutMaps).any v.withoutMaps.sameScalar =
        params.any v.sameScalar := by
      simp [List.any_map, Function.comp_def, Value.sameScalar_withoutMaps]
    simp only [callMany, hsame]
    exact .ok rfl
  | sum | avg | max | min => exact Call.reduce_unmaps _ v params
  | _ => exact .error rfl

theorem call_unmaps (hf : f ≠ .any) (declared : Nat) :
    CallUnmaps (f.call (.standard numbers) v params declared)
      (f.call (.standard numbers) v.withoutMaps (params.map Value.withoutMaps) declared) := by
  simp only [call, List.length_map]
  generalize f.signature.arity = a
  refine (Alike.refl _).bind_eq fun _ => (checkTypes_withoutMaps a 0 params).bind_eq fun _ => ?_
  cases a with
  | variadic least type => exact callMany_unmaps v params f
  | fixed types =>
    match params with
    | [] => exact call0_unmaps numbers v hf
    | [p] => exact call1_unmaps v p f
    | [p, q] => exact call2_unmaps v p q f
    | _ :: _ :: _ :: _ => exact .error rfl

end Builtin

theorem Unmaps.isSimulation (numbers : NumberStyle) :
    IsSimulation (.standard numbers) Eq (· ≠ .any) Unmaps where
  shape := by
    rintro v _ rfl
    cases v with
    | sequence items =>
      exact .list (forall₂_unmaps_iff.mpr (Value.itemsWithoutMaps_eq_map items))
    | record | map => exact .fields trivial trivial
    | _ => exact .scalar trivial
  scalar := by
    intro v h
    cases v with
    | record | map | sequence => exact h.elim
    | _ => rfl
  list h := by
    rw [forall₂_unmaps_iff.mp h, ← Value.itemsWithoutMaps_eq_map]
    rfl
  lookup := by
    rintro v _ name _ rfl rfl
    rw [v.lookup?_withoutMaps name]
    cases v.lookup? name with
    | none => exact .none
    | some w => exact .some rfl
  call := by
    rintro f v _ params _ declared hf rfl hparams
    rw [forall₂_unmaps_iff.mp hparams]
    exact Builtin.call_unmaps numbers v params hf declared

theorem Query.eval_withoutMaps (numbers : NumberStyle) {q : Query} (hq : .known .any ∉ q.callees)
    (current root : Value) :
    Alike Failure.kind (fun v w => w = v.withoutMaps)
      (q.eval (.standard numbers) current root)
      (q.eval (.standard numbers) current.withoutMaps root.withoutMaps) := by
  have hcalls : CallsOnly (· ≠ .any) q.callees := by
    rintro f hf rfl
    exact hq hf
  exact Query.eval_alike (Unmaps.isSimulation numbers) rfl q (.refl (fun _ => rfl) q) hcalls rfl

theorem Query.eval_withoutMaps_rows :
    let q : Query := .path ⟨.root, false, false, [.field "rows", .filter (.ofPath ⟨.current, true,
      true, [.field "TRUE", .call (.known .equal) [.number .zero "0"]]⟩), .call (.known .first) []]⟩
    let row : Value := .map [(.bool true, .number .zero), (.string "b", .map [])]
    let d : Value := .record [("rows", .sequence [row])]
    .known .any ∉ q.callees ∧ q.eval (.standard .bare) d d = .ok row ∧
      q.eval (.standard .bare) d.withoutMaps d.withoutMaps =
        .ok (.record [("true", .number .zero), ("b", .record [])]) := by
  intro q row d
  have hq : .known .any ∉ q.callees := by decide
  have heval : q.eval (.standard .bare) d d = .ok row := rfl
  have halike := Query.eval_withoutMaps .bare hq d d
  rw [heval] at halike
  refine ⟨hq, heval, ?_⟩
  generalize q.eval (.standard .bare) d.withoutMaps d.withoutMaps = result at halike ⊢
  cases halike with
  | ok h => exact congrArg Except.ok h

end PathQuery
