import PathQuery.Proofs.Catalog.Dispatch
import PathQuery.Proofs.Decimal.Order

namespace PathQuery

def Value.decimals (ds : List Decimal) : Value := .sequence (ds.map .number)

theorem Value.exists_map_number {vs : List Value} (h : ∀ v ∈ vs, ∃ d, v = .number d) :
    ∃ ds : List Decimal, vs = ds.map .number := by
  induction vs with
  | nil => exact ⟨[], rfl⟩
  | cons v vs ih =>
    obtain ⟨⟨d, rfl⟩, hrest⟩ := List.forall_mem_cons.mp h
    obtain ⟨ds, rfl⟩ := ih hrest
    exact ⟨d :: ds, rfl⟩

def Value.IsPool (v : Value) : Prop := (∃ d, v = .number d) ∨ ∃ ds, v = .decimals ds

theorem Value.IsPool.admits {v : Value} (h : v.IsPool) : SubjectType.numbers.Admits v := by
  rcases h with ⟨d, rfl⟩ | ⟨ds, rfl⟩
  · exact .inl rfl
  · refine .inr ⟨_, rfl, ?_⟩
    intro w hw
    obtain ⟨d, -, rfl⟩ := List.mem_map.mp hw
    rfl

def Builtin.isReduction : Builtin → Bool
  | .sum | .avg | .max | .min => true
  | _ => false

def CallFailure.IsMismatch (e : CallFailure) : Prop := ∃ m, e = .mismatch m

namespace Call

theorem numbers_map (ds : List Decimal) : numbers (ds.map .number) = .ok ds := by
  induction ds with
  | nil => rfl
  | cons d ds ih =>
    rw [List.map_cons, numbers, ih]
    rfl

theorem number_gives (v : Value) :
    Gives (fun d => v = .number d) CallFailure.IsMismatch (number v) := by
  cases v with
  | number d => rfl
  | _ => exact ⟨_, rfl⟩

theorem numbers_gives (vs : List Value) :
    Gives (fun ds => vs = ds.map .number) CallFailure.IsMismatch (numbers vs) := by
  induction vs with
  | nil => rfl
  | cons v vs ih =>
    apply (number_gives v).bind
    rintro d rfl
    apply ih.bind
    rintro ds rfl
    rfl

theorem pool_decimals (xs ys : List Decimal) :
    pool (.decimals xs) (ys.map .number) = .ok (xs ++ ys) := by
  simp only [pool, Value.decimals, numbers_map]
  rfl

theorem pool_number (x : Decimal) (ys : List Decimal) :
    pool (.number x) (ys.map .number) = .ok (x :: ys) := by
  simp only [pool, numbers_map]
  rfl

theorem pool_gives (subject : Value) (params : List Value) :
    Gives (fun _ => subject.IsPool) CallFailure.IsMismatch (pool subject params) := by
  have hmore (own : List Decimal) (h : subject.IsPool) : Gives (fun _ => subject.IsPool)
      CallFailure.IsMismatch (numbers params >>= fun more => .ok (own ++ more)) :=
    (numbers_gives params).bind fun _ _ => h
  cases subject with
  | sequence vs =>
    apply (numbers_gives vs).bind
    rintro own rfl
    exact hmore own (.inr ⟨own, rfl⟩)
  | number d => exact hmore [d] (.inl ⟨d, rfl⟩)
  | _ => exact ⟨_, rfl⟩

theorem reduce_of_pool {f : Decimal → List Decimal → Option Decimal} {subject : Value}
    {params : List Value} {ds : List Decimal} (h : pool subject params = .ok ds) :
    reduce f subject params = reduce f (.decimals ds) [] := by
  have hds : pool (.decimals ds) [] = .ok ds := by
    have hpool := pool_decimals ds []
    rwa [List.append_nil] at hpool
  simp only [reduce, h, hds]

theorem reduce_decimals_cons {f : Decimal → List Decimal → Option Decimal} {d : Decimal}
    {ds : List Decimal} (hf : f d [] = some d) :
    reduce f (.decimals (d :: ds)) [] = ofDecimal? (f d ds) := by
  have hpool := pool_decimals (d :: ds) []
  rw [List.append_nil, List.map_nil] at hpool
  simp only [reduce, hpool]
  cases ds with
  | nil =>
    rw [hf]
    rfl
  | cons => rfl

end Call

theorem checkTypes_gives (least i : Nat) (params : List Value) :
    Gives (fun _ => ∃ ys : List Decimal, params = ys.map .number) CallFailure.IsMismatch
      (checkTypes (.variadic least .number) i params) := by
  induction params generalizing i with
  | nil => exact ⟨[], rfl⟩
  | cons p params ih =>
    simp only [checkTypes, Arity.typeAt?]
    split
    · next hp =>
      obtain ⟨d, rfl⟩ := ParameterType.acceptsKind_number hp
      apply (ih (i + 1)).mono
      rintro _ ⟨ys, rfl⟩
      exact ⟨d :: ys, rfl⟩
    · exact ⟨_, rfl⟩

namespace Builtin

variable {f : Builtin} {codecs : Codecs} {subject : Value} {params : List Value} {declared : Nat}

theorem admits_decimals (ys : List Decimal) (declared : Nat) :
    (Arity.variadic 0 .number).Admits declared (ys.map .number) := by
  refine ⟨decide_eq_true (Nat.zero_le declared), nofun, ?_⟩
  intro i p type hp htype
  obtain ⟨y, -, rfl⟩ := List.mem_map.mp (List.mem_of_getElem? hp)
  cases htype
  rfl

theorem exists_reducer (h : f.isReduction = true) : f.signature.arity = .variadic 0 .number ∧
    ∃ g, ∀ subject params, f.callMany subject params = Call.reduce g subject params := by
  cases f with
  | sum | avg | max | min => exact ⟨rfl, _, fun _ _ => rfl⟩
  | _ => cases h

theorem signature_of_reduction (h : f.isReduction = true) : f.signature.subject = .numbers := by
  cases f with
  | sum | avg | max | min => rfl
  | _ => cases h

theorem call_reduction (h : f.isReduction = true) (ys : List Decimal) :
    f.call codecs subject (ys.map .number) declared = f.callMany subject (ys.map .number) := by
  obtain ⟨ha, -⟩ := exists_reducer h
  have hadmits := admits_decimals ys declared
  simp only [call, ha, hadmits.checkCounts, hadmits.checkTypes, ok_bind]

theorem call_decimals (h : f.isReduction = true) (ds : List Decimal) :
    f.call codecs (.decimals ds) [] 0 = f.callMany (.decimals ds) [] := call_reduction h []

theorem call_of_pool (h : f.isReduction = true) {ys ds : List Decimal}
    (hpool : Call.pool subject (ys.map .number) = .ok ds) :
    f.call codecs subject (ys.map .number) declared = f.call codecs (.decimals ds) [] 0 := by
  obtain ⟨-, g, hg⟩ := exists_reducer h
  rw [call_reduction h, call_decimals h, hg, hg, Call.reduce_of_pool hpool]

theorem call_mismatch_iff (h : f.isReduction = true) :
    (∃ m, f.call codecs subject params declared = .error (.mismatch m)) ↔
      ¬(subject.IsPool ∧ ∀ p ∈ params, ∃ d, p = .number d) := by
  obtain ⟨ha, g, hg⟩ := exists_reducer h
  constructor
  · rintro ⟨m, hm⟩ ⟨hsubject, hparams⟩
    obtain ⟨ys, rfl⟩ := Value.exists_map_number hparams
    have hs : f.signature.subject.Admits subject := by
      rw [signature_of_reduction h]
      exact hsubject.admits
    have hp : f.signature.arity.Admits declared (ys.map .number) := ha ▸ admits_decimals ys declared
    exact (call_error hs hp hm).ne.1 m rfl
  · intro hnot
    have hcounts : checkCounts (.variadic 0 .number) declared params.length = .ok () := rfl
    have htypes := checkTypes_gives 0 0 params
    cases hcheck : checkTypes (.variadic 0 .number) 0 params with
    | error e =>
      rw [hcheck] at htypes
      obtain ⟨m, rfl⟩ := htypes
      refine ⟨m, ?_⟩
      simp only [call, ha, hcounts, hcheck, ok_bind]
      rfl
    | ok _ =>
      rw [hcheck] at htypes
      obtain ⟨ys, rfl⟩ := htypes
      have hpool := Call.pool_gives subject (ys.map .number)
      cases hds : Call.pool subject (ys.map .number) with
      | error e =>
        rw [hds] at hpool
        obtain ⟨m, rfl⟩ := hpool
        refine ⟨m, ?_⟩
        rw [call_reduction h, hg, Call.reduce, hds]
        rfl
      | ok ds =>
        rw [hds] at hpool
        refine absurd ⟨hpool, ?_⟩ hnot
        intro p hp
        obtain ⟨y, -, rfl⟩ := List.mem_map.mp hp
        exact ⟨y, rfl⟩

structure ReducesPools (f : Builtin) (codecs : Codecs) : Prop where
  sequence : ∀ xs ys declared, f.call codecs (.decimals xs) (ys.map .number) declared =
    f.call codecs (.decimals (xs ++ ys)) [] 0
  number : ∀ x ys declared, f.call codecs (.number x) (ys.map .number) declared =
    f.call codecs (.decimals ([x] ++ ys)) [] 0
  empty : f.call codecs (.decimals []) [] 0 = .ok (.number .zero)
  single : ∀ x, f.call codecs (.decimals [x]) [] 0 = .ok (.number x)
  mismatch : ∀ subject params declared,
    (∃ m, f.call codecs subject params declared = .error (.mismatch m)) ↔
      ¬(subject.IsPool ∧ ∀ p ∈ params, ∃ d, p = .number d)

def Selects (f : Builtin) (codecs : Codecs) (R : ℚ → ℚ → Prop) : Prop :=
  ∀ pool, pool ≠ [] → ∃ m ∈ pool, f.call codecs (.decimals pool) [] 0 = .ok (.number m) ∧
    (∀ d ∈ pool, R d.value m.value) ∧
    ∀ pool', pool'.Perm pool →
      ∃ m', f.call codecs (.decimals pool') [] 0 = .ok (.number m') ∧ m'.value = m.value

theorem reducesPools (h : f.isReduction = true) (codecs : Codecs) : f.ReducesPools codecs := by
  obtain ⟨-, g, hg⟩ := exists_reducer h
  refine ⟨?_, ?_, ?_, ?_, fun _ _ _ => call_mismatch_iff h⟩
  · exact fun xs ys _ => call_of_pool h (Call.pool_decimals xs ys)
  · exact fun x ys _ => call_of_pool h (Call.pool_number x ys)
  · rw [call_decimals h, hg]
    rfl
  · intro x
    rw [call_decimals h, hg]
    rfl

theorem selects {R : ℚ → ℚ → Prop} [IsPartialOrder ℚ R] {pick : Decimal → Decimal → Decimal}
    (hpick : Decimal.Picks R pick) (h : f.isReduction = true)
    (hf : ∀ subject params, f.callMany subject params =
      Call.reduce (fun d ds => some (ds.foldl pick d)) subject params) :
    f.Selects codecs R := by
  have hcall (d : Decimal) (ds : List Decimal) :
      f.call codecs (.decimals (d :: ds)) [] 0 = .ok (.number (ds.foldl pick d)) := by
    rw [call_decimals h, hf, Call.reduce_decimals_cons rfl]
    rfl
  intro pool hne
  obtain ⟨d, ds, rfl⟩ := List.exists_cons_of_ne_nil hne
  have hm := hpick.foldl d ds
  refine ⟨_, hm.mem, hcall d ds, hm.all, ?_⟩
  intro pool' hperm
  have hne' : pool' ≠ [] := by
    rintro rfl
    exact hne hperm.nil_eq.symm
  obtain ⟨d', ds', rfl⟩ := List.exists_cons_of_ne_nil hne'
  exact ⟨_, hcall d' ds', hm.value_eq (hpick.foldl d' ds') hperm⟩

theorem call_pooled (codecs : Codecs) :
    (∀ f : Builtin, f.isReduction = true → f.ReducesPools codecs) ∧
      Builtin.max.Selects codecs (· ≤ ·) ∧ Builtin.min.Selects codecs (· ≥ ·) :=
  ⟨fun _ h => reducesPools h codecs, selects Decimal.max_picks rfl fun _ _ => rfl,
    selects Decimal.min_picks rfl fun _ _ => rfl⟩

theorem call_pooled_max :
    let one : Decimal := ⟨false, 1, 0, by decide, by decide⟩
    let short : Decimal := ⟨false, 25, 1, by decide, by decide⟩
    let long : Decimal := ⟨false, 250, 2, by decide, by decide⟩
    let codecs : Codecs := .none .bare
    Builtin.max.isReduction = true ∧
      Builtin.max.call codecs (.number one) [.number short, .number long] 2 =
        Builtin.max.call codecs (.decimals [one, short, long]) [] 0 ∧
      (∃ m ∈ [one, short, long],
        Builtin.max.call codecs (.decimals [one, short, long]) [] 0 = .ok (.number m) ∧
        short.value ≤ m.value ∧ [long, short, one].Perm [one, short, long] ∧
        ∃ m', Builtin.max.call codecs (.decimals [long, short, one]) [] 0 = .ok (.number m') ∧
          m'.value = m.value) ∧
      ∃ m, Builtin.max.call codecs (.decimals [one]) [.null] 1 = .error (.mismatch m) := by
  intro one short long codecs
  obtain ⟨hreduces, hmax, -⟩ := call_pooled codecs
  have hpools := hreduces .max rfl
  have hreversed : [long, short, one].Perm [one, short, long] := List.reverse_perm [one, short, long]
  obtain ⟨m, hmem, hm, hall, hperm⟩ := hmax [one, short, long] nofun
  have hshort : short.value ≤ m.value := hall short (by simp)
  refine ⟨rfl, hpools.number one [short, long] 2, ?_, ?_⟩
  · exact ⟨m, hmem, hm, hshort, hreversed, hperm _ hreversed⟩
  · refine (hpools.mismatch _ _ _).mpr ?_
    rintro ⟨-, hnumbers⟩
    obtain ⟨d, hd⟩ := hnumbers .null (List.mem_singleton_self _)
    cases hd

end Builtin

end PathQuery
