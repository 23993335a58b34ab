import PathQuery.Proofs.Validation.Standing

namespace PathQuery

variable {maps : Bool} {f : Builtin} {t : ResolvedType} {type? : Option ResolvedType}
  {types : List (Option ResolvedType)} {v : Value} {vs params : List Value} {i : Nat}

structure ResolvedType.Hands (maps : Bool) (t : ResolvedType) (vs : List Value) : Prop where
  known : t.dataType ≠ .unknown
  covers : ∀ v ∈ vs, t.dataType.Covers maps v.kind
  single : t.isList = false → vs.length = 1

theorem ResolvedType.Describes.spread (ht : t.dataType ≠ .unknown) (h : t.Describes maps v) :
    t.Hands maps v.spread := by
  cases h with
  | one single covers =>
    have hv : v.spread = [v] := by
      cases v with
      | sequence => exact absurd rfl covers.kind_ne_sequence
      | _ => rfl
    rw [hv]
    exact ⟨ht, fun w hw => List.mem_singleton.mp hw ▸ covers, fun _ => rfl⟩
  | list isList covers => exact ⟨ht, covers, fun single => by simp [isList] at single⟩

inductive Handed (maps : Bool) : List (Option ResolvedType) → List Value → Prop where
  | nil : Handed maps [] []
  | cons {t : ResolvedType} {types : List (Option ResolvedType)} {vs ws : List Value}
    (first : t.Hands maps vs) (rest : Handed maps types ws) :
    Handed maps (some t :: types) (vs ++ ws)

theorem parameterComplaints_cons_eq_nil :
    parameterComplaints f i (type? :: types) = [] ↔
      parameterComplaint? f i type? = none ∧ parameterComplaints f (i + 1) types = [] := by
  simp [parameterComplaints]

theorem callComplaints_eq_nil :
    callComplaints f t types = [] ↔ f.signature.subject.accepts t = true ∧
      f.signature.arity.accepts types.length = true ∧ parameterComplaints f 0 types = [] := by
  simp only [callComplaints, List.append_eq_nil_iff, ite_eq_left_iff, reduceCtorEq, imp_false,
    Decidable.not_not, and_assoc]

theorem parameterComplaint?_eq_none {expected : ParameterType} (ht : t.dataType ≠ .unknown)
    (he : f.signature.arity.typeAt? i = some expected)
    (h : parameterComplaint? f i (some t) = none) :
    expected.accepts t.dataType = true ∧ (f.signature.arity.isFixed = true → t.isList = false) := by
  simp only [parameterComplaint?, he, ht, if_false] at h
  split at h
  · cases h
  · next ha =>
    split at h
    · cases h
    · next hl =>
      refine ⟨by simpa using ha, fun hf => ?_⟩
      simpa [hf] using hl

theorem ParameterType.acceptsKind_of_covers {type : ParameterType} {d : DataType} {k : Kind}
    (h : type.accepts d = true) (hk : d.Covers maps k) : type.acceptsKind k = true := by
  cases type <;> cases d <;> simp_all [accepts, acceptsKind, DataType.Covers, DataType.isScalar]

namespace Handed

theorem fixed {sig : List ParameterType} (hf : f.signature.arity = .fixed sig)
    (h : Handed maps types params) (hn : i + types.length = sig.length)
    (hc : parameterComplaints f i types = []) : params.length = types.length ∧
      ∀ j p type, params[j]? = some p → sig[i + j]? = some type →
        type.acceptsKind p.kind = true := by
  induction h generalizing i with
  | nil => exact ⟨rfl, nofun⟩
  | @cons t types vs rest first _ ih =>
    obtain ⟨hfirst, hrest⟩ := parameterComplaints_cons_eq_nil.mp hc
    have hi : i < sig.length := by simp only [List.length_cons] at hn; omega
    have htype : f.signature.arity.typeAt? i = some sig[i] := by
      rw [hf]
      exact List.getElem?_eq_getElem hi
    obtain ⟨haccepts, hsingle⟩ := parameterComplaint?_eq_none first.known htype hfirst
    obtain ⟨w, rfl⟩ := List.length_eq_one_iff.mp (first.single (hsingle (by rw [hf]; rfl)))
    obtain ⟨hlength, htypes⟩ := ih (by simp only [List.length_cons] at hn; omega) hrest
    refine ⟨by simp [hlength], fun j p type hp hsig => ?_⟩
    cases j with
    | zero =>
      obtain rfl : w = p := by simpa using hp
      obtain rfl : sig[i] = type := by simpa [List.getElem?_eq_getElem hi] using hsig
      exact ParameterType.acceptsKind_of_covers haccepts (first.covers w (List.mem_singleton.mpr rfl))
    | succ j =>
      exact htypes j p type (by simpa using hp) (by rwa [Nat.add_right_comm])

theorem variadic {least : Nat} {type : ParameterType}
    (hf : f.signature.arity = .variadic least type) (h : Handed maps types params)
    (hc : parameterComplaints f i types = []) :
    ∀ p ∈ params, type.acceptsKind p.kind = true := by
  induction h generalizing i with
  | nil => exact nofun
  | cons first _ ih =>
    obtain ⟨hfirst, hrest⟩ := parameterComplaints_cons_eq_nil.mp hc
    have htype : f.signature.arity.typeAt? i = some type := by rw [hf]; rfl
    obtain ⟨haccepts, -⟩ := parameterComplaint?_eq_none first.known htype hfirst
    intro p hp
    rcases List.mem_append.mp hp with hp | hp
    · exact ParameterType.acceptsKind_of_covers haccepts (first.covers p hp)
    · exact ih hrest p hp

theorem admits (h : Handed maps types params)
    (ha : f.signature.arity.accepts types.length = true)
    (hc : parameterComplaints f 0 types = []) :
    f.signature.arity.Admits types.length params := by
  cases hf : f.signature.arity with
  | fixed sig =>
    rw [hf] at ha
    have hn : 0 + types.length = sig.length := by
      rw [Nat.zero_add]
      exact (beq_iff_eq.mp ha).symm
    obtain ⟨hlength, htypes⟩ := h.fixed hf hn hc
    refine ⟨ha, fun _ => hlength, fun j p type hp hsig => htypes j p type hp ?_⟩
    rwa [Nat.zero_add]
  | variadic least type =>
    rw [hf] at ha
    refine ⟨ha, nofun, fun j p type' hp hsig => ?_⟩
    cases hsig
    exact h.variadic hf hc p (List.mem_of_getElem? hp)

end Handed

namespace Standing

variable {s : Standing} {subject : SubjectType}

theorem Describes.covers_of_single (h : s.Describes maps v) (hs : s.type.isList = false) :
    s.type.dataType.Covers maps v.kind := by
  cases h with
  | one single holds => exact holds.covers
  | list isList holds => simp [isList] at hs

theorem Describes.admits (hp : s.IsPlain) (h : s.Describes maps v)
    (ha : subject.accepts s.type = true) : subject.Admits v := by
  simp only [SubjectType.accepts, hp.known, if_false] at ha
  cases subject with
  | any => trivial
  | scalar =>
    simp only [Bool.and_eq_true, Bool.not_eq_true'] at ha
    have hv := h.covers_of_single ha.1
    have hd := ha.2
    cases ht : s.type.dataType <;> simp_all [DataType.isScalar, DataType.Covers, SubjectType.Admits]
  | number =>
    simp only [Bool.and_eq_true, Bool.not_eq_true', beq_iff_eq] at ha
    have hv := h.covers_of_single ha.1
    rwa [ha.2] at hv
  | string =>
    simp only [Bool.and_eq_true, Bool.not_eq_true', beq_iff_eq] at ha
    have hv := h.covers_of_single ha.1
    rwa [ha.2] at hv
  | numbers =>
    have hd := beq_iff_eq.mp ha
    cases h with
    | one single holds =>
      have hv := holds.covers
      rw [hd] at hv
      exact .inl hv
    | list isList holds =>
      refine .inr ⟨_, rfl, fun w hw => ?_⟩
      have hv := (holds w hw).covers
      rwa [hd] at hv
  | list =>
    cases h with
    | one single holds => simp [single] at ha
    | list isList holds => rfl
  | listOrRecord =>
    cases h with
    | one single holds =>
      have hd : s.type.dataType = .record := by simpa [single] using ha
      have hv := holds.covers
      rw [hd] at hv
      exact .inr (hv.imp_right (·.2))
    | list isList holds => exact .inl rfl

theorem result_isPlain {r : ReturnType} (h : s.IsPlain) (hr : r ≠ .unknown) :
    (s.result r).IsPlain := by
  cases r with
  | bool | number | string => exact ⟨nofun, nofun⟩
  | element => exact ⟨h.known, h.shape⟩
  | unknown => exact absurd rfl hr

theorem result_describes {r : ReturnType} {w : Value} (hp : s.IsPlain) (h : s.Describes maps v)
    (hr : r ≠ .unknown) (hw : r.Yields v w) : (s.result r).Describes maps w := by
  cases r with
  | bool | number | string => exact .one rfl ⟨hw, nofun⟩
  | element =>
    obtain ⟨vs, rfl, hw⟩ := hw
    exact ((h.of_sequence w hw).element hp).describes
  | unknown => exact absurd rfl hr

theorem IsPlain.call (codecs : Codecs) (h : s.IsPlain) (hf : f.isReader = false)
    (hc : callComplaints f s.type types = []) (hp : Handed maps types params) :
    s.Leads maps (s.result f.signature.returns)
      fun v => (f.call codecs v params types.length).mapError (.call f) := by
  obtain ⟨hs, ha, hc⟩ := callComplaints_eq_nil.mp hc
  have hr := Builtin.returns_ne_unknown hf
  refine ⟨result_isPlain h hr, fun v hv => ?_⟩
  have hcall : Gives ((s.result f.signature.returns).Describes maps) CallFailure.IsBenign
      (f.call codecs v params types.length) := by
    refine Gives.of_cases (fun w hw => ?_) fun e he => ?_
    · exact result_describes h hv hr (Builtin.call_yields hw)
    · rcases Builtin.call_error (hv.admits h hs) (hp.admits ha hc) he with hb | ⟨hreads, -⟩
      · exact hb
      · simp [hf] at hreads
  exact hcall.mapError fun _ he => he

end Standing

end PathQuery
