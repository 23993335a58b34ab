import PathQuery.Proofs.Evaluation.Groups

namespace PathQuery

namespace Result

def Answers (r : Result) : Prop := ∃ v, r = .ok v

def holds : Result → Bool
  | .ok v => v.isTrue
  | .error _ => false

@[simp] theorem answers_ok (v : Value) : Answers (.ok v) := ⟨v, rfl⟩

@[simp] theorem not_answers_error (e : Failure) : ¬Answers (.error e) := nofun

@[simp] theorem holds_ok (v : Value) : holds (.ok v) = v.isTrue := rfl

@[simp] theorem holds_error (e : Failure) : holds (.error e) = false := rfl

def Alike (r s : Result) : Prop := (Answers r ↔ Answers s) ∧ holds r = holds s

theorem Alike.symm {r s : Result} (h : Alike r s) : Alike s r := ⟨h.1.symm, h.2.symm⟩

theorem Alike.trans {r s t : Result} (h : Alike r s) (h' : Alike s t) : Alike r t :=
  ⟨h.1.trans h'.1, h.2.trans h'.2⟩

theorem alike_truth (r : Result) : Alike (r.map fun v => .bool v.isTrue) r := by
  cases r with
  | error e => exact ⟨iff_of_false (not_answers_error e) (not_answers_error e), rfl⟩
  | ok v => exact ⟨iff_of_true (answers_ok _) (answers_ok v), rfl⟩

def andThen (r s : Result) : Result :=
  r >>= fun v => if v.isTrue = false then .ok (.bool false) else s

theorem answers_andThen (r s : Result) :
    Answers (andThen r s) ↔ Answers r ∧ (holds r = true → Answers s) := by
  cases r with
  | error e =>
    have hfails : andThen (.error e) s = .error e := rfl
    simp [hfails]
  | ok v =>
    rw [andThen, ok_bind]
    cases hv : v.isTrue with
    | false => simp [hv]
    | true => simp [hv]

theorem holds_andThen (r s : Result) : holds (andThen r s) = (holds r && holds s) := by
  cases r with
  | error e => rfl
  | ok v =>
    rw [andThen, ok_bind]
    cases hv : v.isTrue with
    | false =>
      have hfalse : (Value.bool false).isTrue = false := rfl
      simp [hv, hfalse]
    | true => simp [hv]

theorem Alike.andThen {r r' s s' : Result} (hr : Alike r r') (hs : Alike s s') :
    Alike (andThen r s) (andThen r' s') := by
  constructor
  · rw [answers_andThen, answers_andThen, hr.1, hr.2, hs.1]
  · rw [holds_andThen, holds_andThen, hr.2, hs.2]

end Result

namespace Value

open Result

def tested? : Value → Option (List Value)
  | .sequence items => some items
  | .record fields => some [.record fields]
  | .map entries => some [.map entries]
  | _ => none

def restrict (kept : Value → Bool) : Value → Value
  | .sequence items => .sequence (items.filter kept)
  | v => if kept v then v else .null

variable {test : Value → Result} {v w : Value} {vs kept : List Value}

theorem keep_eq_ok_iff :
    keep test vs = .ok kept ↔
      (∀ v ∈ vs, Answers (test v)) ∧ kept = vs.filter fun v => holds (test v) := by
  induction vs generalizing kept with
  | nil =>
    have hnil : keep test [] = .ok kept ↔ kept = [] :=
      ⟨fun h => (Except.ok.inj h).symm, fun h => congrArg Except.ok h.symm⟩
    simpa using hnil
  | cons v vs ih =>
    rw [keep, bind_eq_ok]
    constructor
    · rintro ⟨w, hw, h⟩
      obtain ⟨rest, hrest, hkept⟩ := bind_eq_ok.mp h
      obtain ⟨hall, rfl⟩ := ih.mp hrest
      refine ⟨List.forall_mem_cons.mpr ⟨⟨w, hw⟩, hall⟩, ?_⟩
      rw [List.filter_cons, hw]
      exact (pure_eq_ok.mp hkept).symm
    · rintro ⟨hall, rfl⟩
      obtain ⟨⟨w, hw⟩, hall⟩ := List.forall_mem_cons.mp hall
      refine ⟨w, hw, bind_eq_ok.mpr ⟨_, ih.mpr ⟨hall, rfl⟩, ?_⟩⟩
      rw [List.filter_cons, hw]
      rfl

theorem exists_answer_iff {r : Result} :
    (∃ u, r = .ok u ∧ (if u.isTrue then v else .null) = w) ↔
      Answers r ∧ w = if holds r then v else .null := by
  constructor
  · rintro ⟨u, rfl, rfl⟩
    exact ⟨answers_ok u, rfl⟩
  · rintro ⟨⟨u, rfl⟩, rfl⟩
    exact ⟨u, rfl, rfl⟩

theorem filterBy_eq_ok_iff :
    v.filterBy test = .ok w ↔
      ∃ vs, v.tested? = some vs ∧ (∀ u ∈ vs, Answers (test u)) ∧
        w = v.restrict fun u => holds (test u) := by
  cases v with
  | sequence items =>
    have hmap : (keep test items).map Value.sequence = .ok w ↔
        ∃ kept, keep test items = .ok kept ∧ .sequence kept = w := by
      cases keep test items <;> simp [Except.map]
    refine hmap.trans ⟨?_, ?_⟩
    · rintro ⟨kept, hkept, rfl⟩
      obtain ⟨hall, rfl⟩ := keep_eq_ok_iff.mp hkept
      exact ⟨items, rfl, hall, rfl⟩
    · rintro ⟨vs, hvs, hall, rfl⟩
      obtain rfl := Option.some.inj hvs
      exact ⟨_, keep_eq_ok_iff.mpr ⟨hall, rfl⟩, rfl⟩
  | record | map =>
    rw [filterBy, bind_eq_ok]
    simp only [pure_eq_ok, exists_answer_iff, tested?, restrict, Option.some.injEq, exists_eq_left',
      List.forall_mem_singleton]
  | _ =>
    refine iff_of_false (fun h => by cases h) ?_
    rintro ⟨vs, hvs, -⟩
    cases hvs

theorem filterBy_alike {test' : Value → Result} (h : ∀ u, Alike (test u) (test' u)) :
    v.filterBy test = .ok w ↔ v.filterBy test' = .ok w := by
  simp only [filterBy_eq_ok_iff, fun u => (h u).1, fun u => (h u).2]

theorem restrict_null (kept : Value → Bool) : restrict kept .null = .null := ite_self _

theorem restrict_restrict (kept kept' : Value → Bool) (v : Value) :
    (v.restrict kept).restrict kept' = v.restrict fun u => kept u && kept' u := by
  have hwhole (u : Value) (hu : ∀ k, u.restrict k = if k u then u else .null) :
      (u.restrict kept).restrict kept' = u.restrict fun u => kept u && kept' u := by
    rw [hu kept, hu fun u => kept u && kept' u]
    by_cases hk : kept u = true
    · rw [if_pos hk, hu kept', hk, Bool.true_and]
    · rw [if_neg hk, restrict_null, Bool.eq_false_iff.mpr hk, Bool.false_and]
      rfl
  cases v with
  | sequence items =>
    have hfilter : (items.filter kept).filter kept' = items.filter fun u => kept u && kept' u := by
      rw [List.filter_filter]
      exact List.filter_congr fun u _ => Bool.and_comm _ _
    exact congrArg Value.sequence hfilter
  | _ => exact hwhole _ fun _ => rfl

theorem tested?_restrict (h : v.tested? = some vs) (kept : Value → Bool) :
    v.restrict kept = .null ∧ vs.filter kept = [] ∨
      (v.restrict kept).isNull = false ∧ (v.restrict kept).tested? = some (vs.filter kept) := by
  cases v with
  | sequence items =>
    obtain rfl := Option.some.inj h
    exact .inr ⟨rfl, rfl⟩
  | record | map =>
    obtain rfl := Option.some.inj h
    simp only [restrict]
    split
    · next hv => exact .inr ⟨rfl, by simp [tested?, hv]⟩
    · next hv => exact .inl ⟨rfl, by simp [hv]⟩
  | _ => cases h

theorem filterBy_restrict (h : v.tested? = some vs) (kept : Value → Bool) :
    (if (v.restrict kept).isNull then (.ok .null : Result)
        else (v.restrict kept).filterBy test) = .ok w ↔
      (∀ u ∈ vs.filter kept, Answers (test u)) ∧ w = v.restrict fun u => kept u && holds (test u) := by
  rw [← restrict_restrict]
  rcases tested?_restrict h kept with ⟨hnull, hvs⟩ | ⟨hnull, hvs⟩
  · rw [hnull, hvs, restrict_null]
    exact ⟨fun hw => ⟨List.forall_mem_nil _, (Except.ok.inj hw).symm⟩,
      fun hw => congrArg Except.ok hw.2.symm⟩
  · rw [hnull, if_neg Bool.false_ne_true, filterBy_eq_ok_iff, hvs]
    simp only [Option.some.injEq, exists_eq_left']

theorem filterBy_filterBy (first second : Value → Result) :
    (v.filterBy first >>= fun u => if u.isNull then .ok .null else u.filterBy second) = .ok w ↔
      v.filterBy (fun u => andThen (first u) (second u)) = .ok w := by
  have hanswers (vs : List Value) : (∀ u ∈ vs, Answers (andThen (first u) (second u))) ↔
      (∀ u ∈ vs, Answers (first u)) ∧
        ∀ u ∈ vs.filter fun u => holds (first u), Answers (second u) := by
    simp only [answers_andThen, List.mem_filter, and_imp]
    exact ⟨fun hall => ⟨fun u hu => (hall u hu).1, fun u hu => (hall u hu).2⟩,
      fun hall u hu => ⟨hall.1 u hu, hall.2 u hu⟩⟩
  rw [bind_eq_ok, filterBy_eq_ok_iff]
  simp only [holds_andThen, hanswers]
  constructor
  · rintro ⟨u, hu, hw⟩
    obtain ⟨vs, hvs, hfirst, rfl⟩ := filterBy_eq_ok_iff.mp hu
    obtain ⟨hsecond, rfl⟩ := (filterBy_restrict hvs _).mp hw
    exact ⟨vs, hvs, ⟨hfirst, hsecond⟩, rfl⟩
  · rintro ⟨vs, hvs, ⟨hfirst, hsecond⟩, rfl⟩
    have hu := filterBy_eq_ok_iff.mpr ⟨vs, hvs, hfirst, rfl⟩
    exact ⟨_, hu, (filterBy_restrict hvs _).mpr ⟨hsecond, rfl⟩⟩

end Value

open Result

def Query.predicate : Query → Group
  | .path p => .ofPath p
  | .group g => g

section

variable {codecs : Codecs} {current root : Value}

theorem Query.predicate_alike (q : Query) :
    Alike (q.predicate.eval codecs current root) (q.eval codecs current root) := by
  cases q with
  | group g => exact ⟨Iff.rfl, rfl⟩
  | path p =>
    have hpath : (Group.ofPath p).eval codecs current root =
        Query.evalUntil codecs current root false [.path p] := Group.eval_eq rfl false false [.path p]
    rw [Query.predicate, hpath, Query.evalUntil_singleton]
    exact alike_truth _

def Group.both (isExplicit isBraced : Bool) (f g : Query) : Group :=
  ⟨.and, isExplicit, isBraced, [f, g]⟩

theorem Group.both_alike (isExplicit isBraced : Bool) (f g : Query) :
    Alike ((Group.both isExplicit isBraced f g).eval codecs current root)
      (andThen (f.predicate.eval codecs current root) (g.predicate.eval codecs current root)) := by
  have hboth : (Group.both isExplicit isBraced f g).eval codecs current root =
      andThen (f.eval codecs current root)
        ((g.eval codecs current root).map fun v => .bool v.isTrue) := by
    rw [Group.both, Group.eval_eq rfl, Query.evalUntil, Query.evalUntil_singleton]
    rfl
  have hfirst : Alike (f.predicate.eval codecs current root) (f.eval codecs current root) :=
    f.predicate_alike
  have hsecond : Alike (g.predicate.eval codecs current root) (g.eval codecs current root) :=
    g.predicate_alike
  rw [hboth]
  exact hfirst.symm.andThen ((alike_truth _).trans hsecond.symm)

theorem Group.holds_both (isExplicit isBraced : Bool) (f g : Query) :
    holds ((Group.both isExplicit isBraced f g).eval codecs current root) =
      (holds (f.eval codecs current root) && holds (g.eval codecs current root)) := by
  rw [(Group.both_alike isExplicit isBraced f g).2, holds_andThen, f.predicate_alike.2,
    g.predicate_alike.2]

theorem Segment.evalAll_singleton (s : Segment) (v : Value) :
    Segment.evalAll codecs current root v [s] =
      if v.isNull then .ok .null else s.eval codecs current root v := by
  rw [Segment.evalAll]
  refine congrArg _ ?_
  exact bind_pure _

end

theorem Segment.eval_filters (codecs : Codecs) (isExplicit isBraced : Bool) (f g : Query)
    (current root v w : Value) :
    ((Segment.filter f.predicate).eval codecs current root v >>= (fun u =>
          Segment.evalAll codecs current root u [.filter g.predicate]) = .ok w ↔
        (Segment.filter (.both isExplicit isBraced f g)).eval codecs current root v = .ok w) ∧
      (Segment.evalAll codecs current root v [.filter f.predicate, .filter g.predicate] = .ok w ↔
        Segment.evalAll codecs current root v [.filter (.both isExplicit isBraced f g)] = .ok w) ∧
      (Segment.evalAll codecs current root v [.filter (.both isExplicit isBraced f g)] = .ok w →
        w = v.restrict fun u =>
          holds (f.eval codecs u root) && holds (g.eval codecs u root)) := by
  have hfilters : (Segment.filter f.predicate).eval codecs current root v >>= (fun u =>
        Segment.evalAll codecs current root u [.filter g.predicate]) = .ok w ↔
      (Segment.filter (.both isExplicit isBraced f g)).eval codecs current root v = .ok w := by
    simp only [Segment.evalAll_singleton, Segment.eval]
    rw [Value.filterBy_filterBy]
    exact Value.filterBy_alike fun u => (Group.both_alike isExplicit isBraced f g).symm
  refine ⟨hfilters, ?_, ?_⟩
  · rw [Segment.evalAll_singleton, Segment.evalAll]
    split
    · exact Iff.rfl
    · exact hfilters
  · intro h
    rw [Segment.evalAll_singleton] at h
    split at h
    · next hv =>
      cases v with
      | null => exact (Except.ok.inj h).symm.trans (Value.restrict_null _).symm
      | _ => cases hv
    · obtain ⟨-, -, -, rfl⟩ := Value.filterBy_eq_ok_iff.mp h
      simp only [Group.holds_both]

theorem Segment.eval_filters_dropped :
    let a : Query := .path ⟨.current, true, true, [.field "a"]⟩
    let b : Query := .path ⟨.current, true, true, [.field "b"]⟩
    let whole : Value := .record [("a", .bool true), ("b", .bool true)]
    let v : Value := .sequence [.record [("a", .bool false)], whole]
    Segment.evalAll (.none .bare) v v v [.filter b.predicate] = .error (.keyNotFound "b") ∧
      Segment.evalAll (.none .bare) v v v [.filter (.both true true a b)] =
        .ok (.sequence [whole]) := by
  intro a b whole v
  obtain ⟨-, hpath, -⟩ := Segment.eval_filters (.none .bare) true true a b v v v (.sequence [whole])
  exact ⟨rfl, hpath.mp rfl⟩

end PathQuery
