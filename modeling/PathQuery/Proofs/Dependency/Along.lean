import PathQuery.Evaluation.Basic
import PathQuery.Proofs.Dependency.Prune

namespace PathQuery

mutual

inductive Along : Chain → Value → Value → Prop where
  | same (c : Chain) (v : Value) : Along c v v
  | found {name : String} {rest : Chain} {v v' w w' : Value} (hk : v.kind = v'.kind)
    (hv : v.lookup? name = some w) (hv' : v'.lookup? name = some w') (hw : Along rest w w') :
    Along (name :: rest) v v'
  | missing {name : String} {rest : Chain} {v v' : Value} (hk : v.kind = v'.kind)
    (hs : v.kind ≠ .sequence) (hv : v.lookup? name = none) (hv' : v'.lookup? name = none) :
    Along (name :: rest) v v'
  | items {name : String} {rest : Chain} {vs vs' : List Value} (h : AllAlong (name :: rest) vs vs') :
    Along (name :: rest) (.sequence vs) (.sequence vs')

inductive AllAlong : Chain → List Value → List Value → Prop where
  | nil (c : Chain) : AllAlong c [] []
  | cons {c : Chain} {v v' : Value} {vs vs' : List Value} (h : Along c v v')
    (hs : AllAlong c vs vs') : AllAlong c (v :: vs) (v' :: vs')

end

def BothAlong (c : Chain) : Option Value → Option Value → Prop
  | some v, some v' => Along c v v'
  | none, none => True
  | _, _ => False

theorem Along.eq {v v' : Value} (h : Along [] v v') : v = v' := by
  cases h
  rfl

theorem Along.kind_eq {c : Chain} {v v' : Value} (h : Along c v v') : v.kind = v'.kind := by
  cases h with
  | same => rfl
  | found hk => exact hk
  | missing hk => exact hk
  | items => rfl

theorem Along.isNull_eq {c : Chain} {v v' : Value} (h : Along c v v') : v.isNull = v'.isNull := by
  have hn : ∀ w : Value, w.isNull = decide (w.kind = .null) := fun w => by cases w <;> rfl
  rw [hn, hn, h.kind_eq]

theorem BothAlong.refl (c : Chain) (v : Option Value) : BothAlong c v v := by
  cases v with
  | none => trivial
  | some v => exact .same c v

theorem Along.lookup? {name : String} {rest : Chain} {v v' : Value}
    (h : Along (name :: rest) v v') : BothAlong rest (v.lookup? name) (v'.lookup? name) := by
  cases h with
  | same => exact .refl rest _
  | found _ hv hv' hw => rw [hv, hv']; exact hw
  | missing _ _ hv hv' => rw [hv, hv']; trivial
  | items => trivial

theorem AllAlong.refl (c : Chain) (vs : List Value) : AllAlong c vs vs := by
  induction vs with
  | nil => exact .nil c
  | cons v vs ih => exact .cons (.same c v) ih

theorem AllAlong.eq {vs vs' : List Value} (h : AllAlong [] vs vs') : vs = vs' := by
  induction vs generalizing vs' with
  | nil => cases h; rfl
  | cons v vs ih =>
    cases h with
    | cons h hs => rw [h.eq, ih hs]

theorem AllAlong.sequence {c : Chain} {vs vs' : List Value} (h : AllAlong c vs vs') :
    Along c (.sequence vs) (.sequence vs') := by
  cases c with
  | nil => rw [h.eq]; exact .same [] _
  | cons name rest => exact .items h

theorem Along.sequence {c : Chain} {vs : List Value} {v : Value} (h : Along c (.sequence vs) v) :
    ∃ vs', v = .sequence vs' ∧ AllAlong c vs vs' := by
  cases h with
  | same => exact ⟨vs, rfl, .refl c vs⟩
  | found _ hv => simp [Value.lookup?] at hv
  | missing _ hs => simp [Value.kind] at hs
  | items h => exact ⟨_, rfl, h⟩

theorem AllAlong.length_eq {c : Chain} {vs vs' : List Value} (h : AllAlong c vs vs') :
    vs.length = vs'.length := by
  induction vs generalizing vs' with
  | nil => cases h; rfl
  | cons v vs ih =>
    cases h with
    | cons _ hs => rw [List.length_cons, List.length_cons, ih hs]

theorem AllAlong.getElem? {c : Chain} {vs vs' : List Value} (h : AllAlong c vs vs') (i : Nat) :
    BothAlong c vs[i]? vs'[i]? := by
  induction vs generalizing vs' i with
  | nil => cases h; exact .refl c _
  | cons v vs ih =>
    cases h with
    | cons h hs =>
      cases i with
      | zero => exact h
      | succ i => simpa using ih hs i

theorem AllAlong.head? {c : Chain} {vs vs' : List Value} (h : AllAlong c vs vs') :
    BothAlong c vs.head? vs'.head? := by
  rw [List.head?_eq_getElem?, List.head?_eq_getElem?]
  exact h.getElem? 0

theorem AllAlong.getLast? {c : Chain} {vs vs' : List Value} (h : AllAlong c vs vs') :
    BothAlong c vs.getLast? vs'.getLast? := by
  rw [List.getLast?_eq_getElem?, List.getLast?_eq_getElem?, h.length_eq]
  exact h.getElem? _

theorem AllAlong.filterMap_lookup? {name : String} {rest : Chain} {vs vs' : List Value}
    (h : AllAlong (name :: rest) vs vs') :
    AllAlong rest (vs.filterMap (·.lookup? name)) (vs'.filterMap (·.lookup? name)) := by
  induction vs generalizing vs' with
  | nil => cases h; exact .nil rest
  | cons v vs ih =>
    cases h with
    | @cons _ _ v' _ vs' h hs =>
      have hl := h.lookup?
      cases hv : v.lookup? name <;> cases hv' : v'.lookup? name <;> rw [hv, hv'] at hl
      · simpa [hv, hv'] using ih hs
      · exact hl.elim
      · exact hl.elim
      · simpa [hv, hv'] using AllAlong.cons hl (ih hs)

theorem along_of_lookup? (fields : List (String × Value)) {chains : List Chain} {name : String}
    {rest : Chain} {v v' : Value} (hc : name :: rest ∈ chains) (hk : v.kind = v'.kind)
    (hs : v.kind ≠ .sequence) (hv : v.lookup? name = named? fields name)
    (hv' : v'.lookup? name =
      named? (keepNamed (prunedAt? (tailsAt chains fields)) (placed 0 fields)) name)
    (ih : ∀ e ∈ fields, ∀ tails, rest ∈ tails → rest ≠ [] → Along rest e.2 (e.2.prune tails)) :
    Along (name :: rest) v v' := by
  cases h : named? fields name with
  | none => exact .missing hk hs (hv.trans h) (hv'.trans (named?_pruned_none _ h))
  | some w =>
    obtain ⟨tails, hr, hp⟩ := named?_pruned hc h
    obtain ⟨e, he, rfl⟩ := exists_mem_of_named? h
    refine .found hk (hv.trans h) (hv'.trans hp) ?_
    by_cases hn : [] ∈ tails
    · simpa [hn] using Along.same rest e.2
    · have hne : rest ≠ [] := fun h => hn (h ▸ hr)
      simpa [hn] using ih e he tails hr hne

mutual

theorem Value.prune_along : ∀ (v : Value) {chains : List Chain} {c : Chain}, c ∈ chains → c ≠ [] →
    Along c v (v.prune chains)
  | .record fields, chains, [], _, hn => absurd rfl hn
  | .record fields, chains, name :: rest, hc, _ => by
    refine along_of_lookup? fields hc rfl (by simp [Value.kind]) rfl ?_ fun e he tails =>
      fields_along fields e he
    rw [Value.prune, Value.lookup?, Fields.lookup?, pruneFields_eq]
  | .map entries, chains, [], _, hn => absurd rfl hn
  | .map entries, chains, name :: rest, hc, _ => by
    refine along_of_lookup? (Entries.texts entries) hc rfl (by simp [Value.kind]) rfl ?_ ?_
    · rw [Value.prune, Value.lookup?, Entries.lookup?, texts_pruneEntries]
    · intro t ht tails
      obtain ⟨e, he, rfl⟩ := List.mem_map.mp ht
      exact entries_along entries e he
  | .sequence items, _, _, hc, hn => by
    rw [Value.prune]
    exact (pruneItems_along items hc hn).sequence
  | .null, _, c, _, _ => .same c _
  | .bool _, _, c, _, _ => .same c _
  | .number _, _, c, _, _ => .same c _
  | .string _, _, c, _, _ => .same c _
termination_by structural v => v

theorem fields_along : ∀ (fields : List (String × Value)), ∀ e ∈ fields,
    ∀ {tails : List Chain} {c : Chain}, c ∈ tails → c ≠ [] → Along c e.2 (e.2.prune tails)
  | [], e, he, _, _, _, _ => by simp at he
  | (name, v) :: fields, e, he, _, _, hc, hn => by
    rcases List.mem_cons.mp he with rfl | he
    · exact Value.prune_along v hc hn
    · exact fields_along fields e he hc hn
termination_by structural fields => fields

theorem entries_along : ∀ (entries : List (Key × Value)), ∀ e ∈ entries,
    ∀ {tails : List Chain} {c : Chain}, c ∈ tails → c ≠ [] → Along c e.2 (e.2.prune tails)
  | [], e, he, _, _, _, _ => by simp at he
  | (key, v) :: entries, e, he, _, _, hc, hn => by
    rcases List.mem_cons.mp he with rfl | he
    · exact Value.prune_along v hc hn
    · exact entries_along entries e he hc hn
termination_by structural entries => entries

theorem pruneItems_along : ∀ (items : List Value) {chains : List Chain} {c : Chain}, c ∈ chains →
    c ≠ [] → AllAlong c items (pruneItems chains items)
  | [], _, c, _, _ => .nil c
  | v :: items, _, _, hc, hn => .cons (Value.prune_along v hc hn) (pruneItems_along items hc hn)
termination_by structural items => items

end

end PathQuery
