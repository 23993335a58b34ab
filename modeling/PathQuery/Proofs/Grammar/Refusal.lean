import Mathlib.Order.Bounds.Defs
import PathQuery.Proofs.Grammar.Expectation

namespace PathQuery

def SyntaxError.moveTo (e : SyntaxError) (p : Position) : SyntaxError :=
  match e with
  | .unexpected found expected _ => .unexpected found expected p
  | .malformed reason _ => .malformed reason p
  | .invalidNumber text _ => .invalidNumber text p
  | .rootInFilter _ => .rootInFilter p
  | .trailing found _ => .trailing found p

namespace SyntaxError

@[simp] theorem moveTo_position (e : SyntaxError) (p : Position) : (e.moveTo p).position = p := by
  cases e <;> rfl

theorem moveTo_eq_rootInFilter_iff (e : SyntaxError) (p : Position) :
    (∃ p', e.moveTo p = .rootInFilter p') ↔ ∃ p', e = .rootInFilter p' := by
  cases e <;> simp [moveTo]

end SyntaxError

namespace PartialQuery

section Place

variable (t : Token) (p p' : Position)

theorem refuse_moveTo {α : Type} (expected : String) : (refuse expected ⟨t, p'⟩ : Except _ α) =
    (refuse expected ⟨t, p⟩).mapError (·.moveTo p') := by
  unfold refuse
  cases t <;> rfl

theorem stepOperand_moveTo (g : OpenGroup) (expected : String) :
    stepOperand g expected ⟨t, p'⟩ = (stepOperand g expected ⟨t, p⟩).mapError (·.moveTo p') := by
  simp only [stepOperand]
  split
  · rfl
  · rfl
  · split <;> rfl
  · exact refuse_moveTo t p p' expected

theorem stepArgument_moveTo (c : OpenCall) :
    stepArgument c ⟨t, p'⟩ = (stepArgument c ⟨t, p⟩).mapError (·.moveTo p') := by
  simp only [stepArgument]
  split
  · split <;> rfl
  all_goals first | rfl | exact refuse_moveTo t p p' _

theorem stepComplete_moveTo (r : PartialQuery) :
    r.stepComplete ⟨t, p'⟩ = (r.stepComplete ⟨t, p⟩).mapError (·.moveTo p') := by
  cases r with
  | predicate | operand | argument | complete =>
    simp only [stepComplete]
    split
    all_goals first | rfl | exact refuse_moveTo t p p' _
  | _ => exact refuse_moveTo t p p' _

theorem stepPath_moveTo (path : OpenPath) :
    stepPath path ⟨t, p'⟩ = (stepPath path ⟨t, p⟩).mapError (·.moveTo p') := by
  simp only [stepPath]
  split
  · rfl
  · rfl
  · exact stepComplete_moveTo t p p' _

theorem step_moveTo (r : PartialQuery) :
    r.step ⟨t, p'⟩ = (r.step ⟨t, p⟩).mapError (·.moveTo p') := by
  cases r with
  | path path => exact stepPath_moveTo t p p' path
  | operandComma g => exact stepOperand_moveTo t p p' g _
  | argumentComma c => exact stepArgument_moveTo t p p' c
  | predicate path g => exact stepComplete_moveTo t p p' (.predicate path g)
  | operand g => exact stepComplete_moveTo t p p' (.operand g)
  | argument c => exact stepComplete_moveTo t p p' (.argument c)
  | complete q => exact stepComplete_moveTo t p p' (.complete q)
  | named path name =>
    simp only [step]
    split
    · rfl
    · exact stepPath_moveTo t p p' _
  | brace c =>
    simp only [step]
    split
    · rfl
    · exact stepOperand_moveTo t p p' _ _
  | parenthesis c =>
    simp only [step]
    split
    · rfl
    · exact stepArgument_moveTo t p p' _
  | nothing | dot | bracket | operator =>
    simp only [step]
    split
    all_goals first | rfl | exact refuse_moveTo t p p' _

end Place

variable {r r' : PartialQuery} {t : PlacedToken} {e : SyntaxError}

theorem step_error_moveTo (h : r.step t = .error e) (p : Position) :
    r.step ⟨t.token, p⟩ = .error (e.moveTo p) := by
  rw [step_moveTo t.token t.position p r, h]
  rfl

theorem step_error_position (h : r.step t = .error e) : e.position = t.position := by
  have he : r.step t = .error (e.moveTo t.position) := step_error_moveTo h t.position
  rw [← Except.error.inj (he.symm.trans h), SyntaxError.moveTo_position]

theorem next?_eq_none_iff : r.next? t.token = none ↔ ∃ e, r.step t = .error e := by
  rw [next?, r.step_toOption (t := ⟨t.token, .start⟩) (u := t) rfl]
  cases r.step t <;> simp [Except.toOption]

theorem run_refused {us vs : List PlacedToken} (hu : r.reading? (us.map (·.token)) = some r')
    (h : r'.step t = .error e) : r.run (us ++ t :: vs) = .error e := by
  induction us generalizing r with
  | nil =>
    obtain rfl := Option.some.inj hu
    rw [List.nil_append, run, h]
  | cons u us ih =>
    rw [List.map_cons, reading?_cons, Option.bind_eq_some_iff] at hu
    obtain ⟨s, hs, hu⟩ := hu
    rw [List.cons_append, run, (step_eq_ok_iff r s u).mpr hs]
    exact ih hu

theorem run_eq_error {ts : List PlacedToken} (h : r.run ts = .error e) : ∃ us t vs r',
    ts = us ++ t :: vs ∧ r.reading? (us.map (·.token)) = some r' ∧ r'.step t = .error e := by
  induction ts generalizing r with
  | nil => cases h
  | cons t ts ih =>
    rw [run] at h
    cases hs : r.step t with
    | error e' =>
      rw [hs] at h
      exact ⟨[], t, ts, r, rfl, rfl, hs.trans (congrArg _ (Except.error.inj h))⟩
    | ok s =>
      rw [hs] at h
      obtain ⟨us, u, vs, r', rfl, hu, he⟩ := ih h
      refine ⟨t :: us, u, vs, r', rfl, ?_, he⟩
      rw [List.map_cons, reading?_cons, (step_eq_ok_iff r s t).mp hs, Option.bind_some, hu]

theorem complete_of_reading? {ts : List Token}
    (h : r.reading? (ts ++ [.endOfInput]) = some r') : ∃ q, r' = .complete q := by
  rw [reading?_append, Option.bind_eq_some_iff] at h
  obtain ⟨s, -, hs⟩ := h
  rw [reading?_singleton] at hs
  cases leads_of_next? hs with
  | parts hp => cases hp with | endOfInput => exact ⟨_, rfl⟩

def RefusesRoot (r : PartialQuery) : Prop :=
  (∃ r', r.next? (.rune '@') = some r') ∧ r.next? (.rune '$') = none

variable {p : Position}

theorem refuse_ne_rootInFilter {α : Type} {expected : String} :
    (refuse expected t : Except SyntaxError α) ≠ .error (.rootInFilter p) := by
  intro h
  unfold refuse at h
  split at h <;> cases h

theorem stepArgument_ne_rootInFilter {c : OpenCall} :
    stepArgument c t ≠ .error (.rootInFilter p) := by
  intro h
  unfold stepArgument at h
  split at h
  · split at h <;> cases h
  all_goals first | exact refuse_ne_rootInFilter h | cases h

theorem stepComplete_ne_rootInFilter : r.stepComplete t ≠ .error (.rootInFilter p) := by
  intro h
  cases r with
  | predicate | operand | argument | complete =>
    simp only [stepComplete] at h
    split at h
    all_goals first | exact refuse_ne_rootInFilter h | cases h
  | _ => exact refuse_ne_rootInFilter h

theorem stepPath_ne_rootInFilter {path : OpenPath} :
    stepPath path t ≠ .error (.rootInFilter p) := by
  intro h
  unfold stepPath at h
  split at h
  · cases h
  · cases h
  · exact stepComplete_ne_rootInFilter h

theorem refusesRoot_operandComma {g : OpenGroup} (h : g.context.inFilter = true) :
    (PartialQuery.operandComma g).RefusesRoot :=
  ⟨⟨_, rfl⟩, by simp [next?, step, stepOperand, h, Except.toOption]⟩

theorem stepOperand_rootInFilter {g : OpenGroup} {expected : String}
    (h : stepOperand g expected t = .error (.rootInFilter p)) :
    t.token = .rune '$' ∧ (PartialQuery.operandComma g).RefusesRoot := by
  unfold stepOperand at h
  split at h
  · cases h
  · cases h
  · next ht =>
    split at h
    · next hf => exact ⟨ht, refusesRoot_operandComma hf⟩
    · cases h
  · exact absurd h refuse_ne_rootInFilter

theorem step_rootInFilter (h : r.step t = .error (.rootInFilter p)) :
    t.token = .rune '$' ∧ r.RefusesRoot := by
  cases r with
  | bracket path =>
    simp only [step] at h
    split at h
    · cases h
    · cases h
    · next ht => exact ⟨ht, ⟨_, rfl⟩, rfl⟩
    · exact absurd h refuse_ne_rootInFilter
  | operandComma g => exact stepOperand_rootInFilter h
  | brace c =>
    simp only [step] at h
    split at h
    · cases h
    · exact stepOperand_rootInFilter h
  | path path => exact absurd h stepPath_ne_rootInFilter
  | named path name =>
    simp only [step] at h
    split at h
    · cases h
    · exact absurd h stepPath_ne_rootInFilter
  | argumentComma c => exact absurd h stepArgument_ne_rootInFilter
  | parenthesis c =>
    simp only [step] at h
    split at h
    · cases h
    · exact absurd h stepArgument_ne_rootInFilter
  | nothing | dot | operator =>
    simp only [step] at h
    split at h
    all_goals first | exact absurd h refuse_ne_rootInFilter | cases h
  | predicate | operand | argument | complete =>
    simp only [step] at h
    exact absurd h stepComplete_ne_rootInFilter

theorem next?_path_current (path : OpenPath) :
    (PartialQuery.path path).next? (.rune '@') = none := by
  rw [Grammar.next?_path (by simp)]
  cases hc : path.context <;> simp [closePath, hc] <;> rfl

theorem RefusesRoot.inFilter {g : OpenGroup} (h : (PartialQuery.operandComma g).RefusesRoot) :
    g.context.inFilter = true := by
  have hroot := h.2
  cases hf : g.context.inFilter with
  | true => rfl
  | false => simp [next?, step, stepOperand, hf, Except.toOption] at hroot

theorem RefusesRoot.step (h : r.RefusesRoot) (p : Position) :
    r.step ⟨.rune '$', p⟩ = .error (.rootInFilter p) := by
  obtain ⟨⟨r', hcurrent⟩, hroot⟩ := h
  cases r with
  | bracket path => rfl
  | operandComma g | brace c =>
    have hf := RefusesRoot.inFilter ⟨⟨_, rfl⟩, hroot⟩
    simp only [PartialQuery.step, stepOperand, hf, if_true]
  | path path =>
    rw [next?_path_current] at hcurrent
    cases hcurrent
  | named path name =>
    cases hcurrent.symm.trans (next?_path_current (path.push (.field name)))
  | nothing => cases hroot
  | parenthesis c | argumentComma c => cases hroot
  | dot | operator | predicate | operand | argument | complete => cases hcurrent

theorem step_rootInFilter_iff (h : r.step t = .error e) :
    (∃ p, e = .rootInFilter p) ↔ t.token = .rune '$' ∧ r.RefusesRoot := by
  constructor
  · rintro ⟨p, rfl⟩
    exact step_rootInFilter h
  · rintro ⟨ht, hr⟩
    have hstep := step_error_moveTo h t.position
    rw [ht, hr.step] at hstep
    exact (e.moveTo_eq_rootInFilter_iff t.position).mp ⟨_, (Except.error.inj hstep).symm⟩

end PartialQuery

open PartialQuery Scan

variable {s : String} {e : SyntaxError}

theorem tokens_init {ts us : List Token} {t : Token}
    (h : (tokens anyIdent s).map (·.token) = ts ++ t :: us) : ∀ u ∈ ts, u.IsSpelled := by
  obtain ⟨vs, hvs, hend⟩ := (yields_tokens anyIdent s).eq_append_endOfInput
  have hts : ∀ u ∈ ts, u ∈ vs := by
    intro u hu
    obtain ⟨ws, hws⟩ : ts <+: vs := by
      have hp : ts <+: vs ++ [.endOfInput] := ⟨t :: us, h.symm.trans hvs⟩
      rcases List.prefix_concat_iff.mp hp with heq | hp
      · have := congrArg List.length (h.symm.trans hvs)
        simp [heq] at this
      · exact hp
    exact hws ▸ List.mem_append_left _ hu
  intro u hu
  have hscanned := (yields_tokens anyIdent s).scanned u (h ▸ List.mem_append_left _ hu)
  exact ⟨hscanned, fun heq => hend (heq ▸ hts u hu)⟩

theorem Query.read_eq_error_iff : Query.read s = .error e ↔ ∃ us t vs r,
    tokens anyIdent s = us ++ t :: vs ∧ nothing.reading? (us.map (·.token)) = some r ∧
      r.step t = .error e := by
  constructor
  · intro h
    unfold Query.read at h
    split at h
    · cases h
    · next r hnot hr =>
      obtain ⟨ts, hts, -⟩ := (yields_tokens anyIdent s).eq_append_endOfInput
      rw [run_eq_ok_iff, hts] at hr
      obtain ⟨q, rfl⟩ := complete_of_reading? hr
      exact absurd rfl (hnot q)
    · next hr =>
      obtain rfl := Except.error.inj h
      exact run_eq_error hr
  · rintro ⟨us, t, vs, r, hts, hr, he⟩
    unfold Query.read
    rw [hts, run_refused hr he]

def leading (s : String) (n : Nat) : List Token := ((tokens anyIdent s).take n).map (·.token)

theorem leading_mono {m n : Nat} (h : m ≤ n) : leading s m <+: leading s n :=
  (List.take_prefix_take_left h).map _

theorem leading_of_eq_append {us vs : List PlacedToken} (h : tokens anyIdent s = us ++ vs) :
    leading s us.length = us.map (·.token) := by
  rw [leading, h, List.take_left]

theorem eq_append_of_leading {xs : List Token} {x : Token}
    (h : leading s (xs.length + 1) = xs ++ [x]) : ∃ us t vs,
      tokens anyIdent s = us ++ t :: vs ∧ us.map (·.token) = xs ∧ t.token = x := by
  obtain ⟨us, ws, hus, hxs, hws⟩ := List.map_eq_append_iff.mp h
  obtain ⟨t, rfl, ht⟩ := List.map_eq_singleton_iff.mp hws
  refine ⟨us, t, (tokens anyIdent s).drop (xs.length + 1), ?_, hxs, ht⟩
  rw [List.append_cons, ← hus, List.take_append_drop]

section Refused

variable {us vs : List PlacedToken} {t : PlacedToken} {r : PartialQuery}

theorem leading_refused (hts : tokens anyIdent s = us ++ t :: vs) :
    leading s (us.length + 1) = us.map (·.token) ++ [t.token] := by
  rw [List.append_cons] at hts
  simpa using leading_of_eq_append hts

theorem spelled_of_eq_append (hts : tokens anyIdent s = us ++ t :: vs) :
    ∀ u ∈ us.map (·.token), u.IsSpelled := by
  have h : (tokens anyIdent s).map (·.token) =
      us.map (·.token) ++ t.token :: vs.map (·.token) := by rw [hts, List.map_append, List.map_cons]
  exact tokens_init h

theorem viable_leading_iff (hts : tokens anyIdent s = us ++ t :: vs)
    (hr : nothing.reading? (us.map (·.token)) = some r) (he : r.step t = .error e) (n : Nat) :
    Viable (leading s n) ↔ n ≤ us.length := by
  constructor
  · intro h
    apply Nat.le_of_not_lt
    intro hn
    obtain ⟨r', hr'⟩ := (h.of_prefix (leading_mono hn)).reading?
    rw [leading_refused hts, reading?_append, hr, Option.bind_some, reading?_singleton] at hr'
    exact absurd (hr'.symm.trans (next?_eq_none_iff.mpr ⟨e, he⟩)) nofun
  · intro hn
    have hu : Viable (us.map (·.token)) := viable_of_reading? hr (spelled_of_eq_append hts)
    exact hu.of_prefix (leading_of_eq_append hts ▸ leading_mono hn)

theorem refusesRoot_iff (hts : tokens anyIdent s = us ++ t :: vs)
    (hr : nothing.reading? (us.map (·.token)) = some r) :
    r.RefusesRoot ↔ Grammar.Opens (.path .filterOperand) (us.map (·.token)) := by
  have hread : ∀ u : Token, nothing.reading? (us.map (·.token) ++ [u]) = r.next? u := fun u => by
    rw [reading?_append, hr, Option.bind_some, reading?_singleton]
  rw [Grammar.opens_filterOperand_iff fun hend => (spelled_of_eq_append hts _ hend).2 rfl,
    hread, hread]
  rfl

theorem read_error_of_leading {s' : String} (hts : tokens anyIdent s = us ++ t :: vs)
    (hr : nothing.reading? (us.map (·.token)) = some r) (he : r.step t = .error e)
    (h : leading s' (us.length + 1) = leading s (us.length + 1)) :
    ∃ t', (tokens anyIdent s')[us.length]? = some t' ∧
      Query.read s' = .error (e.moveTo t'.position) := by
  rw [leading_refused hts, ← List.length_map (·.token)] at h
  obtain ⟨us', t', vs', hts', hus, ht⟩ := eq_append_of_leading h
  have hlength : us'.length = us.length := by simpa using congrArg List.length hus
  refine ⟨t', by rw [hts', ← hlength]; simp, ?_⟩
  refine Query.read_eq_error_iff.mpr ⟨us', t', vs', r, hts', hus ▸ hr, ?_⟩
  have hstep := step_error_moveTo he t'.position
  rwa [← ht] at hstep

end Refused

theorem Query.read_error (h : Query.read s = .error e) : ∃ k t,
    (tokens anyIdent s)[k]? = some t ∧ e.position = t.position ∧
      IsLeast {j | ¬ Viable (leading s (j + 1))} k ∧ Viable (leading s k) ∧
      (∀ s', leading s' (k + 1) = leading s (k + 1) →
        ∃ t', (tokens anyIdent s')[k]? = some t' ∧
          Query.read s' = .error (e.moveTo t'.position)) ∧
      ((∃ p, e = .rootInFilter p) ↔
        t.token = .rune '$' ∧ Grammar.Opens (.path .filterOperand) (leading s k)) := by
  obtain ⟨us, t, vs, r, hts, hr, he⟩ := Query.read_eq_error_iff.mp h
  have hviable := viable_leading_iff hts hr he
  refine ⟨us.length, t, by simp [hts], step_error_position he, ⟨?_, ?_⟩, ?_, ?_, ?_⟩
  · exact fun hv => absurd ((hviable _).mp hv) (Nat.not_succ_le_self _)
  · exact fun j hj => Nat.le_of_not_lt fun hlt => hj ((hviable _).mpr hlt)
  · exact (hviable _).mpr (Nat.le_refl _)
  · exact fun s' hs' => read_error_of_leading hts hr he hs'
  · rw [step_rootInFilter_iff he, leading_of_eq_append hts, refusesRoot_iff hts hr]

theorem Query.read_error_nested :
    Query.read "$.x[\x7bAND,@.a.Equal(1),$.b.Equal(2)\x7d]" = .error (.rootInFilter ⟨1, 23⟩) ∧
      ∃ k t, (tokens anyIdent "$.x[\x7bAND,@.a.Equal(1),$.b.Equal(2)\x7d]")[k]? = some t ∧
        t.position = ⟨1, 23⟩ ∧ t.token = .rune '$' ∧
        Grammar.Opens (.path .filterOperand)
          (leading "$.x[\x7bAND,@.a.Equal(1),$.b.Equal(2)\x7d]" k) := by
  have h : Query.read "$.x[\x7bAND,@.a.Equal(1),$.b.Equal(2)\x7d]" =
      .error (.rootInFilter ⟨1, 23⟩) := rfl
  obtain ⟨k, t, ht, hp, -, -, -, hroot⟩ := Query.read_error h
  obtain ⟨hdollar, hopens⟩ := hroot.mp ⟨_, rfl⟩
  exact ⟨h, k, t, ht, hp.symm, hdollar, hopens⟩

end PathQuery
