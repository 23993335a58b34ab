import PathQuery.Engine
import PathQuery.Proofs.Validation.Call
import PathQuery.Proofs.Validation.Notes

namespace PathQuery

variable {g : Ground} {s t : Standing} {name : String}

theorem Schema.ground_eq_ok {schema : Schema} {target : String} :
    schema.ground target = .ok g ↔
      ∃ blocked, schema.blockedFor target = .ok blocked ∧ ⟨schema.root, blocked⟩ = g := by
  simp only [Schema.ground]
  cases schema.blockedFor target with
  | error e => exact ⟨nofun, nofun⟩
  | ok blocked => exact ⟨fun h => ⟨blocked, rfl, Except.ok.inj h⟩, fun ⟨_, hb, h⟩ =>
      Except.ok.inj hb ▸ congrArg Except.ok h⟩

theorem Schema.ground_type {schema : Schema} {target : String}
    (h : schema.ground target = .ok g) : g.standing.type = .single .record := by
  obtain ⟨blocked, -, rfl⟩ := Schema.ground_eq_ok.mp h
  rfl

namespace Standing

theorem atRoot_field (h : s.field g name = .ok t) : t.atRoot = false := by
  simp only [field] at h
  split at h
  · cases h
  · split at h
    · split at h
      · cases h
      · cases h
        rfl
    · split at h
      · cases h
      · split at h
        · cases h
        · cases h
          rfl
    · cases h

theorem atRoot_result (s : Standing) (r : ReturnType) : (s.result r).atRoot = false := by
  cases r <;> rfl

theorem free_of_field (hs : s.atRoot = true) (h : s.field g name = .ok t) :
    g.isBlocked name = false := by
  simp only [field, hs, Bool.true_and] at h
  split at h
  · cases h
  · next hb => exact Bool.eq_false_iff.mpr hb

end Standing

theorem Segment.note_next {segment : Segment} {current : Standing} {inFilter : Bool}
    (h : (segment.note g current inFilter s).2 = some t) :
    t.atRoot = false ∨ t = s ∧ s.type ≠ .single .record := by
  cases segment with
  | field name =>
    simp only [Segment.note] at h
    split at h
    · next hf =>
      obtain rfl := Option.some.inj h
      exact .inl (Standing.atRoot_field hf)
    · cases h
  | filter group =>
    simp only [Segment.note] at h
    split at h
    · cases h
    · next hl =>
      obtain rfl := Option.some.inj h
      refine .inr ⟨rfl, fun hr => hl ?_⟩
      rw [hr]
      rfl
  | call callee arguments =>
    cases callee with
    | unknown name => cases h
    | known f =>
      simp only [Segment.note] at h
      split at h <;> exact .inl (Option.some.inj h ▸ Standing.atRoot_result ..)

theorem callComplaints_record {f : Builtin} {types : List (Option ResolvedType)}
    (h : callComplaints f (.single .record) types = []) :
    (f = .asJson ∨ f = .count ∨ f = .any) ∧ types = [] := by
  obtain ⟨hsubject, harity, -⟩ := callComplaints_eq_nil.mp h
  have hf : f = .asJson ∨ f = .count ∨ f = .any := by
    revert hsubject
    cases f <;> decide
  refine ⟨hf, List.eq_nil_of_length_eq_zero ?_⟩
  rcases hf with rfl | rfl | rfl
  all_goals exact (beq_iff_eq.mp harity).symm

end PathQuery
