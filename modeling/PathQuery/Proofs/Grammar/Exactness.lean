import PathQuery.Proofs.Grammar.Soundness
import PathQuery.Proofs.Scan.Tokens

namespace PathQuery

theorem Query.read_eq_ok_iff {s : String} {q : Query} :
    Query.read s = .ok q ↔
      PartialQuery.nothing.reading? ((tokens anyIdent s).map (·.token)) = some (.complete q) := by
  rw [← PartialQuery.run_eq_ok_iff]
  unfold Query.read
  constructor
  · intro h
    split at h
    · next hr => rw [hr, Except.ok.inj h]
    · cases h
    · cases h
  · intro h
    rw [h]

namespace Grammar

def QueryDerivation.Derives (d : QueryDerivation) (s : String) : Prop :=
  d.tokens = (PathQuery.tokens anyIdent s).map (·.token)

theorem QueryDerivation.Derives.read {d : QueryDerivation} {s : String} (h : d.Derives s) :
    Query.read s = .ok d.tree := by
  rw [Query.read_eq_ok_iff, ← h]
  exact d.reading?

theorem exists_derives {s : String} {q : Query} (h : Query.read s = .ok q) :
    ∃ d : QueryDerivation, d.Derives s ∧ d.tree = q := by
  have hq := h
  rw [Query.read_eq_ok_iff] at h
  obtain ⟨ts, hts, hend⟩ := (yields_tokens anyIdent s).eq_append_endOfInput
  rw [hts] at h
  obtain ⟨d, hd⟩ := exists_derivation hend ⟨q, h⟩
  have hs : d.Derives s := hd.trans hts.symm
  exact ⟨d, hs, Except.ok.inj (hs.read.symm.trans hq)⟩

theorem read_exact (s : String) :
    ((∃ q, Query.read s = .ok q) ↔ ∃ d : QueryDerivation, d.Derives s) ∧
      (∀ d d' : QueryDerivation, d.Derives s → d'.Derives s → d = d') ∧
      ∀ (d : QueryDerivation) (q : Query), d.Derives s → (Query.read s = .ok q ↔ q = d.tree) := by
  refine ⟨⟨?_, ?_⟩, ?_, ?_⟩
  · rintro ⟨q, h⟩
    obtain ⟨d, hd, -⟩ := exists_derives h
    exact ⟨d, hd⟩
  · rintro ⟨d, hd⟩
    exact ⟨d.tree, hd.read⟩
  · intro d d' hd hd'
    exact QueryDerivation.tokens_injective (hd.trans hd'.symm)
  · intro d q hd
    rw [hd.read, Except.ok.injEq, eq_comm]

end Grammar
end PathQuery
