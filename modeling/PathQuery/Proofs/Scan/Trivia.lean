import PathQuery.Proofs.Scan.Respelling

namespace PathQuery.Scan

inductive IsTrivia (rest : List Char) : List Char → Prop where
  | nil : IsTrivia rest []
  | blank {c : Char} {cs : List Char} (hc : Text.isBlank c = true) (hcs : IsTrivia rest cs) :
    IsTrivia rest (c :: cs)
  | line {body cs : List Char} (hbody : '\n' ∉ body) (hend : ∀ c ∈ (cs ++ rest).head?, c = '\n')
    (hcs : IsTrivia rest cs) : IsTrivia rest ('/' :: '/' :: (body ++ cs))
  | block {body cs : List Char} (hbody : ¬['*', '/'] <:+: body) (hcs : IsTrivia rest cs) :
    IsTrivia rest ('/' :: '*' :: (body ++ '*' :: '/' :: cs))

-- What is passed over from within a line comment, a block comment or neither.
def IsPassed (rest : List Char) : Trivia → List Char → Prop
  | .plain, space => IsTrivia rest space
  | .line, space => ∃ body cs, space = body ++ cs ∧ '\n' ∉ body ∧
      (∀ c ∈ (cs ++ rest).head?, c = '\n') ∧ IsTrivia rest cs
  | .block, space => ∃ body cs, space = body ++ '*' :: '/' :: cs ∧ ¬['*', '/'] <:+: body ∧
      IsTrivia rest cs

section

variable {rest cs : List Char} {c : Char}

theorem IsPassed.openLine (h : IsPassed rest .line cs) : IsPassed rest .plain ('/' :: '/' :: cs) := by
  obtain ⟨body, cs, rfl, hbody, hend, hcs⟩ := h
  exact .line hbody hend hcs

theorem IsPassed.openBlock (h : IsPassed rest .block cs) :
    IsPassed rest .plain ('/' :: '*' :: cs) := by
  obtain ⟨body, cs, rfl, hbody, hcs⟩ := h
  exact .block hbody hcs

theorem IsPassed.endLine (h : IsTrivia rest cs) : IsPassed rest .line ('\n' :: cs) :=
  ⟨[], '\n' :: cs, rfl, List.not_mem_nil, by simp, .blank rfl h⟩

theorem IsPassed.inLine (hc : c ≠ '\n') (h : IsPassed rest .line cs) :
    IsPassed rest .line (c :: cs) := by
  obtain ⟨body, cs, rfl, hbody, hend, hcs⟩ := h
  exact ⟨c :: body, cs, rfl, by simp [hc.symm, hbody], hend, hcs⟩

theorem IsPassed.closeBlock (h : IsTrivia rest cs) : IsPassed rest .block ('*' :: '/' :: cs) :=
  ⟨[], cs, rfl, by simp, h⟩

theorem not_closes_cons (hc : ¬['*', '/'] <+: c :: cs) (h : ¬['*', '/'] <:+: cs) :
    ¬['*', '/'] <:+: c :: cs := by
  rw [List.infix_cons_iff]
  exact not_or.mpr ⟨hc, h⟩

theorem IsPassed.inBlock (hc : ¬['*', '/'] <+: c :: (cs ++ rest)) (h : IsPassed rest .block cs) :
    IsPassed rest .block (c :: cs) := by
  obtain ⟨body, cs, rfl, hbody, hcs⟩ := h
  refine ⟨c :: body, cs, rfl, not_closes_cons (fun hp => hc ?_) hbody, hcs⟩
  rw [List.append_assoc]
  exact hp.trans (List.prefix_append (c :: body) _)

end

def StartsLexeme (cs : List Char) : Prop :=
  ∀ c ds, cs = c :: ds → Text.isBlank c = false ∧
    (c = '/' → StartsOutside (fun d => d == '/' || d == '*') ds)

theorem startsLexeme_nil : StartsLexeme [] := by
  intro c ds h
  cases h

theorem StartsLexeme.not_openComment {cs : List Char} (h : StartsLexeme cs) : ¬['/', '*'] <+: cs := by
  rintro ⟨ds, rfl⟩
  have hs := (h '/' ('*' :: ds) rfl).2 rfl
  simp [startsOutside_cons] at hs

theorem not_isPrefix_close {c : Char} {cs : List Char} (h : ∀ ds, c = '*' → cs = '/' :: ds → False) :
    ¬['*', '/'] <+: c :: cs := by
  rintro ⟨ds, hds⟩
  obtain ⟨rfl, rfl⟩ := List.cons.inj hds
  exact h ds rfl rfl

theorem afterTrivia?_eq_some {trivia : Trivia} {cs rest : List Char}
    (h : afterTrivia? trivia cs = some rest) :
    ∃ space, cs = space ++ rest ∧ IsPassed rest trivia space ∧ StartsLexeme rest := by
  fun_induction afterTrivia? trivia cs with
  | case1 => cases h; exact ⟨[], rfl, .nil, startsLexeme_nil⟩
  | case2 cs ih =>
    obtain ⟨space, rfl, hs, hr⟩ := ih h
    exact ⟨'/' :: '/' :: space, rfl, hs.openLine, hr⟩
  | case3 cs ih =>
    obtain ⟨space, rfl, hs, hr⟩ := ih h
    exact ⟨'/' :: '*' :: space, rfl, hs.openBlock, hr⟩
  | case4 c cs _ _ hc ih =>
    obtain ⟨space, rfl, hs, hr⟩ := ih h
    exact ⟨c :: space, rfl, .blank hc hs, hr⟩
  | case5 c cs hl hb hc =>
    cases h
    refine ⟨[], rfl, .nil, ?_⟩
    rintro c' ds hds
    obtain ⟨rfl, rfl⟩ := List.cons.inj hds
    refine ⟨Bool.eq_false_iff.mpr hc, ?_⟩
    rintro rfl d hd
    obtain ⟨ds, rfl⟩ := List.head?_eq_some_iff.mp hd
    have hline : d ≠ '/' := fun h => hl ds rfl (h ▸ rfl)
    have hblock : d ≠ '*' := fun h => hb ds rfl (h ▸ rfl)
    simp [hline, hblock]
  | case6 =>
    cases h
    exact ⟨[], rfl, ⟨[], [], rfl, List.not_mem_nil, by simp, .nil⟩, startsLexeme_nil⟩
  | case7 cs ih =>
    obtain ⟨space, rfl, hs, hr⟩ := ih h
    exact ⟨'\n' :: space, rfl, .endLine hs, hr⟩
  | case8 c cs hc ih =>
    obtain ⟨space, rfl, hs, hr⟩ := ih h
    exact ⟨c :: space, rfl, hs.inLine hc, hr⟩
  | case9 => cases h
  | case10 cs ih =>
    obtain ⟨space, rfl, hs, hr⟩ := ih h
    exact ⟨'*' :: '/' :: space, rfl, .closeBlock hs, hr⟩
  | case11 c cs hc ih =>
    obtain ⟨space, rfl, hs, hr⟩ := ih h
    exact ⟨c :: space, rfl, hs.inBlock (not_isPrefix_close hc), hr⟩

theorem afterTrivia?_eq_none {trivia : Trivia} {cs : List Char}
    (h : afterTrivia? trivia cs = none) :
    (∃ space body, cs = space ++ '/' :: '*' :: body ∧ ¬['*', '/'] <:+: body ∧
      IsPassed ('/' :: '*' :: body) trivia space) ∨
    trivia = .block ∧ ¬['*', '/'] <:+: cs := by
  fun_induction afterTrivia? trivia cs with
  | case1 | case5 | case6 => cases h
  | case2 cs ih =>
    obtain ⟨space, body, rfl, hb, hs⟩ | ⟨⟨⟩, -⟩ := ih h
    exact .inl ⟨'/' :: '/' :: space, body, rfl, hb, hs.openLine⟩
  | case3 cs ih =>
    rcases ih h with ⟨space, body, rfl, hb, hs⟩ | ⟨-, hb⟩
    · exact .inl ⟨'/' :: '*' :: space, body, rfl, hb, hs.openBlock⟩
    · exact .inl ⟨[], cs, rfl, hb, .nil⟩
  | case4 c cs _ _ hc ih =>
    obtain ⟨space, body, rfl, hb, hs⟩ | ⟨⟨⟩, -⟩ := ih h
    exact .inl ⟨c :: space, body, rfl, hb, .blank hc hs⟩
  | case7 cs ih =>
    obtain ⟨space, body, rfl, hb, hs⟩ | ⟨⟨⟩, -⟩ := ih h
    exact .inl ⟨'\n' :: space, body, rfl, hb, .endLine hs⟩
  | case8 c cs hc ih =>
    obtain ⟨space, body, rfl, hb, hs⟩ | ⟨⟨⟩, -⟩ := ih h
    exact .inl ⟨c :: space, body, rfl, hb, hs.inLine hc⟩
  | case9 => exact .inr ⟨rfl, by simp⟩
  | case10 cs ih =>
    obtain ⟨space, body, rfl, hb, hs⟩ | ⟨⟨⟩, -⟩ := ih h
    exact .inl ⟨'*' :: '/' :: space, body, rfl, hb, .closeBlock hs⟩
  | case11 c cs hc ih =>
    rcases ih h with ⟨space, body, rfl, hb, hs⟩ | ⟨-, hb⟩
    · exact .inl ⟨c :: space, body, rfl, hb, hs.inBlock (not_isPrefix_close hc)⟩
    · exact .inr ⟨rfl, not_closes_cons (not_isPrefix_close hc) hb⟩

end PathQuery.Scan
