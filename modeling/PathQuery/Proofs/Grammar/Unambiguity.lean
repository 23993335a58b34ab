import PathQuery.Proofs.Grammar.Derivation

namespace PathQuery.Grammar

def EndsPath (ts : List Token) : Prop :=
  ts.head? ≠ some (.rune '.') ∧ ts.head? ≠ some (.rune '[') ∧ ts.head? ≠ some (.rune '(')

theorem endsPath_comma (ts : List Token) : EndsPath (.rune ',' :: ts) := by simp [EndsPath]

theorem endsPath_paren (ts : List Token) : EndsPath (.rune ')' :: ts) := by simp [EndsPath]

theorem endsPath_bracket (ts : List Token) : EndsPath (.rune ']' :: ts) := by simp [EndsPath]

theorem endsPath_brace (ts : List Token) : EndsPath (.rune '\x7d' :: ts) := by simp [EndsPath]

theorem endsPath_endOfInput (ts : List Token) : EndsPath (.endOfInput :: ts) := by simp [EndsPath]

theorem originToken_injective {o o' : Origin} (h : originToken o = originToken o') : o = o' := by
  cases o <;> cases o' <;> simp_all [originToken]

theorem boolText_injective {b b' : Bool} (h : Key.boolText b = Key.boolText b') : b = b' := by
  cases b <;> cases b' <;> simp_all [Key.boolText]

def isOrigin : Token → Bool
  | .rune c => c == '$' || c == '@'
  | _ => false

theorem PathDerivation.tokens_ne {role : Role} (p : PathDerivation role) {t : Token}
    (ht : isOrigin t = false) (ts us : List Token) : p.tokens ++ ts ≠ t :: us := by
  obtain ⟨origin, _, _⟩ := p
  intro h
  simp only [PathDerivation.tokens, List.cons_append, List.cons.injEq] at h
  cases origin <;> simp [← h.1, originToken, isOrigin] at ht

theorem SegmentDerivation.head_tokens (s : SegmentDerivation) (ts : List Token) :
    (s.tokens ++ ts).head? = some (.rune '.') ∨ (s.tokens ++ ts).head? = some (.rune '[') := by
  cases s <;> simp [SegmentDerivation.tokens]

theorem SegmentsDerivation.head_ne_paren (s : SegmentsDerivation) {ts : List Token}
    (h : EndsPath ts) : (s.tokens ++ ts).head? ≠ some (.rune '(') := by
  cases s with
  | nil => exact h.2.2
  | cons first rest =>
    rw [SegmentsDerivation.tokens, List.append_assoc]
    rcases first.head_tokens (rest.tokens ++ ts) with h | h <;> simp [h]

theorem ArgumentDerivation.tokens_ne_paren (a : ArgumentDerivation) (ts us : List Token) :
    a.tokens ++ ts ≠ .rune ')' :: us := by
  cases a with
  | path p => exact p.tokens_ne rfl ts us
  | _ => simp [ArgumentDerivation.tokens]

theorem ArgumentsDerivation.tokens_ne_paren (a : ArgumentsDerivation) (ts us : List Token) :
    a.tokens ++ ts ≠ .rune ')' :: us := by
  cases a with
  | one a => exact a.tokens_ne_paren ts us
  | more a rest =>
    rw [ArgumentsDerivation.tokens, List.append_assoc]
    exact a.tokens_ne_paren _ us

theorem OperandDerivation.tokens_ne_ident {role : Role} (o : OperandDerivation role)
    (word : String) (ts us : List Token) : o.tokens ++ ts ≠ .ident word :: us := by
  cases o with
  | path p => exact p.tokens_ne rfl ts us
  | group g => cases g; simp [OperandDerivation.tokens, GroupDerivation.tokens]

theorem OperandsDerivation.tokens_ne_ident {role : Role} (o : OperandsDerivation role)
    (word : String) (ts us : List Token) : o.tokens ++ ts ≠ .ident word :: us := by
  cases o with
  | one o => exact o.tokens_ne_ident word ts us
  | more o rest =>
    rw [OperandsDerivation.tokens, List.append_assoc]
    exact o.tokens_ne_ident word _ us

mutual

theorem PathDerivation.unique {role : Role} : ∀ (p p' : PathDerivation role) {ts ts' : List Token},
    EndsPath ts → EndsPath ts' → p.tokens ++ ts = p'.tokens ++ ts' → p = p' ∧ ts = ts'
  | .mk origin _ segments, .mk origin' _ segments', ts, ts', h, h', e => by
    simp only [PathDerivation.tokens, List.cons_append, List.cons.injEq] at e
    obtain ⟨ho, e⟩ := e
    obtain rfl := originToken_injective ho
    obtain ⟨rfl, rfl⟩ := SegmentsDerivation.unique segments segments' h h' e
    exact ⟨rfl, rfl⟩
termination_by structural x => x

theorem SegmentsDerivation.unique : ∀ (s s' : SegmentsDerivation) {ts ts' : List Token},
    EndsPath ts → EndsPath ts' → s.tokens ++ ts = s'.tokens ++ ts' → s = s' ∧ ts = ts'
  | .nil, .nil, _, _, _, _, e => ⟨rfl, e⟩
  | .nil, .cons first rest, ts, ts', h, _, e => by
    rw [SegmentsDerivation.tokens, SegmentsDerivation.tokens, List.append_assoc,
      List.nil_append] at e
    subst e
    rcases first.head_tokens (rest.tokens ++ ts') with hh | hh
    · exact absurd hh h.1
    · exact absurd hh h.2.1
  | .cons first rest, .nil, ts, ts', _, h', e => by
    rw [SegmentsDerivation.tokens, SegmentsDerivation.tokens, List.append_assoc,
      List.nil_append] at e
    subst e
    rcases first.head_tokens (rest.tokens ++ ts) with hh | hh
    · exact absurd hh h'.1
    · exact absurd hh h'.2.1
  | .cons first rest, .cons first' rest', ts, ts', h, h', e => by
    simp only [SegmentsDerivation.tokens, List.append_assoc] at e
    obtain ⟨rfl, er⟩ := SegmentDerivation.unique first first' (rest.head_ne_paren h)
      (rest'.head_ne_paren h') e
    obtain ⟨rfl, rfl⟩ := SegmentsDerivation.unique rest rest' h h' er
    exact ⟨rfl, rfl⟩
termination_by structural x => x

theorem SegmentDerivation.unique : ∀ (s s' : SegmentDerivation) {ts ts' : List Token},
    ts.head? ≠ some (.rune '(') → ts'.head? ≠ some (.rune '(') →
    s.tokens ++ ts = s'.tokens ++ ts' → s = s' ∧ ts = ts'
  | .field name, s', ts, ts', h, _, e => by
    cases s' with
    | field name' => simpa [SegmentDerivation.tokens] using e
    | filter predicate => simp [SegmentDerivation.tokens] at e
    | _ =>
      simp only [SegmentDerivation.tokens, List.cons_append, List.nil_append, List.cons.injEq] at e
      simp [e.2.2] at h
  | .emptyCall name, s', ts, ts', _, h', e => by
    cases s' with
    | call name' arguments =>
      simp only [SegmentDerivation.tokens, List.cons_append, List.nil_append, List.append_assoc,
        List.cons.injEq, true_and] at e
      exact absurd e.2.symm (arguments.tokens_ne_paren _ _)
    | field name' =>
      simp only [SegmentDerivation.tokens, List.cons_append, List.nil_append, List.cons.injEq] at e
      simp [← e.2.2] at h'
    | _ => simp_all [SegmentDerivation.tokens]
  | .call name arguments, s', ts, ts', h, h', e => by
    cases s' with
    | field name' =>
      simp only [SegmentDerivation.tokens, List.cons_append, List.nil_append, List.cons.injEq] at e
      simp [← e.2.2] at h'
    | emptyCall name' =>
      simp only [SegmentDerivation.tokens, List.cons_append, List.nil_append, List.append_assoc,
        List.cons.injEq, true_and] at e
      exact absurd e.2 (arguments.tokens_ne_paren _ _)
    | call name' arguments' =>
      simp only [SegmentDerivation.tokens, List.cons_append, List.nil_append, List.append_assoc,
        List.cons.injEq, true_and, Token.ident.injEq] at e
      obtain ⟨rfl, e⟩ := e
      obtain ⟨rfl, rfl⟩ := ArgumentsDerivation.unique arguments arguments' e
      exact ⟨rfl, rfl⟩
    | filter predicate => simp [SegmentDerivation.tokens] at e
  | .filter predicate, s', ts, ts', _, _, e => by
    cases s' with
    | filter predicate' =>
      simp only [SegmentDerivation.tokens, List.cons_append, List.nil_append, List.append_assoc,
        List.cons.injEq, true_and] at e
      obtain ⟨rfl, er⟩ := OperandDerivation.unique predicate predicate' (endsPath_bracket _)
        (endsPath_bracket _) e
      simpa using er
    | _ => simp [SegmentDerivation.tokens] at e
termination_by structural x => x

theorem ArgumentsDerivation.unique : ∀ (a a' : ArgumentsDerivation) {ts ts' : List Token},
    a.tokens ++ .rune ')' :: ts = a'.tokens ++ .rune ')' :: ts' → a = a' ∧ ts = ts'
  | .one a, .one a', ts, ts', e => by
    obtain ⟨rfl, er⟩ := ArgumentDerivation.unique a a' (endsPath_paren _) (endsPath_paren _) e
    simpa using er
  | .one a, .more a' rest', ts, ts', e => by
    simp only [ArgumentsDerivation.tokens, List.append_assoc] at e
    obtain ⟨-, e⟩ := ArgumentDerivation.unique a a' (endsPath_paren _) (endsPath_comma _) e
    simp at e
  | .more a rest, .one a', ts, ts', e => by
    simp only [ArgumentsDerivation.tokens, List.append_assoc] at e
    obtain ⟨-, e⟩ := ArgumentDerivation.unique a a' (endsPath_comma _) (endsPath_paren _) e
    simp at e
  | .more a rest, .more a' rest', ts, ts', e => by
    simp only [ArgumentsDerivation.tokens, List.append_assoc] at e
    obtain ⟨rfl, er⟩ := ArgumentDerivation.unique a a' (endsPath_comma _) (endsPath_comma _) e
    simp only [List.cons.injEq, true_and] at er
    obtain ⟨rfl, rfl⟩ := ArgumentsDerivation.unique rest rest' er
    exact ⟨rfl, rfl⟩
termination_by structural x => x

theorem ArgumentDerivation.unique : ∀ (a a' : ArgumentDerivation) {ts ts' : List Token},
    EndsPath ts → EndsPath ts' → a.tokens ++ ts = a'.tokens ++ ts' → a = a' ∧ ts = ts'
  | .path p, .path p', ts, ts', h, h', e => by
    obtain ⟨rfl, rfl⟩ := PathDerivation.unique p p' h h' e
    exact ⟨rfl, rfl⟩
  | .path p, .number .., ts, ts', _, _, e
  | .path p, .string _, ts, ts', _, _, e
  | .path p, .bool _, ts, ts', _, _, e => absurd e (p.tokens_ne rfl ts _)
  | .number .., .path p', ts, ts', _, _, e
  | .string _, .path p', ts, ts', _, _, e
  | .bool _, .path p', ts, ts', _, _, e => absurd e.symm (p'.tokens_ne rfl ts' _)
  | .number text value hv, .number text' value' hv', ts, ts', _, _, e => by
    simp only [ArgumentDerivation.tokens, List.cons_append, List.nil_append, List.cons.injEq,
      Token.number.injEq] at e
    obtain ⟨rfl, rfl⟩ := e
    obtain rfl := Option.some.inj (hv.symm.trans hv')
    exact ⟨rfl, rfl⟩
  | .string s, .string s', ts, ts', _, _, e => by
    simpa [ArgumentDerivation.tokens] using e
  | .bool b, .bool b', ts, ts', _, _, e => by
    simp only [ArgumentDerivation.tokens, List.cons_append, List.nil_append, List.cons.injEq,
      Token.ident.injEq] at e
    exact ⟨by rw [boolText_injective e.1], e.2⟩
  | .number .., .string _, _, _, _, _, e
  | .number .., .bool _, _, _, _, _, e
  | .string _, .number .., _, _, _, _, e
  | .string _, .bool _, _, _, _, _, e
  | .bool _, .number .., _, _, _, _, e
  | .bool _, .string _, _, _, _, _, e => by simp [ArgumentDerivation.tokens] at e
termination_by structural x => x

theorem OperandDerivation.unique {role : Role} :
    ∀ (o o' : OperandDerivation role) {ts ts' : List Token},
    EndsPath ts → EndsPath ts' → o.tokens ++ ts = o'.tokens ++ ts' → o = o' ∧ ts = ts'
  | .path p, .path p', ts, ts', h, h', e => by
    obtain ⟨rfl, rfl⟩ := PathDerivation.unique p p' h h' e
    exact ⟨rfl, rfl⟩
  | .group g, .group g', ts, ts', _, _, e => by
    obtain ⟨rfl, rfl⟩ := GroupDerivation.unique g g' e
    exact ⟨rfl, rfl⟩
  | .path p, .group (.mk _ _), ts, ts', _, _, e => absurd e (p.tokens_ne rfl ts _)
  | .group (.mk _ _), .path p', ts, ts', _, _, e => absurd e.symm (p'.tokens_ne rfl ts' _)
termination_by structural x => x

theorem OperandsDerivation.unique {role : Role} :
    ∀ (o o' : OperandsDerivation role) {ts ts' : List Token},
    o.tokens ++ .rune '\x7d' :: ts = o'.tokens ++ .rune '\x7d' :: ts' → o = o' ∧ ts = ts'
  | .one o, .one o', ts, ts', e => by
    obtain ⟨rfl, er⟩ := OperandDerivation.unique o o' (endsPath_brace _) (endsPath_brace _) e
    simpa using er
  | .one o, .more o' rest', ts, ts', e => by
    simp only [OperandsDerivation.tokens, List.append_assoc] at e
    obtain ⟨-, e⟩ := OperandDerivation.unique o o' (endsPath_brace _) (endsPath_comma _) e
    simp at e
  | .more o rest, .one o', ts, ts', e => by
    simp only [OperandsDerivation.tokens, List.append_assoc] at e
    obtain ⟨-, e⟩ := OperandDerivation.unique o o' (endsPath_comma _) (endsPath_brace _) e
    simp at e
  | .more o rest, .more o' rest', ts, ts', e => by
    simp only [OperandsDerivation.tokens, List.append_assoc] at e
    obtain ⟨rfl, er⟩ := OperandDerivation.unique o o' (endsPath_comma _) (endsPath_comma _) e
    simp only [List.cons.injEq, true_and] at er
    obtain ⟨rfl, rfl⟩ := OperandsDerivation.unique rest rest' er
    exact ⟨rfl, rfl⟩
termination_by structural x => x

theorem GroupDerivation.unique {role : Role} :
    ∀ (g g' : GroupDerivation role) {ts ts' : List Token},
    g.tokens ++ ts = g'.tokens ++ ts' → g = g' ∧ ts = ts'
  | .mk word? operands, .mk word?' operands', ts, ts', e => by
    simp only [GroupDerivation.tokens, List.cons_append, List.append_assoc, List.cons.injEq,
      true_and, List.nil_append] at e
    have hw : word? = word?' ∧
        operands.tokens ++ .rune '\x7d' :: ts = operands'.tokens ++ .rune '\x7d' :: ts' := by
      cases word? with
      | none => cases word?' with
        | none => exact ⟨rfl, e⟩
        | some word' => exact absurd e (operands.tokens_ne_ident word' _ _)
      | some word => cases word?' with
        | none => exact absurd e.symm (operands'.tokens_ne_ident word _ _)
        | some word' => simpa [wordTokens] using e
    obtain ⟨rfl, eo⟩ := hw
    obtain ⟨rfl, rfl⟩ := OperandsDerivation.unique operands operands' eo
    exact ⟨rfl, rfl⟩
termination_by structural x => x

end

theorem QueryDerivation.tokens_injective :
    ∀ {d d' : QueryDerivation}, d.tokens = d'.tokens → d = d'
  | .path p, .path p', h => by
    rw [(p.unique p' (endsPath_endOfInput _) (endsPath_endOfInput _) h).1]
  | .group g, .group g', h => by rw [(g.unique g' h).1]
  | .path p, .group (.mk _ _), h => absurd h (p.tokens_ne rfl _ _)
  | .group (.mk _ _), .path p', h => absurd h.symm (p'.tokens_ne rfl _ _)

end PathQuery.Grammar
