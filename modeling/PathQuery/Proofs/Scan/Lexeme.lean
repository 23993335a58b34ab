import PathQuery.Proofs.Scan.Trivia

namespace PathQuery.Scan

def IsDigits (cs : List Char) : Prop := cs ≠ [] ∧ ∀ c ∈ cs, c.isDigit = true

def IsNumeral (cs : List Char) : Prop :=
  ∃ sign whole places power, cs = sign ++ (whole ++ (places ++ power)) ∧
    (sign = [] ∨ sign = ['-']) ∧ IsDigits whole ∧
    (places = [] ∨ ∃ ds, IsDigits ds ∧ places = '.' :: ds) ∧
    (power = [] ∨ ∃ mark sign ds, (mark = 'e' ∨ mark = 'E') ∧
      (sign = [] ∨ sign = ['+'] ∨ sign = ['-']) ∧ IsDigits ds ∧ power = mark :: (sign ++ ds))

theorem IsNumeral.ne_nil {cs : List Char} (h : IsNumeral cs) : cs ≠ [] := by
  obtain ⟨sign, whole, places, power, rfl, -, ⟨hw, -⟩, -, -⟩ := h
  simp [hw]

theorem isDigits_digits {cs : List Char} (h : startsWithDigit cs = true) : IsDigits (digits cs).1 := by
  refine ⟨?_, List.all_eq_true.mp List.all_takeWhile⟩
  cases cs with
  | nil => cases h
  | cons c cs =>
    have hc : (digits (c :: cs)).1 = c :: (digits cs).1 := List.takeWhile_cons_of_pos h
    rw [hc]
    exact List.cons_ne_nil _ _

theorem isNumeral_unsigned {cs : List Char} (h : startsWithDigit cs = true) {sign : List Char}
    (hs : sign = [] ∨ sign = ['-']) : IsNumeral (sign ++ (unsigned cs).1) := by
  refine ⟨sign, (digits cs).1, (fraction (digits cs).2).1,
    (exponent (fraction (digits cs).2).2).1, ?_, hs, isDigits_digits h, ?_, ?_⟩
  · simp only [unsigned, List.append_assoc]
  · rcases fraction_cases (digits cs).2 with h | ⟨ds, hd, h⟩
    · exact .inl h
    · exact .inr ⟨_, isDigits_digits hd, h⟩
  · rcases exponent_cases (fraction (digits cs).2).2 with h | ⟨e, s, ds, he, h, hs⟩
    · exact .inl h
    · have he : e = 'e' ∨ e = 'E' := by simpa [isMark] using he
      rcases hs with hs | ⟨hs, hd⟩
      · have hds : IsDigits (digits (s :: ds)).1 := isDigits_digits hs
        have heq : (digits (s :: ds)).1 = s :: (digits ds).1 := List.takeWhile_cons_of_pos hs
        exact .inr ⟨e, [], _, he, .inl rfl, hds, by rw [h, heq]; rfl⟩
      · have hs : [s] = [] ∨ [s] = ['+'] ∨ [s] = ['-'] := by simpa using hs
        exact .inr ⟨e, [s], _, he, hs, isDigits_digits hd, h⟩

theorem isNumeral_signed {c : Char} {cs : List Char}
    (h : c.isDigit = true ∨ (c = '-' ∧ startsWithDigit cs = true)) :
    IsNumeral (signed (c :: cs)).1 := by
  rcases h with h | ⟨rfl, h⟩
  · rw [signed_of_ne (ne_minus_of_isDigit h)]
    have hd : startsWithDigit (c :: cs) = true := h
    exact isNumeral_unsigned hd (.inl rfl)
  · exact isNumeral_unsigned h (.inr rfl)

def isQuote (c : Char) : Bool := c == '"' || c == '\'' || c == Char.ofNat 96

def isIdentRune (c : Char) : Bool := !Text.isBlank c && !isReserved c

theorem anyIdent_pos (i : Nat) (c : Char) : anyIdent c (i + 1) = isIdentRune c := by
  simp [anyIdent, isIdentRune]

theorem anyIdent_zero (c : Char) :
    anyIdent c 0 = (isIdentRune c && !(c.isDigit || c == '-')) := by
  simp [anyIdent, isIdentRune]

theorem identifier_succ (i : Nat) (cs : List Char) :
    (∀ c ∈ (identifier anyIdent (i + 1) cs).1, isIdentRune c = true) ∧
      StartsOutside isIdentRune (identifier anyIdent (i + 1) cs).2 := by
  induction cs generalizing i with
  | nil => exact ⟨List.forall_mem_nil _, startsOutside_nil⟩
  | cons c cs ih =>
    simp only [identifier, anyIdent_pos]
    split
    · next hc => exact ⟨List.forall_mem_cons.mpr ⟨hc, (ih (i + 1)).1⟩, (ih (i + 1)).2⟩
    · next hc =>
      exact ⟨List.forall_mem_nil _, startsOutside_cons.mpr (Bool.not_eq_true _ ▸ hc)⟩

theorem identifier_zero {c : Char} (h : anyIdent c 0 = true) (cs : List Char) :
    identifier anyIdent 0 (c :: cs) =
      (c :: (identifier anyIdent 1 cs).1, (identifier anyIdent 1 cs).2) := by
  simp only [identifier, h, if_true]

theorem identifier_maximal {c : Char} (h : anyIdent c 0 = true) (cs : List Char) :
    (identifier anyIdent 0 (c :: cs)).1 ≠ [] ∧
      (∀ d ∈ (identifier anyIdent 0 (c :: cs)).1, isIdentRune d = true) ∧
      StartsOutside isIdentRune (identifier anyIdent 0 (c :: cs)).2 := by
  obtain ⟨hall, hrest⟩ := identifier_succ 0 cs
  rw [identifier_zero h]
  rw [anyIdent_zero, Bool.and_eq_true] at h
  exact ⟨List.cons_ne_nil _ _, List.forall_mem_cons.mpr ⟨h.1, hall⟩, hrest⟩

theorem digits_rest (cs : List Char) : StartsOutside Char.isDigit (digits cs).2 := by
  intro c hc
  have hd := List.head?_dropWhile_not Char.isDigit cs
  rw [show (cs.dropWhile Char.isDigit).head? = some c from hc] at hd
  exact hd

theorem fraction_rest {cs : List Char} (h : StartsOutside Char.isDigit cs) :
    StartsOutside Char.isDigit (fraction cs).2 := by
  unfold fraction
  split
  · split
    · exact digits_rest _
    · exact h
  · exact h

theorem exponent_rest {cs : List Char} (h : StartsOutside Char.isDigit cs) :
    StartsOutside Char.isDigit (exponent cs).2 := by
  unfold exponent
  split
  · split
    · split
      · exact digits_rest _
      · split
        · exact digits_rest _
        · exact h
    · exact h
  · exact h

theorem unsigned_rest (cs : List Char) : StartsOutside Char.isDigit (unsigned cs).2 :=
  exponent_rest (fraction_rest (digits_rest cs))

theorem signed_rest (cs : List Char) : StartsOutside Char.isDigit (signed cs).2 := by
  unfold signed
  split
  · exact unsigned_rest _
  · exact unsigned_rest cs

-- How the characters of a token, with `rest` behind them, are read.
inductive Lexeme (rest : List Char) : List Char → Token → Prop where
  | ident {c : Char} {cs : List Char} (hc : c.isDigit = false ∧ c ≠ '-')
    (hcs : ∀ d ∈ c :: cs, isIdentRune d = true) (hrest : StartsOutside isIdentRune rest) :
    Lexeme rest (c :: cs) (.ident (String.ofList (c :: cs)))
  | number {cs : List Char} (hcs : IsNumeral cs)
    (hrest : StartsOutside (fun c => isIdentRune c && c != '-') rest) :
    Lexeme rest cs (.number (String.ofList cs))
  | string {quote : Char} {body : List Char} {s : String} (hquote : isQuote quote = true) :
    Lexeme rest (quote :: (body ++ [quote])) (.string s)
  | rune {c : Char} (hc : isReserved c = true ∧ isQuote c = false ∨ c = '-')
    (hminus : c = '-' → StartsOutside Char.isDigit rest)
    (hslash : c = '/' → StartsOutside (fun d => d == '/' || d == '*') rest) :
    Lexeme rest [c] (.rune c)
  | badLiteral {quote : Char} {body : List Char} {reason : String} (hquote : isQuote quote = true) :
    Lexeme rest (quote :: body) (.invalid reason)
  | badNumber {cs tail : List Char} (hcs : IsNumeral cs) (hne : tail ≠ [])
    (htail : ∀ d ∈ tail, isIdentRune d = true) (hrest : StartsOutside isIdentRune rest) :
    Lexeme rest (cs ++ tail) (.invalid (String.ofList (cs ++ tail)))
  | openComment {body : List Char} (hbody : ¬['*', '/'] <:+: body) (hrest : rest = []) :
    Lexeme rest ('/' :: '*' :: body) (.invalid "unterminated comment")

variable {rest lexeme : List Char} {t : Token}

theorem Lexeme.ne_nil (h : Lexeme rest lexeme t) : lexeme ≠ [] := by
  cases h with
  | number hcs => exact hcs.ne_nil
  | badNumber hcs => simp [hcs.ne_nil]
  | _ => exact List.cons_ne_nil _ _

theorem Lexeme.ne_endOfInput (h : Lexeme rest lexeme t) : t ≠ .endOfInput := by
  cases h <;> exact nofun

def Reads (cs : List Char) (r : Token × List Char) : Prop :=
  ∃ lexeme, cs = lexeme ++ r.2 ∧ Lexeme r.2 lexeme r.1

theorem Literal.reads_token {l : Literal} {quote : Char} {cs : List Char}
    (h : l.IsReadFrom quote cs) (hq : isQuote quote = true) : Reads (quote :: cs) l.token := by
  obtain ⟨body, hcs, hb⟩ := h
  have hcs : quote :: cs = quote :: body ++ l.token.2 := by rw [Literal.token_rest, hcs]; rfl
  refine ⟨quote :: body, hcs, ?_⟩
  cases hr : l.read with
  | error reason =>
    simp only [Literal.token, hr]
    exact .badLiteral hq
  | ok s =>
    obtain ⟨inner, rfl⟩ := hb s hr
    simp only [Literal.token, hr]
    exact .string hq

theorem reads_ident {c : Char} {cs : List Char} (h : anyIdent c 0 = true) :
    Reads (c :: cs) (.ident (String.ofList (identifier anyIdent 0 (c :: cs)).1),
      (identifier anyIdent 0 (c :: cs)).2) := by
  refine ⟨_, (identifier_append anyIdent 0 (c :: cs)).symm, ?_⟩
  obtain ⟨-, hall, hrest⟩ := identifier_maximal h cs
  rw [identifier_zero h] at hall hrest ⊢
  rw [anyIdent_zero, Bool.and_eq_true] at h
  exact .ident (by simpa using h.2) hall hrest

theorem reads_number {c : Char} {cs : List Char}
    (h : c.isDigit = true ∨ (c = '-' ∧ startsWithDigit cs = true)) :
    Reads (c :: cs) (number anyIdent (c :: cs)) := by
  have hn := isNumeral_signed h
  have ha := signed_append (c :: cs)
  have hd := signed_rest (c :: cs)
  rw [number_eq]
  split
  · next d rest hr =>
    rw [hr] at ha hd
    split
    · next hi =>
      rw [anyIdent_pos] at hi
      have hstart : anyIdent d 0 = true := by
        simp [anyIdent_zero, hi.1, hi.2, startsOutside_cons.mp hd]
      have htail := identifier_append anyIdent 0 (d :: rest)
      obtain ⟨hne, hall, hrest⟩ := identifier_maximal hstart rest
      rw [hr]
      refine ⟨_, ?_, .badNumber hn hne hall hrest⟩
      rw [List.append_assoc, htail, ha]
    · next hi =>
      refine ⟨_, (hr ▸ ha).symm, .number hn ?_⟩
      rw [hr, startsOutside_cons]
      rw [anyIdent_pos] at hi
      simpa using hi
  · next hr =>
    rw [hr, List.append_nil] at ha
    exact ⟨_, by rw [ha, List.append_nil], .number hn startsOutside_nil⟩

theorem startsOutside_of_not_startsWithDigit {cs : List Char} (h : startsWithDigit cs ≠ true) :
    StartsOutside Char.isDigit cs := by
  cases cs with
  | nil => exact startsOutside_nil
  | cons c cs => exact startsOutside_cons.mpr (Bool.eq_false_iff.mpr h)

theorem lexeme_rune {c : Char} {cs : List Char} (h : StartsLexeme (c :: cs))
    (hq : ¬(c = '"' ∨ c = '\'')) (hr : c ≠ Char.ofNat 96)
    (hd : ¬(c.isDigit = true ∨ (c = '-' ∧ startsWithDigit cs = true))) (hi : anyIdent c 0 ≠ true) :
    Lexeme cs [c] (.rune c) := by
  obtain ⟨hblank, hslash⟩ := h c cs rfl
  have hdigit : c.isDigit = false := Bool.eq_false_iff.mpr fun h => hd (.inl h)
  refine .rune ?_ ?_ hslash
  · by_cases hm : c = '-'
    · exact .inr hm
    · have hreserved : isReserved c = true := by
        simpa [anyIdent_zero, isIdentRune, hblank, hdigit, hm] using hi
      have hquote : isQuote c = false := by
        simpa [isQuote, hr] using hq
      exact .inl ⟨hreserved, hquote⟩
  · intro hm
    exact startsOutside_of_not_startsWithDigit fun hs => hd (.inr ⟨hm, hs⟩)

theorem reads_token {c : Char} {cs : List Char} (h : StartsLexeme (c :: cs)) :
    Reads (c :: cs) (token anyIdent (c :: cs)) := by
  simp only [token]
  split
  · next hq => exact Literal.reads_token (literal_isReadFrom c cs) (by simpa [isQuote] using .inl hq)
  · next hq =>
    split
    · next hr =>
      subst hr
      exact Literal.reads_token (rawLiteral_isReadFrom cs) rfl
    · next hr =>
      split
      · next hd => exact reads_number hd
      · next hd =>
        split
        · next hi => exact reads_ident hi
        · next hi => exact ⟨[c], rfl, lexeme_rune h hq hr hd hi⟩

end PathQuery.Scan
