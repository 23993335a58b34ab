import PathQuery.Query.Token

namespace PathQuery.Scan

theorem identifier_append (policy : IdentPolicy) (i : Nat) (cs : List Char) :
    (identifier policy i cs).1 ++ (identifier policy i cs).2 = cs := by
  induction cs generalizing i with
  | nil => rfl
  | cons c cs ih =>
    simp only [identifier]
    split
    · exact congrArg (c :: ·) (ih (i + 1))
    · rfl

theorem identifier_length (policy : IdentPolicy) (i : Nat) (cs : List Char) :
    (identifier policy i cs).2.length ≤ cs.length := by
  have h := congrArg List.length (identifier_append policy i cs)
  rw [List.length_append] at h
  omega

theorem digits_append (cs : List Char) : (digits cs).1 ++ (digits cs).2 = cs :=
  List.takeWhile_append_dropWhile

theorem fraction_append (cs : List Char) : (fraction cs).1 ++ (fraction cs).2 = cs := by
  unfold fraction
  split
  · split
    · exact congrArg ('.' :: ·) (digits_append _)
    · rfl
  · rfl

theorem exponent_append (cs : List Char) : (exponent cs).1 ++ (exponent cs).2 = cs := by
  unfold exponent
  split
  · split
    · split
      · exact congrArg (_ :: ·) (digits_append _)
      · split
        · exact congrArg (_ :: _ :: ·) (digits_append _)
        · rfl
    · rfl
  · rfl

theorem unsigned_append (cs : List Char) : (unsigned cs).1 ++ (unsigned cs).2 = cs := by
  simp only [unsigned, List.append_assoc, exponent_append, fraction_append, digits_append]

def signed : List Char → List Char × List Char
  | '-' :: rest => ('-' :: (unsigned rest).1, (unsigned rest).2)
  | cs => unsigned cs

theorem number_eq (policy : IdentPolicy) (cs : List Char) :
    number policy cs =
      match (signed cs).2 with
      | c :: _ =>
        if policy c 1 ∧ c ≠ '-' then
          (.invalid (String.ofList ((signed cs).1 ++ (identifier policy 0 (signed cs).2).1)),
            (identifier policy 0 (signed cs).2).2)
        else (.number (String.ofList (signed cs).1), (signed cs).2)
      | [] => (.number (String.ofList (signed cs).1), []) := rfl

theorem signed_append (cs : List Char) : (signed cs).1 ++ (signed cs).2 = cs := by
  unfold signed
  split
  · exact congrArg ('-' :: ·) (unsigned_append _)
  · exact unsigned_append cs

theorem signed_ne_nil {c : Char} {cs : List Char}
    (h : c.isDigit = true ∨ (c = '-' ∧ startsWithDigit cs = true)) : (signed (c :: cs)).1 ≠ [] := by
  unfold signed
  split
  · simp
  · next hc =>
    have hd : c.isDigit = true := h.resolve_right fun h => hc cs (congrArg (· :: cs) h.1)
    have : (digits (c :: cs)).1 = c :: (digits cs).1 := List.takeWhile_cons_of_pos hd
    simp [unsigned, this]

theorem number_rest_lt (policy : IdentPolicy) {cs : List Char} (h : (signed cs).1 ≠ []) :
    (number policy cs).2.length < cs.length := by
  have hs : (signed cs).2.length < cs.length := by
    have hs := congrArg List.length (signed_append cs)
    rw [List.length_append] at hs
    have := List.length_pos_iff.mpr h
    omega
  rw [number_eq]
  split
  · next c rest hr =>
    split
    · exact Nat.lt_of_le_of_lt (identifier_length policy 0 _) hs
    · exact hs
  · exact Nat.zero_lt_of_lt hs

theorem failedEscape_suffix (n : Nat) (cs : List Char) : failedEscape n cs <:+ cs := by
  fun_induction failedEscape n cs with
  | case1 n c cs h ih => exact ih.trans (List.suffix_cons c cs)
  | case2 | case3 => exact List.suffix_rfl

def Literal.IsReadFrom (l : Literal) (quote : Char) (cs : List Char) : Prop :=
  ∃ body, cs = body ++ l.rest ∧ ∀ s, l.read = .ok s → ∃ inner, body = inner ++ [quote]

section

variable {quote : Char} {cs rest : List Char}

theorem Literal.IsReadFrom.push {l : Literal} (h : l.IsReadFrom quote cs) (c : Char)
    (front : List Char) : (l.push c).IsReadFrom quote (front ++ cs) := by
  obtain ⟨body, rfl, hb⟩ := h
  refine ⟨front ++ body, (List.append_assoc _ _ _).symm, ?_⟩
  intro s hs
  cases hr : l.read with
  | error reason => simp [Literal.push, hr, Except.map] at hs
  | ok s' =>
    obtain ⟨inner, rfl⟩ := hb s' hr
    exact ⟨front ++ inner, (List.append_assoc _ _ _).symm⟩

theorem Literal.isReadFrom_error (reason : String) (h : rest <:+ cs) :
    (⟨.error reason, rest⟩ : Literal).IsReadFrom quote cs := by
  obtain ⟨body, rfl⟩ := h
  exact ⟨body, rfl, nofun⟩

theorem Literal.isReadFrom_quote : (⟨.ok [], rest⟩ : Literal).IsReadFrom quote (quote :: rest) :=
  ⟨[quote], rfl, fun _ _ => ⟨[], rfl⟩⟩

end

theorem literal_isReadFrom (quote : Char) (cs : List Char) :
    (literal quote cs).IsReadFrom quote cs := by
  fun_induction literal quote cs with
  | case1 => exact Literal.isReadFrom_error _ List.suffix_rfl
  | case2 => exact Literal.isReadFrom_error _ (List.nil_suffix ..)
  | case3 a b c d rest e he ih => exact ih.push e ['\\', 'u', a, b, c, d]
  | case4 a b c d rest he =>
    exact Literal.isReadFrom_error _ ((failedEscape_suffix 3 _).trans (List.suffix_append ['\\', 'u'] _))
  | case5 rest =>
    exact Literal.isReadFrom_error _ ((failedEscape_suffix 3 _).trans (List.suffix_append ['\\', 'u'] _))
  | case6 e rest _ _ c he ih => exact ih.push c ['\\', e]
  | case7 e rest => exact Literal.isReadFrom_error _ (List.suffix_cons '\\' _)
  | case8 rest => exact Literal.isReadFrom_quote
  | case9 rest => exact Literal.isReadFrom_error _ List.suffix_rfl
  | case10 c rest _ _ _ _ _ _ ih => exact ih.push c [c]

theorem rawLiteral_isReadFrom (cs : List Char) :
    (rawLiteral cs).IsReadFrom (Char.ofNat 96) cs := by
  induction cs with
  | nil => exact Literal.isReadFrom_error _ List.suffix_rfl
  | cons c cs ih =>
    simp only [rawLiteral]
    split
    · next hc => exact hc ▸ Literal.isReadFrom_quote
    · exact ih.push c [c]

theorem Literal.IsReadFrom.length_le {l : Literal} {quote : Char} {cs : List Char}
    (h : l.IsReadFrom quote cs) : l.rest.length ≤ cs.length := by
  obtain ⟨body, rfl, -⟩ := h
  rw [List.length_append]
  exact Nat.le_add_left _ _

theorem Literal.token_rest (l : Literal) : l.token.2 = l.rest := by
  unfold Literal.token
  split <;> rfl

theorem token_length (policy : IdentPolicy) (c : Char) (cs : List Char) :
    (token policy (c :: cs)).2.length ≤ cs.length := by
  simp only [token]
  split
  · rw [Literal.token_rest]; exact (literal_isReadFrom c cs).length_le
  · split
    · rw [Literal.token_rest]; exact (rawLiteral_isReadFrom cs).length_le
    · split
      · next h => exact Nat.le_of_lt_succ (number_rest_lt policy (signed_ne_nil h))
      · split
        · next h =>
          simp only [identifier, h, if_true]
          exact identifier_length policy 1 cs
        · simp

theorem Literal.token_cases (l : Literal) :
    (∃ s, l.token.1 = .string s) ∨ ∃ reason, l.token.1 = .invalid reason := by
  unfold Literal.token
  split
  · exact .inl ⟨_, rfl⟩
  · exact .inr ⟨_, rfl⟩

theorem number_cases (policy : IdentPolicy) (cs : List Char) :
    number policy cs = (.number (String.ofList (signed cs).1), (signed cs).2) ∨
      ∃ reason, (number policy cs).1 = .invalid reason := by
  rw [number_eq]
  split
  · split
    · exact .inr ⟨_, rfl⟩
    · exact .inl rfl
  · next h => exact .inl (by rw [h])

theorem token_cases (policy : IdentPolicy) (c : Char) (cs : List Char) :
    (∃ s, (token policy (c :: cs)).1 = .string s) ∨
    (∃ reason, (token policy (c :: cs)).1 = .invalid reason) ∨
    ((c.isDigit = true ∨ (c = '-' ∧ startsWithDigit cs = true)) ∧ token policy (c :: cs) =
      (.number (String.ofList (signed (c :: cs)).1), (signed (c :: cs)).2)) ∨
    (policy c 0 = true ∧ token policy (c :: cs) =
      (.ident (String.ofList (identifier policy 0 (c :: cs)).1),
        (identifier policy 0 (c :: cs)).2)) ∨
    token policy (c :: cs) = (.rune c, cs) := by
  simp only [token]
  split
  · rcases (literal c cs).token_cases with h | h
    · exact .inl h
    · exact .inr (.inl h)
  · split
    · rcases (rawLiteral cs).token_cases with h | h
      · exact .inl h
      · exact .inr (.inl h)
    · split
      · next hd =>
        rcases number_cases policy (c :: cs) with h | h
        · exact .inr (.inr (.inl ⟨hd, h⟩))
        · exact .inr (.inl h)
      · split
        · next hp => exact .inr (.inr (.inr (.inl ⟨hp, rfl⟩)))
        · exact .inr (.inr (.inr (.inr rfl)))

theorem token_ne (policy : IdentPolicy) (c : Char) (cs : List Char) :
    (token policy (c :: cs)).1 ≠ .endOfInput := by
  rcases token_cases policy c cs with ⟨s, h⟩ | ⟨reason, h⟩ | ⟨-, h⟩ | ⟨-, h⟩ | h <;> simp [h]

theorem afterTrivia?_length {trivia : Trivia} {cs rest : List Char}
    (h : afterTrivia? trivia cs = some rest) : rest.length ≤ cs.length := by
  fun_induction afterTrivia? trivia cs with
  | case1 | case5 | case6 => exact Nat.le_of_eq (congrArg List.length (Option.some.inj h)).symm
  | case2 cs ih | case3 cs ih | case10 cs ih => exact Nat.le_trans (ih h) (Nat.le_add_right _ 2)
  | case4 c cs _ _ _ ih => exact Nat.le_succ_of_le (ih h)
  | case7 cs ih | case8 c cs _ ih | case11 c cs _ ih => exact Nat.le_succ_of_le (ih h)
  | case9 => simp at h

end PathQuery.Scan
