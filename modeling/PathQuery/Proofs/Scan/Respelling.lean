import PathQuery.Proofs.Scan.Tokens

namespace PathQuery.Scan

def StartsOutside (p : Char → Bool) (cs : List Char) : Prop := ∀ c ∈ cs.head?, p c = false

theorem startsOutside_nil {p : Char → Bool} : StartsOutside p [] := by simp [StartsOutside]

theorem startsOutside_cons {p : Char → Bool} {c : Char} {cs : List Char} :
    StartsOutside p (c :: cs) ↔ p c = false := by simp [StartsOutside]

theorem StartsOutside.append {p : Char → Bool} {xs ys : List Char} (hx : StartsOutside p xs)
    (hy : StartsOutside p ys) : StartsOutside p (xs ++ ys) := by
  cases xs with
  | nil => exact hy
  | cons x xs => exact startsOutside_cons.mpr (startsOutside_cons.mp hx)

def delimiters : List Char := [',', ')', ']', '\x7d']

def Delimited (cs : List Char) : Prop := ∀ c ∈ cs.head?, c ∈ delimiters

theorem Delimited.startsOutside {p : Char → Bool} {cs : List Char} (h : Delimited cs)
    (hp : delimiters.any p = false) : StartsOutside p cs :=
  fun c hc => Bool.eq_false_iff.mpr (List.any_eq_false.mp hp c (h c hc))

theorem identifier_respell {policy : IdentPolicy} {i : Nat} {cs name rest follow : List Char}
    (h : identifier policy i cs = (name, rest))
    (hf : ∀ i, StartsOutside (policy · i) follow) :
    identifier policy i (name ++ follow) = (name, follow) := by
  induction cs generalizing i name with
  | nil =>
    obtain ⟨rfl, -⟩ := Prod.mk.inj h
    cases follow with
    | nil => rfl
    | cons c cs => simp [identifier, startsOutside_cons.mp (hf i)]
  | cons c cs ih =>
    simp only [identifier] at h
    split at h
    · next hc =>
      obtain ⟨rfl, hr⟩ := Prod.mk.inj h
      simp [identifier, hc, ih (i := i + 1) (Prod.ext rfl hr)]
    · obtain ⟨rfl, -⟩ := Prod.mk.inj h
      cases follow with
      | nil => rfl
      | cons c cs => simp [identifier, startsOutside_cons.mp (hf i)]

theorem startsWithDigit_append {cs follow : List Char} (h : startsWithDigit cs = true) :
    startsWithDigit ((digits cs).1 ++ follow) = true := by
  cases cs with
  | nil => simp [startsWithDigit] at h
  | cons c cs =>
    have hc : (digits (c :: cs)).1 = c :: (digits cs).1 := List.takeWhile_cons_of_pos h
    rw [hc]
    exact h

theorem digits_respell (cs : List Char) {follow : List Char}
    (hf : StartsOutside Char.isDigit follow) :
    digits ((digits cs).1 ++ follow) = ((digits cs).1, follow) := by
  have hd : ∀ c ∈ cs.takeWhile Char.isDigit, c.isDigit = true :=
    List.all_eq_true.mp List.all_takeWhile
  have hn : follow.takeWhile Char.isDigit = [] ∧ follow.dropWhile Char.isDigit = follow := by
    cases follow with
    | nil => exact ⟨rfl, rfl⟩
    | cons c follow => simp [startsOutside_cons.mp hf]
  simp only [digits, List.takeWhile_append_of_pos hd, List.dropWhile_append_of_pos hd, hn.1, hn.2,
    List.append_nil]

theorem fraction_cases (cs : List Char) : (fraction cs).1 = [] ∨
    ∃ rest, startsWithDigit rest = true ∧ (fraction cs).1 = '.' :: (digits rest).1 := by
  unfold fraction
  split
  · next rest =>
    split
    · next hd => exact .inr ⟨rest, hd, rfl⟩
    · exact .inl rfl
  · exact .inl rfl

theorem fraction_startsOutside (cs : List Char) : StartsOutside Char.isDigit (fraction cs).1 := by
  rcases fraction_cases cs with h | ⟨rest, -, h⟩
  · rw [h]; exact startsOutside_nil
  · rw [h]; exact startsOutside_cons.mpr rfl

theorem fraction_of_startsOutside {cs : List Char} (h : StartsOutside (· == '.') cs) :
    (fraction cs).1 = [] := by
  unfold fraction
  split
  · simp [startsOutside_cons] at h
  · rfl

theorem fraction_respell (cs : List Char) {follow : List Char}
    (hf : StartsOutside Char.isDigit follow)
    (hp : (fraction cs).1 = [] → (fraction follow).1 = []) :
    fraction ((fraction cs).1 ++ follow) = ((fraction cs).1, follow) := by
  rcases fraction_cases cs with h | ⟨rest, hd, h⟩
  · have ha := fraction_append follow
    rw [hp h, List.nil_append] at ha
    rw [h, List.nil_append]
    exact Prod.ext (hp h) ha
  · rw [h, List.cons_append]
    simp only [fraction, startsWithDigit_append hd, if_true, digits_respell rest hf]

def isMark (c : Char) : Bool := c == 'e' || c == 'E'

theorem exponent_cases (cs : List Char) : (exponent cs).1 = [] ∨
    ∃ e s rest, isMark e = true ∧ (exponent cs).1 = e :: s :: (digits rest).1 ∧
      (s.isDigit = true ∨ (s = '+' ∨ s = '-') ∧ startsWithDigit rest = true) := by
  unfold exponent
  split
  · next e s rest =>
    split
    · next he =>
      have he : isMark e = true := by simpa [isMark] using he
      split
      · next hs =>
        have hd : (digits (s :: rest)).1 = s :: (digits rest).1 := List.takeWhile_cons_of_pos hs
        exact .inr ⟨e, s, rest, he, congrArg (e :: ·) hd, .inl hs⟩
      · split
        · next hs => exact .inr ⟨e, s, rest, he, rfl, .inr hs⟩
        · exact .inl rfl
    · exact .inl rfl
  · exact .inl rfl

theorem exponent_startsOutside {p : Char → Bool} (hp : ∀ c, isMark c = true → p c = false)
    (cs : List Char) : StartsOutside p (exponent cs).1 := by
  rcases exponent_cases cs with h | ⟨e, s, rest, he, h, -⟩
  · rw [h]; exact startsOutside_nil
  · rw [h]; exact startsOutside_cons.mpr (hp e he)

theorem exponent_respell (cs : List Char) {follow : List Char}
    (hf : StartsOutside Char.isDigit follow) (hm : StartsOutside isMark follow) :
    exponent ((exponent cs).1 ++ follow) = ((exponent cs).1, follow) := by
  rcases exponent_cases cs with h | ⟨e, s, rest, he, h, hs⟩
  · rw [h, List.nil_append]
    unfold exponent
    split
    · next e s rest =>
      have : ¬(e = 'e' ∨ e = 'E') := by simpa [startsOutside_cons, isMark] using hm
      rw [if_neg this]
    · rfl
  · have he : e = 'e' ∨ e = 'E' := by simpa [isMark] using he
    rw [h, List.cons_append, List.cons_append]
    simp only [exponent, he, if_true]
    by_cases hd : s.isDigit = true
    · have hc := digits_respell (s :: rest) hf
      have ht : (digits (s :: rest)).1 = s :: (digits rest).1 := List.takeWhile_cons_of_pos hd
      rw [ht, List.cons_append] at hc
      simp only [hd, if_true, hc]
    · obtain ⟨hs, hr⟩ := hs.resolve_left hd
      simp only [hd, Bool.false_eq_true, if_false, hs, startsWithDigit_append hr, and_self, if_true,
        digits_respell rest hf]

theorem not_isDigit_of_isMark (c : Char) (h : isMark c = true) : c.isDigit = false := by
  simp only [isMark, Bool.or_eq_true, beq_iff_eq] at h
  rcases h with rfl | rfl <;> rfl

theorem ne_point_of_isMark (c : Char) (h : isMark c = true) : (c == '.') = false := by
  simp only [isMark, Bool.or_eq_true, beq_iff_eq] at h
  rcases h with rfl | rfl <;> rfl

theorem unsigned_respell (cs : List Char) {follow : List Char}
    (hdigit : StartsOutside Char.isDigit follow) (hmark : StartsOutside isMark follow)
    (hpoint : (unsigned cs).2 = (digits cs).2 → (fraction (digits cs).2).1 = [] →
      (fraction follow).1 = []) :
    unsigned ((unsigned cs).1 ++ follow) = ((unsigned cs).1, follow) := by
  have hpower := exponent_respell (fraction (digits cs).2).2 hdigit hmark
  have hdigit' := (exponent_startsOutside not_isDigit_of_isMark (fraction (digits cs).2).2).append
    hdigit
  have hpoint' : (fraction (digits cs).2).1 = [] →
      (fraction ((exponent (fraction (digits cs).2).2).1 ++ follow)).1 = [] := by
    intro hf
    have ha := fraction_append (digits cs).2
    rw [hf, List.nil_append] at ha
    rcases exponent_cases (fraction (digits cs).2).2 with h | ⟨e, s, rest, he, h, -⟩
    · have ha' := exponent_append (fraction (digits cs).2).2
      rw [h, List.nil_append] at ha' ⊢
      exact hpoint (ha'.trans ha) hf
    · rw [h, List.cons_append]
      exact fraction_of_startsOutside (startsOutside_cons.mpr (ne_point_of_isMark e he))
  have hplaces := fraction_respell (digits cs).2 hdigit' hpoint'
  have hwhole := digits_respell cs ((fraction_startsOutside (digits cs).2).append hdigit')
  simp only [unsigned, List.append_assoc, hwhole, hplaces, hpower]

def EndsAlike (rest follow : List Char) : Prop :=
  ∀ cs, (unsigned cs).2 = rest → unsigned ((unsigned cs).1 ++ follow) = ((unsigned cs).1, follow)

theorem Delimited.endsAlike {follow : List Char} (h : Delimited follow) (rest : List Char) :
    EndsAlike rest follow := fun cs _ =>
  unsigned_respell cs (h.startsOutside (by decide)) (h.startsOutside (by decide)) fun _ _ =>
    fraction_of_startsOutside (h.startsOutside (by decide))

theorem escapeValue?_hex4 : ∀ n < 160, ∃ a b c d, Text.hex4 n = [a, b, c, d] ∧
    escapeValue? a b c d = some (Char.ofNat n) := by
  intro n hn
  refine ⟨_, _, _, _, rfl, ?_⟩
  revert n
  decide +kernel

theorem literal_cons {quote c : Char} (hc : c ≠ '\\') (cs : List Char) :
    literal quote (c :: cs) =
      if c = quote then ⟨.ok [], cs⟩
      else if c = '\n' then ⟨.error "newline in string literal", c :: cs⟩
      else (literal quote cs).push c := by
  rw [literal]
  all_goals intros; exact hc ‹c = '\\'›

theorem literal_quoteChar (c : Char) (cs : List Char) :
    literal '"' (Text.quoteChar c ++ cs) = (literal '"' cs).push c := by
  unfold Text.quoteChar
  split
  · rfl
  · rfl
  · rfl
  · rfl
  · rfl
  · rfl
  · next hq hb hl _ _ _ =>
    split
    · next hc =>
      have hn : c.toNat < 160 := by
        simp only [Text.isControl, Bool.or_eq_true, Bool.and_eq_true, decide_eq_true_eq] at hc
        omega
      obtain ⟨x, y, z, w, hx, hv⟩ := escapeValue?_hex4 c.toNat hn
      rw [Char.ofNat_toNat] at hv
      rw [hx]
      simp only [List.cons_append, List.nil_append, literal, hv]
    · rw [List.singleton_append]
      rw [literal_cons hb, if_neg hq, if_neg hl]

theorem literal_quoted (s cs : List Char) :
    literal '"' (s.flatMap Text.quoteChar ++ '"' :: cs) = ⟨.ok s, cs⟩ := by
  induction s with
  | nil => rfl
  | cons c s ih =>
    rw [List.flatMap_cons, List.append_assoc, literal_quoteChar, ih]
    rfl

theorem afterTrivia?_cons {c : Char} {cs : List Char} (hb : Text.isBlank c = false)
    (hs : c ≠ '/') : afterTrivia? .plain (c :: cs) = some (c :: cs) := by
  unfold afterTrivia?
  split <;> simp_all

def ReadsAs (lexeme : List Char) (t : Token) (follow : List Char) : Prop :=
  ∃ c cs, lexeme ++ follow = c :: cs ∧ afterTrivia? .plain (c :: cs) = some (c :: cs) ∧
    token anyIdent (c :: cs) = (t, follow)

theorem ReadsAs.yields {lexeme follow space : List Char} {t : Token} {ts : List Token}
    (h : ReadsAs lexeme t follow)
    (hs : afterTrivia? .plain (space ++ (lexeme ++ follow)) = afterTrivia? .plain (lexeme ++ follow))
    (hts : Yields anyIdent follow ts) : Yields anyIdent (space ++ (lexeme ++ follow)) (t :: ts) := by
  obtain ⟨c, cs, hcs, ha, ht⟩ := h
  rw [hcs] at hs ⊢
  exact .token (hs.trans ha) ht hts

def Respells (t : Token) (follow : List Char) : Prop := ReadsAs t.text.toList t follow

theorem Respells.yields {t : Token} {follow : List Char} {ts : List Token} (h : Respells t follow)
    (hts : Yields anyIdent follow ts) : Yields anyIdent (t.text.toList ++ follow) (t :: ts) :=
  @ReadsAs.yields _ _ [] _ _ h rfl hts

theorem quote_append (s : String) (follow : List Char) :
    (Text.quote s).toList ++ follow = '"' :: (s.toList.flatMap Text.quoteChar ++ '"' :: follow) := by
  rw [Text.quote, String.toList_ofList, List.append_assoc]
  rfl

theorem afterTrivia?_quote (s : String) (follow : List Char) :
    afterTrivia? .plain ((Text.quote s).toList ++ follow) = some ((Text.quote s).toList ++ follow) := by
  rw [quote_append]
  exact afterTrivia?_cons (by decide) (by decide)

theorem token_quote (policy : IdentPolicy) (s : String) (follow : List Char) :
    token policy ((Text.quote s).toList ++ follow) = (.string s, follow) := by
  rw [quote_append, token, if_pos (.inl rfl), literal_quoted]
  exact Prod.ext (congrArg Token.string String.ofList_toList) rfl

theorem respells_string (s : String) (follow : List Char) : Respells (.string s) follow := by
  have hquote := quote_append s follow
  have htrivia := afterTrivia?_quote s follow
  have htoken := token_quote anyIdent s follow
  rw [hquote] at htrivia htoken
  exact ⟨'"', _, hquote, htrivia, htoken⟩

def punctuation : List Char := ['.', ',', '(', ')', '[', ']', '\x7b', '\x7d', '$', '@']

theorem token_punctuation {c : Char} (h : c ∈ punctuation) : Text.isBlank c = false ∧ c ≠ '/' ∧
    ¬(c = '"' ∨ c = '\'') ∧ c ≠ Char.ofNat 96 ∧ c.isDigit = false ∧ c ≠ '-' ∧
    anyIdent c 0 = false := by
  have hall : punctuation.all (fun c => decide (Text.isBlank c = false ∧ c ≠ '/' ∧
      ¬(c = '"' ∨ c = '\'') ∧ c ≠ Char.ofNat 96 ∧ c.isDigit = false ∧ c ≠ '-' ∧
      anyIdent c 0 = false)) = true := by decide
  exact of_decide_eq_true (List.all_eq_true.mp hall c h)

theorem respells_rune {c : Char} (h : c ∈ punctuation) (follow : List Char) :
    Respells (.rune c) follow := by
  obtain ⟨hb, hs, hq, hr, hd, hm, hi⟩ := token_punctuation h
  refine ⟨c, follow, ?_, afterTrivia?_cons hb hs, ?_⟩
  · change (String.singleton c).toList ++ follow = _
    rw [String.toList_singleton, List.singleton_append]
  · rw [token, if_neg hq, if_neg hr, if_neg (by simp [hd, hm]), if_neg (by simp [hi])]

theorem anyIdent_start {c : Char} (h : anyIdent c 0 = true) : Text.isBlank c = false ∧
    isReserved c = false ∧ c.isDigit = false ∧ c ≠ '-' := by
  simpa [anyIdent, and_assoc] using h

theorem token_of_anyIdent {c : Char} (h : anyIdent c 0 = true) (cs : List Char) :
    token anyIdent (c :: cs) =
      (.ident (String.ofList (identifier anyIdent 0 (c :: cs)).1),
        (identifier anyIdent 0 (c :: cs)).2) := by
  obtain ⟨-, hr, hd, hm⟩ := anyIdent_start h
  have hne : ∀ c', isReserved c' = true → c ≠ c' := by
    rintro c' hc rfl
    simp [hr] at hc
  rw [token, if_neg (not_or.mpr ⟨hne _ (by decide), hne _ (by decide)⟩),
    if_neg (hne _ (by decide)), if_neg (by simp [hd, hm]), if_pos h]

theorem token_eq_ident {policy : IdentPolicy} {cs rest : List Char} {name : String}
    (h : token policy cs = (.ident name, rest)) :
    ∃ c cs', policy c 0 = true ∧ identifier policy 0 (c :: cs') = (name.toList, rest) := by
  cases cs with
  | nil => simp [token] at h
  | cons c cs =>
    have hc := token_cases policy c cs
    simp only [h, Prod.mk.injEq, Token.ident.injEq, reduceCtorEq, false_and, and_false, exists_false,
      or_false, false_or] at hc
    obtain ⟨hp, hn, hr⟩ := hc
    exact ⟨c, cs, hp, Prod.ext (by rw [hn, String.toList_ofList]) hr.symm⟩

theorem token_eq_number {policy : IdentPolicy} {cs rest : List Char} {text : String}
    (h : token policy cs = (.number text, rest)) :
    ∃ c cs', (c.isDigit = true ∨ (c = '-' ∧ startsWithDigit cs' = true)) ∧
      signed (c :: cs') = (text.toList, rest) := by
  cases cs with
  | nil => simp [token] at h
  | cons c cs =>
    have hc := token_cases policy c cs
    simp only [h, Prod.mk.injEq, Token.number.injEq, reduceCtorEq, false_and, and_false,
      exists_false, or_false, false_or] at hc
    obtain ⟨hd, ht, hr⟩ := hc
    exact ⟨c, cs, hd, Prod.ext (by rw [ht, String.toList_ofList]) hr.symm⟩

theorem respells_ident {name : String} {cs rest follow : List Char}
    (h : token anyIdent cs = (.ident name, rest)) (hf : ∀ i, StartsOutside (anyIdent · i) follow) :
    Respells (.ident name) follow := by
  obtain ⟨c, cs', hc, hi⟩ := token_eq_ident h
  obtain ⟨hb, hr, -, -⟩ := anyIdent_start hc
  have hspell := identifier_respell hi hf
  have hname : name.toList = c :: (identifier anyIdent 1 cs').1 := by
    simpa [identifier, hc] using (congrArg Prod.fst hi).symm
  refine ⟨c, (identifier anyIdent 1 cs').1 ++ follow, ?_, ?_, ?_⟩
  · change name.toList ++ follow = _
    rw [hname, List.cons_append]
  · exact afterTrivia?_cons hb (by rintro rfl; simp [isReserved] at hr)
  · rw [token_of_anyIdent hc, ← List.cons_append, ← hname, hspell, String.ofList_toList]

theorem signed_of_ne {c : Char} (hc : c ≠ '-') (cs : List Char) :
    signed (c :: cs) = unsigned (c :: cs) := by
  unfold signed
  split
  · next heq => exact absurd (List.cons.inj heq).1 hc
  · rfl

theorem ne_minus_of_isDigit {c : Char} (h : c.isDigit = true) : c ≠ '-' := by
  rintro rfl
  simp at h

theorem signed_head {c : Char} {cs : List Char}
    (h : c.isDigit = true ∨ (c = '-' ∧ startsWithDigit cs = true)) (follow : List Char) :
    ∃ us, (signed (c :: cs)).1 = c :: us ∧
      (c.isDigit = true ∨ (c = '-' ∧ startsWithDigit (us ++ follow) = true)) := by
  rcases h with h | ⟨rfl, h⟩
  · have hd : (digits (c :: cs)).1 = c :: (digits cs).1 := List.takeWhile_cons_of_pos h
    rw [signed_of_ne (ne_minus_of_isDigit h)]
    simp only [unsigned, hd, List.cons_append]
    exact ⟨_, rfl, .inl h⟩
  · refine ⟨(unsigned cs).1, rfl, .inr ⟨rfl, ?_⟩⟩
    simp only [unsigned, List.append_assoc]
    exact startsWithDigit_append h

theorem signed_respell {c : Char} {cs : List Char}
    (h : c.isDigit = true ∨ (c = '-' ∧ startsWithDigit cs = true)) {follow : List Char}
    (hf : EndsAlike (signed (c :: cs)).2 follow) :
    signed ((signed (c :: cs)).1 ++ follow) = ((signed (c :: cs)).1, follow) := by
  obtain ⟨us, hs, -⟩ := signed_head h follow
  rcases h with h | ⟨rfl, -⟩
  · have hm := ne_minus_of_isDigit h
    rw [signed_of_ne hm] at hs hf ⊢
    have hu := hf (c :: cs) rfl
    rw [hs, List.cons_append] at hu ⊢
    rw [signed_of_ne hm, hu]
  · have hu := hf cs rfl
    simp only [signed, List.cons_append, hu]

theorem isBlank_of_isDigit {c : Char} (h : c.isDigit = true) : Text.isBlank c = false := by
  have hn : 48 ≤ c.toNat ∧ c.toNat ≤ 57 := by
    simpa [Char.isDigit, UInt32.le_iff_toNat_le] using h
  simp only [Text.isBlank, Bool.or_eq_false_iff, Bool.and_eq_false_iff, decide_eq_false_iff_not,
    beq_eq_false_iff_ne]
  omega

theorem respells_number {text : String} {cs rest follow : List Char}
    (h : token anyIdent cs = (.number text, rest)) (hf : EndsAlike rest follow)
    (hg : StartsOutside (fun c => anyIdent c 1 && c != '-') follow) :
    Respells (.number text) follow := by
  obtain ⟨c, cs', hd, ht⟩ := token_eq_number h
  obtain ⟨us, hus, hd'⟩ := signed_head hd follow
  have hs : signed ((signed (c :: cs')).1 ++ follow) = ((signed (c :: cs')).1, follow) :=
    signed_respell hd (by rw [ht]; exact hf)
  rw [hus, List.cons_append] at hs
  have hus : text.toList = c :: us := by rw [← hus, ht]
  have hn : number anyIdent (c :: (us ++ follow)) = (.number text, follow) := by
    have ht : String.ofList (c :: us) = text := by rw [← hus, String.ofList_toList]
    rw [number_eq, hs]
    cases follow with
    | nil => rw [ht]
    | cons c' follow =>
      have hc : ¬(anyIdent c' 1 = true ∧ c' ≠ '-') := by simpa [startsOutside_cons] using hg
      simp [hc, ht]
  have hb : Text.isBlank c = false := by
    rcases hd with hd | ⟨rfl, -⟩
    · exact isBlank_of_isDigit hd
    · rfl
  have hne : ∀ c', c'.isDigit = false → c' ≠ '-' → c ≠ c' := by
    rintro c' hc hm rfl
    simp [hc, hm] at hd
  refine ⟨c, us ++ follow, ?_, ?_, ?_⟩
  · change text.toList ++ follow = _
    rw [hus, List.cons_append]
  · exact afterTrivia?_cons hb (hne _ (by decide) (by decide))
  · rw [token, if_neg (not_or.mpr ⟨hne _ (by decide) (by decide), hne _ (by decide) (by decide)⟩),
      if_neg (hne _ (by decide) (by decide)), if_pos hd', hn]

theorem Delimited.respells_number {text : String} {cs rest follow : List Char}
    (h : Delimited follow) (ht : token anyIdent cs = (.number text, rest)) :
    Respells (.number text) follow :=
  Scan.respells_number ht (h.endsAlike rest) (h.startsOutside (by decide))

end PathQuery.Scan
