import PathQuery.Proofs.Scan.Lexeme

namespace PathQuery

namespace Scan

theorem afterTrivia?_blank {c : Char} (h : Text.isBlank c = true) (cs : List Char) :
    afterTrivia? .plain (c :: cs) = afterTrivia? .plain cs := by
  have hslash : c ≠ '/' := by
    rintro rfl
    cases h
  generalize hr : afterTrivia? .plain cs = r
  unfold afterTrivia?
  split <;> simp_all

theorem afterTrivia?_inLine {body tail : List Char} (hbody : '\n' ∉ body)
    (hend : ∀ c ∈ tail.head?, c = '\n') :
    afterTrivia? .line (body ++ tail) = afterTrivia? .plain tail := by
  induction body with
  | nil =>
    cases tail with
    | nil => rfl
    | cons c tail =>
      obtain rfl : c = '\n' := hend c rfl
      exact (afterTrivia?_blank rfl tail).symm
  | cons c body ih =>
    obtain ⟨hc, hbody⟩ := not_or.mp (mt List.mem_cons.mpr hbody)
    exact (if_neg (Ne.symm hc)).trans (ih hbody)

theorem afterTrivia?_block_cons {c : Char} {cs : List Char} (h : ¬['*', '/'] <+: c :: cs) :
    afterTrivia? .block (c :: cs) = afterTrivia? .block cs := by
  generalize hr : afterTrivia? .block cs = r
  unfold afterTrivia?
  split <;> simp_all

theorem afterTrivia?_inBlock {body : List Char} (hbody : ¬['*', '/'] <:+: body) (tail : List Char) :
    afterTrivia? .block (body ++ '*' :: '/' :: tail) = afterTrivia? .plain tail := by
  induction body with
  | nil => rfl
  | cons c body ih =>
    obtain ⟨hc, hbody⟩ := not_or.mp (mt List.infix_cons_iff.mpr hbody)
    have hopen : ∀ ds, c = '*' → body ++ '*' :: '/' :: tail = '/' :: ds → False := by
      rintro ds rfl hds
      cases body with
      | nil => exact absurd (List.cons.inj hds).1 (by decide)
      | cons d body =>
        obtain ⟨rfl, -⟩ := List.cons.inj hds
        exact hc ⟨body, rfl⟩
    exact (afterTrivia?_block_cons (not_isPrefix_close hopen)).trans (ih hbody)

theorem afterTrivia?_append {rest space : List Char} (h : IsTrivia rest space) :
    afterTrivia? .plain (space ++ rest) = afterTrivia? .plain rest := by
  induction h with
  | nil => rfl
  | blank hc _ ih => rw [List.cons_append, afterTrivia?_blank hc, ih]
  | @line body cs hbody hend _ ih =>
    have hline := afterTrivia?_inLine hbody hend
    rw [List.cons_append, List.cons_append, List.append_assoc]
    exact hline.trans ih
  | @block body cs hbody _ ih =>
    have hblock := afterTrivia?_inBlock hbody (cs ++ rest)
    rw [List.cons_append, List.cons_append, List.append_assoc, List.cons_append, List.cons_append]
    exact hblock.trans ih

theorem IsTrivia.congr {rest rest' space : List Char} (h : IsTrivia rest space)
    (hrest : rest'.head? = rest.head?) : IsTrivia rest' space := by
  induction h with
  | nil => exact .nil
  | blank hc _ ih => exact .blank hc ih
  | @line body cs hbody hend _ ih =>
    refine .line hbody ?_ ih
    rwa [List.head?_append, hrest, ← List.head?_append]
  | block hbody _ ih => exact .block hbody ih

def OpensSpace (c : Char) : Prop := Text.isBlank c = true ∨ c = '/'

theorem IsTrivia.opensSpace {rest space : List Char} (h : IsTrivia rest space) :
    space = [] ∨ ∃ c cs, space = c :: cs ∧ OpensSpace c := by
  cases h with
  | nil => exact .inl rfl
  | blank hc => exact .inr ⟨_, _, rfl, .inl hc⟩
  | line => exact .inr ⟨_, _, rfl, .inr rfl⟩
  | block => exact .inr ⟨_, _, rfl, .inr rfl⟩

-- The second text is the first one up to some place, and from there on it is the rest of the first
-- one or starts with a space.
inductive Spaced : List Char → List Char → Prop where
  | same (cs : List Char) : Spaced cs cs
  | here (cs : List Char) {c : Char} (hc : OpensSpace c) (ds : List Char) : Spaced cs (c :: ds)
  | later {cs ds : List Char} (c : Char) (h : Spaced cs ds) : Spaced (c :: cs) (c :: ds)

theorem Spaced.append {cs ds : List Char} (h : Spaced cs ds) (front : List Char) :
    Spaced (front ++ cs) (front ++ ds) := by
  induction front with
  | nil => exact h
  | cons c front ih => exact .later c ih

theorem IsTrivia.spaced {rest space : List Char} (h : IsTrivia rest space) :
    Spaced rest (space ++ rest) := by
  rcases h.opensSpace with rfl | ⟨c, cs, rfl, hc⟩
  · exact .same rest
  · exact .here rest hc (cs ++ rest)

theorem Spaced.startsOutside {cs ds : List Char} {p : Char → Bool} (h : Spaced cs ds)
    (hp : ∀ c, OpensSpace c → p c = false) (hcs : StartsOutside p cs) : StartsOutside p ds := by
  cases h with
  | same => exact hcs
  | here _ hc => exact startsOutside_cons.mpr (hp _ hc)
  | later c _ => exact startsOutside_cons.mpr (startsOutside_cons.mp hcs)

section

variable {c : Char}

theorem OpensSpace.isIdentRune (h : OpensSpace c) : isIdentRune c = false := by
  rcases h with h | rfl
  · simp [Scan.isIdentRune, h]
  · rfl

theorem OpensSpace.isDigit (h : OpensSpace c) : c.isDigit = false := by
  rcases h with h | rfl
  · refine Bool.eq_false_iff.mpr fun hd => ?_
    rw [isBlank_of_isDigit hd] at h
    cases h
  · rfl

theorem OpensSpace.ne_point (h : OpensSpace c) : (c == '.') = false := by
  rcases h with h | rfl
  · refine beq_eq_false_iff_ne.mpr ?_
    rintro rfl
    cases h
  · rfl

theorem isIdentRune_of_isMark (h : isMark c = true) : (isIdentRune c && c != '-') = true := by
  simp only [isMark, Bool.or_eq_true, beq_iff_eq] at h
  rcases h with rfl | rfl
  · rfl
  · rfl

theorem OpensSpace.isMark (h : OpensSpace c) : isMark c = false := by
  refine Bool.eq_false_iff.mpr fun hm => ?_
  have hi := isIdentRune_of_isMark hm
  rw [h.isIdentRune] at hi
  cases hi

end

theorem Spaced.fraction_eq_nil {cs ds : List Char} (h : Spaced cs ds) (hcs : (fraction cs).1 = []) :
    (fraction ds).1 = [] := by
  cases h with
  | same => exact hcs
  | here _ hc => exact fraction_of_startsOutside (startsOutside_cons.mpr hc.ne_point)
  | @later cs ds c h =>
    by_cases hc : c = '.'
    · subst hc
      have hdigit : startsWithDigit cs ≠ true := by
        intro hd
        simp [fraction, hd] at hcs
      have hout := h.startsOutside (fun _ hc => hc.isDigit)
        (startsOutside_of_not_startsWithDigit hdigit)
      have hdigit' : startsWithDigit ds = false := by
        cases ds with
        | nil => rfl
        | cons d ds => exact startsOutside_cons.mp hout
      simp [fraction, hdigit']
    · exact fraction_of_startsOutside (startsOutside_cons.mpr (beq_eq_false_iff_ne.mpr hc))

theorem Spaced.endsAlike {rest follow : List Char} (h : Spaced rest follow)
    (hrest : StartsOutside (fun c => isIdentRune c && c != '-') rest) : EndsAlike rest follow := by
  intro cs hcs
  have hdigit : StartsOutside Char.isDigit rest := hcs ▸ unsigned_rest cs
  have hmark : StartsOutside isMark rest := by
    intro c hc
    refine Bool.eq_false_iff.mpr fun hm => ?_
    have hi : (isIdentRune c && c != '-') = false := hrest c hc
    rw [isIdentRune_of_isMark hm] at hi
    cases hi
  have hpoint : (unsigned cs).2 = (digits cs).2 → (fraction (digits cs).2).1 = [] →
      (fraction follow).1 = [] := by
    intro hwhole hplaces
    rw [hcs] at hwhole
    exact h.fraction_eq_nil (hwhole ▸ hplaces)
  have hdigit' := h.startsOutside (fun _ hc => hc.isDigit) hdigit
  have hmark' := h.startsOutside (fun _ hc => hc.isMark) hmark
  exact unsigned_respell cs hdigit' hmark' hpoint

theorem Literal.push_eq_ok {l : Literal} {c : Char} {s rest : List Char}
    (h : l.push c = ⟨.ok s, rest⟩) : ∃ s', l = ⟨.ok s', rest⟩ ∧ s = c :: s' := by
  obtain ⟨read, rest'⟩ := l
  cases read with
  | error reason => cases congrArg Literal.read h
  | ok s' =>
    cases h
    exact ⟨s', rfl, rfl⟩

def ReadsLiteral (read : List Char → Literal) (cs s rest : List Char) : Prop :=
  ∃ body, cs = body ++ rest ∧ ∀ follow, read (body ++ follow) = ⟨.ok s, follow⟩

theorem ReadsLiteral.push {read : List Char → Literal} {cs s rest : List Char} {c : Char}
    (front : List Char) (hfront : ∀ ds, read (front ++ ds) = (read ds).push c)
    (ih : ∀ {s}, read cs = ⟨.ok s, rest⟩ → ReadsLiteral read cs s rest)
    (h : (read cs).push c = ⟨.ok s, rest⟩) : ReadsLiteral read (front ++ cs) s rest := by
  obtain ⟨s', hs, rfl⟩ := Literal.push_eq_ok h
  obtain ⟨body, rfl, hbody⟩ := ih hs
  refine ⟨front ++ body, (List.append_assoc _ _ _).symm, fun follow => ?_⟩
  rw [List.append_assoc, hfront, hbody follow]
  rfl

theorem literal_escape {quote e c : Char} (he : unescape? e = some c) (cs : List Char) :
    literal quote ('\\' :: e :: cs) = (literal quote cs).push c := by
  have hu : e ≠ 'u' := by
    rintro rfl
    cases he
  rw [literal, he]
  · exact fun _ _ _ _ _ h _ => hu h
  · exact hu

theorem ne_backslash {c : Char} {cs : List Char} (hnil : c = '\\' → cs = [] → False)
    (hcons : ∀ d ds, c = '\\' → cs = d :: ds → False) : c ≠ '\\' := by
  intro hc
  cases cs with
  | nil => exact hnil hc rfl
  | cons d ds => exact hcons d ds hc rfl

theorem readsLiteral {quote : Char} {cs s rest : List Char} (h : literal quote cs = ⟨.ok s, rest⟩) :
    ReadsLiteral (literal quote) cs s rest := by
  fun_induction literal quote cs generalizing s with
  | case1 | case2 | case4 | case5 | case7 | case9 => cases congrArg Literal.read h
  | case3 a b c d cs e he ih =>
    have hfront (ds : List Char) :
        literal quote ('\\' :: 'u' :: a :: b :: c :: d :: ds) = (literal quote ds).push e := by
      simp only [literal, he]
    exact .push ['\\', 'u', a, b, c, d] hfront ih h
  | case6 e cs _ _ c he ih => exact .push ['\\', e] (literal_escape he) ih h
  | case8 cs hnil _ _ hcons =>
    cases h
    have hc := ne_backslash hnil hcons
    refine ⟨[quote], rfl, fun follow => ?_⟩
    rw [List.singleton_append, literal_cons hc, if_pos rfl]
  | case10 c cs hnil _ _ hcons hquote hline ih =>
    have hc := ne_backslash hnil hcons
    have hfront (ds : List Char) : literal quote (c :: ds) = (literal quote ds).push c := by
      rw [literal_cons hc, if_neg hquote, if_neg hline]
    exact .push [c] hfront ih h

theorem readsLiteral_raw {cs s rest : List Char} (h : rawLiteral cs = ⟨.ok s, rest⟩) :
    ReadsLiteral rawLiteral cs s rest := by
  fun_induction rawLiteral cs generalizing s with
  | case1 => cases congrArg Literal.read h
  | case2 cs =>
    cases h
    exact ⟨[Char.ofNat 96], rfl, fun follow => rfl⟩
  | case3 c cs hc ih => exact .push [c] (fun ds => if_neg hc) ih h

end Scan

def Token.IsSturdy : Token → Prop
  | .rune c => c ≠ '/' ∧ c ≠ '-'
  | .invalid _ => False
  | _ => True

namespace Scan

def ReadsSpaced (cs : List Char) (t : Token) (rest : List Char) : Prop :=
  ∃ lexeme, lexeme ≠ [] ∧ cs = lexeme ++ rest ∧ ∀ follow, Spaced rest follow → ReadsAs lexeme t follow

theorem Literal.token_eq {l : Literal} {t : Token} {rest : List Char} (h : l.token = (t, rest))
    (ht : t.IsSturdy) : ∃ s, l = ⟨.ok s, rest⟩ ∧ t = .string (String.ofList s) := by
  obtain ⟨read, rest'⟩ := l
  cases read with
  | error reason =>
    cases h
    exact ht.elim
  | ok s =>
    cases h
    exact ⟨s, rfl, rfl⟩

theorem readsSpaced_quoted {quote : Char} {read : List Char → Literal} {cs rest : List Char} {t : Token}
    (hquote : isQuote quote = true) (htoken : ∀ cs, token anyIdent (quote :: cs) = (read cs).token)
    (hread : ∀ {s}, read cs = ⟨.ok s, rest⟩ → ReadsLiteral read cs s rest)
    (h : token anyIdent (quote :: cs) = (t, rest)) (ht : t.IsSturdy) :
    ReadsSpaced (quote :: cs) t rest := by
  rw [htoken] at h
  obtain ⟨s, hs, rfl⟩ := Literal.token_eq h ht
  obtain ⟨body, rfl, hbody⟩ := hread hs
  refine ⟨quote :: body, List.cons_ne_nil _ _, rfl, fun follow _ => ?_⟩
  refine ⟨quote, body ++ follow, rfl, ?_, ?_⟩
  · simp only [isQuote, Bool.or_eq_true, beq_iff_eq] at hquote
    rcases hquote with (rfl | rfl) | rfl
    · exact afterTrivia?_cons rfl (by decide)
    · exact afterTrivia?_cons rfl (by decide)
    · exact afterTrivia?_cons rfl (by decide)
  · rw [htoken, hbody follow]
    rfl

theorem isDigit_of_isReserved {c : Char} (h : isReserved c = true) : c.isDigit = false := by
  have hnone (cs : List Char) (hcs : (cs.all fun d => !d.isDigit) = true)
      (hc : cs.contains c = true) : c.isDigit = false := by
    simpa using List.all_eq_true.mp hcs c (List.contains_iff_mem.mp hc)
  exact hnone _ (by decide) h

theorem readsAs_rune {c : Char} (hblank : Text.isBlank c = false)
    (hreserved : isReserved c = true ∧ isQuote c = false) (hc : (Token.rune c).IsSturdy)
    (follow : List Char) : ReadsAs [c] (.rune c) follow := by
  have hquote : ¬(c = '"' ∨ c = '\'') ∧ c ≠ Char.ofNat 96 := by
    simpa [isQuote, not_or] using hreserved.2
  have hdigit : c.isDigit = false := isDigit_of_isReserved hreserved.1
  have hident : anyIdent c 0 ≠ true := by simp [anyIdent, hreserved.1]
  refine ⟨c, follow, rfl, afterTrivia?_cons hblank hc.1, ?_⟩
  rw [token, if_neg hquote.1, if_neg hquote.2, if_neg (by simp [hdigit, hc.2]), if_neg hident]

theorem startsOutside_anyIdent {cs : List Char} (h : StartsOutside isIdentRune cs) (i : Nat) :
    StartsOutside (anyIdent · i) cs := by
  intro c hc
  have hrune := h c hc
  cases i with
  | zero => simp [anyIdent_zero, hrune]
  | succ i => simp [anyIdent_pos, hrune]

theorem readsSpaced_token {c : Char} {cs rest : List Char} {t : Token} (hstart : StartsLexeme (c :: cs))
    (h : token anyIdent (c :: cs) = (t, rest)) (ht : t.IsSturdy) : ReadsSpaced (c :: cs) t rest := by
  by_cases hq : c = '"' ∨ c = '\''
  · have hquote : isQuote c = true := by simpa [isQuote] using .inl hq
    exact readsSpaced_quoted hquote (fun cs => by rw [token, if_pos hq]) readsLiteral h ht
  by_cases hr : c = Char.ofNat 96
  · subst hr
    exact readsSpaced_quoted rfl (fun cs => by rw [token, if_neg hq, if_pos rfl]) readsLiteral_raw h ht
  obtain ⟨lexeme, hcs, hlexeme⟩ := reads_token hstart
  rw [h] at hcs hlexeme
  refine ⟨lexeme, hlexeme.ne_nil, hcs, fun follow hfollow => ?_⟩
  cases hlexeme with
  | @ident d ds _ _ hrest =>
    have hout := hfollow.startsOutside (p := isIdentRune) (fun _ hc => hc.isIdentRune) hrest
    have hreads : ReadsAs (String.ofList (d :: ds)).toList _ follow :=
      respells_ident h (startsOutside_anyIdent hout)
    rwa [String.toList_ofList] at hreads
  | number _ hrest =>
    have hout := hfollow.startsOutside (fun _ hc => by rw [hc.isIdentRune]; rfl) hrest
    simp only [← anyIdent_pos 0] at hout
    have hreads : ReadsAs (String.ofList lexeme).toList _ follow :=
      respells_number h (hfollow.endsAlike hrest) hout
    rwa [String.toList_ofList] at hreads
  | string hquote =>
    obtain ⟨rfl, -⟩ := List.cons.inj hcs
    simp [isQuote, hq, hr] at hquote
  | rune hc =>
    obtain ⟨rfl, -⟩ := List.cons.inj hcs
    exact readsAs_rune (hstart c cs rfl).1 (hc.resolve_right ht.2) ht follow
  | badLiteral | badNumber | openComment => exact ht.elim

theorem yields_lexeme {space lexeme rest follow : List Char} {t : Token} {ts : List Token}
    (hs : IsTrivia (lexeme ++ rest) space) (hl : lexeme ≠ []) (h : ReadsAs lexeme t follow)
    (hts : Yields anyIdent follow ts) : Yields anyIdent (space ++ (lexeme ++ follow)) (t :: ts) := by
  have hhead : (lexeme ++ follow).head? = (lexeme ++ rest).head? := by
    cases lexeme with
    | nil => exact absurd rfl hl
    | cons c cs => rfl
  exact h.yields (afterTrivia?_append (hs.congr hhead)) hts

end Scan

namespace Cursor

open Scan

def skip (policy : IdentPolicy) : Nat → Cursor → Cursor
  | 0, c => c
  | n + 1, c => skip policy n (c.next policy).2

theorem yields_spaced {c : Cursor} {ts : List Token} (h : Yields anyIdent c.rest ts)
    (hts : ∀ t ∈ ts, t.IsSturdy) {k : Nat} (hk : k < ts.length) :
    ∃ front, c.rest = front ++ (c.skip anyIdent k).rest ∧
      ∀ space, IsTrivia (c.skip anyIdent k).rest space →
        Yields anyIdent (front ++ (space ++ (c.skip anyIdent k).rest)) ts := by
  induction k generalizing c ts with
  | zero =>
    refine ⟨[], rfl, fun space hs => ?_⟩
    exact h.congr (afterTrivia?_append hs)
  | succ k ih =>
    cases h with
    | finished => exact absurd hk (Nat.not_lt_of_le (Nat.succ_le_succ (Nat.zero_le k)))
    | unterminated => exact (hts _ List.mem_cons_self).elim
    | @token _ cs rest d t ts ha ht hrest =>
      obtain ⟨hsturdy, hts⟩ := List.forall_mem_cons.mp hts
      obtain ⟨passed, hpassed, htrivia, hstart⟩ := afterTrivia?_eq_some ha
      obtain ⟨lexeme, hne, hlexeme, hreads⟩ := readsSpaced_token hstart ht hsturdy
      have hnext : (c.next anyIdent).2.rest = rest :=
        congrArg Prod.snd ((next_of_some rfl ha).symm.trans ht)
      obtain ⟨front, hfront, hspaced⟩ := ih (hnext ▸ hrest) hts (Nat.lt_of_succ_lt_succ hk)
      rw [hnext] at hfront
      refine ⟨passed ++ (lexeme ++ front), ?_, fun space hs => ?_⟩
      · rw [hpassed, hlexeme, hfront, List.append_assoc, List.append_assoc]
        rfl
      · have hfollow : Spaced rest (front ++ (space ++ (c.skip anyIdent (k + 1)).rest)) := by
          rw [hfront]
          exact hs.spaced.append front
        have htokens := yields_lexeme (hlexeme ▸ htrivia) hne (hreads _ hfollow) (hspaced space hs)
        rwa [List.append_assoc, List.append_assoc]

end Cursor

end PathQuery
