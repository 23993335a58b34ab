import PathQuery.Json.Printer
import PathQuery.Json.Token
import PathQuery.Proofs.Decimal.Text
import PathQuery.Proofs.Scan.Respelling

namespace PathQuery.Json

open Scan (StartsOutside startsOutside_cons startsOutside_nil)

theorem unit?_hex4 : ∀ n < 32, unit? (Text.hexDigit (n / 4096)) (Text.hexDigit (n / 256))
    (Text.hexDigit (n / 16)) (Text.hexDigit n) = some n := by decide

theorem stringBody?_escape (c : Char) (cs : List Char) :
    stringBody? (escape c ++ cs) = (stringBody? cs).map fun (s, rest) => (c :: s, rest) := by
  unfold escape
  split
  case h_8 hquote hbackslash _ _ _ _ _ =>
    split
    · next h =>
      have hu := unit?_hex4 c.toNat h
      have hhigh : isHighSurrogate c.toNat = false := by simp [isHighSurrogate]; omega
      have hlow : isLowSurrogate c.toNat = false := by simp [isLowSurrogate]; omega
      simp only [Text.hex4, List.cons_append, List.nil_append, stringBody?, hu, hhigh, hlow,
        Char.ofNat_toNat]
      rfl
    · next h =>
      rw [List.singleton_append, stringBody?.eq_def]
      split
      · simp_all
      · simp_all
      · simp_all
      · simp_all
      · next heq =>
        obtain ⟨rfl, rfl⟩ := List.cons.inj heq
        rw [if_neg h]
  all_goals rfl

theorem stringBody?_flatMap_escape (s cs : List Char) :
    stringBody? (s.flatMap escape ++ '"' :: cs) = some (s, cs) := by
  induction s with
  | nil => rfl
  | cons c s ih => rw [List.flatMap_cons, List.append_assoc, stringBody?_escape, ih]; rfl

theorem first?_stringText (s : String) (cs : List Char) :
    first? (stringText s ++ cs) = some (.string s, cs) := by
  have h := stringBody?_flatMap_escape s.toList cs
  rw [stringText, List.cons_append, List.cons_append, List.append_assoc, List.singleton_append]
  simp only [first?, h, Option.map_some, String.ofList_toList]

def isNumberPart (c : Char) : Bool := c.isDigit || c == '.' || c == 'e' || c == 'E'

section Number

variable {cs follow : List Char}

theorem digits?_append (hd : ∀ c ∈ cs, c.isDigit = true) (hne : cs ≠ [])
    (hf : StartsOutside Char.isDigit follow) : digits? (cs ++ follow) = some (cs, follow) := by
  have hn : follow.takeWhile Char.isDigit = [] ∧ follow.dropWhile Char.isDigit = follow := by
    cases follow with
    | nil => exact ⟨rfl, rfl⟩
    | cons c follow => simp [startsOutside_cons.mp hf]
  rw [digits?, List.takeWhile_append_of_pos hd, List.dropWhile_append_of_pos hd, hn.1, hn.2,
    List.append_nil]
  cases cs with
  | nil => exact absurd rfl hne
  | cons c cs => rfl

theorem wholeNumber?_append (h : Decimal.IsWhole cs) (hf : StartsOutside Char.isDigit follow) :
    wholeNumber? (cs ++ follow) = some (cs, follow) := by
  rcases h with rfl | ⟨hd, c, ds, rfl, hne⟩
  · rfl
  · rw [← digits?_append hd nofun hf, wholeNumber?.eq_def]
    split
    · next heq => exact absurd (List.cons.inj heq).1 hne
    · rfl

theorem fraction?_append (hd : ∀ c ∈ cs, c.isDigit = true) (hne : cs ≠ [])
    (hf : StartsOutside Char.isDigit follow) :
    fraction? ('.' :: cs ++ follow) = some ('.' :: cs, follow) := by
  simp only [fraction?, List.cons_append, digits?_append hd hne hf, Option.map_some]

theorem fraction?_of_startsOutside (hf : StartsOutside isNumberPart follow) :
    fraction? follow = some ([], follow) := by
  unfold fraction?
  split
  · exact absurd (startsOutside_cons.mp hf) (by decide)
  · rfl

theorem exponent?_of_startsOutside (hf : StartsOutside isNumberPart follow) :
    exponent? follow = some ([], follow) := by
  cases follow with
  | nil => rfl
  | cons c follow =>
    have hc : ¬(c = 'e' ∨ c = 'E') := by
      rintro (rfl | rfl) <;> exact absurd (startsOutside_cons.mp hf) (by decide)
    simp only [exponent?, hc, if_false]

theorem isDigit_startsOutside (hf : StartsOutside isNumberPart follow) :
    StartsOutside Char.isDigit follow := fun c hc => by
  have h := hf c hc
  simp only [isNumberPart, Bool.or_eq_false_iff] at h
  exact h.1.1.1

theorem unsigned?_of_parts {w f e cs' cs'' rest : List Char} (hw : wholeNumber? cs = some (w, cs'))
    (hf : fraction? cs' = some (f, cs'')) (he : exponent? cs'' = some (e, rest)) :
    unsigned? cs = some (w ++ f ++ e, rest) := by
  simp [unsigned?, hw, hf, he]

theorem unsigned?_magnitudeText (n scale : Nat) (hf : StartsOutside isNumberPart follow) :
    unsigned? (Decimal.magnitudeText n scale ++ follow) =
      some (Decimal.magnitudeText n scale, follow) := by
  have hwhole := Decimal.isWhole_wholeDigits n scale
  have hlength := Decimal.fractionDigits_length n scale
  have hdigit := isDigit_startsOutside hf
  rw [Decimal.magnitudeText_eq]
  split
  · simpa using unsigned?_of_parts (wholeNumber?_append hwhole hdigit)
      (fraction?_of_startsOutside hf) (exponent?_of_startsOutside hf)
  · next hs =>
    have hne : Decimal.fractionDigits n scale ≠ [] := fun h => by simp [h] at hlength; omega
    have hpoint : StartsOutside Char.isDigit
        ('.' :: Decimal.fractionDigits n scale ++ follow) := startsOutside_cons.mpr rfl
    rw [List.append_assoc]
    simpa using unsigned?_of_parts (wholeNumber?_append hwhole hpoint)
      (fraction?_append (Decimal.isDigit_fractionDigits n scale) hne hdigit)
      (exponent?_of_startsOutside hf)

theorem first?_of_number {c : Char} (h : c.isDigit = true ∨ c = '-') :
    first? (c :: cs) = (numberText? (c :: cs)).map fun (ds, rest) =>
      (.number (String.ofList ds), rest) := by
  have hne : ∀ c' : Char, c'.isDigit = false → c' ≠ '-' → c ≠ c' := by
    rintro c' hd hm rfl
    rcases h with h | h
    · exact absurd (hd.symm.trans h) nofun
    · exact hm h
  rw [first?.eq_def]
  split
  case h_11 => rfl
  all_goals
    next heq => exact absurd (List.cons.inj heq).1 (hne _ (by decide) (by decide))

end Number

def IsNumber (text : String) : Prop := ∃ c cs, text.toList = c :: cs ∧ isSpace c = false ∧
  ∀ follow, StartsOutside isNumberPart follow →
    first? (c :: cs ++ follow) = some (.number text, follow)

theorem isSpace_of_number {c : Char} (h : c.isDigit = true ∨ c = '-') : isSpace c = false := by
  cases hs : isSpace c with
  | false => rfl
  | true =>
    simp only [isSpace, Bool.or_eq_true, beq_iff_eq] at hs
    rcases hs with ((rfl | rfl) | rfl) | rfl <;> simp at h

theorem numberText?_of_digit {c : Char} {cs : List Char} (h : c.isDigit = true) :
    numberText? (c :: cs) = unsigned? (c :: cs) := by
  rw [numberText?.eq_def]
  split
  · next heq => obtain rfl := (List.cons.inj heq).1; cases h
  · rfl

theorem numberText?_text (d : Decimal) {follow : List Char}
    (hf : StartsOutside isNumberPart follow) :
    numberText? (d.text.toList ++ follow) = some (d.text.toList, follow) := by
  have h := unsigned?_magnitudeText d.magnitude d.scale hf
  obtain ⟨c, cs, hcs, hc⟩ := Decimal.magnitudeText_head d.magnitude d.scale
  rw [Decimal.text, String.toList_ofList]
  cases d.isNegative with
  | true => simp [numberText?, h]
  | false =>
    rw [hcs] at h
    simp only [hcs, Bool.false_eq_true, if_false]
    exact (numberText?_of_digit hc).trans h

theorem text_head (d : Decimal) :
    ∃ c cs, d.text.toList = c :: cs ∧ (c.isDigit = true ∨ c = '-') := by
  obtain ⟨c, cs, hcs, hc⟩ := Decimal.magnitudeText_head d.magnitude d.scale
  rw [Decimal.text, String.toList_ofList]
  cases d.isNegative with
  | true => exact ⟨_, _, rfl, .inr rfl⟩
  | false => exact ⟨c, cs, hcs, .inl hc⟩

theorem isNumber_text (d : Decimal) : IsNumber d.text := by
  obtain ⟨c, cs, hcs, hc⟩ := text_head d
  refine ⟨c, cs, hcs, isSpace_of_number hc, fun follow hf => ?_⟩
  have h := numberText?_text d hf
  rw [List.cons_append, first?_of_number hc, ← List.cons_append, ← hcs, h]
  simp

-- The tokens of the text; the bound on their number is not met.
def Lexes (cs : List Char) (ts : List Token) : Prop :=
  ∀ fuel, cs.length ≤ fuel → tokensWithin? fuel cs = some ts

section Lexes

variable {c : Char} {cs follow : List Char} {t : Token} {ts : List Token}

theorem Lexes.tokens? (h : Lexes cs ts) : tokens? cs = some ts := h _ (Nat.le_refl _)

theorem lexes_nil : Lexes [] [] := by
  intro fuel _
  cases fuel <;> rfl

theorem Lexes.space (h : Lexes cs ts) (hc : isSpace c = true) : Lexes (c :: cs) ts := by
  intro fuel hfuel
  obtain ⟨fuel, rfl⟩ := Nat.exists_eq_succ_of_ne_zero
    (Nat.ne_of_gt (Nat.lt_of_lt_of_le (Nat.succ_pos _) hfuel))
  rw [← h (fuel + 1) (Nat.le_of_succ_le hfuel)]
  simp only [tokensWithin?, List.dropWhile_cons_of_pos hc]

theorem Lexes.spaces {blanks : List Char} (h : Lexes cs ts) (hb : ∀ c ∈ blanks, isSpace c = true) :
    Lexes (blanks ++ cs) ts := by
  induction blanks with
  | nil => exact h
  | cons b blanks ih =>
    obtain ⟨hb, hbs⟩ := List.forall_mem_cons.mp hb
    exact (ih hbs).space hb

theorem Lexes.token (h : Lexes follow ts) (c : Char) (cs : List Char) (hc : isSpace c = false)
    (ht : first? (c :: cs ++ follow) = some (t, follow)) : Lexes (c :: cs ++ follow) (t :: ts) := by
  intro fuel hfuel
  rw [List.cons_append, List.length_cons, List.length_append] at hfuel
  obtain ⟨fuel, rfl⟩ := Nat.exists_eq_succ_of_ne_zero
    (Nat.ne_of_gt (Nat.lt_of_lt_of_le (Nat.succ_pos _) hfuel))
  have hrest := h fuel (by omega)
  rw [List.cons_append] at ht ⊢
  simp [tokensWithin?, hc, ht, hrest]

theorem Lexes.string (h : Lexes follow ts) (s : String) :
    Lexes (stringText s ++ follow) (.string s :: ts) :=
  h.token '"' _ rfl (first?_stringText s follow)

theorem Lexes.number (h : Lexes follow ts) {text : String} (hn : IsNumber text)
    (hf : StartsOutside isNumberPart follow) : Lexes (text.toList ++ follow) (.number text :: ts) := by
  obtain ⟨c, cs, hcs, hc, ht⟩ := hn
  rw [hcs]
  exact h.token c cs hc (ht follow hf)

end Lexes

mutual

def tokens : Json → List Token
  | .null => [.null]
  | .bool b => [.bool b]
  | .number text => [.number text]
  | .string s => [.string s]
  | .array [] => [.openArray, .closeArray]
  | .array (j :: items) => .openArray :: (tokens j ++ itemTokens items ++ [.closeArray])
  | .object [] => [.openObject, .closeObject]
  | .object ((name, j) :: members) =>
    .openObject :: .string name :: .colon :: (tokens j ++ memberTokens members ++ [.closeObject])

def itemTokens : List Json → List Token
  | [] => []
  | j :: items => .comma :: (tokens j ++ itemTokens items)

def memberTokens : List (String × Json) → List Token
  | [] => []
  | (name, j) :: members => .comma :: .string name :: .colon :: (tokens j ++ memberTokens members)

end

mutual

def HasNumbers : Json → Prop
  | .number text => IsNumber text
  | .array items => HaveNumbers items
  | .object members => MembersHaveNumbers members
  | _ => True

def HaveNumbers : List Json → Prop
  | [] => True
  | j :: items => HasNumbers j ∧ HaveNumbers items

def MembersHaveNumbers : List (String × Json) → Prop
  | [] => True
  | (_, j) :: members => HasNumbers j ∧ MembersHaveNumbers members

end

structure Layout.IsBlank (l : Layout) : Prop where
  newline : ∀ depth, ∀ c ∈ l.newline depth, isSpace c = true
  colon : ∃ blanks, l.colon = ':' :: blanks ∧ ∀ c ∈ blanks, isSpace c = true

theorem compact_isBlank : compact.IsBlank := ⟨fun _ => nofun, [], rfl, nofun⟩

theorem indented_isBlank : indented.IsBlank where
  newline depth c hc := by
    rcases List.mem_cons.mp hc with rfl | hc
    · rfl
    · obtain rfl := (List.mem_replicate.mp hc).2
      rfl
  colon := ⟨[' '], rfl, List.forall_mem_singleton.mpr rfl⟩

def EndsNumber (cs : List Char) : Prop := StartsOutside isNumberPart cs

section Layout

variable {l : Layout} {follow : List Char} {ts : List Token}

theorem endsNumber_blanks {blanks : List Char} (hb : ∀ c ∈ blanks, isSpace c = true)
    (hf : EndsNumber follow) : EndsNumber (blanks ++ follow) := by
  cases blanks with
  | nil => exact hf
  | cons c blanks =>
    have hc := hb c List.mem_cons_self
    simp only [isSpace, Bool.or_eq_true, beq_iff_eq] at hc
    rcases hc with ((rfl | rfl) | rfl) | rfl <;> exact startsOutside_cons.mpr rfl

theorem endsNumber_itemChars {depth : Nat} (items : List Json) (hf : EndsNumber follow) :
    EndsNumber (itemChars l depth items ++ follow) := by
  cases items with
  | nil => rw [itemChars]; exact hf
  | cons j items => rw [itemChars]; exact startsOutside_cons.mpr rfl

theorem endsNumber_memberChars {depth : Nat} (members : List (String × Json))
    (hf : EndsNumber follow) :
    EndsNumber (memberChars l depth members ++ follow) := by
  cases members with
  | nil => rw [memberChars]; exact hf
  | cons m members => rw [memberChars]; exact startsOutside_cons.mpr rfl

theorem Lexes.colon (h : Lexes follow ts) (hl : l.IsBlank) :
    Lexes (l.colon ++ follow) (.colon :: ts) := by
  obtain ⟨blanks, hcolon, hblanks⟩ := hl.colon
  rw [hcolon]
  exact (h.spaces hblanks).token ':' [] rfl rfl

theorem Lexes.close (h : Lexes follow ts) (hl : l.IsBlank) (depth : Nat) (c : Char) (t : Token)
    (hc : isSpace c = false ∧ isNumberPart c = false) (ht : first? (c :: follow) = some (t, follow)) :
    Lexes (l.newline depth ++ c :: follow) (t :: ts) ∧
      EndsNumber (l.newline depth ++ c :: follow) :=
  ⟨(h.token c [] hc.1 ht).spaces (hl.newline depth),
    endsNumber_blanks (hl.newline depth) (startsOutside_cons.mpr hc.2)⟩

mutual

theorem lexes_chars (hl : l.IsBlank) : ∀ (j : Json) (depth : Nat) {follow : List Char}
    {ts : List Token}, j.HasNumbers → EndsNumber follow → Lexes follow ts →
    Lexes (chars l depth j ++ follow) (j.tokens ++ ts)
  | .null, _, _, _, _, _, h => h.token 'n' ['u', 'l', 'l'] rfl rfl
  | .bool true, _, _, _, _, _, h => h.token 't' ['r', 'u', 'e'] rfl rfl
  | .bool false, _, _, _, _, _, h => h.token 'f' ['a', 'l', 's', 'e'] rfl rfl
  | .number text, _, _, _, hn, hf, h => h.number hn hf
  | .string s, _, _, _, _, _, h => h.string s
  | .array [], _, _, _, _, _, h => (h.token ']' [] rfl rfl).token '[' [] rfl rfl
  | .array (j :: items), depth, follow, ts, hn, hf, h => by
    obtain ⟨hclose, hends⟩ := h.close hl depth ']' .closeArray ⟨rfl, rfl⟩ rfl
    have hitems := lexes_itemChars hl items (depth + 1) hn.2 hends hclose
    have hfirst := lexes_chars hl j (depth + 1) hn.1 (endsNumber_itemChars items hends) hitems
    simpa [chars, tokens] using (hfirst.spaces (hl.newline (depth + 1))).token '[' [] rfl rfl
  | .object [], _, _, _, _, _, h => (h.token '\x7d' [] rfl rfl).token '\x7b' [] rfl rfl
  | .object ((name, j) :: members), depth, follow, ts, hn, hf, h => by
    obtain ⟨hclose, hends⟩ :=
      h.close hl depth '\x7d' .closeObject ⟨rfl, rfl⟩ rfl
    have hmembers := lexes_memberChars hl members (depth + 1) hn.2 hends hclose
    have hfirst := lexes_chars hl j (depth + 1) hn.1 (endsNumber_memberChars members hends) hmembers
    have hname := ((hfirst.colon hl).string name).spaces (hl.newline (depth + 1))
    simpa [chars, tokens] using hname.token '\x7b' [] rfl rfl
termination_by structural j => j

theorem lexes_itemChars (hl : l.IsBlank) : ∀ (items : List Json) (depth : Nat)
    {follow : List Char} {ts : List Token}, HaveNumbers items → EndsNumber follow →
    Lexes follow ts → Lexes (itemChars l depth items ++ follow) (itemTokens items ++ ts)
  | [], _, _, _, _, _, h => h
  | j :: items, depth, follow, ts, hn, hf, h => by
    have hitems := lexes_itemChars hl items depth hn.2 hf h
    have hfirst := lexes_chars hl j depth hn.1 (endsNumber_itemChars items hf) hitems
    simpa [itemChars, itemTokens] using
      (hfirst.spaces (hl.newline depth)).token ',' [] rfl rfl
termination_by structural items => items

theorem lexes_memberChars (hl : l.IsBlank) : ∀ (members : List (String × Json)) (depth : Nat)
    {follow : List Char} {ts : List Token}, MembersHaveNumbers members → EndsNumber follow →
    Lexes follow ts → Lexes (memberChars l depth members ++ follow) (memberTokens members ++ ts)
  | [], _, _, _, _, _, h => h
  | (name, j) :: members, depth, follow, ts, hn, hf, h => by
    have hmembers := lexes_memberChars hl members depth hn.2 hf h
    have hfirst := lexes_chars hl j depth hn.1 (endsNumber_memberChars members hf) hmembers
    have hname := ((hfirst.colon hl).string name).spaces (hl.newline depth)
    simpa [memberChars, memberTokens] using hname.token ',' [] rfl rfl
termination_by structural members => members

end

end Layout

end PathQuery.Json
