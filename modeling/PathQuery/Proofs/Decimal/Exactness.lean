import PathQuery.Proofs.Decimal.Digits
import PathQuery.Value.Json

namespace PathQuery.Decimal

def hasMinus (cs : List Char) : Bool := cs.head? == some '-'

def significandOf (cs : List Char) : ℚ := withSign (hasMinus cs) (digitsOf cs) / tens (placesOf cs)

def significandText (text : String) : List Char := beforeMark text.toList

def exponentText (text : String) : List Char := (text.toList.dropWhile (!isExponentMark ·)).tail

def exponentOf (text : String) : ℤ :=
  withSign (hasMinus (exponentText text)) (digitsOf (exponentText text))

def numberOf (text : String) : ℚ := significandOf (significandText text) * 10 ^ exponentOf text

structure ReadsAs (d : Decimal) (x : ℚ) : Prop where
  near : |d.value - x| ≤ 1 / 2 / tens d.scale
  exact : Held x → d.value = x
  full : d.value ≠ x → maxScale ≤ d.scale ∨ bound ≤ d.magnitude * 10

section Plain

variable {cs : List Char} {d : Decimal} {negative : Bool} {leaves : List Char → Bool}

theorem Rounds.readsAs {digits places v s : Nat} (h : Rounds digits places v s)
    (hd : ofParts? (withSign negative v) s = some d) :
    d.ReadsAs (withSign negative digits / tens places) := by
  obtain ⟨hc, rfl⟩ := ofParts?_eq_some hd
  have hvalue : d.value = withSign negative v / tens d.scale := by rw [value, hc]
  have hmagnitude : d.magnitude = v := by rw [← natAbs_coefficient, hc, natAbs_withSign]
  refine ⟨?_, fun hheld => ?_, fun hne => ?_⟩
  · rw [hvalue, abs_withSign_sub]
    exact h.near
  · rw [hvalue, withSign_div_eq_iff]
    exact h.exact (held_iff_fits.mp hheld)
  · rw [hvalue, Ne, withSign_div_eq_iff] at hne
    rw [hmagnitude]
    exact h.full hne

theorem signed?_eq_some : signed? leaves negative cs = some d ↔
    ∃ ds rest, readDigits? .empty cs = some (ds, rest) ∧ leaves rest = true ∧
      ofParts? (withSign negative ds.value) ds.scale = some d := by
  simp only [signed?, Option.bind_eq_some_iff, Prod.exists, Option.ite_none_right_eq_some]

theorem readDigits?_empty {ds : Digits} {rest : List Char}
    (h : readDigits? .empty cs = some (ds, rest)) :
    ds.Stands (digitsOf (beforeMark cs)) (placesOf (beforeMark cs)) := by
  have hstart : Digits.empty.Stands 0 0 := .all (by decide) (Nat.zero_le _) fun _ => rfl
  have hstands := readDigits?_stands hstart rfl h
  rwa [Nat.zero_add] at hstands

theorem full_eq_isCrowded {ds : Digits} (h : ds.Stands (digitsOf cs) (placesOf cs)) :
    ds.full = isCrowded cs := by
  rw [Bool.eq_iff_iff, h.full_iff]
  simp [isCrowded]

def LeavesUnmarked (leaves : List Char → Bool) (cs : List Char) : Prop :=
  isCrowded cs = true → ∀ rest, leaves rest = true → Unmarked rest

theorem signed?_readsAs (h : signed? leaves negative cs = some d) :
    d.ReadsAs (withSign negative (digitsOf (beforeMark cs)) / tens (placesOf (beforeMark cs))) ∧
      (LeavesUnmarked leaves (beforeMark cs) → Unmarked cs) := by
  obtain ⟨ds, rest, hread, hleaves, hd⟩ := signed?_eq_some.mp h
  have hstands := readDigits?_empty hread
  obtain ⟨hnil, hmarks⟩ := readDigits?_rest rfl hread
  refine ⟨hstands.rounds.readsAs hd, fun hunmarked => hmarks ?_⟩
  cases hfull : ds.full with
  | true => exact hunmarked (full_eq_isCrowded hstands ▸ hfull) rest hleaves
  | false =>
    rw [hnil hfull]
    exact nofun

theorem signed?_append (hleaves : ∀ rest, leaves rest = true)
    (hcrowded : isCrowded (beforeMark cs) = true) (h : signed? leaves negative cs = some d)
    (more : List Char) : signed? leaves negative (cs ++ more) = some d := by
  obtain ⟨ds, rest, hread, -, hd⟩ := signed?_eq_some.mp h
  have hfull : ds.full = true := (full_eq_isCrowded (readDigits?_empty hread)).trans hcrowded
  exact signed?_eq_some.mpr ⟨ds, _, readDigits?_append rfl hread hfull more, hleaves _, hd⟩

theorem hasMinus_eq_false (h : ∀ rest, cs = '-' :: rest → False) : hasMinus cs = false := by
  cases cs with
  | nil => rfl
  | cons c cs => exact beq_false_of_ne fun hc => h cs (by rw [Option.some.inj hc])

theorem hasMinus_beforeMark (cs : List Char) : hasMinus (beforeMark cs) = hasMinus cs := by
  cases cs with
  | nil => rfl
  | cons c cs =>
    cases hc : isExponentMark c with
    | false =>
      rw [beforeMark_cons hc]
      rfl
    | true =>
      have hminus : c ≠ '-' := by rintro rfl; cases hc
      rw [beforeMark, List.takeWhile_cons_of_neg (by simp [hc])]
      exact (beq_false_of_ne fun h => hminus (Option.some.inj h)).symm

theorem isCrowded_sign {sign : Char} (hs : sign.isDigit = false) (hp : sign ≠ '.') :
    isCrowded (sign :: cs) = isCrowded cs := by
  rw [isCrowded, isCrowded, placesOf_cons hp, digitsOf_sign hs]

theorem signed?_sign {sign : Char} (hs : sign.isDigit = false) (hp : sign ≠ '.')
    (he : isExponentMark sign = false) (h : signed? leaves (hasMinus (sign :: cs)) cs = some d) :
    d.ReadsAs (significandOf (beforeMark (sign :: cs))) ∧
      (LeavesUnmarked leaves (beforeMark (sign :: cs)) → Unmarked (sign :: cs)) := by
  obtain ⟨hreads, hmarks⟩ := signed?_readsAs h
  rw [beforeMark_cons he, significandOf, placesOf_cons hp, digitsOf_sign hs, LeavesUnmarked,
    isCrowded_sign hs hp]
  exact ⟨hreads, fun hunmarked => List.forall_mem_cons.mpr ⟨he, hmarks hunmarked⟩⟩

theorem readPlain?_readsAs (h : readPlain? leaves cs = some d) :
    d.ReadsAs (significandOf (beforeMark cs)) ∧
      (LeavesUnmarked leaves (beforeMark cs) → Unmarked cs) := by
  unfold readPlain? at h
  split at h
  · exact signed?_sign rfl (by decide) rfl h
  · exact signed?_sign rfl (by decide) rfl h
  · next hminus =>
    rw [significandOf, hasMinus_beforeMark, hasMinus_eq_false hminus]
    exact signed?_readsAs h

theorem readPlain?_append (hleaves : ∀ rest, leaves rest = true)
    (hcrowded : isCrowded (beforeMark cs) = true) (h : readPlain? leaves cs = some d)
    (more : List Char) : readPlain? leaves (cs ++ more) = some d := by
  unfold readPlain? at h
  split at h
  · rw [beforeMark_cons rfl, isCrowded_sign rfl (by decide)] at hcrowded
    exact signed?_append hleaves hcrowded h more
  · rw [beforeMark_cons rfl, isCrowded_sign rfl (by decide)] at hcrowded
    exact signed?_append hleaves hcrowded h more
  · next hplus hminus =>
    cases cs with
    | nil => cases hcrowded
    | cons c cs =>
      unfold readPlain?
      split
      · next heq => exact (hplus cs (by rw [(List.cons.inj heq).1])).elim
      · next heq => exact (hminus cs (by rw [(List.cons.inj heq).1])).elim
      · exact signed?_append hleaves hcrowded h more

end Plain

def Approximates (d : Decimal) (significand x : ℚ) : Prop :=
  (d.value = x ↔ Held significand ∧ Held x) ∧ |d.value - x| < 1 / tens d.scale

section Shift

variable {b d : Decimal} {x : ℚ} {exponent : Nat}

theorem ReadsAs.approximates (h : d.ReadsAs x) : d.Approximates x x := by
  refine ⟨⟨fun hx => ⟨⟨d, hx⟩, ⟨d, hx⟩⟩, fun hx => h.exact hx.1⟩, ?_⟩
  refine h.near.trans_lt ?_
  have hpos := tens_cast_pos d.scale
  exact (div_lt_div_iff_of_pos_right hpos).mpr (by norm_num)

theorem ReadsAs.approximates_mul {factor : ℚ} (h : b.ReadsAs x) (hf : 0 < factor)
    (hvalue : d.value = b.value * factor)
    (hscale : b.value ≠ x → factor / tens b.scale = 1 / tens d.scale) :
    d.Approximates x (x * factor) := by
  have hiff : d.value = x * factor ↔ b.value = x := by
    rw [hvalue]
    exact mul_left_inj' hf.ne'
  refine ⟨⟨fun hx => ⟨⟨b, hiff.mp hx⟩, ⟨d, hx⟩⟩, fun hx => hiff.mpr (h.exact hx.1)⟩, ?_⟩
  have hpos := tens_cast_pos d.scale
  by_cases hx : b.value = x
  · rw [hiff.mpr hx, sub_self, abs_zero]
    positivity
  · calc |d.value - x * factor| = |b.value - x| * factor := by
          rw [hvalue, ← sub_mul, abs_mul, abs_of_pos hf]
      _ ≤ 1 / 2 / tens b.scale * factor := mul_le_mul_of_nonneg_right h.near hf.le
      _ = 1 / 2 * (1 / tens d.scale) := by
          rw [← hscale hx]
          ring
      _ < 1 / tens d.scale := by
          have hunit : (0 : ℚ) < 1 / tens d.scale := by positivity
          linarith

theorem shiftRight?_approximates (hb : b.ReadsAs x) (h : shiftRight? b exponent = some d) :
    d.Approximates x (x * tens exponent) := by
  unfold shiftRight? at h
  split at h
  · cases h
  · next hmax =>
    split at h
    · next hle =>
      obtain ⟨k, hk⟩ := Nat.exists_eq_add_of_le hle
      obtain ⟨hc, hs⟩ := ofParts?_eq_some h
      have he := tens_cast_ne_zero exponent
      have hd := tens_cast_ne_zero d.scale
      have hscale : (tens b.scale : ℚ) = tens exponent * tens d.scale := by
        rw [hs, hk, Nat.add_sub_cancel_left, tens_add, Nat.cast_mul]
      refine hb.approximates_mul (tens_cast_pos _) ?_ fun _ => ?_
      · rw [value, value, hc, hscale]
        field_simp
      · rw [hscale]
        field_simp
    · next hlt =>
      obtain ⟨k, hk⟩ := Nat.exists_eq_add_of_lt (Nat.not_le.mp hlt)
      have hsub : exponent - b.scale = k + 1 := by omega
      rw [hsub] at h
      obtain ⟨hc, hs⟩ := ofParts?_eq_some h
      have hd := tens_cast_ne_zero b.scale
      refine hb.approximates_mul (tens_cast_pos _) ?_ fun hne => ?_
      · rw [value, value, hc, hs, tens_zero, hk, Nat.add_assoc, tens_add b.scale]
        push_cast
        field_simp
      · -- There is no room for another digit.
        exfalso
        have hmagnitude : d.magnitude = b.magnitude * tens (k + 1) := by
          rw [← natAbs_coefficient, hc, Int.natAbs_mul, natAbs_coefficient, Int.natAbs_natCast]
        have hlt := d.magnitude_lt
        rcases hb.full hne with hfull | hfull
        · omega
        · rw [hmagnitude, tens_succ] at hlt
          have hten := Nat.mul_le_mul_left b.magnitude (Nat.mul_le_mul_right 10 (tens_pos k))
          have hbound : bound = twos 96 := rfl
          omega

theorem value_of_rounded {j : Nat} (hj : b.scale + exponent = maxScale + j)
    (h : ofSigned? b.isNegative (roundDiv .away b.magnitude (tens j)) maxScale = some d) :
    |d.value - b.value / tens exponent| ≤ 1 / 2 / tens maxScale ∧
      (Held (b.value / tens exponent) → d.value = b.value / tens exponent) := by
  obtain ⟨hn, hm, hs⟩ := ofSigned?_eq_some.mp h
  have hvalue : b.value / tens exponent =
      withSign b.isNegative b.magnitude / tens (maxScale + j) := by
    rw [← hj, tens_add, value, coefficient, div_div, Nat.cast_mul]
  have hunit : (b.magnitude : ℚ) / tens (maxScale + j) =
      b.magnitude / tens j / tens maxScale := by
    rw [Nat.add_comm, tens_add, Nat.cast_mul, div_div]
  rw [hvalue, value, coefficient, hn, hm, hs]
  constructor
  · rw [abs_withSign_sub, hunit]
    exact abs_div_sub_div_le (tens_cast_pos _) (abs_roundDiv_sub_le (tens_pos j))
  · intro hheld
    obtain ⟨m, t, -, ht, hfits⟩ := held_iff_fits.mp hheld
    obtain ⟨k, hk⟩ := Nat.exists_eq_add_of_le ht
    have hdvd : tens j ∣ b.magnitude := by
      refine ⟨m * tens k, Nat.eq_of_mul_eq_mul_right (tens_pos t) ?_⟩
      rw [hfits, hk, tens_add, tens_add]
      ring
    rw [withSign_div_eq_iff, roundDiv_of_dvd (tens_pos j) hdvd, hunit,
      Nat.cast_div hdvd (tens_cast_ne_zero j)]

theorem held_mul_tens (d : Decimal) (h : exponent ≤ d.scale) : Held (d.value * tens exponent) := by
  obtain ⟨k, hk⟩ := Nat.exists_eq_add_of_le h
  have hle := d.scale_le
  refine ⟨⟨d.isNegative, d.magnitude, k, d.magnitude_lt, by omega⟩, ?_⟩
  have he := tens_cast_ne_zero exponent
  rw [value, value, coefficient, coefficient, hk, tens_add, Nat.cast_mul]
  field_simp

theorem shiftLeft?_approximates (hb : b.ReadsAs x) (h : shiftLeft? b exponent = some d) :
    d.Approximates x (x / tens exponent) := by
  unfold shiftLeft? at h
  have he := tens_cast_ne_zero exponent
  split at h
  · cases h
  · next hmax =>
    split at h
    · obtain ⟨hn, hm, hs⟩ := ofSigned?_eq_some.mp h
      have hd := tens_cast_ne_zero b.scale
      have hscale : (tens d.scale : ℚ) = tens b.scale * tens exponent := by
        rw [hs, tens_add, Nat.cast_mul]
      rw [div_eq_mul_inv]
      refine hb.approximates_mul (inv_pos.mpr (tens_cast_pos _)) ?_ fun _ => ?_
      · rw [value, value, hscale, coefficient, coefficient, hn, hm]
        field_simp
      · rw [hscale]
        field_simp
    · next hover =>
      obtain ⟨j, hj⟩ := Nat.exists_eq_add_of_lt (Nat.not_le.mp hover)
      rw [Nat.add_assoc] at hj
      rw [hj, Nat.add_sub_cancel_left] at h
      obtain ⟨hnear, hexact⟩ := value_of_rounded hj h
      obtain ⟨-, -, hs⟩ := ofSigned?_eq_some.mp h
      refine ⟨⟨fun hx => ⟨?_, ⟨d, hx⟩⟩, fun hx => ?_⟩, ?_⟩
      · have hheld : Held (d.value * tens exponent) := d.held_mul_tens (by omega)
        rwa [hx, div_mul_cancel₀ _ he] at hheld
      · have hbase := hb.exact hx.1
        rw [← hbase] at hx ⊢
        exact hexact hx.2
      · have hbase : |b.value / tens exponent - x / tens exponent| ≤
            1 / 2 / tens b.scale / tens exponent := abs_div_sub_div_le (tens_cast_pos _) hb.near
        have hsmall : 1 / 2 / tens b.scale / tens exponent < (1 : ℚ) / 2 / tens maxScale := by
          rw [div_div, ← Nat.cast_mul, ← tens_add]
          exact div_lt_div_of_pos_left (by norm_num) (tens_cast_pos _)
            (Nat.cast_lt.mpr (tens_lt_tens (Nat.not_le.mp hover)))
        rw [hs]
        calc |d.value - x / tens exponent|
            ≤ |d.value - b.value / tens exponent| + |b.value / tens exponent - x / tens exponent| :=
              abs_sub_le _ _ _
          _ < 1 / 2 / tens maxScale + 1 / 2 / tens maxScale := by linarith
          _ = 1 / tens maxScale := by ring

end Shift

section Scientific

variable {cs : List Char} {d : Decimal} {text : String} {leaves : List Char → Bool}

theorem digitsOf_of_digits (h : ∀ c ∈ cs, c.isDigit = true) :
    digitsOf cs = Text.decimalValue cs := by
  rw [digitsOf, List.filter_eq_self.mpr h, Text.decimalValue, Text.digitsValue, List.foldl_map,
    Nat.ofDigitChars]
  simp only [Nat.mul_comm]

theorem readExponent?_eq_some {n : Nat} (h : readExponent? cs = some n) : n = digitsOf cs := by
  have hunsigned : ∀ ds : List Char,
      (if ds ≠ [] ∧ ds.all Char.isDigit = true ∧ Text.decimalValue ds < twos 32 then
        some (Text.decimalValue ds) else none) = some n → n = digitsOf ds := by
    intro ds h
    split at h
    · next hread =>
      rw [digitsOf_of_digits (List.all_eq_true.mp hread.2.1)]
      exact (Option.some.inj h).symm
    · cases h
  rw [hunsigned _ h]
  split
  · exact (digitsOf_sign (by decide)).symm
  · rfl

theorem numberOf_eq_mul {n : Nat} (h : exponentOf text = n) :
    numberOf text = significandOf (significandText text) * tens n := by
  rw [numberOf, h, zpow_natCast, tens_cast]

theorem numberOf_eq_div {n : Nat} (h : exponentOf text = -n) :
    numberOf text = significandOf (significandText text) / tens n := by
  rw [numberOf, h, zpow_neg, zpow_natCast, tens_cast, div_eq_mul_inv]

theorem readScientific?_approximates (h : readScientific? leaves text.toList = some d) :
    d.Approximates (significandOf (significandText text)) (numberOf text) ∧
      ∃ base, readPlain? leaves (significandText text) = some base := by
  simp only [readScientific?] at h
  split at h
  · cases h
  · next mark exponent hsplit =>
    obtain ⟨base, hbase, h⟩ := Option.bind_eq_some_iff.mp h
    have hreads := (readPlain?_readsAs hbase).1
    rw [beforeMark_beforeMark] at hreads
    have htext : exponentText text = exponent := congrArg List.tail hsplit
    refine ⟨?_, base, hbase⟩
    split at h
    · next digits =>
      obtain ⟨n, hn, h⟩ := Option.bind_eq_some_iff.mp h
      have hexponent : exponentOf text = -n := by
        rw [exponentOf, htext, digitsOf_sign (by decide), ← readExponent?_eq_some hn]
        rfl
      rw [numberOf_eq_div hexponent]
      exact shiftLeft?_approximates hreads h
    · next hminus =>
      obtain ⟨n, hn, h⟩ := Option.bind_eq_some_iff.mp h
      have hexponent : exponentOf text = n := by
        rw [exponentOf, htext, hasMinus_eq_false hminus, ← readExponent?_eq_some hn]
        rfl
      rw [numberOf_eq_mul hexponent]
      exact shiftRight?_approximates hreads h

theorem numberOf_unmarked (h : Unmarked text.toList) :
    numberOf text = significandOf (significandText text) := by
  have hall : ∀ c ∈ text.toList, (!isExponentMark c) = true := fun c hc => by simp [h c hc]
  have hexponent : exponentOf text = (0 : Nat) := by
    rw [exponentOf, exponentText, List.dropWhile_eq_nil_iff.mpr hall]
    rfl
  rw [numberOf_eq_mul hexponent, tens_zero, Nat.cast_one, mul_one]

theorem readPlain?_approximates (h : readPlain? leaves text.toList = some d) :
    d.Approximates (significandOf (significandText text)) (significandOf (significandText text)) ∧
      (LeavesUnmarked leaves (significandText text) →
        numberOf text = significandOf (significandText text)) := by
  obtain ⟨hreads, hmarks⟩ := readPlain?_readsAs h
  exact ⟨hreads.approximates, fun hunmarked => numberOf_unmarked (hmarks hunmarked)⟩

theorem unmarked_of_isIgnored {rest : List Char} (h : isIgnored rest = true) : Unmarked rest := by
  intro c hc
  rcases Bool.or_eq_true_iff.mp (List.all_eq_true.mp h c hc) with hdigit | hskip
  · exact isExponentMark_of_isDigit hdigit
  · rw [beq_iff_eq.mp hskip]
    rfl

theorem read?_approximates (h : read? text = some d) :
    d.Approximates (significandOf (significandText text)) (numberOf text) := by
  rcases Option.or_eq_some_iff.mp h with hplain | ⟨-, hscientific⟩
  · obtain ⟨happrox, hnumber⟩ := readPlain?_approximates hplain
    rwa [hnumber fun _ _ => unmarked_of_isIgnored]
  · exact (readScientific?_approximates hscientific).1

theorem readLeaving?_approximates (h : readLeaving? (fun _ => true) text = some d) :
    d.Approximates (significandOf (significandText text))
      (if isCrowded (significandText text) then significandOf (significandText text)
        else numberOf text) := by
  rcases Option.or_eq_some_iff.mp h with hplain | ⟨hnone, hscientific⟩
  · obtain ⟨happrox, hnumber⟩ := readPlain?_approximates hplain
    split
    · exact happrox
    · next hcrowded =>
      rwa [hnumber fun h => absurd h hcrowded]
  · obtain ⟨happrox, base, hbase⟩ := readScientific?_approximates hscientific
    split
    · next hcrowded =>
      -- The significand alone would have been read before.
      rw [significandText, ← beforeMark_beforeMark] at hcrowded
      have hplain := readPlain?_append (fun _ => rfl) hcrowded hbase
        (text.toList.dropWhile (!isExponentMark ·))
      rw [beforeMark, List.takeWhile_append_dropWhile] at hplain
      rw [hplain] at hnone
      cases hnone
    · exact happrox

end Scientific

theorem read_value {text : String} {d : Decimal} :
    (Decimal.read text = .ok d →
      d.Approximates (significandOf (significandText text)) (numberOf text)) ∧
    (readLeaving? (fun _ => true) text = some d →
      d.Approximates (significandOf (significandText text))
        (if isCrowded (significandText text) then significandOf (significandText text)
          else numberOf text)) := by
  refine ⟨fun h => ?_, readLeaving?_approximates⟩
  unfold Decimal.read at h
  split at h
  · next d' hread =>
    obtain rfl := Except.ok.inj h
    exact read?_approximates hread
  · cases h

example : (read? "1.23456789012345678901234567895e1").map text =
      some "12.345678901234567890123456790" ∧
    (readLeaving? (fun _ => true) "1.23456789012345678901234567895e1").map text =
      some "1.2345678901234567890123456790" := by decide +kernel

theorem read_value_exponent :
    (∃ d, Decimal.read "-12.50e1" = .ok d ∧ d.text = "-125.0" ∧ d.value = numberOf "-12.50e1") ∧
    ∃ d, readLeaving? (fun _ => true) "0.12345678901234567890123456789e5" = some d ∧
      d.text = "0.1234567890123456789012345679" ∧
      |d.value - significandOf (significandText "0.12345678901234567890123456789e5")| <
        1 / tens d.scale := by
  constructor
  · have h : Decimal.read "-12.50e1" = .ok ⟨true, 1250, 1, by decide, by decide⟩ := rfl
    have hnumber : numberOf "-12.50e1" = (withSign true 1250 : ℚ) / tens 2 * tens 1 :=
      numberOf_eq_mul (n := 1) rfl
    have hsignificand : Held (significandOf (significandText "-12.50e1")) :=
      ⟨⟨true, 1250, 2, by decide, by decide⟩, rfl⟩
    have hheld : Held (numberOf "-12.50e1") := by
      rw [hnumber]
      exact held_mul_tens ⟨true, 1250, 2, by decide, by decide⟩ (by decide)
    exact ⟨_, h, by decide +kernel, (read_value.1 h).1.mpr ⟨hsignificand, hheld⟩⟩
  · have h : readLeaving? (fun _ => true) "0.12345678901234567890123456789e5" =
        some ⟨false, 1234567890123456789012345679, 28, by decide, by decide⟩ := by decide +kernel
    have hcrowded : isCrowded (significandText "0.12345678901234567890123456789e5") = true := by
      decide +kernel
    have happrox := read_value.2 h
    rw [if_pos hcrowded] at happrox
    exact ⟨_, h, by decide +kernel, happrox.2⟩

theorem read_value_rounded : ∃ d, Decimal.read "0.12345678901234567890123456789" = .ok d ∧
    d.text = "0.1234567890123456789012345679" ∧
    ¬Held (numberOf "0.12345678901234567890123456789") ∧
    d.value ≠ numberOf "0.12345678901234567890123456789" := by
  have h : Decimal.read "0.12345678901234567890123456789" =
      .ok ⟨false, 1234567890123456789012345679, 28, by decide, by decide⟩ := by decide +kernel
  have hnumber : numberOf "0.12345678901234567890123456789" =
      (withSign false 12345678901234567890123456789 : ℚ) / tens 29 * tens 0 :=
    numberOf_eq_mul (n := 0) rfl
  have hheld : ¬Held (numberOf "0.12345678901234567890123456789") := by
    rw [hnumber, tens_zero, Nat.cast_one, mul_one, held_iff_fits]
    have hcut : ¬Fits ((1234567890123456789012345678 * 10 + 9) * tens 0 + 0) (28 + 1 + 0) :=
      not_fits_cut (.inl (Nat.le_refl 28)) (by decide) (by decide) (by decide)
    exact hcut
  exact ⟨_, h, by decide +kernel, hheld, fun hvalue => hheld ⟨_, hvalue⟩⟩

end PathQuery.Decimal
