import PathQuery.Decimal.Reader

namespace PathQuery.Decimal

def IsWhole (cs : List Char) : Prop :=
  cs = ['0'] ∨ (∀ c ∈ cs, c.isDigit = true) ∧ ∃ c ds, cs = c :: ds ∧ c ≠ '0'

theorem isDigit_toDigits (n : Nat) : ∀ c ∈ Nat.toDigits 10 n, c.isDigit = true :=
  fun _ => Nat.isDigit_of_mem_toDigits (by decide) (by decide)

theorem toDigits_head (n : Nat) : n = 0 ∨ ∃ c ds, Nat.toDigits 10 n = c :: ds ∧ c ≠ '0' := by
  induction n using Nat.strongRecOn with
  | ind n ih =>
    rw [Nat.toDigits_eq_if (by decide)]
    split
    · next hn =>
      have hdigit : ∀ n < 10, n = 0 ∨ n.digitChar ≠ '0' := by decide
      exact (hdigit n hn).imp_right fun h => ⟨_, _, rfl, h⟩
    · next hn =>
      rcases ih (n / 10) (by omega) with h | ⟨c, ds, hds, hne⟩
      · omega
      · exact .inr ⟨c, ds ++ [(n % 10).digitChar], by rw [hds]; rfl, hne⟩

theorem isWhole_toDigits (n : Nat) : IsWhole (Nat.toDigits 10 n) := by
  rcases toDigits_head n with rfl | h
  · exact .inl rfl
  · exact .inr ⟨isDigit_toDigits n, h⟩

theorem IsWhole.isDigit {cs : List Char} (h : IsWhole cs) : ∀ c ∈ cs, c.isDigit = true := by
  rcases h with rfl | ⟨h, -⟩
  · exact List.forall_mem_singleton.mpr rfl
  · exact h

theorem IsWhole.take {cs : List Char} (h : IsWhole cs) {n : Nat} (hn : 0 < n) :
    IsWhole (cs.take n) := by
  obtain ⟨n, rfl⟩ := Nat.exists_eq_succ_of_ne_zero (Nat.ne_of_gt hn)
  rcases h with rfl | ⟨hd, c, ds, rfl, hne⟩
  · exact .inl (by simp)
  · exact .inr ⟨fun d hd' => hd d (List.mem_of_mem_take hd'), c, ds.take n, rfl, hne⟩

def padded (n scale : Nat) : List Char :=
  List.replicate (scale + 1 - (Nat.toDigits 10 n).length) '0' ++ Nat.toDigits 10 n

def wholeDigits (n scale : Nat) : List Char :=
  (padded n scale).take ((padded n scale).length - scale)

def fractionDigits (n scale : Nat) : List Char :=
  (padded n scale).drop ((padded n scale).length - scale)

theorem magnitudeText_eq (n scale : Nat) : magnitudeText n scale =
    if scale = 0 then wholeDigits n scale
    else wholeDigits n scale ++ '.' :: fractionDigits n scale := by
  simp [magnitudeText, wholeDigits, fractionDigits, padded, Nat.repr]

theorem lt_length_padded (n scale : Nat) : scale < (padded n scale).length := by
  rw [padded, List.length_append, List.length_replicate]
  omega

theorem isDigit_padded (n scale : Nat) : ∀ c ∈ padded n scale, c.isDigit = true := by
  intro c hc
  rcases List.mem_append.mp hc with h | h
  · obtain rfl := (List.mem_replicate.mp h).2
    rfl
  · exact isDigit_toDigits n c h

theorem ofDigitChars_zeros (k : Nat) (cs : List Char) :
    Nat.ofDigitChars 10 (List.replicate k '0' ++ cs) 0 = Nat.ofDigitChars 10 cs 0 := by
  induction k with
  | zero => rfl
  | succ k ih =>
    rw [List.replicate_succ, List.cons_append, Nat.ofDigitChars_cons]
    exact ih

theorem ofDigitChars_padded (n scale : Nat) : Nat.ofDigitChars 10 (padded n scale) 0 = n := by
  rw [padded, ofDigitChars_zeros, Nat.ofDigitChars_toDigits (by decide) (by decide)]

theorem wholeDigits_append (n scale : Nat) :
    wholeDigits n scale ++ fractionDigits n scale = padded n scale := List.take_append_drop _ _

theorem fractionDigits_length (n scale : Nat) : (fractionDigits n scale).length = scale := by
  have h := lt_length_padded n scale
  rw [fractionDigits, List.length_drop]
  omega

theorem isDigit_fractionDigits (n scale : Nat) :
    ∀ c ∈ fractionDigits n scale, c.isDigit = true :=
  fun c hc => isDigit_padded n scale c (List.mem_of_mem_drop hc)

theorem isWhole_wholeDigits (n scale : Nat) : IsWhole (wholeDigits n scale) := by
  have hlt := lt_length_padded n scale
  by_cases h : scale < (Nat.toDigits 10 n).length
  · have hp : padded n scale = Nat.toDigits 10 n := by
      rw [padded, Nat.sub_eq_zero_of_le h]
      rfl
    rw [wholeDigits, hp]
    exact (isWhole_toDigits n).take (by omega)
  · have hl : (padded n scale).length - scale = 1 := by
      rw [padded, List.length_append, List.length_replicate]
      omega
    obtain ⟨k, hk⟩ := Nat.exists_eq_succ_of_ne_zero
      (Nat.sub_ne_zero_of_lt (Nat.lt_succ_of_le (Nat.le_of_not_lt h)))
    left
    rw [wholeDigits, hl, padded, hk]
    rfl

theorem le_ofDigitChars (cs : List Char) (v : Nat) : v ≤ Nat.ofDigitChars 10 cs v := by
  induction cs generalizing v with
  | nil => exact Nat.le_refl v
  | cons c cs ih =>
    rw [Nat.ofDigitChars_cons]
    exact Nat.le_trans (by omega) (ih _)

section Read

variable {c : Char} {cs rest : List Char} {v s : Nat}

theorem push?_whole {started : Bool} {digit : Nat} (h : v * 10 + digit < bound) :
    Digits.push? ⟨v, s, false, started, false⟩ digit =
      some ⟨v * 10 + digit, s, false, true, false⟩ := by
  simp [Digits.push?, h]

theorem push?_fraction {started : Bool} {digit : Nat} (h : v * 10 + digit < bound)
    (hs : s < maxScale) : Digits.push? ⟨v, s, true, started, false⟩ digit =
      some ⟨v * 10 + digit, s + 1, true, true, false⟩ := by
  simp [Digits.push?, h, hs]

theorem readDigits?_digit {ds ds' : Digits} (hc : c.isDigit = true)
    (h : ds.push? (c.toNat - '0'.toNat) = some ds') (hopen : ds'.full = false) :
    readDigits? ds (c :: cs) = readDigits? ds' cs := by
  simp only [readDigits?, hc, if_true, h, hopen, Bool.false_eq_true, if_false]

theorem ofDigitChars_cons_lt (h : Nat.ofDigitChars 10 (c :: cs) v < bound) :
    v * 10 + (c.toNat - '0'.toNat) < bound ∧
      Nat.ofDigitChars 10 cs (v * 10 + (c.toNat - '0'.toNat)) < bound := by
  rw [Nat.ofDigitChars_cons, Nat.mul_comm] at h
  exact ⟨Nat.lt_of_le_of_lt (le_ofDigitChars cs _) h, h⟩

theorem readDigits?_whole {started : Bool} (hd : ∀ c ∈ cs, c.isDigit = true)
    (h : Nat.ofDigitChars 10 cs v < bound) :
    readDigits? ⟨v, s, false, started, false⟩ (cs ++ rest) =
      readDigits? ⟨Nat.ofDigitChars 10 cs v, s, false, started || !cs.isEmpty, false⟩ rest := by
  induction cs generalizing v started with
  | nil => simp
  | cons c cs ih =>
    obtain ⟨hc, hd⟩ := List.forall_mem_cons.mp hd
    obtain ⟨hv, h⟩ := ofDigitChars_cons_lt h
    rw [List.cons_append, readDigits?_digit hc (push?_whole hv) rfl, ih hd h, Nat.ofDigitChars_cons,
      Nat.mul_comm v 10]
    simp

theorem readDigits?_fraction (hd : ∀ c ∈ cs, c.isDigit = true)
    (h : Nat.ofDigitChars 10 cs v < bound) (hs : s + cs.length ≤ maxScale) :
    readDigits? ⟨v, s, true, true, false⟩ cs =
      some (⟨Nat.ofDigitChars 10 cs v, s + cs.length, true, true, false⟩, []) := by
  induction cs generalizing v s with
  | nil => rfl
  | cons c cs ih =>
    obtain ⟨hc, hd⟩ := List.forall_mem_cons.mp hd
    obtain ⟨hv, h⟩ := ofDigitChars_cons_lt h
    rw [List.length_cons] at hs ⊢
    rw [readDigits?_digit hc (push?_fraction hv (by omega)) rfl, ih hd h (by omega),
      Nat.ofDigitChars_cons, Nat.mul_comm v 10]
    simp only [Option.some.injEq, Prod.mk.injEq, Digits.mk.injEq, and_true, true_and]
    omega

theorem readDigits?_point :
    readDigits? ⟨v, s, false, true, false⟩ ('.' :: cs) = readDigits? ⟨v, s, true, true, false⟩ cs := by
  simp [readDigits?]

end Read

theorem IsWhole.ne_nil {cs : List Char} (h : IsWhole cs) : cs ≠ [] := by
  rintro rfl
  rcases h with h | ⟨-, c, ds, h, -⟩ <;> cases h

theorem readDigits?_magnitudeText {n scale : Nat} (hn : n < bound) (hs : scale ≤ maxScale) :
    readDigits? .empty (magnitudeText n scale) =
      some (⟨n, scale, scale != 0, true, false⟩, []) := by
  have hwhole := isWhole_wholeDigits n scale
  have hlength := fractionDigits_length n scale
  have hvalue : Nat.ofDigitChars 10 (fractionDigits n scale)
      (Nat.ofDigitChars 10 (wholeDigits n scale) 0) = n := by
    rw [← Nat.ofDigitChars_append, wholeDigits_append, ofDigitChars_padded]
  have hlt : Nat.ofDigitChars 10 (wholeDigits n scale) 0 < bound :=
    Nat.lt_of_le_of_lt (le_ofDigitChars _ _) (hvalue.symm ▸ hn)
  have hread : ∀ rest, readDigits? .empty (wholeDigits n scale ++ rest) = readDigits?
      ⟨Nat.ofDigitChars 10 (wholeDigits n scale) 0, 0, false, true, false⟩ rest := fun rest => by
    have hstarted : (false || !(wholeDigits n scale).isEmpty) = true := by simp [hwhole.ne_nil]
    rw [← hstarted]
    exact readDigits?_whole hwhole.isDigit hlt
  rw [magnitudeText_eq]
  split
  · next h0 =>
    obtain rfl := h0
    have hend := hread []
    rw [List.eq_nil_of_length_eq_zero hlength] at hvalue
    rw [List.append_nil] at hend
    rw [hend, show Nat.ofDigitChars 10 (wholeDigits n 0) 0 = n from hvalue]
    rfl
  · next h0 =>
    rw [hread, readDigits?_point, readDigits?_fraction (isDigit_fractionDigits n scale)
      (hvalue.symm ▸ hn) (by omega), hvalue, hlength, Nat.zero_add]
    simp [h0]

def unsignZero (d : Decimal) : Decimal := { d with isNegative := d.isNegative && !d.isZero }

theorem ofParts?_withSign (d : Decimal) :
    ofParts? (withSign d.isNegative d.magnitude) d.scale = some d.unsignZero := by
  have hsign : decide (withSign d.isNegative d.magnitude < 0) = (d.isNegative && !d.isZero) := by
    rw [Bool.eq_iff_iff]
    cases hd : d.isNegative <;> simp [withSign, isZero, Nat.pos_iff_ne_zero]
  rw [ofParts?, natAbs_withSign, hsign, ofSigned?_eq_some]
  exact ⟨rfl, rfl, rfl⟩

theorem signed?_magnitudeText (d : Decimal) : signed? isIgnored d.isNegative
    (magnitudeText d.magnitude d.scale) = some d.unsignZero := by
  rw [signed?, readDigits?_magnitudeText d.magnitude_lt d.scale_le, Option.bind_some]
  exact ofParts?_withSign d

theorem magnitudeText_head (n scale : Nat) :
    ∃ c cs, magnitudeText n scale = c :: cs ∧ c.isDigit = true := by
  have hwhole := isWhole_wholeDigits n scale
  obtain ⟨c, cs, hcs⟩ := List.exists_cons_of_ne_nil hwhole.ne_nil
  have hc : c.isDigit = true := hwhole.isDigit c (hcs ▸ List.mem_cons_self)
  rw [magnitudeText_eq, hcs]
  split
  · exact ⟨c, cs, rfl, hc⟩
  · exact ⟨c, _, rfl, hc⟩

theorem readPlain?_text (d : Decimal) :
    readPlain? isIgnored d.text.toList = some d.unsignZero := by
  have h := signed?_magnitudeText d
  rw [text, String.toList_ofList]
  cases hd : d.isNegative with
  | true =>
    rw [hd] at h
    exact h
  | false =>
    rw [hd] at h
    obtain ⟨c, cs, hcs, hc⟩ := magnitudeText_head d.magnitude d.scale
    rw [hcs] at h ⊢
    unfold readPlain?
    split
    · next heq => obtain rfl := (List.cons.inj heq).1; cases hc
    · next heq => obtain rfl := (List.cons.inj heq).1; cases hc
    · exact h

theorem read?_text (d : Decimal) : read? d.text = some d.unsignZero := by
  rw [read?, readLeaving?, readPlain?_text, Option.some_or]

end PathQuery.Decimal
