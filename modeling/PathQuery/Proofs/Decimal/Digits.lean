import Mathlib.Data.List.TakeWhile
import Mathlib.Tactic.NormNum
import PathQuery.Decimal.Reader
import PathQuery.Proofs.Decimal.Value

namespace PathQuery.Decimal

def digitsOf (cs : List Char) : Nat := Nat.ofDigitChars 10 (cs.filter Char.isDigit) 0

def placesOf (cs : List Char) : Nat := ((cs.dropWhile (· != '.')).filter Char.isDigit).length

def isCrowded (cs : List Char) : Bool := maxScale < placesOf cs || bound ≤ digitsOf cs

def Unmarked (cs : List Char) : Prop := ∀ c ∈ cs, isExponentMark c = false

inductive Digits.Stands : Digits → Nat → Nat → Prop
  | all {v s : Nat} {afterPoint started : Bool} (hv : v < bound) (hs : s ≤ maxScale)
      (hwhole : afterPoint = false → s = 0) :
      Digits.Stands ⟨v, s, afterPoint, started, false⟩ v s
  -- From one digit on they did not fit any more.
  | cut {v s p places digit n rest : Nat} {started : Bool} (hp : p < bound) (hdigit : digit < 10)
      (hfull : maxScale ≤ places ∨ bound ≤ p * 10 + digit)
      (hv : if 5 ≤ digit then roundUp? p places = some (v, s) else (p, places) = (v, s))
      (hrest : rest < tens n) :
      Digits.Stands ⟨v, s, true, started, true⟩ ((p * 10 + digit) * tens n + rest) (places + 1 + n)

theorem digit_lt {c : Char} (h : c.isDigit = true) : c.toNat - '0'.toNat < 10 := by
  simp only [Char.isDigit, Bool.and_eq_true, decide_eq_true_eq] at h
  have hle : c.toNat ≤ 57 := UInt32.le_iff_toNat_le.mp h.2
  have hzero : '0'.toNat = 48 := rfl
  omega

namespace Digits.Stands

variable {ds ds' : Digits} {v s digit : Nat}

theorem cut_first {started : Bool} {v' s' : Nat} (hv : v < bound) (hdigit : digit < 10)
    (hfull : maxScale ≤ s ∨ bound ≤ v * 10 + digit)
    (hv' : if 5 ≤ digit then roundUp? v s = some (v', s') else (v, s) = (v', s')) :
    Digits.Stands ⟨v', s', true, started, true⟩ (v * 10 + digit) (s + 1) := by
  have hcut : Digits.Stands ⟨v', s', true, started, true⟩
      ((v * 10 + digit) * tens 0 + 0) (s + 1 + 0) :=
    .cut hv hdigit hfull hv' (tens_pos 0)
  rwa [tens_zero, Nat.mul_one] at hcut

theorem push (h : ds.Stands v s) (hopen : ds.full = false) (hdigit : digit < 10)
    (hp : ds.push? digit = some ds') :
    ds'.Stands (v * 10 + digit) (if ds.afterPoint then s + 1 else s) ∧
      ds'.afterPoint = ds.afterPoint := by
  cases h with
  | @all _ _ afterPoint started hv hs hwhole =>
    simp only [Digits.push?] at hp
    cases afterPoint with
    | false =>
      simp only [Bool.false_eq_true, if_false] at hp ⊢
      split at hp
      · next hnext =>
        obtain rfl := Option.some.inj hp
        exact ⟨.all hnext hs hwhole, rfl⟩
      · cases hp
    | true =>
      simp only [if_true] at hp ⊢
      split at hp
      · next hnext =>
        obtain rfl := Option.some.inj hp
        exact ⟨.all hnext.2 hnext.1 nofun, rfl⟩
      · next hnext =>
        have hfull : maxScale ≤ s ∨ bound ≤ v * 10 + digit := by omega
        split at hp
        · next hup =>
          obtain ⟨⟨v', s'⟩, hround, rfl⟩ := Option.map_eq_some_iff.mp hp
          exact ⟨cut_first hv hdigit hfull (by rwa [if_pos hup]), rfl⟩
        · next hdown =>
          obtain rfl := Option.some.inj hp
          exact ⟨cut_first hv hdigit hfull (by rw [if_neg hdown]), rfl⟩
  | cut => cases hopen

theorem afterPoint (h : ds.Stands v s) (hfull : ds.full = true) : ds.afterPoint = true := by
  cases h with
  | all => cases hfull
  | cut => rfl

theorem leave (h : ds.Stands v s) (hfull : ds.full = true) (hdigit : digit < 10) :
    ds.Stands (v * 10 + digit) (s + 1) := by
  cases h with
  | all => cases hfull
  | @cut _ _ p places d n rest started hp hd hcut hv hrest =>
    have hmore : rest * 10 + digit < tens (n + 1) := by
      rw [tens_succ]
      omega
    have hnumber : ((p * 10 + d) * tens n + rest) * 10 + digit =
        (p * 10 + d) * tens (n + 1) + (rest * 10 + digit) := by
      rw [tens_succ]
      ring
    rw [hnumber]
    exact .cut hp hd hcut hv hmore

theorem leaveAll (h : ds.Stands v s) (hfull : ds.full = true) {digits : List Char}
    (hdigits : ∀ c ∈ digits, c.isDigit = true) :
    ds.Stands (Nat.ofDigitChars 10 digits v) (s + digits.length) := by
  induction digits generalizing v s with
  | nil => exact h
  | cons c digits ih =>
    obtain ⟨hc, hdigits⟩ := List.forall_mem_cons.mp hdigits
    have hrest := ih (h.leave hfull (digit_lt hc)) hdigits
    rwa [Nat.ofDigitChars_cons, Nat.mul_comm, List.length_cons, Nat.add_comm digits.length,
      ← Nat.add_assoc]

theorem point (h : ds.Stands v s) (hafter : ¬ds.afterPoint = true) :
    Digits.Stands { ds with afterPoint := true } v s := by
  cases h with
  | all hv hs _ => exact .all hv hs nofun
  | cut => exact absurd rfl hafter

theorem full_iff (h : ds.Stands v s) : ds.full = true ↔ maxScale < s ∨ bound ≤ v := by
  cases h with
  | all hv hs _ =>
    refine ⟨nofun, fun hout => ?_⟩
    omega
  | @cut _ _ p places d n rest started _ _ hcut _ _ =>
    refine ⟨fun _ => hcut.imp (fun hplaces => ?_) fun hbound => ?_, fun _ => rfl⟩
    · omega
    · calc bound ≤ p * 10 + d := hbound
        _ ≤ (p * 10 + d) * tens n := Nat.le_mul_of_pos_right _ (tens_pos n)
        _ ≤ (p * 10 + d) * tens n + rest := Nat.le_add_right _ _

end Digits.Stands

theorem placesOf_cons {c : Char} {cs : List Char} (h : c ≠ '.') :
    placesOf (c :: cs) = placesOf cs := by
  simp [placesOf, h]

theorem digitsOf_sign {sign : Char} {cs : List Char} (hs : sign.isDigit = false) :
    digitsOf (sign :: cs) = digitsOf cs := by
  rw [digitsOf, digitsOf, List.filter_cons_of_neg (by simp [hs])]

theorem beforeMark_cons {c : Char} {cs : List Char} (h : isExponentMark c = false) :
    beforeMark (c :: cs) = c :: beforeMark cs := by
  rw [beforeMark, List.takeWhile_cons_of_pos (by simp [h])]
  rfl

theorem beforeMark_beforeMark (cs : List Char) : beforeMark (beforeMark cs) = beforeMark cs :=
  List.takeWhile_idem

theorem isExponentMark_of_isDigit {c : Char} (h : c.isDigit = true) : isExponentMark c = false := by
  refine Bool.eq_false_iff.mpr fun hmark => ?_
  simp only [isExponentMark, Bool.or_eq_true, beq_iff_eq] at hmark
  rcases hmark with rfl | rfl <;> cases h

section Reading

variable {cs rest : List Char} {ds ds' : Digits} {v s : Nat}

theorem readDigits?_nil (h : readDigits? ds [] = some (ds', rest)) : ds' = ds ∧ rest = [] := by
  simp only [readDigits?, Option.ite_none_right_eq_some, Option.some.injEq, Prod.mk.injEq] at h
  exact ⟨h.2.1.symm, h.2.2.symm⟩

theorem readDigits?_stands (hs : ds.Stands v s) (hopen : ds.full = false)
    (h : readDigits? ds cs = some (ds', rest)) :
    ds'.Stands (Nat.ofDigitChars 10 ((beforeMark cs).filter Char.isDigit) v)
      (s + if ds.afterPoint then ((beforeMark cs).filter Char.isDigit).length
        else placesOf (beforeMark cs)) := by
  induction cs generalizing ds v s with
  | nil =>
    obtain ⟨rfl, rfl⟩ := readDigits?_nil h
    simpa [placesOf, beforeMark] using hs
  | cons c cs ih =>
    simp only [readDigits?] at h
    split at h
    · next hc =>
      split at h
      · next ds'' hpush =>
        obtain ⟨hs'', hafter⟩ := hs.push hopen (digit_lt hc) hpush
        have hpoint : c ≠ '.' := by rintro rfl; cases hc
        rw [beforeMark_cons (isExponentMark_of_isDigit hc), List.filter_cons_of_pos hc,
          Nat.ofDigitChars_cons, placesOf_cons hpoint, List.length_cons, Nat.mul_comm]
        split at h
        · next hfull =>
          -- The last place is taken: the digits behind it are not read any more.
          obtain ⟨rfl, rfl⟩ := Prod.mk.inj (Option.some.inj h)
          rw [hs''.afterPoint hfull] at hafter
          have hdigits : ∀ c ∈ (beforeMark cs).filter Char.isDigit, c.isDigit = true :=
            fun _ hc => (List.mem_filter.mp hc).2
          have hrest := hs''.leaveAll hfull hdigits
          rw [← hafter] at hrest ⊢
          simpa [Nat.add_assoc, Nat.add_comm 1] using hrest
        · next hfull =>
          have hrest := ih hs'' (Bool.eq_false_iff.mpr hfull) h
          rw [hafter] at hrest
          cases hd : ds.afterPoint <;> rw [hd] at hrest <;>
            simpa [Nat.add_assoc, Nat.add_comm 1] using hrest
      · cases h
    · next hc =>
      split at h
      · next hskip =>
        obtain ⟨rfl, -⟩ := hskip
        rw [beforeMark_cons rfl, List.filter_cons_of_neg hc, placesOf_cons (by decide)]
        exact ih hs hopen h
      · split at h
        · next hpoint =>
          obtain ⟨rfl, hafter⟩ := hpoint
          have hrest := ih (hs.point hafter) hopen h
          rw [beforeMark_cons rfl, List.filter_cons_of_neg hc]
          simpa [hafter, placesOf] using hrest
        · cases h

theorem readDigits?_step {c : Char} {read : Digits × List Char} (hopen : ds.full = false)
    (h : readDigits? ds (c :: cs) = some read) : isExponentMark c = false ∧
      ((∃ ds', ds'.full = true ∧ ∀ cs, readDigits? ds (c :: cs) = some (ds', cs)) ∨
        ∃ ds', ds'.full = false ∧ ∀ cs, readDigits? ds (c :: cs) = readDigits? ds' cs) := by
  simp only [readDigits?] at h ⊢
  by_cases hc : c.isDigit = true
  · simp only [if_pos hc] at h ⊢
    refine ⟨isExponentMark_of_isDigit hc, ?_⟩
    cases hpush : ds.push? (c.toNat - '0'.toNat) with
    | none =>
      rw [hpush] at h
      cases h
    | some ds' =>
      cases hfull : ds'.full with
      | true => exact .inl ⟨ds', hfull, fun _ => by simp [hfull]⟩
      | false => exact .inr ⟨ds', hfull, fun _ => by simp [hfull]⟩
  · simp only [if_neg hc] at h ⊢
    by_cases hskip : c = '_' ∧ ds.started = true
    · exact ⟨by rw [hskip.1]; rfl, .inr ⟨ds, hopen, fun _ => if_pos hskip⟩⟩
    · by_cases hpoint : c = '.' ∧ ¬ds.afterPoint = true
      · exact ⟨by rw [hpoint.1]; rfl, .inr ⟨{ ds with afterPoint := true }, hopen, fun _ => by
          rw [if_neg hskip, if_pos hpoint]⟩⟩
      · rw [if_neg hskip, if_neg hpoint] at h
        cases h

theorem readDigits?_rest (hopen : ds.full = false) (h : readDigits? ds cs = some (ds', rest)) :
    (ds'.full = false → rest = []) ∧ (Unmarked rest → Unmarked cs) := by
  induction cs generalizing ds with
  | nil =>
    obtain ⟨rfl, rfl⟩ := readDigits?_nil h
    exact ⟨fun _ => rfl, id⟩
  | cons c cs ih =>
    obtain ⟨hc, ⟨ds'', hfull, hstop⟩ | ⟨ds'', hopen', hgo⟩⟩ := readDigits?_step hopen h
    · rw [hstop] at h
      obtain ⟨rfl, rfl⟩ := Prod.mk.inj (Option.some.inj h)
      exact ⟨fun hds => absurd hfull (Bool.eq_false_iff.mp hds),
        fun hrest => List.forall_mem_cons.mpr ⟨hc, hrest⟩⟩
    · rw [hgo] at h
      obtain ⟨hnil, hmarks⟩ := ih hopen' h
      exact ⟨hnil, fun hrest => List.forall_mem_cons.mpr ⟨hc, hmarks hrest⟩⟩

theorem readDigits?_append (hopen : ds.full = false) (h : readDigits? ds cs = some (ds', rest))
    (hfull : ds'.full = true) (more : List Char) :
    readDigits? ds (cs ++ more) = some (ds', rest ++ more) := by
  induction cs generalizing ds with
  | nil =>
    obtain ⟨rfl, rfl⟩ := readDigits?_nil h
    exact absurd hfull (Bool.eq_false_iff.mp hopen)
  | cons c cs ih =>
    obtain ⟨-, ⟨ds'', hfull', hstop⟩ | ⟨ds'', hopen', hgo⟩⟩ := readDigits?_step hopen h
    · rw [hstop] at h
      obtain ⟨rfl, rfl⟩ := Prod.mk.inj (Option.some.inj h)
      exact hstop _
    · rw [hgo] at h
      rw [List.cons_append, hgo]
      exact ih hopen' h

end Reading

structure Rounds (digits places v s : Nat) : Prop where
  near : |(v : ℚ) / tens s - digits / tens places| ≤ 1 / 2 / tens s
  exact : Fits digits places → (v : ℚ) / tens s = digits / tens places
  full : (v : ℚ) / tens s ≠ digits / tens places → maxScale ≤ s ∨ bound ≤ v * 10

section Rounds

variable {p places digit n rest v s : Nat}

theorem cut_eq (p places digit n rest : Nat) :
    (((p * 10 + digit) * tens n + rest : Nat) : ℚ) / tens (places + 1 + n) =
      (p + ((digit * tens n + rest : Nat) : ℚ) / tens (n + 1)) / tens places := by
  have h1 := tens_cast_ne_zero n
  have h2 := tens_cast_ne_zero places
  rw [Nat.add_assoc, tens_add, Nat.add_comm 1 n, tens_succ]
  push_cast
  field_simp
  ring

theorem not_fits_cut (hfull : maxScale ≤ places ∨ bound ≤ p * 10 + digit) (hrest : rest < tens n)
    (hdigit : digit < 10) (hne : digit * tens n + rest ≠ 0) :
    ¬Fits ((p * 10 + digit) * tens n + rest) (places + 1 + n) := by
  rintro ⟨m, t, hm, ht, h⟩
  rcases Nat.lt_or_ge places t with hlt | hge
  · obtain ⟨j, rfl⟩ := Nat.exists_eq_add_of_lt hlt
    have hbound : bound ≤ p * 10 + digit := hfull.resolve_left (by omega)
    have hcancel : ((p * 10 + digit) * tens n + rest) * tens j = m * tens n := by
      refine Nat.eq_of_mul_eq_mul_right (tens_pos (places + 1)) ?_
      calc ((p * 10 + digit) * tens n + rest) * tens j * tens (places + 1)
          = ((p * 10 + digit) * tens n + rest) * tens (places + j + 1) := by
            rw [Nat.add_right_comm, tens_add (places + 1) j]
            ring
        _ = m * tens n * tens (places + 1) := by
            rw [h, tens_add (places + 1) n]
            ring
    have hle : bound * tens n ≤ m * tens n := by
      calc bound * tens n ≤ (p * 10 + digit) * tens n + rest :=
            (Nat.mul_le_mul_right _ hbound).trans (Nat.le_add_right _ _)
        _ ≤ ((p * 10 + digit) * tens n + rest) * tens j := Nat.le_mul_of_pos_right _ (tens_pos j)
        _ = m * tens n := hcancel
    exact absurd hm (Nat.not_lt.mpr (Nat.le_of_mul_le_mul_right hle (tens_pos n)))
  · obtain ⟨k, rfl⟩ := Nat.exists_eq_add_of_le hge
    have hcancel : p * tens (n + 1) + (digit * tens n + rest) = m * tens k * tens (n + 1) := by
      refine Nat.eq_of_mul_eq_mul_right (tens_pos t) ?_
      calc (p * tens (n + 1) + (digit * tens n + rest)) * tens t
          = ((p * 10 + digit) * tens n + rest) * tens t := by
            rw [tens_succ]
            ring
        _ = m * tens k * tens (n + 1) * tens t := by
            rw [h, Nat.add_assoc, Nat.add_comm 1 n, tens_add (t + k), tens_add t k]
            ring
    have hdvd : tens (n + 1) ∣ digit * tens n + rest :=
      (Nat.dvd_add_right ⟨p, Nat.mul_comm _ _⟩).mp (hcancel ▸ Nat.dvd_mul_left _ _)
    have hlt : digit * tens n + rest < tens (n + 1) := by
      rw [tens_succ]
      nlinarith
    exact hne (Nat.eq_zero_of_dvd_of_lt hdvd hlt)

theorem cut_bounds (digit : Nat) (hrest : rest < tens n) :
    (digit : ℚ) / 10 ≤ ((digit * tens n + rest : Nat) : ℚ) / tens (n + 1) ∧
      ((digit * tens n + rest : Nat) : ℚ) / tens (n + 1) < (digit + 1) / 10 := by
  have hpos := tens_cast_pos n
  have hrest : (rest : ℚ) < tens n := Nat.cast_lt.mpr hrest
  have hnonneg : (0 : ℚ) ≤ rest := Nat.cast_nonneg rest
  rw [tens_succ]
  push_cast
  rw [le_div_iff₀ (by positivity), div_lt_iff₀ (by positivity)]
  constructor <;> nlinarith

theorem Rounds.of_eq (h : (v : ℚ) / tens s = p / tens places) : Rounds p places v s where
  near := by
    rw [h, sub_self, abs_zero]
    have hpos := tens_cast_pos s
    positivity
  exact _ := h
  full hne := absurd h hne

theorem bound_eq : bound = 79228162514264337593543950336 := rfl

theorem roundUp?_eq_some (hp : p < bound) (h : roundUp? p places = some (v, s)) :
    v = p + 1 ∧ s = places ∨ p = bound - 1 ∧ v = (bound + 4) / 10 ∧ places = s + 1 := by
  unfold roundUp? at h
  split at h
  · obtain ⟨rfl, rfl⟩ := Prod.mk.inj (Option.some.inj h)
    exact .inl ⟨rfl, rfl⟩
  · next hover =>
    split at h
    · cases h
    · next hplaces =>
      obtain ⟨rfl, rfl⟩ := Prod.mk.inj (Option.some.inj h)
      have hlast : p + 1 = bound := by omega
      exact .inr ⟨by omega, by rw [hlast], by omega⟩

theorem roundUp?_near (hp : p < bound) (h : roundUp? p places = some (v, s)) {part : ℚ}
    (hlow : 1 / 2 ≤ part) (hhigh : part ≤ 1) :
    |(v : ℚ) / tens s - (p + part) / tens places| ≤ 1 / 2 / tens s := by
  rcases roundUp?_eq_some hp h with ⟨rfl, rfl⟩ | ⟨rfl, rfl, rfl⟩
  · refine abs_div_sub_div_le (tens_cast_pos _) ?_
    push_cast
    rw [abs_le]
    constructor <;> linarith
  · have hunit : ∀ a : ℚ, a / tens s = a * 10 / tens (s + 1) := fun a => by
      have hs := tens_cast_ne_zero s
      rw [tens_succ]
      push_cast
      field_simp
    rw [hunit, hunit]
    refine abs_div_sub_div_le (tens_cast_pos _) ?_
    rw [bound_eq, abs_le]
    norm_num
    constructor <;> linarith

theorem roundUp?_full (hp : p < bound) (h : roundUp? p places = some (v, s))
    (hdigit : digit < 10) (hfull : maxScale ≤ places ∨ bound ≤ p * 10 + digit) :
    maxScale ≤ s ∨ bound ≤ v * 10 := by
  rcases roundUp?_eq_some hp h with ⟨rfl, rfl⟩ | ⟨rfl, rfl, rfl⟩
  · exact hfull.imp_right fun _ => by omega
  · exact .inr (by decide)

theorem Rounds.cut (hp : p < bound) (hdigit : digit < 10)
    (hfull : maxScale ≤ places ∨ bound ≤ p * 10 + digit)
    (hv : if 5 ≤ digit then roundUp? p places = some (v, s) else (p, places) = (v, s))
    (hrest : rest < tens n) :
    Rounds ((p * 10 + digit) * tens n + rest) (places + 1 + n) v s := by
  obtain ⟨hlow, hhigh⟩ := cut_bounds digit hrest
  by_cases hzero : digit * tens n + rest = 0
  · -- Only zeros have been cut off.
    have hmul : digit * tens n = 0 := by omega
    obtain rfl := (Nat.mul_eq_zero.mp hmul).resolve_right (tens_pos n).ne'
    obtain ⟨rfl, rfl⟩ := Prod.mk.inj hv
    exact .of_eq (by rw [cut_eq, hzero, Nat.cast_zero, zero_div, add_zero])
  have hfits := not_fits_cut hfull hrest hdigit hzero
  split at hv
  · next hup =>
    have h5 : (5 : ℚ) ≤ digit := by exact_mod_cast hup
    have h9 : (digit : ℚ) + 1 ≤ 10 := by exact_mod_cast hdigit
    refine ⟨?_, fun h => absurd h hfits, fun _ => roundUp?_full hp hv hdigit hfull⟩
    rw [cut_eq]
    exact roundUp?_near hp hv (by linarith) (by linarith)
  · next hdown =>
    have h5 : (digit : ℚ) + 1 ≤ 5 := by exact_mod_cast Nat.not_le.mp hdown
    obtain ⟨rfl, rfl⟩ := Prod.mk.inj hv
    refine ⟨?_, fun h => absurd h hfits, fun _ => hfull.imp_right fun h => ?_⟩
    · rw [cut_eq]
      refine abs_div_sub_div_le (tens_cast_pos _) ?_
      rw [abs_le]
      have hnonneg : (0 : ℚ) ≤ digit / 10 := by positivity
      constructor <;> linarith
    · -- The bound ends in a six, which a smaller digit than five cannot be behind.
      rw [bound_eq] at h ⊢
      omega

theorem Digits.Stands.rounds {ds : Digits} (h : ds.Stands v s) : Rounds v s ds.value ds.scale := by
  cases h with
  | all => exact .of_eq rfl
  | cut hp hdigit hfull hv hrest => exact .cut hp hdigit hfull hv hrest

end Rounds

end PathQuery.Decimal
