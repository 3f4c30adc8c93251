import Mathlib.Tactic.GCongr
import Pageflow.Proofs.Number.Double

/-! Where doubles end. Rounding to 53 bits takes a fraction beyond the largest finite double exactly
from the middle between that double and the limit on: what is closer to the double stays finite, and
the tie goes to the even neighbour, which is the limit. -/
namespace Pageflow

theorem wholePow_two (exponent : Int) : wholePow 2 exponent = (2 : Rat) ^ exponent := by
  rcases lt_or_ge exponent 0 with hneg | hnonneg
  · obtain ⟨n, rfl⟩ : ∃ n : Nat, exponent = -(n : Int) := ⟨(-exponent).toNat, by omega⟩
    rw [wholePow_neg 2 n (by omega), zpow_neg, zpow_natCast, one_div]
    norm_num
  · obtain ⟨n, rfl⟩ := Int.eq_ofNat_of_zero_le hnonneg
    simp [wholePow]

/-! ## Rounding to a neighbour -/

theorem roundHalfEven_le {num den most : Nat} (hden : 0 < den)
    (h : (num : Rat) / den < most + 1 / 2) : roundHalfEven num den ≤ most := by
  have hbelow : 2 * num < (2 * most + 1) * den := by
    rw [div_lt_iff₀ (by exact_mod_cast hden)] at h
    have hdouble : (2 : Rat) * num < (2 * most + 1) * den := by linarith
    exact_mod_cast hdouble
  have hsplit := Nat.div_add_mod num den
  have hquotient : num / den ≤ most := by
    rw [← Nat.lt_succ_iff, Nat.div_lt_iff_lt_mul hden]
    nlinarith
  unfold roundHalfEven
  dsimp only
  rcases Nat.lt_or_eq_of_le hquotient with hlt | heq
  · split_ifs <;> omega
  · have hrest : 2 * (num % den) < den := by
      rw [heq] at hsplit
      nlinarith
    rw [if_pos hrest, heq]

/-- A tie goes to the even neighbour. -/
theorem le_roundHalfEven {num den least : Nat} (hden : 0 < den) (heven : Even least)
    (h : (least : Rat) - 1 / 2 ≤ num / den) : least ≤ roundHalfEven num den := by
  have habove : 2 * least * den ≤ 2 * num + den := by
    rw [le_div_iff₀ (by exact_mod_cast hden)] at h
    have hdouble : (2 : Rat) * least * den ≤ 2 * num + den := by linarith
    exact_mod_cast hdouble
  have hsplit := Nat.div_add_mod num den
  have hmod := Nat.mod_lt num hden
  have hquotient : least ≤ num / den + 1 := by
    rw [← Nat.lt_succ_iff, ← Nat.mul_lt_mul_right hden]
    nlinarith
  unfold roundHalfEven
  dsimp only
  rcases Nat.lt_or_eq_of_le hquotient with hle | heq
  · split_ifs <;> omega
  · have hrest : den ≤ 2 * (num % den) := by
      rw [heq] at habove
      nlinarith
    rw [Nat.even_iff] at heven
    split_ifs <;> omega

namespace Double

/-! ## The last of 53 places -/

section Places
variable {num den : Nat}

private theorem two_zpow_sub (m n : Nat) : (2 : Rat) ^ ((m : Int) - n) = 2 ^ m / 2 ^ n := by
  rw [zpow_sub₀ two_ne_zero, zpow_natCast, zpow_natCast]

/-- The quotient of two numbers lies within a factor of two around that of their leading bits. -/
private theorem div_between (hnum : num ≠ 0) (hden : den ≠ 0) :
    (2 : Rat) ^ ((num.log2 : Int) - den.log2 - 1) ≤ num / den ∧
      (num : Rat) / den < 2 ^ ((num.log2 : Int) - den.log2 + 1) := by
  have hpos : (0 : Rat) < den := Nat.cast_pos.mpr (Nat.pos_of_ne_zero hden)
  have hbits : ∀ {n : Nat}, n ≠ 0 → (2 : Rat) ^ n.log2 ≤ n ∧ (n : Rat) < 2 ^ (n.log2 + 1) :=
    fun hn => ⟨by exact_mod_cast Nat.log2_self_le hn, by exact_mod_cast Nat.lt_log2_self⟩
  constructor
  · rw [show (num.log2 : Int) - den.log2 - 1 = num.log2 - (den.log2 + 1 : Nat) by push_cast; ring,
      two_zpow_sub]
    exact div_le_div₀ (Nat.cast_nonneg _) (hbits hnum).1 hpos (hbits hden).2.le
  · rw [show (num.log2 : Int) - den.log2 + 1 = (num.log2 + 1 : Nat) - den.log2 by push_cast; ring,
      two_zpow_sub]
    exact div_lt_div₀ (hbits hnum).2 (hbits hden).1 (by positivity) (by positivity)

/-- The last place is 52 below the leading bit of the quotient, which is the guess or one less. -/
theorem lastPlace_eq (hden : den ≠ 0) :
    lastPlace num den = max (if (num : Rat) / den < 2 ^ ((num.log2 : Int) - den.log2) then
      (num.log2 : Int) - den.log2 - 52 - 1 else (num.log2 : Int) - den.log2 - 52) (-1074) := by
  have hpos : (0 : Rat) < den := Nat.cast_pos.mpr (Nat.pos_of_ne_zero hden)
  unfold lastPlace
  generalize hguess : (num.log2 : Int) - den.log2 - 52 = guess
  have hleading : (num.log2 : Int) - den.log2 = guess + 52 := by omega
  dsimp only
  rw [hleading]
  by_cases hnonneg : 0 ≤ guess
  · have hsmall : num < den * Nat.pow 2 (guess.toNat + 52) ↔
        (num : Rat) / den < 2 ^ (guess + 52) := by
      rw [show guess + 52 = ((guess.toNat + 52 : Nat) : Int) by omega, zpow_natCast,
        div_lt_iff₀ hpos, mul_comm]
      exact_mod_cast Iff.rfl
    simp only [if_pos hnonneg, hsmall, decide_eq_true_eq]
  · have hsmall : num * Nat.pow 2 (-guess).toNat < den * Nat.pow 2 52 ↔
        (num : Rat) / den < 2 ^ (guess + 52) := by
      rw [show guess + 52 = ((52 : Nat) : Int) - (-guess).toNat by omega, two_zpow_sub,
        div_lt_div_iff₀ hpos (by positivity), mul_comm (2 ^ 52 : Rat)]
      exact_mod_cast Iff.rfl
    simp only [if_neg hnonneg, hsmall, decide_eq_true_eq]

theorem div_lt_two_zpow_lastPlace (hnum : num ≠ 0) (hden : den ≠ 0) :
    (num : Rat) / den < 2 ^ (lastPlace num den + 53) := by
  have hbelow := (div_between hnum hden).2
  rw [lastPlace_eq hden]
  split_ifs with hsmall
  · refine hsmall.trans_le (zpow_le_zpow_right₀ one_le_two ?_)
    omega
  · refine hbelow.trans_le (zpow_le_zpow_right₀ one_le_two ?_)
    omega

theorem two_zpow_lastPlace_le_div (hnum : num ≠ 0) (hden : den ≠ 0)
    (hplace : -1074 < lastPlace num den) :
    (2 : Rat) ^ (lastPlace num den + 52) ≤ num / den := by
  have habove := (div_between hnum hden).1
  rw [lastPlace_eq hden] at hplace ⊢
  split_ifs at hplace ⊢ with hsmall
  · refine (zpow_le_zpow_right₀ one_le_two ?_).trans habove
    omega
  · refine (zpow_le_zpow_right₀ one_le_two ?_).trans (not_lt.mp hsmall)
    omega

/-! ## The significand -/

/-- The significand is the quotient in units of the last place, rounded. -/
theorem exists_significand_eq (num : Nat) (hden : den ≠ 0) (place : Int) :
    ∃ a b : Nat, 0 < b ∧ (a : Rat) / b = num / den / 2 ^ place ∧
      significand num den place = roundHalfEven a b := by
  have hpos : 0 < den := Nat.pos_of_ne_zero hden
  unfold significand
  split
  · refine ⟨num, den * Nat.pow 2 place.toNat, by simpa using hpos, ?_, rfl⟩
    rw [show place = (place.toNat : Int) by omega, zpow_natCast, Int.toNat_natCast]
    push_cast [Nat.pow_eq]
    rw [div_div]
  · refine ⟨num * Nat.pow 2 (-place).toNat, den, hpos, ?_, rfl⟩
    rw [show place = -((-place).toNat : Int) by omega, zpow_neg, zpow_natCast, Int.neg_neg,
      Int.toNat_natCast, div_inv_eq_mul]
    push_cast [Nat.pow_eq]
    ring

theorem significand_le {most : Nat} {place : Int} (hden : den ≠ 0)
    (h : (num : Rat) / den < (most + 1 / 2) * 2 ^ place) : significand num den place ≤ most := by
  obtain ⟨a, b, hb, hquotient, heq⟩ := exists_significand_eq num hden place
  rw [heq]
  refine roundHalfEven_le hb ?_
  rwa [hquotient, div_lt_iff₀ (zpow_pos two_pos place)]

theorem le_significand {least : Nat} {place : Int} (hden : den ≠ 0) (heven : Even least)
    (h : (least - 1 / 2) * 2 ^ place ≤ (num : Rat) / den) : least ≤ significand num den place := by
  obtain ⟨a, b, hb, hquotient, heq⟩ := exists_significand_eq num hden place
  rw [heq]
  refine le_roundHalfEven hb heven ?_
  rwa [hquotient, le_div_iff₀ (zpow_pos two_pos place)]

end Places

/-! ## The largest doubles -/

/-- The magnitude that a fraction other than zero is rounded to. -/
def rounded (q : Rat) : Rat :=
  significand q.num.natAbs q.den (lastPlace q.num.natAbs q.den) *
    2 ^ lastPlace q.num.natAbs q.den

/-- The last place of the largest doubles. -/
def topPlace : Rat := 2 ^ (971 : Int)

/-- The magnitude of the largest finite double. -/
def largest : Rat := limit - topPlace

/-- The magnitude from which on a fraction is rounded to infinity: the middle between the largest
finite double and the limit. -/
def overflow : Rat := limit - topPlace / 2

theorem one_lt_topPlace : 1 < topPlace := one_lt_zpow₀ one_lt_two (by decide)

theorem topPlace_pos : 0 < topPlace := one_pos.trans one_lt_topPlace

theorem limit_eq : limit = 2 ^ 53 * topPlace := by
  obtain ⟨place, hplace, htop⟩ : ∃ place : Nat, 1024 = 53 + place ∧ topPlace = 2 ^ place :=
    ⟨971, rfl, zpow_ofNat 2 971⟩
  unfold limit
  rw [hplace, htop, Nat.pow_eq, Nat.cast_pow, pow_add, Nat.cast_ofNat]

section Rounded
variable {q : Rat}

theorem nearest_eq_ite (hq : q.num ≠ 0) :
    nearest q = if limit ≤ rounded q then .infinite (q.num < 0)
      else .finite (if q.num < 0 then -rounded q else rounded q) := by
  unfold nearest rounded
  simp only [if_neg hq, wholePow_two]

/-- How large a fraction is by its last place. -/
theorem topPlace_cases {place : Int} (hq : q.num ≠ 0)
    (hplace : lastPlace q.num.natAbs q.den = place) :
    (2 : Rat) ^ place ≤ topPlace / 2 ∧ |q| < 2 ^ 53 * 2 ^ place ∨ (2 : Rat) ^ place = topPlace ∨
      2 * topPlace ≤ 2 ^ place ∧ 2 ^ 52 * 2 ^ place ≤ |q| := by
  subst hplace
  have hnum : q.num.natAbs ≠ 0 := Int.natAbs_ne_zero.mpr hq
  have hhigh := div_lt_two_zpow_lastPlace hnum q.den_nz
  have hlow := two_zpow_lastPlace_le_div hnum q.den_nz
  rw [← abs_eq_div] at hhigh hlow
  generalize lastPlace q.num.natAbs q.den = place at hhigh hlow ⊢
  have hshift : ∀ n : Nat, (2 : Rat) ^ (place + n) = 2 ^ n * 2 ^ place := fun n => by
    rw [zpow_add₀ two_ne_zero, zpow_natCast, mul_comm]
  unfold topPlace
  rcases lt_trichotomy place 971 with hlt | rfl | hgt
  · refine .inl ⟨?_, hhigh.trans_eq (hshift 53)⟩
    rw [div_eq_mul_inv, ← zpow_sub_one₀ (two_ne_zero : (2 : Rat) ≠ 0)]
    exact zpow_le_zpow_right₀ one_le_two (by omega)
  · exact .inr (.inl rfl)
  · refine .inr (.inr ⟨?_, (hshift 52).symm.trans_le (hlow (by omega))⟩)
    rw [mul_comm, ← zpow_add_one₀ (two_ne_zero : (2 : Rat) ≠ 0)]
    exact zpow_le_zpow_right₀ one_le_two (by omega)

/-- Below the middle the last place is at most that of the largest doubles, and there the
significand is rounded down. -/
theorem rounded_le_largest (hq : q.num ≠ 0) (hbelow : |q| < overflow) : rounded q ≤ largest := by
  have htop := topPlace_pos
  unfold rounded
  generalize hplace : lastPlace q.num.natAbs q.den = place
  rw [overflow, limit_eq] at hbelow
  rw [largest, limit_eq]
  rcases topPlace_cases hq hplace with ⟨hsmall, hhigh⟩ | hsame | ⟨hlarge, hlow⟩
  · have hmost : significand q.num.natAbs q.den place ≤ 2 ^ 53 := by
      refine significand_le q.den_nz ?_
      rw [← abs_eq_div]
      have hpos : (0 : Rat) < 2 ^ place := zpow_pos two_pos _
      push_cast
      linarith
    calc (significand q.num.natAbs q.den place : Rat) * 2 ^ place
        ≤ (2 ^ 53 : Nat) * (topPlace / 2) :=
          mul_le_mul (by exact_mod_cast hmost) hsmall (zpow_pos two_pos _).le (by positivity)
      _ ≤ 2 ^ 53 * topPlace - topPlace := by
        push_cast
        linarith
  · have hmost : significand q.num.natAbs q.den place ≤ 2 ^ 53 - 1 := by
      refine significand_le q.den_nz ?_
      rw [← abs_eq_div, hsame]
      push_cast
      linarith
    rw [hsame]
    calc (significand q.num.natAbs q.den place : Rat) * topPlace
        ≤ (2 ^ 53 - 1 : Nat) * topPlace :=
          mul_le_mul_of_nonneg_right (by exact_mod_cast hmost) htop.le
      _ = 2 ^ 53 * topPlace - topPlace := by
        push_cast
        ring
  · linarith

/-- From the middle on the significand is rounded up at that last place, and every other fraction
that large has a greater one. -/
theorem limit_le_rounded (hq : q.num ≠ 0) (habove : overflow ≤ |q|) : limit ≤ rounded q := by
  have htop := topPlace_pos
  unfold rounded
  generalize hplace : lastPlace q.num.natAbs q.den = place
  rw [overflow, limit_eq] at habove
  rw [limit_eq]
  rcases topPlace_cases hq hplace with ⟨hsmall, hhigh⟩ | hsame | ⟨hlarge, hlow⟩
  · linarith
  · have hleast : 2 ^ 53 ≤ significand q.num.natAbs q.den place := by
      refine le_significand q.den_nz (by decide) ?_
      rw [← abs_eq_div, hsame]
      push_cast
      linarith
    rw [hsame]
    exact mul_le_mul_of_nonneg_right (by exact_mod_cast hleast) htop.le
  · have hleast : 2 ^ 52 ≤ significand q.num.natAbs q.den place := by
      refine le_significand q.den_nz (by decide) ?_
      rw [← abs_eq_div]
      push_cast
      linarith
    calc 2 ^ 53 * topPlace = (2 ^ 52 : Nat) * (2 * topPlace) := by
          push_cast
          ring
      _ ≤ significand q.num.natAbs q.den place * 2 ^ place :=
          mul_le_mul (by exact_mod_cast hleast) hlarge (by linarith) (Nat.cast_nonneg _)

end Rounded

/-- Below the middle between the largest finite double and the limit a fraction is rounded to a
finite one. -/
theorem nearest_of_lt_overflow {q : Rat} (hbelow : |q| < overflow) :
    ∃ r, nearest q = .finite r ∧ |r| ≤ largest := by
  by_cases hq : q.num = 0
  · refine ⟨0, by simp [nearest, hq], ?_⟩
    rw [abs_zero, largest, limit_eq]
    linarith [topPlace_pos]
  · have hlargest := rounded_le_largest hq hbelow
    have hnonneg : 0 ≤ rounded q := mul_nonneg (Nat.cast_nonneg _) (zpow_pos two_pos _).le
    have hlimit : ¬ limit ≤ rounded q := by
      rw [largest] at hlargest
      linarith [topPlace_pos]
    refine ⟨_, (nearest_eq_ite hq).trans (if_neg hlimit), ?_⟩
    split_ifs
    · rwa [abs_neg, abs_of_nonneg hnonneg]
    · rwa [abs_of_nonneg hnonneg]

/-- From there on it is rounded to infinity. -/
theorem nearest_of_overflow_le {q : Rat} (habove : overflow ≤ |q|) :
    nearest q = .infinite (q.num < 0) := by
  have hq : q.num ≠ 0 := by
    intro hzero
    rw [Rat.zero_of_num_zero hzero, abs_zero, overflow, limit_eq] at habove
    linarith [topPlace_pos]
  rw [nearest_eq_ite hq, if_pos (limit_le_rounded hq habove)]

/-! ## Rounding half up -/

/-- Next to the largest double a half is too little to overflow. -/
theorem exists_roundHalfUp? {r : Rat} (h : |r| ≤ largest) :
    ∃ n, (Double.finite r).roundHalfUp? = some n := by
  have hsum : |r + 1 / 2| < overflow := by
    have habs := abs_add_le r (1 / 2)
    rw [abs_of_pos (show (0 : Rat) < 1 / 2 by norm_num)] at habs
    rw [largest] at h
    rw [overflow]
    linarith [one_lt_topPlace]
  obtain ⟨value, hvalue, -⟩ := nearest_of_lt_overflow hsum
  exact ⟨value.floor, by rw [roundHalfUp?_finite, hvalue]; rfl⟩

end Double
end Pageflow
