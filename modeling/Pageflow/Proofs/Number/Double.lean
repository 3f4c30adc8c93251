import Mathlib.Data.Nat.Prime.Basic
import Mathlib.Data.Rat.Floor
import Mathlib.Tactic.Linarith
import Mathlib.Tactic.NormNum
import Mathlib.Tactic.Positivity
import Mathlib.Tactic.Ring
import Pageflow.Number.Double

/-! Doubles that hold a number exactly: fractions over a power of two with at
most 53 significant bits are their own nearest doubles, so whole numbers up to
2 ^ 53 and halves up to 2 ^ 52 are computed with as if nothing were rounded. -/
namespace Pageflow

theorem roundHalfEven_mul_self (quotient den : Nat) (hden : 0 < den) :
    roundHalfEven (quotient * den) den = quotient := by
  unfold roundHalfEven
  simp only [Nat.mul_div_cancel quotient hden, Nat.mul_mod_left, Nat.mul_zero, hden, ↓reduceIte]

@[simp] theorem roundHalfEven_one (num : Nat) : roundHalfEven num 1 = num := by
  simpa only [Nat.mul_one] using roundHalfEven_mul_self num 1 (by decide)

theorem wholePow_neg (base exponent : Nat) (h : 0 < exponent) :
    wholePow base (-(exponent : Int)) = 1 / (base : Rat) ^ exponent := by
  unfold wholePow
  rw [if_neg (by omega)]
  simp

namespace Double

private theorem two_pow_le_limit {n : Nat} (h : n ≤ 1024) :
    ((Nat.pow 2 n : Nat) : Rat) ≤ limit := by
  obtain ⟨k, hk⟩ := Nat.exists_eq_add_of_le h
  unfold limit
  rw [hk, Nat.cast_le]
  exact Nat.pow_le_pow_right Nat.two_pos (Nat.le_add_right n k)

/-- The numerator has its leading bit at `log2 num`, so 53 significant bits of
the fraction begin there. -/
theorem lastPlace_two_pow (num exponent : Nat) (hnum : num ≠ 0) :
    lastPlace num (2 ^ exponent) = max ((num.log2 : Int) - exponent - 52) (-1074) := by
  have hlow := Nat.log2_self_le hnum
  unfold lastPlace
  simp only [Nat.log2_two_pow, Nat.pow_eq]
  split
  · rename_i hguess
    have hshift : exponent + (((num.log2 : Int) - exponent - 52).toNat + 52) = num.log2 := by omega
    have hsmall : ¬ num < 2 ^ exponent * 2 ^ (((num.log2 : Int) - exponent - 52).toNat + 52) := by
      rw [← Nat.pow_add, hshift]
      omega
    simp only [hsmall, decide_false, Bool.false_eq_true, ↓reduceIte]
  · rename_i hguess
    have hshift : num.log2 + (-((num.log2 : Int) - exponent - 52)).toNat = exponent + 52 := by omega
    have hsmall : ¬ num * 2 ^ (-((num.log2 : Int) - exponent - 52)).toNat <
        2 ^ exponent * 2 ^ 52 := by
      rw [← Nat.pow_add, ← hshift, Nat.pow_add]
      exact Nat.not_lt.mpr (Nat.mul_le_mul_right _ hlow)
    simp only [hsmall, decide_false, Bool.false_eq_true, ↓reduceIte]

/-- Below 2 ^ 53 the last of 53 places lies at or beyond the fraction's own
last place, so nothing is rounded away. -/
theorem significand_mul_wholePow (num exponent : Nat) (hnum : num ≠ 0)
    (hsize : num < 2 ^ 53) (hexponent : exponent ≤ 1074) :
    (significand num (2 ^ exponent) (lastPlace num (2 ^ exponent)) : Rat) *
      wholePow 2 (lastPlace num (2 ^ exponent)) = (num : Rat) / 2 ^ exponent := by
  have hlog : num.log2 < 53 := (Nat.log2_lt hnum).mpr hsize
  rw [lastPlace_two_pow num exponent hnum]
  generalize hplace : max ((num.log2 : Int) - exponent - 52) (-1074) = place
  obtain ⟨digits, rfl⟩ : ∃ digits : Nat, place = -(digits : Int) := ⟨(-place).toNat, by omega⟩
  have hdigits : exponent ≤ digits := by omega
  unfold significand
  rcases Nat.eq_zero_or_pos digits with rfl | hpos
  · obtain rfl : exponent = 0 := by omega
    simp [wholePow]
  · have hexact : num * 2 ^ digits = num * 2 ^ (digits - exponent) * 2 ^ exponent := by
      rw [Nat.mul_assoc, ← Nat.pow_add, Nat.sub_add_cancel hdigits]
    rw [if_neg (by omega), wholePow_neg 2 digits hpos]
    simp only [Int.neg_neg, Int.toNat_natCast, Nat.pow_eq]
    rw [hexact, roundHalfEven_mul_self _ _ (Nat.two_pow_pos exponent)]
    have hsplit : (2 : Rat) ^ digits = 2 ^ (digits - exponent) * 2 ^ exponent := by
      rw [← pow_add, Nat.sub_add_cancel hdigits]
    push_cast
    rw [hsplit]
    field_simp

theorem abs_eq_div (q : Rat) : |q| = (q.num.natAbs : Rat) / q.den := by
  conv_lhs => rw [← Rat.num_div_den q]
  rw [abs_div, Nat.abs_cast, Nat.cast_natAbs, Int.cast_abs]

theorem nearest_eq_finite (q : Rat) (exponent : Nat) (hden : q.den = 2 ^ exponent)
    (hexponent : exponent ≤ 1074) (hsize : q.num.natAbs < 2 ^ 53) :
    nearest q = .finite q := by
  unfold nearest
  split
  · rename_i hzero
    rw [Rat.zero_of_num_zero hzero]
  · rename_i hnonzero
    have hnum : q.num.natAbs ≠ 0 := by omega
    dsimp only
    rw [hden, significand_mul_wholePow _ _ hnum hsize hexponent]
    have hmagnitude : ((q.num.natAbs : Nat) : Rat) / 2 ^ exponent = |q| := by
      rw [abs_eq_div, hden, Nat.cast_pow, Nat.cast_ofNat]
    have hlimit : ¬ limit ≤ |q| := by
      rw [← hmagnitude, not_le]
      have hone : (1 : Rat) ≤ 2 ^ exponent := one_le_pow₀ (by norm_num)
      calc ((q.num.natAbs : Nat) : Rat) / 2 ^ exponent ≤ q.num.natAbs :=
            div_le_self (by positivity) hone
        _ < (Nat.pow 2 53 : Nat) := Nat.cast_lt.mpr hsize
        _ ≤ limit := two_pow_le_limit (by decide)
    rw [hmagnitude, if_neg hlimit]
    split
    · rename_i hneg
      rw [abs_of_neg (Rat.num_neg.mp hneg), neg_neg]
    · rename_i hneg
      rw [abs_of_nonneg (Rat.num_nonneg.mp (not_lt.mp hneg))]

theorem ofInt_eq_finite (n : Int) (h : n.natAbs ≤ 2 ^ 53) : ofInt n = .finite n := by
  unfold ofInt
  rcases Nat.lt_or_eq_of_le h with hlt | heq
  · exact nearest_eq_finite n 0 (by simp) (by decide) (by simpa using hlt)
  · rcases Int.natAbs_eq n with hn | hn
    · rw [hn, heq]
      decide +kernel
    · rw [hn, heq]
      decide +kernel

theorem value?_eq_some_iff {x : Double} {q : Rat} :
    x.value? = some q ↔ x = .finite q ∨ x = .negativeZero ∧ q = 0 := by
  cases x <;> simp [value?, eq_comm]

theorem le_eq_decide {x y : Double} {p q : Rat} (hx : x.value? = some p) (hy : y.value? = some q) :
    x.le y = decide (p ≤ q) := by
  rcases value?_eq_some_iff.mp hx with rfl | ⟨rfl, rfl⟩ <;>
    rcases value?_eq_some_iff.mp hy with rfl | ⟨rfl, rfl⟩ <;> rfl

theorem atLeast_eq_decide {x : Double} {q : Rat} (hx : x.value? = some q) (n : Int) :
    x.atLeast n = decide ((n : Rat) ≤ q) := by
  rcases value?_eq_some_iff.mp hx with rfl | ⟨rfl, rfl⟩ <;> rfl

theorem isZero_eq_decide {x : Double} {q : Rat} (hx : x.value? = some q) :
    x.isZero = decide (q = 0) := by
  rcases value?_eq_some_iff.mp hx with rfl | ⟨rfl, rfl⟩
  · simp [isZero]
  · rfl

theorem mul_eq_nearest {x y : Double} {p q : Rat} (hx : x.value? = some p)
    (hy : y.value? = some q) : x * y = nearest (p * q) := by
  rcases value?_eq_some_iff.mp hx with rfl | ⟨rfl, rfl⟩ <;>
    rcases value?_eq_some_iff.mp hy with rfl | ⟨rfl, rfl⟩ <;> rfl

/-- A sum that is its own nearest double is computed exactly. -/
theorem value?_add {x y : Double} {p q : Rat} (hx : x.value? = some p) (hy : y.value? = some q)
    (hexact : nearest (p + q) = .finite (p + q)) : (x + y).value? = some (p + q) := by
  have hsum : x + y = nearest (p + q) := by
    rcases value?_eq_some_iff.mp hx with rfl | ⟨rfl, rfl⟩ <;>
      rcases value?_eq_some_iff.mp hy with rfl | ⟨rfl, rfl⟩ <;> rfl
  rw [hsum, hexact]
  rfl

theorem value?_neg {x : Double} {q : Rat} (hx : x.value? = some q) : x.neg.value? = some (-q) := by
  rcases value?_eq_some_iff.mp hx with rfl | ⟨rfl, rfl⟩
  · by_cases hzero : q.num = 0
    · rw [Rat.zero_of_num_zero hzero]
      rfl
    · simp only [neg, hzero, ↓reduceIte]
      rfl
  · rfl

/-- A difference that is its own nearest double is computed exactly. -/
theorem value?_sub {x y : Double} {p q : Rat} (hx : x.value? = some p) (hy : y.value? = some q)
    (hexact : nearest (p - q) = .finite (p - q)) : (x - y).value? = some (p - q) := by
  change (x + y.neg).value? = some (p - q)
  rw [sub_eq_add_neg] at hexact ⊢
  exact value?_add hx (value?_neg hy) hexact

theorem mul_ofInt {m n : Int} (hm : m.natAbs ≤ 2 ^ 53) (hn : n.natAbs ≤ 2 ^ 53) :
    ofInt m * ofInt n = ofInt (m * n) := by
  rw [ofInt_eq_finite m hm, ofInt_eq_finite n hn, mul_eq_nearest rfl rfl, ofInt, Int.cast_mul]

theorem le_ofInt {m n : Int} (hm : m.natAbs ≤ 2 ^ 53) (hn : n.natAbs ≤ 2 ^ 53) :
    (ofInt m).le (ofInt n) = decide (m ≤ n) := by
  rw [ofInt_eq_finite m hm, ofInt_eq_finite n hn]
  change decide ((m : Rat) ≤ n) = decide (m ≤ n)
  rw [decide_eq_decide]
  exact Int.cast_le

theorem eq_ofInt {m n : Int} (hm : m.natAbs ≤ 2 ^ 53) (hn : n.natAbs ≤ 2 ^ 53) :
    (ofInt m).eq (ofInt n) = decide (m = n) := by
  unfold Double.eq
  rw [le_ofInt hm hn, le_ofInt hn hm, ← Bool.decide_and, decide_eq_decide]
  omega

theorem isZero_ofInt {n : Int} (h : n.natAbs ≤ 2 ^ 53) : (ofInt n).isZero = decide (n = 0) := by
  rw [ofInt_eq_finite n h, isZero_eq_decide rfl, decide_eq_decide]
  exact Int.cast_eq_zero

private theorem nearest_half : nearest (1 / 2) = .finite (1 / 2) := by decide +kernel

theorem roundHalfUp?_finite (q : Rat) :
    (Double.finite q).roundHalfUp? = (nearest (q + 1 / 2)).value?.map Rat.floor := by
  unfold roundHalfUp?
  rw [nearest_half]
  rfl

theorem roundHalfUp?_infinite (negative : Bool) :
    (Double.infinite negative).roundHalfUp? = none := by
  unfold roundHalfUp?
  rw [nearest_half]
  rfl

/-- A half still fits behind a whole number of 52 bits; at 2 ^ 52 itself the
tie goes to the even neighbour, which is the number. -/
theorem roundHalfUp?_ofInt {n : Int} (h : n.natAbs ≤ 2 ^ 52) : (ofInt n).roundHalfUp? = some n := by
  rcases Nat.lt_or_eq_of_le h with hlt | heq
  · have hodd : ((2 * n + 1 : Int) : Rat) / ((2 : Int) : Rat) = n + 1 / 2 := by
      push_cast
      ring
    have hcoprime : (2 * n + 1).natAbs.Coprime (2 : Int).natAbs := by
      change (2 * n + 1).natAbs.Coprime 2
      rw [Nat.coprime_two_right, Int.natAbs_odd]
      exact ⟨n, rfl⟩
    have hnum : ((n : Rat) + 1 / 2).num = 2 * n + 1 := by
      rw [← hodd]
      exact Rat.num_div_eq_of_coprime (by decide) hcoprime
    have hden : ((n : Rat) + 1 / 2).den = 2 ^ 1 := by
      have hcast := Rat.den_div_eq_of_coprime (a := 2 * n + 1) (b := 2) (by decide) hcoprime
      rw [hodd] at hcast
      exact_mod_cast hcast
    have hsum : nearest ((n : Rat) + 1 / 2) = .finite ((n : Rat) + 1 / 2) :=
      nearest_eq_finite _ 1 hden (by decide) (by rw [hnum]; omega)
    rw [ofInt_eq_finite n (by omega), roundHalfUp?_finite, hsum]
    have hfloor : ((n : Rat) + 1 / 2).floor = n := by
      change ⌊(n : Rat) + 1 / 2⌋ = n
      rw [Int.floor_intCast_add]
      norm_num
    exact congrArg some hfloor
  · rcases Int.natAbs_eq n with hn | hn
    · rw [hn, heq]
      decide +kernel
    · rw [hn, heq]
      decide +kernel

end Double
end Pageflow
