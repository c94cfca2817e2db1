import Mathlib.Algebra.Group.Basic
import Mathlib.Algebra.Order.Ring.Nat
import OperationSamples.Number.Double

/-!
Fractions of a length.

The double nearest to a fraction of a length, cut off to a whole number, is an index into a list of
that length, as long as the fraction has fifty-three bits (`Double.index_lt_of_fraction`): the
greatest such fraction is so far below one that rounding does not reach the length.
-/

namespace OperationSamples

namespace Double

theorem hiddenBit_eq : hiddenBit = 4503599627370496 := rfl

/-- Rounding adds at most one half. -/
theorem roundRatio_le (num : Nat) {den : Nat} (hden : 0 < den) :
    2 * (den * roundRatio num den) ≤ 2 * num + den := by
  have hdivision := Nat.div_add_mod num den
  unfold roundRatio
  dsimp only
  split
  · next hup =>
    have hhalf : den ≤ 2 * (num % den) := by
      simp only [Bool.or_eq_true, Bool.and_eq_true, decide_eq_true_eq, beq_iff_eq] at hup
      omega
    rw [Nat.mul_add]
    omega
  · omega

theorem div_le_roundRatio (num den : Nat) : num / den ≤ roundRatio num den := by
  unfold roundRatio
  dsimp only
  split <;> omega

theorem roundRatio_le_succ (num den : Nat) : roundRatio num den ≤ num / den + 1 := by
  unfold roundRatio
  dsimp only
  split <;> omega

/-- What a word below the infinite ones stands for. -/
theorem parts_ofWord (biased fraction : Nat) (hpos : 0 < biased) (hbiased : biased < 2047)
    (hfraction : fraction < hiddenBit) : (ofWord (biased * hiddenBit + fraction)).parts =
      .finite false (hiddenBit + fraction) (biased - 1075) := by
  have hword : (ofWord (biased * hiddenBit + fraction)).bits.toNat =
      biased * hiddenBit + fraction := by
    rw [ofWord, UInt64.toNat_ofNat']
    rw [hiddenBit_eq] at hfraction ⊢
    omega
  have hsign : ¬ Nat.pow 2 63 ≤ biased * hiddenBit + fraction := by
    change ¬ 9223372036854775808 ≤ _
    rw [hiddenBit_eq] at hfraction ⊢
    omega
  have hexponent : (biased * hiddenBit + fraction) / hiddenBit % 2048 = biased := by
    rw [hiddenBit_eq] at hfraction ⊢
    omega
  have hrest : (biased * hiddenBit + fraction) % hiddenBit = fraction := by
    rw [hiddenBit_eq] at hfraction ⊢
    omega
  unfold parts
  simp only [hword, hexponent, hrest, decide_eq_false hsign]
  rw [if_neg (by simp; omega), if_neg (by simp; omega)]

theorem truncate?_of_parts {x : Double} {mantissa digits : Nat}
    (h : x.parts = .finite false mantissa (-(digits : Int))) :
    x.truncate? = some ((mantissa / Nat.pow 2 digits : Nat) : Int) := by
  rw [truncate?, h]
  by_cases hdigits : digits = 0
  · subst hdigits
    simp
  · simp [hdigits]

/-- A mantissa below the exponent zero is cut off by its exponent, also if it carries. -/
theorem truncate?_encode {mantissa digits : Nat} (hlow : hiddenBit ≤ mantissa)
    (hhigh : mantissa ≤ 2 * hiddenBit) (hdigits : 0 < digits) (hrange : digits < 1000) :
    (encode false mantissa (-(digits : Int))).truncate? =
      some ((mantissa / Nat.pow 2 digits : Nat) : Int) := by
  have hbiased : (-(digits : Int) + 1075).toNat = 1075 - digits := by omega
  have hword : ¬ 2047 * hiddenBit ≤ (1075 - digits) * hiddenBit + (mantissa - hiddenBit) := by
    rw [hiddenBit_eq] at hlow hhigh ⊢
    omega
  have hencode : encode false mantissa (-(digits : Int)) =
      ofWord ((1075 - digits) * hiddenBit + (mantissa - hiddenBit)) := by
    unfold encode
    dsimp only
    rw [if_neg (Nat.not_lt.2 hlow), hbiased, if_neg hword, signBits, if_neg (by decide), Nat.zero_add]
  rw [hencode]
  by_cases hcarry : mantissa = 2 * hiddenBit
  · -- the carry leaves the hidden bit alone over the next exponent
    obtain ⟨before, rfl⟩ := Nat.exists_eq_add_one_of_ne_zero hdigits.ne'
    have hcarried : (1075 - (before + 1)) * hiddenBit + (mantissa - hiddenBit) =
        (1075 - before) * hiddenBit + 0 := by
      rw [hiddenBit_eq] at hcarry ⊢
      omega
    have hhalf : mantissa / Nat.pow 2 (before + 1) = hiddenBit / Nat.pow 2 before := by
      change mantissa / (Nat.pow 2 before * 2) = _
      rw [hcarry, Nat.mul_comm 2, Nat.mul_div_mul_right _ _ (by decide)]
    have hexponent : ((1075 - before : Nat) : Int) - 1075 = -(before : Int) := by omega
    have hparts := parts_ofWord (1075 - before) 0 (by omega) (by omega) (by decide)
    rw [Nat.add_zero hiddenBit, hexponent] at hparts
    rw [hcarried, hhalf]
    exact truncate?_of_parts hparts
  · have hexponent : ((1075 - digits : Nat) : Int) - 1075 = -(digits : Int) := by omega
    have hparts := parts_ofWord (1075 - digits) (mantissa - hiddenBit) (by omega) (by omega)
      (by omega)
    rw [Nat.add_sub_cancel' hlow, hexponent] at hparts
    exact truncate?_of_parts hparts

theorem scaleRatio_neg (num den digits : Nat) :
    scaleRatio num den (-(digits : Int)) = (num * Nat.pow 2 digits, den) := by
  unfold scaleRatio
  by_cases hdigits : digits = 0
  · subst hdigits
    simp
  · rw [if_neg (by omega)]
    simp

/-- The double nearest to a fraction with the denominator `2 ^ 53`, by its numerator's size. -/
theorem ofRatio_eq_encode {num size : Nat} (hlow : Nat.pow 2 size ≤ num)
    (hhigh : num < Nat.pow 2 (size + 1)) (hsize : size ≤ 104) :
    ofRatio false num (Nat.pow 2 53) = encode false
      (roundRatio (num * Nat.pow 2 (105 - size)) (Nat.pow 2 53)) (-((105 - size : Nat) : Int)) := by
  have hnum : num ≠ 0 := (Nat.lt_of_lt_of_le (Nat.pow_pos (by decide)) hlow).ne'
  have hlog : num.log2 = size := (Nat.log2_eq_iff hnum).2 ⟨hlow, hhigh⟩
  have hden : (Nat.pow 2 53).log2 = 53 := by decide
  have hstart : max ((size : Int) - 53 - 53) leastExponent = -((106 - size : Nat) : Int) := by
    unfold leastExponent
    omega
  -- scaled by the first exponent the mantissa has one bit too many
  have htrial : 2 * hiddenBit ≤ num * Nat.pow 2 (106 - size) / Nat.pow 2 53 := by
    rw [Nat.le_div_iff_mul_le (by decide)]
    calc 2 * hiddenBit * Nat.pow 2 53 = Nat.pow 2 106 := by decide
      _ = Nat.pow 2 size * Nat.pow 2 (106 - size) := (pow_mul_pow_sub 2 (by omega)).symm
      _ ≤ num * Nat.pow 2 (106 - size) := Nat.mul_le_mul_right _ hlow
  have hexponent : -((106 - size : Nat) : Int) + 1 = -((105 - size : Nat) : Int) := by omega
  unfold ofRatio
  dsimp only
  rw [if_neg (by simpa using hnum), hlog, hden]
  change encode false _ _ = _
  simp only [Nat.cast_ofNat, hstart, scaleRatio_neg, if_pos htrial, hexponent]

/-- The mantissa of such a fraction is normalised. -/
theorem roundRatio_bounds {num size : Nat} (hlow : Nat.pow 2 size ≤ num)
    (hhigh : num < Nat.pow 2 (size + 1)) (hsize : size ≤ 104) :
    let mantissa := roundRatio (num * Nat.pow 2 (105 - size)) (Nat.pow 2 53)
    hiddenBit ≤ mantissa ∧ mantissa ≤ 2 * hiddenBit := by
  have hscale : Nat.pow 2 size * Nat.pow 2 (105 - size) = Nat.pow 2 105 :=
    pow_mul_pow_sub 2 (by omega)
  have hleast : Nat.pow 2 105 ≤ num * Nat.pow 2 (105 - size) :=
    hscale ▸ Nat.mul_le_mul_right _ hlow
  have hmost : num * Nat.pow 2 (105 - size) < Nat.pow 2 105 * 2 := by
    rw [← hscale, Nat.mul_right_comm]
    exact Nat.mul_lt_mul_of_pos_right hhigh (Nat.pow_pos (by decide))
  intro mantissa
  have hdown := div_le_roundRatio (num * Nat.pow 2 (105 - size)) (Nat.pow 2 53)
  have hup := roundRatio_le_succ (num * Nat.pow 2 (105 - size)) (Nat.pow 2 53)
  constructor
  · refine Nat.le_trans ?_ hdown
    rw [Nat.le_div_iff_mul_le (by decide)]
    exact hleast
  · refine Nat.le_trans hup ?_
    rw [Nat.add_one_le_iff, Nat.div_lt_iff_lt_mul (by decide)]
    exact hmost

/-- A fraction of a length below one, rounded and cut off, is an index. -/
theorem index_lt_of_fraction {numerator length : Nat} (hfraction : numerator < Nat.pow 2 53)
    (hpos : 0 < length) (hlength : length ≤ Nat.pow 2 51) :
    ((ofRatio false (numerator * length) (Nat.pow 2 53)).truncate?.getD 0).toNat < length := by
  by_cases hzero : numerator * length = 0
  · have hfirst : (ofRatio false 0 (Nat.pow 2 53)).truncate? = some 0 := by decide +kernel
    rw [hzero, hfirst]
    exact hpos
  have hbound : numerator * length < Nat.pow 2 104 :=
    calc numerator * length ≤ numerator * Nat.pow 2 51 := Nat.mul_le_mul_left _ hlength
      _ < Nat.pow 2 53 * Nat.pow 2 51 := Nat.mul_lt_mul_of_pos_right hfraction (by decide)
      _ = Nat.pow 2 104 := by decide
  obtain ⟨size, hsize⟩ : ∃ size, (numerator * length).log2 = size := ⟨_, rfl⟩
  obtain ⟨hlow, hhigh⟩ := (Nat.log2_eq_iff hzero).1 hsize
  have hsmall : size < 104 := hsize ▸ (Nat.log2_lt hzero).2 hbound
  obtain ⟨hnormal, hcarry⟩ := roundRatio_bounds hlow hhigh hsmall.le
  have hround := roundRatio_le (numerator * length * Nat.pow 2 (105 - size))
    (show 0 < Nat.pow 2 53 by decide)
  rw [ofRatio_eq_encode hlow hhigh hsmall.le,
    truncate?_encode hnormal hcarry (by omega) (by omega)]
  generalize roundRatio _ _ = mantissa at hround
  have hscaled : Nat.pow 2 105 ≤ numerator * (length * Nat.pow 2 (105 - size)) :=
    calc Nat.pow 2 105 = Nat.pow 2 size * Nat.pow 2 (105 - size) :=
          (pow_mul_pow_sub 2 (by omega)).symm
      _ ≤ numerator * length * Nat.pow 2 (105 - size) := Nat.mul_le_mul_right _ hlow
      _ = numerator * (length * Nat.pow 2 (105 - size)) := Nat.mul_assoc ..
  -- the length is more than half a unit of the mantissa away from the greatest fraction of it
  have hgreatest : numerator * (length * Nat.pow 2 (105 - size)) ≤
      (Nat.pow 2 53 - 1) * (length * Nat.pow 2 (105 - size)) :=
    Nat.mul_le_mul_right _ (Nat.le_pred_of_lt hfraction)
  rw [Nat.mul_assoc] at hround
  have hlt : mantissa < length * Nat.pow 2 (105 - size) := by
    generalize length * Nat.pow 2 (105 - size) = scaled at hround hscaled hgreatest ⊢
    generalize numerator * scaled = product at hround hscaled hgreatest
    change 2 * (9007199254740992 * mantissa) ≤ 2 * product + 9007199254740992 at hround
    change 40564819207303340847894502572032 ≤ product at hscaled
    change product ≤ 9007199254740991 * scaled at hgreatest
    omega
  exact Nat.div_lt_of_lt_mul (Nat.mul_comm _ _ ▸ hlt)

end Double

end OperationSamples
