import Mathlib.Algebra.Order.Field.Power
import Mathlib.Data.Int.Log
import Mathlib.Data.Rat.Floor
import Mathlib.Tactic.FieldSimp
import Mathlib.Tactic.Linarith
import Mathlib.Tactic.Positivity
import Mathlib.Tactic.Ring
import TilingConfig.Number.Binary

/-!
# Rounding keeps the order

The bits of a magnitude grow with the number that they stand for, and the nearest bits of
a number grow with the number. So a number between two others is rounded to one between
their roundings: what holds of the roundings of two bounds holds of all that is between.
-/

namespace TilingConfig.Number

/-- The number that a reading stands for, if it is finite. -/
def Reading.value? : Reading → Option ℚ
  | .finite negative significand exponent =>
    some ((if negative then -1 else 1) * (significand * 2 ^ exponent))
  | _ => none

/-! ## Division to the nearest whole number -/

/-- The nearest whole number grows with the fraction. Where both lie between the same two whole
numbers, the smaller fraction is rounded down if the larger is. -/
theorem divideToEven_le_divideToEven {a b c d : ℕ} (hb : 0 < b) (hd : 0 < d)
    (h : a * d ≤ c * b) : divideToEven a b ≤ divideToEven c d := by
  have hquotient : a / b ≤ c / d := by
    rw [Nat.le_div_iff_mul_le hd]
    refine Nat.le_of_mul_le_mul_right ?_ hb
    calc a / b * d * b = a / b * b * d := by ring
      _ ≤ a * d := Nat.mul_le_mul_right d (Nat.div_mul_le_self a b)
      _ ≤ c * b := h
  simp only [divideToEven]
  rcases hquotient.lt_or_eq with hlt | heq
  · split_ifs <;> omega
  rw [heq]
  have hrest : a % b * d ≤ c % d * b := by
    have ha := Nat.div_add_mod a b
    have hc := Nat.div_add_mod c d
    rw [heq] at ha
    nlinarith only [ha, hc, h]
  by_cases hdown : 2 * (c % d) < d ∨ 2 * (c % d) = d ∧ c / d % 2 = 0
  · rw [if_pos hdown, if_pos]
    rcases hdown with hless | ⟨htie, heven⟩
    · exact Or.inl (by nlinarith only [hrest, hless, hb, hd])
    · have hle : 2 * (a % b) ≤ b := by nlinarith only [hrest, htie, hd]
      exact hle.lt_or_eq.imp id fun htie' => ⟨htie', heven⟩
  · rw [if_neg hdown]
    split_ifs <;> omega

theorem divideToEven_one (n : ℕ) : divideToEven n 1 = n := by
  simp [divideToEven, Nat.mod_one]

theorem ratio_scale (num den : ℕ) (exponent : ℤ) :
    ((num * 2 ^ (-exponent).toNat : ℕ) : ℚ) / (den * 2 ^ exponent.toNat : ℕ) =
      num / den * 2 ^ (-exponent) := by
  obtain ⟨n, rfl | rfl⟩ := exponent.eq_nat_or_neg
  · simp [div_eq_mul_inv, mul_assoc, mul_comm]
  · simp [div_eq_mul_inv, mul_right_comm]

/-- So does the nearest multiple of a power of two. -/
theorem scaleToEven_le_scaleToEven {num den num' den' : ℕ} {exponent exponent' : ℤ}
    (hden : 0 < den) (hden' : 0 < den')
    (h : (num / den : ℚ) * 2 ^ (-exponent) ≤ num' / den' * 2 ^ (-exponent')) :
    scaleToEven num den exponent ≤ scaleToEven num' den' exponent' := by
  have hpos : 0 < den * 2 ^ exponent.toNat := by positivity
  have hpos' : 0 < den' * 2 ^ exponent'.toNat := by positivity
  refine divideToEven_le_divideToEven hpos hpos' ?_
  rw [← ratio_scale, ← ratio_scale, div_le_div_iff₀ (by exact_mod_cast hpos)
    (by exact_mod_cast hpos')] at h
  exact_mod_cast h

theorem scaleToEven_le {num den n : ℕ} {exponent : ℤ} (hden : 0 < den)
    (h : (num / den : ℚ) * 2 ^ (-exponent) ≤ n) : scaleToEven num den exponent ≤ n := by
  have hn : scaleToEven n 1 0 = n := by simp [scaleToEven, divideToEven_one]
  rw [← hn]
  exact scaleToEven_le_scaleToEven hden Nat.one_pos (by simpa using h)

theorem le_scaleToEven {num den n : ℕ} {exponent : ℤ} (hden : 0 < den)
    (h : (n : ℚ) ≤ num / den * 2 ^ (-exponent)) : n ≤ scaleToEven num den exponent := by
  have hn : scaleToEven n 1 0 = n := by simp [scaleToEven, divideToEven_one]
  rw [← hn]
  exact scaleToEven_le_scaleToEven Nat.one_pos hden (by simpa using h)

/-! ## The bits of a magnitude -/

/-- The order of magnitude of a fraction is its logarithm. -/
theorem floorLog2_eq_log {num den : ℕ} (hnum : 0 < num) (hden : 0 < den) :
    floorLog2 num den = Int.log 2 (num / den : ℚ) := by
  have hpos : (0 : ℚ) < num / den := by positivity
  have htest (guess : ℤ) : den * 2 ^ guess.toNat ≤ num * 2 ^ (-guess).toNat ↔
      guess ≤ Int.log 2 (num / den : ℚ) := by
    have hscaled : (0 : ℚ) < (den * 2 ^ guess.toNat : ℕ) := by positivity
    rw [← Int.zpow_le_iff_le_log Nat.one_lt_two hpos, ← Nat.cast_le (α := ℚ),
      ← one_le_div hscaled, ratio_scale, zpow_neg, ← div_eq_mul_inv,
      one_le_div (by positivity), Nat.cast_ofNat]
  have hlow : (num.log2 : ℤ) - den.log2 - 1 ≤ Int.log 2 (num / den : ℚ) := by
    rw [← Int.zpow_le_iff_le_log Nat.one_lt_two hpos]
    calc ((2 : ℕ) : ℚ) ^ ((num.log2 : ℤ) - den.log2 - 1)
        = (2 ^ num.log2 : ℕ) / (2 ^ (den.log2 + 1) : ℕ) := by
          rw [sub_sub, zpow_sub₀ (by norm_num)]
          norm_cast
      _ ≤ num / den := by
          gcongr
          · exact Nat.log2_self_le hnum.ne'
          · exact Nat.lt_log2_self.le
  have hhigh : Int.log 2 (num / den : ℚ) < (num.log2 : ℤ) - den.log2 + 1 := by
    rw [← Int.lt_zpow_iff_log_lt Nat.one_lt_two hpos]
    calc (num / den : ℚ) < (2 ^ (num.log2 + 1) : ℕ) / den := by
          gcongr
          exact Nat.lt_log2_self
      _ ≤ (2 ^ (num.log2 + 1) : ℕ) / (2 ^ den.log2 : ℕ) := by
          gcongr
          exact Nat.log2_self_le hden.ne'
      _ = ((2 : ℕ) : ℚ) ^ ((num.log2 : ℤ) - den.log2 + 1) := by
          rw [sub_add_eq_add_sub, zpow_sub₀ (by norm_num)]
          norm_cast
  simp only [floorLog2, htest]
  split_ifs <;> omega

namespace Format

variable (format : Format)

theorem binade_pos : 0 < format.binade := Nat.two_pow_pos _

/-- The exponent of the last place that a fraction is rounded to. -/
def roundingExponent (num den : ℕ) : ℤ :=
  max format.minExponent (floorLog2 num den - (format.precision - 1 : ℕ))

theorem minExponent_le_roundingExponent (num den : ℕ) :
    format.minExponent ≤ format.roundingExponent num den := le_max_left _ _

/-- The bits of a magnitude are an exponent field with a significand added to it. -/
theorem roundMagnitude_of_pos {num : ℕ} (hnum : 0 < num) (den : ℕ) :
    format.roundMagnitude num den = min format.infinityBits
      ((format.roundingExponent num den - format.minExponent).toNat * format.binade +
        scaleToEven num den (format.roundingExponent num den)) := by
  rw [roundMagnitude, if_neg hnum.ne']
  rfl

/-- The significand of a number has at most one bit too many. -/
theorem scaleToEven_le_two_mul_binade {num den : ℕ} (hnum : 0 < num) (hden : 0 < den) :
    scaleToEven num den (format.roundingExponent num den) ≤ 2 * format.binade := by
  have hlog : Int.log 2 (num / den : ℚ) + 1 ≤
      format.roundingExponent num den + (format.precision - 1 : ℕ) + 1 := by
    rw [roundingExponent, floorLog2_eq_log hnum hden]
    omega
  refine scaleToEven_le hden ?_
  rw [zpow_neg, ← div_eq_mul_inv, div_le_iff₀ (by positivity)]
  calc (num / den : ℚ) ≤ 2 ^ (Int.log 2 (num / den : ℚ) + 1) := by
        simpa using (Int.lt_zpow_succ_log_self Nat.one_lt_two (num / den : ℚ)).le
    _ ≤ 2 ^ (format.roundingExponent num den + (format.precision - 1 : ℕ) + 1) :=
        zpow_le_zpow_right₀ one_le_two hlog
    _ = (2 * format.binade : ℕ) * 2 ^ format.roundingExponent num den := by
        rw [binade, zpow_add_one₀ two_ne_zero, zpow_add₀ two_ne_zero, zpow_natCast]
        push_cast
        ring

/-- The significand of a normal number has all its bits. -/
theorem binade_le_scaleToEven {num den : ℕ} (hnum : 0 < num) (hden : 0 < den)
    (hnormal : format.minExponent < format.roundingExponent num den) :
    format.binade ≤ scaleToEven num den (format.roundingExponent num den) := by
  have hlog : format.roundingExponent num den + (format.precision - 1 : ℕ) =
      Int.log 2 (num / den : ℚ) := by
    rw [← floorLog2_eq_log hnum hden]
    rw [roundingExponent] at hnormal ⊢
    omega
  have hpos : (0 : ℚ) < num / den := by positivity
  refine le_scaleToEven hden ?_
  rw [zpow_neg, ← div_eq_mul_inv, le_div_iff₀ (by positivity)]
  calc (format.binade : ℚ) * 2 ^ format.roundingExponent num den =
        2 ^ (format.roundingExponent num den + (format.precision - 1 : ℕ)) := by
        rw [binade, zpow_add₀ two_ne_zero, zpow_natCast]
        push_cast
        ring
    _ = 2 ^ Int.log 2 (num / den : ℚ) := by rw [hlog]
    _ ≤ num / den := by simpa using Int.zpow_log_le_self Nat.one_lt_two hpos

/-- The bits of a magnitude grow with the fraction that is rounded. A larger exponent outweighs
whatever the significand loses. -/
theorem roundMagnitude_le_roundMagnitude {num den num' den' : ℕ} (hden : 0 < den)
    (hden' : 0 < den') (h : (num / den : ℚ) ≤ num' / den') :
    format.roundMagnitude num den ≤ format.roundMagnitude num' den' := by
  rcases num.eq_zero_or_pos with rfl | hnum
  · exact Nat.zero_le _
  have hpos : (0 : ℚ) < num / den := by positivity
  have hnum' : 0 < num' := by
    rcases num'.eq_zero_or_pos with rfl | hnum'
    · rw [Nat.cast_zero, zero_div] at h
      exact absurd hpos h.not_gt
    · exact hnum'
  have hexponent : format.roundingExponent num den ≤ format.roundingExponent num' den' := by
    rw [roundingExponent, roundingExponent, floorLog2_eq_log hnum hden,
      floorLog2_eq_log hnum' hden']
    exact max_le_max_left _ (sub_le_sub_right (Int.log_mono_right hpos h) _)
  have hmin := format.minExponent_le_roundingExponent num den
  rw [roundMagnitude_of_pos format hnum, roundMagnitude_of_pos format hnum']
  refine min_le_min_left _ ?_
  rcases hexponent.lt_or_eq with hlt | heq
  · have hfield : (format.roundingExponent num den - format.minExponent).toNat + 1 ≤
        (format.roundingExponent num' den' - format.minExponent).toNat := by omega
    have hlow := format.binade_le_scaleToEven hnum' hden' (hmin.trans_lt hlt)
    have hhigh := format.scaleToEven_le_two_mul_binade hnum hden
    have hbits := Nat.mul_le_mul_right format.binade hfield
    rw [Nat.add_mul, Nat.one_mul] at hbits
    omega
  · rw [heq]
    exact Nat.add_le_add_left (scaleToEven_le_scaleToEven hden hden' (by gcongr)) _

/-! ## The number behind the bits -/

/-- The number that the bits of a magnitude stand for. -/
def magnitude (bits : ℕ) : ℚ :=
  if bits / format.binade = 0 then (bits % format.binade : ℕ) * 2 ^ format.minExponent
  else (format.binade + bits % format.binade : ℕ) *
    2 ^ (format.minExponent + (bits / format.binade : ℕ) - 1)

/-- A number is at most the smallest of the next exponent. -/
theorem magnitude_le_next (bits : ℕ) : format.magnitude bits ≤
    format.binade * 2 ^ (format.minExponent + (bits / format.binade : ℕ)) := by
  have hfraction := (Nat.mod_lt bits format.binade_pos).le
  rw [magnitude]
  split_ifs with hfield
  · rw [hfield, Nat.cast_zero, add_zero]
    gcongr
  · calc ((format.binade + bits % format.binade : ℕ) : ℚ) *
          2 ^ (format.minExponent + (bits / format.binade : ℕ) - 1) ≤
          (2 * format.binade : ℕ) * 2 ^ (format.minExponent + (bits / format.binade : ℕ) - 1) := by
          gcongr
          omega
      _ = format.binade * 2 ^ (format.minExponent + (bits / format.binade : ℕ)) := by
          rw [zpow_sub_one₀ two_ne_zero]
          push_cast
          ring

/-- A normal number is at least the smallest of its exponent. -/
theorem le_magnitude {bits : ℕ} (hfield : 0 < bits / format.binade) :
    format.binade * 2 ^ (format.minExponent + (bits / format.binade : ℕ) - 1) ≤
      format.magnitude bits := by
  rw [magnitude, if_neg hfield.ne']
  gcongr
  exact Nat.le_add_right _ _

/-- A number grows with its bits. -/
theorem magnitude_le_magnitude {bits bits' : ℕ} (h : bits ≤ bits') :
    format.magnitude bits ≤ format.magnitude bits' := by
  have hfield : bits / format.binade ≤ bits' / format.binade := Nat.div_le_div_right h
  rcases hfield.lt_or_eq with hlt | heq
  · calc format.magnitude bits ≤
          format.binade * 2 ^ (format.minExponent + (bits / format.binade : ℕ)) :=
          format.magnitude_le_next bits
      _ ≤ format.binade * 2 ^ (format.minExponent + (bits' / format.binade : ℕ) - 1) := by
          gcongr
          · exact one_le_two
          · omega
      _ ≤ format.magnitude bits' := format.le_magnitude (Nat.zero_lt_of_lt hlt)
  · have hfraction : bits % format.binade ≤ bits' % format.binade := by
      have hbits := Nat.div_add_mod bits format.binade
      have hbits' := Nat.div_add_mod bits' format.binade
      rw [heq] at hbits
      omega
    rw [magnitude, magnitude, heq]
    split_ifs <;> gcongr

theorem value?_read {bits : ℕ} (h : bits < format.infinityBits) :
    (format.read bits).value? = some (format.magnitude bits) := by
  have hweight : bits < format.signWeight := h.trans_le (Nat.sub_le _ _)
  have hpositive : ¬ format.signWeight ≤ bits := hweight.not_ge
  rw [read, magnitude]
  simp only [Nat.mod_eq_of_lt hweight, h.not_gt, h.ne, hpositive, if_false, decide_false]
  split_ifs <;> simp [Reading.value?]

theorem infinityBits_lt_signWeight : format.infinityBits < format.signWeight :=
  Nat.sub_lt (Nat.two_pow_pos _) format.binade_pos

theorem roundMagnitude_le_infinityBits (num den : ℕ) :
    format.roundMagnitude num den ≤ format.infinityBits := by
  rw [roundMagnitude]
  split
  · exact Nat.zero_le _
  · exact min_le_left _ _

/-- The bits of a rounded number stand for a number or for an infinity. -/
theorem read_round_ne_nan (negative : Bool) (num den : ℕ) :
    format.read (format.round negative num den) ≠ .nan := by
  have hmagnitude := format.roundMagnitude_le_infinityBits num den
  have hmod : format.round negative num den % format.signWeight =
      format.roundMagnitude num den := by
    have hlt := hmagnitude.trans_lt format.infinityBits_lt_signWeight
    rw [round]
    split
    · rw [Nat.add_mod_left, Nat.mod_eq_of_lt hlt]
    · rw [Nat.zero_add, Nat.mod_eq_of_lt hlt]
  rw [read]
  simp only [hmod, hmagnitude.not_gt, if_false]
  split_ifs <;> exact Reading.noConfusion

end Format

/-- A whole number is no NaN. -/
theorem Binary64.reading_ofInt_ne_nan (i : ℤ) : (Binary64.ofInt i).reading ≠ .nan := by
  have hbits : Format.double.round (decide (i < 0)) i.natAbs 1 < 2 ^ 64 := by
    have hmagnitude := Format.double.roundMagnitude_le_infinityBits i.natAbs 1
    have hwidth : Format.double.signWeight + Format.double.infinityBits < 2 ^ 64 := by
      decide
    rw [Format.round]
    split <;> omega
  rw [Binary64.reading, Binary64.ofInt, Binary64.round]
  rw [show (UInt64.ofNat _).toNat = _ from Nat.mod_eq_of_lt hbits]
  exact Format.double.read_round_ne_nan _ _ _

/-- A signed significand over a lower power of two is the number over that power. -/
private theorem cast_scaled (negative : Bool) (significand : ℕ) {exponent low : ℤ}
    (h : low ≤ exponent) :
    (((if negative then -1 else 1) * (significand * 2 ^ (exponent - low).toNat) : ℤ) : ℚ) =
      (if negative then -1 else 1) * (significand * 2 ^ exponent) / 2 ^ low := by
  have hpower : (2 : ℚ) ^ (exponent - low).toNat = 2 ^ exponent / 2 ^ low := by
    rw [← zpow_natCast, Int.toNat_of_nonneg (sub_nonneg.2 h), zpow_sub₀ two_ne_zero]
  push_cast
  rw [hpower]
  ring

/-- The order of finite readings is that of their numbers. -/
theorem Reading.le_iff_of_value? {x y : Reading} {p q : ℚ} (hx : x.value? = some p)
    (hy : y.value? = some q) : x.le y = true ↔ p ≤ q := by
  cases x with
  | finite negative significand exponent =>
    cases y with
    | finite negative' significand' exponent' =>
      obtain rfl := Option.some.inj hx
      obtain rfl := Option.some.inj hy
      rw [Reading.le, decide_eq_true_iff, ← Int.cast_le (R := ℚ)]
      refine Iff.trans (Iff.of_eq (congrArg₂ _ (cast_scaled negative significand
        (min_le_left exponent exponent')) (cast_scaled negative' significand'
        (min_le_right exponent exponent')))) ?_
      exact div_le_div_iff_of_pos_right (by positivity)
    | _ => cases hy
  | _ => cases hx

/-- A number that is rounded from a wider format lies between the roundings of its bounds. -/
theorem Binary64.narrow_between {x : Binary64} {p : ℚ} (hx : x.reading.value? = some p)
    {a b c d : ℕ} (ha : 0 < a) (hb : 0 < b) (hd : 0 < d) (hlow : (a / b : ℚ) ≤ p)
    (hhigh : p ≤ c / d)
    (hfinite : Format.single.roundMagnitude c d < Format.single.infinityBits) :
    ∃ q, x.narrow.reading.value? = some q ∧
      Format.single.magnitude (Format.single.roundMagnitude a b) ≤ q ∧
      q ≤ Format.single.magnitude (Format.single.roundMagnitude c d) := by
  have hpos : 0 < p := lt_of_lt_of_le (by positivity) hlow
  cases hreading : x.reading with
  | finite negative significand exponent =>
    rw [hreading] at hx
    obtain rfl := Option.some.inj hx
    cases negative with
    | true =>
      have hnonneg : (0 : ℚ) ≤ significand * 2 ^ exponent :=
        mul_nonneg (Nat.cast_nonneg _) (zpow_nonneg zero_le_two _)
      rw [if_pos rfl] at hpos
      linarith only [hpos, hnonneg]
    | false =>
      have hratio := ratio_scale significand 1 (-exponent)
      simp only [neg_neg, Nat.one_mul, Nat.cast_one, div_one] at hratio
      simp only [Bool.false_eq_true, if_false, one_mul, ← hratio] at hlow hhigh
      set num := significand * 2 ^ exponent.toNat with hnum
      set den := 2 ^ (-exponent).toNat with hden
      have hdenPos : 0 < den := Nat.two_pow_pos _
      have hlower := Format.single.roundMagnitude_le_roundMagnitude hb hdenPos hlow
      have hupper := Format.single.roundMagnitude_le_roundMagnitude hdenPos hd hhigh
      have hbits := hupper.trans_lt hfinite
      have hnarrow : x.narrow.bits.toNat = Format.single.roundMagnitude num den := by
        have hsmall : Format.single.infinityBits < 2 ^ 32 := by decide
        rw [Binary64.narrow, hreading, Format.ofReading, Format.round, if_neg Bool.false_ne_true,
          Nat.zero_add]
        exact Nat.mod_eq_of_lt (hbits.trans hsmall)
      refine ⟨_, ?_, Format.single.magnitude_le_magnitude hlower,
        Format.single.magnitude_le_magnitude hupper⟩
      rw [Binary32.reading, hnarrow]
      exact Format.single.value?_read hbits
  | _ =>
    rw [hreading] at hx
    cases hx

end TilingConfig.Number
