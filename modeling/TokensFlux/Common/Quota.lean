import Mathlib.Data.Rat.Floor

/-!
# Quota conversions

Every computed quota is kept in the range of a 32-bit column by `saturateQuota`.
-/

namespace TokensFlux

def maxQuota : ℤ := 2147483647

def minQuota : ℤ := -2147483648

variable (x : ℚ)

def truncate : ℤ :=
  x.num.tdiv x.den

def saturateQuota (value : ℚ) : ℤ :=
  if maxQuota ≤ value then maxQuota
  else if value ≤ minQuota then minQuota
  else truncate value

def roundAway : ℤ :=
  if 0 ≤ x then ⌊x + 1 / 2⌋ else -⌊-x + 1 / 2⌋

def quotaFromDecimal (d : ℚ) : ℤ :=
  saturateQuota (roundAway d)

def quotaFromFloat (value : ℚ) : ℤ :=
  saturateQuota value

@[simp]
theorem truncate_intCast (n : ℤ) : truncate n = n := by
  rw [truncate, Rat.num_intCast, Rat.den_intCast, Nat.cast_one, Int.tdiv_one]

theorem truncate_of_nonneg {x : ℚ} (hx : 0 ≤ x) : truncate x = ⌊x⌋ := by
  have hnum := Rat.num_nonneg.mpr hx
  rw [truncate, Int.tdiv_eq_ediv_of_nonneg hnum, Rat.floor_def']

theorem truncate_neg : truncate (-x) = -truncate x := by
  rw [truncate, truncate, Rat.num_neg_eq_neg_num, Rat.den_neg_eq_den, Int.neg_tdiv]

theorem truncate_nonpos {x : ℚ} (hx : x ≤ 0) : truncate x ≤ 0 := by
  have hneg : 0 ≤ -x := by linarith
  have h := truncate_of_nonneg hneg
  have hfloor := Int.floor_nonneg.mpr hneg
  rw [truncate_neg] at h
  omega

theorem saturateQuota_intCast (n : ℤ) : saturateQuota n = max minQuota (min n maxQuota) := by
  unfold saturateQuota
  rw [truncate_intCast]
  simp only [Int.cast_le]
  unfold minQuota maxQuota
  split_ifs <;> omega

theorem truncate_mem {x : ℚ} {m n : ℤ} (hm : m ≤ 0) (hn : 0 ≤ n) (hmx : m < x + 1)
    (hxn : x < n + 1) :
    m ≤ truncate x ∧ truncate x ≤ n := by
  rcases le_total 0 x with hx | hx
  · rw [truncate_of_nonneg hx]
    have hfloor := Int.floor_nonneg.mpr hx
    have hlt : ⌊x⌋ < n + 1 := Int.floor_lt.mpr (by exact_mod_cast hxn)
    omega
  have hneg : 0 ≤ -x := by linarith
  have htruncate := truncate_of_nonneg hneg
  have hlt : ⌊-x⌋ < -m + 1 := Int.floor_lt.mpr (by push_cast; linarith)
  have hfloor := Int.floor_nonneg.mpr hneg
  rw [truncate_neg] at htruncate
  omega

theorem saturateQuota_mem : minQuota ≤ saturateQuota x ∧ saturateQuota x ≤ maxQuota := by
  unfold saturateQuota
  split_ifs with hmax hmin
  · decide
  · decide
  · exact truncate_mem (by decide) (by decide) (by linarith) (by linarith)

theorem quotaFromFloat_quotaFromFloat : quotaFromFloat (quotaFromFloat x) = quotaFromFloat x := by
  obtain ⟨hmin, hmax⟩ := saturateQuota_mem x
  unfold quotaFromFloat
  rw [saturateQuota_intCast, min_eq_left hmax, max_eq_right hmin]

theorem roundAway_nonneg {x : ℚ} (hx : 0 ≤ x) : 0 ≤ roundAway x := by
  rw [roundAway, if_pos hx, Int.floor_nonneg]
  linarith

theorem roundAway_eq_zero_iff {x : ℚ} (hx : 0 ≤ x) : roundAway x = 0 ↔ x < 1 / 2 := by
  rw [roundAway, if_pos hx, Int.floor_eq_zero_iff, Set.mem_Ico]
  constructor
  · rintro ⟨-, h⟩
    linarith
  · intro h
    constructor <;> linarith

theorem quotaFromDecimal_nonneg {d : ℚ} (hd : 0 ≤ d) : 0 ≤ quotaFromDecimal d := by
  have := roundAway_nonneg hd
  rw [quotaFromDecimal, saturateQuota_intCast]
  unfold minQuota maxQuota
  omega

theorem quotaFromDecimal_eq_zero_iff {d : ℚ} (hd : 0 ≤ d) : quotaFromDecimal d = 0 ↔ d < 1 / 2 := by
  have := roundAway_nonneg hd
  rw [← roundAway_eq_zero_iff hd, quotaFromDecimal, saturateQuota_intCast]
  unfold minQuota maxQuota
  omega

end TokensFlux
