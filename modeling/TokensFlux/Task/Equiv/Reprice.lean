import Mathlib.Algebra.Order.BigOperators.GroupWithZero.List
import TokensFlux.Task.Equiv.Price

/-!
# The price after the ratios of the answer

`recalcQuotaFromRatios` divides the quota of the submission by its ratios, which gives the base
quota back only where they were multiplied in and nothing was cut off.
-/

namespace TokensFlux

open List

namespace PriceData

variable {p : PriceData} {ratios : List (String × ℚ)}

theorem addOtherRatios_of_nodup (hnodup : ((ratios ++ p.otherRatios).map Prod.fst).Nodup)
    (hvalid : ∀ r ∈ ratios, 0 < r.2) :
    p.addOtherRatios ratios = { p with otherRatios := ratios.reverse ++ p.otherRatios } := by
  induction ratios generalizing p with
  | nil => rfl
  | cons r ratios ih =>
    have hfresh : ∀ r' ∈ p.otherRatios, r'.1 ≠ r.1 := by
      intro r' hr' heq
      exact (nodup_cons.mp hnodup).1 (heq ▸ mem_map_of_mem (mem_append_right _ hr'))
    have hadded : p.addOtherRatio r.1 r.2 = { p with otherRatios := r :: p.otherRatios } := by
      unfold addOtherRatio
      rw [if_pos (show isValidOtherRatio r.2 = true from decide_eq_true (hvalid r mem_cons_self)),
        filter_eq_self.mpr]
      intro r' hr'
      exact decide_eq_true (hfresh r' hr')
    rw [addOtherRatios, foldl_cons, hadded]
    refine (ih ?_ fun r hr => hvalid r (mem_cons_of_mem _ hr)).trans ?_
    · exact (perm_middle.map Prod.fst).nodup_iff.mpr hnodup
    · rw [reverse_cons, append_assoc]
      rfl

/-- A ratio of one may be skipped. -/
theorem foldl_valid {op : ℚ → ℚ → ℚ} (hone : ∀ v, op v 1 = v)
    (h : ∀ r ∈ ratios, 0 < r.2) (value : ℚ) :
    ratios.foldl (fun v r => if isValidOtherRatio r.2 ∧ r.2 ≠ 1 then op v r.2 else v) value
      = ratios.foldl (fun v r => op v r.2) value := by
  induction ratios generalizing value with
  | nil => rfl
  | cons r _ ih =>
    have hvalid : isValidOtherRatio r.2 = true := decide_eq_true (h r mem_cons_self)
    rw [foldl_cons, foldl_cons, ih fun r hr => h r (mem_cons_of_mem _ hr)]
    by_cases heq : r.2 = 1
    · rw [if_neg fun h => h.2 heq, heq, hone]
    · rw [if_pos ⟨hvalid, heq⟩]

theorem foldl_mul_snd (value : ℚ) :
    ratios.foldl (fun v r => v * r.2) value = value * (ratios.map Prod.snd).prod := by
  induction ratios generalizing value with
  | nil => exact (mul_one value).symm
  | cons _ _ ih => rw [foldl_cons, ih, map_cons, prod_cons, mul_assoc]

theorem foldl_div_snd (value : ℚ) :
    ratios.foldl (fun v r => v / r.2) value = value / (ratios.map Prod.snd).prod := by
  induction ratios generalizing value with
  | nil => exact (div_one value).symm
  | cons _ _ ih => rw [foldl_cons, ih, map_cons, prod_cons, div_div]

theorem otherRatioMultiplier_eq (hratios : p.otherRatios.Perm ratios)
    (hvalid : ∀ r ∈ ratios, 0 < r.2) :
    p.otherRatioMultiplier = (ratios.map Prod.snd).prod := by
  rw [otherRatioMultiplier, foldl_valid mul_one fun r hr => hvalid r (hratios.mem_iff.mp hr),
    foldl_mul_snd, one_mul, (hratios.map _).prod_eq]

variable {adjusted : List (String × ℚ)}

theorem recalcQuotaFromRatios_eq (hratios : p.otherRatios.Perm ratios)
    (hvalid : ∀ r ∈ ratios, 0 < r.2) (hne : adjusted ≠ []) (hnodup : (adjusted.map Prod.fst).Nodup)
    (hadjusted : ∀ r ∈ adjusted, 0 < r.2) :
    recalcQuotaFromRatios p adjusted
      = some (quotaFromFloat ((adjusted.map Prod.snd).prod *
        (p.quota / (ratios.map Prod.snd).prod))) := by
  have hreplaced : { p with otherRatios := [] }.addOtherRatios adjusted =
    { p with otherRatios := adjusted.reverse } := by
    rw [addOtherRatios_of_nodup (by simpa using hnodup) hadjusted, append_nil]
  have hbase : p.removeOtherRatiosFromFloat p.quota = p.quota / (ratios.map Prod.snd).prod := by
    rw [removeOtherRatiosFromFloat, foldl_valid div_one fun r hr =>
      hvalid r (hratios.mem_iff.mp hr), foldl_div_snd, (hratios.map _).prod_eq]
  have hmultiplier : { p with otherRatios := adjusted.reverse }.otherRatioMultiplier =
    (adjusted.map Prod.snd).prod :=
    otherRatioMultiplier_eq (reverse_perm adjusted) hadjusted
  unfold recalcQuotaFromRatios replaceOtherRatios applyOtherRatiosToFloat
  dsimp only
  rw [hreplaced, if_pos (by simpa using hne), hbase, hmultiplier, mul_comm]

end PriceData

theorem quotaFromFloat_eq_self_iff {x : ℚ} (hx : 0 ≤ x) :
    (quotaFromFloat x : ℚ) = x ↔ (∃ n : ℤ, x = n) ∧ x ≤ maxQuota := by
  constructor
  · intro h
    refine ⟨⟨_, h.symm⟩, ?_⟩
    rw [← h]
    exact_mod_cast (saturateQuota_mem x).2
  rintro ⟨⟨n, rfl⟩, hle⟩
  have hn : 0 ≤ n := by exact_mod_cast hx
  have hle' : n ≤ maxQuota := by exact_mod_cast hle
  rw [quotaFromFloat, saturateQuota_intCast, min_eq_left hle',
    max_eq_right (le_trans (by decide) hn)]

/-- For any ratios of an answer, a map that is not empty. -/
def RecalculatesFrom (baseQuota : ℤ) (p : PriceData) : Prop :=
  ∀ adjusted : List (String × ℚ), adjusted ≠ [] → (adjusted.map Prod.fst).Nodup →
    (∀ r ∈ adjusted, 0 < r.2) → recalcQuotaFromRatios p adjusted =
      some (quotaFromFloat (baseQuota * (adjusted.map Prod.snd).prod))

/-- **The recalculation forgets the estimated ratios if and only if** they were multiplied in
without a loss, or, for a patched model that is never charged for them, change nothing. -/
theorem recalcQuotaFromRatios_forgets_iff {env : BillingEnv} {settings : PriceSettings}
    {info info' : RelayInfo}
    {a : SubmitAttempt} {p₀ p : PriceData} (hbase : basePrice env settings info a = (info', .ok p₀))
    (hprice : priceTask env settings info a = (info', .ok p)) (hquota : 0 ≤ p₀.quota)
    (hnodup : (a.estimatedRatios.map Prod.fst).Nodup) (hvalid : ∀ r ∈ a.estimatedRatios, 0 < r.2) :
    RecalculatesFrom p₀.quota p ↔
    if a.modelName ∈ settings.taskPricePatches then p₀.quota = 0 ∨
      (a.estimatedRatios.map Prod.snd).prod = 1
    else (∃ n : ℤ, p₀.quota * (a.estimatedRatios.map Prod.snd).prod = n) ∧
      p₀.quota * (a.estimatedRatios.map Prod.snd).prod ≤ maxQuota := by
  obtain ⟨p₁, hbase', hp, -⟩ := priceTask_ok hprice
  obtain rfl : p₀ = p₁ := by
    rw [hbase] at hbase'
    exact Except.ok.inj (Prod.mk.inj hbase').2
  set product := (a.estimatedRatios.map Prod.snd).prod with hproduct
  have hpos : 0 < product := List.prod_pos fun _ hx => by
    obtain ⟨r, hr, rfl⟩ := mem_map.mp hx
    exact hvalid r hr
  have hadded : (p₀.addOtherRatios a.estimatedRatios).otherRatios.Perm a.estimatedRatios := by
    obtain ⟨hempty, -⟩ := basePrice_ok hbase
    rw [PriceData.addOtherRatios_of_nodup (by rwa [hempty, append_nil]) hvalid, hempty, append_nil]
    exact reverse_perm _
  have hratios : p.otherRatios.Perm a.estimatedRatios := by
    rw [hp]
    exact hadded
  -- Every positive factor can be the product of the answer's ratios, so the recovered base has to
  -- be the base.
  have hexact : RecalculatesFrom p₀.quota p ↔ (p.quota / product : ℚ) = p₀.quota := by
    constructor
    · intro h
      have hall : ∀ k, 0 < k → quotaFromFloat (k * (p.quota / product)) =
          quotaFromFloat (k * p₀.quota) := by
        intro k hk
        have hk' : ∀ r ∈ [("k", k)], 0 < r.2 := by simpa using hk
        have hkeys : ([("k", k)].map Prod.fst).Nodup := nodup_singleton _
        have heq := h [("k", k)] (cons_ne_nil _ _) hkeys hk'
        rw [PriceData.recalcQuotaFromRatios_eq hratios hvalid (cons_ne_nil _ _) hkeys hk'] at heq
        simpa [mul_comm k] using heq
      by_contra hne
      rcases lt_or_gt_of_ne hne with hlt | hlt
      · obtain ⟨k, hk, hscale⟩ := exists_scale_ne hlt
        exact hscale (hall k hk)
      · obtain ⟨k, hk, hscale⟩ := exists_scale_ne hlt
        exact hscale (hall k hk).symm
    · intro heq adjusted hne hkeys hadjusted
      rw [PriceData.recalcQuotaFromRatios_eq hratios hvalid hne hkeys hadjusted, heq, mul_comm]
  have hbound : (0 : ℚ) ≤ p₀.quota * product := mul_nonneg (by exact_mod_cast hquota) hpos.le
  have hestimated : p.quota = estimatedQuota settings a p₀ := by rw [hp]
  have hmultiplied : (p₀.addOtherRatios a.estimatedRatios).applyOtherRatiosToFloat p₀.quota =
      p₀.quota * product := by
    rw [PriceData.applyOtherRatiosToFloat, PriceData.otherRatioMultiplier_eq hadded hvalid]
  rw [hexact, div_eq_iff hpos.ne', hestimated, estimatedQuota, hmultiplied]
  split_ifs
  · rw [eq_comm, mul_right_eq_self₀, or_comm, Int.cast_eq_zero]
  · exact quotaFromFloat_eq_self_iff hbound

def SubmitAttempt.seconds (seconds : ℚ) : SubmitAttempt :=
  { SubmitAttempt.sample (.ok { upstreamTaskId := "u" }) with estimatedRatios :=
      [("seconds", seconds)] }

theorem recalcQuotaFromRatios_forgets_seconds :
    ∃ info p, priceTask .standard .sample (.sample "") (.seconds 8) = (info, .ok p) ∧
    p.quota = 80 ∧ recalcQuotaFromRatios p [("seconds", 3)] = some 30 := by
  have hiff := @recalcQuotaFromRatios_forgets_iff .standard .sample (.sample "") _ (.seconds 8) _ _
    rfl rfl (by decide +kernel) (by decide) (by decide)
  refine ⟨_, _, rfl, by decide +kernel, ?_⟩
  refine (hiff.mpr ?_ [("seconds", 3)] (by decide) (by decide) (by decide)).trans
    (by decide +kernel)
  exact ⟨⟨80, by decide +kernel⟩, by decide +kernel⟩

/-- A patched model is charged 10, whatever the estimate; the answer repeats the estimate of 8
seconds, and the recalculation takes the 10 for the price of 8 seconds. -/
theorem recalcQuotaFromRatios_patched :
    let settings := { PriceSettings.sample with taskPricePatches := ["m"] }
    ∃ info p₀ p, basePrice .standard settings (.sample "") (.seconds 8) = (info, .ok p₀) ∧
      priceTask .standard settings (.sample "") (.seconds 8) = (info, .ok p) ∧ p₀.quota = 10 ∧
      recalcQuotaFromRatios p [("seconds", 8)] = some 10 ∧ quotaFromFloat (p₀.quota * 8) = 80 := by
  exact ⟨_, _, _, rfl, rfl, by decide +kernel, by decide +kernel, by decide +kernel⟩

end TokensFlux
