import TokensFlux.Order.Basic

/-!
# The catch-up loop in any zone and for any period

The loop of `maybeResetUserSubscriptionWithPlanTx` for a zone that may skip a midnight and a plan
whose custom period, which `AdminUpdateSubscriptionPlan` does not bound, may overflow the
nanoseconds of a `time.Duration`.  The next boundary need not lie ahead then, and the loop need not
end: it has a bound on its turns here, and no result when it exceeds it.
-/

namespace TokensFlux

/-- The columns of a plan that reset it, as the handlers of the administrator admit them. -/
structure AdmittedPlan where
  quotaResetPeriod : String
  quotaResetCustomSeconds : ℤ
  int64 : quotaResetCustomSeconds < 9223372036854775808
  positive : normalizeResetPeriod quotaResetPeriod = .custom → 0 < quotaResetCustomSeconds

namespace AdmittedPlan

variable (plan : AdmittedPlan) (zone : Zone)

def calcNextResetTime (base endUnix : ℤ) : ℤ :=
  match normalizeResetPeriod plan.quotaResetPeriod with
  | .never => 0
  | .daily => cutAtEnd endUnix (zone.nextDay base)
  | .weekly => cutAtEnd endUnix (zone.nextMonday base)
  | .monthly => cutAtEnd endUnix (zone.nextMonth base)
  | .custom =>
    if plan.quotaResetCustomSeconds ≤ 0 then 0
    else cutAtEnd endUnix (addSeconds base plan.quotaResetCustomSeconds)

/-- No result when the loop does not end within `fuel` turns. -/
def catchUp (endTime now : ℤ) : ℕ → ℤ → ℤ → Bool → Option (ℤ × ℤ × Bool)
  | 0, _, _, _ => none
  | fuel + 1, base, next, advanced =>
    if 0 < next ∧ next ≤ now then
      catchUp endTime now fuel next (plan.calcNextResetTime zone next endTime) true
    else some (base, next, advanced)

end AdmittedPlan

end TokensFlux
