import Mathlib.Data.List.Sort
import TokensFlux.Common.Str
import TokensFlux.Store.Basic
import TokensFlux.Subscription.Calendar

/-!
# Charging and refunding subscriptions

`RefundSubscriptionPreConsume` marks the record in its own transaction, but the amount is returned
by `PostConsumeUserSubscriptionDelta`, which commits another one in between.
-/

namespace TokensFlux

/-! ### The period reset -/

inductive ResetPeriod
  | never
  | daily
  | weekly
  | monthly
  | custom
deriving DecidableEq, Repr

def normalizeResetPeriod (period : String) : ResetPeriod :=
  if trimSpace period = "daily" then .daily
  else if trimSpace period = "weekly" then .weekly
  else if trimSpace period = "monthly" then .monthly
  else if trimSpace period = "custom" then .custom
  else .never

def cutAtEnd (endUnix next : ℤ) : ℤ := if 0 < endUnix ∧ endUnix < next then 0 else next

variable (cal : Calendar)

/-- Zero when there is no boundary before `endUnix`. -/
def calcNextResetTime (base : ℤ) (plan : SubscriptionPlan) (endUnix : ℤ) : ℤ :=
  match normalizeResetPeriod plan.quotaResetPeriod with
  | .never => 0
  | .daily => cutAtEnd endUnix (cal.nextDay base)
  | .weekly => cutAtEnd endUnix (cal.nextMonday base)
  | .monthly => cutAtEnd endUnix (cal.nextMonth base)
  | .custom =>
    if plan.quotaResetCustomSeconds ≤ 0 then 0
    else cutAtEnd endUnix (base + plan.quotaResetCustomSeconds)

theorem cutAtEnd_eq_zero_or_lt {base next : ℤ} (endUnix : ℤ) (h : base < next) :
    cutAtEnd endUnix next = 0 ∨ base < cutAtEnd endUnix next := by
  unfold cutAtEnd
  split_ifs
  · exact .inl rfl
  · exact .inr h

theorem calcNextResetTime_eq_zero_or_lt (base : ℤ) (plan : SubscriptionPlan) (endUnix : ℤ) :
    calcNextResetTime cal base plan endUnix = 0 ∨
      base < calcNextResetTime cal base plan endUnix := by
  unfold calcNextResetTime
  split
  · exact .inl rfl
  · exact cutAtEnd_eq_zero_or_lt endUnix (cal.regular.lt_nextDay base)
  · exact cutAtEnd_eq_zero_or_lt endUnix (cal.regular.lt_nextMonday base)
  · exact cutAtEnd_eq_zero_or_lt endUnix (cal.regular.lt_nextMonth base)
  · split_ifs with hcustom
    · exact .inl rfl
    · exact cutAtEnd_eq_zero_or_lt endUnix (by omega)

def UserSubscription.create (now endUnix userId planId totalAmount : ℤ)
    (allowWalletOverflow : Bool) (plan : SubscriptionPlan) : UserSubscription :=
  let nextReset := calcNextResetTime cal now plan endUnix
  { userId, planId
    amountTotal := totalAmount
    amountUsed := 0
    startTime := now
    endTime := endUnix
    status := .active
    lastResetTime := if 0 < nextReset then now else 0
    nextResetTime := nextReset
    allowWalletOverflow }

/-- The last boundary passed, the next one and whether any was passed. -/
def catchUp (cal : Calendar) (plan : SubscriptionPlan) (endTime now base next : ℤ)
    (advanced : Bool) : ℤ × ℤ × Bool :=
  if 0 < next ∧ next ≤ now then
    catchUp cal plan endTime now next (calcNextResetTime cal next plan endTime) true
  else (base, next, advanced)
termination_by if next ≤ 0 then 0 else (now + 1 - next).toNat
decreasing_by
  have := calcNextResetTime_eq_zero_or_lt cal next plan endTime
  split_ifs <;> omega

def Store.saveSub (tx : Store) (fault : Option Err) (id : ℤ) (sub : UserSubscription) :
    Except Err Store :=
  match fault with
  | some e => .error e
  | none => .ok { tx with subs := tx.subs.insert id sub }

/-- What is written after the loop: nothing, only a schedule that has not been set yet, or a zero
used amount when a boundary has passed. -/
def UserSubscription.resetTo (sub : UserSubscription) : ℤ × ℤ × Bool → Option UserSubscription
  | (base, next, advanced) =>
    if !advanced then
      if sub.nextResetTime = 0 ∧ 0 < next then
        some { sub with nextResetTime := next, lastResetTime := base }
      else none
    else some { sub with amountUsed := 0, lastResetTime := base, nextResetTime := next }

/-- `none` when nothing is due. -/
def dueReset (sub : UserSubscription) (plan : SubscriptionPlan) (now : ℤ) :
    Option UserSubscription :=
  if 0 < sub.nextResetTime ∧ now < sub.nextResetTime then none
  else if normalizeResetPeriod plan.quotaResetPeriod = .never then none
  else
    -- A subscription that was never reset counts its periods from its start.
    let baseUnix := if sub.lastResetTime ≤ 0 then sub.startTime else sub.lastResetTime
    let next := calcNextResetTime cal baseUnix plan sub.endTime
    sub.resetTo (catchUp cal plan sub.endTime now baseUnix next false)

/-- The subscription as it leaves the function and the tables of the transaction. -/
def Store.saveReset (tx : Store) (fault : Option Err) (id : ℤ) (sub : UserSubscription) :
    Option UserSubscription → Except Err (UserSubscription × Store)
  | none => .ok (sub, tx)
  | some sub => (tx.saveSub fault id sub).map fun tx => (sub, tx)

def maybeResetUserSubscriptionWithPlanTx (tx : Store) (fault : Option Err) (id : ℤ)
    (sub : UserSubscription) (plan : SubscriptionPlan) (now : ℤ) :
    Except Err (UserSubscription × Store) :=
  tx.saveReset fault id sub (dueReset cal sub plan now)

/-! ### Transactions -/

structure TxFaults where
  start : Option Err := none
  select : Option Err := none
  save : Option Err := none
  commit : Option Err := none
deriving DecidableEq

def commitTx {α : Type*} (commit : Option Err) (result : Except Err α) : Except Err α :=
  match result, commit with
  | .error e, _ => .error e
  | .ok _, some e => .error e
  | .ok a, none => .ok a

/-! ### Queries -/

variable (s : Store)

/-- `ORDER BY end_time ASC, id ASC`. -/
def Store.activeSubscriptions (userId now : ℤ) : List (ℤ × UserSubscription) :=
  List.insertionSort (fun a b => a.2.endTime < b.2.endTime ∨
    (a.2.endTime = b.2.endTime ∧ a.1 ≤ b.1))
    ((s.subs.entries.map fun e => (e.1, e.2)).filter fun r =>
      r.2.userId = userId ∧ r.2.status = .active ∧ now < r.2.endTime)

variable (fault : Option Err)

def Store.hasActiveUserSubscription (userId now : ℤ) : Except Err Bool :=
  if userId ≤ 0 then .error "invalid userId"
  else
    match fault with
    | some e => .error e
    | none => .ok (0 < (s.activeSubscriptions userId now).length)

/-- One strict subscription forbids the fallback. -/
def Store.userActiveSubscriptionsAllowWalletOverflow (userId now : ℤ) : Except Err Bool :=
  if userId ≤ 0 then .error "invalid userId"
  else
    match fault with
    | some e => .error e
    | none =>
      .ok (((s.activeSubscriptions userId now).filter fun r => !r.2.allowWalletOverflow).length = 0)

def Store.getSubscriptionPlanById (id : ℤ) : Except Err SubscriptionPlan :=
  if id ≤ 0 then .error "invalid plan id"
  else
    match fault, s.plans id with
    | some e, _ => .error e
    | none, none => .error "record not found"
    | none, some plan => .ok plan

def Store.getSubscriptionPlanInfo (id : ℤ) : Except Err (ℤ × String) :=
  if id ≤ 0 then .error "invalid userSubscriptionId"
  else
    match fault, s.subs.lookup id with
    | some e, _ => .error e
    | none, none => .error "record not found"
    | none, some sub =>
      (s.getSubscriptionPlanById none sub.planId).map fun plan => (sub.planId, plan.title)

/-! ### Settling a difference -/

theorem cut_nonneg (used : ℤ) : 0 ≤ if used < 0 then 0 else used := by
  split_ifs <;> omega

/-- The result is cut at zero from below and refused above the total. -/
def Store.postConsumeUserSubscriptionDelta (f : TxFaults) (id delta : ℤ) : Except Err Store :=
  if id ≤ 0 then .error "invalid userSubscriptionId"
  else if delta = 0 then .ok s
  else
    match f.start, f.select, s.subs.lookup id with
    | some e, _, _ => .error e
    | none, some e, _ => .error e
    | none, none, none => .error "record not found"
    | none, none, some sub =>
      let newUsed := sub.amountUsed + delta
      -- A refund larger than what is used is cut, not refused.
      let newUsed := if newUsed < 0 then 0 else newUsed
      if 0 < sub.amountTotal ∧ sub.amountTotal < newUsed then
        .error (s!"subscription used exceeds total, used={newUsed} total={sub.amountTotal}")
      else commitTx f.commit (s.saveSub f.save id (sub.setUsed newUsed (cut_nonneg _)))

/-! ### Pre-consuming -/

structure SubscriptionPreConsumeResult where
  userSubscriptionId : ℤ
  preConsumed : ℤ
  amountTotal : ℤ
  amountUsedBefore : ℕ
  amountUsedAfter : ℕ
deriving DecidableEq, Repr

/-- Those of the candidate loop are told apart by the id of the candidate. -/
structure PreConsumeFaults where
  start : Option Err := none
  findRecord : Option Err := none
  firstSub : Option Err := none
  findSubs : Option Err := none
  plan : ℤ → Option Err := fun _ => none
  resetSave : ℤ → Option Err := fun _ => none
  create : Option Err := none
  dup : Option Err := none
  save : Option Err := none
  commit : Option Err := none

def Store.createRecord (tx : Store) (fault : Option Err) (requestId : String)
    (record : SubscriptionPreConsumeRecord) : Except Err Store :=
  match fault, tx.records.lookup requestId with
  | some e, _ => .error e
  | none, some _ => .error "UNIQUE constraint failed: subscription_pre_consume_records.request_id"
  | none, none => .ok { tx with records := tx.records.insert requestId record }

theorem UserSubscription.charged_nonneg (sub : UserSubscription) {amount : ℤ} (h : 0 < amount) :
    0 ≤ sub.amountUsed + amount := by
  omega

/-- When the record cannot be created because the request is already recorded, that record is
reported. -/
def Store.chargeCandidate (tx : Store) (f : PreConsumeFaults) (requestId : String)
    (userId amount id : ℤ) (hamount : 0 < amount) (sub : UserSubscription) :
    Except Err (SubscriptionPreConsumeResult × Store) :=
  match tx.createRecord f.create requestId ⟨userId, id, amount, .consumed⟩ with
  | .error e =>
    match f.dup, tx.records.lookup requestId with
    -- The id reported is that of the candidate, the amount that of the record.
    | none, some dup =>
      if dup.status = .refunded then .error "subscription pre-consume already refunded"
      else .ok (⟨id, dup.preConsumed, sub.amountTotal, sub.amountUsed, sub.amountUsed⟩, tx)
    | _, _ => .error e
  | .ok tx =>
    let charged := sub.setUsed (sub.amountUsed + amount) (sub.charged_nonneg hamount)
    (tx.saveSub f.save id charged).map fun tx =>
      (⟨id, amount, sub.amountTotal, sub.amountUsed, charged.amountUsed⟩, tx)

def Store.preConsumeFrom (cal : Calendar) (f : PreConsumeFaults) (requestId : String)
    (userId amount now : ℤ) (hamount : 0 < amount) :
    List (ℤ × UserSubscription) → Store → Except Err (SubscriptionPreConsumeResult × Store)
  | [], _ => .error (s!"subscription quota insufficient, need={amount}")
  | (id, candidate) :: rest, tx =>
    match tx.getSubscriptionPlanById (f.plan id) candidate.planId with
    | .error e => .error e
    | .ok plan =>
      match maybeResetUserSubscriptionWithPlanTx cal tx (f.resetSave id) id candidate plan now with
      | .error e => .error e
      | .ok (sub, tx) =>
        -- A total of zero means unlimited.  A reset that was written for a skipped candidate stays
        -- in `tx`.
        if 0 < sub.amountTotal ∧ sub.amountTotal - sub.amountUsed < amount then
          Store.preConsumeFrom cal f requestId userId amount now hamount rest tx
        else tx.chargeCandidate f requestId userId amount id hamount sub

def Store.preConsumeTx (cal : Calendar) (f : PreConsumeFaults) (requestId : String)
    (userId amount now : ℤ) (hamount : 0 < amount) :
    Except Err (SubscriptionPreConsumeResult × Store) :=
  match f.start, f.findRecord with
  | some e, _ => .error e
  | none, some e => .error e
  | none, none =>
    match s.records.lookup requestId with
    | some existing =>
      if existing.status = .refunded then .error "subscription pre-consume already refunded"
      else
        match f.firstSub, s.subs.lookup existing.userSubscriptionId with
        | some e, _ => .error e
        | none, none => .error "record not found"
        | none, some sub =>
          -- A repeated request is answered from its record and charges nothing.
          .ok (⟨existing.userSubscriptionId, existing.preConsumed, sub.amountTotal,
            sub.amountUsed, sub.amountUsed⟩, s)
    | none =>
      match f.findSubs, s.activeSubscriptions userId now with
      -- The source replaces the error of the query by its own.
      | some _, _ => .error "no active subscription"
      | none, [] => .error "no active subscription"
      | none, candidates =>
        Store.preConsumeFrom cal f requestId userId amount now hamount candidates s

def Store.preConsumeUserSubscription (cal : Calendar) (f : PreConsumeFaults)
    (requestId : String) (userId amount now : ℤ) :
    Except Err (SubscriptionPreConsumeResult × Store) :=
  if userId ≤ 0 then .error "invalid userId"
  else if trimSpace requestId = "" then .error "requestId is empty"
  else if hamount : amount ≤ 0 then .error "amount must be > 0"
  else commitTx f.commit (s.preConsumeTx cal f requestId userId amount now (Int.not_le.mp hamount))

/-! ### Refunding -/

/-- `inner` is for the transaction of the `PostConsumeUserSubscriptionDelta` it calls. -/
structure RefundFaults where
  start : Option Err := none
  select : Option Err := none
  inner : TxFaults := {}
  save : Option Err := none
  commit : Option Err := none

def Store.markRefunded (f : RefundFaults) (requestId : String)
    (record : SubscriptionPreConsumeRecord) : Store × Option Err :=
  match f.save, f.commit with
  | some e, _ => (s, some e)
  | none, some e => (s, some e)
  | none, none =>
    ({ s with records := s.records.insert requestId { record with status := .refunded } }, none)

/-- The amount is returned in a transaction that is committed before the one that marks the record.
-/
def Store.refundSubscriptionPreConsume (f : RefundFaults) (requestId : String) :
    Store × Option Err :=
  if trimSpace requestId = "" then (s, some "requestId is empty")
  else
    match f.start, f.select, s.records.lookup requestId with
    | some e, _, _ => (s, some e)
    | none, some e, _ => (s, some e)
    | none, none, none => (s, some "record not found")
    | none, none, some record =>
      if record.status = .refunded then (s, f.commit)
      else if record.preConsumed ≤ 0 then s.markRefunded f requestId record
      else
        match s.postConsumeUserSubscriptionDelta f.inner record.userSubscriptionId
          (-record.preConsumed) with
        | .error e => (s, some e)
        | .ok s => s.markRefunded f requestId record

/-- Up to `n` further attempts, stopping at the first success. -/
def retryLoop {σ : Type*} (fn : ℕ → σ → σ × Option Err) (lastErr : Option Err) :
    ℕ → ℕ → σ → σ × Option Err
  | 0, _, s => (s, lastErr)
  | n + 1, i, s =>
    match fn i s with
    | (s, none) => (s, none)
    | (s, some e) => retryLoop fn (some e) n (i + 1) s

/-- At most three attempts; `fn i` is the `i`-th call of the refund function. -/
def refundWithRetry {σ : Type*} (fn : ℕ → σ → σ × Option Err) (s : σ) : σ × Option Err :=
  retryLoop fn none 3 0 s

end TokensFlux
