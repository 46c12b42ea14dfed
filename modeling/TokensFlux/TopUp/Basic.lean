import TokensFlux.Common.Quota
import TokensFlux.Subscription.Basic

/-!
# Top-up orders

Only `EpayNotify` reads the row, saves it and credits the user in three statements, under a mutex of
the process.
-/

namespace TokensFlux

inductive TopUpStatus
  | pending
  | success
  | failed
  | expired
deriving DecidableEq, Repr

/-- `unset` is the empty default of the column. -/
inductive PaymentProvider
  | unset
  | epay
  | stripe
  | creem
  | waffo
  | waffoPancake
  | balance
deriving DecidableEq, Repr

/-- The trade number is the key of its row. -/
structure TopUp where
  userId : ℤ
  amount : ℤ
  money : ℚ
  paymentMethod : String
  paymentProvider : PaymentProvider
  createTime : ℤ
  completeTime : ℤ
  status : TopUpStatus
deriving DecidableEq, Repr

/-- The orders, the quota of the users, and the two columns of `users` that a notice may fill in. -/
structure TopUpStore where
  billing : Store
  topUps : AList fun _ : String => TopUp
  stripeCustomer : ℤ → String
  email : ℤ → String

/-- `addedFloat` is by how much the column of a user's quota grows when a float is added to it. -/
structure TopUpEnv where
  quotaPerUnit : ℚ
  addedFloat : ℚ → ℤ

structure TopUpFaults extends TxFaults where
  user : Option Err := none
  update : Option Err := none
  now : ℤ := 0

structure Credit where
  userId : ℤ
  quota : ℤ
deriving DecidableEq, Repr

def errPaymentMethodMismatch : Err := "payment method mismatch"
def errTopUpNotFound : Err := "topup not found"
def errTopUpStatusInvalid : Err := "topup status invalid"

variable (env : TopUpEnv)

def TopUpEnv.quotaOfAmount (topUp : TopUp) : ℤ :=
  truncate (topUp.amount * env.quotaPerUnit)

def TopUpEnv.quotaOfMoney (topUp : TopUp) : ℤ :=
  truncate (topUp.money * env.quotaPerUnit)

namespace TopUpStore

/-! ### Statements -/

variable (s : TopUpStore)

def saveTopUp (fault : Option Err) (tradeNo : String) (topUp : TopUp) : Except Err TopUpStore :=
  match fault with
  | some e => .error e
  | none => .ok { s with topUps := s.topUps.insert tradeNo topUp }

variable (f : TopUpFaults)

variable (tradeNo : String)

/-- Any failure is reported as `notFound`. -/
def lockTopUp (notFound : Err) : Except Err TopUp :=
  match f.start, f.select, s.topUps.lookup tradeNo with
  | some e, _, _ => .error e
  | none, none, some topUp => .ok topUp
  | _, _, _ => .error notFound

def completeTopUp (topUp : TopUp) (quota : ℤ) : Except Err (TopUpStore × Option Credit) :=
  match s.saveTopUp f.save tradeNo { topUp with completeTime := f.now, status := .success } with
  | .error e => .error e
  | .ok s =>
    match s.billing.addUserQuota f.update topUp.userId quota with
    | .error e => .error e
    | .ok billing => commitTx f.commit (.ok ({ s with billing }, some ⟨topUp.userId, quota⟩))

def orFailed (r : Except Err (TopUpStore × Option Credit)) :
    Except Err (TopUpStore × Option Credit) :=
  r.mapError fun _ => "充值失败，请稍后重试"

/-! ### Fulfilments in a transaction -/

def updatePendingTopUpStatus (expectedPaymentProvider : PaymentProvider)
    (targetStatus : TopUpStatus) :
    Except Err TopUpStore :=
  if tradeNo = "" then .error "未提供支付单号"
  else
    match s.lockTopUp f tradeNo errTopUpNotFound with
    | .error e => .error e
    | .ok topUp =>
      if expectedPaymentProvider ≠ .unset ∧ topUp.paymentProvider ≠ expectedPaymentProvider then
        .error errPaymentMethodMismatch
      else if topUp.status ≠ .pending then .error errTopUpStatusInvalid
      else commitTx f.commit (s.saveTopUp f.save tradeNo { topUp with status := targetStatus })

variable (env : TopUpEnv)

def recharge (s : TopUpStore) (f : TopUpFaults) (referenceId customerId : String) :
    Except Err (TopUpStore × Option Credit) :=
  if referenceId = "" then .error "未提供支付单号"
  else orFailed <| match s.lockTopUp f referenceId "充值订单不存在" with
    | .error e => .error e
    | .ok topUp =>
      if topUp.paymentProvider ≠ .stripe then .error errPaymentMethodMismatch
      else if topUp.status ≠ .pending then .error "充值订单状态错误"
      else
        -- The customer is written by the statement that adds the quota.
        let quota := env.addedFloat (topUp.money * env.quotaPerUnit)
        let stripeCustomer := Function.update s.stripeCustomer topUp.userId customerId
        { s with stripeCustomer }.completeTopUp f referenceId topUp quota

/-- The amount is the quota, and an empty email address is filled in. -/
def rechargeCreem (referenceId customerEmail : String) : Except Err (TopUpStore × Option Credit) :=
  if referenceId = "" then .error "未提供支付单号"
  else orFailed <| match s.lockTopUp f referenceId "充值订单不存在" with
    | .error e => .error e
    | .ok topUp =>
      if topUp.paymentProvider ≠ .creem then .error errPaymentMethodMismatch
      else if topUp.status ≠ .pending then .error "充值订单状态错误"
      else if customerEmail = "" then s.completeTopUp f referenceId topUp topUp.amount
      else
        -- The user is read after the order was saved, which a failure undoes.
        match f.user with
        | some e => .error e
        | none =>
          let email :=
            if s.email topUp.userId = "" then Function.update s.email topUp.userId customerEmail
            else s.email
          { s with email }.completeTopUp f referenceId topUp topUp.amount

/-- A second notice is accepted and does nothing. -/
def rechargeByAmount (provider : PaymentProvider) (s : TopUpStore)
    (f : TopUpFaults) (tradeNo : String) : Except Err (TopUpStore × Option Credit) :=
  if tradeNo = "" then .error "未提供支付单号"
  else orFailed <| match s.lockTopUp f tradeNo "充值订单不存在" with
    | .error e => .error e
    | .ok topUp =>
      if topUp.paymentProvider ≠ provider then .error errPaymentMethodMismatch
      else if topUp.status = .success then commitTx f.commit (.ok (s, none))
      else if topUp.status ≠ .pending then .error "充值订单状态错误"
      else if env.quotaOfAmount topUp ≤ 0 then .error "无效的充值额度"
      else s.completeTopUp f tradeNo topUp (env.quotaOfAmount topUp)

def rechargeWaffo : TopUpStore → TopUpFaults → String → Except Err (TopUpStore × Option Credit) :=
  rechargeByAmount env .waffo

def rechargeWaffoPancake : TopUpStore → TopUpFaults → String →
    Except Err (TopUpStore × Option Credit) :=
  rechargeByAmount env .waffoPancake

def manualCompleteTopUp (s : TopUpStore) (f : TopUpFaults) (tradeNo : String) :
    Except Err (TopUpStore × Option Credit) :=
  if tradeNo = "" then .error "未提供订单号"
  else
    match s.lockTopUp f tradeNo "充值订单不存在" with
    | .error e => .error e
    | .ok topUp =>
      if topUp.status = .success then commitTx f.commit (.ok (s, none))
      else if topUp.status ≠ .pending then .error "订单状态不是待支付，无法补单"
      else
        let quotaToAdd :=
          if topUp.paymentProvider = .stripe then env.quotaOfMoney topUp
          else env.quotaOfAmount topUp
        if quotaToAdd ≤ 0 then .error "无效的充值额度"
        else s.completeTopUp f tradeNo topUp quotaToAdd

end TopUpStore

/-! ### `EpayNotify` -/

/-- After the lock with the `Type` of the notice, after reading the order with the copy to be saved,
or after that. -/
inductive EpayPhase
  | locked (type : String)
  | saving (topUp : TopUp)
  | crediting (userId quotaToAdd : ℤ)
deriving DecidableEq, Repr

/-- `none` when the notice is done. -/
def TopUpStore.epayRead (s : TopUpStore) (fault : Option Err) (tradeNo type : String) :
    Option EpayPhase :=
  match fault, s.topUps.lookup tradeNo with
  | none, some topUp =>
    if topUp.paymentProvider ≠ .epay then none
    else if topUp.status ≠ .pending then none
    else
      -- The method is overwritten only where it differs, which is the same.
      some (.saving { topUp with paymentMethod := type })
  | _, _ => none

/-- `none` stands for everything else that changes a user's quota. -/
structure TopUpPosting where
  tradeNo : Option String
  credit : Credit
deriving DecidableEq, Repr

/-- `phase p tradeNo` is the `EpayNotify` of process `p` that holds the lock of the order;
`postings` are all changes to users' quota. -/
structure TopUpRun (P : Type) where
  store : TopUpStore
  phase : P → String → Option EpayPhase
  postings : List TopUpPosting

inductive Fulfilment
  | recharge (customerId : String)
  | rechargeCreem (customerEmail : String)
  | rechargeWaffo
  | rechargeWaffoPancake
  | manualCompleteTopUp
deriving DecidableEq, Repr

def Fulfilment.run (s : TopUpStore) (f : TopUpFaults) (tradeNo : String) :
    Fulfilment → Except Err (TopUpStore × Option Credit)
  | .recharge customerId => s.recharge env f tradeNo customerId
  | .rechargeCreem customerEmail => s.rechargeCreem f tradeNo customerEmail
  | .rechargeWaffo => s.rechargeWaffo env f tradeNo
  | .rechargeWaffoPancake => s.rechargeWaffoPancake env f tradeNo
  | .manualCompleteTopUp => s.manualCompleteTopUp env f tradeNo

inductive Closing
  | failed
  | expired
deriving DecidableEq, Repr

def Closing.targetStatus : Closing → TopUpStatus
  | .failed => .failed
  | .expired => .expired

/-- The callers take `LockOrder` first, except that a failed payment at Waffo is closed without it.
-/
inductive TopUpEvent (P : Type)
  | epayLock (p : P) (tradeNo type : String)
  | epayRead (p : P) (tradeNo : String) (fault : Option Err)
  | epaySave (p : P) (tradeNo : String) (fault : Option Err)
  | epayCredit (p : P) (tradeNo : String) (fault : Option Err)
  | fulfil (p : P) (tradeNo : String) (how : Fulfilment) (f : TopUpFaults)
  | close (p : P) (tradeNo : String) (locks : Bool) (expectedPaymentProvider : PaymentProvider)
      (closing : Closing) (f : TopUpFaults)
  | other (credit : Credit)

namespace TopUpRun

variable {P : Type} [DecidableEq P]

def setPhase (r : TopUpRun P) (p : P) (tradeNo : String) (phase : Option EpayPhase) : TopUpRun P :=
  { r with phase := Function.update r.phase p (Function.update (r.phase p) tradeNo phase) }

def commit (r : TopUpRun P) (tradeNo : String) : TopUpStore × Option Credit → TopUpRun P
  | (store, none) => { r with store }
  | (store, some credit) =>
    { r with store, postings := r.postings ++ [⟨some tradeNo, credit⟩] }

/-- A step of a process that does not hold the lock, or waits for it, does nothing. -/
def step (env : TopUpEnv) (r : TopUpRun P) : TopUpEvent P → TopUpRun P
  | .epayLock p tradeNo type =>
    match r.phase p tradeNo with
    | none => r.setPhase p tradeNo (some (.locked type))
    | some _ => r
  | .epayRead p tradeNo fault =>
    match r.phase p tradeNo with
    | some (.locked type) => r.setPhase p tradeNo (r.store.epayRead fault tradeNo type)
    | _ => r
  | .epaySave p tradeNo fault =>
    match r.phase p tradeNo with
    | some (.saving topUp) =>
      match r.store.saveTopUp fault tradeNo { topUp with status := .success } with
      | .error _ => r.setPhase p tradeNo none
      | .ok store =>
        { r with store }.setPhase p tradeNo
          (some (.crediting topUp.userId (env.quotaOfAmount topUp)))
    | _ => r
  | .epayCredit p tradeNo fault =>
    match r.phase p tradeNo with
    | some (.crediting userId quotaToAdd) =>
      match r.store.billing.increaseUserQuota fault userId quotaToAdd true with
      | .error _ => r.setPhase p tradeNo none
      | .ok billing =>
        (r.commit tradeNo ({ r.store with billing }, some ⟨userId, quotaToAdd⟩)).setPhase p tradeNo
          none
    | _ => r
  | .fulfil p tradeNo how f =>
    match r.phase p tradeNo, how.run env r.store f tradeNo with
    | none, .ok result => r.commit tradeNo result
    | _, _ => r
  | .close p tradeNo locks provider closing f =>
    if locks ∧ (r.phase p tradeNo).isSome then r
    else
      match r.store.updatePendingTopUpStatus f tradeNo provider closing.targetStatus with
      | .error _ => r
      | .ok store => { r with store }
  | .other credit =>
    match r.store.billing.addUserQuota none credit.userId credit.quota with
    | .error _ => r
    | .ok billing =>
      { r with store := { r.store with billing }, postings := r.postings ++ [⟨none, credit⟩] }

end TopUpRun

/-! ### `RequestEpay`: priced by the amount, stored in whole units of money -/

/-- `tokens` is the display type in which amounts are quota. -/
structure EpayEnv extends TopUpEnv where
  tokens : Bool
  minTopUp : ℤ
  price : ℚ
  getTopupGroupRatio : String → ℚ
  amountDiscount : ℤ → Option ℚ
  containsPayMethod : String → Bool
  configured : Bool

structure EpayRequest where
  amount : ℤ
  paymentMethod : String
deriving DecidableEq, Repr

structure EpayFaults where
  group : Option Err := none
  purchase : Option Err := none
  insert : Option Err := none
  now : ℤ := 0

namespace EpayEnv

variable (env : EpayEnv)

def discount (amount : ℤ) : ℚ :=
  match env.amountDiscount amount with
  | some ds => if 0 < ds then ds else 1
  | none => 1

def getPayMoney (amount : ℤ) (group : String) : ℚ :=
  let dAmount : ℚ := if env.tokens then amount / env.quotaPerUnit else amount
  let topupGroupRatio :=
    if env.getTopupGroupRatio group = 0 then 1 else env.getTopupGroupRatio group
  dAmount * env.price * topupGroupRatio * env.discount amount

def getMinTopup : ℤ :=
  if env.tokens then truncate (env.minTopUp * env.quotaPerUnit) else env.minTopUp

def topUp (id now : ℤ) (group : String) (req : EpayRequest) : TopUp where
  userId := id
  amount := if env.tokens then truncate (req.amount / env.quotaPerUnit) else req.amount
  money := env.getPayMoney req.amount group
  paymentMethod := req.paymentMethod
  paymentProvider := .epay
  createTime := now
  completeTime := 0
  status := .pending

/-- With the trade number it drew. -/
def requestEpay (s : TopUpStore) (f : EpayFaults) (id : ℤ) (group tradeNo : String)
    (req : EpayRequest) : Except Err TopUpStore :=
  if req.amount < env.getMinTopup then .error ("充值数量不能小于 " ++ toString env.getMinTopup)
  else if f.group.isSome then .error "获取用户分组失败"
  else if env.getPayMoney req.amount group < 1 / 100 then .error "充值金额过低"
  else if !env.containsPayMethod req.paymentMethod then .error "支付方式不存在"
  else if !env.configured then .error "当前管理员未配置支付信息"
  else if f.purchase.isSome then .error "拉起支付失败"
  -- The trade number is unique.
  else if f.insert.isSome ∨ (s.topUps.lookup tradeNo).isSome then .error "创建订单失败"
  else .ok { s with topUps := s.topUps.insert tradeNo (env.topUp id f.now group req) }

end EpayEnv

end TokensFlux
