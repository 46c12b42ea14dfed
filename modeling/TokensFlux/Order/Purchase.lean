import TokensFlux.Order.Basic
import TokensFlux.Lib.Transaction

/-!
# Concurrent purchases

There is one step for each statement, under read committed isolation, on a database with `FOR
UPDATE` (on SQLite `lockForUpdate` locks nothing); what a transaction has written so far is a list,
which the commit applies.
-/

namespace TokensFlux

def calcSubscriptionBalanceQuota (env : OrderEnv) (priceAmount : ℚ) : Except Err ℤ :=
  if priceAmount ≤ 0 then .ok 0
  else if env.quotaPerUnit ≤ 0 then .error "额度单位配置错误"
  else .ok (Int.bmod ⌈priceAmount * env.quotaPerUnit⌉ 18446744073709551616)

/-- With the price in quota. -/
def checkBalancePay (env : OrderEnv) (plan : PurchasePlan) : Except Err ℤ :=
  if !plan.enabled then .error "套餐未启用"
  else if plan.priceAmount < 0 then .error "套餐价格不能为负数"
  else if plan.allowBalancePay = some false then .error "该套餐不允许使用余额兑换"
  else calcSubscriptionBalanceQuota env plan.priceAmount

inductive OrderWrite
  | deduct (userId quota : ℤ)
  | group (userId : ℤ) (group : String)
  | insert (row : SubscriptionRow)
  | topUp (tradeNo : String) (topUp : TopUp)
  | order (tradeNo : String) (order : SubscriptionOrder)
deriving DecidableEq, Repr

/-- A row has its id from the commit here. -/
def OrderWrite.apply (s : OrderStore) : OrderWrite → OrderStore
  | .deduct userId quota =>
    { s with
      users := Function.update s.users userId
        ((s.users userId).map fun user => { user with quota := user.quota - quota }) }
  | .group userId name => s.setUserGroup userId name
  | .insert row => { s with subs := s.subs.create row }
  | .topUp tradeNo row => { s with topUps := s.topUps.insert tradeNo row }
  | .order tradeNo row => { s with orders := s.orders.insert tradeNo row }

inductive PurchaseKind
  | order (tradeNo providerPayload actualPaymentMethod : String) (order : SubscriptionOrder)
  | balance (requiredQuota : ℤ)
  | admin
deriving DecidableEq, Repr

def PurchaseKind.source : PurchaseKind → String
  | order .. => "order"
  | balance _ => "balance"
  | admin => "admin"

inductive PurchasePhase
  | paying
  | counting
  | grouping
  | upgrading (now endUnix : ℤ) (currentGroup : String)
  | inserting (now endUnix : ℤ) (prevGroup : String)
  | recording
  | closing
  | closed
deriving DecidableEq, Repr

def PurchaseKind.afterInsert : PurchaseKind → PurchasePhase
  | order .. => .recording
  | balance _ => .closing
  | admin => .closed

structure PurchaseCall where
  kind : PurchaseKind
  userId : ℤ
  plan : PurchasePlan
  phase : PurchasePhase
  writes : List OrderWrite := []

inductive PurchaseRow
  | order (tradeNo : String)
  | user (id : ℤ)
deriving DecidableEq, Repr

abbrev PurchaseSystem (P : Type) := TxSystem P PurchaseRow OrderStore PurchaseCall

inductive PurchaseEvent (P : Type)
  /-- To the lock of its order and the plan. -/
  | complete (p : P) (tradeNo providerPayload : String) (expectedPaymentProvider : PaymentProvider)
      (actualPaymentMethod : String) (fault : Option Err)
  | balance (p : P) (userId planId : ℤ) (fault : Option Err)
  | admin (p : P) (userId planId : ℤ)
  | deduct (p : P) (fault : Option Err)
  | count (p : P) (fault : Option Err)
  | readGroup (p : P) (dbNow : ℤ) (fault : Option Err)
  | updateGroup (p : P) (fault : Option Err)
  | insert (p : P) (fault : Option Err)
  /-- Both statements of `upsertSubscriptionTopUpTx`: its trade number is that of the locked
  order. -/
  | topUp (p : P) (now : ℤ) (fault writeFault : Option Err)
  /-- Or one is created with the new trade number. -/
  | order (p : P) (tradeNo : String) (now : ℤ) (fault : Option Err)
  | commit (p : P) (fault : Option Err)
deriving DecidableEq, Repr

namespace PurchaseSystem

variable {P : Type} [DecidableEq P]

def goOn (s : PurchaseSystem P) (p : P) (c : PurchaseCall) (fault : Option Err)
    (phase : PurchasePhase) (writes : List OrderWrite) : PurchaseSystem P :=
  match fault with
  | some _ => s.rollback p
  | none => s.advance p { c with phase, writes := c.writes ++ writes }

def start (env : OrderEnv) (plans : ℤ → Except Err PurchasePlan) (s : PurchaseSystem P) :
    PurchaseEvent P → PurchaseSystem P
  | .complete p tradeNo providerPayload expectedPaymentProvider actualPaymentMethod fault =>
    if tradeNo = "" ∨ s.waits p (.order tradeNo) then s
    else
      match s.store.lockOrder fault tradeNo expectedPaymentProvider with
      | .error _ => s
      | .ok order =>
        if order.status ≠ .pending then s
        else
          match plans order.planId with
          | .error _ => s
          | .ok plan =>
            (s.acquire p (.order tradeNo)).advance p
              { kind := .order tradeNo providerPayload actualPaymentMethod order
                userId := order.userId
                plan
                phase := .counting }
  | .balance p userId planId fault =>
    if userId ≤ 0 ∨ planId ≤ 0 ∨ s.waits p (.user userId) then s
    else
      match plans planId with
      | .error _ => s
      | .ok plan =>
        match checkBalancePay env plan, s.store.users userId, fault with
        | .ok requiredQuota, some user, none =>
          if 0 < requiredQuota ∧ user.quota < requiredQuota then s
          else
            (s.acquire p (.user userId)).advance p
              { kind := .balance requiredQuota
                userId
                plan
                phase := if 0 < requiredQuota then .paying else .counting }
        | _, _, _ => s
  | .admin p userId planId =>
    if userId ≤ 0 ∨ planId ≤ 0 then s
    else
      match plans planId with
      | .error _ => s
      | .ok plan => s.advance p { kind := .admin, userId, plan, phase := .counting }
  | _ => s

def proceed (env : OrderEnv) (s : PurchaseSystem P) (p : P) (c : PurchaseCall) :
    PurchaseEvent P → PurchasePhase → PurchaseSystem P
  | .deduct _ fault, .paying =>
    match c.kind with
    | .balance requiredQuota => goOn s p c fault .counting [.deduct c.userId requiredQuota]
    | _ => s
  | .count _ fault, .counting =>
    if c.plan.id = 0 ∨ c.userId ≤ 0 then s.rollback p
    else
      match s.store.checkPurchaseLimit fault c.userId c.plan with
      | .error _ => s.rollback p
      | .ok () => goOn s p c none .grouping []
  | .readGroup _ dbNow fault, .grouping =>
    match calcPlanEndTime env dbNow c.plan with
    | .error _ => s.rollback p
    | .ok endUnix =>
      let upgradeGroup := trimSpace c.plan.upgradeGroup
      if upgradeGroup = "" then goOn s p c none (.inserting dbNow endUnix "") []
      else
        let currentGroup := s.store.userGroup c.userId
        goOn s p c fault (if currentGroup = upgradeGroup then .inserting dbNow endUnix ""
            else .upgrading dbNow endUnix currentGroup) []
  | .updateGroup _ fault, .upgrading now endUnix currentGroup =>
    match fault with
    | some _ => s.rollback p
    | none =>
      if s.waits p (.user c.userId) then s
      else
        goOn (s.acquire p (.user c.userId)) p c none (.inserting now endUnix currentGroup)
          [.group c.userId (trimSpace c.plan.upgradeGroup)]
  | .insert _ fault, .inserting now endUnix prevGroup =>
    goOn s p c fault c.kind.afterInsert
      [.insert (OrderStore.newSubscription env now endUnix c.userId c.plan c.kind.source prevGroup)]
  | .topUp _ now fault writeFault, .recording =>
    match c.kind with
    | .order tradeNo _ _ order =>
      match s.store.upsertedTopUp fault now tradeNo order with
      | .error _ => s.rollback p
      | .ok topUp => goOn s p c writeFault .closing [.topUp tradeNo topUp]
    | _ => s
  | .order _ newTradeNo now fault, .closing =>
    match c.kind with
    | .order tradeNo providerPayload actualPaymentMethod order =>
      goOn s p c fault .closed
        [.order tradeNo (OrderStore.completedOrder order now providerPayload actualPaymentMethod)]
    | .balance requiredQuota =>
      -- The trade number has a unique index.
      if (s.store.orders.lookup newTradeNo).isSome then s.rollback p
      else goOn s p c fault .closed [.order newTradeNo
          { userId := c.userId, planId := c.plan.id, money := c.plan.priceAmount,
            paymentMethod := "balance", paymentProvider := .balance, status := .success,
            createTime := now, completeTime := now,
            providerPayload := "charged_quota=" ++ toString requiredQuota }]
    | .admin => s
  | .commit _ fault, .closed =>
    match fault with
    | some _ => s.rollback p
    | none => s.commit p (c.writes.foldl OrderWrite.apply s.store)
  | _, _ => s

end PurchaseSystem

def PurchaseEvent.process {P : Type} : PurchaseEvent P → P
  | complete p .. | balance p .. | admin p .. | deduct p _ | count p _ | readGroup p .. |
    updateGroup p _ | insert p _ | topUp p .. | order p .. | commit p _ => p

/-- A statement that has to wait, or is not due, does nothing. -/
def PurchaseSystem.step {P : Type} [DecidableEq P] (env : OrderEnv)
    (plans : ℤ → Except Err PurchasePlan) (s : PurchaseSystem P) (e : PurchaseEvent P) :
    PurchaseSystem P :=
  match s.calls e.process with
  | none => start env plans s e
  | some c => proceed env s e.process c e c.phase

end TokensFlux
