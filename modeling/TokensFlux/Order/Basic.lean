import TokensFlux.TopUp.Basic

/-!
# Subscription orders

An order is created `pending`, completed by the notice of its payment provider, or expired.  A
transaction is a function to `Except Err`: where it fails, none of its writes remain.
-/

namespace TokensFlux

/-! ### Tables -/

/-- The columns a purchase reads, beside those of its resets. -/
structure PurchasePlan extends SubscriptionPlan where
  id : ℤ
  priceAmount : ℚ
  durationUnit : String
  durationValue : ℤ
  customSeconds : ℤ
  enabled : Bool
  allowBalancePay : Option Bool
  allowWalletOverflow : Option Bool
  maxPurchasePerUser : ℤ
  upgradeGroup : String
  downgradeGroup : String
  totalAmount : ℤ

structure SubscriptionRow extends UserSubscription where
  source : String
  upgradeGroup : String
  prevUserGroup : String
  downgradeGroup : String
deriving DecidableEq, Repr

/-- With the id the database gives the next row. -/
structure SubscriptionTable where
  rows : List (ℤ × SubscriptionRow)
  nextId : ℤ
  ids_sorted : (rows.map Prod.fst ++ [nextId]).Pairwise (· < ·)

namespace SubscriptionTable

variable (t : SubscriptionTable)

theorem ids_sorted_create (row : SubscriptionRow) :
    ((t.rows ++ [(t.nextId, row)]).map Prod.fst ++ [t.nextId + 1]).Pairwise (· < ·) := by
  rw [List.map_append]
  refine List.pairwise_append.mpr ⟨t.ids_sorted, by simp, ?_⟩
  intro a ha b hb
  obtain rfl : b = t.nextId + 1 := by simpa using hb
  rcases List.mem_append.mp ha with ha | ha
  · have := (List.pairwise_append.mp t.ids_sorted).2.2 a ha t.nextId (by simp)
    omega
  · obtain rfl : a = t.nextId := by simpa using ha
    omega

variable (f : ℤ → SubscriptionRow → SubscriptionRow)

theorem ids_sorted_modify :
    ((t.rows.map fun r => (r.1, f r.1 r.2)).map Prod.fst ++ [t.nextId]).Pairwise (· < ·) := by
  rw [List.map_map]
  exact t.ids_sorted

theorem ids_sorted_delete (id : ℤ) :
    ((t.rows.filter fun r => r.1 ≠ id).map Prod.fst ++ [t.nextId]).Pairwise (· < ·) :=
  t.ids_sorted.sublist ((List.filter_sublist.map _).append_right _)

def empty : SubscriptionTable := ⟨[], 1, List.pairwise_singleton _ _⟩

def create (row : SubscriptionRow) : SubscriptionTable where
  rows := t.rows ++ [(t.nextId, row)]
  nextId := t.nextId + 1
  ids_sorted := t.ids_sorted_create row

def modify : SubscriptionTable where
  rows := t.rows.map fun r => (r.1, f r.1 r.2)
  nextId := t.nextId
  ids_sorted := t.ids_sorted_modify f

def delete (id : ℤ) : SubscriptionTable where
  rows := t.rows.filter fun r => r.1 ≠ id
  nextId := t.nextId
  ids_sorted := t.ids_sorted_delete id

def get (id : ℤ) : Option SubscriptionRow :=
  (t.rows.find? fun r => r.1 = id).map Prod.snd

end SubscriptionTable

/-- The trade number is the key of its row. -/
structure SubscriptionOrder where
  userId : ℤ
  planId : ℤ
  money : ℚ
  paymentMethod : String
  paymentProvider : PaymentProvider
  status : TopUpStatus
  createTime : ℤ
  completeTime : ℤ
  providerPayload : String
deriving DecidableEq, Repr

structure OrderUser where
  quota : ℤ
  group : String
deriving DecidableEq, Repr

structure OrderStore where
  users : ℤ → Option OrderUser
  subs : SubscriptionTable
  orders : AList fun _ : String => SubscriptionOrder
  topUps : AList fun _ : String => TopUp

/-- The calendar, `time.AddDate(years, months, 0)` in the server's time zone, and
`common.QuotaPerUnit`. -/
structure OrderEnv where
  calendar : Calendar
  addDate : ℤ → ℤ → ℤ → ℤ
  quotaPerUnit : ℚ

/-! ### Creating a subscription -/

/-- A duration counts nanoseconds in 64 bits. -/
def addSeconds (start n : ℤ) : ℤ :=
  start + Int.bmod (n * 1000000000) 18446744073709551616 / 1000000000

def calcPlanEndTime (env : OrderEnv) (start : ℤ) (plan : PurchasePlan) : Except Err ℤ :=
  if plan.durationValue ≤ 0 ∧ plan.durationUnit ≠ "custom" then
    .error "duration_value must be > 0"
  else if plan.durationUnit = "year" then .ok (env.addDate start plan.durationValue 0)
  else if plan.durationUnit = "month" then .ok (env.addDate start 0 plan.durationValue)
  else if plan.durationUnit = "day" then .ok (addSeconds start (plan.durationValue * 86400))
  else if plan.durationUnit = "hour" then .ok (addSeconds start (plan.durationValue * 3600))
  else if plan.durationUnit = "custom" then
    if plan.customSeconds ≤ 0 then .error "custom_seconds must be > 0"
    else .ok (addSeconds start plan.customSeconds)
  else .error ("invalid duration_unit: " ++ plan.durationUnit)

structure CreateFaults where
  count : Option Err := none
  group : Option Err := none
  update : Option Err := none
  create : Option Err := none
  dbNow : ℤ := 0

namespace OrderStore

variable (s : OrderStore)

def userGroup (userId : ℤ) : String :=
  ((s.users userId).map OrderUser.group).getD ""

def setUserGroup (userId : ℤ) (group : String) : OrderStore :=
  { s with users := Function.update s.users userId ((s.users userId).map ({ · with group })) }

def countSubscriptions (userId planId : ℤ) : ℕ :=
  (s.subs.rows.filter fun r => r.2.userId = userId && r.2.planId = planId).length

def checkPurchaseLimit (fault : Option Err) (userId : ℤ) (plan : PurchasePlan) : Except Err Unit :=
  if plan.maxPurchasePerUser ≤ 0 then .ok ()
  else
    match fault with
    | some e => .error e
    | none =>
      if plan.maxPurchasePerUser ≤ s.countSubscriptions userId plan.id then
        .error "已达到该套餐购买上限"
      else .ok ()

/-- With the group it records. -/
def upgrade (f : CreateFaults) (userId : ℤ) (upgradeGroup : String) :
    Except Err (OrderStore × String) :=
  if upgradeGroup = "" then .ok (s, "")
  else
    match f.group with
    | some e => .error e
    | none =>
      let currentGroup := s.userGroup userId
      -- A user who has the group already is not moved, and nothing is recorded.
      if currentGroup = upgradeGroup then .ok (s, "")
      else
        match f.update with
        | some e => .error e
        | none => .ok (s.setUserGroup userId upgradeGroup, currentGroup)

variable (env : OrderEnv)

def newSubscription (now endUnix userId : ℤ) (plan : PurchasePlan)
    (source prevUserGroup : String) : SubscriptionRow :=
  { UserSubscription.create env.calendar now endUnix userId plan.id plan.totalAmount
      (plan.allowWalletOverflow.getD true) plan.toSubscriptionPlan with
    source
    upgradeGroup := trimSpace plan.upgradeGroup
    prevUserGroup
    downgradeGroup := trimSpace plan.downgradeGroup }

def insertSubscription (s : OrderStore) (f : CreateFaults) (userId endUnix : ℤ)
    (plan : PurchasePlan) (source : String) : Except Err (OrderStore × ℤ) :=
  match s.upgrade f userId (trimSpace plan.upgradeGroup), f.create with
  | .error e, _ => .error e
  | .ok _, some e => .error e
  | .ok (s, prevUserGroup), none =>
    let row := newSubscription env f.dbNow endUnix userId plan source prevUserGroup
    .ok ({ s with subs := s.subs.create row }, s.subs.nextId)

def createUserSubscriptionFromPlanTx (s : OrderStore) (f : CreateFaults)
    (userId : ℤ) (plan : PurchasePlan) (source : String) : Except Err (OrderStore × ℤ) :=
  if plan.id = 0 then .error "invalid plan"
  else if userId ≤ 0 then .error "invalid user id"
  else
    match s.checkPurchaseLimit f.count userId plan, calcPlanEndTime env f.dbNow plan with
    | .error e, _ => .error e
    | .ok (), .error e => .error e
    | .ok (), .ok endUnix => insertSubscription env s f userId endUnix plan source

end OrderStore

/-! ### Completing and expiring an order -/

def errSubscriptionOrderNotFound : Err := "subscription order not found"
def errSubscriptionOrderStatusInvalid : Err := "subscription order status invalid"

/-- `plan` is what `GetSubscriptionPlanById` answers. -/
structure OrderFaults where
  plan : ℤ → Except Err PurchasePlan
  order : Option Err := none
  create : CreateFaults := {}
  topUpRead : Option Err := none
  topUpWrite : Option Err := none
  save : Option Err := none
  commit : Option Err := none
  now : ℤ := 0

namespace OrderStore

variable (s : OrderStore)

def lockOrder (fault : Option Err) (tradeNo : String)
    (expectedPaymentProvider : PaymentProvider) : Except Err SubscriptionOrder :=
  match s.orders.lookup tradeNo, fault with
  | some order, none =>
    if expectedPaymentProvider ≠ .unset ∧ order.paymentProvider ≠ expectedPaymentProvider then
      .error errPaymentMethodMismatch
    else .ok order
  | _, _ => .error errSubscriptionOrderNotFound

def upsertedTopUp (fault : Option Err) (now : ℤ) (tradeNo : String) (order : SubscriptionOrder) :
    Except Err TopUp :=
  match fault, s.topUps.lookup tradeNo with
  | some e, _ => .error e
  | none, none =>
    .ok
      { userId := order.userId, amount := 0, money := order.money,
        paymentMethod := order.paymentMethod, paymentProvider := .unset,
        createTime := order.createTime, completeTime := now, status := .success }
  | none, some topUp =>
    if topUp.paymentMethod ≠ "" ∧ topUp.paymentMethod ≠ order.paymentMethod then
      .error errPaymentMethodMismatch
    else
      .ok
        { topUp with
          money := order.money
          paymentMethod := order.paymentMethod
          createTime := if topUp.createTime = 0 then order.createTime else topUp.createTime
          completeTime := now
          status := .success }

variable (f : OrderFaults)

variable (tradeNo : String)

variable (order : SubscriptionOrder)

def upsertSubscriptionTopUpTx : Except Err OrderStore :=
  match s.upsertedTopUp f.topUpRead f.now tradeNo order, f.topUpWrite with
  | .error e, _ => .error e
  | .ok _, some e => .error e
  | .ok topUp, none => .ok { s with topUps := s.topUps.insert tradeNo topUp }

def completedOrder (now : ℤ) (providerPayload actualPaymentMethod : String) : SubscriptionOrder :=
  { order with
    status := .success
    completeTime := now
    providerPayload := if providerPayload ≠ "" then providerPayload else order.providerPayload
    paymentMethod :=
      if actualPaymentMethod ≠ "" then actualPaymentMethod else order.paymentMethod }

def closeOrder (providerPayload actualPaymentMethod : String) : Except Err OrderStore :=
  match s.upsertSubscriptionTopUpTx f tradeNo order, f.save with
  | .error e, _ => .error e
  | .ok _, some e => .error e
  | .ok s, none =>
    .ok { s with
      orders := s.orders.insert tradeNo (completedOrder order f.now providerPayload
        actualPaymentMethod) }

def fulfil (env : OrderEnv) (s : OrderStore) (f : OrderFaults) (tradeNo : String)
    (order : SubscriptionOrder) (providerPayload actualPaymentMethod : String) :
    Except Err (OrderStore × ℤ) :=
  match f.plan order.planId with
  | .error e => .error e
  | .ok plan =>
    match s.createUserSubscriptionFromPlanTx env f.create order.userId plan "order" with
    | .error e => .error e
    | .ok (s, id) =>
      (s.closeOrder f tradeNo order providerPayload actualPaymentMethod).map fun s => (s, id)

/-- With the id of the subscription if one was created; the caches and the log are left out. -/
def completeSubscriptionOrder (env : OrderEnv) (s : OrderStore) (f : OrderFaults) (tradeNo : String)
    (providerPayload : String) (expectedPaymentProvider : PaymentProvider)
    (actualPaymentMethod : String) : Except Err (OrderStore × Option ℤ) :=
  if tradeNo = "" then .error "tradeNo is empty"
  else commitTx f.commit <| match s.lockOrder f.order tradeNo expectedPaymentProvider with
    | .error e => .error e
    | .ok order =>
      if order.status = .success then .ok (s, none)
      else if order.status ≠ .pending then .error errSubscriptionOrderStatusInvalid
      else
        (s.fulfil env f tradeNo order providerPayload actualPaymentMethod).map
          fun (s, id) => (s, some id)

def expireSubscriptionOrder (expectedPaymentProvider : PaymentProvider) : Except Err OrderStore :=
  if tradeNo = "" then .error "tradeNo is empty"
  else commitTx f.commit <| match s.lockOrder f.order tradeNo expectedPaymentProvider with
    | .error e => .error e
    | .ok order =>
      if order.status ≠ .pending then .ok s
      else
        match f.save with
        | some e => .error e
        | none =>
          .ok { s with
            orders := s.orders.insert tradeNo
              { order with status := .expired, completeTime := f.now } }

end OrderStore

end TokensFlux
