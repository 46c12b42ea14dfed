import TokensFlux.Order.Basic
import TokensFlux.Subscription.Equiv.Schedule
import TokensFlux.Lib.Guarded

/-!
# A subscription order is fulfilled once

A call either changes nothing, or it closes a pending order: as `success`, together with one new
subscription, or as `expired` (`Outcome`).
-/

namespace TokensFlux

structure OrderSystem where
  store : OrderStore
  created : List (String × ℤ) := []

inductive OrderEvent
  | complete (tradeNo providerPayload : String) (expectedPaymentProvider : PaymentProvider)
      (actualPaymentMethod : String) (f : OrderFaults)
  | expire (tradeNo : String) (expectedPaymentProvider : PaymentProvider) (f : OrderFaults)

namespace OrderEvent

def tradeNo : OrderEvent → String
  | complete tradeNo _ _ _ _ => tradeNo
  | expire tradeNo _ _ => tradeNo

def expectedPaymentProvider : OrderEvent → PaymentProvider
  | complete _ _ expected _ _ => expected
  | expire _ expected _ => expected

def run (env : OrderEnv) (s : OrderStore) : OrderEvent → Except Err (OrderStore × Option ℤ)
  | complete tradeNo payload expected method f =>
    s.completeSubscriptionOrder env f tradeNo payload expected method
  | expire tradeNo expected f => (s.expireSubscriptionOrder f tradeNo expected).map (·, none)

end OrderEvent

open OrderStore Option

namespace OrderSystem

/-- A call that returns an error was rolled back. -/
def step (env : OrderEnv) (s : OrderSystem) (e : OrderEvent) : OrderSystem :=
  match e.run env s.store with
  | .error _ => s
  | .ok (store, id) => ⟨store, s.created ++ (id.map (e.tradeNo, ·)).toList⟩

/-- What a call leaves.  The subscription it creates is the order's user's, to the plan that was
found for the order. -/
inductive Outcome (env : OrderEnv) (s : OrderSystem) : OrderEvent → OrderSystem → Prop
  | unchanged (e : OrderEvent) : Outcome env s e s
  | fulfilled {s' : OrderSystem} (tradeNo payload : String) (expected : PaymentProvider)
      (method : String) (f : OrderFaults) (order order' : SubscriptionOrder) (plan : PurchasePlan)
      (endUnix : ℤ) (prevUserGroup : String) (pending : order.status = .pending)
      (found : s.store.orders.lookup tradeNo = some order) (success : order'.status = .success)
      (orders : s'.store.orders = s.store.orders.insert tradeNo order')
      (planFound : f.plan order.planId = .ok plan)
      (ends : calcPlanEndTime env f.create.dbNow plan = .ok endUnix)
      (subs : s'.store.subs = s.store.subs.create
        (newSubscription env f.create.dbNow endUnix order.userId plan "order" prevUserGroup))
      (created : s'.created = s.created ++ [(tradeNo, s.store.subs.nextId)]) :
      Outcome env s (.complete tradeNo payload expected method f) s'
  | expired {s' : OrderSystem} (tradeNo : String) (expected : PaymentProvider) (f : OrderFaults)
      (order order' : SubscriptionOrder) (pending : order.status = .pending)
      (found : s.store.orders.lookup tradeNo = some order) (expired : order'.status = .expired)
      (orders : s'.store.orders = s.store.orders.insert tradeNo order')
      (subs : s'.store.subs = s.store.subs) (created : s'.created = s.created) :
      Outcome env s (.expire tradeNo expected f) s'

end OrderSystem

/-! ### The parts of a completion -/

variable {f : OrderFaults} {s' : OrderStore} {tradeNo : String} {order : SubscriptionOrder}

theorem lockOrder_ok {s : OrderStore} {fault : Option Err} {expected : PaymentProvider}
    (h : s.lockOrder fault tradeNo expected = .ok order) :
    s.orders.lookup tradeNo = some order ∧
      (expected = .unset ∨ order.paymentProvider = expected) := by
  unfold lockOrder at h
  split at h
  · rename_i hfound
    split_ifs at h with hprovider
    cases h
    refine ⟨hfound, ?_⟩
    by_contra hne
    push Not at hne
    exact hprovider hne
  · cases h

theorem upgrade_ok {s : OrderStore} {f : CreateFaults} {userId : ℤ} {group prev : String}
    (h : s.upgrade f userId group = .ok (s', prev)) :
    (s' = s ∧ prev = "" ∧ (group = "" ∨ s.userGroup userId = group)) ∨
      (group ≠ "" ∧ s.userGroup userId ≠ group ∧ s' = s.setUserGroup userId group ∧
        prev = s.userGroup userId) := by
  unfold upgrade at h
  by_cases hgroup : group = ""
  · rw [if_pos hgroup] at h
    cases h
    exact .inl ⟨rfl, rfl, Or.inl hgroup⟩
  rw [if_neg hgroup] at h
  split at h
  · cases h
  by_cases hcurrent : s.userGroup userId = group
  · rw [if_pos hcurrent] at h
    cases h
    exact .inl ⟨rfl, rfl, Or.inr hcurrent⟩
  rw [if_neg hcurrent] at h
  split at h
  · cases h
  · cases h
    exact .inr ⟨hgroup, hcurrent, rfl, rfl⟩

theorem createUserSubscriptionFromPlanTx_ok {env : OrderEnv} {s : OrderStore}
    {f : CreateFaults} {userId id : ℤ} {plan : PurchasePlan} {source : String}
    (h : s.createUserSubscriptionFromPlanTx env f userId plan source = .ok (s', id)) :
    id = s.subs.nextId ∧ s.checkPurchaseLimit f.count userId plan = .ok () ∧
      ∃ endUnix s₁ prev, calcPlanEndTime env f.dbNow plan = .ok endUnix ∧
        s.upgrade f userId (trimSpace plan.upgradeGroup) = .ok (s₁, prev) ∧
        s' = { s₁ with
          subs := s.subs.create (newSubscription env f.dbNow endUnix userId plan source prev) } ∧
        s₁.orders = s.orders ∧ s₁.topUps = s.topUps := by
  unfold createUserSubscriptionFromPlanTx at h
  split_ifs at h
  split at h
  · cases h
  · cases h
  rename_i endUnix hlimit hend
  unfold insertSubscription at h
  split at h
  · cases h
  · cases h
  rename_i s₁ prev hupgrade _
  have hframe : s₁.subs = s.subs ∧ s₁.orders = s.orders ∧ s₁.topUps = s.topUps := by
    rcases upgrade_ok hupgrade with ⟨rfl, -, -⟩ | ⟨-, -, rfl, -⟩ <;> exact ⟨rfl, rfl, rfl⟩
  cases h
  refine ⟨by rw [hframe.1], hlimit, endUnix, s₁, prev, hend, hupgrade, ?_, hframe.2⟩
  rw [hframe.1]

theorem upsertSubscriptionTopUpTx_ok {s : OrderStore}
    (h : s.upsertSubscriptionTopUpTx f tradeNo order = .ok s') :
    ∃ topUps, s' = { s with topUps } := by
  unfold upsertSubscriptionTopUpTx at h
  split at h
  · cases h
  · cases h
  · cases h
    exact ⟨_, rfl⟩

theorem closeOrder_ok {s : OrderStore} {payload method : String}
    (h : s.closeOrder f tradeNo order payload method = .ok s') :
    s'.subs = s.subs ∧ s'.orders =
      s.orders.insert tradeNo (completedOrder order f.now payload method) := by
  unfold closeOrder at h
  split at h
  · cases h
  · cases h
  rename_i s₁ hupsert _
  obtain ⟨topUps, rfl⟩ := upsertSubscriptionTopUpTx_ok hupsert
  cases h
  exact ⟨rfl, rfl⟩

theorem fulfil_ok {env : OrderEnv} {s : OrderStore} {payload method : String} {id : ℤ}
    (h : s.fulfil env f tradeNo order payload method = .ok (s', id)) :
    id = s.subs.nextId ∧
      s'.orders = s.orders.insert tradeNo (completedOrder order f.now payload method) ∧
      ∃ plan endUnix prevUserGroup, f.plan order.planId = .ok plan ∧
        calcPlanEndTime env f.create.dbNow plan = .ok endUnix ∧ s'.subs = s.subs.create
          (newSubscription env f.create.dbNow endUnix order.userId plan "order" prevUserGroup) := by
  unfold fulfil at h
  split at h
  · cases h
  split at h
  · cases h
  rename_i plan hplan _ s₁ id₁ hcreate
  obtain ⟨hid, -, endUnix, s₀, prev, hend, -, rfl, horders, -⟩ :=
    createUserSubscriptionFromPlanTx_ok hcreate
  cases hclose : closeOrder { s₀ with
      subs := s.subs.create (newSubscription env f.create.dbNow endUnix order.userId
        plan "order" prev) }
      f tradeNo order payload method with
  | error =>
    rw [hclose] at h
    cases h
  | ok =>
    rw [hclose] at h
    cases h
    obtain ⟨hsubs, hclosed⟩ := closeOrder_ok hclose
    exact ⟨hid, by rw [hclosed, horders], plan, endUnix, prev, hplan, hend, hsubs⟩

namespace OrderSystem

variable {env : OrderEnv} {s : OrderSystem}

/-- **All that a call may do.** -/
theorem outcome_step (env : OrderEnv) (s : OrderSystem) (e : OrderEvent) :
    Outcome env s e (s.step env e) := by
  unfold step
  rcases hrun : e.run env s.store with _ | result
  · exact .unchanged e
  cases e with
  | complete tradeNo payload expected method f =>
    simp only [OrderEvent.run, completeSubscriptionOrder] at hrun
    split_ifs at hrun with htrade
    have htx := (Store.commitTx_ok hrun).2
    split at htx
    · cases htx
    rename_i order hlock
    split_ifs at htx with hsuccess hpending
    · -- The order was completed before.
      cases htx
      simp only [Option.map_none, Option.toList_none, List.append_nil]
      exact .unchanged _
    rcases hfulfil : s.store.fulfil env f tradeNo order payload method with _ | r
    · rw [hfulfil] at htx
      cases htx
    rw [hfulfil] at htx
    cases htx
    obtain ⟨hid, horders, plan, endUnix, prev, hplan, hend, hrow⟩ := fulfil_ok hfulfil
    exact .fulfilled tradeNo payload expected method f order _ plan endUnix prev
      (by simpa using hpending) (lockOrder_ok hlock).1 rfl horders hplan hend hrow
      (by simp [OrderEvent.tradeNo, hid])
  | expire tradeNo expected f =>
    rcases hexpire : s.store.expireSubscriptionOrder f tradeNo expected with _ | store
    · rw [OrderEvent.run, hexpire] at hrun
      cases hrun
    rw [OrderEvent.run, hexpire] at hrun
    cases hrun
    simp only [Option.map_none, Option.toList_none, List.append_nil]
    unfold expireSubscriptionOrder at hexpire
    split_ifs at hexpire with htrade
    have htx := (Store.commitTx_ok hexpire).2
    split at htx
    · cases htx
    rename_i order hlock
    by_cases hpending : order.status = .pending
    · rw [if_neg (by simpa using hpending)] at htx
      split at htx
      · cases htx
      · cases htx
        exact .expired tradeNo expected f order _ hpending (lockOrder_ok hlock).1 rfl rfl rfl rfl
    · rw [if_pos hpending] at htx
      cases htx
      exact .unchanged _

def createdFor (s : OrderSystem) (tradeNo : String) : List (String × ℤ) :=
  s.created.filter (·.1 = tradeNo)

/-- For every order one subscription was created if it is `success`, and none otherwise. -/
def Consistent (s : OrderSystem) : Prop :=
  ∀ tradeNo order, s.store.orders.lookup tradeNo = some order →
    (s.createdFor tradeNo).length = if order.status = .success then 1 else 0

theorem Consistent.replace {s' : OrderSystem} {order' : SubscriptionOrder} (h : s.Consistent)
    (horders : s'.store.orders = s.store.orders.insert tradeNo order')
    (hother : ∀ t, t ≠ tradeNo → s'.createdFor t = s.createdFor t)
    (hself : (s'.createdFor tradeNo).length = if order'.status = .success then 1 else 0) :
    s'.Consistent := by
  intro t order ht
  rw [horders] at ht
  by_cases htrade : t = tradeNo
  · subst htrade
    rw [AList.lookup_insert] at ht
    cases ht
    exact hself
  · rw [AList.lookup_insert_ne htrade] at ht
    rw [hother t htrade]
    exact h t order ht

/-- No call fulfils an order twice. -/
theorem Consistent.outcome {e : OrderEvent} {s' : OrderSystem} (h : s.Consistent)
    (hs : Outcome env s e s') : s'.Consistent := by
  cases hs with
  | unchanged => exact h
  | fulfilled tradeNo _ _ _ _ order _ _ _ _ hpending hfound hsuccess horders _ _ _ hcreated =>
    have hnone : (s.createdFor tradeNo).length = 0 := by
      rw [h tradeNo order hfound, if_neg (by simp [hpending])]
    apply h.replace horders
    · intro t ht
      simp [createdFor, hcreated, List.filter_append, Ne.symm ht]
    · rw [if_pos hsuccess]
      simpa [createdFor, hcreated, List.filter_append] using hnone
  | expired tradeNo _ _ order _ hpending hfound hexpired horders _ hcreated =>
    apply h.replace horders
    · intro t _
      rw [createdFor, createdFor, hcreated]
    · rw [if_neg (by simp [hexpired]), createdFor, hcreated]
      exact (h tradeNo order hfound).trans (if_neg (by simp [hpending]))

theorem Outcome.closed {e : OrderEvent} {s' : OrderSystem} (hs : Outcome env s e s')
    (hfound : s.store.orders.lookup tradeNo = some order) (hclosed : order.status ≠ .pending) :
    s'.store.orders.lookup tradeNo = some order := by
  -- Only a pending order is replaced, so the order that is replaced is another one.
  have hother : ∀ t order₁, s.store.orders.lookup t = some order₁ →
      order₁.status = .pending → tradeNo ≠ t := by
    rintro t order₁ hfound₁ hpending rfl
    obtain rfl : order = order₁ := some.inj (hfound.symm.trans hfound₁)
    exact hclosed hpending
  cases hs with
  | unchanged => exact hfound
  | fulfilled t _ _ _ _ order₁ _ _ _ _ hpending hfound₁ _ horders
  | expired t _ _ order₁ _ hpending hfound₁ _ horders =>
    rw [horders, AList.lookup_insert_ne (hother t order₁ hfound₁ hpending)]
    exact hfound

/-- The subscriptions in the table are those that were there and those created since. -/
def Grown (s s' : OrderSystem) : Prop :=
  ∃ new, s'.created = s.created ++ new ∧
    s'.store.subs.rows.map Prod.fst = s.store.subs.rows.map Prod.fst ++ new.map Prod.snd

/-- A call only adds subscriptions. -/
theorem Grown.outcome {e : OrderEvent} {s₀ s' : OrderSystem} (h : Grown s₀ s)
    (hs : Outcome env s e s') : Grown s₀ s' := by
  obtain ⟨new, hcreated, hrows⟩ := h
  cases hs with
  | unchanged => exact ⟨new, hcreated, hrows⟩
  | fulfilled tradeNo _ _ _ _ _ _ _ _ _ _ _ _ _ _ _ hsubs hcreated' =>
    refine ⟨new ++ [(tradeNo, s.store.subs.nextId)], ?_, ?_⟩
    · rw [hcreated', hcreated, List.append_assoc]
    · rw [hsubs]
      simp [SubscriptionTable.create, hrows]
  | expired _ _ _ _ _ _ _ _ _ hsubs hcreated' =>
    refine ⟨new, hcreated'.trans hcreated, ?_⟩
    rw [hsubs, hrows]

theorem run_of_otherProvider (env : OrderEnv) {s : OrderStore} {e : OrderEvent}
    (hfound : s.orders.lookup e.tradeNo = some order)
    (hexpected : e.expectedPaymentProvider ≠ .unset)
    (hprovider : order.paymentProvider ≠ e.expectedPaymentProvider) :
    ∃ err, e.run env s = .error err := by
  have hlock : ∀ fault, ∃ err,
      s.lockOrder fault e.tradeNo e.expectedPaymentProvider = .error err := by
    intro fault
    unfold lockOrder
    rw [hfound]
    cases fault with
    | some => exact ⟨_, rfl⟩
    | none => exact ⟨_, if_pos ⟨hexpected, hprovider⟩⟩
  cases e with
  | complete tradeNo _ expected _ f =>
    obtain ⟨err, herr⟩ := hlock f.order
    simp only [OrderEvent.run, completeSubscriptionOrder]
    split_ifs
    · exact ⟨_, rfl⟩
    · rw [show s.lockOrder f.order tradeNo expected = .error err from herr]
      exact ⟨err, rfl⟩
  | expire tradeNo expected f =>
    obtain ⟨err, herr⟩ := hlock f.order
    simp only [OrderEvent.run, expireSubscriptionOrder]
    split_ifs
    · exact ⟨_, rfl⟩
    · rw [show s.lockOrder f.order tradeNo expected = .error err from herr]
      exact ⟨err, rfl⟩

theorem step_of_error {e : OrderEvent} {err : Err} (h : e.run env s.store = .error err) :
    s.step env e = s := by
  rw [step, h]

/-- **A subscription order is fulfilled exactly once**, whatever calls there are and wherever they
fail. -/
theorem subscriptionOrder_fulfilledOnce (env : OrderEnv) {s : OrderSystem} (h : s.Consistent)
    (es : List OrderEvent) :
    let s' := es.foldl (step env) s
    s'.Consistent ∧ Grown s s' ∧ (∀ tradeNo order, s'.store.orders.lookup tradeNo = some order →
        order.status = .success ∨ order.status = .expired →
        ∀ es' : List OrderEvent, (es'.foldl (step env) s').store.orders.lookup
          tradeNo = some order) ∧
      (∀ e order, s'.store.orders.lookup e.tradeNo = some order →
        e.expectedPaymentProvider ≠ .unset →
        order.paymentProvider ≠ e.expectedPaymentProvider → s'.step env e = s') ∧
      (∀ e err, e.run env s'.store = .error err → s'.step env e = s') := by
  intro s'
  refine ⟨?_, ?_, ?_, ?_, ?_⟩
  · apply Guarded.invariant_of_step ?_ es h
    intro s e hs
    exact hs.outcome (outcome_step env s e)
  · apply Guarded.invariant_of_step ?_ es ⟨[], by simp, by simp⟩
    intro s₁ e hs₁
    exact hs₁.outcome (outcome_step env s₁ e)
  · intro tradeNo order hfound hclosed es'
    have hstatus : order.status ≠ .pending := by
      rcases hclosed with h | h <;> simp [h]
    have hkept : ∀ (s : OrderSystem) (e : OrderEvent), s.store.orders.lookup tradeNo = some order →
        (s.step env e).store.orders.lookup tradeNo = some order := by
      intro s e hs
      exact (outcome_step env s e).closed hs hstatus
    exact Guarded.invariant_of_step hkept es' hfound
  · intro e order hfound hexpected hprovider
    obtain ⟨err, herr⟩ := run_of_otherProvider env hfound hexpected hprovider
    exact step_of_error herr
  · intro e err herr
    exact step_of_error herr

end OrderSystem

def OrderEnv.utc : OrderEnv where
  calendar := .utc
  addDate start years months := start + (years * 365 + months * 30) * 86400
  quotaPerUnit := 500000

def PurchasePlan.daily (upgradeGroup : String) (maxPurchasePerUser : ℤ) : PurchasePlan :=
  { SubscriptionPlan.ofPeriod "never" with
    id := 2
    priceAmount := 1
    durationUnit := "day"
    durationValue := 1
    customSeconds := 0
    enabled := true
    allowBalancePay := none
    allowWalletOverflow := none
    maxPurchasePerUser
    upgradeGroup
    downgradeGroup := ""
    totalAmount := 100 }

def OrderStore.ordered : OrderStore where
  users id := if id = 1 then some ⟨1000000, "default"⟩ else none
  subs := .empty
  orders := AList.singleton "t1"
    { userId := 1, planId := 2, money := 1, paymentMethod := "alipay", paymentProvider := .epay,
      status := .pending, createTime := 0, completeTime := 0, providerPayload := "" }
  topUps := ∅

def OrderEvent.notice (provider : PaymentProvider) : OrderEvent :=
  .complete "t1" "" provider "alipay" { plan := fun _ => .ok (.daily "vip" 0) }

theorem subscriptionOrder_fulfilledOnce_of_repeated :
    let es := [OrderEvent.notice .stripe, .notice .epay,
      .expire "t1" .epay { plan := fun _ => .error "" }, .notice .epay]
    let s' := es.foldl (OrderSystem.step .utc) ⟨.ordered, []⟩
    s'.Consistent ∧ (s'.createdFor "t1").length = 1 := by
  refine ⟨(OrderSystem.subscriptionOrder_fulfilledOnce .utc ?_ _).1, by decide +kernel⟩
  intro tradeNo order hfound
  by_cases htrade : tradeNo = "t1"
  · subst htrade
    cases hfound
    rfl
  have hnone : OrderStore.ordered.orders.lookup tradeNo = none := by
    rw [AList.lookup_eq_none]
    simpa [OrderStore.ordered, AList.mem_keys, AList.keys_singleton] using htrade
  rw [hnone] at hfound
  cases hfound

end TokensFlux
