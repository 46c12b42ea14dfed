import TokensFlux.Order.Basic

/-!
# The group of a subscriber

When a subscription ends the user goes back to the recorded group, unless another one with a group
is still active.
-/

namespace TokensFlux

structure DowngradeFaults where
  sub : Option Err := none
  group : Option Err := none
  active : Option Err := none
  /-- The expiry task ends without an error then. -/
  lastExpired : Option Err := none
  update : Option Err := none
  delete : Option Err := none
  commit : Option Err := none

/-- An explicit downgrade group, or else the group before the purchase if the user is still in the
group of the subscription. -/
def SubscriptionRow.downgradeTarget (sub : SubscriptionRow)
    (currentGroup : String) : Option String :=
  let downgradeGroup := trimSpace sub.downgradeGroup
  let upgradeGroup := trimSpace sub.upgradeGroup
  let target :=
    if downgradeGroup ≠ "" then downgradeGroup
    else if upgradeGroup = "" ∨ currentGroup ≠ upgradeGroup then ""
    else trimSpace sub.prevUserGroup
  if target = "" ∨ target = currentGroup then none else some target

namespace OrderStore

variable (s : OrderStore)

def upgradedSubscriptions (userId now : ℤ) : List (ℤ × SubscriptionRow) :=
  s.subs.rows.filter fun r =>
    r.2.userId = userId && r.2.status = .active && now < r.2.endTime && r.2.upgradeGroup ≠ ""

variable (f : DowngradeFaults)

def applyDowngrade (sub : SubscriptionRow) : Except Err (OrderStore × String) :=
  match sub.downgradeTarget (s.userGroup sub.userId) with
  | none => .ok (s, "")
  | some target =>
    match f.update with
    | some e => .error e
    | none => .ok (s.setUserGroup sub.userId target, target)

def downgradeUserGroupForSubscriptionTx (id : ℤ)
    (sub : SubscriptionRow) (now : ℤ) : Except Err (OrderStore × String) :=
  if trimSpace sub.downgradeGroup = "" ∧ trimSpace sub.upgradeGroup = "" then .ok (s, "")
  else
    match f.group with
    | some e => .error e
    | none =>
      if f.active = none ∧ (s.upgradedSubscriptions sub.userId now).any (·.1 ≠ id) then .ok (s, "")
      else s.applyDowngrade f sub

variable (userSubscriptionId now : ℤ)

def cancelSubscription : OrderStore :=
  { s with
    subs := s.subs.modify fun id row =>
      if id = userSubscriptionId then { row with status := .cancelled, endTime := now } else row }

def deleteSubscription (userSubscriptionId : ℤ) : OrderStore :=
  { s with subs := s.subs.delete userSubscriptionId }

/-- With the group the user goes back to. -/
def adminInvalidateUserSubscription : Except Err (OrderStore × String) :=
  if userSubscriptionId ≤ 0 then .error "invalid userSubscriptionId"
  else commitTx f.commit <| match s.subs.get userSubscriptionId, f.sub with
    | none, _ => .error "record not found"
    | some _, some e => .error e
    | some sub, none =>
      (s.cancelSubscription userSubscriptionId now).downgradeUserGroupForSubscriptionTx f
        userSubscriptionId sub now

def adminDeleteUserSubscription : Except Err (OrderStore × String) :=
  if userSubscriptionId ≤ 0 then .error "invalid userSubscriptionId"
  else commitTx f.commit <| match s.subs.get userSubscriptionId, f.sub with
    | none, _ => .error "record not found"
    | some _, some e => .error e
    | some sub, none =>
      match s.downgradeUserGroupForSubscriptionTx f userSubscriptionId sub now, f.delete with
      | .error e, _ => .error e
      | .ok _, some e => .error e
      | .ok (s, target), none => .ok (s.deleteSubscription userSubscriptionId, target)

/-! ### Expiry -/

def isDue (now : ℤ) (row : SubscriptionRow) : Bool :=
  row.status = .active && 0 < row.endTime && row.endTime ≤ now

def expireSubscriptions (userId now : ℤ) : OrderStore :=
  { s with
    subs := s.subs.modify fun _ row =>
      if row.userId = userId && isDue now row then { row with status := .expired } else row }

variable (a b : ℤ × SubscriptionRow)

def endsAfter : Prop :=
  b.2.endTime < a.2.endTime ∨ (a.2.endTime = b.2.endTime ∧ b.1 ≤ a.1)

instance : DecidableRel endsAfter := fun _ _ => instDecidableOr

def lastExpired (userId : ℤ) : Option SubscriptionRow :=
  ((s.subs.rows.filter fun r =>
      r.2.userId = userId && r.2.status = .expired &&
        (r.2.downgradeGroup ≠ "" || r.2.upgradeGroup ≠ "")).insertionSort endsAfter).head?.map
    Prod.snd

/-- With the number of rows it has expired. -/
def expireUserSubscriptions (userId now : ℤ) : Except Err (OrderStore × ℕ) :=
  let expired := (s.subs.rows.filter fun r => r.2.userId = userId && isDue now r.2).length
  commitTx f.commit <| match f.sub with
    | some e => .error e
    | none =>
      let s := s.expireSubscriptions userId now
      if f.active = none ∧ s.upgradedSubscriptions userId now ≠ [] then .ok (s, expired)
      else
        match f.lastExpired, s.lastExpired userId with
        | none, some sub =>
          match f.group with
          | some e => .error e
          | none => (s.applyDowngrade f sub).map fun (s, _) => (s, expired)
        | _, _ => .ok (s, expired)

def endsBefore : Prop := endsAfter b a

instance : DecidableRel endsBefore := fun _ _ => instDecidableOr

def dueUsers (limit : ℕ) (now : ℤ) : List ℤ :=
  (((((s.subs.rows.filter fun r => isDue now r.2).insertionSort endsBefore).take limit).map
    (·.2.userId)).filter (0 < ·)).dedup

/-- It stops at an error. -/
def expireUsers (f : ℤ → DowngradeFaults) (now : ℤ) (s : OrderStore) : List ℤ → OrderStore
  | [] => s
  | userId :: userIds =>
    match s.expireUserSubscriptions (f userId) userId now with
    | .error _ => s
    | .ok (s, _) => expireUsers f now s userIds

/-- Go goes through the users in the order `order` makes of them; the count is left out. -/
def expireDueSubscriptions (f : ℤ → DowngradeFaults) (order : List ℤ → List ℤ)
    (limit now : ℤ) : OrderStore :=
  expireUsers f now s (order (s.dueUsers (if limit ≤ 0 then 200 else limit.toNat) now))

end OrderStore

end TokensFlux
