import TokensFlux.Store.Equiv.Ledger
import TokensFlux.Subscription.Schedule

/-!
# Subscriptions under concurrent transactions

The transactions that lock the rows they write are one step each.  Those that read without a lock
(`SubscriptionJob`) take a step for the read, one for each row and one for the commit.
-/

namespace TokensFlux

/-- For each subscription, what each request that was not refunded has consumed since the last
reset, and the sum of all committed deltas, as requested and as applied. -/
structure SubscriptionSystem (P : Type) where
  store : Store
  jobs : P → Option SubscriptionJob
  consumed : ℤ → String → ℤ
  requested : ℤ → ℤ
  committed : ℤ → ℤ

inductive SubscriptionEvent (P : Type)
  | preConsume (requestId : String) (userId amount now : ℤ) (f : PreConsumeFaults)
  | settle (requestId : String) (id delta : ℤ) (f : TxFaults)
  | refund (requestId : String) (f : RefundFaults)
  | resetDue (id now : ℤ) (f : TxFaults) (planFault : Option Err)
  | start (p : P) (call : SubscriptionCall) (now : ℤ) (planFault select : Option Err)
  | next (p : P) (planFault : Option Err)
  | commit (p : P)
  | rollback (p : P)
  | create (id : ℤ) (sub : UserSubscription)
  | setPlans (plans : ℤ → Option SubscriptionPlan)

namespace SubscriptionSystem

variable {P : Type}

def init (store : Store) : SubscriptionSystem P where
  store := store
  jobs _ := none
  consumed _ _ := 0
  requested _ := 0
  committed _ := 0

def beginsPeriod (s : SubscriptionSystem P) (store : Store) (id : ℤ) : Bool :=
  (s.store.subs.lookup id).map UserSubscription.periodStart
    ≠ (store.subs.lookup id).map UserSubscription.periodStart

def reset (s : SubscriptionSystem P) (store : Store) : SubscriptionSystem P :=
  { s with
    store
    consumed := fun id => if s.beginsPeriod store id then fun _ => 0 else s.consumed id }

/-- Of a negative delta only what was used can be taken off. -/
def add (s : SubscriptionSystem P) (store : Store) (id : ℤ) (requestId : String) (delta : ℤ) :
    SubscriptionSystem P :=
  { s with
    store
    consumed := Function.update s.consumed id
      (Function.update (s.consumed id) requestId (s.consumed id requestId + delta))
    requested := Function.update s.requested id (s.requested id + delta)
    committed := Function.update s.committed id
      (s.committed id + max delta (-s.store.amountUsed id)) }

def forget (s : SubscriptionSystem P) (id : ℤ) (requestId : String) : SubscriptionSystem P :=
  { s with
    consumed := Function.update s.consumed id (Function.update (s.consumed id) requestId 0) }

/-- A row that is saved with nothing used is a reset. -/
def write (s : SubscriptionSystem P) (w : ℤ × SubscriptionWrite) : SubscriptionSystem P :=
  { s with
    store := s.store.write w.1 w.2
    consumed :=
      match w.2 with
      | .save sub =>
        if sub.amountUsed = 0 then Function.update s.consumed w.1 fun _ => 0 else s.consumed
      | .columns _ _ => s.consumed }

variable [DecidableEq P]

def setJob (s : SubscriptionSystem P) (p : P) (job : Option SubscriptionJob) :
    SubscriptionSystem P :=
  { s with jobs := Function.update s.jobs p job }

/-- A transaction commits when it has come to the end of its rows. -/
def step (cal : Calendar) (s : SubscriptionSystem P) : SubscriptionEvent P → SubscriptionSystem P
  | .preConsume requestId userId amount now f =>
    match s.store.preConsumeUserSubscription cal f requestId userId amount now with
    | .error _ => s
    | .ok (res, store) =>
      -- A request that is already recorded charges nothing.
      if (s.store.records.lookup requestId).isSome then s.reset store
      else (s.reset store).add store res.userSubscriptionId requestId amount
  | .settle requestId id delta f =>
    match s.store.postConsumeUserSubscriptionDelta f id delta with
    | .error _ => s
    | .ok store => s.add store id requestId delta
  | .refund requestId f =>
    let store := (s.store.refundSubscriptionPreConsume f requestId).1
    match s.store.refundedRecord f requestId with
    | none => { s with store }
    | some record =>
      (s.add store record.userSubscriptionId requestId (-record.preConsumed)).forget
        record.userSubscriptionId requestId
  | .resetDue id now f planFault =>
    s.reset (s.store.resetDueSubscription cal f planFault id now)
  | .start p call now planFault select =>
    s.setJob p (s.store.openJob now planFault select call).toOption
  | .next p planFault =>
    s.setJob p ((s.jobs p).bind fun job => (job.next cal s.store planFault).toOption)
  | .commit p =>
    match s.jobs p with
    | some ⟨_, _, [], writes⟩ => (writes.foldl write s).setJob p none
    | _ => s
  | .rollback p => s.setJob p none
  | .create id sub =>
    if (s.store.subs.lookup id).isSome then s
    else
      { s with
        store := { s.store with subs := s.store.subs.insert id { sub with amountUsed := 0 } } }
  | .setPlans plans => { s with store := { s.store with plans } }

end SubscriptionSystem

end TokensFlux
