import TokensFlux.Lib.Transaction
import TokensFlux.Subscription.Basic

/-!
# Concurrent calls of `PreConsumeUserSubscription`

One step for each statement, under read committed isolation, on a database with `FOR UPDATE` (on
SQLite `lockForUpdate` locks nothing).  `FOR UPDATE` and the unique index make a statement wait; a
failing `INSERT` leaves the transaction open.
-/

namespace TokensFlux

inductive PreConsumePhase
  | checking
  | answering (existing : SubscriptionPreConsumeRecord)
  | locking
  | scanning (candidates : List (ℤ × UserSubscription))
  | creating (id : ℤ) (sub : UserSubscription)
  | duplicate (id : ℤ) (sub : UserSubscription)
  | saving (id : ℤ) (sub : UserSubscription)
  | answered (result : SubscriptionPreConsumeResult)
  | repeated (id : ℤ) (sub : UserSubscription) (dup : SubscriptionPreConsumeRecord)
deriving DecidableEq, Repr

structure PreConsumeCall where
  requestId : String
  userId : ℤ
  amount : ℤ
  amount_pos : 0 < amount
  now : ℤ
  phase : PreConsumePhase := .checking
  rows : List (ℤ × UserSubscription) := []
  record : Option SubscriptionPreConsumeRecord := none
deriving DecidableEq, Repr

/-- Rows of `user_subscriptions`, and keys of the unique index of the records. -/
inductive PreConsumeRow
  | sub (id : ℤ)
  | record (requestId : String)
deriving DecidableEq, Repr

structure PreConsumeAnswer where
  requestId : String
  result : SubscriptionPreConsumeResult
deriving DecidableEq, Repr

structure PreConsumeTables where
  tables : Store
  answers : List PreConsumeAnswer := []

abbrev PreConsumeSystem (P : Type) := TxSystem P PreConsumeRow PreConsumeTables PreConsumeCall

inductive PreConsumeEvent (P : Type)
  | start (p : P) (requestId : String) (userId amount now : ℤ)
  | next (p : P) (f : PreConsumeFaults)

/-- The subscription is its own candidate, the amount that of the record. -/
def repeatedResult (id : ℤ) (sub : UserSubscription) (dup : SubscriptionPreConsumeRecord) :
    SubscriptionPreConsumeResult :=
  ⟨id, dup.preConsumed, sub.amountTotal, sub.amountUsed, sub.amountUsed⟩

def PreConsumeCall.commitTo (c : PreConsumeCall) (t : Store) : Store :=
  { t with
    subs := c.rows.foldl (fun subs r => subs.insert r.1 r.2) t.subs
    records := c.record.elim t.records fun record => t.records.insert c.requestId record }

namespace PreConsumeSystem

variable {P : Type} [DecidableEq P]

def init (store : Store) : PreConsumeSystem P where
  store := { tables := store }

def finish (s : PreConsumeSystem P) (p : P) (c : PreConsumeCall) (fault : Option Err)
    (result : SubscriptionPreConsumeResult) : PreConsumeSystem P :=
  match fault with
  | some _ => s.rollback p
  | none => s.commit p ⟨c.commitTo s.store.tables, ⟨c.requestId, result⟩ :: s.store.answers⟩

/-- It is skipped if its quota is not enough. -/
def consider (s : PreConsumeSystem P) (p : P) (c : PreConsumeCall) (id : ℤ) (sub : UserSubscription)
    (rest rows : List (ℤ × UserSubscription)) : PreConsumeSystem P :=
  -- A total of zero means unlimited.
  if 0 < sub.amountTotal ∧ sub.amountTotal - sub.amountUsed < c.amount then
    s.advance p { c with phase := .scanning rest, rows }
  else s.advance p { c with phase := .creating id sub, rows }

variable (cal : Calendar)

def scan (s : PreConsumeSystem P) (p : P) (c : PreConsumeCall) (f : PreConsumeFaults)
    (id : ℤ) (candidate : UserSubscription) (rest : List (ℤ × UserSubscription)) :
    PreConsumeSystem P :=
  match s.store.tables.getSubscriptionPlanById (f.plan id) candidate.planId with
  | .error _ => s.rollback p
  | .ok plan =>
    match dueReset cal candidate plan c.now, f.resetSave id with
    | none, _ => consider s p c id candidate rest c.rows
    | some _, some _ => s.rollback p
    | some sub, none => consider s p c id sub rest (c.rows ++ [(id, sub)])

def proceed (s : PreConsumeSystem P) (p : P) (f : PreConsumeFaults)
    (c : PreConsumeCall) : PreConsumePhase → PreConsumeSystem P
  | .checking =>
    match f.start, f.findRecord, s.store.tables.records.lookup c.requestId with
    | none, none, some existing =>
      if existing.status = .refunded then s.rollback p
      else s.advance p { c with phase := .answering existing }
    | none, none, none => s.advance p { c with phase := .locking }
    | _, _, _ => s.rollback p
  | .answering existing =>
    match f.firstSub, s.store.tables.subs.lookup existing.userSubscriptionId with
    | none, some sub =>
      s.advance p { c with phase := .answered ⟨existing.userSubscriptionId, existing.preConsumed,
        sub.amountTotal, sub.amountUsed, sub.amountUsed⟩ }
    | _, _ => s.rollback p
  | .locking =>
    let subs := s.store.tables.activeSubscriptions c.userId c.now
    match f.findSubs with
    | some _ => s.rollback p
    | none =>
      if subs.any fun r => s.waits p (.sub r.1) then s
      else if subs = [] then s.rollback p
      else (s.acquireAll p (subs.map fun r => .sub r.1)).advance p
        { c with phase := .scanning subs }
  | .scanning [] => s.rollback p
  | .scanning ((id, candidate) :: rest) => scan cal s p c f id candidate rest
  | .creating id sub =>
    match f.create, s.waits p (.record c.requestId), s.store.tables.records.lookup c.requestId with
    | some _, _, _ => s.advance p { c with phase := .duplicate id sub }
    -- Another transaction has inserted the key and not ended yet.
    | none, true, _ => s
    | none, false, some _ => s.advance p { c with phase := .duplicate id sub }
    | none, false, none =>
      (s.acquire p (.record c.requestId)).advance p
        { c with
          phase := .saving id sub
          record := some ⟨c.userId, id, c.amount, .consumed⟩ }
  | .duplicate id sub =>
    match f.dup, s.store.tables.records.lookup c.requestId with
    | none, some dup =>
      if dup.status = .refunded then s.rollback p
      else s.advance p { c with phase := .repeated id sub dup }
    | _, _ => s.rollback p
  | .saving id sub =>
    match f.save with
    | some _ => s.rollback p
    | none =>
      let charged := sub.setUsed (sub.amountUsed + c.amount) (sub.charged_nonneg c.amount_pos)
      s.advance p
        { c with
          phase := .answered ⟨id, c.amount, sub.amountTotal, sub.amountUsed, charged.amountUsed⟩
          rows := c.rows ++ [(id, charged)] }
  | .answered result => finish s p c f.commit result
  | .repeated id sub dup => finish s p c f.commit (repeatedResult id sub dup)

def step (s : PreConsumeSystem P) : PreConsumeEvent P → PreConsumeSystem P
  | .start p requestId userId amount now =>
    if (s.calls p).isSome ∨ userId ≤ 0 ∨ trimSpace requestId = "" then s
    else if hamount : 0 < amount then
      s.advance p { requestId, userId, amount, amount_pos := hamount, now }
    else s
  | .next p f =>
    match s.calls p with
    | none => s
    | some c => proceed cal s p f c c.phase

end PreConsumeSystem

end TokensFlux
