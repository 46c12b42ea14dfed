import TokensFlux.Store.Batch
import Mathlib.Algebra.Order.Field.Rat

/-!
# Writers of a user's balance

Two writers load the row and save every column: `TransferAffQuotaToQuota`, which keeps the row
locked, and `inviteUser`, which does not.  A statement that needs a locked row does nothing and is
executed again.
-/

namespace TokensFlux

structure User where
  quota : ℤ
  usedQuota : ℤ
  requestCount : ℤ
  affCount : ℤ
  affQuota : ℤ
  affHistoryQuota : ℤ
deriving DecidableEq, Repr

def User.invite (user : User) (quotaForInviter : ℤ) : User :=
  { user with
    affCount := user.affCount + 1
    affQuota := user.affQuota + quotaForInviter
    affHistoryQuota := user.affHistoryQuota + quotaForInviter }

def User.transfer (user : User) (quota : ℤ) : User :=
  { user with
    affQuota := user.affQuota - quota
    quota := user.quota + quota }

inductive RedemptionStatus
  | enabled
  | disabled
  | used
deriving DecidableEq, Repr

structure Redemption where
  status : RedemptionStatus
  quota : ℤ
  expiredTime : ℤ
  redeemedTime : ℤ
  usedUserId : ℤ
deriving DecidableEq, Repr

def Redemption.check (redemption : Option Redemption) (now : ℤ) : Except Err Redemption :=
  match redemption with
  | none => .error "无效的兑换码"
  | some r =>
    if r.status ≠ .enabled then .error "该兑换码已被使用"
    else if r.expiredTime ≠ 0 ∧ r.expiredTime < now then .error "该兑换码已过期"
    else .ok r

/-- `logQuota` only enters a message. -/
structure UserEnv where
  quotaForInviter : ℤ
  quotaPerUnit : ℚ
  logQuota : ℤ → String

def checkTransfer (env : UserEnv) (user : User) (quota : ℤ) : Except Err Unit :=
  if quota < env.quotaPerUnit then
    .error ("转移额度最小为" ++ env.logQuota (env.quotaPerUnit.num.tdiv env.quotaPerUnit.den) ++ "！")
  else if user.affQuota < quota then .error "邀请额度不足！"
  else .ok ()

structure AffTransfer where
  user : User
  quota : ℤ

/-- The last three fields add up what has been completed: the credits less the charges, the quota
transferred, and the invitations. -/
structure UserSystem (P : Type) where
  batch : BatchSystem
  affCount : ℤ
  affQuota : ℤ
  affHistoryQuota : ℤ
  redemptions : AList fun _ : String => Redemption
  invites : P → Option User
  redeems : P → Option (String × Redemption)
  lock : Option AffTransfer
  credited : ℤ := 0
  transferred : ℤ := 0
  invited : ℤ := 0

inductive UserEvent (P : Type)
  | inviteRead (p : P)
  | inviteSave (p : P) (fault : Option Err)
  | transferLock (quota : ℤ)
  | transferSave (fault : Option Err)
  | increase (quota : ℤ) (db : Bool) (fault : Option Err)
  | decrease (quota : ℤ) (db : Bool) (fault : Option Err)
  | redeemRead (p : P) (key : String) (now : ℤ)
  | redeemWrite (p : P) (now : ℤ) (fault : Option Err)
  /-- The statement with which a top-up, or a check-in, credits the user. -/
  | topUp (quota : ℤ) (fault : Option Err)
  | record (type_ : BatchUpdateType) (k value : ℤ)
  | startBatch
  | advanceBatch (i : ℕ) (k : ℤ) (fault : Option Err)

namespace UserSystem

variable {P : Type} (env : UserEnv) (id : ℤ)

def load (s : UserSystem P) : User where
  quota := s.batch.tables.userQuota id
  usedQuota := s.batch.tables.userUsedQuota id
  requestCount := s.batch.tables.requestCount id
  affCount := s.affCount
  affQuota := s.affQuota
  affHistoryQuota := s.affHistoryQuota

def save (s : UserSystem P) (user : User) : UserSystem P :=
  let tables := s.batch.tables
  { s with
    batch := { s.batch with
      tables := { tables with
        userQuota := Function.update tables.userQuota id user.quota
        userUsedQuota := Function.update tables.userUsedQuota id user.usedQuota
        requestCount := Function.update tables.requestCount id user.requestCount } }
    affCount := user.affCount
    affQuota := user.affQuota
    affHistoryQuota := user.affHistoryQuota }

def addQuota (s : UserSystem P) (fault : Option Err) (delta : ℤ) : UserSystem P :=
  if s.lock.isSome then s
  else
    match s.batch.tables.addUserQuota fault id delta with
    | .error _ => s
    | .ok tables => { s with batch := { s.batch with tables }, credited := s.credited + delta }

/-- For `delta` of either sign. -/
def changeQuota (s : UserSystem P) (fault : Option Err) (delta : ℤ) (db : Bool) : UserSystem P :=
  if !db && s.batch.tables.batchUpdateEnabled then
    { s with
      batch := s.batch.step (.record .userQuota id delta), credited := s.credited + delta }
  else s.addQuota id fault delta

/-- The code is marked as used if it is still enabled. -/
def redeem (s : UserSystem P) (key : String) (redemption : Redemption) (now : ℤ)
    (fault : Option Err) : UserSystem P :=
  if s.lock.isSome then s
  else
    match s.redemptions.lookup key, fault with
    | some row, none =>
      if row.status = .enabled then
        let used := { row with status := .used, redeemedTime := now, usedUserId := id }
        { s with redemptions := s.redemptions.insert key used }.addQuota id none redemption.quota
      else s
    | _, _ => s

def batchWaits (s : UserSystem P) (i : ℕ) (k : ℤ) : Bool :=
  s.lock.isSome &&
    match s.batch.runs[i]? with
    | some (.writing stores) =>
      match BatchStatement.next stores k with
      | some (.user userId _ _ _) => userId = id
      | _ => false
    | _ => false

variable [DecidableEq P]

def step (s : UserSystem P) : UserEvent P → UserSystem P
  | .inviteRead p => { s with invites := Function.update s.invites p (some (s.load id)) }
  | .inviteSave p fault =>
    match s.lock, s.invites p, fault with
    | none, some user, none =>
      let s := s.save id (user.invite env.quotaForInviter)
      { s with invites := Function.update s.invites p none, invited := s.invited + 1 }
    | none, some _, some _ => { s with invites := Function.update s.invites p none }
    | _, _, _ => s
  | .transferLock quota =>
    match s.lock, checkTransfer env (s.load id) quota with
    | none, .ok () => { s with lock := some ⟨s.load id, quota⟩ }
    | _, _ => s
  | .transferSave fault =>
    match s.lock, fault with
    | some t, none =>
      let s := s.save id (t.user.transfer t.quota)
      { s with lock := none, transferred := s.transferred + t.quota }
    | some _, some _ => { s with lock := none }
    | none, _ => s
  | .increase quota db fault => if quota < 0 then s else s.changeQuota id fault quota db
  | .decrease quota db fault => if quota < 0 then s else s.changeQuota id fault (-quota) db
  | .redeemRead p key now =>
    if key = "" ∨ id = 0 then s
    else
      match Redemption.check (s.redemptions.lookup key) now with
      | .error _ => s
      | .ok r => { s with redeems := Function.update s.redeems p (some (key, r)) }
  | .redeemWrite p now fault =>
    match s.redeems p with
    | none => s
    | some (key, r) => s.redeem id key r now fault
  | .topUp quota fault => s.addQuota id fault quota
  | .record type_ k value =>
    if type_ = .userQuota ∧ k = id then s
    else { s with batch := s.batch.step (.record type_ k value) }
  | .startBatch => { s with batch := s.batch.step .start }
  | .advanceBatch i k fault =>
    if s.batchWaits id i k then s
    else { s with batch := s.batch.step (.advance i k fault) }

end UserSystem

end TokensFlux
