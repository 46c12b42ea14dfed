import Mathlib.Data.List.AList

/-!
# The billing tables

A statement that can fail takes a `fault`: `none` when it is executed, `some e` when it answers `e`
and changes nothing. With `batchUpdateEnabled` relative updates go to `batchUpdateStores`, and
cannot fail.
-/

namespace TokensFlux

abbrev Err := String

structure Token where
  remainQuota : ℤ
  usedQuota : ℤ
  unlimitedQuota : Bool
deriving DecidableEq, Repr

inductive SubscriptionStatus
  | active
  | expired
  | cancelled
deriving DecidableEq, Repr

/-- Without its id, the key of its row. `amountTotal = 0` means unlimited. `amountUsed` is written
by `setUsed`. -/
structure UserSubscription where
  userId : ℤ
  planId : ℤ
  amountTotal : ℤ
  amountUsed : ℕ
  startTime : ℤ
  endTime : ℤ
  status : SubscriptionStatus
  lastResetTime : ℤ
  nextResetTime : ℤ
  allowWalletOverflow : Bool
deriving DecidableEq, Repr

/-- Whoever writes the used amount shows that it is zero or above. -/
def UserSubscription.setUsed (sub : UserSubscription) (used : ℤ) (_ : 0 ≤ used) :
    UserSubscription :=
  { sub with amountUsed := used.toNat }

/-- A custom period is short enough for `time.Duration` to hold it in nanoseconds. -/
structure SubscriptionPlan where
  title : String
  quotaResetPeriod : String
  quotaResetCustomSeconds : ℤ
  custom_fits : quotaResetCustomSeconds ≤ 9223372036

inductive RecordStatus
  | consumed
  | refunded
deriving DecidableEq, Repr

/-- Without its request id, the key of its row. -/
structure SubscriptionPreConsumeRecord where
  userId : ℤ
  userSubscriptionId : ℤ
  preConsumed : ℤ
  status : RecordStatus
deriving DecidableEq, Repr

inductive LogType
  | consume
  | refund
deriving DecidableEq, Repr

structure Log where
  userId : ℤ
  type : LogType
  promptTokens : ℤ
  completionTokens : ℤ
  modelName : String
  quota : ℤ
  channelId : ℤ
  tokenId : ℤ
  group : String
deriving DecidableEq, Repr

inductive BatchUpdateType
  | userQuota
  | tokenQuota
  | usedQuota
  | channelUsedQuota
  | requestCount
deriving DecidableEq, Repr

structure Store where
  batchUpdateEnabled : Bool
  logConsumeEnabled : Bool
  userQuota : ℤ → ℤ
  userUsedQuota : ℤ → ℤ
  requestCount : ℤ → ℤ
  channelUsedQuota : ℤ → ℤ
  tokenIdOfKey : String → Option ℤ
  token : ℤ → Token
  batchUpdateStores : BatchUpdateType → ℤ → ℤ
  subs : AList fun _ : ℤ => UserSubscription
  plans : ℤ → Option SubscriptionPlan
  records : AList fun _ : String => SubscriptionPreConsumeRecord
  logs : List Log

namespace Store

def empty : Store where
  batchUpdateEnabled := false
  logConsumeEnabled := true
  userQuota := fun _ => 0
  userUsedQuota := fun _ => 0
  requestCount := fun _ => 0
  channelUsedQuota := fun _ => 0
  tokenIdOfKey := fun _ => none
  token := fun _ => ⟨0, 0, false⟩
  batchUpdateStores := fun _ _ => 0
  subs := ∅
  plans := fun _ => none
  records := ∅
  logs := []

variable (s : Store)

def addNewRecord (type_ : BatchUpdateType) (id value : ℤ) : Store :=
  { s with
    batchUpdateStores := fun t k =>
      if t = type_ ∧ k = id then s.batchUpdateStores t k + value else s.batchUpdateStores t k }

/-! ### Users -/

/-- The value cached in Redis if there is one, else the column. -/
def getUserQuota (cache : Option ℤ) (fault : Option Err) (id : ℤ) : Except Err ℤ :=
  match cache, fault with
  | some quota, _ => .ok quota
  | none, some e => .error e
  | none, none => .ok (s.userQuota id)

variable (fault : Option Err)

def addUserQuota (id delta : ℤ) : Except Err Store :=
  match fault with
  | some e => .error e
  | none => .ok { s with userQuota := Function.update s.userQuota id (s.userQuota id + delta) }

variable (id quota : ℤ)

def increaseUserQuota (db : Bool) : Except Err Store :=
  if quota < 0 then .error "quota 不能为负数！"
  else if !db && s.batchUpdateEnabled then .ok (s.addNewRecord .userQuota id quota)
  else s.addUserQuota fault id quota

def decreaseUserQuota (db : Bool) : Except Err Store :=
  if quota < 0 then .error "quota 不能为负数！"
  else if !db && s.batchUpdateEnabled then .ok (s.addNewRecord .userQuota id (-quota))
  else s.addUserQuota fault id (-quota)

/-- A failing statement is only logged. -/
def updateUserUsedQuotaAndRequestCount : Store :=
  if s.batchUpdateEnabled then
    (s.addNewRecord .usedQuota id quota).addNewRecord .requestCount id 1
  else
    match fault with
    | some _ => s
    | none =>
      { s with
        userUsedQuota := Function.update s.userUsedQuota id (s.userUsedQuota id + quota)
        requestCount := Function.update s.requestCount id (s.requestCount id + 1) }

def updateChannelUsedQuota : Store :=
  if s.batchUpdateEnabled then s.addNewRecord .channelUsedQuota id quota
  else
    match fault with
    | some _ => s
    | none =>
      { s with
        channelUsedQuota :=
          Function.update s.channelUsedQuota id (s.channelUsedQuota id + quota) }

/-! ### Tokens -/

/-- The token cached in Redis if there is one, else its row. -/
def getTokenByKey (cache : Option Token) (fault : Option Err) (key : String) : Except Err Token :=
  match cache, fault with
  | some token, _ => .ok token
  | none, some e => .error e
  | none, none =>
    match s.tokenIdOfKey key with
    | none => .error "record not found"
    | some id => .ok (s.token id)

def addTokenQuota (id delta : ℤ) : Except Err Store :=
  match fault with
  | some e => .error e
  | none =>
    let token := s.token id
    .ok { s with
      token := Function.update s.token id
        { token with
          remainQuota := token.remainQuota + delta
          usedQuota := token.usedQuota - delta } }

def increaseTokenQuota : Except Err Store :=
  if quota < 0 then .error "quota 不能为负数！"
  else if s.batchUpdateEnabled then .ok (s.addNewRecord .tokenQuota id quota)
  else s.addTokenQuota fault id quota

def decreaseTokenQuota : Except Err Store :=
  if quota < 0 then .error "quota 不能为负数！"
  else if s.batchUpdateEnabled then .ok (s.addNewRecord .tokenQuota id (-quota))
  else s.addTokenQuota fault id (-quota)

/-! ### Logs -/

/-- Only when `LogConsumeEnabled` is set. -/
def recordLog (log : Log) : Store :=
  if log.type = .consume && !s.logConsumeEnabled then s
  else { s with logs := s.logs ++ [log] }

end Store

end TokensFlux
