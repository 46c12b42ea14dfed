import TokensFlux.Billing.Basic

/-!
# The billing session

One request pays from one funding source, the wallet or a subscription, and from its token.  Every
store operation takes the error it meets, if any, and every cached read the value Redis answers
with.
-/

namespace TokensFlux

def Store.orLogged (s : Store) (result : Except Err Store) : Store :=
  match result with
  | .ok s' => s'
  | .error _ => s

/-! ### Tokens -/

structure TokenFaults where
  cache : Option Token := none
  read : Option Err := none
  decrease : Option Err := none

def preConsumeTokenQuota (env : BillingEnv) (s : Store) (f : TokenFaults) (info : RelayInfo)
    (quota : ℤ) : Except Err Store :=
  if quota < 0 then .error "quota 不能为负数！"
  else if info.isPlayground then .ok s
  else
    match s.getTokenByKey f.cache f.read info.tokenKey with
    | .error e => .error e
    | .ok token =>
      -- The remainder is only compared here; the decrease below is not conditional on it.
      if !info.tokenUnlimited && decide (token.remainQuota < quota) then
        .error ("token quota is not enough, token remain quota: "
          ++ env.formatQuota token.remainQuota ++ ", need quota: " ++ env.formatQuota quota)
      else s.decreaseTokenQuota f.decrease info.tokenId quota

def adjustTokenQuota (s : Store) (fault : Option Err) (tokenId delta : ℤ) : Except Err Store :=
  if 0 < delta then s.decreaseTokenQuota fault tokenId delta
  else s.increaseTokenQuota fault tokenId (-delta)

def adjustUserQuota (s : Store) (fault : Option Err) (userId delta : ℤ) : Except Err Store :=
  if 0 < delta then s.decreaseUserQuota fault userId delta false
  else s.increaseUserQuota fault userId (-delta) false

/-! ### Funding sources -/

structure WalletFunding where
  userId : ℤ
  consumed : ℤ := 0
deriving DecidableEq, Repr

structure SubscriptionFunding where
  requestId : String
  userId : ℤ
  amount : ℤ
  subscriptionId : ℤ := 0
  preConsumed : ℤ := 0
  amountTotal : ℤ := 0
  amountUsedAfter : ℤ := 0
  planId : ℤ := 0
  planTitle : String := ""
deriving DecidableEq, Repr

inductive FundingSource
  | wallet (w : WalletFunding)
  | subscription (f : SubscriptionFunding)
deriving DecidableEq, Repr

/-- `now` is the database clock that is read. -/
structure AttemptFaults where
  token : TokenFaults := {}
  wallet : Option Err := none
  subscription : PreConsumeFaults := {}
  planInfo : Option Err := none
  rollback : Option Err := none
  now : ℤ := 0

structure FundingFaults where
  wallet : Option Err := none
  subscription : TxFaults := {}

namespace FundingSource

def source : FundingSource → BillingSource
  | .wallet _ => .wallet
  | .subscription _ => .subscription

/-- A subscription ignores the argument and charges the amount it was built with. -/
def preConsume (src : FundingSource) (env : BillingEnv) (s : Store) (f : AttemptFaults)
    (amount : ℤ) : Except Err (FundingSource × Store) :=
  match src with
  | .wallet w =>
    if amount ≤ 0 then .ok (.wallet w, s)
    else
      (s.decreaseUserQuota f.wallet w.userId amount false).map fun s =>
        (.wallet { w with consumed := amount }, s)
  | .subscription sub =>
    match s.preConsumeUserSubscription env.calendar f.subscription sub.requestId sub.userId
        sub.amount f.now with
    | .error e => .error e
    | .ok (res, s) =>
      let sub := { sub with
        subscriptionId := res.userSubscriptionId
        preConsumed := res.preConsumed
        amountTotal := res.amountTotal
        amountUsedAfter := res.amountUsedAfter }
      match s.getSubscriptionPlanInfo f.planInfo res.userSubscriptionId with
      | .ok (planId, planTitle) => .ok (.subscription { sub with planId, planTitle }, s)
      | .error _ => .ok (.subscription sub, s)

def settle (src : FundingSource) (s : Store) (f : FundingFaults) (delta : ℤ) : Except Err Store :=
  if delta = 0 then .ok s
  else
    match src with
    | .wallet w => adjustUserQuota s f.wallet w.userId delta
    | .subscription sub =>
      s.postConsumeUserSubscriptionDelta f.subscription sub.subscriptionId delta

/-- `retry i` is what the `i`-th attempt for a subscription meets. -/
def refund (src : FundingSource) (s : Store) (wallet : Option Err)
    (retry : ℕ → RefundFaults) : Store :=
  match src with
  | .wallet w =>
    if w.consumed ≤ 0 then s
    else s.orLogged (s.increaseUserQuota wallet w.userId w.consumed false)
  | .subscription sub =>
    if sub.preConsumed ≤ 0 then s
    else (refundWithRetry (fun i s => s.refundSubscriptionPreConsume (retry i) sub.requestId) s).1

end FundingSource

/-! ### The session -/

structure BillingSession where
  funding : FundingSource
  preConsumedQuota : ℤ := 0
  tokenConsumed : ℤ := 0
  extraReserved : ℤ := 0
  trusted : Bool := false
  fundingSettled : Bool := false
  settled : Bool := false
  refunded : Bool := false
deriving DecidableEq, Repr

namespace BillingSession

variable (b : BillingSession)

def syncRelayInfo (info : RelayInfo) : RelayInfo :=
  let info := { info with
    finalPreConsumedQuota := b.preConsumedQuota
    billingSource := b.funding.source }
  match b.funding with
  | .subscription sub =>
    { info with
      subscriptionId := sub.subscriptionId
      subscriptionPreConsumed := sub.preConsumed + b.extraReserved
      subscriptionPostDelta := 0
      subscriptionAmountTotal := sub.amountTotal
      subscriptionAmountUsedAfterPreConsume := sub.amountUsedAfter + b.extraReserved
      subscriptionPlanId := sub.planId
      subscriptionPlanTitle := sub.planTitle }
  | .wallet _ => { info with subscriptionId := 0, subscriptionPreConsumed := 0 }

def shouldTrust (env : BillingEnv) (info : RelayInfo) : Bool :=
  let trustQuota := env.getTrustQuota
  !info.forcePreConsume && decide (0 < trustQuota) &&
    (info.tokenUnlimited || decide (trustQuota < info.tokenQuota)) &&
    match b.funding with
    | .wallet _ => decide (trustQuota < info.userQuota)
    -- A subscription charges its own amount, so it can never be trusted with a charge of zero.
    | .subscription _ => false

def fundingError (errMsg : Err) : NewAPIError :=
  if containsText errMsg "no active subscription" ||
      containsText errMsg "subscription quota insufficient" then
    newForbidden ("订阅额度不足或未配置订阅: " ++ errMsg) .insufficientUserQuota
  else newError errMsg .updateDataError

/-- The token first, then the funding source; if that fails the token is rolled back. -/
def preConsume (env : BillingEnv) (info : RelayInfo) (s : Store)
    (f : AttemptFaults) (quota : ℤ) : Store × RelayInfo × Except NewAPIError BillingSession :=
  let trusted := b.shouldTrust env info
  let effectiveQuota := if trusted then 0 else quota
  match if 0 < effectiveQuota then preConsumeTokenQuota env s f.token info effectiveQuota
      else .ok s with
  | .error e => (s, info, .error (newForbidden e .preConsumeTokenQuotaFailed))
  | .ok s =>
    let tokenConsumed := if 0 < effectiveQuota then effectiveQuota else b.tokenConsumed
    match b.funding.preConsume env s f effectiveQuota with
    | .error e =>
      -- An error of the rollback is only logged, and the token then stays charged.
      let s :=
        if 0 < tokenConsumed ∧ ¬info.isPlayground then
          s.orLogged (s.increaseTokenQuota f.rollback info.tokenId tokenConsumed)
        else s
      (s, info, .error (fundingError e))
    | .ok (funding, s) =>
      let b := { b with funding, tokenConsumed, trusted, preConsumedQuota := effectiveQuota }
      (s, b.syncRelayInfo info, .ok b)

def needsRefund : Bool :=
  if b.settled || b.refunded || b.fundingSettled then false
  -- A wallet session refunds only through this branch, a subscription also without a token.
  else if 0 < b.tokenConsumed then true
  else
    match b.funding with
    | .subscription sub => decide (0 < sub.preConsumed)
    | .wallet _ => false

end BillingSession

/-! ### Opening a session -/

/-- One attempt per funding source, the reads before the wallet attempt and the two queries of
`subscription_first`, with their clocks. -/
structure OpenFaults where
  userQuotaCache : Option ℤ := none
  userQuota : Option Err := none
  wallet : AttemptFaults := {}
  subscription : AttemptFaults := {}
  hasActive : Option Err := none
  hasActiveNow : ℤ := 0
  overflow : Option Err := none
  overflowNow : ℤ := 0

section Open

variable (env : BillingEnv) (info : RelayInfo) (s : Store) (f : OpenFaults)
  (preConsumedQuota : ℤ)

def tryWallet : Store × RelayInfo × Except NewAPIError BillingSession :=
  match s.getUserQuota f.userQuotaCache f.userQuota info.userId with
  | .error e => (s, info, .error (newError e .queryDataError))
  | .ok userQuota =>
    if userQuota ≤ 0 then
      (s, info, .error (newForbidden ("用户额度不足, 剩余额度: " ++ env.formatQuota userQuota)
        .insufficientUserQuota))
    else if userQuota - preConsumedQuota < 0 then
      (s, info, .error (newForbidden ("预扣费额度失败, 用户剩余额度: " ++ env.formatQuota userQuota
        ++ ", 需要预扣费额度: " ++ env.formatQuota preConsumedQuota) .insufficientUserQuota))
    else
      let info := { info with userQuota }
      BillingSession.preConsume { funding := .wallet { userId := info.userId } } env info s f.wallet
        preConsumedQuota

def trySubscription : Store × RelayInfo × Except NewAPIError BillingSession :=
  -- A free request still needs a record, so it takes one unit.
  let subConsume := if preConsumedQuota ≤ 0 then 1 else preConsumedQuota
  let funding : SubscriptionFunding :=
    { requestId := info.requestId, userId := info.userId, amount := subConsume }
  BillingSession.preConsume { funding := .subscription funding } env info s
    f.subscription subConsume

def newBillingSession : Store × RelayInfo × Except NewAPIError BillingSession :=
  match normalizeBillingPreference info.billingPreference with
  | .subscriptionOnly => trySubscription env info s f preConsumedQuota
  | .walletOnly => tryWallet env info s f preConsumedQuota
  | .walletFirst =>
    match tryWallet env info s f preConsumedQuota with
    | (s, info, .error err) =>
      if err.errorCode = .insufficientUserQuota then trySubscription env info s f preConsumedQuota
      else (s, info, .error err)
    | opened => opened
  | .subscriptionFirst =>
    match s.hasActiveUserSubscription f.hasActive info.userId f.hasActiveNow with
    | .error e => (s, info, .error (newError e .queryDataError))
    | .ok false => tryWallet env info s f preConsumedQuota
    | .ok true =>
      match trySubscription env info s f preConsumedQuota with
      | (s, info, .error apiErr) =>
        if apiErr.errorCode = .insufficientUserQuota then
          match s.userActiveSubscriptionsAllowWalletOverflow f.overflow info.userId
              f.overflowNow with
          | .error e => (s, info, .error (newError e .queryDataError))
          -- The wallet may stand in only when every active subscription lets it.
          | .ok true => tryWallet env info s f preConsumedQuota
          | .ok false => (s, info, .error apiErr)
        else (s, info, .error apiErr)
      | opened => opened

end Open

/-! ### Using a session -/

structure Billing where
  session : BillingSession
  info : RelayInfo
  store : Store

structure SettleFaults where
  funding : FundingFaults := {}
  token : Option Err := none

structure ReserveFaults where
  funding : FundingFaults := {}
  token : TokenFaults := {}
  rollback : FundingFaults := {}

/-- Copies of the session's values for the goroutine. -/
structure RefundJob where
  funding : FundingSource
  extraReserved : ℤ
  subscriptionId : ℤ
  tokenConsumed : ℤ
  tokenId : ℤ
  isPlayground : Bool
deriving DecidableEq, Repr

structure JobFaults where
  wallet : Option Err := none
  retry : ℕ → RefundFaults := fun _ => {}
  extra : TxFaults := {}
  token : Option Err := none

/-- The funding source, and what `Reserve` had taken from a subscription in addition. -/
def RefundJob.refundFunding (job : RefundJob) (s : Store) (f : JobFaults) : Store :=
  let s := job.funding.refund s f.wallet f.retry
  if 0 < job.extraReserved ∧ job.funding.source = .subscription ∧ 0 < job.subscriptionId then
    s.orLogged (s.postConsumeUserSubscriptionDelta f.extra job.subscriptionId (-job.extraReserved))
  else s

def RefundJob.run (job : RefundJob) (s : Store) (f : JobFaults) : Store :=
  let s := job.refundFunding s f
  if 0 < job.tokenConsumed ∧ ¬job.isPlayground then
    s.orLogged (s.increaseTokenQuota f.token job.tokenId job.tokenConsumed)
  else s

namespace Billing

variable (b : Billing)

def settle (f : SettleFaults) (actualQuota : ℤ) : Billing × Option Err :=
  if b.session.settled then (b, none)
  else
    let delta := actualQuota - b.session.preConsumedQuota
    if delta = 0 then ({ b with session := { b.session with settled := true } }, none)
    else
      match if b.session.fundingSettled then .ok b.store
          else b.session.funding.settle b.store f.funding delta with
      -- The funding source refused: nothing is marked, and a later `Settle` or `Refund` may act.
      | .error e => (b, some e)
      | .ok s =>
        let adjusted := if b.info.isPlayground then .ok s
          else adjustTokenQuota s f.token b.info.tokenId delta
        let info := if b.session.funding.source = .subscription then
            { b.info with subscriptionPostDelta := b.info.subscriptionPostDelta + delta }
          else b.info
        let session := { b.session with fundingSettled := true, settled := true }
        match adjusted with
        | .ok s => (⟨session, info, s⟩, none)
        -- The funding source has committed, so the session counts as settled all the same.
        | .error tokenErr => (⟨session, info, s⟩, some tokenErr)

/-- The session afterwards and the goroutine it starts. -/
def refund : Billing × Option RefundJob :=
  if b.session.settled || b.session.refunded || !b.session.needsRefund then (b, none)
  else
    ({ b with session := { b.session with refunded := true } },
      some ⟨b.session.funding, b.session.extraReserved, b.info.subscriptionId,
        b.session.tokenConsumed, b.info.tokenId, b.info.isPlayground⟩)

def reserveFunding (f : FundingFaults) (delta : ℤ) : Except NewAPIError (FundingSource × Store) :=
  match b.session.funding with
  | .wallet w =>
    match b.store.decreaseUserQuota f.wallet w.userId delta false with
    | .error e => .error (newError e .updateDataError)
    | .ok s => .ok (.wallet { w with consumed := w.consumed + delta }, s)
  | .subscription sub =>
    match b.store.postConsumeUserSubscriptionDelta f.subscription sub.subscriptionId delta with
    | .error e => .error (newForbidden ("订阅额度不足或未配置订阅: " ++ e) .insufficientUserQuota)
    | .ok s => .ok (.subscription sub, s)

def rollbackFundingReserve (funding : FundingSource) (s : Store) (f : FundingFaults) (delta : ℤ) :
    FundingSource × Store :=
  match funding with
  | .wallet w =>
    match s.increaseUserQuota f.wallet w.userId delta false with
    | .ok s => (.wallet { w with consumed := w.consumed - delta }, s)
    | .error _ => (.wallet w, s)
  | .subscription sub =>
    (.subscription sub, s.orLogged (s.postConsumeUserSubscriptionDelta f.subscription
      sub.subscriptionId (-delta)))

def reserveToken (env : BillingEnv) (info : RelayInfo) (s : Store) (f : TokenFaults) (delta : ℤ) :
    Except NewAPIError Store :=
  if delta ≤ 0 ∨ info.isPlayground then .ok s
  else (preConsumeTokenQuota env s f info delta).mapError
    (newForbidden · .preConsumeTokenQuotaFailed)

def reserve (env : BillingEnv) (f : ReserveFaults) (targetQuota : ℤ) :
    Billing × Option NewAPIError :=
  if b.session.settled || b.session.refunded || b.session.trusted ||
      decide (targetQuota ≤ b.session.preConsumedQuota) then (b, none)
  else
    let delta := targetQuota - b.session.preConsumedQuota
    match b.reserveFunding f.funding delta with
    | .error e => (b, some e)
    | .ok (funding, s) =>
      match reserveToken env b.info s f.token delta with
      | .error e =>
        let (funding, s) := rollbackFundingReserve funding s f.rollback delta
        ({ b with session := { b.session with funding }, store := s }, some e)
      | .ok s =>
        let session := { b.session with
          funding
          preConsumedQuota := b.session.preConsumedQuota + delta
          tokenConsumed := b.session.tokenConsumed + delta
          extraReserved := b.session.extraReserved + delta }
        (⟨session, session.syncRelayInfo b.info, s⟩, none)

end Billing

/-! ### Settling without a session -/

def postConsumeQuota (info : RelayInfo) (s : Store) (f : SettleFaults) (quota : ℤ) :
    Store × RelayInfo × Option Err :=
  let consumed :=
    if info.billingSource = .subscription then
      if info.subscriptionId = 0 then .error "subscription id is missing"
      else if quota = 0 then .ok (info, s)
      else
        (s.postConsumeUserSubscriptionDelta f.funding.subscription info.subscriptionId quota).map
          fun s => ({ info with subscriptionPostDelta := info.subscriptionPostDelta + quota }, s)
    else (adjustUserQuota s f.funding.wallet info.userId quota).map fun s => (info, s)
  match consumed with
  | .error e => (s, info, some e)
  | .ok (info, s) =>
    if info.isPlayground then (s, info, none)
    else
      match adjustTokenQuota s f.token info.tokenId quota with
      | .error e => (s, info, some e)
      | .ok s => (s, info, none)

/-- Through the session if there is one, else by `PostConsumeQuota`. -/
def settleBilling (billing : Option BillingSession) (info : RelayInfo) (s : Store)
    (f : SettleFaults)
    (actualQuota : ℤ) : (Option BillingSession × RelayInfo × Store) × Option Err :=
  match billing with
  | some session =>
    let (b, err) := Billing.settle ⟨session, info, s⟩ f actualQuota
    ((some b.session, b.info, b.store), err)
  | none =>
    let quotaDelta := actualQuota - info.finalPreConsumedQuota
    if quotaDelta ≠ 0 then
      let (s, info, err) := postConsumeQuota info s f quotaDelta
      ((none, info, s), err)
    else ((none, info, s), none)

/-! ### Opening sessions concurrently

On the wallet, `NewBillingSession` reads the balance and the token and decreases both, each in a
statement of its own; the decreases are not conditional on what was read. -/

/-- Where a call for `quota` is, with what its checks have found. -/
inductive WalletCall (info : RelayInfo) (quota : ℤ)
  | new
  | userRead (userQuota : ℤ) (enough : quota ≤ userQuota) (positive : 0 < quota)
  | tokenRead (userQuota remainQuota : ℤ) (enough : quota ≤ userQuota)
      (remains : info.tokenUnlimited = false → quota ≤ remainQuota) (positive : 0 < quota)
  | tokenTaken (userQuota : ℤ) (enough : quota ≤ userQuota) (positive : 0 < quota)
  | walletFailed (e : Err) (positive : 0 < quota)
  | opened (session : BillingSession)
  | refused (err : NewAPIError)

namespace WalletCall

variable {info : RelayInfo} {quota : ℤ}

def preConsume (env : BillingEnv) (userQuota : ℤ) (enough : quota ≤ userQuota) :
    WalletCall info quota :=
  let session : BillingSession := { funding := .wallet { userId := info.userId } }
  if session.shouldTrust env { info with userQuota } then .opened { session with trusted := true }
  else if positive : 0 < quota then
    -- The playground has no token to charge.
    if info.isPlayground then .tokenTaken userQuota enough positive
    else .userRead userQuota enough positive
  else .opened { session with preConsumedQuota := quota }

def advance (env : BillingEnv) (s : Store) (fault : Option Err) :
    WalletCall info quota → Store × WalletCall info quota
  | .new =>
    match s.getUserQuota none fault info.userId with
    | .error e => (s, .refused (newError e .queryDataError))
    | .ok userQuota =>
      if userQuota ≤ 0 then
        (s, .refused (newForbidden ("用户额度不足, 剩余额度: " ++ env.formatQuota userQuota)
          .insufficientUserQuota))
      else if enough : userQuota - quota < 0 then
        (s, .refused (newForbidden ("预扣费额度失败, 用户剩余额度: " ++ env.formatQuota userQuota
          ++ ", 需要预扣费额度: " ++ env.formatQuota quota) .insufficientUserQuota))
      else (s, preConsume env userQuota (Int.sub_nonneg.mp (Int.not_lt.mp enough)))
  | .userRead userQuota enough positive =>
    match s.getTokenByKey none fault info.tokenKey with
    | .error e => (s, .refused (newForbidden e .preConsumeTokenQuotaFailed))
    | .ok token =>
      if short : info.tokenUnlimited = false ∧ token.remainQuota < quota then
        (s, .refused (newForbidden ("token quota is not enough, token remain quota: "
          ++ env.formatQuota token.remainQuota ++ ", need quota: " ++ env.formatQuota quota)
          .preConsumeTokenQuotaFailed))
      else (s, .tokenRead userQuota token.remainQuota enough
        (fun limited => Int.not_lt.mp fun less => short ⟨limited, less⟩) positive)
  | .tokenRead userQuota _ enough _ positive =>
    match s.decreaseTokenQuota fault info.tokenId quota with
    | .error e => (s, .refused (newForbidden e .preConsumeTokenQuotaFailed))
    | .ok s => (s, .tokenTaken userQuota enough positive)
  | .tokenTaken _ _ positive =>
    match s.decreaseUserQuota fault info.userId quota false with
    | .error e => (s, .walletFailed e positive)
    | .ok s =>
      (s, .opened
        { funding := .wallet { userId := info.userId, consumed := quota }
          tokenConsumed := quota
          preConsumedQuota := quota })
  | .walletFailed e _ =>
    (if info.isPlayground then s
      else s.orLogged (s.increaseTokenQuota fault info.tokenId quota),
      .refused (BillingSession.fundingError e))
  | .opened session => (s, .opened session)
  | .refused err => (s, .refused err)

end WalletCall

structure WalletRace (P : Type) (info : P → RelayInfo) (quota : P → ℤ) where
  store : Store
  calls : (p : P) → WalletCall (info p) (quota p)

namespace WalletRace

variable {P : Type} [DecidableEq P] {info : P → RelayInfo} {quota : P → ℤ}

def start (info : P → RelayInfo) (quota : P → ℤ) (store : Store) : WalletRace P info quota where
  store := store
  calls _ := .new

def step (env : BillingEnv) (s : WalletRace P info quota) (e : P × Option Err) :
    WalletRace P info quota :=
  let (store, call) := (s.calls e.1).advance env s.store e.2
  { store, calls := Function.update s.calls e.1 call }

end WalletRace

end TokensFlux
