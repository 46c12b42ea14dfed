import TokensFlux.Billing.Equiv.Posting

/-!
# Opening a billing session is all or nothing

A refused request leaves the tables as it found them; an opened session has charged its funding
source and its token alike.
-/

namespace TokensFlux

open Store BillingSession FundingSource Except

/-- A refusal changes at most the balance the request has read; an opened session satisfies `P`. -/
def OpenPost (info : RelayInfo) (s : Store) (P : Store → RelayInfo → BillingSession → Prop) :
    Store × RelayInfo × Except NewAPIError BillingSession → Prop
  | (s', info', .error _) => s' = s ∧ ∃ userQuota, info' = { info with userQuota }
  | (s', info', .ok b) => P s' info' b

variable {b : BillingSession} {funding : FundingSource} {f : OpenFaults}
  {info' : RelayInfo} {s' : Store}
  {r : Store × RelayInfo × Except NewAPIError BillingSession}
  {P : Store → RelayInfo → BillingSession → Prop}
  {n userQuota : ℤ}

theorem OpenPost.mono {info : RelayInfo} {s : Store} {Q : Store → RelayInfo → BillingSession → Prop}
    (h : OpenPost info s P r) (hPQ : ∀ s' info' b, P s' info' b → Q s' info' b) :
    OpenPost info s Q r := by
  obtain ⟨s', info', e | b⟩ := r
  · exact h
  · exact hPQ s' info' b h

theorem openPost_error {info : RelayInfo} {s : Store} {e : NewAPIError} :
    OpenPost info s P (s', info', .error e) ↔
      s' = s ∧ ∃ userQuota, info' = { info with userQuota } :=
  Iff.rfl

theorem openPost_ok {info : RelayInfo} {s : Store} :
    OpenPost info s P (s', info', .ok b) ↔ P s' info' b :=
  Iff.rfl

/-- Nothing is charged for a negative `n`. -/
structure OpenSession (info info' : RelayInfo) (b : BillingSession) (n : ℤ) : Prop where
  preConsumedQuota : b.preConsumedQuota = n
  tokenConsumed : b.tokenConsumed = max n 0
  extraReserved : b.extraReserved = 0
  fundingSettled : b.fundingSettled = false
  settled : b.settled = false
  refunded : b.refunded = false
  info : ∃ userQuota, info' = b.syncRelayInfo { info with userQuota }

theorem OpenSession.frame {info info' : RelayInfo} {b : BillingSession} {n : ℤ}
    (h : OpenSession info info' b n) :
    info'.userId = info.userId ∧ info'.tokenId = info.tokenId ∧
      info'.isPlayground = info.isPlayground ∧ info'.usePrice = info.usePrice ∧
      info'.billingSource = b.funding.source ∧ info'.finalPreConsumedQuota = n := by
  obtain ⟨_, hinfo⟩ := h.info
  rw [hinfo, syncRelayInfo, ← h.preConsumedQuota]
  cases b.funding <;> exact ⟨rfl, rfl, rfl, rfl, rfl, rfl⟩

@[simp] theorem shouldTrust_syncRelayInfo (b b' : BillingSession) (env : BillingEnv)
    (info : RelayInfo) :
    b.shouldTrust env (b'.syncRelayInfo info) = b.shouldTrust env info := by
  unfold syncRelayInfo
  cases b'.funding <;> rfl

/-- A trusted request pays nothing yet. -/
def OpenedByWallet (env : BillingEnv) (info : RelayInfo) (q : ℤ) (s s' : Store) (info' : RelayInfo)
    (b : BillingSession) : Prop :=
  let n := if b.trusted then 0 else q
  OpenSession info info' b n ∧ b.funding = .wallet ⟨info.userId, max n 0⟩ ∧ SameTables s s' ∧
    s'.ledger = s.ledger + charge (.wallet info.userId) info (max n 0) ∧
    b.trusted = b.shouldTrust env info'

/-- `t` are the tables after the resets that were due. -/
def OpenedBySubscription (cal : Calendar) (now : ℤ) (info : RelayInfo) (q : ℤ) (s s' : Store)
    (info' : RelayInfo) (b : BillingSession) : Prop :=
  ∃ t id sub funding, OpenSession info info' b (max q 1) ∧ b.trusted = false ∧
    b.funding = .subscription funding ∧ funding.requestId = info.requestId ∧
    funding.subscriptionId = id ∧ funding.preConsumed = max q 1 ∧ trimSpace info.requestId ≠ "" ∧
    DueResets cal now s t ∧ t.subs.lookup id = some sub ∧
    (sub.amountTotal ≤ 0 ∨ sub.amountUsed + max q 1 ≤ sub.amountTotal) ∧
    s'.subs = t.subs.insert id { sub with amountUsed := (sub.amountUsed + max q 1).toNat } ∧
    s'.records = s.records.insert info.requestId ⟨info.userId, id, max q 1, .consumed⟩ ∧
    s'.ledger = t.ledger + charge (.subscription id) info (max q 1)

def checkOpened (p : Store → RelayInfo → BillingSession → Bool) :
    Store × RelayInfo × Except NewAPIError BillingSession → Bool
  | (_, _, .error _) => false
  | (s', info', .ok b) => p s' info' b

theorem exists_of_checkOpened {p : Store → RelayInfo → BillingSession → Bool}
    (h : checkOpened p r = true) :
    ∃ s' info' b, r = (s', info', .ok b) ∧ p s' info' b = true := by
  obtain ⟨s', info', e | b⟩ := r
  · cases h
  · exact ⟨s', info', b, rfl, h⟩

/-! ### Pre-consuming -/

theorem ledger_withSubs {s : Store} {posting : Account → ℤ} (h : SameTables s s')
    (hledger : s'.ledger = s.ledger + posting) (subs : AList fun _ : ℤ => UserSubscription) :
    ({ s' with subs } : Store).ledger = ({ s with subs } : Store).ledger + posting := by
  funext a
  have ha := congrFun hledger a
  cases a with
  | subscription =>
    simp only [ledger, amountUsed, Pi.add_apply, h.subs] at ha ⊢
    omega
  | _ => exact ha

theorem DueResets.of_sameTables {cal : Calendar} {now : ℤ} {s t : Store} (h : SameTables s s')
    (ht : DueResets cal now s' t) : DueResets cal now s { s with subs := t.subs } := by
  refine ⟨⟨t.subs, rfl⟩, fun id => ?_⟩
  have hrow := ht.row id
  rwa [h.subs, h.plans] at hrow

variable {env : BillingEnv} {info : RelayInfo} {s : Store} {q : ℤ}

/-- Either the tables are as before, or the token and then the funding source were charged. -/
theorem BillingSession.preConsume_spec {f : AttemptFaults} (hroll : f.rollback = none)
    (hok : ∀ (n : ℤ) (s₁ s₂ : Store) (funding' : FundingSource) (b : BillingSession),
      b = { funding := funding', preConsumedQuota := n, tokenConsumed := max n 0,
            trusted := b.trusted } →
      b.trusted = shouldTrust { funding } env info → n = (if b.trusted then 0 else q) →
      s₁.ledger = s.ledger + tokenPosting info (max n 0) → SameTables s s₁ →
      funding.preConsume env s₁ f n = .ok (funding', s₂) → P s₂ (b.syncRelayInfo info) b) :
    OpenPost info s P (preConsume { funding } env info s f q) := by
  unfold preConsume
  dsimp only
  generalize htrust : shouldTrust { funding } env info = trusted
  generalize hn : (if trusted = true then (0 : ℤ) else q) = n
  have hcharged : ∀ s₁,
      (if 0 < n then preConsumeTokenQuota env s f.token info n else .ok s) = .ok s₁ →
      s₁.ledger = s.ledger + tokenPosting info (max n 0) ∧ SameTables s s₁ ∧
        (0 < n → if info.isPlayground then s₁ = s
          else s₁.increaseTokenQuota none info.tokenId n = .ok s) := by
    intro s₁ h
    split_ifs at h with hpos
    · obtain ⟨h1, h2, h3⟩ := preConsumeTokenQuota_spec h
      rw [max_eq_left hpos.le]
      exact ⟨h1, h2, fun _ => h3⟩
    · cases h
      rw [max_eq_right (not_lt.mp hpos), map_zero, add_zero]
      exact ⟨rfl, SameTables.refl s, fun h => absurd h hpos⟩
  have htoken : (if 0 < n then n else 0) = max n 0 := by
    split_ifs <;> omega
  split
  · exact ⟨rfl, info.userQuota, rfl⟩
  rename_i s₁ hs₁
  obtain ⟨hledger, htables, hback⟩ := hcharged s₁ hs₁
  rw [htoken]
  split
  · -- The funding source refused: the token is given back.
    refine ⟨?_, info.userQuota, rfl⟩
    by_cases hpos : 0 < n
    · have hback := hback hpos
      rw [max_eq_left hpos.le]
      cases hp : info.isPlayground with
      | true => simpa [hp] using hback
      | false =>
        rw [hp, if_neg (by simp)] at hback
        rw [if_pos ⟨hpos, by simp⟩, hroll, hback, orLogged]
    · rw [if_neg (by omega)]
      rw [if_neg hpos] at hs₁
      exact (ok.inj hs₁).symm
  · rename_i funding' s₂ hfunding
    exact hok n s₁ s₂ funding' _ rfl htrust.symm hn.symm hledger htables hfunding

/-! ### The two attempts -/

theorem FundingSource.preConsume_wallet {s : Store} {f : AttemptFaults} {userId : ℤ}
    (h : (wallet ⟨userId, 0⟩).preConsume env s f n = .ok (funding, s')) :
    funding = .wallet ⟨userId, max n 0⟩ ∧
      s'.ledger = s.ledger + accountPosting (.wallet userId) (max n 0) ∧ SameTables s s' := by
  unfold preConsume at h
  dsimp only at h
  split_ifs at h with hpos
  · obtain ⟨rfl, rfl⟩ := Prod.mk.inj (ok.inj h)
    rw [max_eq_right hpos, map_zero, add_zero]
    exact ⟨rfl, rfl, SameTables.refl s⟩
  rw [max_eq_left (not_le.mp hpos).le]
  rcases hdec : s.decreaseUserQuota f.wallet userId n false with _ | _
  · rw [hdec] at h; cases h
  rw [hdec] at h
  obtain ⟨rfl, rfl⟩ := Prod.mk.inj (ok.inj h)
  rw [accountPosting_apply]
  exact ⟨rfl, decreaseUserQuota_spec hdec⟩

theorem FundingSource.preConsume_subscription {s : Store} {f : AttemptFaults}
    {sub : SubscriptionFunding} (h : (subscription sub).preConsume env s f n = .ok (funding, s')) :
    ∃ funding' res, funding = .subscription funding' ∧ funding'.requestId = sub.requestId ∧
      funding'.subscriptionId = res.userSubscriptionId ∧ funding'.preConsumed = res.preConsumed ∧
      s.preConsumeUserSubscription env.calendar f.subscription sub.requestId sub.userId sub.amount
        f.now = .ok (res, s') := by
  unfold preConsume at h
  dsimp only at h
  split at h
  · cases h
  rename_i res s₁ hpre
  split at h
  all_goals
    cases h
    exact ⟨_, res, rfl, rfl, rfl, rfl, hpre⟩

/-- **Opening by the wallet**, or leaving everything as it was. -/
theorem tryWallet_spec (hroll : f.wallet.rollback = none) :
    OpenPost info s (OpenedByWallet env info q s) (tryWallet env info s f q) := by
  unfold tryWallet
  split
  · exact ⟨rfl, info.userQuota, rfl⟩
  rename_i userQuota _
  split_ifs
  · exact ⟨rfl, info.userQuota, rfl⟩
  · exact ⟨rfl, info.userQuota, rfl⟩
  refine preConsume_spec hroll fun n s₁ s₂ funding b hb htrust hn hledger htables hfunding => ?_
  obtain ⟨rfl, hledger', htables'⟩ := preConsume_wallet hfunding
  unfold OpenedByWallet
  rw [← hn]
  refine ⟨?_, by rw [hb], htables.trans htables', ?_, ?_⟩
  · refine ⟨?_, ?_, ?_, ?_, ?_, ?_, userQuota, rfl⟩ <;> rw [hb]
  · rw [hledger', hledger, charge_apply, add_assoc, add_comm (accountPosting _ _)]
    rfl
  · rw [shouldTrust_syncRelayInfo, htrust, shouldTrust, shouldTrust, hb]

/-- **Opening by a subscription**, or leaving everything as it was. -/
theorem trySubscription_spec (hfresh : s.records.lookup info.requestId = none)
    (hroll : f.subscription.rollback = none) :
    OpenPost info s (OpenedBySubscription env.calendar f.subscription.now info q s)
      (trySubscription env info s f q) := by
  have hmax : (if q ≤ 0 then 1 else q) = max q 1 := by
    split_ifs <;> omega
  unfold trySubscription
  rw [hmax]
  refine preConsume_spec hroll fun n s₁ s₂ funding b hb htrust hn hledger htables hfunding => ?_
  -- A subscription is never trusted.
  have htrust : b.trusted = false := by
    rw [htrust, shouldTrust]
    exact Bool.and_false _
  rw [htrust, if_neg (by simp)] at hn
  subst hn
  rw [max_eq_left (by omega)] at hledger
  obtain ⟨funding', _, rfl, hreq, hsid, hpre, hconsume⟩ :=
    preConsume_subscription hfunding
  have hfresh₁ : s₁.records.lookup info.requestId = none := by rw [htables.records, hfresh]
  obtain ⟨-, hblank, t, id, sub, hdue, hsub, htotal, hres, rfl⟩ :=
    preConsumeUserSubscription_spec hfresh₁ hconsume
  rw [hres] at hsid hpre
  obtain ⟨subs, rfl⟩ := hdue.frame
  refine ⟨{ s with subs }, id, sub, funding', ?_, htrust, by rw [hb], hreq, hsid, hpre, hblank,
    DueResets.of_sameTables htables hdue, hsub, htotal, rfl, ?_, ?_⟩
  · refine ⟨?_, ?_, ?_, ?_, ?_, ?_, info.userQuota, rfl⟩ <;> rw [hb]
  · rw [htables.records]
  have hrow := ledger_insertSub (s := { s₁ with subs })
    { sub with amountUsed := (sub.amountUsed + max q 1).toNat } hsub
  have hdiff : (sub.amountUsed : ℤ) - (sub.amountUsed + max q 1).toNat = -max q 1 := by omega
  rw [hdiff] at hrow
  calc _ = ({ s₁ with subs := subs.insert id _ } : Store).ledger := ledger_withRecords _ _
    _ = ({ s with subs } : Store).ledger + tokenPosting info (max q 1)
          + accountPosting (.subscription id) (max q 1) := by
        rw [hrow, ledger_withSubs htables hledger, accountPosting_apply]
    _ = _ := by rw [charge_apply, add_assoc, add_comm (tokenPosting info _)]

/-! ### The choice of the funding source -/

def Opened (env : BillingEnv) (info : RelayInfo) (f : OpenFaults) (q : ℤ) (s s' : Store)
    (info' : RelayInfo) (b : BillingSession) : Prop :=
  OpenedByWallet env info q s s' info' b ∨
    OpenedBySubscription env.calendar f.subscription.now info q s s' info' b

theorem OpenSession.of_userQuota {info : RelayInfo}
    (h : OpenSession { info with userQuota } info' b n) :
    OpenSession info info' b n :=
  { h with info := h.info }

theorem Opened.of_userQuota (h : Opened env { info with userQuota } f q s s' info' b) :
    Opened env info f q s s' info' b := by
  rcases h with ⟨h, hrest⟩ | ⟨t, id, sub, funding, h, hrest⟩
  · exact .inl ⟨h.of_userQuota, hrest⟩
  · exact .inr ⟨t, id, sub, funding, h.of_userQuota, hrest⟩

theorem OpenPost.fallback {info₁ : RelayInfo} (hinfo : info₁ = { info with userQuota })
    (h : OpenPost info₁ s (Opened env info₁ f q s) r) :
    OpenPost info s (Opened env info f q s) r := by
  subst hinfo
  exact h.mono fun _ _ _ h => h.of_userQuota

/-- **`NewBillingSession`** changes nothing, or has charged one funding source and the token alike.
-/
theorem newBillingSession_spec (hfresh : s.records.lookup info.requestId = none)
    (hwallet : f.wallet.rollback = none) (hsub : f.subscription.rollback = none) :
    OpenPost info s (Opened env info f q s) (newBillingSession env info s f q) := by
  have htryWallet : ∀ info, OpenPost info s (Opened env info f q s) (tryWallet env info s f q) :=
    fun info => (tryWallet_spec hwallet).mono fun _ _ _ => Or.inl
  have htrySub : ∀ info, s.records.lookup info.requestId = none →
      OpenPost info s (Opened env info f q s) (trySubscription env info s f q) :=
    fun info hfresh => (trySubscription_spec hfresh hsub).mono fun _ _ _ => Or.inr
  unfold newBillingSession
  split
  · exact htrySub info hfresh
  · exact htryWallet info
  · -- `wallet_first`: an insufficient wallet falls back to the subscriptions.
    have hfirst := htryWallet info
    split
    · rename_i s₁ info₁ err hres
      rw [hres] at hfirst
      obtain ⟨rfl, userQuota, rfl⟩ := hfirst
      split_ifs
      · exact OpenPost.fallback rfl (htrySub _ hfresh)
      · exact ⟨rfl, userQuota, rfl⟩
    · exact hfirst
  -- `subscription_first`: an exhausted subscription falls back to the wallet if it may.
  split
  · exact ⟨rfl, info.userQuota, rfl⟩
  · exact htryWallet info
  have hfirst := htrySub info hfresh
  split
  · rename_i s₁ info₁ err hres
    rw [hres] at hfirst
    obtain ⟨rfl, userQuota, rfl⟩ := hfirst
    split_ifs
    · split
      · exact ⟨rfl, userQuota, rfl⟩
      · exact OpenPost.fallback rfl (htryWallet _)
      · exact ⟨rfl, userQuota, rfl⟩
    · exact ⟨rfl, userQuota, rfl⟩
  · exact hfirst

-- Unfolding `OpenPost` would evaluate `newBillingSession` on symbolic arguments.
attribute [irreducible] OpenPost

theorem newBillingSession_opened (hfresh : s.records.lookup info.requestId = none)
    (hwallet : f.wallet.rollback = none) (hsub : f.subscription.rollback = none)
    (hopen : newBillingSession env info s f q = (s', info', .ok b)) :
    Opened env info f q s s' info' b := by
  have hspec : OpenPost info s (Opened env info f q s) (newBillingSession env info s f q) :=
    newBillingSession_spec hfresh hwallet hsub
  rw [hopen] at hspec
  exact openPost_ok.mp hspec

/-- One funding source was charged with `n`, the token with the same `n`, and the request remembers
it. The wallet of a trusted request pays nothing yet; a subscription pays at least 1. -/
def ChargedOnce (env : BillingEnv) (now : ℤ) (info : RelayInfo) (q : ℤ) (s s' : Store)
    (info' : RelayInfo) (b : BillingSession) : Prop :=
  b.trusted = b.shouldTrust env info' ∧
  ((b.funding.source = .wallet ∧ info'.finalPreConsumedQuota = (if b.trusted then 0 else q) ∧
      s'.subs = s.subs ∧
      s'.ledger = s.ledger + charge (.wallet info.userId) info info'.finalPreConsumedQuota) ∨
    (b.funding.source = .subscription ∧ info'.finalPreConsumedQuota = max q 1 ∧
      ∃ t, DueResets env.calendar now s t ∧ info'.subscriptionId ∈ t.subs ∧ s'.ledger = t.ledger
          + charge (.subscription info'.subscriptionId) info info'.finalPreConsumedQuota))

/-- **`NewBillingSession` is all or nothing**, whatever store operation fails as long as rolling the
token back does not. The request id is new, as `middleware.RequestId` draws one for every
request. -/
theorem newBillingSession_allOrNothing {f : OpenFaults} (hq : 0 ≤ q)
    (hfresh : s.records.lookup info.requestId = none) (hwallet : f.wallet.rollback = none)
    (hsub : f.subscription.rollback = none) :
    OpenPost info s (ChargedOnce env f.subscription.now info q s)
      (newBillingSession env info s f q) := by
  refine (newBillingSession_spec hfresh hwallet hsub).mono fun s' info' b h => ?_
  rcases h with ⟨hopen, hfunding, htables, hledger, htrust⟩ |
    ⟨t, id, sub, funding, hopen, htrust, hfunding, -, hsid, -, -, hdue, hrow, -, -, -, hledger⟩
  · obtain ⟨-, -, -, -, -, hn⟩ := hopen.frame
    have hn0 : 0 ≤ if b.trusted then 0 else q := by
      split_ifs <;> omega
    rw [max_eq_left hn0] at hledger
    exact ⟨htrust, .inl ⟨by rw [hfunding]; rfl, hn, htables.subs, by rw [hn, hledger]⟩⟩
  obtain ⟨_, hinfo⟩ := hopen.info
  obtain ⟨-, -, -, -, -, hn⟩ := hopen.frame
  have hid : info'.subscriptionId = id := by
    rw [hinfo, syncRelayInfo, hfunding]
    exact hsid
  have htrust' : b.shouldTrust env info' = false := by
    rw [shouldTrust, hfunding]
    exact Bool.and_false _
  refine ⟨htrust.trans htrust'.symm, .inr ⟨by rw [hfunding]; rfl, hn, t, hdue, ?_, ?_⟩⟩
  · rw [hid, ← AList.lookup_isSome, hrow]
    rfl
  · rw [hn, hid, hledger]

def BillingEnv.standard : BillingEnv where
  quotaPerUnit := 500000
  formatQuota n := toString n
  calendar := .utc

def RelayInfo.sample (billingPreference : String) : RelayInfo where
  requestId := "r"
  userId := 1
  tokenId := 7
  tokenKey := "key"
  tokenUnlimited := false
  isPlayground := false
  forcePreConsume := false
  billingPreference := billingPreference
  tokenQuota := 50

/-- User 1 has 30, token 7 has 50, and 20 of the 100 of subscription 3 are used. -/
def Store.sample : Store :=
  { empty with
    userQuota := fun _ => 30
    tokenIdOfKey := fun key => if key = "key" then some 7 else none
    token := fun _ => ⟨50, 0, false⟩
    subs := AList.singleton 3
      { userId := 1, planId := 2, amountTotal := 100, amountUsed := 20, startTime := 0,
        endTime := 1000, status := .active, lastResetTime := 0, nextResetTime := 0,
        allowWalletOverflow := false }
    plans := fun id => if id = 2 then some ⟨"plan", "never", 0, by decide⟩ else none }

theorem newBillingSession_allOrNothing_of_fallback : OpenPost (.sample "wallet_first") .sample
        (ChargedOnce .standard 0 (.sample "wallet_first") 40 .sample)
        (newBillingSession .standard (.sample "wallet_first") .sample {} 40) ∧
      (newBillingSession .standard (.sample "wallet_first") .sample {} 40).2.1.subscriptionId = 3 :=
  ⟨@newBillingSession_allOrNothing .standard (.sample "wallet_first") .sample 40 {} (by decide)
    (by decide) rfl rfl, by decide +kernel⟩

end TokensFlux
