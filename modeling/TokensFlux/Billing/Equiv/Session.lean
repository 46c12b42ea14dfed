import TokensFlux.Billing.Equiv.Open
import TokensFlux.Subscription.Equiv.Refund

/-!
# What a billing session takes in the end

`Settle` does not look at `refunded`, so a `Settle` after a `Refund` charges the difference to a
reservation that no longer exists; otherwise the tables agree with `SessionRun.net`.  `Inv` says
what the funding source and the token hold for the session, with one lemma for each event.
-/

namespace TokensFlux

open Store Billing FundingSource Except

/-- `cache` is what Redis answers when the token is read. -/
inductive SessionEvent
  | reserve (cache : Option Token) (targetQuota : ℤ)
  | settle (actualQuota : ℤ)
  | refund
  | background

inductive Outcome
  | reserved
  | settled (actualQuota : ℤ)
  | refunded
deriving DecidableEq, Repr

/-- A session, the goroutines that have not run and which call decided it. -/
structure SessionRun where
  billing : Billing
  jobs : List RefundJob
  outcome : Outcome

namespace SessionRun

def opened (s : Store) (info : RelayInfo) (session : BillingSession) : SessionRun :=
  ⟨⟨session, info, s⟩, [], .reserved⟩

def step (env : BillingEnv) (r : SessionRun) : SessionEvent → SessionRun
  | .reserve cache targetQuota =>
    { r with billing := (r.billing.reserve env { token := { cache } } targetQuota).1 }
  | .settle actualQuota =>
    match r.billing.settle {} actualQuota, r.outcome with
    | (billing, none), .reserved => { r with billing, outcome := .settled actualQuota }
    | (billing, _), _ => { r with billing }
  | .refund =>
    match r.billing.refund, r.outcome with
    | (billing, none), _ => { r with billing }
    | (billing, some job), .reserved => ⟨billing, r.jobs ++ [job], .refunded⟩
    | (billing, some job), _ => { r with billing, jobs := r.jobs ++ [job] }
  | .background =>
    match r.jobs with
    | [] => r
    | job :: jobs =>
      { r with billing := { r.billing with store := job.run r.billing.store {} }, jobs }

def net (r : SessionRun) : ℤ :=
  match r.outcome with
  | .reserved => r.billing.session.preConsumedQuota
  | .settled actualQuota => actualQuota
  | .refunded => 0

/-- Once no goroutine is left, `net` was taken from the account and from the token. -/
def Conserves (base : Account → ℤ) (account : Account) (info : RelayInfo) (r : SessionRun) : Prop :=
  r.jobs = [] → r.billing.store.ledger = base + charge account info r.net

/-- No `Settle` charges a refunded session, and none gives back more than was used. -/
def SettlesInTime (r : SessionRun) : SessionEvent → Prop
  | .settle actualQuota =>
    r.billing.session.settled = false →
      (r.billing.session.refunded = true → actualQuota = r.billing.session.preConsumedQuota) ∧
      r.billing.session.funding.Uncut r.billing.store
        (actualQuota - r.billing.session.preConsumedQuota)
  | _ => True

instance (r : SessionRun) (e : SessionEvent) : Decidable (r.SettlesInTime e) := by
  cases e <;> unfold SettlesInTime <;> infer_instance

end SessionRun

/-! ### The open session -/

/-- The record and the row still hold what was pre-consumed. -/
structure SubscriptionHeld (s : Store) (f : SubscriptionFunding) : Prop where
  pos : 0 < f.subscriptionId
  request : trimSpace f.requestId ≠ ""
  record : ∃ userId, s.records.lookup f.requestId
    = some ⟨userId, f.subscriptionId, f.preConsumed, .consumed⟩
  preConsumed : 0 < f.preConsumed
  row : ∃ sub, s.subs.lookup f.subscriptionId = some sub ∧
    (sub.amountTotal ≤ 0 ∨ sub.amountUsed ≤ sub.amountTotal)

def FundingHeld (s : Store) (session : BillingSession) : Prop :=
  match session.funding with
  | .wallet w => w.consumed = session.preConsumedQuota
  | .subscription f =>
    SubscriptionHeld s f ∧ session.preConsumedQuota = f.preConsumed + session.extraReserved

/-- What an open session remembers was taken from the account and the token. -/
structure Held (base : Account → ℤ) (account : Account) (info : RelayInfo)
    (b : Billing) : Prop where
  paysFrom : b.session.funding.account = account
  tokenId : b.info.tokenId = info.tokenId
  isPlayground : b.info.isPlayground = info.isPlayground
  subscriptionId : ∀ f, b.session.funding = .subscription f →
    b.info.subscriptionId = f.subscriptionId
  settled : b.session.settled = false
  refunded : b.session.refunded = false
  fundingSettled : b.session.fundingSettled = false
  tokenConsumed : b.session.tokenConsumed = b.session.preConsumedQuota
  extraReserved : 0 ≤ b.session.extraReserved
  preConsumedQuota : 0 ≤ b.session.preConsumedQuota
  ledger : b.store.ledger = base + charge account info b.session.preConsumedQuota
  funding : FundingHeld b.store b.session

variable {b : Billing} {info : RelayInfo} {s s' : Store} {f : SubscriptionFunding} {delta : ℤ}

theorem SubscriptionHeld.of_sameTables (h : SubscriptionHeld s f) (hs : SameTables s s') :
    SubscriptionHeld s' f :=
  { h with
    record := by rw [hs.records]; exact h.record
    row := by rw [hs.subs]; exact h.row }

theorem SubscriptionHeld.postConsume (h : SubscriptionHeld s f) (hd : delta ≠ 0) {tx : TxFaults}
    (hs : s.postConsumeUserSubscriptionDelta tx f.subscriptionId delta = .ok s') :
    SubscriptionHeld s' f := by
  obtain ⟨_, -, -, _, rfl⟩ := postConsumeUserSubscriptionDelta_ok hd hs
  exact { h with record := h.record, row := ⟨_, AList.lookup_insert _, by dsimp only; omega⟩ }

theorem Held.le_amountUsed {base : Account → ℤ} {account : Account} (h : Held base account info b)
    (hbase : base account ≤ 0) (hf : b.session.funding = .subscription f) :
    b.session.preConsumedQuota ≤ b.store.amountUsed f.subscriptionId := by
  have haccount : account = .subscription f.subscriptionId := by
    rw [← h.paysFrom, hf]
    rfl
  have hself : charge account info b.session.preConsumedQuota account
      = -b.session.preConsumedQuota := by
    rw [← h.paysFrom]
    exact charge_self b.session.funding.account_ne_token _ _
  have hledger := congrFun h.ledger account
  rw [Pi.add_apply, hself] at hledger
  have hused : b.store.ledger account = -b.store.amountUsed f.subscriptionId := by
    rw [haccount]
    rfl
  omega

/-! ### Reserve -/

theorem Billing.reserveToken_spec {env : BillingEnv} {f : TokenFaults} (hd : 0 < delta)
    (h : reserveToken env info s f delta = .ok s') :
    s'.ledger = s.ledger + tokenPosting info delta ∧ SameTables s s' := by
  unfold reserveToken at h
  split_ifs at h with hp
  · cases h
    rw [tokenPosting_of_playground (hp.resolve_left (by omega)), add_zero]
    exact ⟨rfl, SameTables.refl s⟩
  rcases hpre : preConsumeTokenQuota env s f info delta with _ | _
  · rw [hpre] at h; cases h
  rw [hpre] at h
  cases h
  obtain ⟨hledger, htables, -⟩ := preConsumeTokenQuota_spec hpre
  exact ⟨hledger, htables⟩

theorem FundingHeld.of_sameTables {session : BillingSession} (h : FundingHeld s session)
    (hs : SameTables s s') :
    FundingHeld s' session := by
  unfold FundingHeld at h ⊢
  split
  · rename_i w hw
    rwa [hw] at h
  · rename_i f hf
    rw [hf] at h
    exact ⟨h.1.of_sameTables hs, h.2⟩

/-- A reservation can be rolled back to where it started. -/
theorem Billing.reserveFunding_spec {funding : FundingSource} (hd : 0 < delta)
    (hheld : FundingHeld b.store b.session) (h : b.reserveFunding {} delta = .ok (funding, s)) :
    s.ledger = b.store.ledger + accountPosting b.session.funding.account delta ∧
      funding.account = b.session.funding.account ∧
      (∀ f, funding = .subscription f → b.session.funding = .subscription f) ∧
      FundingHeld s { b.session with
        funding
        preConsumedQuota := b.session.preConsumedQuota + delta
        tokenConsumed := b.session.tokenConsumed + delta
        extraReserved := b.session.extraReserved + delta } ∧
      ∃ s', rollbackFundingReserve funding s {} delta = (b.session.funding, s') ∧
        s'.ledger = b.store.ledger ∧ FundingHeld s' b.session := by
  unfold reserveFunding at h
  unfold FundingHeld at hheld
  cases hf : b.session.funding with
  | wallet w =>
    rw [hf] at h hheld
    dsimp only at h hheld
    split at h
    · cases h
    rename_i s₁ hdec
    obtain ⟨rfl, rfl⟩ := Prod.mk.inj (ok.inj h)
    obtain ⟨hledger, -⟩ := decreaseUserQuota_spec hdec
    obtain ⟨s', hs'⟩ : ∃ s', s₁.increaseUserQuota none w.userId delta false = .ok s' :=
      increaseUserQuota_isOk s₁ hd.le false
    refine ⟨by rw [accountPosting_apply]; exact hledger, rfl, nofun, ?_, s', ?_, ?_, ?_⟩
    · simp only [FundingHeld, hheld]
    · simp only [rollbackFundingReserve, hs', add_sub_cancel_right]
    · rw [(increaseUserQuota_spec hs').1, hledger, add_assoc, ← Pi.single_add,
        neg_add_cancel, Pi.single_zero, add_zero]
    · simp only [FundingHeld, hf, hheld]
  | subscription f =>
    rw [hf] at h hheld
    dsimp only at h hheld
    split at h
    · cases h
    rename_i s₁ hpost
    obtain ⟨rfl, rfl⟩ := Prod.mk.inj (ok.inj h)
    have hused := b.store.amountUsed_nonneg f.subscriptionId
    have hledger := postConsumeUserSubscriptionDelta_ledger hpost (by omega)
    have hheld₁ := hheld.1.postConsume hd.ne' hpost
    obtain ⟨sub, hsub, htotal⟩ := hheld₁.row
    -- The rollback only lowers the used amount, so the total cannot refuse it.
    obtain ⟨s', hs'⟩ := postConsumeUserSubscriptionDelta_isOk hheld.1.pos hsub
      (show sub.amountTotal ≤ 0 ∨ sub.amountUsed + -delta ≤ sub.amountTotal by omega)
    -- Nor is it cut at zero: `delta` was added just before.
    have hused₁ : s₁.amountUsed f.subscriptionId = b.store.amountUsed f.subscriptionId + delta := by
      have := congrFun hledger (.subscription f.subscriptionId)
      simp only [ledger, Pi.add_apply, Pi.single_eq_same] at this
      omega
    have hledger' := postConsumeUserSubscriptionDelta_ledger hs' (by omega)
    refine ⟨by rw [accountPosting_apply]; exact hledger, rfl, fun f' hf' => hf', ?_, s', ?_, ?_, ?_⟩
    · exact ⟨hheld₁, by rw [hheld.2, add_assoc]⟩
    · simp only [rollbackFundingReserve, hs', orLogged]
    · rw [hledger', hledger, add_assoc, ← Pi.single_add, neg_neg, neg_add_cancel, Pi.single_zero,
        add_zero]
    · simp only [FundingHeld, hf]
      exact ⟨hheld₁.postConsume (by omega) hs', hheld.2⟩

/-! ### Refund -/

theorem ledger_returnToken {n : ℤ} (hn : 0 ≤ n) :
    (if 0 < n ∧ ¬info.isPlayground then s.orLogged (s.increaseTokenQuota none info.tokenId n)
      else s).ledger = s.ledger + tokenPosting info (-n) := by
  cases hp : info.isPlayground with
  | true => rw [if_neg (by simp), tokenPosting_of_playground hp, add_zero]
  | false =>
    by_cases hpos : 0 < n
    · obtain ⟨s', hs'⟩ : ∃ s', s.increaseTokenQuota none info.tokenId n = .ok s' :=
        increaseTokenQuota_isOk s hn
      rw [if_pos ⟨hpos, by simp⟩, hs', tokenPosting_of_not_playground hp, neg_neg]
      exact (increaseTokenQuota_spec hs').1
    · obtain rfl : n = 0 := by omega
      rw [if_neg (by simp), neg_zero, map_zero, add_zero]

theorem FundingSource.refund_wallet {w : WalletFunding} (hw : 0 ≤ w.consumed)
    (retry : ℕ → RefundFaults) :
    ((wallet w).refund s none retry).ledger
      = s.ledger + accountPosting (.wallet w.userId) (-w.consumed) := by
  rw [accountPosting_apply, neg_neg]
  unfold refund
  dsimp only
  split_ifs with hzero
  · rw [show w.consumed = 0 by omega, Pi.single_zero, add_zero]
  obtain ⟨s', hs'⟩ : ∃ s', s.increaseUserQuota none w.userId w.consumed false = .ok s' :=
    increaseUserQuota_isOk s hw false
  rw [hs']
  exact (increaseUserQuota_spec hs').1

theorem SubscriptionHeld.refund (h : SubscriptionHeld s f)
    (hused : f.preConsumed ≤ s.amountUsed f.subscriptionId) :
    ∃ s' sub, (FundingSource.subscription f).refund s none (fun _ => {}) = s' ∧
      s'.ledger = s.ledger + accountPosting (.subscription f.subscriptionId) (-f.preConsumed) ∧
      s'.subs.lookup f.subscriptionId = some sub ∧
      (sub.amountTotal ≤ 0 ∨ sub.amountUsed ≤ sub.amountTotal) := by
  obtain ⟨_, hrec⟩ := h.record
  obtain ⟨sub, hsub, htotal⟩ := h.row
  rw [amountUsed_of_lookup hsub] at hused
  have hfirst := refundSubscriptionPreConsume_of_returnsAmount (f := {}) h.request
    hrec h.preConsumed
    h.pos hsub htotal ⟨rfl, rfl, rfl, rfl, rfl, rfl⟩
  rw [RefundRun.markRefunded_of_none rfl rfl] at hfirst
  have hrun : (FundingSource.subscription f).refund s none (fun _ => {})
      = (s.refundSubscriptionPreConsume {} f.requestId).1 := by
    rw [FundingSource.refund, if_neg (not_le.mpr h.preConsumed), refundWithRetry, retryLoop, hfirst]
  rw [hfirst] at hrun
  have hpos := h.preConsumed
  have hreturned : (sub.amountUsed : ℤ) - (sub.amountUsed - f.preConsumed).toNat =
      f.preConsumed := by
    omega
  refine ⟨_, _, hrun, ?_, AList.lookup_insert _, by dsimp only; omega⟩
  rw [ledger_withRecords, ledger_insertSub _ hsub, accountPosting_apply, neg_neg]
  rw [hreturned]

section Held

variable {base : Account → ℤ} {account : Account} {info : RelayInfo} {b : Billing}

theorem Held.reserve (h : Held base account info b) (env : BillingEnv) (f : TokenFaults)
    (targetQuota : ℤ) :
    Held base account info (b.reserve env { token := f } targetQuota).1 := by
  unfold Billing.reserve
  split_ifs with hskip
  · exact h
  have hd : 0 < targetQuota - b.session.preConsumedQuota := by
    simp only [Bool.or_eq_true, decide_eq_true_eq] at hskip
    omega
  dsimp only
  generalize targetQuota - b.session.preConsumedQuota = delta at hd ⊢
  split
  · exact h
  rename_i funding s hfund
  obtain ⟨hledger, haccount, hsame, hheld, s', hroll, hback, hheld'⟩ :=
    reserveFunding_spec hd h.funding hfund
  split
  · -- The token refuses, and the funding source gets `delta` back.
    rw [hroll]
    exact { h with
      ledger := hback.trans h.ledger
      funding := hheld' }
  rename_i s₁ htoken
  obtain ⟨hledger₁, htables₁⟩ := reserveToken_spec hd htoken
  have hcharge := charge_congr h.tokenId h.isPlayground account
  refine
    { paysFrom := haccount.trans h.paysFrom
      tokenId := ?_
      isPlayground := ?_
      subscriptionId := ?_
      settled := h.settled
      refunded := h.refunded
      fundingSettled := h.fundingSettled
      tokenConsumed := by dsimp only; rw [h.tokenConsumed]
      extraReserved := by have := h.extraReserved; dsimp only; omega
      preConsumedQuota := by have := h.preConsumedQuota; dsimp only; omega
      ledger := ?_
      funding := hheld.of_sameTables htables₁ }
  · rw [← h.tokenId]
    cases funding <;> rfl
  · rw [← h.isPlayground]
    cases funding <;> rfl
  · intro f' hf'
    subst hf'
    rfl
  · rw [hledger₁, hledger, h.ledger, h.paysFrom, map_add, ← hcharge, charge_apply _ _ delta]
    simp only [add_assoc]

def Billing.refundJob (b : Billing) : RefundJob :=
  ⟨b.session.funding, b.session.extraReserved, b.info.subscriptionId, b.session.tokenConsumed,
    b.info.tokenId, b.info.isPlayground⟩

theorem Held.refundFunding (h : Held base account info b)
    (hbase : ∀ id, account = .subscription id → base account ≤ 0) :
    (b.refundJob.refundFunding b.store {}).ledger
      = b.store.ledger + accountPosting account (-b.session.preConsumedQuota) := by
  unfold RefundJob.refundFunding Billing.refundJob
  dsimp only
  cases hf : b.session.funding with
  | wallet w =>
    have hw : w.consumed = b.session.preConsumedQuota := by simpa [FundingHeld, hf] using h.funding
    have hpre := h.preConsumedQuota
    rw [if_neg (by simp [source]), refund_wallet (by omega), hw, ← h.paysFrom, hf]
    rfl
  | subscription f =>
    have hheld : SubscriptionHeld b.store f ∧
        b.session.preConsumedQuota = f.preConsumed + b.session.extraReserved := by
      simpa [FundingHeld, hf] using h.funding
    have hextra := h.extraReserved
    have haccount : account = .subscription f.subscriptionId := by
      rw [← h.paysFrom, hf]
      rfl
    have hused := h.le_amountUsed (hbase _ haccount) hf
    obtain ⟨s', sub, hs', hledger, hsub, _⟩ := hheld.1.refund (by omega)
    rw [hs', h.subscriptionId f hf]
    rw [← haccount] at hledger
    by_cases hzero : b.session.extraReserved = 0
    · rw [if_neg (by omega), hledger, hheld.2, hzero, add_zero]
    -- What `Reserve` added is returned by a second write to the row.
    obtain ⟨_, hs''⟩ := postConsumeUserSubscriptionDelta_isOk hheld.1.pos hsub
      (show sub.amountTotal ≤ 0 ∨
        sub.amountUsed + -b.session.extraReserved ≤ sub.amountTotal by omega)
    have hused' : s'.amountUsed f.subscriptionId
        = b.store.amountUsed f.subscriptionId - f.preConsumed := by
      have := congrFun hledger account
      rw [accountPosting_apply, haccount] at this
      simp only [Store.ledger, Pi.add_apply, Pi.single_eq_same] at this
      omega
    rw [if_pos ⟨by omega, rfl, hheld.1.pos⟩, hs'', Store.orLogged,
      postConsumeUserSubscriptionDelta_ledger hs'' (by omega), hledger, ← haccount,
      ← accountPosting_apply, hheld.2, add_assoc, ← map_add, neg_add]

theorem Held.refund (h : Held base account info b)
    (hbase : ∀ id, account = .subscription id → base account ≤ 0) {b' : Billing} {job : RefundJob}
    (hjob : b.refund = (b', some job)) :
    b' = { b with session := { b.session with refunded := true } } ∧
      (job.run b.store {}).ledger = base := by
  unfold Billing.refund at hjob
  split_ifs at hjob
  · cases (Prod.mk.inj hjob).2
  obtain ⟨rfl, hsome⟩ := Prod.mk.inj hjob
  obtain rfl : b.refundJob = job := Option.some.inj hsome
  have htoken : 0 ≤ b.session.tokenConsumed := by
    rw [h.tokenConsumed]
    exact h.preConsumedQuota
  have hrun : (b.refundJob.run b.store {}).ledger
      = (b.refundJob.refundFunding b.store {}).ledger
        + tokenPosting b.info (-b.session.tokenConsumed) := ledger_returnToken htoken
  refine ⟨rfl, ?_⟩
  rw [hrun, h.refundFunding hbase, h.ledger, h.tokenConsumed,
    ← charge_congr h.tokenId h.isPlayground account, charge_apply, map_neg, map_neg]
  abel

end Held

/-! ### Whole runs -/

namespace SessionRun

variable {base : Account → ℤ} {account : Account} {info : RelayInfo}

/-- Open, settled, or refunded with the goroutine still to run or not. -/
inductive Inv (base : Account → ℤ) (account : Account) (info : RelayInfo) (r : SessionRun) : Prop
  | reserved (hjobs : r.jobs = []) (houtcome : r.outcome = .reserved)
      (h : Held base account info r.billing)
  | settled (a : ℤ) (hjobs : r.jobs = []) (houtcome : r.outcome = .settled a)
      (hsettled : r.billing.session.settled = true)
      (hledger : r.billing.store.ledger = base + charge account info a)
  | refunding (job : RefundJob) (hjobs : r.jobs = [job]) (houtcome : r.outcome = .refunded)
      (hrefunded : r.billing.session.refunded = true)
      (hledger : (job.run r.billing.store {}).ledger = base)
  | refunded (hjobs : r.jobs = []) (houtcome : r.outcome = .refunded)
      (hrefunded : r.billing.session.refunded = true) (hledger : r.billing.store.ledger = base)

variable {r : SessionRun}

theorem Inv.conserves (h : Inv base account info r) : Conserves base account info r := by
  intro hquiet
  cases h with
  | reserved _ houtcome h => rw [net, houtcome, h.ledger]
  | settled _ _ houtcome _ hledger => rw [net, houtcome, hledger]
  | refunding _ hjobs => rw [hjobs] at hquiet; cases hquiet
  | refunded _ houtcome _ hledger => rw [net, houtcome, hledger, map_zero, add_zero]

theorem reserve_of_closed (h : b.session.settled = true ∨ b.session.refunded = true)
    (env : BillingEnv)
    (f : ReserveFaults) (targetQuota : ℤ) : (b.reserve env f targetQuota).1 = b := by
  unfold reserve
  rcases h with h | h <;> simp [h]

theorem refund_of_closed (h : b.session.settled = true ∨ b.session.refunded = true) :
    b.refund = (b, none) := by
  unfold Billing.refund
  rcases h with h | h <;> simp [h]

theorem settle_of_settled (h : b.session.settled = true) (f : SettleFaults) (a : ℤ) :
    b.settle f a = (b, none) := by
  unfold Billing.settle
  rw [if_pos h]

theorem settle_at_preConsumedQuota (h : b.session.settled = false) (f : SettleFaults) :
    b.settle f b.session.preConsumedQuota
      = ({ b with session := { b.session with settled := true } }, none) := by
  unfold Billing.settle
  rw [if_neg (by simp [h])]
  rw [if_pos (sub_self _)]

theorem step_settle_of_refunded {a : ℤ} (env : BillingEnv) (houtcome : r.outcome = .refunded)
    (hrefunded : r.billing.session.refunded = true) (hguard : SettlesInTime r (.settle a)) :
    ∃ session, session.refunded = true ∧
      r.step env (.settle a) = { r with billing := { r.billing with session } } := by
  rw [step]
  cases hsettled : r.billing.session.settled with
  | true =>
    refine ⟨r.billing.session, hrefunded, ?_⟩
    simp only [settle_of_settled hsettled, houtcome]
  | false =>
    obtain rfl := (hguard hsettled).1 hrefunded
    refine ⟨{ r.billing.session with settled := true }, hrefunded, ?_⟩
    simp only [settle_at_preConsumedQuota hsettled, houtcome]

theorem Inv.settle (h : Inv base account info r) (env : BillingEnv) {a : ℤ}
    (hguard : SettlesInTime r (.settle a)) : Inv base account info (r.step env (.settle a)) := by
  cases h with
  | reserved hjobs houtcome h =>
    obtain ⟨-, hcut⟩ := hguard h.settled
    rw [step]
    cases hres : r.billing.settle {} a with
    | mk _ err =>
      cases err with
      | some =>
        -- Refused by the funding source: the session stays as it was.
        obtain ⟨rfl, -⟩ := settle_error hres
        exact .reserved hjobs houtcome h
      | none =>
        obtain ⟨hsettled, hledger⟩ := settle_spec h.settled h.fundingSettled hres hcut
        rw [houtcome]
        refine .settled a hjobs rfl hsettled ?_
        rw [hledger, h.ledger, h.paysFrom, charge_congr h.tokenId h.isPlayground, add_assoc,
          ← map_add, add_sub_cancel]
  | settled a' hjobs houtcome hsettled hledger =>
    rw [step, settle_of_settled hsettled, houtcome]
    exact .settled a' hjobs rfl hsettled hledger
  | refunding job hjobs houtcome hrefunded hledger =>
    -- After a refund the guard admits only the settlement that moves nothing.
    obtain ⟨session, hsession, hstep⟩ := step_settle_of_refunded env houtcome hrefunded hguard
    rw [hstep]
    exact .refunding job hjobs houtcome hsession hledger
  | refunded hjobs houtcome hrefunded hledger =>
    obtain ⟨session, hsession, hstep⟩ := step_settle_of_refunded env houtcome hrefunded hguard
    rw [hstep]
    exact .refunded hjobs houtcome hsession hledger

theorem Inv.of_closed {r' : SessionRun} (h : Inv base account info r)
    (hclosed : r.billing.session.settled = true ∨ r.billing.session.refunded = true → r' = r)
    (hopen : r.jobs = [] → r.outcome = .reserved → Held base account info r.billing →
      Inv base account info r') :
    Inv base account info r' := by
  have hinv := h
  cases h with
  | reserved hjobs houtcome h => exact hopen hjobs houtcome h
  | settled _ _ _ hsettled =>
    rw [hclosed (Or.inl hsettled)]
    exact hinv
  | refunding _ _ _ hrefunded | refunded _ _ hrefunded =>
    rw [hclosed (Or.inr hrefunded)]
    exact hinv

theorem Inv.reserve (h : Inv base account info r) (env : BillingEnv) (cache : Option Token)
    (targetQuota : ℤ) :
    Inv base account info (r.step env (.reserve cache targetQuota)) := by
  apply h.of_closed
  · intro hclosed
    rw [step, reserve_of_closed hclosed]
  · intro hjobs houtcome h
    exact .reserved hjobs houtcome (h.reserve env _ targetQuota)

theorem Inv.refund (h : Inv base account info r)
    (hbase : ∀ id, account = .subscription id → base account ≤ 0)
    (env : BillingEnv) : Inv base account info (r.step env .refund) := by
  apply h.of_closed
  · intro hclosed
    rw [step, refund_of_closed hclosed]
  intro hjobs houtcome h
  rw [SessionRun.step]
  cases hres : r.billing.refund with
  | mk b job =>
    cases job with
    | none =>
      have hsame : b = r.billing := by
        unfold Billing.refund at hres
        split_ifs at hres
        · exact (Prod.mk.inj hres).1.symm
        · cases (Prod.mk.inj hres).2
      subst hsame
      exact .reserved hjobs houtcome h
    | some job =>
      obtain ⟨rfl, hledger⟩ := h.refund hbase hres
      simp only [houtcome]
      exact .refunding job (by rw [hjobs]; rfl) rfl rfl hledger

theorem Inv.background (h : Inv base account info r) (env : BillingEnv) :
    Inv base account info (r.step env .background) := by
  rw [step]
  rcases hjobs : r.jobs with _ | ⟨_, _⟩
  · exact h
  cases h with
  | refunding _ hone houtcome hrefunded hledger =>
    rw [hone] at hjobs
    cases hjobs
    exact .refunded rfl houtcome hrefunded hledger
  | reserved hnone | refunded hnone | settled _ hnone => rw [hnone] at hjobs; cases hjobs

/-- **One step** keeps the session in one of its four states. -/
theorem Inv.step {env : BillingEnv} (hbase : ∀ id, account = .subscription id → base account ≤ 0)
    (r : SessionRun) (e : SessionEvent) (h : Inv base account info r) (hguard : SettlesInTime r e) :
    Inv base account info (r.step env e) := by
  cases e with
  | reserve cache targetQuota => exact h.reserve env cache targetQuota
  | settle => exact h.settle env hguard
  | refund => exact h.refund hbase env
  | background => exact h.background env

end SessionRun

/-! ### From `NewBillingSession` on -/

section Opened

variable {env : BillingEnv} {info info' : RelayInfo} {s s' : Store} {b : BillingSession} {q : ℤ}

theorem OpenSession.held {n : ℤ} (hopen : OpenSession info info' b n) (hn : 0 ≤ n)
    {base : Account → ℤ}
    (hledger : s'.ledger = base + charge b.funding.account info n) (hfunding : FundingHeld s' b) :
    Held base b.funding.account info ⟨b, info', s'⟩ := by
  obtain ⟨-, htokenId, hplayground, -⟩ := hopen.frame
  have htoken := hopen.tokenConsumed
  rw [max_eq_left hn] at htoken
  refine
    { paysFrom := rfl
      tokenId := htokenId
      isPlayground := hplayground
      subscriptionId := fun f hf => ?_
      settled := hopen.settled
      refunded := hopen.refunded
      fundingSettled := hopen.fundingSettled
      tokenConsumed := htoken.trans hopen.preConsumedQuota.symm
      extraReserved := hopen.extraReserved.ge
      preConsumedQuota := hn.trans_eq hopen.preConsumedQuota.symm
      ledger := by rw [hopen.preConsumedQuota]; exact hledger
      funding := hfunding }
  obtain ⟨_, hinfo⟩ := hopen.info
  rw [hinfo, BillingSession.syncRelayInfo, hf]

theorem OpenedByWallet.held (hpre : 0 ≤ b.preConsumedQuota)
    (h : OpenedByWallet env info q s s' info' b) :
    Held s.ledger b.funding.account info ⟨b, info', s'⟩ := by
  obtain ⟨hopen, hfunding, -, hledger, -⟩ := h
  generalize (if b.trusted = true then (0 : ℤ) else q) = n at hopen hfunding hledger
  have hn : 0 ≤ n := hopen.preConsumedQuota ▸ hpre
  rw [max_eq_left hn] at hfunding hledger
  apply hopen.held hn
  · rw [hledger, hfunding]
    rfl
  · simp only [FundingHeld, hfunding, hopen.preConsumedQuota]

theorem OpenedBySubscription.held {now : ℤ} (hids : ∀ id ∈ s.subs, 0 < id)
    (h : OpenedBySubscription env.calendar now info q s s' info' b) :
    ∃ t, DueResets env.calendar now s t ∧ Held t.ledger b.funding.account info ⟨b, info', s'⟩ := by
  obtain ⟨t, id, _, _, hopen, -, hfunding, hreq, hsid, hpre, _, hdue, hsub, _,
    hsubs, hrecords, hledger⟩ := h
  refine ⟨t, hdue, hopen.held (by omega) ?_ ?_⟩
  · rw [hledger, hfunding, account, hsid]
  simp only [FundingHeld, hfunding]
  refine ⟨⟨?_, by rwa [hreq], ⟨info.userId, ?_⟩, by omega, ?_⟩, ?_⟩
  · rw [hsid]
    exact hids id (hdue.mem_of_lookup hsub)
  · rw [hrecords, hreq, hsid, hpre, AList.lookup_insert]
  · rw [hsubs, hsid]
    exact ⟨_, AList.lookup_insert _, by dsimp only; omega⟩
  · rw [hopen.preConsumedQuota, hopen.extraReserved, hpre, add_zero]

end Opened

/-- **A billing session takes what it should**: once the goroutines have run, the account and the
token have paid `SessionRun.net` since the resets that were due at its start. -/
theorem billingSession_conserves {env : BillingEnv} {info info' : RelayInfo} {s s' : Store}
    {f : OpenFaults} {q : ℤ} {b : BillingSession}
    (hfresh : s.records.lookup info.requestId = none) (hids : ∀ id ∈ s.subs, 0 < id)
    (hwallet : f.wallet.rollback = none) (hsub : f.subscription.rollback = none)
    (hopen : newBillingSession env info s f q = (s', info', .ok b))
    (hpre : 0 ≤ b.preConsumedQuota) :
    ∃ t, DueResets env.calendar f.subscription.now s t ∧
      ∀ es, Guarded (SessionRun.step env) SessionRun.SettlesInTime (.opened s' info' b) es →
        SessionRun.Conserves t.ledger b.funding.account info
          (es.foldl (SessionRun.step env) (.opened s' info' b)) := by
  obtain ⟨t, hdue, hheld⟩ : ∃ t, DueResets env.calendar f.subscription.now s t ∧
      Held t.ledger b.funding.account info ⟨b, info', s'⟩ := by
    rcases newBillingSession_opened hfresh hwallet hsub hopen with h | h
    · exact ⟨s, DueResets.refl _ _ s, h.held hpre⟩
    · exact h.held hids
  refine ⟨t, hdue, fun es hes => ?_⟩
  have hbase : ∀ id, b.funding.account = .subscription id → t.ledger b.funding.account ≤ 0 := by
    intro id hid
    rw [hid]
    -- The ledger of a subscription is what is used of it, negated.
    exact neg_nonpos.mpr (t.amountUsed_nonneg id)
  have h0 : SessionRun.Inv t.ledger b.funding.account info (.opened s' info' b) :=
    .reserved rfl rfl hheld
  exact (Guarded.invariant (SessionRun.Inv.step hbase) h0 hes).conserves

theorem billingSession_conserves_of_lateRefund :
    ∃ s' info' b, newBillingSession .standard (.sample "subscription_only") .sample {} 10
        = (s', info', .ok b) ∧
      ∃ t, DueResets BillingEnv.standard.calendar 0 .sample t ∧
        SessionRun.Conserves t.ledger b.funding.account (.sample "subscription_only")
          ([.reserve none 30, .settle 25, .refund, .settle 40].foldl (SessionRun.step .standard)
            (.opened s' info' b)) := by
  have hcheck : checkOpened
      (fun s' info' b => 0 ≤ b.preConsumedQuota ∧
        Guarded (SessionRun.step .standard) SessionRun.SettlesInTime (.opened s' info' b)
          [.reserve none 30, .settle 25, .refund, .settle 40])
      (newBillingSession .standard (.sample "subscription_only") .sample {} 10) = true := by
    decide +kernel
  obtain ⟨s', info', b, hopen, hb⟩ := exists_of_checkOpened hcheck
  obtain ⟨hpre, hguard⟩ := of_decide_eq_true hb
  obtain ⟨t, hdue, h⟩ := billingSession_conserves (by decide) (by decide) rfl rfl hopen hpre
  exact ⟨s', info', b, hopen, t, hdue, h _ hguard⟩

/-- A request that was refunded and is settled afterwards pays the difference of 15, although it
should pay nothing. -/
theorem settle_after_refund_charges :
    ∃ s' info' b, newBillingSession .standard (.sample "wallet_only") .sample {} 10
        = (s', info', .ok b) ∧
      ¬SessionRun.Conserves Store.sample.ledger b.funding.account (.sample "wallet_only")
        ([.refund, .background, .settle 25].foldl (SessionRun.step .standard)
          (.opened s' info' b)) := by
  have hcheck : checkOpened
      (fun s' info' b =>
        let r := [.refund, .background, .settle 25].foldl (SessionRun.step .standard)
          (.opened s' info' b)
        r.jobs = [] ∧ r.billing.store.ledger (.wallet 1) = Store.sample.ledger (.wallet 1) - 15 ∧
          r.net = 0)
      (newBillingSession .standard (.sample "wallet_only") .sample {} 10) = true := by
    decide +kernel
  obtain ⟨s', info', b, hopen, hrun⟩ := exists_of_checkOpened hcheck
  obtain ⟨hjobs, hpaid, hnet⟩ := of_decide_eq_true hrun
  refine ⟨s', info', b, hopen, fun h => ?_⟩
  have hwallet := congrFun (h hjobs) (.wallet 1)
  rw [hnet, map_zero, add_zero, hpaid] at hwallet
  omega

end TokensFlux
