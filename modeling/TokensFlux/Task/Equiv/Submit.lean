import TokensFlux.Billing.Equiv.Open
import TokensFlux.Lib.Guarded
import TokensFlux.Task.Equiv.Billing
import TokensFlux.Task.Submit

/-!
# The quota of a task is what was taken for it

The task is stored with the price of its submission whether or not the settlement at that price
succeeded.  `SubmitOutcome` is all that an attempt may do, and `Inv` what every event keeps.
-/

namespace TokensFlux

open Billing BillingEnv RelayInfo Store TaskLife

/-! ### The funding source of a submission -/

def RelayInfo.fundingAccount (info : RelayInfo) : Account :=
  if info.billingSource = .subscription ∧ 0 < info.subscriptionId then
    .subscription info.subscriptionId
  else .wallet info.userId

structure SameFunding (info info' : RelayInfo) : Prop where
  requestId : info'.requestId = info.requestId
  userId : info'.userId = info.userId
  billingSource : info'.billingSource = info.billingSource
  subscriptionId : info'.subscriptionId = info.subscriptionId
  finalPreConsumedQuota : info'.finalPreConsumedQuota = info.finalPreConsumedQuota

variable {b : BillingSession} {info info' : RelayInfo} {st : Submission}
  {a : SubmitAttempt} {r : TaskLife}

namespace SameFunding

theorem refl (info : RelayInfo) : SameFunding info info := ⟨rfl, rfl, rfl, rfl, rfl⟩

theorem trans {info₁ info₂ info₃ : RelayInfo} (h : SameFunding info₁ info₂)
    (h' : SameFunding info₂ info₃) : SameFunding info₁ info₃ where
  requestId := h'.requestId.trans h.requestId
  userId := h'.userId.trans h.userId
  billingSource := h'.billingSource.trans h.billingSource
  subscriptionId := h'.subscriptionId.trans h.subscriptionId
  finalPreConsumedQuota := h'.finalPreConsumedQuota.trans h.finalPreConsumedQuota

theorem fundingAccount (h : SameFunding info info') :
    info'.fundingAccount = info.fundingAccount := by
  rw [RelayInfo.fundingAccount, RelayInfo.fundingAccount, h.billingSource,
    h.subscriptionId, h.userId]

end SameFunding

structure OpenFor (info : RelayInfo) (b : BillingSession) : Prop where
  settled : b.settled = false
  fundingSettled : b.fundingSettled = false
  account : b.funding.account = info.fundingAccount

/-- `t` are the tables the payment was taken from. -/
structure PaidSession (info : RelayInfo) (b : BillingSession) (t s : Store) : Prop
    extends OpenFor info b where
  ledger : s.ledger info.fundingAccount = t.ledger info.fundingAccount - b.preConsumedQuota

theorem PaidSession.of_sameFunding {t s : Store} (h : PaidSession info b t s)
    (hsame : SameFunding info info') :
    PaidSession info' b t s where
  settled := h.settled
  fundingSettled := h.fundingSettled
  account := h.account.trans hsame.fundingAccount.symm
  ledger := by rw [hsame.fundingAccount]; exact h.ledger

theorem Opened.paid {env : BillingEnv} {f : OpenFaults} {q : ℤ} {s s' : Store}
    (hids : ∀ id ∈ s.subs, 0 < id) (hq : 0 ≤ q) (h : Opened env info f q s s' info' b) :
    ∃ t, DueResets env.calendar f.subscription.now s t ∧ PaidSession info' b t s' := by
  rcases h with ⟨hopen, hfunding, -, hledger, -⟩ |
    ⟨t, id, sub, funding, hopen, -, hfunding, -, hsid, -, -, hdue, hsub, -, -, -, hledger⟩
  · refine ⟨s, DueResets.refl _ _ s, ?_⟩
    -- From the wallet: a trusted session has paid 0, any other one the quota.
    generalize hn : (if b.trusted = true then (0 : ℤ) else q) = n at hopen hfunding hledger
    have hn0 : 0 ≤ n := by
      rw [← hn]
      split_ifs
      · exact le_rfl
      · exact hq
    obtain ⟨huser, -, -, -, hsource, -⟩ := hopen.frame
    have haccount : info'.fundingAccount = .wallet info.userId := by
      rw [fundingAccount, hsource, hfunding, huser, if_neg]
      rintro ⟨h, -⟩
      cases h
    refine ⟨⟨hopen.settled, hopen.fundingSettled, ?_⟩, ?_⟩
    · rw [haccount, hfunding]
      rfl
    · rw [haccount, hledger, Pi.add_apply, charge_self (by simp), max_eq_left hn0,
        hopen.preConsumedQuota, sub_eq_add_neg]
  refine ⟨t, hdue, ?_⟩
  -- From a subscription: what is due is reset first, and the charge counts from there.
  subst hsid
  obtain ⟨_, hinfo⟩ := hopen.info
  obtain ⟨-, -, -, -, hsource, -⟩ := hopen.frame
  have hpos : 0 < funding.subscriptionId := hids _ (hdue.mem_of_lookup hsub)
  have hid : info'.subscriptionId = funding.subscriptionId := by
    rw [hinfo, BillingSession.syncRelayInfo, hfunding]
  have haccount : info'.fundingAccount = .subscription funding.subscriptionId := by
    rw [fundingAccount, hsource, hfunding, hid, if_pos ⟨rfl, hpos⟩]
  refine ⟨⟨hopen.settled, hopen.fundingSettled, ?_⟩, ?_⟩
  · rw [haccount, hfunding]
    rfl
  · rw [haccount, hledger, Pi.add_apply, charge_self (by simp),
      hopen.preConsumedQuota, sub_eq_add_neg]

/-! ### Attempts -/

section Attempt

variable {env : BillingEnv} {settings : PriceSettings}

theorem priceTask_sameFunding (info : RelayInfo) (a : SubmitAttempt) :
    SameFunding info (priceTask env settings info a).1 := by
  unfold priceTask
  cases a.invalid with
  | some => exact ⟨rfl, rfl, rfl, rfl, rfl⟩
  | none =>
    unfold modelPriceHelperPerCall
    dsimp only
    cases perCallPrice settings _ with
    | error | ok => exact ⟨rfl, rfl, rfl, rfl, rfl⟩

/-- The request id is new, ids count from 1, the price is not negative, and no rollback fails. -/
def Submission.Admits (env : BillingEnv) (settings : PriceSettings) (st : Submission)
    (a : SubmitAttempt) : Prop :=
  st.billing.isNone → st.store.records.lookup st.info.requestId = none ∧
    (∀ id ∈ st.store.subs.keys, 0 < id) ∧
    (∀ p ∈ (priceTask env settings st.info a).2.toOption, 0 ≤ p.quota) ∧
    a.opening.wallet.rollback = none ∧ a.opening.subscription.rollback = none

instance (env : BillingEnv) (settings : PriceSettings) (st : Submission) (a : SubmitAttempt) :
    Decidable (st.Admits env settings a) := by
  unfold Submission.Admits
  infer_instance

inductive SubmitOutcome (env : BillingEnv) (st : Submission) (a : SubmitAttempt) : Submission → Prop
  | kept {info : RelayInfo} (same : SameFunding st.info info) :
    SubmitOutcome env st a ⟨st.billing, info, st.store⟩
  | opened {info : RelayInfo} {session : BillingSession} {t store : Store} (new : st.billing = none)
      (due : DueResets env.calendar a.opening.subscription.now st.store t)
      (paid : PaidSession info session t store) : SubmitOutcome env st a ⟨some session, info, store⟩

theorem SubmitOutcome.of_sameFunding {st' : Submission} (h : SubmitOutcome env st a st')
    (hsame : SameFunding st'.info info) : SubmitOutcome env st a { st' with info } := by
  cases h with
  | kept same => exact .kept (same.trans hsame)
  | opened new due paid => exact .opened new due (paid.of_sameFunding hsame)

theorem preConsumeBilling_outcome {q : ℤ} (hnew : st.billing = none)
    (hsame : SameFunding st.info info) (hfresh : st.store.records.lookup st.info.requestId = none)
    (hids : ∀ id ∈ st.store.subs.keys, 0 < id)
    (hquota : 0 ≤ q) (hwallet : a.opening.wallet.rollback = none)
    (hsub : a.opening.subscription.rollback = none) :
    SubmitOutcome env st a (preConsumeBilling env { st with info } a.opening q).1 := by
  have hfresh' : st.store.records.lookup info.requestId = none := by
    rw [hsame.requestId]
    exact hfresh
  have hspec : OpenPost info st.store (Opened env info a.opening q st.store)
      (newBillingSession env info st.store a.opening q) :=
    newBillingSession_spec hfresh' hwallet hsub
  unfold preConsumeBilling
  generalize newBillingSession env info st.store a.opening q = r at hspec ⊢
  obtain ⟨_, _, e | _⟩ := r
  · -- A refusal has changed nothing, so a later attempt may pre-consume.
    obtain ⟨rfl, _, rfl⟩ := openPost_error.mp hspec
    exact .kept (hsame.trans ⟨rfl, rfl, rfl, rfl, rfl⟩)
  · have hids' : ∀ id ∈ st.store.subs, 0 < id := fun id hid => hids id (AList.mem_keys.mp hid)
    obtain ⟨t, hdue, hpaid⟩ := Opened.paid hids' hquota (openPost_ok.mp hspec)
    exact .opened hnew hdue hpaid

theorem preConsumeTask_outcome (hsame : SameFunding st.info info)
    (hadmits : st.billing.isNone → st.store.records.lookup st.info.requestId = none ∧
      (∀ id ∈ st.store.subs.keys, 0 < id) ∧ 0 ≤ info.priceData.quota ∧
      a.opening.wallet.rollback = none ∧ a.opening.subscription.rollback = none) :
    SubmitOutcome env st a (preConsumeTask env { st with info } a.opening).1 := by
  unfold preConsumeTask
  split_ifs with hnew
  · rw [Bool.and_eq_true] at hnew
    obtain ⟨hfresh, hids, hquota, hwallet, hsub⟩ := hadmits hnew.1
    have hforced : SameFunding st.info { info with forcePreConsume := true } :=
      hsame.trans ⟨rfl, rfl, rfl, rfl, rfl⟩
    exact preConsumeBilling_outcome (Option.isNone_iff_eq_none.mp hnew.1) hforced hfresh hids
      hquota hwallet hsub
  · exact .kept hsame

/-- **One attempt.** -/
theorem relayTaskSubmit_outcome (hadmits : st.Admits env settings a) :
    SubmitOutcome env st a (relayTaskSubmit env settings st a).1 := by
  have hsame : SameFunding st.info (priceTask env settings st.info a).1 :=
    priceTask_sameFunding st.info a
  unfold Submission.Admits at hadmits
  unfold relayTaskSubmit
  generalize priceTask env settings st.info a = priced at hsame hadmits ⊢
  obtain ⟨info, e | p⟩ := priced
  · exact .kept hsame
  have hpriced : SameFunding st.info { info with priceData := p } :=
    hsame.trans ⟨rfl, rfl, rfl, rfl, rfl⟩
  have hpaid : SubmitOutcome env st a
      (preConsumeTask env { st with info := { info with priceData := p } } a.opening).1 := by
    apply preConsumeTask_outcome hpriced
    intro hnone
    obtain ⟨hfresh, hids, hquota, hroll⟩ := hadmits hnone
    exact ⟨hfresh, hids, hquota p rfl, hroll⟩
  dsimp only
  generalize preConsumeTask env { st with info := { info with priceData := p } } a.opening = r
    at hpaid ⊢
  obtain ⟨_, _ | e⟩ := r
  · cases a.reply with
    | error => exact hpaid
    | ok => exact hpaid.of_sameFunding ⟨rfl, rfl, rfl, rfl, rfl⟩
  · exact hpaid

end Attempt

/-! ### Storing the task -/

theorem OpenFor.subscriptionId_pos (h : OpenFor info b) (f : SubscriptionFunding)
    (hf : b.funding = .subscription f) : 0 < f.subscriptionId := by
  have haccount := h.account
  rw [hf, fundingAccount] at haccount
  split_ifs at haccount with hsub
  · rw [Account.subscription.inj haccount]
    exact hsub.2
  · cases haccount

def Submission.preConsumed (st : Submission) : ℤ :=
  match st.billing with
  | some b => b.preConsumedQuota
  | none => 0

def Submission.Settles (st : Submission) (actualQuota : ℤ) : Prop :=
  match st.billing with
  | some b =>
    actualQuota = b.preConsumedQuota ∨ b.funding.Accepts st.store
      (actualQuota - b.preConsumedQuota) ∧
      b.funding.Uncut st.store (actualQuota - b.preConsumedQuota)
  | none => True

instance (st : Submission) (actualQuota : ℤ) : Decidable (st.Settles actualQuota) :=
  match h : st.billing with
  | some b =>
    decidable_of_iff (actualQuota = b.preConsumedQuota ∨
      b.funding.Accepts st.store (actualQuota - b.preConsumedQuota) ∧
      b.funding.Uncut st.store (actualQuota - b.preConsumedQuota)) (by rw [Submission.Settles, h])
  | none => decidable_of_iff True (by rw [Submission.Settles, h])

/-- Its session is open, or it has none because the model is free. -/
def Submission.Ready (st : Submission) : Prop :=
  match st.billing with
  | some b => OpenFor st.info b
  | none => st.info.billingSource = .unset ∧ st.info.finalPreConsumedQuota = 0

theorem Submission.Ready.of_sameFunding (h : st.Ready) (hsame : SameFunding st.info info) :
    ({ st with info } : Submission).Ready := by
  obtain ⟨billing, info₀, s⟩ := st
  cases billing with
  | some b =>
    have hopen : OpenFor info₀ b := h
    exact { hopen with account := hopen.account.trans hsame.fundingAccount.symm }
  | none => exact ⟨hsame.billingSource.trans h.1, hsame.finalPreConsumedQuota.trans h.2⟩

theorem settleBilling_ledger {actualQuota : ℤ} (hready : st.Ready)
    (hsettles : st.Settles actualQuota) :
    SameFunding st.info (settleBilling st.billing st.info st.store {} actualQuota).1.2.1 ∧
      (settleBilling st.billing st.info st.store {} actualQuota).1.2.2.ledger st.info.fundingAccount
        = st.store.ledger st.info.fundingAccount - (actualQuota - st.preConsumed) := by
  obtain ⟨billing, info, s⟩ := st
  cases billing with
  | some b =>
    have hopen : OpenFor info b := hready
    obtain ⟨_, hinfo⟩ := settle_info ⟨b, info, s⟩ {} actualQuota
    have hledger := settle_of_accepts (b := ⟨b, info, s⟩) hopen.settled
      hopen.fundingSettled hopen.subscriptionId_pos hsettles
    constructor
    · show SameFunding info (settle ⟨b, info, s⟩ {} actualQuota).1.info
      rw [hinfo]
      exact ⟨rfl, rfl, rfl, rfl, rfl⟩
    · show (settle ⟨b, info, s⟩ {} actualQuota).1.store.ledger info.fundingAccount = _
      rw [hledger, Pi.add_apply, ← hopen.account,
        charge_self b.funding.account_ne_token, ← sub_eq_add_neg]
      rfl
  | none =>
    -- No session was opened, so nothing is pre-consumed and the wallet pays the whole quota now.
    obtain ⟨hsource, hzero⟩ : info.billingSource = .unset ∧ info.finalPreConsumedQuota = 0 := hready
    have haccount : info.fundingAccount = .wallet info.userId := by
      rw [RelayInfo.fundingAccount, hsource, if_neg]
      rintro ⟨h, -⟩
      cases h
    have hsubscription : info.billingSource ≠ .subscription := by
      rw [hsource]
      exact BillingSource.noConfusion
    obtain ⟨s', hpost, hledger, -⟩ := postConsumeQuota_wallet hsubscription s actualQuota
    unfold settleBilling
    dsimp only [Submission.preConsumed]
    rw [hzero, sub_zero, haccount]
    by_cases hquota : actualQuota = 0
    · rw [if_neg (by simp [hquota]), hquota, sub_zero]
      exact ⟨SameFunding.refl info, rfl⟩
    · rw [if_pos hquota, hpost]
      refine ⟨SameFunding.refl info, ?_⟩
      rw [hledger, Pi.add_apply, charge_self (by simp), sub_eq_add_neg]

theorem logTaskConsumption_ledger (s : Store) (info info' : RelayInfo) :
    (logTaskConsumption s info).ledger info'.fundingAccount = s.ledger info'.fundingAccount := by
  have hne : info'.fundingAccount ≠ .userUsed info.userId := by
    unfold fundingAccount
    split_ifs <;> simp
  unfold logTaskConsumption
  rw [(updateChannelUsedQuota_spec _ _ _ _).1, (updateUserUsedQuotaAndRequestCount_spec _ _ _).1,
    Pi.add_apply, Pi.single_eq_of_ne hne, add_zero, ledger_recordLog]

/-- A settlement that succeeds has taken the quota the task is stored with. -/
theorem storeTask_ledger (settings : PriceSettings) {result : TaskSubmitResult}
    (taskId : String) (now : ℤ) (hready : st.Ready) (hsettles : st.Settles result.quota) :
    (storeTask settings st result taskId now).2.fundingAccount = st.info.fundingAccount ∧
      (storeTask settings st result taskId now).2.quota = result.quota ∧
      (storeTask settings st result taskId now).1.store.ledger st.info.fundingAccount
        = st.store.ledger st.info.fundingAccount - (result.quota - st.preConsumed) := by
  obtain ⟨hsame, hledger⟩ := settleBilling_ledger hready hsettles
  refine ⟨?_, rfl, ?_⟩
  · rw [← hsame.fundingAccount]
    unfold storeTask Task.fundingAccount Task.isSubscription fundingAccount
    simp [initTask]
  · rw [← hledger]
    exact logTaskConsumption_ledger _ _ st.info

/-! ### The whole life -/

namespace TaskLife

/-- `t` are the tables its quota was pre-consumed from. -/
def taken (r : TaskLife) (t : Store) (a : Account) : ℤ :=
  (match r.opening with
    | some opening => t.ledger a - opening.after.ledger a
    | none => 0) - r.posted a

def OpenedFrom (cal : Calendar) (r : TaskLife) (t : Store) : Prop :=
  ∀ opening ∈ r.opening, DueResets cal opening.now opening.before t

/-- The funding source has paid the quota until the refund, and nothing afterwards. -/
def NetCharge (cal : Calendar) (r : TaskLife) : Prop :=
  ∀ task refunded, r.phase = .stored task refunded →
    ∃ t, r.OpenedFrom cal t ∧ r.taken t task.fundingAccount = if refunded then 0 else task.quota

/-- The settlement and the refund are not refused, and no adjustment gives back more than was used.
The refund is the last of them. -/
def InFull (env : BillingEnv) (settings : PriceSettings) (r : TaskLife) : TaskLifeEvent → Prop
  | .attempt a => r.submission.Admits env settings a
  | .store _ _ =>
    match r.phase with
    | .accepted result => r.submission.Settles result.quota
    | _ => True
  | .recalculate actualQuota =>
    match r.phase with
    | .stored task refunded =>
      refunded = false ∧ (0 < actualQuota →
        task.Uncut r.submission.store (actualQuota - task.quota))
    | _ => True
  | .refund =>
    match r.phase with
    | .stored task refunded =>
      refunded = false ∧ (task.quota ≠ 0 → task.Accepts r.submission.store (-task.quota) ∧
        task.Uncut r.submission.store (-task.quota))
    | _ => True
  | .others _ => True

instance (env : BillingEnv) (settings : PriceSettings) (r : TaskLife) (e : TaskLifeEvent) :
    Decidable (r.InFull env settings e) := by
  cases e <;> unfold InFull <;> first | infer_instance | (dsimp only; split <;> infer_instance)

/-- What was taken is the quota of the task, or what is pre-consumed for it. -/
def Inv (cal : Calendar) (r : TaskLife) : Prop :=
  match r.phase with
  | .stored task refunded =>
    ∃ t, r.OpenedFrom cal t ∧ r.taken t task.fundingAccount = if refunded then 0 else task.quota
  | _ => r.submission.Ready ∧ r.posted = 0 ∧
    ∃ t, r.OpenedFrom cal t ∧ r.taken t r.submission.info.fundingAccount = r.submission.preConsumed

variable {env : BillingEnv} {settings : PriceSettings}

theorem Inv.attempt (hphase : r.phase = .submitting) (h : r.Inv env.calendar)
    (hadmits : r.submission.Admits env settings a) :
    (r.step env settings (.attempt a)).Inv env.calendar := by
  obtain ⟨st, phase, opening, posted⟩ := r
  obtain rfl : phase = .submitting := hphase
  obtain ⟨hready, hposted, t, hfrom, htaken⟩ := h
  have hout := relayTaskSubmit_outcome hadmits
  unfold step
  dsimp only at hout hposted ⊢
  generalize relayTaskSubmit env settings st a = submitted at hout ⊢
  obtain ⟨st', result⟩ := submitted
  -- An accepted attempt leaves the same behind as a failed one.
  suffices hpaid : Inv env.calendar ⟨st', .submitting,
      if st.billing.isNone && st'.billing.isSome then
        some ⟨a.opening.subscription.now, st.store, st'.store⟩
      else opening, posted⟩ by
    cases result with
    | ok | error => exact hpaid
  cases hout with
  | kept same =>
    have hsession : (st.billing.isNone && st.billing.isSome) = false := by
      cases st.billing <;> rfl
    simp only [hsession, Bool.false_eq_true, if_false]
    refine ⟨hready.of_sameFunding same, hposted, t, hfrom, ?_⟩
    rw [same.fundingAccount]
    exact htaken
  | @opened info session t' store new due paid =>
    simp only [new, Option.isNone_none, Option.isSome_some, Bool.and_self, if_true]
    refine ⟨paid.toOpenFor, hposted, t', ?_, ?_⟩
    · rintro opening ⟨⟩
      exact due
    show t'.ledger info.fundingAccount - store.ledger info.fundingAccount
      - posted info.fundingAccount = session.preConsumedQuota
    rw [paid.ledger, hposted, Pi.zero_apply]
    omega

variable {cal : Calendar} {task : Task}

theorem Inv.post {refunded : Bool} {t : Store} (hfrom : r.OpenedFrom cal t)
    (htaken : r.taken t task.fundingAccount +
      (r.submission.store.ledger task.fundingAccount - st.store.ledger task.fundingAccount) =
      if refunded then 0 else task.quota) :
    (r.post st task refunded).Inv cal := by
  refine ⟨t, hfrom, ?_⟩
  rw [← htaken]
  unfold taken TaskLife.post
  dsimp only
  rw [Pi.add_apply, Pi.sub_apply]
  omega

theorem Inv.store {result : TaskSubmitResult} {taskId : String} {now : ℤ}
    (hphase : r.phase = .accepted result)
    (h : r.Inv env.calendar) (hsettles : r.submission.Settles result.quota) :
    (r.step env settings (.store taskId now)).Inv env.calendar := by
  unfold Inv at h
  unfold step
  simp only [hphase] at h ⊢
  obtain ⟨hready, -, t, hfrom, htaken⟩ := h
  obtain ⟨haccount, hquota, hledger⟩ := storeTask_ledger settings taskId now hready hsettles
  apply Inv.post hfrom
  rw [haccount, htaken, hledger, hquota, if_neg Bool.false_ne_true]
  omega

theorem Inv.recalculate {actualQuota : ℤ} (hphase : r.phase = .stored task false) (h : r.Inv cal)
    (hcut : 0 < actualQuota → task.Uncut r.submission.store (actualQuota - task.quota)) :
    (r.step env settings (.recalculate actualQuota)).Inv cal := by
  unfold Inv at h
  unfold step
  simp only [hphase] at h ⊢
  obtain ⟨t, hfrom, htaken⟩ := h
  obtain ⟨haccount, hledger⟩ := recalculateTaskQuota_ledger hcut
  apply Inv.post hfrom
  rw [haccount, htaken, hledger, if_neg Bool.false_ne_true, if_neg Bool.false_ne_true]
  omega

theorem Inv.refund (hphase : r.phase = .stored task false) (h : r.Inv cal)
    (htakes : task.quota ≠ 0 → task.Accepts r.submission.store (-task.quota) ∧
      task.Uncut r.submission.store (-task.quota)) :
    (r.step env settings .refund).Inv cal := by
  unfold Inv at h
  unfold step
  simp only [hphase] at h ⊢
  obtain ⟨t, hfrom, htaken⟩ := h
  apply Inv.post hfrom
  rw [htaken, refundTaskQuota_ledger htakes, if_neg Bool.false_ne_true, if_pos rfl]
  omega

/-- **One event**, if it is paid in full. -/
theorem Inv.step (r : TaskLife) (e : TaskLifeEvent) (h : r.Inv env.calendar)
    (hfull : r.InFull env settings e) : (r.step env settings e).Inv env.calendar := by
  cases e with
  | attempt =>
    cases hphase : r.phase with
    | submitting => exact h.attempt hphase hfull
    -- A step that does not fit the phase leaves the run as it is; likewise below.
    | accepted result | stored task refunded => rwa [TaskLife.step, hphase]
  | store =>
    unfold InFull at hfull
    cases hphase : r.phase with
    | submitting | stored => rwa [TaskLife.step, hphase]
    | accepted =>
      rw [hphase] at hfull
      exact h.store hphase hfull
  | recalculate =>
    unfold InFull at hfull
    cases hphase : r.phase with
    | submitting | accepted => rwa [TaskLife.step, hphase]
    | stored =>
      rw [hphase] at hfull
      obtain ⟨rfl, hcut⟩ := hfull
      exact h.recalculate hphase hcut
  | refund =>
    unfold InFull at hfull
    cases hphase : r.phase with
    | submitting | accepted => rwa [TaskLife.step, hphase]
    | stored =>
      rw [hphase] at hfull
      obtain ⟨rfl, htakes⟩ := hfull
      exact h.refund hphase htakes
  | others => exact h

theorem Inv.netCharge (h : r.Inv cal) : r.NetCharge cal := by
  intro task refunded hphase
  unfold Inv at h
  rwa [hphase] at h

end TaskLife

/-- **The quota of a task is what was taken for it** until its refund, as long as the funding source
takes each adjustment in full. -/
theorem taskLife_netCharge {env : BillingEnv} {settings : PriceSettings} {info : RelayInfo}
    {s : Store} {es : List TaskLifeEvent} (hsource : info.billingSource = .unset)
    (hzero : info.finalPreConsumedQuota = 0)
    (hes : Guarded (step env settings) (TaskLife.InFull env settings)
      { submission := { info, store := s } } es) :
    (es.foldl (step env settings)
      { submission := { info, store := s } }).NetCharge env.calendar := by
  have hnew : TaskLife.Inv env.calendar { submission := { info, store := s } } := by
    refine ⟨⟨hsource, hzero⟩, rfl, s, ?_, ?_⟩
    · rintro _ ⟨⟩
    · rfl
  exact (Guarded.invariant TaskLife.Inv.step hnew hes).netCharge

def SubmitAttempt.sample (reply : Except Err SubmitReply) : SubmitAttempt :=
  { channelId := 1, platform := .video "1", modelName := "m", reply }

/-- A second attempt, which channel 2 accepts. -/
def SubmitAttempt.retried : SubmitAttempt :=
  { SubmitAttempt.sample (.ok { upstreamTaskId := "u" }) with channelId := 2 }

/-- Channel 2 has a ratio of its own, which takes the place of that of the group. -/
def PriceSettings.ratioOfTwo (ratio : ℚ) : PriceSettings :=
  { PriceSettings.sample with getChannelRatio := fun id => if id = 2 then some ratio else none }

def TaskLife.sample : TaskLife :=
  { submission := { info := .sample "subscription_only", store := .sample } }

theorem taskLife_netCharge_of_retry : TaskLife.NetCharge standard.calendar
      ([.attempt (.sample (.error "fail_to_fetch_task")), .attempt .retried, .store "task" 100,
        .recalculate 40, .refund].foldl (step .standard (.ratioOfTwo 3)) sample) :=
  taskLife_netCharge rfl rfl (by decide +kernel)

def TaskLife.checkStored (p : TaskOpening → Task → Bool → Bool) (r : TaskLife) : Bool :=
  match r.opening, r.phase with
  | some opening, .stored task refunded => p opening task refunded
  | _, _ => false

theorem TaskLife.exists_of_checkStored {p : TaskOpening → Task → Bool → Bool}
    (h : r.checkStored p = true) :
    ∃ opening task refunded, r.opening = some opening ∧ r.phase = .stored task refunded ∧
      p opening task refunded = true := by
  unfold checkStored at h
  split at h
  · rename_i opening task refunded hopening hphase
    exact ⟨opening, task, refunded, hopening, hphase, h⟩
  · cases h

/-- The attempt on channel 1 pre-consumes 10 and fails; channel 2 accepts the task at 20 times the
price.  The subscription, which has 70 left, refuses the settlement of 190. -/
theorem storeTask_quota_not_taken : ¬TaskLife.NetCharge standard.calendar
      ([.attempt (.sample (.error "fail_to_fetch_task")), .attempt .retried,
        .store "task" 100].foldl (step .standard (.ratioOfTwo 20)) sample) := by
  generalize hr : List.foldl (step .standard (.ratioOfTwo 20)) sample _ = r
  have hcheck : r.checkStored (fun opening task refunded =>
      refunded = false ∧ task.quota = 200 ∧ task.fundingAccount = .subscription 3 ∧
        opening.before.amountUsed 3 = 20 ∧ opening.after.amountUsed 3 = 30 ∧
        r.posted (.subscription 3) = 0 ∧
        ∀ sub ∈ opening.before.subs.lookup (3 : ℤ), ∀ plan ∈ opening.before.plans sub.planId,
          dueReset standard.calendar sub plan opening.now = none) = true := by
    rw [← hr]
    decide +kernel
  obtain ⟨opening, task, refunded, hopening, hphase, hp⟩ := exists_of_checkStored hcheck
  obtain ⟨rfl, hquota, haccount, hbefore, hafter, hposted, hnot⟩ := of_decide_eq_true hp
  intro h
  obtain ⟨t, hfrom, htaken⟩ := h task false hphase
  have hused : t.amountUsed 3 = 20 :=
    ((hfrom opening hopening).amountUsed_eq hnot).trans hbefore
  rw [taken, hopening, haccount, hposted, hquota] at htaken
  simp only [ledger, hused, hafter, Bool.false_eq_true, if_false] at htaken
  omega

end TokensFlux
