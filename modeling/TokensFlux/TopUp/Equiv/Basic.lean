import TokensFlux.Lib.Guarded
import TokensFlux.TopUp.Basic
import TokensFlux.Subscription.Equiv.Basic

/-!
# Top-up orders are credited once

An order is `unpaid`, then perhaps `claimed` by a process that has not credited its user yet, and
finally `credited`. Where the processes are `TopUpRun.Safe` they simulate this.
-/

namespace TokensFlux

open Store TopUpStore Except

/-! ### The transactions -/

namespace TopUpStore

variable {env : TopUpEnv} {s s' : TopUpStore} {f : TopUpFaults} {tradeNo : String}
  {credit : Option Credit}

/-- Nothing, or both halves of it. -/
def Fulfils (s s' : TopUpStore) (tradeNo : String) : Option Credit → Prop
  | none => s' = s
  | some credit => ∃ topUp topUp', s.topUps.lookup tradeNo = some topUp ∧
      topUp.status = .pending ∧ topUp'.status = .success ∧
      s'.topUps = s.topUps.insert tradeNo topUp' ∧
      s'.billing.ledger = s.billing.ledger + Pi.single (.wallet credit.userId) credit.quota

theorem lockTopUp_ok {notFound : Err} {topUp : TopUp}
    (h : s.lockTopUp f tradeNo notFound = .ok topUp) : s.topUps.lookup tradeNo = some topUp := by
  unfold lockTopUp at h
  split at h
  · cases h
  · rename_i hlookup
    rw [hlookup, ok.inj h]
  · cases h

theorem saveTopUp_ok {fault : Option Err} {topUp : TopUp}
    (h : s.saveTopUp fault tradeNo topUp = .ok s') :
    s' = { s with topUps := s.topUps.insert tradeNo topUp } := by
  unfold saveTopUp at h
  split at h
  · cases h
  · exact (ok.inj h).symm

theorem completeTopUp_ok {t : TopUpStore} {topUp : TopUp} {quota : ℤ}
    (hlookup : s.topUps.lookup tradeNo = some topUp) (hpending : topUp.status = .pending)
    (h : t.completeTopUp f tradeNo topUp quota = .ok (s', credit))
    (hbilling : t.billing = s.billing) (htopUps : t.topUps = s.topUps) :
    Fulfils s s' tradeNo credit := by
  unfold completeTopUp at h
  split at h
  · cases h
  rename_i t' hsave
  obtain rfl := saveTopUp_ok hsave
  split at h
  · cases h
  rename_i billing hupdate
  have hledger := (addUserQuota_spec hupdate).1
  obtain ⟨rfl, rfl⟩ := Prod.mk.inj (ok.inj (commitTx_ok h).2)
  refine ⟨topUp, { topUp with completeTime := f.now, status := .success }, hlookup,
    hpending, rfl, ?_, ?_⟩
  · rw [← htopUps]
  · rw [← hbilling]
    exact hledger

theorem orFailed_ok {r : Except Err (TopUpStore × Option Credit)} {a : TopUpStore × Option Credit}
    (h : orFailed r = .ok a) : r = .ok a := by
  cases r with
  | error => cases h
  | ok => exact h

theorem commitTx_noop
    (h : commitTx f.commit (.ok (s, none)) = .ok (s', credit)) : Fulfils s s' tradeNo credit := by
  obtain ⟨rfl, rfl⟩ := Prod.mk.inj (ok.inj (commitTx_ok h).2)
  exact rfl

theorem recharge_ok {customerId : String}
    (h : s.recharge env f tradeNo customerId = .ok (s', credit)) : Fulfils s s' tradeNo credit := by
  unfold recharge at h
  split_ifs at h
  have h := orFailed_ok h
  split at h
  · cases h
  rename_i topUp hlock
  split_ifs at h with hprovider hpending
  exact completeTopUp_ok (lockTopUp_ok hlock) (not_not.mp hpending) h rfl rfl

theorem rechargeCreem_ok {customerEmail : String}
    (h : s.rechargeCreem f tradeNo customerEmail = .ok (s', credit)) :
    Fulfils s s' tradeNo credit := by
  unfold rechargeCreem at h
  by_cases htradeNo : tradeNo = ""
  · rw [if_pos htradeNo] at h
    cases h
  rw [if_neg htradeNo] at h
  have h := orFailed_ok h
  split at h
  · cases h
  rename_i topUp hlock
  have hlookup := lockTopUp_ok hlock
  split_ifs at h with hprovider hpending
  · exact completeTopUp_ok hlookup (not_not.mp hpending) h rfl rfl
  -- An empty address in the row and one that is kept are the same here.
  all_goals
    split at h
    · cases h
    · exact completeTopUp_ok hlookup (not_not.mp hpending) h rfl rfl

theorem rechargeByAmount_ok {provider : PaymentProvider}
    (h : rechargeByAmount env provider s f tradeNo = .ok (s', credit)) :
    Fulfils s s' tradeNo credit := by
  unfold rechargeByAmount at h
  split_ifs at h
  have h := orFailed_ok h
  split at h
  · cases h
  rename_i topUp hlock
  split_ifs at h with hprovider hsuccess hpending hquota
  · exact commitTx_noop h
  · exact completeTopUp_ok (lockTopUp_ok hlock) (not_not.mp hpending) h rfl rfl

theorem manualCompleteTopUp_ok
    (h : s.manualCompleteTopUp env f tradeNo = .ok (s', credit)) : Fulfils s s' tradeNo credit := by
  unfold manualCompleteTopUp at h
  split_ifs at h
  split at h
  · cases h
  rename_i topUp hlock
  by_cases hsuccess : topUp.status = .success
  · rw [if_pos hsuccess] at h
    exact commitTx_noop h
  rw [if_neg hsuccess] at h
  by_cases hpending : topUp.status ≠ .pending
  · rw [if_pos hpending] at h
    cases h
  · dsimp only at h
    split_ifs at h <;>
      exact completeTopUp_ok (lockTopUp_ok hlock) (not_not.mp hpending) h rfl rfl

/-- **A fulfilment in a transaction does both halves or nothing**, whichever statement fails. -/
theorem fulfilment_ok {how : Fulfilment}
    (h : how.run env s f tradeNo = .ok (s', credit)) : Fulfils s s' tradeNo credit := by
  cases how with
  | recharge => exact recharge_ok h
  | rechargeCreem => exact rechargeCreem_ok h
  | rechargeWaffo | rechargeWaffoPancake => exact rechargeByAmount_ok h
  | manualCompleteTopUp => exact manualCompleteTopUp_ok h

theorem updatePendingTopUpStatus_ok {provider : PaymentProvider} {target : TopUpStatus}
    (h : s.updatePendingTopUpStatus f tradeNo provider target = .ok s') :
    ∃ topUp, s.topUps.lookup tradeNo = some topUp ∧ topUp.status = .pending ∧
      s' = { s with topUps := s.topUps.insert tradeNo { topUp with status := target } } := by
  unfold updatePendingTopUpStatus at h
  split_ifs at h
  split at h
  · cases h
  rename_i topUp hlock
  split_ifs at h with hprovider hpending
  have hsave := saveTopUp_ok (commitTx_ok h).2
  exact ⟨topUp, lockTopUp_ok hlock, not_not.mp hpending, hsave⟩

end TopUpStore

/-! ### What a step does -/

namespace TopUpRun

variable {P : Type} [DecidableEq P] {env : TopUpEnv}

variable (r : TopUpRun P) {p : P} {tradeNo : String} {phase : Option EpayPhase} {fault : Option Err}

def Crediting (p : P) (tradeNo : String) : Prop :=
  ∃ userId quotaToAdd, r.phase p tradeNo = some (.crediting userId quotaToAdd)

def creditsOf (tradeNo : String) : List TopUpPosting :=
  r.postings.filter (·.tradeNo = some tradeNo)

def postedTo (userId : ℤ) : ℤ :=
  ((r.postings.filter (·.credit.userId = userId)).map (·.credit.quota)).sum

/-- `EpayNotify` saves an order that is not paid already, and once it has done so the user is
credited. -/
def Safe : TopUpEvent P → Prop
  | .epaySave p tradeNo fault =>
    match r.phase p tradeNo, fault with
    | some (.saving _), none => (r.store.topUps.lookup tradeNo).map TopUp.status ≠ some .success
    | _, _ => True
  | .epayCredit p tradeNo fault =>
    match r.phase p tradeNo with
    | some (.crediting _ quotaToAdd) => fault = none ∧ 0 ≤ quotaToAdd
    | _ => True
  | _ => True

instance (r : TopUpRun P) (e : TopUpEvent P) : Decidable (r.Safe e) := by
  unfold Safe
  split
  · split <;> infer_instance
  · split <;> infer_instance
  · infer_instance

inductive Effect (r r' : TopUpRun P) : Prop
  | none (topUps : r'.store.topUps = r.store.topUps) (credits : ∀ tradeNo,
    r'.creditsOf tradeNo = r.creditsOf tradeNo)
      (crediting : ∀ p tradeNo, r'.Crediting p tradeNo ↔ r.Crediting p tradeNo)
  | claim (p : P) (tradeNo : String) (topUp : TopUp) (status : topUp.status = .success)
      (unpaid : (r.store.topUps.lookup tradeNo).map TopUp.status ≠ some .success)
      (topUps : r'.store.topUps = r.store.topUps.insert tradeNo topUp)
      (postings : r'.postings = r.postings)
      (crediting : ∀ p' tradeNo', r'.Crediting p' tradeNo' ↔ r.Crediting p' tradeNo' ∨ p' = p ∧
        tradeNo' = tradeNo)
  | pay (p : P) (tradeNo : String) (credit : Credit) (held : r.Crediting p tradeNo)
      (topUps : r'.store.topUps = r.store.topUps)
      (postings : r'.postings = r.postings ++ [⟨some tradeNo, credit⟩])
      (crediting : ∀ p' tradeNo', r'.Crediting p' tradeNo' ↔ r.Crediting p' tradeNo' ∧
        ¬(p' = p ∧ tradeNo' = tradeNo))
  | fulfil (tradeNo : String) (old new : TopUp) (credit : Credit)
      (lookup : r.store.topUps.lookup tradeNo = some old) (pending : old.status = .pending)
      (status : new.status = .success)
      (topUps : r'.store.topUps = r.store.topUps.insert tradeNo new)
      (postings : r'.postings = r.postings ++ [⟨some tradeNo, credit⟩])
      (phase : r'.phase = r.phase)
  | close (tradeNo : String) (old new : TopUp)
      (lookup : r.store.topUps.lookup tradeNo = some old) (pending : old.status = .pending)
      (status : new.status ≠ .success)
      (topUps : r'.store.topUps = r.store.topUps.insert tradeNo new)
      (postings : r'.postings = r.postings) (phase : r'.phase = r.phase)

theorem phase_setPhase (p p' : P) (tradeNo tradeNo' : String) (phase : Option EpayPhase) :
    (r.setPhase p tradeNo phase).phase p' tradeNo'
      = if p' = p ∧ tradeNo' = tradeNo then phase else r.phase p' tradeNo' := by
  unfold setPhase
  by_cases hp : p' = p
  · subst hp
    simp only [Function.update_self, true_and]
    exact Function.update_apply ..
  · simp [hp]

theorem crediting_setPhase_iff (p p' : P) (tradeNo tradeNo' : String) (phase : Option EpayPhase) :
    (r.setPhase p tradeNo phase).Crediting p' tradeNo' ↔
      if p' = p ∧ tradeNo' = tradeNo then ∃ userId quota, phase = some (.crediting userId quota)
      else r.Crediting p' tradeNo' := by
  unfold Crediting
  rw [phase_setPhase]
  split_ifs <;> rfl

theorem Effect.setPhase {r : TopUpRun P} (hr : ¬r.Crediting p tradeNo)
    (hphase : ∀ userId quota, phase ≠ some (.crediting userId quota)) :
    Effect r (r.setPhase p tradeNo phase) := by
  refine .none rfl (fun _ => rfl) ?_
  intro p' tradeNo'
  rw [crediting_setPhase_iff]
  split_ifs with h
  · obtain ⟨rfl, rfl⟩ := h
    constructor
    · rintro ⟨userId, quota, heq⟩
      exact absurd heq (hphase userId quota)
    · intro h
      exact absurd h hr
  · rfl

omit [DecidableEq P] in
theorem Effect.refl : Effect r r :=
  .none rfl (fun _ => rfl) fun _ _ => Iff.rfl

theorem epayRead_ne_crediting (s : TopUpStore) (fault : Option Err) (tradeNo type : String)
    (userId quota : ℤ) : s.epayRead fault tradeNo type ≠ some (.crediting userId quota) := by
  unfold epayRead
  split
  · split_ifs <;> simp
  · simp

omit [DecidableEq P] in
theorem not_crediting {r : TopUpRun P} (hphase : r.phase p tradeNo = phase)
    (hne : ∀ userId quota, phase ≠ some (.crediting userId quota)) : ¬r.Crediting p tradeNo := by
  rintro ⟨userId, quota, heq⟩
  rw [hphase] at heq
  exact hne userId quota heq

theorem epaySave_effect (h : r.Safe (.epaySave p tradeNo fault)) :
    Effect r (r.step env (.epaySave p tradeNo fault)) := by
  rw [step]
  unfold Safe at h
  split
  · rename_i topUp hphase
    cases fault with
    | some =>
      apply Effect.setPhase
      · exact not_crediting hphase (by simp)
      · simp
    | none =>
      simp only [hphase] at h
      refine .claim p tradeNo { topUp with status := .success } rfl h rfl rfl ?_
      intro p' tradeNo'
      show (setPhase _ p tradeNo (some (.crediting _ _))).Crediting p' tradeNo' ↔ _
      rw [crediting_setPhase_iff]
      by_cases hp : p' = p ∧ tradeNo' = tradeNo
      · rw [if_pos hp]
        exact iff_of_true ⟨_, _, rfl⟩ (Or.inr hp)
      · rw [if_neg hp, or_iff_left hp]
        rfl
  · exact .refl r

theorem epayCredit_effect (h : r.Safe (.epayCredit p tradeNo fault)) :
    Effect r (r.step env (.epayCredit p tradeNo fault)) := by
  rw [step]
  unfold Safe at h
  split
  · rename_i userId quota hphase
    simp only [hphase] at h
    obtain ⟨rfl, hquota⟩ := h
    obtain ⟨billing, hbilling⟩ : ∃ billing, r.store.billing.increaseUserQuota none userId quota
      true = .ok billing :=
      increaseUserQuota_isOk _ hquota true
    rw [hbilling]
    refine .pay p tradeNo ⟨userId, quota⟩ ⟨_, _, hphase⟩ rfl rfl ?_
    intro p' tradeNo'
    rw [crediting_setPhase_iff]
    by_cases hp : p' = p ∧ tradeNo' = tradeNo
    · simp [hp]
    · rw [if_neg hp, and_iff_left hp]
      rfl
  · exact .refl r

/-- **Every safe step has one of the effects.** -/
theorem step_effect {e : TopUpEvent P} (h : r.Safe e) : Effect r (r.step env e) := by
  cases e with
  | epayLock p tradeNo type =>
    rw [step]
    split
    · rename_i hphase
      apply Effect.setPhase
      · exact not_crediting hphase (by simp)
      · simp
    · exact .refl r
  | epayRead p tradeNo fault =>
    rw [step]
    split
    · rename_i type hphase
      apply Effect.setPhase
      · exact not_crediting hphase (by simp)
      · exact epayRead_ne_crediting _ _ _ _
    · exact .refl r
  | epaySave => exact epaySave_effect r h
  | epayCredit => exact epayCredit_effect r h
  | fulfil p tradeNo how f =>
    rw [step]
    split
    · rename_i result hphase hrun
      obtain ⟨store, credit⟩ := result
      have hfulfils := fulfilment_ok hrun
      cases credit with
      | none =>
        -- The order is paid already: the handler reports success and changes nothing.
        obtain rfl : store = r.store := hfulfils
        exact .refl r
      | some credit =>
        obtain ⟨old, new, hlookup, hpending, hstatus, htopUps, -⟩ := hfulfils
        exact .fulfil tradeNo old new credit hlookup hpending hstatus htopUps rfl rfl
    · exact .refl r
  | close p tradeNo locks provider closing f =>
    rw [step]
    split_ifs
    · exact .refl r
    split
    · exact .refl r
    rename_i store hclose
    obtain ⟨old, hlookup, hpending, rfl⟩ := updatePendingTopUpStatus_ok hclose
    refine .close tradeNo old _ hlookup hpending ?_ rfl rfl rfl
    cases closing <;> simp [Closing.targetStatus]
  | other =>
    refine .none rfl ?_ fun _ _ => Iff.rfl
    intro tradeNo
    simp [step, addUserQuota, creditsOf]

/-! ### The abstract order -/

end TopUpRun

inductive OrderStage (P : Type)
  | unpaid
  | claimed (p : P)
  | credited

namespace OrderStage

variable {P : Type}

def payments : OrderStage P → ℕ
  | credited => 1
  | _ => 0

/-- An order is paid once, in one step or in two. -/
inductive Next : OrderStage P → OrderStage P → Prop
  | stay (stage) : Next stage stage
  | claim (p) : Next unpaid (claimed p)
  | pay (p) : Next (claimed p) credited
  | fulfil : Next unpaid credited

theorem payments_le_one (stage : OrderStage P) : stage.payments ≤ 1 := by
  cases stage <;> simp [payments]

end OrderStage

namespace TopUpRun

variable {P : Type} {env : TopUpEnv} {r₀ r r' : TopUpRun P} {tradeNo : String}
  {stage : OrderStage P} {credit : Credit}

structure Stands (r : TopUpRun P) (tradeNo : String) (stage : OrderStage P) : Prop where
  row : ∃ topUp, r.store.topUps.lookup tradeNo = some topUp ∧
    (topUp.status = .success ↔ stage ≠ .unpaid)
  credits : (r.creditsOf tradeNo).length = stage.payments
  crediting : ∀ p, r.Crediting p tradeNo ↔ stage = .claimed p

theorem Stands.congr (h : r.Stands tradeNo stage)
    (hrow : r'.store.topUps.lookup tradeNo = r.store.topUps.lookup tradeNo)
    (hcredits : (r'.creditsOf tradeNo).length = (r.creditsOf tradeNo).length)
    (hcrediting : ∀ p, r'.Crediting p tradeNo ↔ r.Crediting p tradeNo) :
    r'.Stands tradeNo stage where
  row := by rw [hrow]; exact h.row
  credits := hcredits.trans h.credits
  crediting p := (hcrediting p).trans (h.crediting p)

theorem Stands.eq_unpaid (h : r.Stands tradeNo stage)
    (hunpaid : (r.store.topUps.lookup tradeNo).map TopUp.status ≠ some .success) :
    stage = .unpaid := by
  obtain ⟨_, hlookup, hstatus⟩ := h.row
  by_contra hne
  rw [hlookup, Option.map_some, hstatus.mpr hne] at hunpaid
  exact hunpaid rfl

theorem creditsOf_append
    (h : r'.postings = r.postings ++ [⟨some tradeNo, credit⟩]) (tradeNo' : String) :
    (r'.creditsOf tradeNo').length = (r.creditsOf tradeNo').length + if tradeNo' = tradeNo
      then 1 else 0 := by
  unfold creditsOf
  rw [h, List.filter_append, List.length_append]
  by_cases ht : tradeNo' = tradeNo
  · simp [ht]
  · simp [ht, Ne.symm ht]

theorem creditsOf_congr (h : r'.postings = r.postings) (tradeNo : String) :
    (r'.creditsOf tradeNo).length = (r.creditsOf tradeNo).length := by
  rw [creditsOf, h, creditsOf]

theorem crediting_congr (h : r'.phase = r.phase) (p : P) (tradeNo : String) :
    r'.Crediting p tradeNo ↔ r.Crediting p tradeNo := by
  rw [Crediting, h, Crediting]

/-- **A safe step of the processes is a step of every order.** -/
theorem Stands.effect
    (h : r.Stands tradeNo stage) (heffect : Effect r r') :
    ∃ stage', stage.Next stage' ∧ r'.Stands tradeNo stage' := by
  cases heffect with
  | none htopUps hcredits hcrediting =>
    refine ⟨stage, .stay stage, h.congr ?_ ?_ ?_⟩
    · rw [htopUps]
    · rw [hcredits]
    · intro p
      exact hcrediting p tradeNo
  | claim p tradeNo' new hnew hunpaid htopUps hpostings hcrediting =>
    have hcredits := creditsOf_congr hpostings tradeNo
    by_cases ht : tradeNo = tradeNo'
    · subst ht
      obtain rfl := h.eq_unpaid hunpaid
      refine ⟨.claimed p, .claim p, ⟨new, ?_, by simp [hnew]⟩, hcredits.trans h.credits, ?_⟩
      · rw [htopUps, AList.lookup_insert]
      · intro p'
        rw [hcrediting, h.crediting]
        simp [eq_comm]
    refine ⟨stage, .stay stage, h.congr ?_ hcredits ?_⟩
    · rw [htopUps, AList.lookup_insert_ne ht]
    · intro p'
      rw [hcrediting]
      simp [ht]
  | pay p tradeNo' _ hheld htopUps hpostings hcrediting =>
    have hcredits := creditsOf_append hpostings tradeNo
    by_cases ht : tradeNo = tradeNo'
    · subst ht
      -- The process that pays is the one that claimed the order.
      obtain rfl : stage = .claimed p := (h.crediting p).mp hheld
      refine ⟨.credited, .pay p, ?_, ?_, ?_⟩
      · rw [htopUps]
        simpa using h.row
      · rw [hcredits, h.credits, if_pos rfl]
        rfl
      · intro p'
        rw [hcrediting, h.crediting]
        simp [eq_comm]
    refine ⟨stage, .stay stage, h.congr (by rw [htopUps]) ?_ ?_⟩
    · rw [hcredits, if_neg ht, add_zero]
    · intro p'
      rw [hcrediting]
      simp [ht]
  | fulfil tradeNo' _ new _ hold hpending hnew htopUps hpostings hphase =>
    have hcredits := creditsOf_append hpostings tradeNo
    have hcrediting := crediting_congr hphase
    by_cases ht : tradeNo = tradeNo'
    · subst ht
      obtain rfl := h.eq_unpaid (by simp [hold, hpending])
      refine ⟨.credited, .fulfil, ⟨new, ?_, by simp [hnew]⟩, ?_, ?_⟩
      · rw [htopUps, AList.lookup_insert]
      · rw [hcredits, h.credits, if_pos rfl]
        rfl
      · intro p'
        rw [hcrediting, h.crediting]
        simp
    · refine ⟨stage, .stay stage, h.congr ?_ ?_ fun p' => hcrediting p' tradeNo⟩
      · rw [htopUps, AList.lookup_insert_ne ht]
      · rw [hcredits, if_neg ht, add_zero]
  | close tradeNo' _ new hold hpending hnew htopUps hpostings hphase =>
    have hcredits := creditsOf_congr hpostings tradeNo
    have hcrediting := crediting_congr hphase
    by_cases ht : tradeNo = tradeNo'
    · subst ht
      obtain rfl := h.eq_unpaid (by simp [hold, hpending])
      refine ⟨.unpaid, .stay _, ⟨new, ?_, by simp [hnew]⟩, hcredits.trans h.credits, ?_⟩
      · rw [htopUps, AList.lookup_insert]
      · intro p'
        rw [hcrediting, h.crediting]
    · refine ⟨stage, .stay stage, h.congr ?_ hcredits fun p' => hcrediting p' tradeNo⟩
      rw [htopUps, AList.lookup_insert_ne ht]

/-! ### The quota of the users -/

/-- The wallets hold what they held in `r₀` and the payments since. -/
def Accounted (r₀ r : TopUpRun P) : Prop :=
  ∀ userId, r.store.billing.ledger (.wallet userId)
    = r₀.store.billing.ledger (.wallet userId) + (r.postedTo userId - r₀.postedTo userId)

theorem Accounted.congr (h : Accounted r₀ r)
    (hbilling : r'.store.billing = r.store.billing) (hpostings : r'.postings = r.postings) :
    Accounted r₀ r' := by
  intro userId
  have hposted : r'.postedTo userId = r.postedTo userId := by
    rw [postedTo, hpostings, postedTo]
  rw [hbilling, h, hposted]

theorem Accounted.append (h : Accounted r₀ r) {tradeNo : Option String}
    (hpostings : r'.postings = r.postings ++ [⟨tradeNo, credit⟩])
    (hledger : r'.store.billing.ledger = r.store.billing.ledger +
      Pi.single (.wallet credit.userId) credit.quota) :
    Accounted r₀ r' := by
  intro userId
  have hposted : r'.postedTo userId = r.postedTo userId
      + (Pi.single (.wallet credit.userId) credit.quota : Account → ℤ) (.wallet userId) := by
    unfold postedTo
    rw [hpostings, List.filter_append, List.map_append, List.sum_append]
    by_cases hu : credit.userId = userId
    · simp [hu]
    · simp [hu, Ne.symm hu]
  rw [hledger, Pi.add_apply, h, hposted]
  ring

/-- **The money is accounted for** after every event. -/
theorem Accounted.step [DecidableEq P] (h : Accounted r₀ r)
    (e : TopUpEvent P) : Accounted r₀ (r.step env e) := by
  cases e with
  | epayLock | epayRead =>
    rw [TopUpRun.step]
    split <;> exact h.congr rfl rfl
  | epaySave _ _ fault =>
    rw [TopUpRun.step]
    split
    · cases fault <;> exact h.congr rfl rfl
    · exact h
  | epayCredit p tradeNo fault =>
    rw [TopUpRun.step]
    split
    · split
      · exact h.congr rfl rfl
      · rename_i billing hbilling
        exact h.append rfl (increaseUserQuota_spec hbilling).1
    · exact h
  | fulfil p tradeNo how f =>
    rw [TopUpRun.step]
    split
    · rename_i result hphase hrun
      obtain ⟨store, credit⟩ := result
      have hfulfils := fulfilment_ok hrun
      cases credit with
      | none =>
        obtain rfl : store = r.store := hfulfils
        exact h.congr rfl rfl
      | some =>
        obtain ⟨-, -, -, -, -, -, hledger⟩ := hfulfils
        exact h.append rfl hledger
    · exact h
  | close p tradeNo locks provider closing f =>
    rw [TopUpRun.step]
    split_ifs
    · exact h
    split
    · exact h
    · rename_i store hclose
      obtain ⟨old, -, -, rfl⟩ := updatePendingTopUpStatus_ok hclose
      exact h.congr rfl rfl
  | other credit =>
    rw [TopUpRun.step]
    split
    · exact h
    · rename_i billing hbilling
      exact h.append rfl (addUserQuota_spec hbilling).1

/-! ### Whole runs -/

/-- No `EpayNotify` is working on the order. -/
def Quiescent (r : TopUpRun P) (tradeNo : String) : Prop :=
  ∀ p, r.phase p tradeNo = none

/-- The order is credited at most once, and exactly if it is marked as paid once no `EpayNotify` is
under way. -/
def CreditedOnce (r : TopUpRun P) (tradeNo : String) : Prop :=
  (r.creditsOf tradeNo).length ≤ 1 ∧ (r.Quiescent tradeNo →
      ((r.store.topUps.lookup tradeNo).map TopUp.status = some .success ↔
        (r.creditsOf tradeNo).length = 1))

theorem Stands.creditedOnce
    (h : r.Stands tradeNo stage) : r.CreditedOnce tradeNo := by
  obtain ⟨_, hlookup, hstatus⟩ := h.row
  constructor
  · rw [h.credits]
    exact stage.payments_le_one
  intro hquiet
  rw [hlookup, h.credits, Option.map_some, Option.some_inj, hstatus]
  cases stage with
  | unpaid | credited => simp [OrderStage.payments]
  | claimed p =>
    -- A claimed order is being worked on.
    obtain ⟨_, _, hphase⟩ := (h.crediting p).mpr rfl
    rw [hquiet p] at hphase
    cases hphase

end TopUpRun

/-- **Every order is credited once**, if every `EpayNotify` saves an order that is not paid already,
and credits its user once it has. -/
theorem topUpRun_creditedOnce {P : Type} [DecidableEq P] (env : TopUpEnv) {r₀ : TopUpRun P}
    {tradeNo : String} {topUp : TopUp} (hlookup : r₀.store.topUps.lookup tradeNo = some topUp)
    (hpending : topUp.status = .pending) (hquiet : r₀.Quiescent tradeNo)
    (hpostings : r₀.postings = []) {es : List (TopUpEvent P)}
    (hsafe : Guarded (TopUpRun.step env) TopUpRun.Safe r₀ es) :
    (es.foldl (TopUpRun.step env) r₀).CreditedOnce tradeNo ∧
      TopUpRun.Accounted r₀ (es.foldl (TopUpRun.step env) r₀) := by
  have hstart : r₀.Stands tradeNo .unpaid := by
    refine ⟨⟨topUp, hlookup, by simp [hpending]⟩, ?_, ?_⟩
    · rw [TopUpRun.creditsOf, hpostings]
      rfl
    · intro p
      simp [TopUpRun.Crediting, hquiet p]
  constructor
  -- The stage of the order simulates the run; the guard is what makes every step an `Effect`.
  · have hstep : ∀ (r : TopUpRun P) (stage : OrderStage P) (e : TopUpEvent P),
        r.Stands tradeNo stage → r.Safe e →
          ∃ stage', stage.Next stage' ∧ (r.step env e).Stands tradeNo stage' := by
      intro r stage e hstands he
      exact hstands.effect (r.step_effect he)
    obtain ⟨stage, -, hstage⟩ := Guarded.simulation hstep hstart hsafe
    exact hstage.creditedOnce
  have hstep : ∀ (r : TopUpRun P) (e : TopUpEvent P),
      TopUpRun.Accounted r₀ r → TopUpRun.Accounted r₀ (r.step env e) := by
    intro r e h
    exact h.step e
  apply Guarded.invariant_of_step hstep
  intro userId
  rw [sub_self, add_zero]

def TopUp.sample : TopUp where
  userId := 1
  amount := 2
  money := 2
  paymentMethod := "alipay"
  paymentProvider := .epay
  createTime := 0
  completeTime := 0
  status := .pending

def TopUpRun.sample : TopUpRun (Fin 2) where
  store :=
    { billing := empty
      topUps := AList.singleton "T" .sample
      stripeCustomer := fun _ => ""
      email := fun _ => "" }
  phase _ _ := none
  postings := []

def TopUpEnv.ten : TopUpEnv where
  quotaPerUnit := 10
  addedFloat := truncate

theorem topUpRun_creditedOnce_of_lateNotice : let es : List (TopUpEvent (Fin 2)) :=
      [.epayLock 0 "T" "wxpay", .fulfil 1 "T" .manualCompleteTopUp {}, .epayRead 0 "T" none,
        .epaySave 0 "T" none, .epayCredit 0 "T" none]
    (es.foldl (TopUpRun.step .ten) .sample).CreditedOnce "T" ∧
      TopUpRun.Accounted .sample (es.foldl (TopUpRun.step .ten) .sample) ∧
      ((es.foldl (TopUpRun.step .ten) .sample).creditsOf "T").length = 1 := by
  intro es
  have hsafe : Guarded (TopUpRun.step .ten) TopUpRun.Safe TopUpRun.sample es := by
    decide +kernel
  have hlookup : TopUpRun.sample.store.topUps.lookup "T" = some TopUp.sample := rfl
  have hall := topUpRun_creditedOnce .ten hlookup rfl (fun _ => rfl) rfl hsafe
  exact ⟨hall.1, hall.2, by decide +kernel⟩

/-- The same notice on two servers: both credit the user. And one notice whose last statement fails:
the order is marked, and the user gets nothing. -/
theorem epayNotify_credits_twice_or_never : (let es : List (TopUpEvent (Fin 2)) :=
      [.epayLock 0 "T" "alipay", .epayLock 1 "T" "alipay", .epayRead 0 "T" none,
        .epayRead 1 "T" none, .epaySave 0 "T" none, .epaySave 1 "T" none, .epayCredit 0 "T" none,
        .epayCredit 1 "T" none]
    ¬(es.foldl (TopUpRun.step .ten) .sample).CreditedOnce "T" ∧
      (es.foldl (TopUpRun.step .ten) .sample).store.billing.userQuota 1 = 40) ∧
    (let es : List (TopUpEvent (Fin 2)) :=
      [.epayLock 0 "T" "alipay", .epayRead 0 "T" none, .epaySave 0 "T" none,
        .epayCredit 0 "T" (some "database is locked")]
    ¬(es.foldl (TopUpRun.step .ten) .sample).CreditedOnce "T") := by
  refine ⟨⟨?_, by decide +kernel⟩, ?_⟩
  · intro honce
    have htwo := honce.1
    revert htwo
    decide +kernel
  intro es honce
  have hquiet : (es.foldl (TopUpRun.step .ten) .sample).Quiescent "T" := by
    unfold TopUpRun.Quiescent
    decide +kernel
  have hnever := honce.2 hquiet
  revert hnever
  decide +kernel

end TokensFlux
