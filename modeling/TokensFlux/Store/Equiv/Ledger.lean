import TokensFlux.Store.Basic
import Mathlib.Tactic.Abel

/-!
# The billing tables as a ledger

Pending amounts count as written, and a subscription is minus its used amount, so charging any
account lowers its balance.  Each relative update refines one posting `L + Pi.single a d`.
-/

namespace TokensFlux

open Except Function Pi

theorem eq_ok_of_toOption {ε α : Type*} {r : Except ε α} {a : α}
    (h : r.toOption = some a) : r = .ok a := by
  cases r with
  | error => cases h
  | ok => exact congrArg _ (Option.some.inj h)

inductive Account
  | wallet (userId : ℤ)
  | token (tokenId : ℤ)
  | tokenUsed (tokenId : ℤ)
  | subscription (userSubscriptionId : ℤ)
  | userUsed (userId : ℤ)
deriving DecidableEq, Repr

namespace Store

def amountUsed (s : Store) (id : ℤ) : ℤ :=
  match s.subs.lookup id with
  | some sub => sub.amountUsed
  | none => 0

/-- What the batch updater holds included. -/
def ledger (s : Store) : Account → ℤ
  | .wallet id => s.userQuota id + s.batchUpdateStores .userQuota id
  | .token id => (s.token id).remainQuota + s.batchUpdateStores .tokenQuota id
  | .tokenUsed id => (s.token id).usedQuota - s.batchUpdateStores .tokenQuota id
  | .subscription id => -s.amountUsed id
  | .userUsed id => s.userUsedQuota id + s.batchUpdateStores .usedQuota id

structure SameTables (s s' : Store) : Prop where
  batchUpdateEnabled : s'.batchUpdateEnabled = s.batchUpdateEnabled
  logConsumeEnabled : s'.logConsumeEnabled = s.logConsumeEnabled
  tokenIdOfKey : s'.tokenIdOfKey = s.tokenIdOfKey
  subs : s'.subs = s.subs
  plans : s'.plans = s.plans
  records : s'.records = s.records
  logs : s'.logs = s.logs

namespace SameTables

theorem refl (s : Store) : SameTables s s := ⟨rfl, rfl, rfl, rfl, rfl, rfl, rfl⟩

theorem trans {s₁ s₂ s₃ : Store} (h : SameTables s₁ s₂) (h' : SameTables s₂ s₃) :
    SameTables s₁ s₃ :=
  ⟨h'.1.trans h.1, h'.2.trans h.2, h'.3.trans h.3, h'.4.trans h.4, h'.5.trans h.5,
   h'.6.trans h.6, h'.7.trans h.7⟩

end SameTables

/-! ### The batch updater -/

/-- What an amount held for an object adds to the accounts. -/
def heldPosting : BatchUpdateType → ℤ → ℤ → Account → ℤ
  | .userQuota, id, value => single (.wallet id) value
  | .tokenQuota, id, value => single (.token id) value + single (.tokenUsed id) (-value)
  | .usedQuota, id, value => single (.userUsed id) value
  | _, _, _ => 0

theorem ledger_addNewRecord (s : Store) (t : BatchUpdateType) (id value : ℤ) :
    (s.addNewRecord t id value).ledger = s.ledger + heldPosting t id value := by
  funext a
  cases t <;> cases a <;> simp [ledger, addNewRecord, heldPosting, amountUsed, single_apply]
    <;> split_ifs <;> omega

theorem sameTables_addNewRecord (s : Store) (t : BatchUpdateType) (id value : ℤ) :
    SameTables s (s.addNewRecord t id value) := ⟨rfl, rfl, rfl, rfl, rfl, rfl, rfl⟩

/-! ### Users -/

variable {fault : Option Err} {s s' : Store} {id quota : ℤ}

section

variable {e : Err} {batched : Prop} [Decidable batched]

/-- In batch mode or not. -/
theorem posted_spec {t : BatchUpdateType} {value : ℤ} {direct : Except Err Store}
    (h : (if quota < 0 then .error e else if batched then .ok (s.addNewRecord t id value)
      else direct) = .ok s')
    (hdirect : direct = .ok s' → s'.ledger = s.ledger + heldPosting t id value ∧ SameTables s s') :
    s'.ledger = s.ledger + heldPosting t id value ∧ SameTables s s' := by
  split_ifs at h with hneg hbatch
  · cases h
    exact ⟨ledger_addNewRecord s t id value, sameTables_addNewRecord s t id value⟩
  · exact hdirect h

theorem posted_isOk {batch direct : Store} (hq : 0 ≤ quota) :
    ∃ s', (if quota < 0 then .error e else if batched then .ok batch
      else .ok direct : Except Err Store) = .ok s' := by
  simp only [if_neg (Int.not_lt.mpr hq)]
  split_ifs <;> exact ⟨_, rfl⟩

end

theorem addUserQuota_spec {delta : ℤ} (h : s.addUserQuota fault id delta = .ok s') :
    s'.ledger = s.ledger + single (.wallet id) delta ∧ SameTables s s' := by
  cases fault with
  | some => cases h
  | none =>
    cases h
    refine ⟨?_, ⟨rfl, rfl, rfl, rfl, rfl, rfl, rfl⟩⟩
    funext a
    cases a with
    | wallet k =>
      by_cases hk : k = id
      · subst hk; simp only [ledger, update_self, Pi.add_apply, single_eq_same]; omega
      · simp [ledger, hk]
    | _ => simp [ledger, amountUsed]

theorem increaseUserQuota_spec {db : Bool} (h : s.increaseUserQuota fault id quota db = .ok s') :
    s'.ledger = s.ledger + single (.wallet id) quota ∧ SameTables s s' :=
  posted_spec h addUserQuota_spec

theorem decreaseUserQuota_spec {db : Bool} (h : s.decreaseUserQuota fault id quota db = .ok s') :
    s'.ledger = s.ledger + single (.wallet id) (-quota) ∧ SameTables s s' :=
  posted_spec h addUserQuota_spec

theorem increaseUserQuota_isOk (s : Store) (hq : 0 ≤ quota) (db : Bool) :
    ∃ s', s.increaseUserQuota none id quota db = .ok s' :=
  posted_isOk hq

theorem decreaseUserQuota_isOk (s : Store) (hq : 0 ≤ quota) (db : Bool) :
    ∃ s', s.decreaseUserQuota none id quota db = .ok s' :=
  posted_isOk hq

/-! ### Tokens -/

theorem addTokenQuota_spec {delta : ℤ} (h : s.addTokenQuota fault id delta = .ok s') :
    s'.ledger = s.ledger + (single (.token id) delta + single (.tokenUsed id) (-delta)) ∧
      SameTables s s' := by
  cases fault with
  | some => cases h
  | none =>
    cases h
    refine ⟨?_, ⟨rfl, rfl, rfl, rfl, rfl, rfl, rfl⟩⟩
    funext a
    cases a with
    | token k | tokenUsed k =>
      by_cases hk : k = id
      · subst hk
        simp only [ledger, update_self, Pi.add_apply, single_eq_same, ne_eq,
          reduceCtorEq, not_false_eq_true, single_eq_of_ne]
        omega
      · simp [ledger, hk]
    | _ => simp [ledger, amountUsed]

theorem increaseTokenQuota_spec (h : s.increaseTokenQuota fault id quota = .ok s') :
    s'.ledger = s.ledger + (single (.token id) quota + single (.tokenUsed id) (-quota)) ∧
      SameTables s s' :=
  posted_spec h addTokenQuota_spec

theorem decreaseTokenQuota_spec (h : s.decreaseTokenQuota fault id quota = .ok s') :
    s'.ledger = s.ledger + (single (.token id) (-quota) + single (.tokenUsed id) quota) ∧
      SameTables s s' := by
  have hposted := posted_spec h addTokenQuota_spec
  rwa [heldPosting, neg_neg] at hposted

theorem increaseTokenQuota_isOk (s : Store) (hq : 0 ≤ quota) :
    ∃ s', s.increaseTokenQuota none id quota = .ok s' :=
  posted_isOk hq

theorem decreaseTokenQuota_isOk (s : Store) (hq : 0 ≤ quota) :
    ∃ s', s.decreaseTokenQuota none id quota = .ok s' :=
  posted_isOk hq

theorem increaseTokenQuota_of_decreaseTokenQuota
    (h : s.decreaseTokenQuota fault id quota = .ok s') :
    s'.increaseTokenQuota none id quota = .ok s := by
  unfold decreaseTokenQuota at h
  split_ifs at h with hneg hbatch
  · cases h
    unfold increaseTokenQuota
    rw [if_neg hneg, if_pos (show (s.addNewRecord .tokenQuota id (-quota)).batchUpdateEnabled from
      hbatch)]
    congr 1
    obtain ⟨⟩ := s
    simp only [addNewRecord, mk.injEq, true_and, and_true]
    funext t k
    split_ifs
    · omega
    · rfl
  cases fault with
  | some => cases h
  | none =>
    cases h
    unfold increaseTokenQuota
    rw [if_neg hneg, if_neg (by exact hbatch)]
    simp only [addTokenQuota, update_self, update_idem]
    simp

/-! ### Counters and logs -/

theorem updateUserUsedQuotaAndRequestCount_spec (s : Store) (id quota : ℤ) :
    (s.updateUserUsedQuotaAndRequestCount none id quota).ledger =
      s.ledger + single (.userUsed id) quota ∧
      SameTables s (s.updateUserUsedQuotaAndRequestCount none id quota) := by
  unfold updateUserUsedQuotaAndRequestCount
  split_ifs with hbatch
  · rw [ledger_addNewRecord, ledger_addNewRecord]
    exact ⟨add_zero _, (sameTables_addNewRecord s _ id quota).trans
      (sameTables_addNewRecord _ _ id 1)⟩
  refine ⟨?_, ⟨rfl, rfl, rfl, rfl, rfl, rfl, rfl⟩⟩
  funext a
  cases a with
  | userUsed k =>
    by_cases hk : k = id
    · subst hk; simp only [ledger, update_self, Pi.add_apply, single_eq_same]; omega
    · simp [ledger, hk]
  | _ => simp [ledger, amountUsed]

theorem updateChannelUsedQuota_spec (s : Store) (fault : Option Err) (id quota : ℤ) :
    (s.updateChannelUsedQuota fault id quota).ledger = s.ledger ∧
      SameTables s (s.updateChannelUsedQuota fault id quota) := by
  unfold updateChannelUsedQuota
  split_ifs with hbatch
  · exact ⟨(ledger_addNewRecord s _ id quota).trans (add_zero _),
      sameTables_addNewRecord s _ id quota⟩
  cases fault with
  | some => exact ⟨rfl, SameTables.refl s⟩
  | none =>
    refine ⟨?_, ⟨rfl, rfl, rfl, rfl, rfl, rfl, rfl⟩⟩
    funext a
    cases a <;> rfl

theorem recordLog_logs (h : s.logConsumeEnabled = true) (log : Log) :
    (s.recordLog log).logs = s.logs ++ [log] := by
  rw [recordLog, if_neg (by simp [h])]

theorem amountUsed_recordLog (s : Store) (log : Log) (id : ℤ) :
    (s.recordLog log).amountUsed id = s.amountUsed id := by
  unfold recordLog
  split_ifs <;> rfl

theorem ledger_recordLog (s : Store) (log : Log) : (s.recordLog log).ledger = s.ledger := by
  unfold recordLog
  split_ifs
  · rfl
  · funext a; cases a <;> rfl

end Store

end TokensFlux
