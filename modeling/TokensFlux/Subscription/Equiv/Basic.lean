import TokensFlux.Store.Equiv.Ledger
import TokensFlux.Subscription.Basic

/-!
# What charging a subscription does to the ledger

`DueResets` is what the resets on the way to a charge may change, and `PreConsumes` what a
successful pre-consumption has done.
-/

namespace TokensFlux

open List Except

namespace Store

/-! ### Rows -/

variable {cal : Calendar} {fault : Option Err} {f : PreConsumeFaults} {s s' t : Store}
  {requestId : String}
  {res : SubscriptionPreConsumeResult} {sub : UserSubscription} {amount delta id now userId : ℤ}

theorem saveSub_ok (h : s.saveSub fault id sub = .ok s') :
    fault = none ∧ s' = { s with subs := s.subs.insert id sub } := by
  cases fault with
  | some => cases h
  | none => exact ⟨rfl, (ok.inj h).symm⟩

theorem amountUsed_of_lookup (h : s.subs.lookup id = some sub) :
    s.amountUsed id = sub.amountUsed := by
  rw [amountUsed, h]

theorem amountUsed_nonneg (s : Store) (id : ℤ) : 0 ≤ s.amountUsed id := by
  unfold amountUsed
  split <;> omega

theorem ledger_insertSub (sub' : UserSubscription) (h : s.subs.lookup id = some sub) :
    ({ s with subs := s.subs.insert id sub' } : Store).ledger
      = s.ledger + Pi.single (.subscription id) ((sub.amountUsed : ℤ) - sub'.amountUsed) := by
  funext a
  cases a with
  | subscription k =>
    by_cases hk : k = id
    · subst hk
      simp only [ledger, amountUsed, AList.lookup_insert, h, Pi.add_apply, Pi.single_eq_same]
      omega
    · simp [ledger, amountUsed, AList.lookup_insert_ne hk, hk]
  | _ => simp [ledger]

theorem ledger_withRecords (s : Store)
    (records : AList fun _ : String => SubscriptionPreConsumeRecord) :
    ({ s with records } : Store).ledger = s.ledger := by
  funext a
  cases a <;> rfl

/-! ### Settling a difference -/

theorem commitTx_ok {α : Type*} {commit : Option Err} {result : Except Err α} {a : α}
    (h : commitTx commit result = .ok a) : commit = none ∧ result = .ok a := by
  unfold commitTx at h
  split at h
  · cases h
  · cases h
  · exact ⟨rfl, h⟩

theorem postConsumeUserSubscriptionDelta_ok {f : TxFaults} (hd : delta ≠ 0)
    (h : s.postConsumeUserSubscriptionDelta f id delta = .ok s') :
    ∃ sub, s.subs.lookup id = some sub ∧ 0 < id ∧
      (sub.amountTotal ≤ 0 ∨ sub.amountUsed + delta ≤ sub.amountTotal) ∧ s' = { s with
        subs := s.subs.insert id { sub with amountUsed := (sub.amountUsed + delta).toNat } } := by
  unfold postConsumeUserSubscriptionDelta at h
  split_ifs at h with hid
  split at h
  · cases h
  · cases h
  · cases h
  rename_i sub _ _ hsub
  dsimp only at h
  split_ifs at h with hneg htotal htotal
  all_goals
    obtain ⟨-, h⟩ := commitTx_ok h
    obtain ⟨-, rfl⟩ := saveSub_ok h
    refine ⟨sub, hsub, by omega, by omega, ?_⟩
  · rw [Int.toNat_of_nonpos hneg.le]; rfl
  · rfl

/-- The whole difference, unless the used amount is cut at zero. -/
theorem postConsumeUserSubscriptionDelta_ledger {f : TxFaults}
    (h : s.postConsumeUserSubscriptionDelta f id delta = .ok s')
    (hcut : 0 ≤ s.amountUsed id + delta) :
    s'.ledger = s.ledger + Pi.single (.subscription id) (-delta) := by
  by_cases hd : delta = 0
  · unfold postConsumeUserSubscriptionDelta at h
    split_ifs at h with hid
    cases h
    rw [hd, neg_zero, Pi.single_zero, add_zero]
  obtain ⟨_, hsub, -, -, rfl⟩ := postConsumeUserSubscriptionDelta_ok hd h
  rw [amountUsed_of_lookup hsub] at hcut
  rw [ledger_insertSub _ hsub]
  congr 2
  dsimp only
  omega

theorem postConsumeUserSubscriptionDelta_isOk (hid : 0 < id) (hsub : s.subs.lookup id = some sub)
    (htotal : sub.amountTotal ≤ 0 ∨ sub.amountUsed + delta ≤ sub.amountTotal) :
    ∃ s', s.postConsumeUserSubscriptionDelta {} id delta = .ok s' := by
  unfold postConsumeUserSubscriptionDelta
  rw [if_neg (by omega)]
  by_cases hd : delta = 0
  · rw [if_pos hd]
    exact ⟨s, rfl⟩
  simp only [hsub]
  split_ifs with hneg hover hover
  · omega
  · exact ⟨_, rfl⟩
  · omega
  · exact ⟨_, rfl⟩

/-! ### Pre-consuming -/

/-- The tables `t` are the tables `s` after resets that were due at `now`. -/
structure DueResets (cal : Calendar) (now : ℤ) (s t : Store) : Prop where
  frame : ∃ subs, t = { s with subs }
  row : ∀ id, t.subs.lookup id = s.subs.lookup id ∨
    ∃ sub plan sub', s.subs.lookup id = some sub ∧ s.plans sub.planId = some plan ∧
      dueReset cal sub plan now = some sub' ∧ t.subs.lookup id = some sub'

theorem DueResets.refl (cal : Calendar) (now : ℤ) (s : Store) : DueResets cal now s s :=
  ⟨⟨s.subs, rfl⟩, fun _ => Or.inl rfl⟩

theorem DueResets.plans_eq (h : DueResets cal now s t) : t.plans = s.plans := by
  obtain ⟨_, rfl⟩ := h.frame
  rfl

theorem DueResets.mem_of_lookup (h : DueResets cal now s t)
    (hsub : t.subs.lookup id = some sub) : id ∈ s.subs := by
  rw [← AList.lookup_isSome]
  rcases h.row id with hrow | ⟨_, _, _, hold, _⟩
  · rw [← hrow, hsub]
    rfl
  · rw [hold]
    rfl

theorem DueResets.amountUsed_eq (h : DueResets cal now s t)
    (hnot : ∀ sub ∈ s.subs.lookup id, ∀ plan ∈ s.plans sub.planId,
      dueReset cal sub plan now = none) :
    t.amountUsed id = s.amountUsed id := by
  rcases h.row id with hrow | ⟨sub, plan, _, hsub, hplan, hdue, -⟩
  · rw [amountUsed, amountUsed, hrow]
  · rw [hnot sub hsub plan hplan] at hdue
    cases hdue

theorem getSubscriptionPlanById_ok {plan : SubscriptionPlan}
    (h : s.getSubscriptionPlanById fault id = .ok plan) :
    s.plans id = some plan := by
  unfold getSubscriptionPlanById at h
  split_ifs at h
  split at h
  · cases h
  · cases h
  · rename_i hplan
    rw [hplan, ok.inj h]

theorem DueResets.maybeReset {t' : Store} {candidate : UserSubscription} {plan : SubscriptionPlan}
    (h : DueResets cal now s t) (hs : s.subs.lookup id = some candidate)
    (ht : t.subs.lookup id = some candidate) (hplan : s.plans candidate.planId = some plan)
    (hreset : maybeResetUserSubscriptionWithPlanTx cal t fault id candidate plan now =
      .ok (sub, t')) :
    DueResets cal now s t' ∧ t'.subs.lookup id = some sub ∧
      ∀ k ≠ id, t'.subs.lookup k = t.subs.lookup k := by
  unfold maybeResetUserSubscriptionWithPlanTx saveReset at hreset
  split at hreset
  · obtain ⟨rfl, rfl⟩ := Prod.mk.inj (ok.inj hreset)
    exact ⟨h, ht, fun _ _ => rfl⟩
  rename_i sub' hdue
  rcases hsave : t.saveSub fault id sub' with _ | _
  · rw [hsave] at hreset; cases hreset
  rw [hsave] at hreset
  obtain ⟨rfl, rfl⟩ := Prod.mk.inj (ok.inj hreset)
  obtain ⟨-, rfl⟩ := saveSub_ok hsave
  refine ⟨⟨?_, fun k => ?_⟩, AList.lookup_insert _, fun k hk => AList.lookup_insert_ne hk⟩
  · obtain ⟨subs, rfl⟩ := h.frame
    exact ⟨_, rfl⟩
  by_cases hk : k = id
  · subst hk
    exact .inr ⟨candidate, plan, sub', hs, hplan, hdue, AList.lookup_insert _⟩
  · rw [AList.lookup_insert_ne hk]
    exact h.row k

theorem lookup_of_mem_activeSubscriptions {r : ℤ × UserSubscription}
    (h : r ∈ s.activeSubscriptions userId now) :
    s.subs.lookup r.1 = some r.2 := by
  rw [activeSubscriptions, mem_insertionSort, mem_filter, mem_map] at h
  obtain ⟨⟨e, he, rfl⟩, -⟩ := h
  exact AList.mem_lookup_iff.mpr he

theorem userId_of_mem_activeSubscriptions {r : ℤ × UserSubscription}
    (h : r ∈ s.activeSubscriptions userId now) :
    r.2.userId = userId := by
  rw [activeSubscriptions, mem_insertionSort, mem_filter] at h
  exact (of_decide_eq_true h.2).1

theorem nodup_activeSubscriptions (s : Store) (userId now : ℤ) :
    ((s.activeSubscriptions userId now).map Prod.fst).Nodup := by
  refine ((perm_insertionSort _ _).map _).nodup_iff.mpr ?_
  refine (filter_sublist.map _).nodup ?_
  rw [map_map]
  exact s.subs.nodupKeys

def PreConsumes (cal : Calendar) (requestId : String) (userId amount now : ℤ) (s : Store)
    (res : SubscriptionPreConsumeResult) (s' : Store) : Prop :=
  ∃ t id sub, DueResets cal now s t ∧ t.subs.lookup id = some sub ∧
    (sub.amountTotal ≤ 0 ∨ sub.amountUsed + amount ≤ sub.amountTotal) ∧
    res = ⟨id, amount, sub.amountTotal, sub.amountUsed, (sub.amountUsed + amount).toNat⟩ ∧
    s' = { t with
      subs := t.subs.insert id { sub with amountUsed := (sub.amountUsed + amount).toNat }
      records := t.records.insert requestId ⟨userId, id, amount, .consumed⟩ }

theorem chargeCandidate_ok {tx : Store} {hamount : 0 < amount}
    (hfresh : tx.records.lookup requestId = none)
    (h : tx.chargeCandidate f requestId userId amount id hamount sub = .ok (res, s')) :
    res = ⟨id, amount, sub.amountTotal, sub.amountUsed, (sub.amountUsed + amount).toNat⟩ ∧
      s' = { tx with
        subs := tx.subs.insert id { sub with amountUsed := (sub.amountUsed + amount).toNat }
        records := tx.records.insert requestId ⟨userId, id, amount, .consumed⟩ } := by
  unfold chargeCandidate createRecord at h
  rw [hfresh] at h
  cases hcreate : f.create with
  | some =>
    simp only [hcreate] at h
    cases hdup : f.dup <;> simp only [hdup, reduceCtorEq] at h
  | none =>
    cases hsave : f.save with
    | some => simp only [hcreate, saveSub, hsave, Except.map, reduceCtorEq] at h
    | none =>
      simp only [hcreate, saveSub, hsave, Except.map, Except.ok.injEq, Prod.mk.injEq] at h
      exact ⟨h.1.symm, h.2.symm⟩

/-- By induction on the candidates, which are reset on the way. -/
theorem preConsumeFrom_spec {hamount : 0 < amount} (hfresh : s.records.lookup requestId = none) :
    ∀ (candidates : List (ℤ × UserSubscription)) (tx : Store), DueResets cal now s tx →
      (candidates.map Prod.fst).Nodup →
      (∀ r ∈ candidates, s.subs.lookup r.1 = some r.2 ∧ tx.subs.lookup r.1 = some r.2) →
      preConsumeFrom cal f requestId userId amount now hamount candidates tx = .ok (res, s') →
      PreConsumes cal requestId userId amount now s res s'
  | [], tx, _, _, _, h => by cases h
  | (id, candidate) :: rest, tx, hdue, hnodup, hrows, h => by
    rw [preConsumeFrom] at h
    obtain ⟨hs, htx⟩ := hrows _ mem_cons_self
    rcases hplan : tx.getSubscriptionPlanById (f.plan id) candidate.planId with _ | plan
    · simp only [hplan, reduceCtorEq] at h
    cases hreset : maybeResetUserSubscriptionWithPlanTx cal tx (f.resetSave id) id
      candidate plan now with
    | error e => simp only [hplan, hreset, reduceCtorEq] at h
    | ok reset =>
      obtain ⟨sub, tx'⟩ := reset
      simp only [hplan, hreset] at h
      have hplan' := getSubscriptionPlanById_ok hplan
      rw [hdue.plans_eq] at hplan'
      obtain ⟨hdue', hsub, hothers⟩ := hdue.maybeReset hs htx hplan' hreset
      rw [map_cons, nodup_cons] at hnodup
      split_ifs at h with hfull
      · -- Not enough left: the row may have been reset, the later candidates have not.
        refine preConsumeFrom_spec hfresh rest tx' hdue' hnodup.2 (fun r hr => ?_) h
        have hne : r.1 ≠ id := by
          rintro rfl
          exact hnodup.1 (mem_map.mpr ⟨r, hr, rfl⟩)
        rw [hothers r.1 hne]
        exact hrows r (mem_cons_of_mem _ hr)
      have hfresh' : tx'.records.lookup requestId = none := by
        obtain ⟨_, rfl⟩ := hdue'.frame
        exact hfresh
      obtain ⟨hres, hs'⟩ := chargeCandidate_ok hfresh' h
      exact ⟨tx', id, sub, hdue', hsub, by omega, hres, hs'⟩

/-- **`PreConsumeUserSubscription`** of a request that is not recorded yet charges exactly one
subscription. -/
theorem preConsumeUserSubscription_spec (hfresh : s.records.lookup requestId = none)
    (h : s.preConsumeUserSubscription cal f requestId userId amount now = .ok (res, s')) :
    0 < amount ∧ trimSpace requestId ≠ "" ∧
      PreConsumes cal requestId userId amount now s res s' := by
  unfold preConsumeUserSubscription at h
  split_ifs at h with huser hblank hpos
  refine ⟨not_le.mp hpos, hblank, ?_⟩
  obtain ⟨-, h⟩ := commitTx_ok h
  unfold preConsumeTx at h
  simp only [hfresh] at h
  split at h
  · cases h
  · cases h
  split at h
  · cases h
  · cases h
  · exact preConsumeFrom_spec hfresh _ s (DueResets.refl cal now s)
      (nodup_activeSubscriptions s userId now)
      (fun r hr => ⟨lookup_of_mem_activeSubscriptions hr, lookup_of_mem_activeSubscriptions hr⟩) h

end Store

end TokensFlux
