import TokensFlux.Lib.Guarded
import TokensFlux.Subscription.Equiv.Schedule
import TokensFlux.Subscription.System

/-!
# What one step of the subscription system does

Charges, settlements and refunds come down to one move, `Uses`.  An invariant of the system is a
case analysis of `Transition`s, and nothing of the model is unfolded again.
-/

namespace TokensFlux

open Store Except

namespace SubscriptionSystem

variable {P : Type} {cal : Calendar} {s s' : SubscriptionSystem P}

/-! ### Moves -/

def Uses (s : SubscriptionSystem P) (id : ℤ) (requestId : String) (delta : ℤ)
    (s' : SubscriptionSystem P) : Prop :=
  ∃ sub records, s.store.subs.lookup id = some sub ∧
    (sub.amountTotal ≤ 0 ∨ sub.amountUsed + delta ≤ sub.amountTotal) ∧
    s' = s.add
      { s.store with
        subs := s.store.subs.insert id { sub with amountUsed := (sub.amountUsed + delta).toNat }
        records }
      id requestId delta

theorem reset_self (s : SubscriptionSystem P) : s.reset s.store = s := by
  simp [reset, beginsPeriod]

theorem add_zero_self (s : SubscriptionSystem P) (id : ℤ) (requestId : String) :
    s.add s.store id requestId 0 = s := by
  have hcut : max 0 (-s.store.amountUsed id) = 0 := by
    have := s.store.amountUsed_nonneg id
    omega
  unfold add
  rw [hcut]
  simp only [add_zero, Function.update_eq_self]

variable {store : Store} {e : SubscriptionEvent P}

theorem reset_add {t : Store} {id amount : ℤ} {requestId : String}
    (hperiod : ∀ k, (store.subs.lookup k).map UserSubscription.periodStart =
      (t.subs.lookup k).map UserSubscription.periodStart)
    (hpos : 0 < amount) :
    (s.reset store).add store id requestId amount = (s.reset t).add store id requestId amount := by
  have hconsumed : (s.reset store).consumed = (s.reset t).consumed := by
    funext k
    have hbegins : s.beginsPeriod store k = s.beginsPeriod t k := by
      rw [beginsPeriod, beginsPeriod, hperiod k]
    simp only [reset, hbegins]
  have hcut : ∀ r : Store, max amount (-r.amountUsed id) = amount := by
    intro r
    have := r.amountUsed_nonneg id
    omega
  unfold add
  rw [hconsumed, hcut, hcut]
  rfl

section

variable {id delta : ℤ} {requestId : String} (h : s.Uses id requestId delta s')

include h

theorem Uses.jobs_eq : s'.jobs = s.jobs := by
  obtain ⟨_, _, -, -, rfl⟩ := h
  rfl

theorem Uses.plans_eq : s'.store.plans = s.store.plans := by
  obtain ⟨_, _, -, -, rfl⟩ := h
  rfl

theorem Uses.consumed_eq : s'.consumed = Function.update s.consumed id
      (Function.update (s.consumed id) requestId (s.consumed id requestId + delta)) := by
  obtain ⟨_, _, -, -, rfl⟩ := h
  rfl

theorem Uses.requested_eq :
    s'.requested = Function.update s.requested id (s.requested id + delta) := by
  obtain ⟨_, _, -, -, rfl⟩ := h
  rfl

theorem Uses.committed_eq : s'.committed = Function.update s.committed id
      (s.committed id + max delta (-s.store.amountUsed id)) := by
  obtain ⟨_, _, -, -, rfl⟩ := h
  rfl

theorem Uses.amountUsed_eq : s'.store.amountUsed id = max (s.store.amountUsed id + delta) 0 := by
  obtain ⟨_, _, hsub, -, rfl⟩ := h
  rw [amountUsed_of_lookup hsub, SubscriptionSystem.add,
    amountUsed_of_lookup (AList.lookup_insert _)]
  dsimp only
  omega

theorem Uses.amountUsed_of_ne {k : ℤ} (hk : k ≠ id) :
    s'.store.amountUsed k = s.store.amountUsed k := by
  obtain ⟨_, _, -, -, rfl⟩ := h
  rw [amountUsed, amountUsed, SubscriptionSystem.add, AList.lookup_insert_ne hk]

end

structure SameFrame (s s' : SubscriptionSystem P) : Prop where
  jobs : s'.jobs = s.jobs
  plans : s'.store.plans = s.store.plans
  requested : s'.requested = s.requested
  committed : s'.committed = s.committed

theorem sameFrame_foldl_write (s : SubscriptionSystem P) (writes : List (ℤ × SubscriptionWrite)) :
    s.SameFrame (writes.foldl write s) := by
  refine List.foldlRecOn (motive := s.SameFrame) writes write ⟨rfl, rfl, rfl, rfl⟩ ?_
  intro r hr w _
  exact ⟨hr.jobs, (plans_write w.2).trans hr.plans, hr.requested, hr.committed⟩

variable [DecidableEq P]

/-! ### Transitions -/

inductive Transition (cal : Calendar) (s : SubscriptionSystem P) :
    SubscriptionEvent P → SubscriptionSystem P → Prop
  | refused (e : SubscriptionEvent P) : Transition cal s e s
  | charged {requestId : String} {userId amount now id : ℤ} {f : PreConsumeFaults} {t : Store}
      {s' : SubscriptionSystem P} (hdue : DueResets cal now s.store t) (hpos : 0 < amount)
      (huses : (s.reset t).Uses id requestId amount s') :
      Transition cal s (.preConsume requestId userId amount now f) s'
  | settled {requestId : String} {id delta : ℤ} {f : TxFaults} {s' : SubscriptionSystem P}
      (huses : s.Uses id requestId delta s') : Transition cal s (.settle requestId id delta f) s'
  | marked {requestId : String} {f : RefundFaults}
    (records : AList fun _ : String => SubscriptionPreConsumeRecord) :
      Transition cal s (.refund requestId f) { s with store := { s.store with records } }
  | refunded {requestId : String} {f : RefundFaults} {record : SubscriptionPreConsumeRecord}
      {s' : SubscriptionSystem P} (hrecord : s.store.refundedRecord f requestId = some record)
      (hpos : 0 < record.preConsumed)
      (huses : s.Uses record.userSubscriptionId requestId (-record.preConsumed) s') :
      Transition cal s (.refund requestId f) (s'.forget record.userSubscriptionId requestId)
  | reset {id now : ℤ} {f : TxFaults} {planFault : Option Err} {t : Store}
    (hdue : DueResets cal now s.store t) :
      Transition cal s (.resetDue id now f planFault) (s.reset t)
  | started {p : P} {call : SubscriptionCall} {now : ℤ} {planFault select : Option Err}
      {job : SubscriptionJob} (hopen : s.store.openJob now planFault select call = .ok job) :
      Transition cal s (.start p call now planFault select) (s.setJob p (some job))
  | advanced {p : P} {planFault : Option Err} {job job' : SubscriptionJob}
      (hjob : s.jobs p = some job) (hnext : job.next cal s.store planFault = .ok job') :
      Transition cal s (.next p planFault) (s.setJob p (some job'))
  | ended (e : SubscriptionEvent P) (p : P) : Transition cal s e (s.setJob p none)
  | committed {p : P} {job : SubscriptionJob} (hjob : s.jobs p = some job) :
      Transition cal s (.commit p) ((job.writes.foldl write s).setJob p none)
  | created {id : ℤ} {sub : UserSubscription} (hfresh : s.store.subs.lookup id = none) :
      Transition cal s (.create id sub)
        { s with
          store := { s.store with subs := s.store.subs.insert id { sub with amountUsed := 0 } } }
  | edited (plans : ℤ → Option SubscriptionPlan) :
      Transition cal s (.setPlans plans) { s with store := { s.store with plans } }

theorem transition_preConsume (cal : Calendar) (s : SubscriptionSystem P) (requestId : String)
    (userId amount now : ℤ) (f : PreConsumeFaults) :
    Transition cal s (.preConsume requestId userId amount now f)
      (s.step cal (.preConsume requestId userId amount now f)) := by
  unfold step
  dsimp only
  rcases hpre : s.store.preConsumeUserSubscription cal f requestId userId amount now with _ | r
  · exact .refused _
  obtain ⟨_, store⟩ := r
  dsimp only
  rcases preConsumeUserSubscription_cases hpre with ⟨hrecord, rfl⟩ | ⟨hrecord, hpos, hspec⟩
  · rw [if_pos hrecord, reset_self]
    exact .refused _
  obtain ⟨t, id, sub, hdue, hsub, htotal, rfl, hstore⟩ := hspec
  have hperiod : ∀ k, (store.subs.lookup k).map UserSubscription.periodStart
      = (t.subs.lookup k).map UserSubscription.periodStart := by
    intro k
    rw [hstore]
    by_cases hk : k = id
    · subst hk
      rw [AList.lookup_insert, hsub]
      rfl
    · rw [AList.lookup_insert_ne hk]
  have htables : { t with
      subs := t.subs.insert id { sub with amountUsed := (sub.amountUsed + amount).toNat }
      records := store.records } = store := by
    rw [hstore]
  rw [hrecord, if_neg (by simp), reset_add hperiod hpos, ← htables]
  exact .charged hdue hpos ⟨sub, store.records, hsub, htotal, rfl⟩

theorem transition_settle (cal : Calendar) (s : SubscriptionSystem P) (requestId : String)
    (id delta : ℤ) (f : TxFaults) :
    Transition cal s (.settle requestId id delta f)
    (s.step cal (.settle requestId id delta f)) := by
  unfold step
  dsimp only
  rcases hpost : s.store.postConsumeUserSubscriptionDelta f id delta with _ | _
  · exact .refused _
  by_cases hd : delta = 0
  · unfold postConsumeUserSubscriptionDelta at hpost
    split_ifs at hpost
    cases hpost
    rw [hd]
    dsimp only
    rw [add_zero_self]
    exact .refused _
  · obtain ⟨sub, hsub, -, htotal, rfl⟩ := postConsumeUserSubscriptionDelta_ok hd hpost
    exact .settled ⟨sub, s.store.records, hsub, htotal, rfl⟩

theorem transition_refund (cal : Calendar) (s : SubscriptionSystem P) (requestId : String)
    (f : RefundFaults) :
    Transition cal s (.refund requestId f) (s.step cal (.refund requestId f)) := by
  unfold step
  dsimp only
  rcases refundSubscriptionPreConsume_cases s.store f requestId with
    ⟨hnone, records, hstore⟩ | ⟨record, store, records, hrecord, hpos, hpost, hstore⟩
  · rw [hnone, hstore]
    exact .marked records
  · rw [hrecord, hstore]
    obtain ⟨sub, hsub, -, htotal, rfl⟩ := postConsumeUserSubscriptionDelta_ok (by omega) hpost
    exact .refunded hrecord hpos ⟨sub, records, hsub, htotal, rfl⟩

/-- **Every step is one of the transitions.** -/
theorem step_transition (cal : Calendar) (s : SubscriptionSystem P) (e : SubscriptionEvent P) :
    Transition cal s e (s.step cal e) := by
  cases e with
  | preConsume requestId userId amount now f =>
    exact transition_preConsume cal s requestId userId amount now f
  | settle requestId id delta f => exact transition_settle cal s requestId id delta f
  | refund requestId f => exact transition_refund cal s requestId f
  | resetDue => exact .reset resetDueSubscription_spec
  | start p call now planFault select =>
    rw [step]
    cases hopen : s.store.openJob now planFault select call with
    | error => exact .ended _ p
    | ok => exact .started hopen
  | next p planFault =>
    rw [step]
    rcases hjob : s.jobs p with _ | job
    · exact .ended _ p
    dsimp only [Option.bind]
    cases hnext : job.next cal s.store planFault with
    | error => exact .ended _ p
    | ok => exact .advanced hjob hnext
  | commit p =>
    unfold step
    dsimp only
    split
    · rename_i hjob
      exact .committed hjob
    · exact .refused _
  | rollback p => exact .ended _ p
  | create =>
    unfold step
    dsimp only
    split_ifs with hsome
    · exact .refused _
    · exact .created (Option.not_isSome_iff_eq_none.mp hsome)
  | setPlans plans => exact .edited plans

theorem Transition.plans (h : Transition cal s e s') :
    (∃ plans, e = .setPlans plans ∧ s'.store.plans = plans) ∨ s'.store.plans = s.store.plans := by
  cases h with
  | edited plans => exact .inl ⟨plans, rfl, rfl⟩
  | charged hdue _ huses => exact .inr (huses.plans_eq.trans hdue.plans_eq)
  | settled huses | refunded _ _ huses => exact .inr huses.plans_eq
  | reset hdue => exact .inr hdue.plans_eq
  | committed => exact .inr (sameFrame_foldl_write s _).plans
  | _ => exact .inr rfl

/-! ### Transactions under way -/

theorem Transition.forall_job {J : SubscriptionJob → Prop} (htr : Transition cal s e s')
    (hstart : ∀ p call now planFault select job, e = .start p call now planFault select →
      s.store.openJob now planFault select call = .ok job → J job)
    (hnext : ∀ planFault job job', J job → job.next cal s.store planFault = .ok job' → J job')
    (h : ∀ p job, s.jobs p = some job → J job) : ∀ p job, s'.jobs p = some job → J job := by
  have hset : ∀ (r : SubscriptionSystem P) (q : P) (new : Option SubscriptionJob), r.jobs = s.jobs →
      (∀ job, new = some job → J job) → ∀ p job, (r.setJob q new).jobs p = some job → J job := by
    intro r q new hr hnew
    rw [← hr] at h
    exact forall_update (fun p job _ => h p job) hnew
  cases htr with
  | started hopen =>
    refine hset s _ _ rfl ?_
    rintro _ ⟨⟩
    exact hstart _ _ _ _ _ _ rfl hopen
  | advanced hjob hnext' =>
    refine hset s _ _ rfl ?_
    rintro _ ⟨⟩
    exact hnext _ _ _ (h _ _ hjob) hnext'
  | ended _ p => exact hset s p none rfl (fun _ hnone => by cases hnone)
  | committed =>
    exact hset _ _ none (sameFrame_foldl_write s _).jobs (fun _ hnone => by cases hnone)
  | charged _ _ huses =>
    have hjobs : s'.jobs = s.jobs := huses.jobs_eq
    rwa [hjobs]
  | settled huses => rwa [huses.jobs_eq]
  | refunded _ _ huses =>
    intro p job hjob
    exact h p job (by rw [← huses.jobs_eq]; exact hjob)
  | _ => exact h

def SavesResets (job : SubscriptionJob) : Prop :=
  ∀ id sub, (id, .save sub) ∈ job.writes → sub.amountUsed = 0

theorem openJob_writes {now : ℤ} {planFault select : Option Err} {call : SubscriptionCall}
    {job : SubscriptionJob} (h : store.openJob now planFault select call = .ok job) :
    job.writes = [] := by
  unfold openJob at h
  split at h
  all_goals
    split_ifs at h
    split at h
    all_goals
      cases h
      try rfl

theorem SavesResets.next {planFault : Option Err} {job job' : SubscriptionJob}
    (hjob : SavesResets job) (h : job.next cal store planFault = .ok job') : SavesResets job' := by
  unfold SubscriptionJob.next at h
  split at h
  · cases h
    exact hjob
  split at h
  · cases h
    intro k row hmem
    rcases List.mem_append.mp hmem with hold | hnew
    · exact hjob k row hold
    · cases List.mem_singleton.mp hnew
      unfold resetUserSubscription
      split_ifs <;> rfl
  split at h
  · cases h
  cases h
  intro k row hmem
  rcases List.mem_append.mp hmem with hold | hnew
  · exact hjob k row hold
  · obtain ⟨w, hw, heq⟩ := List.mem_map.mp hnew
    cases heq
    exact (syncUserSubscriptionResetTime_save (Option.mem_toList.mp hw)).2

def JobsSaveResets (s : SubscriptionSystem P) : Prop :=
  ∀ p job, s.jobs p = some job → SavesResets job

theorem JobsSaveResets.transition (h : s.JobsSaveResets) (htr : Transition cal s e s') :
    s'.JobsSaveResets := by
  refine htr.forall_job ?_ ?_ h
  · intro p call now planFault select job _ hopen id sub hmem
    rw [openJob_writes hopen] at hmem
    cases hmem
  · intro planFault job job' hjob hnext
    exact hjob.next hnext

end SubscriptionSystem

end TokensFlux
