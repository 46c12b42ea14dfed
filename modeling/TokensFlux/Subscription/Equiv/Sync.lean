import TokensFlux.Subscription.Equiv.System

/-!
# Schedule syncs lose no consumption

As long as no boundary of the plan lies in the interval, a sync writes nothing but the columns of
the schedule.
-/

namespace TokensFlux

open List Function SubscriptionSystem

open Store

section

variable (cal : Calendar) (t₀ t₁ : ℤ) (sub₀ : UserSubscription)

def PeriodBase (b : ℤ) : Prop :=
  b = sub₀.periodStart ∨ (sub₀.periodStart ≤ 0 ∧ t₀ ≤ b ∧ b ≤ t₁)

/-- No boundary of the plan lies in the interval. -/
def Quiet (plan : SubscriptionPlan) : Prop :=
  ∀ b, PeriodBase t₀ t₁ sub₀ b →
    ¬(0 < calcNextResetTime cal b plan sub₀.endTime ∧
      calcNextResetTime cal b plan sub₀.endTime ≤ t₁)

structure InPeriod (sub : UserSubscription) : Prop where
  planId : sub.planId = sub₀.planId
  endTime : sub.endTime = sub₀.endTime
  base : PeriodBase t₀ t₁ sub₀ sub.periodStart

end

variable {cal : Calendar} {t₀ t₁ now : ℤ} {sub₀ sub sub' : UserSubscription}
  {plan : SubscriptionPlan}

/-! ### Copies of the row -/

theorem InPeriod.not_due (h : InPeriod t₀ t₁ sub₀ sub) (hquiet : Quiet cal t₀ t₁ sub₀ plan)
    (hnow : now ≤ t₁) : ¬sub.Due cal plan now := by
  intro hdue
  have hboundary := hquiet sub.periodStart h.base
  rw [UserSubscription.Due, h.endTime] at hdue
  exact hboundary ⟨hdue.1, hdue.2.trans hnow⟩

theorem InPeriod.dueReset (h : InPeriod t₀ t₁ sub₀ sub) (hquiet : Quiet cal t₀ t₁ sub₀ plan)
    (hnow : now ≤ t₁) (hreset : dueReset cal sub plan now = some sub') :
    InPeriod t₀ t₁ sub₀ sub' ∧ sub'.amountUsed = sub.amountUsed := by
  obtain ⟨husage, hperiod⟩ := dueReset_of_not_due (h.not_due hquiet hnow) hreset
  obtain ⟨_, _, rfl⟩ := husage
  exact ⟨⟨h.planId, h.endTime, by rw [hperiod]; exact h.base⟩, rfl⟩

def ScheduleWrite (t₀ t₁ : ℤ) (sub₀ : UserSubscription) (w : SubscriptionWrite) : Prop :=
  ∃ next last, w = .columns next last ∧ ∀ b ∈ last, 0 < b ∧ PeriodBase t₀ t₁ sub₀ b

theorem syncUserSubscriptionResetTime_of_quiet {w : SubscriptionWrite} (ht₀ : 0 < t₀)
    (h : InPeriod t₀ t₁ sub₀ sub) (hquiet : Quiet cal t₀ t₁ sub₀ plan) (hnow₀ : t₀ ≤ now)
    (hnow₁ : now ≤ t₁) (hw : syncUserSubscriptionResetTime cal sub plan now = some w) :
    ScheduleWrite t₀ t₁ sub₀ w := by
  cases w with
  | save => exact absurd (syncUserSubscriptionResetTime_save hw).1 (h.not_due hquiet hnow₁)
  | columns next last =>
    refine ⟨next, last, rfl, ?_⟩
    intro b hb
    rcases syncUserSubscriptionResetTime_columns hw with rfl | rfl
    · cases hb
    cases hb
    unfold UserSubscription.syncBase
    split_ifs with hstart
    · -- The copy has no start yet, so neither had the row.
      have hnone : sub₀.periodStart ≤ 0 := by
        rcases h.base with hbase | ⟨hnone, -⟩
        · rw [← hbase]
          exact hstart
        · exact hnone
      exact ⟨by omega, Or.inr ⟨hnone, hnow₀, hnow₁⟩⟩
    · exact ⟨not_le.mp hstart, h.base⟩

theorem InPeriod.setColumns (h : InPeriod t₀ t₁ sub₀ sub) {next last : Option ℤ}
    (hlast : ∀ b ∈ last, 0 < b ∧ PeriodBase t₀ t₁ sub₀ b) :
    InPeriod t₀ t₁ sub₀
      { sub with
        nextResetTime := next.getD sub.nextResetTime
        lastResetTime := last.getD sub.lastResetTime } := by
  refine ⟨h.planId, h.endTime, ?_⟩
  cases last with
  | none => exact h.base
  | some b =>
    obtain ⟨hpos, hbase⟩ := hlast b rfl
    rw [UserSubscription.periodStart_of_pos hpos]
    exact hbase

/-! ### Syncs under way -/

structure QuietJob (cal : Calendar) (t₀ t₁ id : ℤ) (sub₀ : UserSubscription)
    (job : SubscriptionJob) : Prop where
  clock : t₀ ≤ job.now ∧ job.now ≤ t₁
  task : ∃ given, job.task = .sync given
  todo : ∀ row, (id, row) ∈ job.todo → InPeriod t₀ t₁ sub₀ row ∧
    ∀ plan, job.task = .sync (some plan) → Quiet cal t₀ t₁ sub₀ plan
  writes : ∀ w, (id, w) ∈ job.writes → ScheduleWrite t₀ t₁ sub₀ w

/-- The plan of the sync has no boundary in the interval. -/
def SubscriptionCall.SyncsQuietly (cal : Calendar) (t₀ t₁ : ℤ) (sub₀ : UserSubscription) :
    SubscriptionCall → Prop
  | .syncForUser _ => True
  | .syncForPlan planId plan => planId = sub₀.planId → Quiet cal t₀ t₁ sub₀ plan
  | .adminResetUser _ _ _ => False
  | .adminResetPlan _ _ => False

variable {id : ℤ} {store : Store} {job job' : SubscriptionJob}

theorem lookup_of_mem_planSubscriptions {planId : ℤ} {r : ℤ × UserSubscription}
    (h : r ∈ store.planSubscriptions planId now) :
    store.subs.lookup r.1 = some r.2 ∧ r.2.planId = planId := by
  rw [planSubscriptions, mem_filter, mem_map] at h
  obtain ⟨⟨e, he, rfl⟩, hfilter⟩ := h
  have hplan := of_decide_eq_true hfilter
  exact ⟨AList.mem_lookup_iff.mpr he, hplan.1⟩

theorem QuietJob.of_open {planFault select : Option Err} {call : SubscriptionCall}
    (hrow : ∀ row, store.subs.lookup id = some row → InPeriod t₀ t₁ sub₀ row)
    (hclock : t₀ ≤ now ∧ now ≤ t₁) (hcall : call.SyncsQuietly cal t₀ t₁ sub₀)
    (h : store.openJob now planFault select call = .ok job) : QuietJob cal t₀ t₁ id sub₀ job := by
  unfold openJob at h
  cases call with
  | syncForUser =>
    dsimp only at h
    split_ifs at h
    cases select with
    | some => cases h
    | none =>
      cases h
      refine ⟨hclock, ⟨none, rfl⟩, ?_, fun w hw => absurd hw not_mem_nil⟩
      intro row hmem
      refine ⟨hrow row (lookup_of_mem_activeSubscriptions hmem), ?_⟩
      intro plan hplan
      cases hplan
  | syncForPlan planId plan =>
    dsimp only at h
    split_ifs at h
    cases select with
    | some => cases h
    | none =>
      cases h
      refine ⟨hclock, ⟨some plan, rfl⟩, ?_, fun w hw => absurd hw not_mem_nil⟩
      intro row hmem
      obtain ⟨hlookup, hplanId⟩ := lookup_of_mem_planSubscriptions hmem
      refine ⟨hrow row hlookup, ?_⟩
      intro plan' hplan
      cases hplan
      exact hcall (hplanId.symm.trans (hrow row hlookup).planId)
  | adminResetUser | adminResetPlan => exact hcall.elim

theorem QuietJob.next {planFault : Option Err} (ht₀ : 0 < t₀)
    (hplans : ∀ plan ∈ store.plans sub₀.planId, Quiet cal t₀ t₁ sub₀ plan)
    (hjob : QuietJob cal t₀ t₁ id sub₀ job) (h : job.next cal store planFault = .ok job') :
    QuietJob cal t₀ t₁ id sub₀ job' := by
  obtain ⟨given, hgiven⟩ := hjob.task
  obtain ⟨task, _, todo, _⟩ := job
  obtain rfl : task = .sync given := hgiven
  obtain _ | ⟨r, todo⟩ := todo
  · obtain rfl := Except.ok.inj h
    exact hjob
  obtain ⟨k, row⟩ := r
  unfold SubscriptionJob.next at h
  dsimp only at h
  rcases hplan : given.elim (store.getSubscriptionPlanById planFault row.planId) .ok with _ | plan
  · rw [hplan] at h; cases h
  rw [hplan] at h
  obtain rfl := Except.ok.inj h
  refine ⟨hjob.clock, ⟨given, rfl⟩, ?_, ?_⟩
  · intro row' hmem
    exact hjob.todo row' (mem_cons_of_mem _ hmem)
  intro w hw
  rcases mem_append.mp hw with hold | hnew
  · exact hjob.writes w hold
  obtain ⟨w', hw', heq⟩ := mem_map.mp hnew
  cases heq
  obtain ⟨hperiod, hquiet⟩ := hjob.todo row mem_cons_self
  have hplan' : Quiet cal t₀ t₁ sub₀ plan := by
    cases given with
    | none =>
      have hlookup := getSubscriptionPlanById_ok hplan
      rw [hperiod.planId] at hlookup
      exact hplans plan hlookup
    | some plan' =>
      obtain rfl := Except.ok.inj hplan
      exact hquiet plan' rfl
  exact syncUserSubscriptionResetTime_of_quiet ht₀ hperiod hplan' hjob.clock.1 hjob.clock.2
    (Option.mem_toList.mp hw')

/-! ### The used amount -/

namespace SubscriptionSystem

variable {P : Type} {s s' : SubscriptionSystem P}

structure Kept (t₀ t₁ id : ℤ) (sub₀ : UserSubscription) (s : SubscriptionSystem P) : Prop where
  row : ∃ sub, s.store.subs.lookup id = some sub ∧ InPeriod t₀ t₁ sub₀ sub
  used : s.store.amountUsed id = sub₀.amountUsed + s.committed id

theorem Kept.reset {t : Store} (h : Kept t₀ t₁ id sub₀ s)
    (hplans : ∀ plan ∈ s.store.plans sub₀.planId, Quiet cal t₀ t₁ sub₀ plan) (hnow : now ≤ t₁)
    (hdue : DueResets cal now s.store t) : Kept t₀ t₁ id sub₀ (s.reset t) := by
  obtain ⟨sub, hsub, hperiod⟩ := h.row
  have hkept : ∃ sub', t.subs.lookup id = some sub' ∧ InPeriod t₀ t₁ sub₀ sub' ∧
      sub'.amountUsed = sub.amountUsed := by
    rcases hdue.row id with hsame | ⟨_, plan, sub', hrow, hplan, hreset, hsub'⟩
    · exact ⟨sub, hsame.trans hsub, hperiod, rfl⟩
    · obtain rfl := Option.some.inj (hrow.symm.trans hsub)
      rw [hperiod.planId] at hplan
      exact ⟨sub', hsub', hperiod.dueReset (hplans plan hplan) hnow hreset⟩
  obtain ⟨sub', hsub', hperiod', hused⟩ := hkept
  refine ⟨⟨sub', hsub', hperiod'⟩, ?_⟩
  have hinit := h.used
  rw [amountUsed_of_lookup hsub] at hinit
  rw [show (s.reset t).store = t from rfl, amountUsed_of_lookup hsub', hused]
  exact hinit

theorem Kept.uses {k delta : ℤ} {requestId : String} (h : Kept t₀ t₁ id sub₀ s)
    (huses : s.Uses k requestId delta s') : Kept t₀ t₁ id sub₀ s' := by
  have hused := h.used
  obtain ⟨sub, hsub, hperiod⟩ := h.row
  by_cases hk : id = k
  · subst hk
    constructor
    · obtain ⟨row, records, hrow, -, rfl⟩ := huses
      obtain rfl := Option.some.inj (hrow.symm.trans hsub)
      exact ⟨_, AList.lookup_insert _, hperiod.planId, hperiod.endTime, hperiod.base⟩
    · rw [huses.amountUsed_eq, huses.committed_eq, update_self]
      omega
  constructor
  · obtain ⟨row, records, -, -, rfl⟩ := huses
    exact ⟨sub, (AList.lookup_insert_ne hk).trans hsub, hperiod⟩
  · rw [huses.amountUsed_of_ne hk, huses.committed_eq, update_of_ne hk]
    exact hused

theorem Kept.write {w : ℤ × SubscriptionWrite} (h : Kept t₀ t₁ id sub₀ s)
    (hw : w.1 = id → ScheduleWrite t₀ t₁ sub₀ w.2) : Kept t₀ t₁ id sub₀ (s.write w) := by
  obtain ⟨k, w⟩ := w
  obtain ⟨sub, hsub, hperiod⟩ := h.row
  by_cases hk : k = id
  · subst hk
    obtain ⟨next, last, rfl, hlast⟩ := hw rfl
    refine ⟨⟨_, lookup_write_columns hsub next last, hperiod.setColumns hlast⟩, ?_⟩
    exact (amountUsed_write_columns s.store k k next last).trans h.used
  have hrow : (s.store.write k w).subs.lookup id = s.store.subs.lookup id :=
    lookup_write_of_ne (Ne.symm hk) w
  refine ⟨⟨sub, hrow.trans hsub, hperiod⟩, ?_⟩
  have hused := h.used
  rw [amountUsed, ← hrow] at hused
  exact hused

/-! ### Whole runs -/

def Within (cal : Calendar) (t₀ t₁ : ℤ) (sub₀ : UserSubscription) : SubscriptionEvent P → Prop
  | .preConsume _ _ _ now _ => t₀ ≤ now ∧ now ≤ t₁
  | .resetDue _ now _ _ => t₀ ≤ now ∧ now ≤ t₁
  | .start _ call now _ _ => (t₀ ≤ now ∧ now ≤ t₁) ∧ call.SyncsQuietly cal t₀ t₁ sub₀
  | .setPlans plans => ∀ plan ∈ plans sub₀.planId, Quiet cal t₀ t₁ sub₀ plan
  | _ => True

structure Calm (cal : Calendar) (t₀ t₁ id : ℤ) (sub₀ : UserSubscription)
    (s : SubscriptionSystem P) : Prop extends Kept t₀ t₁ id sub₀ s where
  plans : ∀ plan ∈ s.store.plans sub₀.planId, Quiet cal t₀ t₁ sub₀ plan
  jobs : ∀ p job, s.jobs p = some job → QuietJob cal t₀ t₁ id sub₀ job

variable [DecidableEq P]

theorem Calm.kept {e : SubscriptionEvent P} (h : Calm cal t₀ t₁ id sub₀ s)
    (he : Within cal t₀ t₁ sub₀ e) (htr : Transition cal s e s') : Kept t₀ t₁ id sub₀ s' := by
  have hkept := h.toKept
  cases htr with
  | refused => exact hkept
  | charged hdue _ huses => exact (hkept.reset h.plans he.2 hdue).uses huses
  | settled huses => exact hkept.uses huses
  | refunded _ _ huses =>
    have hs' := hkept.uses huses
    exact ⟨hs'.row, hs'.used⟩
  | reset hdue => exact hkept.reset h.plans he.2 hdue
  | @committed p job hjob =>
    have hwrites : Kept t₀ t₁ id sub₀ (job.writes.foldl write s) := by
      refine foldlRecOn (motive := Kept t₀ t₁ id sub₀) job.writes _ hkept ?_
      intro r hr w hw
      refine hr.write fun hid => (h.jobs p job hjob).writes w.2 ?_
      rw [← hid]
      exact hw
    exact ⟨hwrites.row, hwrites.used⟩
  | @created k sub hfresh =>
    obtain ⟨row, hrow, hperiod⟩ := hkept.row
    have hne : id ≠ k := by
      rintro rfl
      rw [hrow] at hfresh
      cases hfresh
    refine ⟨⟨row, (AList.lookup_insert_ne hne).trans hrow, hperiod⟩, ?_⟩
    rw [amountUsed, AList.lookup_insert_ne hne]
    exact hkept.used
  | _ => exact ⟨hkept.row, hkept.used⟩

theorem Calm.transition {e : SubscriptionEvent P} (ht₀ : 0 < t₀) (h : Calm cal t₀ t₁ id sub₀ s)
    (he : Within cal t₀ t₁ sub₀ e) (htr : Transition cal s e s') : Calm cal t₀ t₁ id sub₀ s' := by
  refine ⟨h.kept he htr, ?_, ?_⟩
  · rcases htr.plans with ⟨_, rfl, hplans⟩ | hplans
    · rw [hplans]
      exact he
    · rw [hplans]
      exact h.plans
  obtain ⟨_, hsub, hperiod⟩ := h.row
  refine htr.forall_job ?_ ?_ h.jobs
  · rintro p _ _ planFault _ job rfl hopen
    refine QuietJob.of_open ?_ he.1 he.2 hopen
    intro row hrow
    obtain rfl := Option.some.inj (hrow.symm.trans hsub)
    exact hperiod
  · intro planFault job job' hjob hnext
    exact hjob.next ht₀ h.plans hnext

/-- No settlement and no refund takes more off the subscription `id` than it has used. -/
def NotCut (id : ℤ) (s : SubscriptionSystem P) : SubscriptionEvent P → Prop
  | .settle _ k delta _ => k = id → 0 ≤ s.store.amountUsed k + delta
  | .refund requestId f =>
    ∀ record ∈ s.store.refundedRecord f requestId,
      record.userSubscriptionId = id → record.preConsumed ≤ s.store.amountUsed id
  | _ => True

omit [DecidableEq P] in
theorem Uses.committed_eq_requested {k delta : ℤ} {requestId : String}
    (huses : s.Uses k requestId delta s') (hcut : k = id → 0 ≤ s.store.amountUsed k + delta)
    (h : s.committed id = s.requested id) : s'.committed id = s'.requested id := by
  rw [huses.committed_eq, huses.requested_eq]
  by_cases hk : id = k
  · subst hk
    rw [update_self, update_self]
    omega
  · rw [update_of_ne hk, update_of_ne hk]
    exact h

theorem Transition.committed_eq_requested {e : SubscriptionEvent P} (htr : Transition cal s e s')
    (hcut : s.NotCut id e) (h : s.committed id = s.requested id) :
    s'.committed id = s'.requested id := by
  cases htr with
  | @charged _ _ _ _ k _ t _ _ hpos huses =>
    refine huses.committed_eq_requested (fun _ => ?_) h
    have hused := (s.reset t).store.amountUsed_nonneg k
    omega
  | settled huses => exact huses.committed_eq_requested hcut h
  | refunded hrecord _ huses =>
    refine huses.committed_eq_requested (fun hid => ?_) h
    have hamount := hcut _ hrecord hid
    rw [hid]
    omega
  | @committed p job _ =>
    have hframe := sameFrame_foldl_write s job.writes
    show (job.writes.foldl write s).committed id = (job.writes.foldl write s).requested id
    rw [hframe.committed, hframe.requested]
    exact h
  | _ => exact h

end SubscriptionSystem

/-- **No consumption is lost to a sync** while no boundary of its plan lies between `t₀` and `t₁`.
-/
theorem syncs_keep_usage {P : Type} [DecidableEq P] (cal : Calendar) (t₀ t₁ : ℤ) (ht₀ : 0 < t₀)
    (store : Store) (id : ℤ) (sub₀ : UserSubscription) (hsub : store.subs.lookup id = some sub₀)
    (hplans : ∀ plan ∈ store.plans sub₀.planId, Quiet cal t₀ t₁ sub₀ plan)
    (es : List (SubscriptionEvent P))
    (hes : ∀ e ∈ es, SubscriptionSystem.Within cal t₀ t₁ sub₀ e) :
    let s := es.foldl (step cal) (.init store)
    s.store.amountUsed id = sub₀.amountUsed + s.committed id ∧
      (Guarded (step cal) (SubscriptionSystem.NotCut id) (.init store) es →
        s.committed id = s.requested id) := by
  have hinit : SubscriptionSystem.Calm cal t₀ t₁ id sub₀ (init store : SubscriptionSystem P) := by
    refine ⟨⟨⟨sub₀, hsub, rfl, rfl, Or.inl rfl⟩, ?_⟩, hplans, ?_⟩
    · show store.amountUsed id = sub₀.amountUsed + 0
      rw [amountUsed_of_lookup hsub, add_zero]
    · intro p job hjob
      cases hjob
  have hrun : SubscriptionSystem.Calm cal t₀ t₁ id sub₀ (es.foldl (step cal) (.init store)) :=
    foldlRecOn es _ hinit fun s hs e he =>
      hs.transition ht₀ (hes e he) (step_transition cal s e)
  refine ⟨hrun.used, ?_⟩
  intro hcut
  have hstep : ∀ (s : SubscriptionSystem P) (e : SubscriptionEvent P),
      s.committed id = s.requested id → s.NotCut id e → (s.step cal e).committed id =
        (s.step cal e).requested id :=
    fun s e hs he =>
      (step_transition cal s e).committed_eq_requested he hs
  exact Guarded.invariant hstep rfl hcut

def dailyPlan : SubscriptionPlan := .ofPeriod "daily"

def dailySubscription : UserSubscription where
  userId := 1
  planId := 2
  amountTotal := 100
  amountUsed := 20
  startTime := 1000
  endTime := 1000000
  status := .active
  lastResetTime := 0
  nextResetTime := 86400
  allowWalletOverflow := false

theorem quiet_dailyPlan : Quiet .utc 2000 5000 dailySubscription dailyPlan := by
  intro b hb
  have hday : b / 86400 = 0 := by
    rcases hb with rfl | ⟨-, hb⟩
    · decide
    · omega
  have hnext : Calendar.utc.nextDay b = 86400 := by
    rw [Calendar.utc_nextDay, hday]
    rfl
  have hperiod : normalizeResetPeriod dailyPlan.quotaResetPeriod = .daily := by decide
  rw [calcNextResetTime, hperiod]
  dsimp only
  rw [hnext]
  decide

def dailyStore : Store :=
  { Store.empty with
    subs := (∅ : AList fun _ : ℤ => UserSubscription).insert 3 dailySubscription
    plans := fun _ => some dailyPlan }

def syncEvents : List (SubscriptionEvent Unit) :=
  [.start () (.syncForUser 1) 2000 none none, .preConsume "a" 1 40 2500 {}, .next () none,
    .commit (), .start () (.syncForPlan 2 dailyPlan) 3000 none none, .settle "a" 3 (-10) {},
    .preConsume "b" 1 5 3000 {}, .next () none, .commit ()]

theorem within_syncEvents :
    ∀ e ∈ syncEvents, SubscriptionSystem.Within .utc 2000 5000 dailySubscription e := by
  intro e he
  simp only [syncEvents, mem_cons, not_mem_nil, or_false] at he
  rcases he with rfl | rfl | rfl | rfl | rfl | rfl | rfl | rfl | rfl
  · exact ⟨by decide, trivial⟩
  · exact ⟨by decide, by decide⟩
  · trivial
  · trivial
  · exact ⟨by decide, fun _ => quiet_dailyPlan⟩
  · trivial
  · exact ⟨by decide, by decide⟩
  · trivial
  · trivial

theorem syncs_keep_usage_of_two : let s := syncEvents.foldl (step .utc) (.init dailyStore)
    (s.store.amountUsed 3 = dailySubscription.amountUsed + s.committed 3 ∧
        (Guarded (step .utc) (SubscriptionSystem.NotCut 3) (.init dailyStore)
          syncEvents → s.committed 3 = s.requested 3)) ∧
      s.store.amountUsed 3 = 55 :=
  ⟨syncs_keep_usage .utc 2000 5000 (by decide) dailyStore 3 dailySubscription
    (AList.lookup_insert _)
    (fun plan hplan => Option.some.inj hplan ▸ quiet_dailyPlan) syncEvents within_syncEvents,
    by decide +kernel⟩

/-- All clocks show 90000, when the boundary at 86400 is overdue and the next one is far: the sync
reads its copy, the request resets the subscription and charges 40, and the sync saves a reset of
its copy over it. -/
theorem syncs_lose_usage_of_overdue :
    let es : List (SubscriptionEvent Unit) := [.start () (.syncForUser 1) 90000 none none,
      .preConsume "a" 1 40 90000 {}, .next () none, .commit ()]
    let s := es.foldl (step .utc) (.init dailyStore)
    calcNextResetTime .utc dailySubscription.periodStart dailyPlan
      dailySubscription.endTime = 86400 ∧
      calcNextResetTime .utc 86400 dailyPlan dailySubscription.endTime = 172800 ∧
      (s.store.records.lookup "a").map (fun record => (record.status, record.preConsumed))
        = some (.consumed, 40) ∧
      s.requested 3 = 40 ∧ s.committed 3 = 40 ∧ s.store.amountUsed 3 = 0 := by
  decide +kernel

end TokensFlux
