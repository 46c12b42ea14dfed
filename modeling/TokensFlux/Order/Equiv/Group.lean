import TokensFlux.Order.Group
import TokensFlux.Order.Equiv.Basic

/-!
# The group a subscriber goes back to

The recorded group is the original one only if no other subscription with a group was active.  The
invariant: a user in another group has a first subscription, which came from the original group, and
all others end before it.
-/

namespace TokensFlux

open List

open OrderStore

structure GroupSystem where
  store : OrderStore
  clock : ℤ

inductive GroupEvent
  | create (userId : ℤ) (plan : PurchasePlan) (source : String) (f : CreateFaults)
  | expire (userId now : ℤ) (f : DowngradeFaults)
  /-- All the transactions of a round, with nothing in between. -/
  | expireDue (f : ℤ → DowngradeFaults) (order : List ℤ → List ℤ) (limit now : ℤ)
  | invalidate (id now : ℤ) (f : DowngradeFaults)
  | delete (id now : ℤ) (f : DowngradeFaults)

namespace GroupEvent

def now : GroupEvent → ℤ
  | create _ _ _ f => f.dbNow
  | expire _ now _ => now
  | expireDue _ _ _ now => now
  | invalidate _ now _ => now
  | delete _ now _ => now

def run (env : OrderEnv) (s : OrderStore) : GroupEvent → Except Err OrderStore
  | create userId plan source f =>
    (s.createUserSubscriptionFromPlanTx env f userId plan source).map Prod.fst
  | expire userId now f => (s.expireUserSubscriptions f userId now).map Prod.fst
  | expireDue f order limit now => .ok (s.expireDueSubscriptions f order limit now)
  | invalidate id now f => (s.adminInvalidateUserSubscription f id now).map Prod.fst
  | delete id now f => (s.adminDeleteUserSubscription f id now).map Prod.fst

end GroupEvent

/-- A transaction that fails leaves the tables as they are. -/
def GroupSystem.step (env : OrderEnv) (s : GroupSystem) (e : GroupEvent) : GroupSystem where
  store := match e.run env s.store with
    | .ok store => store
    | .error _ => s.store
  clock := e.now

/-! ### Rows and groups -/

variable {f : DowngradeFaults} {s s' st : OrderStore} {g₀ target : String}
  {row sub : SubscriptionRow}
  {id now u userId : ℤ} {l r : ℤ × SubscriptionRow}

theorem SubscriptionTable.mem_of_get {t : SubscriptionTable} (h : t.get id = some row) :
    (id, row) ∈ t.rows := by
  obtain ⟨r, hr, rfl⟩ := Option.map_eq_some_iff.mp h
  have hid : r.1 = id := by simpa using find?_some hr
  rw [← hid]
  exact mem_of_find?_eq_some hr

theorem SubscriptionTable.eq_of_mem {t : SubscriptionTable} {row' : SubscriptionRow}
    (h : (id, row) ∈ t.rows) (h' : (id, row') ∈ t.rows) : row = row' := by
  have hnodup : (t.rows.map Prod.fst).Nodup :=
    ((pairwise_append.mp t.ids_sorted).1.imp fun hlt => ne_of_lt hlt)
  have := inj_on_of_nodup_map hnodup h h' rfl
  exact (Prod.mk.inj this).2

theorem userGroup_setUserGroup (s : OrderStore) (k u : ℤ) (group : String) :
    (s.setUserGroup k group).userGroup u
      = if k = u ∧ (s.users u).isSome then group else s.userGroup u := by
  unfold setUserGroup userGroup
  by_cases hku : k = u
  · subst hku
    cases s.users k <;> simp
  · simp [Function.update_of_ne (Ne.symm hku), hku]

theorem isSome_users_setUserGroup (s : OrderStore) (k u : ℤ) (group : String) :
    ((s.setUserGroup k group).users u).isSome = (s.users u).isSome := by
  unfold setUserGroup
  by_cases hku : u = k
  · subst hku
    simp
  · simp [Function.update_of_ne hku]

structure GroupKept (u : ℤ) (g₀ : String) (s s' : OrderStore) : Prop where
  subs : s'.subs = s.subs
  user : (s'.users u).isSome = (s.users u).isSome
  group : s'.userGroup u = s.userGroup u ∨ s'.userGroup u = g₀

theorem GroupKept.refl (u : ℤ) (g₀ : String) (s : OrderStore) : GroupKept u g₀ s s :=
  ⟨rfl, rfl, Or.inl rfl⟩

structure Plain (g₀ : String) (row : SubscriptionRow) : Prop where
  downgradeGroup : row.downgradeGroup = ""
  trimmed : trimSpace row.upgradeGroup = row.upgradeGroup
  prevUserGroup : row.upgradeGroup = "" ∨ row.prevUserGroup = "" ∨
    (row.prevUserGroup = g₀ ∧ row.upgradeGroup ≠ g₀)

theorem Plain.downgradeTarget_eq (h : Plain g₀ row) (group : String) :
    row.downgradeTarget group
      = if row.upgradeGroup = "" ∨ group ≠ row.upgradeGroup ∨ trimSpace row.prevUserGroup = "" ∨
          trimSpace row.prevUserGroup = group then none
        else some (trimSpace row.prevUserGroup) := by
  have hempty : trimSpace "" = "" := by decide
  unfold SubscriptionRow.downgradeTarget
  rw [h.downgradeGroup, h.trimmed, hempty]
  by_cases hupgrade : row.upgradeGroup = ""
  · simp [hupgrade]
  by_cases hcurrent : group = row.upgradeGroup <;> simp [hupgrade, hcurrent]

theorem Plain.downgradeTarget (h : Plain g₀ row) (htrim : trimSpace g₀ = g₀) (group : String) :
    row.downgradeTarget group = none ∨ row.downgradeTarget group = some g₀ := by
  have hempty : trimSpace "" = "" := by decide
  rw [h.downgradeTarget_eq]
  split_ifs with hnone
  · exact .inl rfl
  right
  push Not at hnone
  rcases h.prevUserGroup with hup | hprev | ⟨hprev, -⟩
  · exact absurd hup hnone.1
  · rw [hprev] at hnone
    exact absurd hempty hnone.2.2.1
  · rw [hprev, htrim]

theorem Plain.downgradeTarget_of_first (h : Plain g₀ row)
    (htrim : trimSpace g₀ = g₀) (hg₀ : g₀ ≠ "")
    (hprev : row.prevUserGroup = g₀) (hupgrade : row.upgradeGroup ≠ "") :
    row.downgradeTarget row.upgradeGroup = some g₀ := by
  have hne : row.upgradeGroup ≠ g₀ := by
    rcases h.prevUserGroup with hup | hprev' | ⟨-, hne⟩
    · exact absurd hup hupgrade
    · rw [hprev'] at hprev
      exact absurd hprev.symm hg₀
    · exact hne
  rw [h.downgradeTarget_eq, hprev, htrim]
  simp [hupgrade, hg₀, Ne.symm hne]

theorem applyDowngrade_kept (htrim : trimSpace g₀ = g₀) (hplain : sub.userId = u → Plain g₀ sub)
    (h : s.applyDowngrade f sub = .ok (s', target)) : GroupKept u g₀ s s' := by
  unfold applyDowngrade at h
  split at h
  · cases h
    exact .refl u g₀ s
  rename_i group hgroup
  split at h
  · cases h
  cases h
  refine ⟨rfl, isSome_users_setUserGroup s _ u _, ?_⟩
  rw [userGroup_setUserGroup]
  split_ifs with hu
  · right
    rcases (hplain hu.1).downgradeTarget htrim (s.userGroup sub.userId) with hnone | hsome
    · rw [hnone] at hgroup
      cases hgroup
    · rw [hsome] at hgroup
      exact (Option.some.inj hgroup).symm
  · exact .inl rfl

theorem downgradeTx_kept (htrim : trimSpace g₀ = g₀) (hplain : sub.userId = u → Plain g₀ sub)
    (h : s.downgradeUserGroupForSubscriptionTx f id sub now = .ok (s', target)) :
    GroupKept u g₀ s s' := by
  unfold downgradeUserGroupForSubscriptionTx at h
  split at h
  · cases h
    exact .refl u g₀ s
  split at h
  · cases h
  split at h
  · cases h
    exact .refl u g₀ s
  · exact applyDowngrade_kept htrim hplain h

section First

variable (htrim : trimSpace g₀ = g₀) (hg₀ : g₀ ≠ "") (huser : (s.users u).isSome)
  (hu : sub.userId = u)
  (hplain : Plain g₀ sub) (hprev : sub.prevUserGroup = g₀) (hupgrade : sub.upgradeGroup ≠ "")
  (hgroup : sub.upgradeGroup = s.userGroup u)

include htrim hg₀ huser hu hplain hprev hupgrade hgroup

theorem applyDowngrade_first (h : s.applyDowngrade f sub = .ok (s', target)) :
    s'.userGroup u = g₀ := by
  unfold applyDowngrade at h
  rw [hu, ← hgroup, hplain.downgradeTarget_of_first htrim hg₀ hprev hupgrade] at h
  dsimp only at h
  split at h
  · cases h
  · cases h
    rw [userGroup_setUserGroup, if_pos ⟨rfl, huser⟩]

theorem downgradeTx_first (hlast : ∀ r ∈ s.upgradedSubscriptions u now, r.1 = id)
    (h : s.downgradeUserGroupForSubscriptionTx f id sub now = .ok (s', target)) :
    s'.userGroup u = g₀ := by
  have hother : (s.upgradedSubscriptions sub.userId now).any (·.1 ≠ id) = false := by
    rw [hu, any_eq_false]
    intro r hr
    simpa using hlast r hr
  unfold downgradeUserGroupForSubscriptionTx at h
  rw [hplain.trimmed, if_neg fun hblank => hupgrade hblank.2, hother] at h
  split at h
  · cases h
  · rw [if_neg (by simp)] at h
    exact applyDowngrade_first htrim hg₀ huser hu hplain hprev hupgrade hgroup h

end First

instance : Std.Total endsAfter where
  total a b := by
    unfold endsAfter
    omega

instance : IsTrans (ℤ × SubscriptionRow) endsAfter where
  trans a b c := by
    unfold endsAfter
    omega

theorem lastExpired_eq (hl : l ∈ s.subs.rows) (hu : l.2.userId = u)
    (hexpired : l.2.status = .expired) (hupgrade : l.2.upgradeGroup ≠ "")
    (hlast : ∀ r ∈ s.subs.rows, r.2.userId = u → r.2.status = .expired → r.2.downgradeGroup ≠ "" ∨
      r.2.upgradeGroup ≠ "" → r = l ∨ ¬endsAfter r l) :
    s.lastExpired u = some l.2 := by
  unfold lastExpired
  set rows := s.subs.rows.filter fun r => r.2.userId = u && r.2.status = .expired &&
    (r.2.downgradeGroup ≠ "" || r.2.upgradeGroup ≠ "") with hrows
  have hmem : l ∈ rows.insertionSort endsAfter := by
    rw [mem_insertionSort, hrows, mem_filter]
    exact ⟨hl, by simp [hu, hexpired, hupgrade]⟩
  have hsorted := pairwise_insertionSort endsAfter rows
  rcases hsort : rows.insertionSort endsAfter with _ | ⟨a, _⟩
  · rw [hsort] at hmem
    cases hmem
  have ha : a ∈ rows.insertionSort endsAfter := by
    rw [hsort]
    exact mem_cons_self
  rw [mem_insertionSort, hrows, mem_filter] at ha
  have hcond := ha.2
  simp only [Bool.and_eq_true, decide_eq_true_eq, Bool.or_eq_true] at hcond
  have heq : a = l := by
    rcases hlast a ha.1 hcond.1.1 hcond.1.2 hcond.2 with h | h
    · exact h
    rw [hsort] at hmem hsorted
    rcases mem_cons.mp hmem with h' | h'
    · exact h'.symm
    · exact absurd (rel_of_pairwise_cons hsorted h') h
  rw [heq]
  rfl

/-! ### The invariant -/

/-- `l` is the subscription that brought `u` from `g₀` to their group; every other one that is not
cancelled ends before it. -/
structure IsFirst (u : ℤ) (g₀ : String) (s : OrderStore) (l : ℤ × SubscriptionRow) : Prop where
  mem : l ∈ s.subs.rows
  userId : l.2.userId = u
  status : l.2.status = .active
  upgradeGroup : l.2.upgradeGroup = s.userGroup u
  nonempty : l.2.upgradeGroup ≠ ""
  prevUserGroup : l.2.prevUserGroup = g₀
  last : ∀ r ∈ s.subs.rows, r.2.userId = u → r.2.upgradeGroup ≠ "" → r.2.status ≠ .cancelled →
    r = l ∨ ¬endsAfter r l

structure GroupInv (u : ℤ) (g₀ : String) (s : GroupSystem) : Prop where
  user : (s.store.users u).isSome
  plain : ∀ r ∈ s.store.subs.rows, r.2.userId = u → Plain g₀ r.2
  expired : ∀ r ∈ s.store.subs.rows, r.2.userId = u → r.2.upgradeGroup ≠ "" →
    r.2.status = .expired → r.2.endTime ≤ s.clock
  first : s.store.userGroup u = g₀ ∨ ∃ l, IsFirst u g₀ s.store l

def NoneLeft (u : ℤ) (s : OrderStore) : Prop :=
  ∀ r ∈ s.subs.rows, r.2.userId = u → r.2.status = .active → r.2.upgradeGroup = ""

theorem GroupInv.restored {s : GroupSystem} (h : GroupInv u g₀ s) (hnone : NoneLeft u s.store) :
    s.store.userGroup u = g₀ := by
  rcases h.first with hg | ⟨l, hl⟩
  · exact hg
  · exact absurd (hnone l hl.mem hl.userId hl.status) hl.nonempty

theorem GroupInv.tick {s : GroupSystem} (h : GroupInv u g₀ s) (hnow : s.clock ≤ now) :
    GroupInv u g₀ ⟨s.store, now⟩ :=
  ⟨h.user, h.plain, fun r hr hu hup hstatus => (h.expired r hr hu hup hstatus).trans hnow, h.first⟩

/-! ### Endings -/

section Ending

variable {u : ℤ} {g₀ : String} {s : GroupSystem} {now : ℤ}

theorem IsFirst.upgraded (hl : IsFirst u g₀ st l) (hend : l.2.endTime ≤ now)
    (hr : r ∈ st.upgradedSubscriptions u now) : False := by
  unfold upgradedSubscriptions at hr
  simp only [mem_filter, Bool.and_eq_true, decide_eq_true_eq] at hr
  obtain ⟨hmem, ⟨⟨hu, hactive⟩, _⟩, hup⟩ := hr
  rcases hl.last r hmem hu hup (by simp [hactive]) with rfl | hbefore
  · omega
  · unfold endsAfter at hbefore
    omega

structure EndedRow (now : ℤ) (r r' : ℤ × SubscriptionRow) : Prop where
  id : r'.1 = r.1
  userId : r'.2.userId = r.2.userId
  upgradeGroup : r'.2.upgradeGroup = r.2.upgradeGroup
  prevUserGroup : r'.2.prevUserGroup = r.2.prevUserGroup
  downgradeGroup : r'.2.downgradeGroup = r.2.downgradeGroup
  kept : r'.2.status ≠ .cancelled → r.2.status ≠ .cancelled ∧ r'.2.endTime = r.2.endTime
  expired : r'.2.status = .expired → r.2.status = .expired ∨ r'.2.endTime ≤ now

theorem EndedRow.refl (now : ℤ) (r : ℤ × SubscriptionRow) : EndedRow now r r :=
  ⟨rfl, rfl, rfl, rfl, rfl, fun h => ⟨h, rfl⟩, Or.inl⟩

theorem EndedRow.plain {r' : ℤ × SubscriptionRow} (h : EndedRow now r r')
    (hplain : r.2.userId = u → Plain g₀ r.2) (hu : r'.2.userId = u) : Plain g₀ r'.2 := by
  obtain ⟨hdown, htrimmed, hprev⟩ := hplain (h.userId.symm.trans hu)
  rw [← h.downgradeGroup] at hdown
  rw [← h.upgradeGroup] at htrimmed hprev
  rw [← h.prevUserGroup] at hprev
  exact ⟨hdown, htrimmed, hprev⟩

/-- Rows are told apart by their ids. -/
theorem EndedRow.last {r' : ℤ × SubscriptionRow} {l' : SubscriptionRow} (h : EndedRow now r r')
    (hr' : r' ∈ st.subs.rows) (hl' : (l.1, l') ∈ st.subs.rows) (hlend : l'.endTime = l.2.endTime)
    (hend : r'.2.endTime = r.2.endTime) (hrl : r = l ∨ ¬endsAfter r l) :
    r' = (l.1, l') ∨ ¬endsAfter r' (l.1, l') := by
  rcases hrl with rfl | hbefore
  · left
    have hrow : (r.1, r'.2) ∈ st.subs.rows := by
      rw [← h.id]
      exact hr'
    exact Prod.ext h.id (SubscriptionTable.eq_of_mem hrow hl')
  right
  unfold endsAfter at hbefore ⊢
  rw [h.id, hend, hlend]
  exact hbefore

theorem GroupInv.of_ending (h : GroupInv u g₀ s) (hnow : s.clock ≤ now)
    (huser : (st.users u).isSome = (s.store.users u).isSome)
    (hrows : ∀ r' ∈ st.subs.rows, ∃ r ∈ s.store.subs.rows, EndedRow now r r')
    (hgroup : st.userGroup u = g₀ ∨
      (st.userGroup u = s.store.userGroup u ∧ ∀ l, IsFirst u g₀ s.store l → l ∈ st.subs.rows)) :
    GroupInv u g₀ ⟨st, now⟩ := by
  refine ⟨huser.trans h.user, ?_, ?_, ?_⟩
  · intro r' hr' hu
    obtain ⟨r, hr, hended⟩ := hrows r' hr'
    exact hended.plain (h.plain r hr) hu
  · intro r' hr' hu hup hexpired
    obtain ⟨r, hr, hended⟩ := hrows r' hr'
    rw [hended.upgradeGroup] at hup
    rcases hended.expired hexpired with hold | hnew
    · rw [(hended.kept (by simp [hexpired])).2]
      exact (h.expired r hr (hended.userId.symm.trans hu) hup hold).trans hnow
    · exact hnew
  rcases hgroup with hg | ⟨hg, hkeeps⟩
  · exact .inl hg
  rcases h.first with hfirst | ⟨l, hl⟩
  · exact .inl (hg.trans hfirst)
  refine .inr ⟨l, hkeeps l hl, hl.userId, hl.status, hl.upgradeGroup.trans hg.symm,
    hl.nonempty, hl.prevUserGroup, ?_⟩
  intro r' hr' hu hup hstatus
  obtain ⟨r, hr, hended⟩ := hrows r' hr'
  rw [hended.upgradeGroup] at hup
  obtain ⟨hstatus', hend⟩ := hended.kept hstatus
  exact hended.last hr' (hkeeps l hl) rfl hend
    (hl.last r hr (hended.userId.symm.trans hu) hup hstatus')

/-- An administrator does not end the first subscription while another one is active. -/
def EndsLast (u : ℤ) (s : OrderStore) (id now : ℤ) : Prop :=
  ∀ sub, s.subs.get id = some sub → sub.userId = u → sub.status = .active → now < sub.endTime →
    sub.prevUserGroup ≠ "" → ∀ r ∈ s.upgradedSubscriptions u now, r.1 = id

theorem EndsLast.upgraded (hlast : EndsLast u st id now) (hg₀ : g₀ ≠ "")
    (hsub : st.subs.get id = some sub)
    (hl : IsFirst u g₀ st (id, sub)) : ∀ r ∈ st.upgradedSubscriptions u now, r.1 = id := by
  intro r hr
  by_cases hend : now < sub.endTime
  · apply hlast sub hsub hl.userId hl.status hend ?_ r hr
    rw [hl.prevUserGroup]
    exact hg₀
  · exact (hl.upgraded (not_lt.mp hend) hr).elim

theorem IsFirst.ne_of_not (hl : IsFirst u g₀ st l) (hmem : (id, sub) ∈ st.subs.rows)
    (h : ¬IsFirst u g₀ st (id, sub)) : l.1 ≠ id := by
  rintro rfl
  rw [SubscriptionTable.eq_of_mem hmem hl.mem] at h
  exact h hl

theorem mem_cancelSubscription {r' : ℤ × SubscriptionRow}
    (h : r' ∈ (st.cancelSubscription id now).subs.rows) :
    ∃ r ∈ st.subs.rows, EndedRow now r r' ∧ (r'.2.status = .active → r' = r) := by
  obtain ⟨r, hr, rfl⟩ := mem_map.mp h
  refine ⟨r, hr, ?_⟩
  by_cases hid : r.1 = id
  · simp only [if_pos hid]
    constructor
    · constructor <;> simp
    · simp
  · simp only [if_neg hid]
    exact ⟨.refl now r, by simp⟩

theorem GroupInv.invalidate (h : GroupInv u g₀ s) (htrim : trimSpace g₀ = g₀) (hg₀ : g₀ ≠ "")
    (hnow : s.clock ≤ now) (hlast : EndsLast u s.store id now)
    (hrun : s.store.adminInvalidateUserSubscription f id now = .ok (st, target)) :
    GroupInv u g₀ ⟨st, now⟩ := by
  unfold adminInvalidateUserSubscription at hrun
  split_ifs at hrun with hid
  have htx := (Store.commitTx_ok hrun).2
  split at htx
  · cases htx
  · cases htx
  rename_i sub hsub _
  have hmem := SubscriptionTable.mem_of_get hsub
  obtain ⟨hsubs, huser, hgroup⟩ := downgradeTx_kept htrim (h.plain _ hmem) htx
  refine h.of_ending hnow huser ?_ ?_
  · intro r' hr'
    rw [hsubs] at hr'
    obtain ⟨r, hr, hended, -⟩ := mem_cancelSubscription hr'
    exact ⟨r, hr, hended⟩
  by_cases hfirst : IsFirst u g₀ s.store (id, sub)
  · -- The first subscription is cancelled, and no other one is left.
    left
    have hnone : ∀ r ∈ (s.store.cancelSubscription id now).upgradedSubscriptions u now,
        r.1 = id := by
      intro r' hr'
      obtain ⟨hr', hcond⟩ := mem_filter.mp hr'
      obtain ⟨r, hr, -, hactive⟩ := mem_cancelSubscription hr'
      obtain rfl := hactive (by simp at hcond; exact hcond.1.1.2)
      exact hlast.upgraded hg₀ hsub hfirst r' (mem_filter.mpr ⟨hr, hcond⟩)
    exact downgradeTx_first (s := s.store.cancelSubscription id now) htrim hg₀ h.user
      hfirst.userId (h.plain _ hmem hfirst.userId) hfirst.prevUserGroup hfirst.nonempty
      hfirst.upgradeGroup hnone htx
  rcases hgroup with hsame | hg
  · refine .inr ⟨hsame, fun l hl => ?_⟩
    have hlid := hl.ne_of_not hmem hfirst
    rw [hsubs]
    refine mem_map.mpr ⟨l, hl.mem, ?_⟩
    dsimp only
    rw [if_neg hlid]
  · exact .inl hg

theorem GroupInv.delete (h : GroupInv u g₀ s) (htrim : trimSpace g₀ = g₀) (hg₀ : g₀ ≠ "")
    (hnow : s.clock ≤ now) (hlast : EndsLast u s.store id now)
    (hrun : s.store.adminDeleteUserSubscription f id now = .ok (st, target)) :
    GroupInv u g₀ ⟨st, now⟩ := by
  unfold adminDeleteUserSubscription at hrun
  split_ifs at hrun with hid
  have htx := (Store.commitTx_ok hrun).2
  split at htx
  · cases htx
  · cases htx
  rename_i sub hsub _
  split at htx
  · cases htx
  · cases htx
  rename_i s₁ target₁ hdowngrade _
  cases htx
  have hmem := SubscriptionTable.mem_of_get hsub
  obtain ⟨hsubs, huser, hgroup⟩ := downgradeTx_kept htrim (h.plain _ hmem) hdowngrade
  have hrows : (s₁.deleteSubscription id).subs.rows
      = s.store.subs.rows.filter fun r => r.1 ≠ id := by
    rw [← hsubs]
    rfl
  refine h.of_ending hnow huser ?_ ?_
  · intro r' hr'
    rw [hrows] at hr'
    exact ⟨r', mem_of_mem_filter hr', .refl now r'⟩
  by_cases hfirst : IsFirst u g₀ s.store (id, sub)
  · left
    have hrestored := downgradeTx_first htrim hg₀ h.user hfirst.userId
      (h.plain _ hmem hfirst.userId) hfirst.prevUserGroup hfirst.nonempty hfirst.upgradeGroup
      (hlast.upgraded hg₀ hsub hfirst) hdowngrade
    exact hrestored
  rcases hgroup with hsame | hg
  · refine .inr ⟨hsame, fun l hl => ?_⟩
    have hlid := hl.ne_of_not hmem hfirst
    rw [hrows]
    exact mem_filter.mpr ⟨hl.mem, by simpa using hlid⟩
  · exact .inl hg

theorem mem_expireSubscriptions {r' : ℤ × SubscriptionRow}
    (h : r' ∈ (st.expireSubscriptions userId now).subs.rows) :
    ∃ r ∈ st.subs.rows, EndedRow now r r' ∧ (r'.2.status = .active → r' = r) := by
  obtain ⟨r, hr, rfl⟩ := mem_map.mp h
  refine ⟨r, hr, ?_⟩
  by_cases hdue : (r.2.userId = userId && isDue now r.2) = true
  · simp only [if_pos hdue]
    have hended : r.2.status = .active ∧ r.2.endTime ≤ now := by
      simp only [isDue, Bool.and_eq_true, decide_eq_true_eq] at hdue
      exact ⟨hdue.2.1.1, hdue.2.2⟩
    constructor
    · constructor <;> simp [hended]
    · simp
  · simp only [if_neg hdue]
    exact ⟨.refl now r, by simp⟩

theorem IsFirst.expire (hl : IsFirst u g₀ st l)
    (hplain : ∀ r ∈ st.subs.rows, r.2.userId = u → Plain g₀ r.2) (hdue : isDue now l.2 = true) :
    (st.expireSubscriptions u now).upgradedSubscriptions u now = [] ∧
      (st.expireSubscriptions u now).lastExpired u = some { l.2 with status := .expired } := by
  have hend : l.2.endTime ≤ now := by
    simp only [isDue, Bool.and_eq_true, decide_eq_true_eq] at hdue
    exact hdue.2
  constructor
  · rw [eq_nil_iff_forall_not_mem]
    intro r' hr'
    obtain ⟨hr', hcond⟩ := mem_filter.mp hr'
    obtain ⟨r, hr, -, hactive⟩ := mem_expireSubscriptions hr'
    obtain rfl := hactive (by simp at hcond; exact hcond.1.1.2)
    exact hl.upgraded hend (mem_filter.mpr ⟨hr, hcond⟩)
  have hl' : (l.1, { l.2 with status := .expired }) ∈ (st.expireSubscriptions u now).subs.rows := by
    refine mem_map.mpr ⟨l, hl.mem, ?_⟩
    dsimp only
    rw [if_pos (by simp [hl.userId, hdue])]
  apply lastExpired_eq hl' hl.userId rfl hl.nonempty
  intro r' hr' hu hexpired hgroup
  obtain ⟨r, hr, hended, -⟩ := mem_expireSubscriptions hr'
  have hu' := hended.userId.symm.trans hu
  obtain ⟨hstatus, hsame⟩ := hended.kept (by simp [hexpired])
  have hup : r.2.upgradeGroup ≠ "" := by
    rcases hgroup with hdown | hup
    · rw [hended.downgradeGroup, (hplain r hr hu').downgradeGroup] at hdown
      exact absurd rfl hdown
    · rwa [← hended.upgradeGroup]
  exact hended.last hr' hl' rfl hsame (hl.last r hr hu' hup hstatus)

theorem lastExpired_mem (h : st.lastExpired userId = some sub) :
    ∃ id, (id, sub) ∈ st.subs.rows ∧ sub.userId = userId := by
  obtain ⟨r, hr, rfl⟩ := Option.map_eq_some_iff.mp h
  have hmem := (mem_insertionSort _).mp (mem_of_mem_head? hr)
  obtain ⟨hrow, hcond⟩ := mem_filter.mp hmem
  exact ⟨r.1, hrow, by simp at hcond; exact hcond.1.1⟩

theorem expireUserSubscriptions_ok {st' : OrderStore} {n : ℕ} (hquery : f.lastExpired = none)
    (h : st.expireUserSubscriptions f userId now = .ok (st', n)) :
    let s₁ := st.expireSubscriptions userId now
    (st' = s₁ ∧ (s₁.upgradedSubscriptions userId now ≠ [] ∨ s₁.lastExpired userId = none)) ∨
      ∃ sub target, s₁.lastExpired userId = some sub ∧ s₁.applyDowngrade f sub =
        .ok (st', target) := by
  have htx := (Store.commitTx_ok h).2
  intro s₁
  split at htx
  · cases htx
  by_cases hactive : f.active = none ∧ s₁.upgradedSubscriptions userId now ≠ []
  · rw [if_pos hactive] at htx
    cases htx
    exact .inl ⟨rfl, Or.inl hactive.2⟩
  rw [if_neg hactive, hquery] at htx
  cases hlast : s₁.lastExpired userId with
  | none =>
    rw [hlast] at htx
    cases htx
    exact .inl ⟨rfl, Or.inr rfl⟩
  | some sub =>
    rw [hlast] at htx
    dsimp only at htx
    split at htx
    · cases htx
    cases hdown : s₁.applyDowngrade f sub with
    | error =>
      rw [hdown] at htx
      cases htx
    | ok result =>
      rw [hdown] at htx
      cases htx
      exact .inr ⟨sub, result.2, rfl, hdown⟩

theorem GroupInv.expire (h : GroupInv u g₀ s) (htrim : trimSpace g₀ = g₀) (hg₀ : g₀ ≠ "")
    (hnow : s.clock ≤ now) (hquery : f.lastExpired = none) {n : ℕ}
    (hrun : s.store.expireUserSubscriptions f userId now = .ok (st, n)) :
    GroupInv u g₀ ⟨st, now⟩ := by
  have hplain : ∀ r ∈ (s.store.expireSubscriptions userId now).subs.rows, r.2.userId = u →
      Plain g₀ r.2 := by
    intro r' hr' hu
    obtain ⟨r, hr, hended, -⟩ := mem_expireSubscriptions hr'
    exact hended.plain (h.plain r hr) hu
  have hok := expireUserSubscriptions_ok hquery hrun
  have hkept : GroupKept u g₀ (s.store.expireSubscriptions userId now) st := by
    rcases hok with ⟨rfl, -⟩ | ⟨sub, target, hlast, hdown⟩
    · exact .refl u g₀ _
    · obtain ⟨id, hmem, -⟩ := lastExpired_mem hlast
      exact applyDowngrade_kept htrim (hplain _ hmem) hdown
  refine h.of_ending hnow hkept.user ?_ ?_
  · intro r' hr'
    rw [hkept.subs] at hr'
    obtain ⟨r, hr, hended, -⟩ := mem_expireSubscriptions hr'
    exact ⟨r, hr, hended⟩
  by_cases hfirst : ∃ l, IsFirst u g₀ s.store l ∧ userId = u ∧ isDue now l.2 = true
  · -- The first subscription expires, so it is the one that decides.
    left
    obtain ⟨l, hl, rfl, hdue⟩ := hfirst
    obtain ⟨hnone, hlast⟩ := hl.expire h.plain hdue
    rcases hok with ⟨-, hbusy | hnone'⟩ | ⟨sub, target, hsub, hdown⟩
    · exact absurd hnone hbusy
    · rw [hlast] at hnone'
      cases hnone'
    rw [hlast] at hsub
    cases hsub
    obtain ⟨hdowngrade, htrimmed, hprev⟩ := h.plain l hl.mem hl.userId
    refine applyDowngrade_first htrim hg₀ ?_ ?_ ⟨hdowngrade, htrimmed, hprev⟩ ?_ ?_ ?_ hdown
    · exact h.user
    · exact hl.userId
    · exact hl.prevUserGroup
    · exact hl.nonempty
    · exact hl.upgradeGroup
  rcases hkept.group with hsame | hg
  · refine .inr ⟨hsame, fun l hl => ?_⟩
    rw [hkept.subs]
    refine mem_map.mpr ⟨l, hl.mem, ?_⟩
    have hnot : ¬(l.2.userId = userId && isDue now l.2) = true := by
      rw [hl.userId, Bool.and_eq_true, decide_eq_true_eq]
      rintro ⟨rfl, hdue⟩
      exact hfirst ⟨l, hl, rfl, hdue⟩
    dsimp only
    rw [if_neg hnot]
  · exact .inl hg

end Ending

/-! ### Purchases -/

section Purchase

variable {env : OrderEnv} {u : ℤ} {g₀ : String}

/-- From the original group while no other subscription with a group is active, or for the user's
group, if the subscription ends before the one that brought the user there. -/
def MayUpgrade (u : ℤ) (g₀ : String) (s : OrderStore) (now endUnix : ℤ) (group : String) : Prop :=
  (s.userGroup u = g₀ ∧ (group = g₀ ∨ s.upgradedSubscriptions u now = [])) ∨
    (s.userGroup u = group ∧
      ∃ r ∈ s.upgradedSubscriptions u now, r.2.prevUserGroup = g₀ ∧ endUnix < r.2.endTime)

def OrderlyPurchase (env : OrderEnv) (u : ℤ) (g₀ : String) (s : OrderStore) (plan : PurchasePlan)
    (now : ℤ) : Prop :=
  trimSpace plan.downgradeGroup = "" ∧
    (trimSpace plan.upgradeGroup ≠ "" → ∀ endUnix, calcPlanEndTime env now plan = .ok endUnix →
      now < endUnix ∧ MayUpgrade u g₀ s now endUnix (trimSpace plan.upgradeGroup))

variable {new : ℤ × SubscriptionRow}

theorem IsFirst.append (hl : IsFirst u g₀ s l) (hrows : s'.subs.rows = s.subs.rows ++ [new])
    (hgroup : s'.userGroup u = s.userGroup u)
    (hnew : new.2.userId = u → new.2.upgradeGroup ≠ "" → ¬endsAfter new l) :
    IsFirst u g₀ s' l where
  mem := by
    rw [hrows]
    exact mem_append_left _ hl.mem
  userId := hl.userId
  status := hl.status
  upgradeGroup := hl.upgradeGroup.trans hgroup.symm
  nonempty := hl.nonempty
  prevUserGroup := hl.prevUserGroup
  last := by
    intro r hr hu hup hstatus
    rw [hrows] at hr
    rcases mem_append.mp hr with hr | hr
    · exact hl.last r hr hu hup hstatus
    · obtain rfl := mem_singleton.mp hr
      exact .inr (hnew hu hup)

theorem IsFirst.not_endsAfter (hl : IsFirst u g₀ s l) (hr : r ∈ s.upgradedSubscriptions u now)
    (hend : new.2.endTime < r.2.endTime) : ¬endsAfter new l := by
  unfold upgradedSubscriptions at hr
  simp only [mem_filter, Bool.and_eq_true, decide_eq_true_eq] at hr
  obtain ⟨hmem, ⟨⟨hu, hactive⟩, -⟩, hup⟩ := hr
  have hle : r.2.endTime ≤ l.2.endTime := by
    rcases hl.last r hmem hu hup (by simp [hactive]) with rfl | hbefore
    · exact le_refl _
    · unfold endsAfter at hbefore
      omega
  unfold endsAfter
  omega

theorem GroupInv.not_endsAfter {s : GroupSystem} (h : GroupInv u g₀ s) (hnow : s.clock ≤ now)
    (hnone : s.store.upgradedSubscriptions u now = []) (hr : r ∈ s.store.subs.rows)
    (hu : r.2.userId = u)
    (hup : r.2.upgradeGroup ≠ "") (hstatus : r.2.status ≠ .cancelled) (hend : now < new.2.endTime) :
    ¬endsAfter r new := by
  have hended : r.2.endTime ≤ now := by
    cases hs : r.2.status with
    | cancelled => exact absurd hs hstatus
    | expired => exact (h.expired r hr hu hup hs).trans hnow
    | active =>
      by_contra hlt
      have hmem : r ∈ s.store.upgradedSubscriptions u now := by
        unfold upgradedSubscriptions
        rw [mem_filter]
        exact ⟨hr, by simp [hu, hs, hup]; omega⟩
      rw [hnone] at hmem
      cases hmem
  unfold endsAfter
  omega

theorem GroupInv.create {s : GroupSystem} (h : GroupInv u g₀ s) {f : CreateFaults}
    (hnow : s.clock ≤ f.dbNow) {plan : PurchasePlan} {source : String}
    (horderly : userId = u → OrderlyPurchase env u g₀ s.store plan f.dbNow)
    (hrun : s.store.createUserSubscriptionFromPlanTx env f userId plan source = .ok (st, id)) :
    GroupInv u g₀ ⟨st, f.dbNow⟩ := by
  obtain ⟨-, -, endUnix, s₁, prev, hend, hupgrade, rfl, -⟩ :=
    createUserSubscriptionFromPlanTx_ok hrun
  set new := newSubscription env f.dbNow endUnix userId plan source prev
  have hupgraded := upgrade_ok hupgrade
  constructor
  · rcases hupgraded with ⟨rfl, -, -⟩ | ⟨-, -, rfl, -⟩
    · exact h.user
    · rw [isSome_users_setUserGroup]
      exact h.user
  · intro r hr hu
    rcases mem_append.mp hr with hr | hr
    · exact h.plain r hr hu
    obtain rfl := mem_singleton.mp hr
    obtain ⟨hdown, hmay⟩ := horderly hu
    refine ⟨hdown, trimSpace_trimSpace _, ?_⟩
    rcases hupgraded with ⟨-, hprev, -⟩ | ⟨hgroup, hother, -, hprev⟩
    · exact .inr (Or.inl hprev)
    obtain rfl : userId = u := hu
    rcases (hmay hgroup endUnix hend).2 with ⟨hg, -⟩ | ⟨hsame, -⟩
    · rw [hg] at hother hprev
      exact .inr (Or.inr ⟨hprev, Ne.symm hother⟩)
    · exact absurd hsame hother
  · intro r hr hu hup hstatus
    rcases mem_append.mp hr with hr | hr
    · exact (h.expired r hr hu hup hstatus).trans hnow
    · obtain rfl := mem_singleton.mp hr
      cases hstatus
  show s₁.userGroup u = g₀ ∨ _
  rcases hupgraded with ⟨rfl, -, _⟩ | ⟨hgroup, hother, rfl, hprev⟩
  · -- The user stays, and so does the first subscription.
    rcases h.first with hg | ⟨l, hl⟩
    · exact .inl hg
    by_cases hrenewal : userId = u ∧ trimSpace plan.upgradeGroup ≠ ""
    · obtain ⟨rfl, hgroup⟩ := hrenewal
      rcases (((horderly rfl).2 hgroup endUnix hend).2) with ⟨hg, -⟩ | ⟨-, r, hr, -, hbefore⟩
      · exact .inl hg
      · exact .inr ⟨l, hl.append rfl rfl fun _ _ => hl.not_endsAfter hr hbefore⟩
    · exact .inr ⟨l, hl.append rfl rfl fun hu hup => absurd ⟨hu, hup⟩ hrenewal⟩
  rw [userGroup_setUserGroup]
  by_cases hu : userId = u
  · -- The new subscription is the first one.
    subst hu
    obtain ⟨hlt, hmay⟩ := (horderly rfl).2 hgroup endUnix hend
    rcases hmay with ⟨hg, hg' | hnone⟩ | ⟨hsame, -⟩
    · exact absurd (hg.trans hg'.symm) hother
    · right
      refine ⟨(s.store.subs.nextId, new), ?_⟩
      constructor
      · exact mem_append_right _ (mem_singleton.mpr rfl)
      · rfl
      · rfl
      · show trimSpace plan.upgradeGroup = (s.store.setUserGroup userId _).userGroup userId
        rw [userGroup_setUserGroup, if_pos ⟨rfl, h.user⟩]
      · exact hgroup
      · exact hprev.trans hg
      intro r hr hu hup hstatus
      rcases mem_append.mp hr with hr | hr
      · exact .inr (h.not_endsAfter hnow hnone hr hu hup hstatus hlt)
      · exact .inl (mem_singleton.mp hr)
    · exact absurd hsame hother
  rw [if_neg fun hk => hu hk.1]
  rcases h.first with hg | ⟨l, hl⟩
  · exact .inl hg
  · refine .inr ⟨l, hl.append rfl ?_ fun hnewUser => absurd hnewUser hu⟩
    show (s.store.setUserGroup userId _).userGroup u = _
    rw [userGroup_setUserGroup, if_neg fun hk => hu hk.1]

end Purchase

/-! ### Runs -/

/-- The clock does not go back, `u` buys as `OrderlyPurchase` says, and no first subscription is
ended early. -/
def Orderly (env : OrderEnv) (u : ℤ) (g₀ : String) (s : GroupSystem) (e : GroupEvent) : Prop :=
  s.clock ≤ e.now ∧
    match e with
    | .create userId plan _ f => userId = u → OrderlyPurchase env u g₀ s.store plan f.dbNow
    | .expire _ _ f => f.lastExpired = none
    | .expireDue f _ _ _ => ∀ userId, (f userId).lastExpired = none
    | .invalidate id now _ => EndsLast u s.store id now
    | .delete id now _ => EndsLast u s.store id now

namespace GroupSystem

theorem groupInv_step_of (env : OrderEnv) {s : GroupSystem} {e : GroupEvent} {α : Type}
    (h : GroupInv u g₀ s) (hnow : s.clock ≤ e.now) {r : Except Err (OrderStore × α)}
    (hrun : e.run env s.store = r.map Prod.fst)
    (hok : ∀ st a, r = .ok (st, a) → GroupInv u g₀ ⟨st, e.now⟩) : GroupInv u g₀ (s.step env e) := by
  unfold step
  rw [hrun]
  cases r with
  | error => exact h.tick hnow
  | ok result => exact hok result.1 result.2 rfl

/-- **The expiry task** is the run of the transactions of single users, of which all succeed, that
ends with the last user or before the first one whose transaction fails. -/
theorem expireDueSubscriptions_eq_run (env : OrderEnv) (s : GroupSystem) (f : ℤ → DowngradeFaults)
    (order : List ℤ → List ℤ) (limit now : ℤ) :
    ∃ done rest, order (s.store.dueUsers (if limit ≤ 0 then 200 else limit.toNat) now) =
      done ++ rest ∧ Guarded (step env) (fun s e => ∃ store, e.run env s.store = .ok store) s
        (done.map fun u => .expire u now (f u)) ∧
      s.store.expireDueSubscriptions f order limit now =
        ((done.map fun u => .expire u now (f u)).foldl (step env) s).store ∧
      ∀ u ∈ rest.head?, ∃ e,
        (s.store.expireDueSubscriptions f order limit now).expireUserSubscriptions (f u) u now =
        .error e := by
  unfold expireDueSubscriptions
  induction order (s.store.dueUsers _ now) generalizing s with
  | nil => exact ⟨[], [], rfl, trivial, rfl, nofun⟩
  | cons u us ih =>
    rw [expireUsers]
    cases hrun : s.store.expireUserSubscriptions (f u) u now with
    | error e =>
      refine ⟨[], u :: us, rfl, trivial, rfl, ?_⟩
      rintro _ ⟨⟩
      exact ⟨e, hrun⟩
    | ok result =>
      have hevent : GroupEvent.run env s.store (.expire u now (f u)) = .ok result.1 := by
        simp [GroupEvent.run, hrun, Except.map]
      have hstep : s.step env (.expire u now (f u)) = ⟨result.1, now⟩ := by
        rw [step, hevent]
        rfl
      obtain ⟨done, rest, hsplit, hdone, heq, hrest⟩ := ih ⟨result.1, now⟩
      refine ⟨u :: done, rest, by rw [hsplit, cons_append], ⟨⟨_, hevent⟩, ?_⟩, ?_, hrest⟩
      · rw [hstep]
        exact hdone
      · rw [map_cons, foldl_cons, hstep]
        exact heq

/-- The task keeps what its transactions keep. -/
theorem groupInv_expireDueSubscriptions (htrim : trimSpace g₀ = g₀)
    (hg₀ : g₀ ≠ "") {s : GroupSystem}
    (h : GroupInv u g₀ s) (env : OrderEnv) {f : ℤ → DowngradeFaults}
    (hf : ∀ v, (f v).lastExpired = none)
    (order : List ℤ → List ℤ) (limit : ℤ) (hnow : s.clock ≤ now) :
    GroupInv u g₀ ⟨s.store.expireDueSubscriptions f order limit now, now⟩ := by
  obtain ⟨done, -, -, -, heq, -⟩ := expireDueSubscriptions_eq_run env s f order limit now
  rw [heq]
  suffices hrun : GroupInv u g₀ ((done.map fun v => .expire v now (f v)).foldl (step env) s) ∧
      ((done.map fun v => GroupEvent.expire v now (f v)).foldl (step env) s).clock ≤ now from
    hrun.1.tick hrun.2
  clear heq
  induction done generalizing s with
  | nil => exact ⟨h, hnow⟩
  | cons v done ih =>
    have hstep : GroupInv u g₀ (s.step env (.expire v now (f v))) :=
      groupInv_step_of env h hnow rfl fun _ _ => h.expire htrim hg₀ hnow (hf v)
    exact ih hstep le_rfl

/-- **One transaction**, or one round of the expiry task. -/
theorem groupInv_step (env : OrderEnv) (htrim : trimSpace g₀ = g₀) (hg₀ : g₀ ≠ "") (s : GroupSystem)
    (e : GroupEvent) (h : GroupInv u g₀ s) (he : Orderly env u g₀ s e) :
    GroupInv u g₀ (s.step env e) := by
  obtain ⟨hnow, he⟩ := he
  cases e with
  | create => exact groupInv_step_of env h hnow rfl fun _ _ => h.create hnow he
  | expire => exact groupInv_step_of env h hnow rfl fun _ _ => h.expire htrim hg₀ hnow he
  | expireDue _ order limit =>
    exact groupInv_expireDueSubscriptions htrim hg₀ h env he order limit hnow
  | invalidate => exact groupInv_step_of env h hnow rfl fun _ _ => h.invalidate htrim hg₀ hnow he
  | delete => exact groupInv_step_of env h hnow rfl fun _ _ => h.delete htrim hg₀ hnow he

/-- **The group comes back.** -/
theorem userGroup_restored (env : OrderEnv) {u : ℤ} {g₀ : String} (hg₀ : g₀ ≠ "")
    (htrim : trimSpace g₀ = g₀) {s : GroupSystem} (huser : (s.store.users u).isSome)
    (hgroup : s.store.userGroup u = g₀) (hrows : ∀ r ∈ s.store.subs.rows, r.2.userId = u →
      r.2.upgradeGroup = "" ∧ r.2.downgradeGroup = "")
    {es : List GroupEvent} (hes : Guarded (step env) (Orderly env u g₀) s es)
    (hnone : NoneLeft u (es.foldl (step env) s).store) :
    (es.foldl (step env) s).store.userGroup u = g₀ := by
  have hinit : GroupInv u g₀ s := by
    constructor
    · exact huser
    · intro r hr hu
      obtain ⟨hup, hdown⟩ := hrows r hr hu
      exact ⟨hdown, by rw [hup]; decide, Or.inl hup⟩
    · intro r hr hu hup _
      exact absurd (hrows r hr hu).1 hup
    · exact .inl hgroup
  exact (hes.invariant (groupInv_step env htrim hg₀) hinit).restored hnone

end GroupSystem

/-- User 1 buys a day of a group, renews it for an hour within the day, and loses both. -/
def GroupEvent.renewed : List GroupEvent :=
  [.create 1 (.daily "vip" 0) "admin" { dbNow := 0 },
    .create 1 { PurchasePlan.daily "vip" 0 with durationUnit := "hour" } "admin" { dbNow := 10 },
    .expire 1 3610 {}, .expire 1 86400 {}]

theorem userGroup_restored_of_renewed :
    (GroupEvent.renewed.foldl (GroupSystem.step .utc) ⟨.ordered, 0⟩).store.userGroup 1
      = "default" := by
  refine GroupSystem.userGroup_restored .utc (by decide) (by decide) (by decide) (by decide)
    (by simp [OrderStore.ordered, SubscriptionTable.empty]) ?_ ?_
  · refine ⟨⟨by decide, fun _ => ⟨by decide, fun _ endUnix hend => ?_⟩⟩,
      ⟨by decide +kernel, fun _ => ⟨by decide, fun _ endUnix hend => ?_⟩⟩,
      ⟨by decide +kernel, rfl⟩, ⟨by decide +kernel, rfl⟩, trivial⟩
    · obtain rfl : endUnix = 86400 := (Except.ok.inj (hend.symm.trans (by decide +kernel)))
      exact ⟨by decide, Or.inl ⟨by decide +kernel, Or.inr (by decide +kernel)⟩⟩
    · obtain rfl : endUnix = 3610 := (Except.ok.inj (hend.symm.trans (by decide +kernel)))
      refine ⟨by decide, Or.inr ⟨by decide +kernel, ?_⟩⟩
      decide +kernel
  · intro r hr
    revert r
    decide +kernel

/-- A second group on top of the first: both subscriptions end, and the user keeps the first
group. -/
theorem userGroup_not_restored :
    let s := [GroupEvent.create 1 (.daily "vip" 0) "admin" { dbNow := 0 },
      .create 1 (.daily "svip" 0) "admin" { dbNow := 10 }, .expire 1 86400 {},
      .expire 1 86410 {}].foldl (GroupSystem.step .utc) ⟨.ordered, 0⟩
    NoneLeft 1 s.store ∧ OrderStore.ordered.userGroup 1 = "default" ∧
      s.store.userGroup 1 = "vip" := by
  refine ⟨?_, by decide, by decide +kernel⟩
  intro r hr
  revert r
  decide +kernel

end TokensFlux
