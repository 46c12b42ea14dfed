import TokensFlux.Order.Purchase
import TokensFlux.Order.Equiv.Basic

/-!
# The purchase limit under concurrency

The limit is kept exactly if its check would still pass when the purchase is committed; only
purchases with balance lock the row of the user.
-/

namespace TokensFlux

open TxSystem OrderWrite OrderStore PurchasePhase

def PurchasePhase.counted : PurchasePhase → Bool
  | paying | counting => false
  | _ => true

def PurchasePhase.inserted : PurchasePhase → Bool
  | recording | closing | closed => true
  | _ => false

/-! ### What is written -/

variable (u planId : ℤ)

def insertedRows (writes : List OrderWrite) : ℕ :=
  writes.countP fun w =>
    match w with
    | .insert row => row.userId = u && row.planId = planId
    | _ => false

@[simp] theorem insertedRows_append (ws ws' : List OrderWrite) :
    insertedRows u planId (ws ++ ws') = insertedRows u planId ws + insertedRows u planId ws' :=
  List.countP_append

theorem countSubscriptions_apply (s : OrderStore) (w : OrderWrite) (u planId : ℤ) :
    (w.apply s).countSubscriptions u planId =
      s.countSubscriptions u planId + insertedRows u planId [w] := by
  cases w with
  | insert row =>
    show ((s.subs.rows ++ [(s.subs.nextId, row)]).filter _).length = _
    rw [List.filter_append, List.length_append]
    congr 1
    by_cases hrow : row.userId = u ∧ row.planId = planId <;> simp [insertedRows, hrow]
  | deduct | group | topUp | order => rfl

theorem countSubscriptions_foldl (s : OrderStore) (ws : List OrderWrite) (u planId : ℤ) :
    (ws.foldl apply s).countSubscriptions u planId
      = s.countSubscriptions u planId + insertedRows u planId ws := by
  induction ws generalizing s with
  | nil => rfl
  | cons w ws ih =>
    have hcons : insertedRows u planId (w :: ws) =
        insertedRows u planId [w] + insertedRows u planId ws :=
      insertedRows_append u planId [w] ws
    rw [List.foldl_cons, ih, countSubscriptions_apply, hcons, Nat.add_assoc]

def PurchaseCall.IsFor (c : PurchaseCall) : Prop :=
  c.userId = u ∧ c.plan.id = planId

instance (u planId : ℤ) (c : PurchaseCall) : Decidable (c.IsFor u planId) :=
  inferInstanceAs (Decidable (_ ∧ _))

structure PurchaseCall.Formed (plans : ℤ → Except Err PurchasePlan) (c : PurchaseCall) : Prop where
  plan : ∃ id, plans id = .ok c.plan
  writes : ∀ u planId, insertedRows u planId c.writes = if c.phase.inserted ∧
    c.IsFor u planId then 1 else 0

theorem checkPurchaseLimit_ok_iff {s : OrderStore} {fault : Option Err} {u : ℤ}
    {plan : PurchasePlan}
    (hpos : 0 < plan.maxPurchasePerUser) : s.checkPurchaseLimit fault u plan = .ok () ↔
      fault = none ∧ s.countSubscriptions u plan.id < plan.maxPurchasePerUser := by
  unfold checkPurchaseLimit
  rw [if_neg (by omega)]
  cases fault with
  | some => simp
  | none =>
    by_cases hfull : plan.maxPurchasePerUser ≤ s.countSubscriptions u plan.id
    · simp [hfull]
    · simp [hfull, not_le.mp]

namespace PurchaseSystem

variable {P : Type} [DecidableEq P] {env : OrderEnv} {plans : ℤ → Except Err PurchasePlan}
  {s : PurchaseSystem P} {p : P} {c : PurchaseCall}

/-! ### What a statement does -/

def BalanceOnly (plans : ℤ → Except Err PurchasePlan) (u planId : ℤ) (s : PurchaseSystem P) :
    PurchaseEvent P → Prop
  | .complete _ tradeNo _ _ _ _ => ∀ order plan, s.store.orders.lookup tradeNo = some order →
      plans order.planId = .ok plan → ¬(order.userId = u ∧ plan.id = planId)
  | .admin _ userId id => ∀ plan, plans id = .ok plan → ¬(userId = u ∧ plan.id = planId)
  | _ => True

inductive Effect (plans : ℤ → Except Err PurchasePlan) (s : PurchaseSystem P)
    (e : PurchaseEvent P) : PurchaseSystem P → Prop
  | stay : Effect plans s e s
  | failed : Effect plans s e (s.rollback e.process)
  /-- A call starts; among purchases with balance it holds the row of its user. -/
  | started (s₁ : PurchaseSystem P) (c : PurchaseCall) (hlocks : Locks e.process s s₁)
      (formed : c.Formed plans) (fresh : c.phase.counted = false)
      (held : ∀ u planId, BalanceOnly plans u planId s e → c.IsFor u planId →
        s₁.locks (.user u) = some e.process) :
      Effect plans s e (s₁.advance e.process c)
  | advanced (s₁ : PurchaseSystem P) (c c' : PurchaseCall) (hcall : s.calls e.process = some c)
      (hlocks : Locks e.process s s₁) (userId : c'.userId = c.userId) (plan : c'.plan = c.plan)
      (formed : c'.Formed plans)
      (counted : c'.phase.counted → c.phase.counted ∨ (0 < c.plan.maxPurchasePerUser →
        s.store.countSubscriptions c.userId c.plan.id < c.plan.maxPurchasePerUser)) :
      Effect plans s e (s₁.advance e.process c')
  | committed (p : P) (c : PurchaseCall) (he : e = .commit p none) (hcall : s.calls p = some c)
      (closed : c.phase = .closed) :
      Effect plans s e (s.commit p (c.writes.foldl apply s.store))

variable {e : PurchaseEvent P}

omit [DecidableEq P] in
theorem formed_of_started {c : PurchaseCall} (hplan : ∃ id, plans id = .ok c.plan)
    (hwrites : c.writes = []) (hphase : c.phase.counted = false) : c.Formed plans := by
  refine ⟨hplan, fun u planId => ?_⟩
  have hinserted : c.phase.inserted = false := by
    revert hphase
    cases c.phase <;> simp [counted, inserted]
  simp [insertedRows, hwrites, hinserted]

theorem effect_start (env : OrderEnv) (s : PurchaseSystem P) (e : PurchaseEvent P) :
    Effect plans s e (start env plans s e) := by
  cases e with
  | complete p tradeNo payload expected method fault =>
    simp only [start]
    split_ifs with hwaits
    · exact .stay
    split
    · exact .stay
    rename_i order hlock
    split_ifs
    · exact .stay
    split
    · exact .stay
    rename_i plan hplan
    push Not at hwaits
    have hfree : s.waits p (.order tradeNo) = false := by simpa using hwaits.2
    refine .started _ _ (.acquire hfree) (formed_of_started ⟨order.planId, hplan⟩ rfl rfl) rfl ?_
    intro u planId honly hfor
    exact absurd hfor (honly order plan (lockOrder_ok hlock).1 hplan)
  | balance p userId planId fault =>
    simp only [start]
    split_ifs with hwaits
    · exact .stay
    split
    · exact .stay
    rename_i plan hplan
    split
    · rename_i requiredQuota user _ _
      by_cases hpoor : 0 < requiredQuota ∧ user.quota < requiredQuota
      · rw [if_pos hpoor]
        exact .stay
      rw [if_neg hpoor]
      push Not at hwaits
      have hfree : s.waits p (.user userId) = false := by simpa using hwaits.2.2
      refine .started _ _ (.acquire hfree) (formed_of_started ⟨planId, hplan⟩ rfl ?_) ?_ ?_
      · split_ifs <;> rfl
      · split_ifs <;> rfl
      · rintro u _ - ⟨rfl, -⟩
        exact locks_acquire_self
    · exact .stay
  | admin p userId planId =>
    simp only [start]
    split_ifs
    · exact .stay
    split
    · exact .stay
    rename_i plan hplan
    refine .started s _ (.refl p s) (formed_of_started ⟨planId, hplan⟩ rfl rfl) rfl ?_
    intro u id honly hfor
    exact absurd hfor (honly plan hplan)
  | _ => exact .stay

omit [DecidableEq P] in
theorem formed_append (hc : c.Formed plans) {phase : PurchasePhase} {writes : List OrderWrite}
    (hphase : phase.inserted = c.phase.inserted)
    (hwrites : ∀ u planId, insertedRows u planId writes = 0) :
    PurchaseCall.Formed plans { c with phase, writes := c.writes ++ writes } := by
  refine ⟨hc.plan, fun u planId => ?_⟩
  rw [insertedRows_append, hwrites, Nat.add_zero, hc.writes]
  rw [hphase]
  rfl

theorem effect_goOn (hcall : s.calls e.process = some c) (fault : Option Err)
    {phase : PurchasePhase} {writes : List OrderWrite}
    (hformed : PurchaseCall.Formed plans { c with phase, writes := c.writes ++ writes })
    (hcounted : phase.counted → c.phase.counted ∨ (0 < c.plan.maxPurchasePerUser →
      s.store.countSubscriptions c.userId c.plan.id < c.plan.maxPurchasePerUser)) :
    Effect plans s e (goOn s e.process c fault phase writes) := by
  cases fault with
  | some => exact .failed
  | none => exact .advanced s c _ hcall (.refl _ s) rfl rfl hformed hcounted

theorem effect_proceed (hcall : s.calls e.process = some c) (hc : c.Formed plans) :
    Effect plans s e (proceed env s e.process c e c.phase) := by
  generalize hphase : c.phase = phase
  -- A statement after the count that inserts nothing.
  have hgoOn (fault : Option Err) (phase' : PurchasePhase) (writes : List OrderWrite)
      (hcounted : phase.counted = true) (hinserted : phase'.inserted = phase.inserted)
      (hwrites : ∀ u planId, insertedRows u planId writes = 0) :
      Effect plans s e (goOn s e.process c fault phase' writes) := by
    refine effect_goOn hcall fault (formed_append hc (by rw [hphase, hinserted]) hwrites) ?_
    intro _
    rw [hphase]
    exact .inl hcounted
  unfold proceed
  split
  · -- deduct
    split
    · refine effect_goOn hcall _ (formed_append hc (by rw [hphase]; rfl) fun _ _ => rfl) ?_
      simp [counted]
    · exact .stay
  · -- count
    split_ifs
    · exact .failed
    split
    · exact .failed
    rename_i hlimit
    refine effect_goOn hcall _ (formed_append hc (by rw [hphase]; rfl) fun _ _ => rfl) ?_
    intro _
    right
    intro hpos
    exact ((checkPurchaseLimit_ok_iff hpos).mp hlimit).2
  · -- readGroup
    split
    · exact .failed
    · dsimp only
      split_ifs <;> exact hgoOn _ _ _ rfl rfl fun _ _ => rfl
  · -- updateGroup
    split
    · exact .failed
    split_ifs with hwaits
    · exact .stay
    refine .advanced _ c _ hcall (.acquire (by simpa using hwaits)) rfl rfl
      (formed_append hc (by rw [hphase]; rfl) fun _ _ => rfl) ?_
    intro _
    rw [hphase]
    exact .inl rfl
  · -- insert
    refine effect_goOn hcall _ ⟨hc.plan, fun u planId => ?_⟩ ?_
    · have hnone : insertedRows u planId c.writes = 0 := by
        rw [hc.writes, hphase, if_neg (by simp [inserted])]
      have hinserted : c.kind.afterInsert.inserted = true := by
        cases c.kind <;> rfl
      rw [insertedRows_append, hnone]
      rw [hinserted]
      by_cases hfor : c.userId = u ∧ c.plan.id = planId
      · simp [insertedRows, newSubscription, UserSubscription.create, PurchaseCall.IsFor, hfor]
      · simp [insertedRows, newSubscription, UserSubscription.create, PurchaseCall.IsFor, hfor]
    · intro _
      rw [hphase]
      exact .inl rfl
  · -- topUp
    split
    · split
      · exact .failed
      · exact hgoOn _ _ _ rfl rfl fun _ _ => rfl
    · exact .stay
  · -- order
    split
    · exact hgoOn _ _ _ rfl rfl fun _ _ => rfl
    · split_ifs
      · exact .failed
      · exact hgoOn _ _ _ rfl rfl fun _ _ => rfl
    · exact .stay
  · -- commit
    split
    · exact .failed
    · exact .committed _ c rfl hcall hphase
  · exact .stay

/-- **All that an event may do.** -/
theorem effect_step (env : OrderEnv) (h : EachCall (PurchaseCall.Formed plans) s)
    (e : PurchaseEvent P) : Effect plans s e (s.step env plans e) := by
  unfold step
  split
  · exact effect_start env s e
  · rename_i c hcall
    exact effect_proceed hcall (h _ c hcall)

theorem Effect.formed {s' : PurchaseSystem P} (h : Effect plans s e s')
    (hs : EachCall (PurchaseCall.Formed plans) s) : EachCall (PurchaseCall.Formed plans) s' := by
  cases h with
  | stay => exact hs
  | failed | committed => exact hs.commit _ _
  | started _ _ hlocks formed | advanced _ _ _ _ hlocks _ _ formed =>
    exact (hlocks.eachCall hs).advance _ formed

/-! ### The limit -/

section Limit

variable {u planId m : ℤ}

def Commits (u planId : ℤ) (s : PurchaseSystem P) (e : PurchaseEvent P) : Prop :=
  ∃ p c, e = .commit p none ∧ s.calls p = some c ∧ c.phase = .closed ∧ c.IsFor u planId

theorem Effect.count {s' : PurchaseSystem P} (h : Effect plans s e s')
    (hs : EachCall (PurchaseCall.Formed plans) s) (u planId : ℤ) :
    s'.store.countSubscriptions u planId = s.store.countSubscriptions u planId ∨
      (Commits u planId s e ∧
        s'.store.countSubscriptions u planId = s.store.countSubscriptions u planId + 1) := by
  cases h with
  | stay | failed => exact .inl rfl
  | started _ _ hlocks | advanced _ _ _ _ hlocks =>
    exact .inl (by rw [store_advance, hlocks.store_eq])
  | committed p c he hcall closed =>
    rw [store_commit, countSubscriptions_foldl, (hs p c hcall).writes, closed]
    by_cases hfor : c.IsFor u planId
    · exact .inr ⟨⟨p, c, he, hcall, closed, hfor⟩, by simp [inserted, hfor]⟩
    · exact .inl (by simp [hfor])

theorem step_commit {c : PurchaseCall} (hcall : s.calls p = some c) (hclosed : c.phase = .closed) :
    s.step env plans (.commit p none) = s.commit p (c.writes.foldl apply s.store) := by
  simp [step, PurchaseEvent.process, hcall, hclosed, proceed]

/-- The plan has the limit `m`, for all who read it. -/
def HasLimit (plans : ℤ → Except Err PurchasePlan) (planId m : ℤ) : Prop :=
  ∀ id plan, plans id = .ok plan → plan.id = planId → plan.maxPurchasePerUser = m

structure LimitInv (plans : ℤ → Except Err PurchasePlan) (u planId m : ℤ) (s : PurchaseSystem P) :
    Prop where
  formed : EachCall (PurchaseCall.Formed plans) s
  limit : s.store.countSubscriptions u planId ≤ m

/-- A step keeps the limit unless it commits one subscription too many. -/
theorem limit_step_iff (env : OrderEnv) (h : LimitInv plans u planId m s) (e : PurchaseEvent P) :
    (s.step env plans e).store.countSubscriptions u planId ≤ m ↔
      (Commits u planId s e → s.store.countSubscriptions u planId < m) := by
  constructor
  · rintro hlimit ⟨p, c, rfl, hcall, hclosed, hfor⟩
    rw [step_commit hcall hclosed, store_commit, countSubscriptions_foldl,
      (h.formed p c hcall).writes, hclosed, if_pos ⟨by simp [inserted], hfor⟩] at hlimit
    omega
  intro hroom
  rcases (effect_step env h.formed e).count h.formed u planId with hsame | ⟨hcommits, hmore⟩
  · rw [hsame]
    exact h.limit
  · have hlt := hroom hcommits
    omega

/-! ### What a call has counted -/

omit [DecidableEq P] in
def hasCounted (s : PurchaseSystem P) (p : P) : Bool :=
  (s.calls p).any (·.phase.counted)

/-- Only a commit changes the table, and no call counts in it. -/
theorem Effect.hasCounted {s' : PurchaseSystem P} (h : Effect plans s e s')
    (hcounted : s'.hasCounted p = true) :
    s.hasCounted p = true ∨ s'.store.countSubscriptions u planId =
      s.store.countSubscriptions u planId := by
  cases h with
  | stay => exact .inl hcounted
  | failed => exact .inr rfl
  | started _ _ hlocks | advanced _ _ _ _ hlocks =>
    exact .inr (by rw [store_advance, hlocks.store_eq])
  | committed q =>
    left
    by_cases hp : p = q
    · subst hp
      simp [PurchaseSystem.hasCounted] at hcounted
    · rw [PurchaseSystem.hasCounted, calls_commit_of_ne hp] at hcounted
      exact hcounted

end Limit

end PurchaseSystem

/-- A run with what the limit check of each process has counted, of one user and one plan, and how
many subscriptions were committed since. -/
structure PurchaseRun (P : Type) where
  system : PurchaseSystem P
  counted : P → ℕ := fun _ => 0
  since : P → ℕ := fun _ => 0

namespace PurchaseRun

open PurchaseSystem

variable {P : Type} [DecidableEq P] {plans : ℤ → Except Err PurchasePlan} {u planId m : ℤ}

/-- A check that is made in this step counts the table as the step finds it. -/
def step (env : OrderEnv) (plans : ℤ → Except Err PurchasePlan) (u planId : ℤ) (r : PurchaseRun P)
    (e : PurchaseEvent P) : PurchaseRun P :=
  let system := r.system.step env plans e
  let count := r.system.store.countSubscriptions u planId
  { system
    counted p := if r.system.hasCounted p then r.counted p else count
    since p :=
      if r.system.hasCounted p then r.since p + (system.store.countSubscriptions u planId - count)
      else 0 }

theorem system_foldl (env : OrderEnv) (r : PurchaseRun P) (es : List (PurchaseEvent P)) :
    (es.foldl (step env plans u planId) r).system =
      es.foldl (PurchaseSystem.step env plans) r.system := by
  induction es generalizing r with
  | nil => rfl
  | cons e es ih => exact ih (r.step env plans u planId e)

/-- What is committed has been counted, or was committed since, and leaves room for one more. -/
def LimitKept (u planId m : ℤ) (r : PurchaseRun P) : PurchaseEvent P → Prop
  | .commit p none => ∀ c, r.system.calls p = some c → c.phase = .closed → c.IsFor u planId →
      (r.counted p + r.since p : ℕ) < m
  | _ => True

/-- The count a call has read, and the commits since, make up the count of the table. -/
structure Inv (plans : ℤ → Except Err PurchasePlan) (u planId m : ℤ) (r : PurchaseRun P) : Prop
    extends LimitInv plans u planId m r.system where
  tally : ∀ p, r.system.hasCounted p = true →
    r.counted p + r.since p = r.system.store.countSubscriptions u planId

omit [DecidableEq P] in
theorem Inv.limitKept_iff {r : PurchaseRun P} (h : Inv plans u planId m r) (e : PurchaseEvent P) :
    LimitKept u planId m r e ↔
      (Commits u planId r.system e → r.system.store.countSubscriptions u planId < m) := by
  have htally (p : P) (c : PurchaseCall) (hcall : r.system.calls p = some c)
      (hclosed : c.phase = .closed) :
      r.counted p + r.since p = r.system.store.countSubscriptions u planId :=
    h.tally p (by rw [hasCounted, hcall, Option.any_some, hclosed]; rfl)
  constructor
  · rintro hkept ⟨p, c, rfl, hcall, hclosed, hfor⟩
    rw [← htally p c hcall hclosed]
    exact hkept c hcall hclosed hfor
  intro hroom
  unfold LimitKept
  split
  · intro c hcall hclosed hfor
    rw [htally _ c hcall hclosed]
    exact hroom ⟨_, c, rfl, hcall, hclosed, hfor⟩
  · trivial

/-- **One event** that keeps the limit. -/
theorem Inv.step (env : OrderEnv) (r : PurchaseRun P) (e : PurchaseEvent P)
    (h : Inv plans u planId m r) (hkept : LimitKept u planId m r e) :
    Inv plans u planId m (r.step env plans u planId e) := by
  have heffect := effect_step env h.formed e
  have hlimit := (limit_step_iff env h.toLimitInv e).mpr ((h.limitKept_iff e).mp hkept)
  refine ⟨⟨heffect.formed h.formed, hlimit⟩, ?_⟩
  intro p hcounted
  have hmore := heffect.count h.formed u planId
  simp only [PurchaseRun.step]
  split_ifs with hbefore
  · have htally := h.tally p hbefore
    omega
  · rcases heffect.hasCounted hcounted with hcontra | hsame
    · exact absurd hcontra hbefore
    · rw [hsame, Nat.add_zero]

end PurchaseRun

namespace PurchaseSystem

variable {P : Type} [DecidableEq P] {plans : ℤ → Except Err PurchasePlan} {s : PurchaseSystem P}
  {e : PurchaseEvent P}

section Balance

variable {u planId m : ℤ}

/-! ### Purchases with balance -/

def Counted (u planId m : ℤ) (store : OrderStore) (c : PurchaseCall) : Prop :=
  c.IsFor u planId → c.phase.counted → store.countSubscriptions u planId < m

structure BalanceInv (plans : ℤ → Except Err PurchasePlan) (u planId m : ℤ) (s : PurchaseSystem P) :
    Prop extends LimitInv plans u planId m s where
  owned : Owned (fun c k => c.IsFor u planId ∧ k = .user u) s
  counted : EachCall (Counted u planId m s.store) s

theorem Effect.balanceInv {s' : PurchaseSystem P} (heffect : Effect plans s e s')
    (hplans : HasLimit plans planId m) (hm : 0 < m) (h : BalanceInv plans u planId m s)
    (hcount : s'.store.countSubscriptions u planId ≤ m) (he : BalanceOnly plans u planId s e) :
    BalanceInv plans u planId m s' := by
  refine ⟨⟨heffect.formed h.formed, hcount⟩, ?_, ?_⟩
  · cases heffect with
    | stay => exact h.owned
    | failed | committed => exact h.owned.commit _ _
    | started _ _ hlocks _ _ held =>
      refine (hlocks.owned h.owned).advance ?_
      rintro k ⟨hfor, rfl⟩
      exact held u planId he hfor
    | advanced _ c _ hcall hlocks userId plan =>
      refine (hlocks.owned h.owned).advance ?_
      rintro k ⟨⟨hu, hid⟩, rfl⟩
      rw [userId] at hu
      rw [plan] at hid
      exact hlocks.owned h.owned e.process c _ (by rw [hlocks.calls_eq, hcall]) ⟨⟨hu, hid⟩, rfl⟩
  cases heffect with
  | stay => exact h.counted
  | failed => exact h.counted.commit _ _
  | started _ _ hlocks _ fresh =>
    rw [store_advance, hlocks.store_eq]
    refine (hlocks.eachCall h.counted).advance _ ?_
    intro _ hcounted
    rw [fresh] at hcounted
    cases hcounted
  | advanced _ c _ hcall hlocks userId plan formed counted =>
    rw [store_advance, hlocks.store_eq]
    refine (hlocks.eachCall h.counted).advance _ ?_
    rintro ⟨hu, hid⟩ hcounted
    rw [userId] at hu
    rw [plan] at hid
    rcases counted hcounted with hbefore | hnow
    · exact h.counted _ c hcall ⟨hu, hid⟩ hbefore
    obtain ⟨id, hplan⟩ := (h.formed _ c hcall).plan
    have hmax := hplans id c.plan hplan hid
    rw [hmax, hu, hid] at hnow
    exact hnow hm
  | committed p c _ hcall =>
    intro q c' hq hfor hcounted
    have hqp : q ≠ p := by
      rintro rfl
      simp at hq
    rw [calls_commit_of_ne hqp] at hq
    -- Another purchase of the user would hold the row of the user as well.
    have hother : ¬c.IsFor u planId := by
      intro hfor'
      exact hqp (h.owned.unique hq hcall ⟨hfor, rfl⟩ ⟨hfor', rfl⟩)
    rw [store_commit, countSubscriptions_foldl, (h.formed p c hcall).writes,
      if_neg (fun hc => hother hc.2)]
    exact h.counted q c' hq hfor hcounted

/-- The lock on the row of the user keeps the limit for purchases with balance. -/
theorem balanceInv_step (env : OrderEnv) (hplans : HasLimit plans planId m) (hm : 0 < m)
    (s : PurchaseSystem P) (e : PurchaseEvent P) (h : BalanceInv plans u planId m s)
    (he : BalanceOnly plans u planId s e) : BalanceInv plans u planId m (s.step env plans e) := by
  have heffect := effect_step env h.formed e
  refine heffect.balanceInv hplans hm h ?_ he
  rcases heffect.count h.formed u planId with hsame | ⟨⟨p, c, -, hcall, hclosed, hfor⟩, _⟩
  · rw [hsame]
    exact h.limit
  · have hlt := h.counted p c hcall hfor (by rw [hclosed]; rfl)
    omega

/-- **The purchase limit** is kept throughout exactly if, at each commit, what its own check has
counted and what was committed since leave room for it; and it is kept if the user buys the plan
with balance only. -/
theorem purchaseLimit_iff (env : OrderEnv) (hplans : HasLimit plans planId m) (hm : 0 < m)
    {s : PurchaseSystem P} (hidle : ∀ p, s.calls p = none)
    (hlimit : s.store.countSubscriptions u planId ≤ m) (es : List (PurchaseEvent P)) :
    (Guarded (PurchaseRun.step env plans u planId) (PurchaseRun.LimitKept u planId m)
      { system := s } es ↔
      ∀ es', es' <+: es → (es'.foldl (step env plans) s).store.countSubscriptions u planId ≤ m) ∧
    (Guarded (step env plans) (BalanceOnly plans u planId) s es →
      (es.foldl (step env plans) s).store.countSubscriptions u planId ≤ m) := by
  have hcalls (R : PurchaseCall → Prop) : EachCall R s := by
    intro p c hcall
    rw [hidle p] at hcall
    cases hcall
  have hinit : LimitInv plans u planId m s := ⟨hcalls _, hlimit⟩
  constructor
  · have hrun : PurchaseRun.Inv plans u planId m { system := s } := by
      refine ⟨hinit, ?_⟩
      intro p hcounted
      simp [hasCounted, hidle p] at hcounted
    have hstep (r : PurchaseRun P) (e : PurchaseEvent P) (h : PurchaseRun.Inv plans u planId m r) :
        (r.step env plans u planId e).system.store.countSubscriptions u planId ≤ m ↔
          PurchaseRun.LimitKept u planId m r e :=
      (limit_step_iff env h.toLimitInv e).trans (h.limitKept_iff e).symm
    rw [Guarded.iff_forall_prefix_of_invariant hstep (PurchaseRun.Inv.step env)
      (fun _ h => h.limit) hrun]
    simp only [PurchaseRun.system_foldl]
  intro hbalance
  have howned : Owned (fun c k => c.IsFor u planId ∧ k = PurchaseRow.user u) s := by
    intro p c k hcall
    rw [hidle p] at hcall
    cases hcall
  exact (hbalance.invariant (balanceInv_step env hplans hm) ⟨hinit, howned, hcalls _⟩).limit

end Balance

def limitedPlans (id : ℤ) : Except Err PurchasePlan :=
  if id = 2 then .ok (.daily "" 1) else .error "record not found"

theorem hasLimit_limitedPlans : HasLimit limitedPlans 2 1 := by
  intro id plan hplan _
  unfold limitedPlans at hplan
  split_ifs at hplan
  cases hplan
  rfl

def ordered : PurchaseSystem Bool := { store := .ordered }

theorem purchaseLimit_of_balance :
    let es : List (PurchaseEvent Bool) := [.balance false 1 2 none, .balance true 1 2 none,
      .deduct false none, .count false none, .readGroup false 0 none, .insert false none,
      .balance true 1 2 none, .order false "b1" 0 none, .commit false none, .balance true 1 2 none,
      .deduct true none, .count true none]
    ((es.foldl (step .utc limitedPlans) ordered).store.countSubscriptions 1 2 : ℤ) ≤ 1 := by
  refine (purchaseLimit_iff .utc hasLimit_limitedPlans (by decide) (fun _ => rfl)
    (by decide) _).2 ?_
  exact ⟨trivial, trivial, trivial, trivial, trivial, trivial, trivial, trivial, trivial, trivial,
    trivial, trivial, trivial⟩

/-- An administrator binds the plan twice at a time: both count no subscription. -/
theorem purchaseLimit_exceeded :
    let es : List (PurchaseEvent Bool) := [.admin false 1 2, .admin true 1 2, .count false none,
      .count true none, .readGroup false 0 none, .readGroup true 0 none, .insert false none,
      .insert true none, .commit false none, .commit true none]
    (es.foldl (step .utc limitedPlans) ordered).store.countSubscriptions 1 2 = 2 := by
  decide +kernel

end PurchaseSystem

end TokensFlux
