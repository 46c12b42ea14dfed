import TokensFlux.Store.Equiv.Batch
import TokensFlux.User.Basic

/-!
# No update of a balance is lost

`inviteUser` saves a row that others may have changed since: the sums survive exactly if they have
not (`userBalance_kept_iff`).
-/

namespace TokensFlux

open BatchSystem Store UserSystem

namespace UserSystem

variable {P : Type} {env : UserEnv} {id : ℤ} {s : UserSystem P}

/-- What the batch updater has still to write included. -/
def balance (id : ℤ) (s : UserSystem P) : ℤ := s.batch.total .userQuota id

/-! ### Statements on the row -/

theorem balance_save (s : UserSystem P) (id : ℤ) (user : User) :
    (s.save id user).balance id = s.balance id - s.batch.tables.userQuota id + user.quota := by
  simp only [balance, total, save, stored, Function.update_self]
  omega

structure Credited (id : ℤ) (s s' : UserSystem P) : Prop where
  balance : s'.balance id - s'.credited = s.balance id - s.credited
  affQuota : s'.affQuota = s.affQuota
  transferred : s'.transferred = s.transferred
  invited : s'.invited = s.invited
  lock : s'.lock = s.lock
  wellFormed : s.batch.WellFormed → s'.batch.WellFormed
  locked : s.lock.isSome → s'.batch.tables.userQuota id = s.batch.tables.userQuota id

theorem Credited.refl (id : ℤ) (s : UserSystem P) : Credited id s s :=
  ⟨rfl, rfl, rfl, rfl, rfl, fun h => h, fun _ => rfl⟩

theorem credited_addQuota (id : ℤ) (s : UserSystem P) (fault : Option Err) (delta : ℤ) :
    Credited id s (s.addQuota id fault delta) := by
  unfold addQuota
  by_cases hlock : s.lock.isSome
  · rw [if_pos hlock]
    exact .refl id s
  rw [if_neg hlock]
  cases fault with
  | some => exact .refl id s
  | none =>
    refine ⟨?_, rfl, rfl, rfl, rfl, fun h => h, fun h => absurd h hlock⟩
    simp only [balance, total, addUserQuota, stored, Function.update_self]
    omega

theorem credited_changeQuota (id : ℤ) (s : UserSystem P) (fault : Option Err) (delta : ℤ)
    (db : Bool) : Credited id s (s.changeQuota id fault delta db) := by
  unfold changeQuota
  split_ifs
  · refine ⟨?_, rfl, rfl, rfl, rfl, fun h => h.step _, fun _ => rfl⟩
    simp only [balance, total, BatchSystem.step, BatchStores.value_addNewRecord, and_self, if_true]
    omega
  · exact credited_addQuota id s fault delta

theorem credited_redeem (id : ℤ) (s : UserSystem P) (key : String) (redemption : Redemption)
    (now : ℤ) (fault : Option Err) : Credited id s (s.redeem id key redemption now fault) := by
  unfold redeem
  by_cases hlock : s.lock.isSome
  · rw [if_pos hlock]
    exact .refl id s
  rw [if_neg hlock]
  split
  · split_ifs
    · obtain ⟨hbalance, haff, htransferred, hinvited, hlock', hwf, hlocked⟩ :=
        credited_addQuota id { s with redemptions := _ } none redemption.quota
      exact ⟨hbalance, haff, htransferred, hinvited, hlock', hwf, hlocked⟩
    · exact .refl id s
  · exact .refl id s

/-! ### The batch updater -/

theorem userQuota_exec {st : BatchStatement}
    (h : ∀ quota used count, st ≠ .user id quota used count) (tables : Store) (fault : Option Err) :
    (st.exec tables fault).userQuota id = tables.userQuota id := by
  cases fault with
  | some => rw [st.exec_of_fault]
  | none =>
    cases st with
    | token | channel => rfl
    | user k quota used count =>
      have hk : id ≠ k := by
        rintro rfl
        exact h quota used count rfl
      unfold BatchStatement.exec updateUserQuotaUsedQuotaAndRequestCount
      dsimp only
      split_ifs
      · rfl
      · exact Function.update_of_ne hk _ _

theorem userQuota_advanceBatch {i : ℕ} {k : ℤ} (hlock : s.lock.isSome)
    (hwaits : s.batchWaits id i k = false) (fault : Option Err) :
    (s.batch.step (.advance i k fault)).tables.userQuota id = s.batch.tables.userQuota id := by
  rw [batchWaits, hlock, Bool.true_and] at hwaits
  rw [BatchSystem.step]
  rcases hrun : s.batch.runs[i]? with _ | run
  · rfl
  rw [hrun] at hwaits
  cases run with
  | checking types =>
    cases types with
    | nil => rfl
    | cons =>
      dsimp only [advance]
      split_ifs <;> rfl
  | swapping types =>
    cases types with
    | nil | cons => rfl
  | finished => rfl
  | writing stores =>
    dsimp only [advance] at hwaits ⊢
    rcases hnext : BatchStatement.next stores k with _ | _
    · rfl
    rw [hnext] at hwaits
    apply userQuota_exec
    rintro _ _ _ rfl
    simp at hwaits

def batchLost (id : ℤ) (s : UserSystem P) (i : ℕ) (k : ℤ) (fault : Option Err) : ℤ :=
  match s.batch.runs[i]? with
  | none => 0
  | some run => run.lost k fault .userQuota id

theorem total_advanceBatch (hwf : s.batch.WellFormed) (i : ℕ) (k : ℤ) (fault : Option Err) :
    (s.batch.step (.advance i k fault)).total .userQuota id =
      s.balance id - s.batchLost id i k fault := by
  rw [BatchSystem.step, batchLost, balance]
  rcases hrun : s.batch.runs[i]? with _ | run
  · exact (sub_zero _).symm
  have hsum := BatchRun.advance_sum (hwf run (List.mem_of_getElem? hrun)) s.batch.tables
    s.batch.stores k fault .userQuota id
  dsimp only
  generalize advance s.batch.tables s.batch.stores k fault run = next at hsum ⊢
  obtain ⟨_, _, _⟩ := next
  simp only [total, sum_held_set hrun]
  dsimp only at hsum
  omega

/-! ### The two sums -/

structure Sound (id : ℤ) (s : UserSystem P) : Prop where
  wellFormed : s.batch.WellFormed
  locked : ∀ t ∈ s.lock, t.user.quota = s.batch.tables.userQuota id ∧ t.user.affQuota = s.affQuota

theorem Credited.sound {s' : UserSystem P} (h : Credited id s s')
    (hs : s.Sound id) : s'.Sound id := by
  refine ⟨h.wellFormed hs.wellFormed, ?_⟩
  intro t ht
  rw [h.lock] at ht
  rw [h.affQuota, h.locked (Option.isSome_of_eq_some ht)]
  exact hs.locked t ht

/-- The quota is `quota` plus what was credited and transferred, and the affiliate quota is
`affQuota` plus the rewards less what was transferred. -/
def Balanced (env : UserEnv) (id quota affQuota : ℤ) (s : UserSystem P) : Prop :=
  s.balance id = quota + s.credited + s.transferred ∧
    s.affQuota = affQuota + s.invited * env.quotaForInviter - s.transferred

theorem Credited.balanced_iff {s' : UserSystem P} (h : Credited id s s') (quota affQuota : ℤ) :
    s'.Balanced env id quota affQuota ↔ s.Balanced env id quota affQuota := by
  have hbalance := h.balance
  rw [Balanced, Balanced, h.affQuota, h.transferred, h.invited]
  constructor <;> rintro ⟨_, haff⟩ <;> exact ⟨by omega, haff⟩

/-- `inviteUser` saves the quota and the affiliate quota that the row has, and no failing statement
of the batch updater would have changed the quota. -/
def LosesNothing (id : ℤ) (s : UserSystem P) : UserEvent P → Prop
  | .inviteSave p fault => s.lock = none → fault = none → ∀ user ∈ s.invites p,
      user.quota = s.batch.tables.userQuota id ∧ user.affQuota = s.affQuota
  | .advanceBatch i k fault => s.batchWaits id i k = false → s.batchLost id i k fault = 0
  | _ => True

variable [DecidableEq P]

inductive StepOutcome (env : UserEnv) (id : ℤ) (s : UserSystem P) :
    UserEvent P → UserSystem P → Prop
  | credited (e : UserEvent P) (s' : UserSystem P) (same : Credited id s s')
      (safe : s.LosesNothing id e) : StepOutcome env id s e s'
  | invited (p : P) (user : User) (free : s.lock = none) (read : s.invites p = some user) :
      StepOutcome env id s (.inviteSave p none)
        { s.save id (user.invite env.quotaForInviter) with
          invites := Function.update s.invites p none, invited := s.invited + 1 }
  | locked (quota : ℤ) (free : s.lock = none) :
      StepOutcome env id s (.transferLock quota) { s with lock := some ⟨s.load id, quota⟩ }
  | transferred (t : AffTransfer) (lock : s.lock = some t) :
    StepOutcome env id s (.transferSave none) { s.save id (t.user.transfer t.quota) with
          lock := none, transferred := s.transferred + t.quota }
  | unlocked (e : Err) : StepOutcome env id s (.transferSave (some e)) { s with lock := none }
  | advanced (i : ℕ) (k : ℤ) (fault : Option Err) (free : s.batchWaits id i k = false) :
      StepOutcome env id s (.advanceBatch i k fault)
        { s with batch := s.batch.step (.advance i k fault) }

/-- **All that an event may do.** -/
theorem step_outcome (env : UserEnv) (id : ℤ) (s : UserSystem P) (e : UserEvent P) :
    StepOutcome env id s e (s.step env id e) := by
  have hsame (h : s.LosesNothing id e) : StepOutcome env id s e s := .credited _ _ (.refl id s) h
  cases e with
  | inviteRead => exact .credited _ _ ⟨rfl, rfl, rfl, rfl, rfl, fun h => h, fun _ => rfl⟩ trivial
  | inviteSave p fault =>
    unfold step
    dsimp only
    cases hlock : s.lock with
    | some => exact hsame (by simp [LosesNothing, hlock])
    | none =>
      rcases hread : s.invites p with _ | user
      · exact hsame (by simp [LosesNothing, hread])
      cases fault with
      | none => exact .invited p user hlock hread
      | some =>
        refine .credited _ _ ⟨rfl, rfl, rfl, rfl, ?_, fun h => h, fun _ => rfl⟩ ?_
        · exact hlock.symm
        · simp [LosesNothing]
  | transferLock quota =>
    rw [step]
    split
    · rename_i hlock _
      exact .locked quota hlock
    · exact hsame trivial
  | transferSave fault =>
    unfold step
    dsimp only
    split
    · rename_i t hlock
      exact .transferred t hlock
    · exact .unlocked _
    · exact hsame trivial
  | increase quota db fault =>
    rw [step]
    split_ifs
    · exact hsame trivial
    · exact .credited _ _ (credited_changeQuota id s fault quota db) trivial
  | decrease quota db fault =>
    rw [step]
    split_ifs
    · exact hsame trivial
    · exact .credited _ _ (credited_changeQuota id s fault (-quota) db) trivial
  | redeemRead =>
    rw [step]
    split_ifs
    · exact hsame trivial
    · split
      · exact hsame trivial
      · exact .credited _ _ ⟨rfl, rfl, rfl, rfl, rfl, fun h => h, fun _ => rfl⟩ trivial
  | redeemWrite _ now fault =>
    rw [step]
    split
    · exact hsame trivial
    · exact .credited _ _ (credited_redeem id s _ _ now fault) trivial
  | topUp quota fault => exact .credited _ _ (credited_addQuota id s fault quota) trivial
  | record type_ k =>
    rw [step]
    split_ifs with hown
    · exact hsame trivial
    refine .credited _ _ ⟨?_, rfl, rfl, rfl, rfl, fun h => h.step _, fun _ => rfl⟩ trivial
    have hother : ¬(BatchUpdateType.userQuota = type_ ∧ id = k) := by
      rintro ⟨rfl, rfl⟩
      exact hown ⟨rfl, rfl⟩
    simp only [balance, total, BatchSystem.step, BatchStores.value_addNewRecord,
      if_neg hother, add_zero]
  | startBatch =>
    refine .credited _ _ ⟨?_, rfl, rfl, rfl, rfl, fun h => h.step _, fun _ => rfl⟩ trivial
    simp [step, balance, total, BatchSystem.step, BatchRun.held]
  | advanceBatch i k fault =>
    rw [step]
    split_ifs with hwaits
    · exact hsame (by simp [LosesNothing, hwaits])
    · exact .advanced i k fault (Bool.eq_false_iff.mpr hwaits)

/-- The transaction that has the lock keeps what it has read current. -/
theorem Sound.step (h : s.Sound id) (e : UserEvent P) : (s.step env id e).Sound id := by
  have hout := step_outcome env id s e
  generalize s.step env id e = s' at hout ⊢
  cases hout with
  | credited _ _ same => exact same.sound h
  | invited _ _ free =>
    refine ⟨h.wellFormed, ?_⟩
    intro t ht
    have hlock : s.lock = some t := ht
    rw [free] at hlock
    cases hlock
  | locked =>
    refine ⟨h.wellFormed, ?_⟩
    rintro t ⟨⟩
    exact ⟨rfl, rfl⟩
  | transferred | unlocked => exact ⟨h.wellFormed, by simp⟩
  | advanced _ _ fault free =>
    refine ⟨h.wellFormed.step _, ?_⟩
    intro t ht
    have hlock : s.lock = some t := ht
    have hrow := userQuota_advanceBatch (Option.isSome_of_eq_some hlock) free fault
    obtain ⟨hquota, haff⟩ := h.locked t hlock
    exact ⟨hquota.trans hrow.symm, haff⟩

/-- **A step keeps the two sums exactly when it loses nothing.** -/
theorem balanced_step {quota affQuota : ℤ} (hs : s.Sound id) (h : s.Balanced env id quota affQuota)
    (e : UserEvent P) : (s.step env id e).Balanced env id quota affQuota ↔ s.LosesNothing id e := by
  have hout := step_outcome env id s e
  generalize s.step env id e = s' at hout ⊢
  obtain ⟨hquota, haff⟩ := h
  cases hout with
  | credited _ _ same safe => exact iff_of_true ((same.balanced_iff _ _).mpr ⟨hquota, haff⟩) safe
  | invited _ user free read =>
    have hbalance := s.balance_save id (user.invite env.quotaForInviter)
    simp only [LosesNothing, free, read, Option.mem_some_iff, forall_eq', forall_const]
    show (s.save id (user.invite env.quotaForInviter)).balance id = _ ∧ _ ↔ _
    rw [hbalance]
    show s.balance id - s.batch.tables.userQuota id + user.quota =
      quota + s.credited + s.transferred ∧
      user.affQuota + env.quotaForInviter = affQuota + (s.invited + 1) *
        env.quotaForInviter - s.transferred ↔ _
    rw [add_mul, one_mul]
    constructor
    · rintro ⟨hquota', haff'⟩
      exact ⟨by omega, by omega⟩
    · rintro ⟨hquota', haff'⟩
      exact ⟨by omega, by omega⟩
  | locked | unlocked => exact iff_of_true ⟨hquota, haff⟩ trivial
  | transferred t lock =>
    refine iff_of_true ?_ trivial
    have hbalance := s.balance_save id (t.user.transfer t.quota)
    obtain ⟨_, _⟩ := hs.locked t lock
    constructor
    · show (s.save id (t.user.transfer t.quota)).balance id =
        quota + s.credited + (s.transferred + t.quota)
      rw [hbalance]
      show s.balance id - s.batch.tables.userQuota id + (t.user.quota + t.quota) = _
      omega
    · show t.user.affQuota - t.quota = affQuota + s.invited * env.quotaForInviter -
        (s.transferred + t.quota)
      omega
  | advanced i k fault free =>
    have htotal : (s.batch.step (.advance i k fault)).total .userQuota id = _ :=
      total_advanceBatch hs.wellFormed i k fault
    simp only [LosesNothing, free, forall_const]
    show (s.batch.step (.advance i k fault)).total .userQuota id =
      quota + s.credited + s.transferred ∧
      s.affQuota = affQuota + s.invited * env.quotaForInviter - s.transferred ↔ _
    constructor
    · rintro ⟨hquota', -⟩
      omega
    · intro hlost
      exact ⟨by omega, haff⟩

def init (batch : BatchSystem) (affCount affQuota affHistoryQuota : ℤ)
    (redemptions : AList fun _ : String => Redemption) : UserSystem P where
  batch := batch
  affCount := affCount
  affQuota := affQuota
  affHistoryQuota := affHistoryQuota
  redemptions := redemptions
  invites _ := none
  redeems _ := none
  lock := none

end UserSystem

/-- **When no update of a user's balance is lost**: exactly if every `inviteUser` that saves the row
finds the quota and the affiliate quota it has loaded, and no failing statement of the batch updater
would have changed the quota. -/
theorem userBalance_kept_iff {P : Type} [DecidableEq P] (env : UserEnv) (id : ℤ) (tables : Store)
    (stores : BatchStores) (affCount affQuota affHistoryQuota : ℤ)
    (redemptions : AList fun _ : String => Redemption) (es : List (UserEvent P)) :
    let s₀ := UserSystem.init (.init tables stores) affCount affQuota affHistoryQuota redemptions
    Guarded (UserSystem.step env id) (UserSystem.LosesNothing id) s₀ es ↔ ∀ es', es' <+: es →
        let s := es'.foldl (UserSystem.step env id) s₀
        s.balance id = tables.userQuota id + stores.value .userQuota id +
          s.credited + s.transferred ∧
          s.affQuota = affQuota + s.invited * env.quotaForInviter - s.transferred := by
  intro s₀
  let quota := tables.userQuota id + stores.value .userQuota id
  have hstep : ∀ (s : UserSystem P) (e : UserEvent P),
      s.Sound id ∧ s.Balanced env id quota affQuota →
        ((s.step env id e).Sound id ∧ (s.step env id e).Balanced env id quota affQuota ↔
          s.LosesNothing id e) := by
    rintro s e ⟨hsound, hbalanced⟩
    rw [← balanced_step hsound hbalanced e]
    exact and_iff_right (hsound.step e)
  have hinit : s₀.Sound id := by
    constructor
    · intro run hrun
      cases hrun
    · intro t ht
      cases ht
  have hsound : ∀ es' : List (UserEvent P), (es'.foldl (UserSystem.step env id) s₀).Sound id := by
    intro es'
    exact Guarded.invariant_of_step (fun s e hs => hs.step e) es' hinit
  have hbalanced : s₀.Balanced env id quota affQuota := by
    simp [UserSystem.Balanced, balance, total, s₀, UserSystem.init, BatchSystem.init, stored, quota]
  rw [Guarded.iff_forall_prefix hstep ⟨hinit, hbalanced⟩]
  apply forall_congr'
  intro es'
  apply imp_congr_right
  intro _
  exact and_iff_right (hsound es')

def UserEnv.sample : UserEnv where
  quotaForInviter := 5
  quotaPerUnit := 10
  logQuota n := toString n

def UserSystem.sample : UserSystem (Fin 2) :=
  .init (.init { empty with userQuota := fun _ => 100 } .empty) 4 20 20 ∅

example :
    let es := [UserEvent.inviteRead (0 : Fin 2), .inviteSave 0 none, .transferLock 10,
      .decrease 30 false none, .transferSave none, .decrease 30 false none]
    let s := es.foldl (step .sample 1) .sample
    s.balance 1 = 80 ∧ s.affQuota = 15 := by
  decide +kernel

/-- A charge of 30 while an invitation is saved: the quota of 100 is written back. -/
theorem userBalance_lost_by_invite :
    let s := [UserEvent.inviteRead (0 : Fin 2), .decrease 30 false none, .inviteSave 0 none].foldl
      (step .sample 1) .sample
    s.balance 1 = 100 ∧ s.credited = -30 ∧ s.transferred = 0 := by
  decide +kernel

end TokensFlux
