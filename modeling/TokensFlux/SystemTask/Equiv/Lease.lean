import TokensFlux.SystemTask.Equiv.Basic

/-!
# Running tasks and their locks

A running task has the lock row that names it and is not failed while that row is live, as long as
claims, renewals and expiry passes act on what they have read.  A runner that stalls breaks this
(`stuck_and_killed`).  `KeepsLocks` is all that a statement may do, and `Lease` the invariant.
-/

namespace TokensFlux

open List Option Function ClaimCall

/-! ### Fresh leases -/

/-- Its task is pending and its lock is live. -/
def ClaimCall.fresh (t : TaskTables) (clock : ℤ) (runner : String) (c : ClaimCall) : Bool :=
  let isPending := t.tasks.any fun row => row.taskID = c.taskID ∧ row.status = .pending
  match c.phase with
  | .takeover _ => isPending
  | .status => !isPending || t.locks.any fun lock =>
      lock.type = c.taskType ∧ lock.taskID = c.taskID ∧ lock.lockedBy = runner ∧
        clock ≤ lock.lockedUntil
  | _ => true

/-- A renewal prolongs a live lock, and an expiry pass finds the lock as it was. -/
def TaskCall.fresh (t : TaskTables) (clock : ℤ) : TaskCall → Bool
  | .renew taskID lockedBy lockUntil now => t.locks.all fun lock =>
      lock.taskID = taskID ∧ lock.lockedBy = lockedBy ∧ now ≤ lock.lockedUntil →
        clock ≤ lock.lockedUntil ∧ lock.lockedUntil ≤ lockUntil
  | .expireMark _ lock _ =>
    (!t.tasks.any fun row => row.taskID = lock.taskID ∧ row.status = .running) || lock ∈ t.locks
  | _ => true

namespace LeaseSystem

variable {P : Type} [DecidableEq P] {s : LeaseSystem P}

/-- No statement acts on a lease that is over. -/
def fresh (s : LeaseSystem P) : LeaseEvent P → Bool
  | .nextClaim runner false => (s.claims runner).all (·.fresh s.toTaskTables s.clock runner)
  | .next p false => (s.calls p).all (·.fresh s.toTaskTables s.clock)
  | _ => true

def marked (s : LeaseSystem P) : LeaseEvent P → Option String
  | .nextClaim runner false =>
    match s.claims runner with
    | some ⟨_, _, _, _, .mark expired⟩ => some expired
    | _ => none
  | .next p false =>
    match s.calls p with
    | some (.expireMark _ lock _) => some lock.taskID
    | _ => none
  | _ => none

/-- A running task is marked as expired under its live lock. -/
def killsLive (s : LeaseSystem P) (e : LeaseEvent P) : Bool :=
  (s.marked e).any fun taskID => s.tasks.any fun row => row.taskID = taskID ∧
    row.status = .running ∧
    s.locks.any fun lock => lock.taskID = taskID ∧ lock.lockedBy = row.lockedBy ∧
      s.clock ≤ lock.lockedUntil

end LeaseSystem

/-! ### What a statement keeps -/

def Names (lock : SystemTaskLock) (row : SystemTask) : Prop :=
  lock.type = row.type ∧ lock.taskID = row.taskID ∧ lock.lockedBy = row.lockedBy

def OldRunning (tasks : List SystemTask) (row' : SystemTask) : Prop :=
  ∃ row ∈ tasks, row.status = .running ∧ row.taskID = row'.taskID ∧ row.type = row'.type ∧
    row.lockedBy = row'.lockedBy

/-- A task becomes running under a live lock, and no lock of a running task goes or gets shorter. -/
structure KeepsLocks (clock : ℤ) (starter : Option String) (t t' : TaskTables) : Prop where
  running : ∀ row' ∈ t'.tasks, row'.status = .running → OldRunning t.tasks row' ∨
    starter = some row'.lockedBy ∧ ∃ lock ∈ t'.locks, Names lock row' ∧ clock ≤ lock.lockedUntil
  forth : ∀ row ∈ t.tasks, row.status = .running → ∀ lock ∈ t.locks, Names lock row →
    ∃ lock' ∈ t'.locks, Names lock' row
  back : ∀ row ∈ t.tasks, row.status = .running → ∀ lock' ∈ t'.locks, lock'.taskID = row.taskID →
    ∃ lock ∈ t.locks, lock.taskID = row.taskID ∧ lock.lockedUntil ≤ lock'.lockedUntil

variable {fault : Bool} {started : List (String × String)}
  {tasks : List SystemTask} {runner : String}
  {c : TaskCall} {t : TaskTables}

namespace KeepsLocks

variable {clock : ℤ} {starter : Option String} {t : TaskTables}

theorem oldRunning_self {row : SystemTask} (h : row ∈ tasks) (hrunning : row.status = .running) :
    OldRunning tasks row :=
  ⟨row, h, hrunning, rfl, rfl, rfl⟩

theorem of_tasks
    (h : ∀ row' ∈ tasks, row'.status = .running → OldRunning t.tasks row' ∨
      starter = some row'.lockedBy ∧ ∃ lock ∈ t.locks, Names lock row' ∧ clock ≤ lock.lockedUntil) :
    KeepsLocks clock starter t { t with tasks } :=
  ⟨h, fun _ _ _ lock hlock hnames => ⟨lock, hlock, hnames⟩,
   fun _ _ _ lock hlock hid => ⟨lock, hlock, hid, Int.le_refl _⟩⟩

theorem refl (t : TaskTables) : KeepsLocks clock starter t t :=
  of_tasks fun _ hrow hrunning => .inl (oldRunning_self hrow hrunning)

theorem updateTasks {p : SystemTask → Bool} {f : SystemTask → SystemTask}
    (h : ∀ row ∈ t.tasks, p row = true → (f row).status = .running → OldRunning t.tasks (f row) ∨
      starter = some (f row).lockedBy ∧ ∃ lock ∈ t.locks, Names lock (f row) ∧
      clock ≤ lock.lockedUntil) :
    KeepsLocks clock starter t { t with tasks := updateWhere p f t.tasks } := by
  apply of_tasks
  intro row' hrow' hrunning
  obtain ⟨row, hrow, rfl⟩ := mem_updateWhere.mp hrow'
  split_ifs at hrunning ⊢ with hp
  · exact h row hrow hp hrunning
  · exact .inl (oldRunning_self hrow hrunning)

theorem mark (taskID : String) (now : ℤ) :
    KeepsLocks clock starter t (t.markSystemTaskLeaseExpired taskID now) :=
  updateTasks fun _ _ _ hrunning => by cases hrunning

theorem filter {p : SystemTaskLock → Bool}
    (h : ∀ row ∈ t.tasks, row.status = .running →
      ∀ lock ∈ t.locks, Names lock row → p lock = true) :
    KeepsLocks clock starter t { t with locks := t.locks.filter p } := by
  refine ⟨fun row hrow hrunning => .inl (oldRunning_self hrow hrunning), ?_, ?_⟩
  · intro row hrow hrunning lock hlock hnames
    exact ⟨lock, mem_filter.mpr ⟨hlock, h row hrow hrunning lock hlock hnames⟩, hnames⟩
  · intro row _ _ lock hlock hid
    exact ⟨lock, (mem_filter.mp hlock).1, hid, Int.le_refl _⟩

theorem updateLocks {p : SystemTaskLock → Bool} {f : SystemTaskLock → SystemTaskLock}
    (hforth : ∀ row ∈ t.tasks, row.status = .running →
      ∀ lock ∈ t.locks, p lock = true → Names lock row → Names (f lock) row)
    (hback : ∀ row ∈ t.tasks, row.status = .running → ∀ lock ∈ t.locks, p lock = true →
      (f lock).taskID = row.taskID →
      lock.taskID = row.taskID ∧ lock.lockedUntil ≤ (f lock).lockedUntil) :
    KeepsLocks clock starter t { t with locks := updateWhere p f t.locks } := by
  refine ⟨fun row hrow hrunning => .inl (oldRunning_self hrow hrunning), ?_, ?_⟩
  · intro row hrow hrunning lock hlock hnames
    refine ⟨_, mem_updateWhere.mpr ⟨lock, hlock, rfl⟩, ?_⟩
    split_ifs with hp
    · exact hforth row hrow hrunning lock hlock hp hnames
    · exact hnames
  intro row hrow hrunning lock' hlock' hid
  obtain ⟨lock, hlock, rfl⟩ := mem_updateWhere.mp hlock'
  refine ⟨lock, hlock, ?_⟩
  split_ifs at hid ⊢ with hp
  · exact hback row hrow hrunning lock hlock hp hid
  · exact ⟨hid, Int.le_refl _⟩

end KeepsLocks

def TaskTables.Leased (t : TaskTables) : Prop :=
  ∀ row ∈ t.tasks, row.status = .running → ∃ lock ∈ t.locks, Names lock row

def ClaimCall.Waits (tasks : List SystemTask) (runner : String) (c : ClaimCall) : Prop :=
  c.phase ≠ .select → ∀ row ∈ tasks, row.taskID = c.taskID → row.status = .running →
    row.lockedBy ≠ runner

theorem ClaimCall.Sound.type_eq {c : ClaimCall} (hsound : c.Sound t.tasks) (h : t.Inv started)
    (hne : c.phase ≠ .select) {row : SystemTask} (hrow : row ∈ t.tasks)
    (hid : row.taskID = c.taskID) :
    row.type = c.taskType := by
  obtain ⟨_, hrow', hid', htype'⟩ := hsound.1 hne
  rw [h.taskIDs.eq_of_key_eq hrow hrow' (hid.trans hid'.symm), htype']

/-- A running task of the type has its lock, and then there is no insertion. -/
theorem KeepsLocks.insert {clock : ℤ} {starter : Option String} {lock : SystemTaskLock}
    (hleased : t.Leased) (htype : ∀ row ∈ t.tasks, row.taskID = lock.taskID → row.type = lock.type)
    (hfree : ∀ lock' ∈ t.locks, lock'.type ≠ lock.type) :
    KeepsLocks clock starter t { t with locks := t.locks ++ [lock] } := by
  refine ⟨fun row hrow hrunning => .inl (oldRunning_self hrow hrunning), ?_, ?_⟩
  · intro row _ _ lock hlock hnames
    exact ⟨lock, mem_append_left _ hlock, hnames⟩
  intro row hrow hrunning lock' hlock' hid
  rcases mem_append.mp hlock' with hlock' | hlock'
  · exact ⟨lock', hlock', hid, Int.le_refl _⟩
  rw [mem_singleton.mp hlock'] at hid
  obtain ⟨old, hold, hnames⟩ := hleased row hrow hrunning
  exact absurd (hnames.1.trans (htype row hrow hid.symm)) (hfree old hold)

/-- The pending task is the one active task of its type, so the lock that is taken over belongs to
no running one. -/
theorem KeepsLocks.takeover {clock : ℤ} {starter : Option String} {p : SystemTaskLock → Bool}
    {f : SystemTaskLock → SystemTaskLock} (h : t.Inv started) {task : SystemTask}
    (htask : task ∈ t.tasks)
    (hpending : task.status = .pending) (hp : ∀ lock, p lock = true → lock.type = task.type)
    (hf : ∀ lock, (f lock).taskID = task.taskID) :
    KeepsLocks clock starter t { t with locks := updateWhere p f t.locks } := by
  apply KeepsLocks.updateLocks
  · intro row hrow hrunning lock _ hstale hnames
    have heq : row = task := h.oneActive row hrow task htask
      (by simp [hrunning, SystemTaskStatus.isActive])
        (by simp [hpending, SystemTaskStatus.isActive])
      (by rw [← hnames.1, hp lock hstale])
    rw [heq, hpending] at hrunning
    cases hrunning
  · intro row hrow hrunning lock _ _ hrowID
    rw [hf] at hrowID
    rw [h.taskIDs.eq_of_key_eq hrow htask hrowID.symm, hpending] at hrunning
    cases hrunning

theorem ClaimCall.keeps {c : ClaimCall} {clock : ℤ} {starter : Option String} (h : t.Inv started)
    (hleased : t.Leased) (hsound : c.Sound t.tasks) (hwaits : c.Waits t.tasks runner)
    (hfresh : fault = false → c.fresh t clock runner = true)
    (hstarter : (c.next runner clock fault t).2 = none → starter = some runner) :
    KeepsLocks clock starter t (c.next runner clock fault t).1 := by
  unfold next at hstarter ⊢
  unfold ClaimCall.fresh at hfresh
  cases hphase : c.phase with
  | select => exact .refl t
  | insert =>
    dsimp only
    split_ifs with hthere
    · exact .refl t
    apply KeepsLocks.insert hleased
    · exact fun row hrow hid => hsound.type_eq h (by simp [hphase]) hrow hid
    · intro lock hlock htype
      exact hthere (.inr (List.any_eq_true.mpr ⟨lock, hlock, decide_eq_true htype⟩))
  | existing =>
    dsimp only
    split_ifs
    · exact .refl t
    · split
      · exact .refl t
      · split_ifs <;> exact .refl t
  | takeover =>
    dsimp only
    split_ifs with hnot
    · exact .refl t
    all_goals
      have hpending := hfresh (by simpa using (not_or.mp hnot).1)
      simp only [hphase, List.any_eq_true, decide_eq_true_eq] at hpending
      obtain ⟨task, htask, hid, hpending⟩ := hpending
      refine KeepsLocks.takeover h htask hpending ?_ fun _ => hid.symm
      intro lock hstale
      rw [hsound.type_eq h (by simp [hphase]) htask hid]
      exact (of_decide_eq_true hstale).1
  | mark expired =>
    dsimp only
    split_ifs
    · exact .refl t
    · exact .mark expired clock
  | status =>
    simp only [hphase] at hstarter hfresh ⊢
    split_ifs at hstarter ⊢ with hnot
    · exact .refl t
    apply KeepsLocks.updateTasks
    intro row hrow hpending _
    simp only [decide_eq_true_eq] at hpending
    obtain ⟨hid, hrowType, hpending⟩ := hpending
    have hlock := hfresh (by simpa using (not_or.mp hnot).1)
    have hany : (t.tasks.any fun row => decide (row.taskID = c.taskID ∧ row.status = .pending)) =
        true :=
      List.any_eq_true.mpr ⟨row, hrow, by simp [hid, hpending]⟩
    simp only [hany, Bool.not_true, Bool.false_or, List.any_eq_true, decide_eq_true_eq] at hlock
    obtain ⟨lock, hlock, hlockType, hlockID, hby, hlive⟩ := hlock
    exact .inr ⟨hstarter rfl, lock, hlock,
      ⟨hlockType.trans hrowType.symm, hlockID.trans hid.symm, hby⟩, hlive⟩
  | release =>
    dsimp only
    split_ifs
    · exact .refl t
    apply KeepsLocks.filter
    intro row hrow hrunning lock _ hnames
    simp only [decide_eq_true_eq]
    rintro ⟨hid, hby⟩
    exact hwaits (by simp [hphase]) row hrow (hnames.2.1.symm.trans hid) hrunning
      (hnames.2.2.symm.trans hby)

def HasEnded (tasks : List SystemTask) (taskID : String) : Prop :=
  ∃ row ∈ tasks, row.taskID = taskID ∧ row.status.isActive = false

def TaskTables.LiveAt (t : TaskTables) (now : ℤ) (lock : SystemTaskLock) : Prop :=
  ∀ row ∈ t.tasks, row.status = .running → row.taskID = lock.taskID → row.lockedBy = lock.lockedBy →
    ∀ lock' ∈ t.locks, lock'.taskID = row.taskID → now ≤ lock'.lockedUntil

/-- An expiry pass has read locks that were over, and has failed the task of the lock it deletes. -/
def TaskCall.Sound (t : TaskTables) (clock : ℤ) : TaskCall → Prop
  | .expireRead now => now ≤ clock
  | .expireMark now lock locks => now ≤ clock ∧ ∀ lock' ∈ lock :: locks, lock'.lockedUntil < now
  | .expireDelete now lock locks =>
    now ≤ clock ∧ (∀ lock' ∈ locks, lock'.lockedUntil < now) ∧ t.LiveAt now lock
  | .finishRelease taskID _ => HasEnded t.tasks taskID
  | _ => True

theorem TaskTables.Inv.not_running (h : t.Inv started) {row : SystemTask}
    (hended : HasEnded t.tasks row.taskID) (hrow : row ∈ t.tasks) : row.status ≠ .running := by
  obtain ⟨_, hrow', hid, hended⟩ := hended
  rw [← h.taskIDs.eq_of_key_eq hrow' hrow hid]
  intro hrunning
  simp [hrunning, SystemTaskStatus.isActive] at hended

theorem TaskCall.keeps {clock : ℤ} (h : t.Inv started) (hsound : c.Sound t clock)
    (hfresh : fault = false → c.fresh t clock = true) :
    KeepsLocks clock none t (c.next clock fault t).1 := by
  unfold TaskCall.next
  cases c with
  | update =>
    split_ifs
    · exact .refl t
    · exact .updateTasks fun row hrow _ hrunning => .inl ⟨row, hrow, hrunning, rfl, rfl, rfl⟩
  | renew =>
    split_ifs with hfault
    · exact .refl t
    apply KeepsLocks.updateLocks
    · exact fun _ _ _ _ _ _ hnames => hnames
    intro row _ _ lock hlock hlive hid
    simp only [decide_eq_true_eq] at hlive
    have hfresh := hfresh (by simpa using hfault)
    simp only [TaskCall.fresh, List.all_eq_true, decide_eq_true_eq] at hfresh
    exact ⟨hid, (hfresh lock hlock hlive).2⟩
  | expireRead => exact .refl t
  | expireMark _ lock =>
    split_ifs
    · exact .refl t
    · exact .mark lock.taskID clock
  | expireDelete =>
    split_ifs
    · exact .refl t
    apply KeepsLocks.filter
    intro row hrow hrunning lock' hlock' hnames
    simp only [Bool.not_eq_true', decide_eq_false_iff_not]
    rintro ⟨-, hid, hby, _⟩
    have hlive := hsound.2.2 row hrow hrunning (hnames.2.1.symm.trans hid)
      (hnames.2.2.symm.trans hby) lock' hlock'
      hnames.2.1
    omega
  | finish =>
    dsimp only
    split_ifs
    · exact .refl t
    all_goals exact .updateTasks fun row hrow _ hrunning => by cases hrunning
  | finishRelease taskID =>
    split_ifs
    · exact .refl t
    apply KeepsLocks.filter
    intro row hrow hrunning lock _ hnames
    simp only [decide_eq_true_eq]
    rintro ⟨hid, -⟩
    have hended : HasEnded t.tasks row.taskID := by
      rw [← hnames.2.1, hid]
      exact hsound
    exact h.not_running hended hrow hrunning

/-! ### What follows for tasks and calls -/

section

variable {clock : ℤ} {starter : Option String} {t t' : TaskTables}
  {started : List (String × String)}

theorem KeepsLocks.leased (h : KeepsLocks clock starter t t') (hleased : t.Leased) : t'.Leased := by
  intro row' hrow' hrunning
  rcases h.running row' hrow' hrunning with ⟨row, hrow, hwas, hid, htype, hby⟩ |
    ⟨-, lock, hlock, hnames, -⟩
  · obtain ⟨lock, hlock, hnames⟩ := hleased row hrow hwas
    obtain ⟨lock', hlock', hnames'⟩ := h.forth row hrow hwas lock hlock hnames
    exact ⟨lock', hlock', hnames'.1.trans htype, hnames'.2.1.trans hid, hnames'.2.2.trans hby⟩
  · exact ⟨lock, hlock, hnames⟩

theorem KeepsLocks.waits (h : KeepsLocks clock starter t t') {c : ClaimCall}
    (hne : starter ≠ some runner) (hwaits : c.Waits t.tasks runner) : c.Waits t'.tasks runner := by
  rintro hselect row' hrow' hid hrunning rfl
  rcases h.running row' hrow' hrunning with ⟨row, hrow, hwas, hid', -, hby⟩ | ⟨hstarter, -⟩
  · exact hwaits hselect row hrow (hid'.trans hid) hwas hby
  · exact hne hstarter

theorem TaskTables.Inv.lock_eq (h : t.Inv started) {lock lock' : SystemTaskLock}
    (hlock : lock ∈ t.locks)
    (hlock' : lock' ∈ t.locks) (hid : lock.taskID = lock'.taskID) : lock = lock' := by
  obtain ⟨row, hrow, hrowID, htype⟩ := h.lockTasks lock hlock
  obtain ⟨row', hrow', hrowID', htype'⟩ := h.lockTasks lock' hlock'
  have heq : row = row' := h.taskIDs.eq_of_key_eq hrow hrow' (by rw [hrowID, hid, hrowID'])
  exact h.lockTypes.eq_of_key_eq hlock hlock' (by rw [← htype, heq, htype'])

theorem KeepsLocks.liveAt (h : KeepsLocks clock starter t t') (hinv : t'.Inv started) {now : ℤ}
    {lock : SystemTaskLock}
    (hnow : now ≤ clock) (hlive : t.LiveAt now lock) : t'.LiveAt now lock := by
  intro row' hrow' hrunning hid hby lock' hlock' hlockID
  rcases h.running row' hrow' hrunning with ⟨row, hrow, hwas, hrowID, -, hrowBy⟩ |
    ⟨-, _, hnew, hnames, hnewLive⟩
  · obtain ⟨old, hold, holdID, hle⟩ := h.back row hrow hwas lock' hlock' (hlockID.trans hrowID.symm)
    exact Int.le_trans (hlive row hrow hwas (hrowID.trans hid) (hrowBy.trans hby)
      old hold holdID) hle
  · rw [hinv.lock_eq hlock' hnew (hlockID.trans hnames.2.1.symm)]
    exact Int.le_trans hnow hnewLive

theorem HasEnded.mono {tasks' : List SystemTask} {taskID : String} (h : HasEnded tasks taskID)
    (hkeep : ∀ row ∈ tasks, row.status.isActive = false → row ∈ tasks') :
    HasEnded tasks' taskID := by
  obtain ⟨row, hrow, hid, hended⟩ := h
  exact ⟨row, hkeep row hrow hended, hid, hended⟩

theorem TaskCall.Sound.keeps (h : c.Sound t clock) (hkeeps : KeepsLocks clock starter t t')
    (hinv : t'.Inv started)
    (hended : ∀ row ∈ t.tasks, row.status.isActive = false → row ∈ t'.tasks) :
    c.Sound t' clock := by
  cases c with
  | update | renew | finish => trivial
  | expireRead | expireMark => exact h
  | expireDelete => exact ⟨h.1, h.2.1, hkeeps.liveAt hinv h.1 h.2.2⟩
  | finishRelease => exact h.mono hended

theorem TaskCall.Sound.tick (h : c.Sound t clock) (seconds : ℕ) : c.Sound t (clock + seconds) := by
  have hle : clock ≤ clock + seconds := by omega
  cases c with
  | update | renew | finish => trivial
  | expireRead => exact Int.le_trans h hle
  | expireMark | expireDelete => exact ⟨Int.le_trans h.1 hle, h.2⟩
  | finishRelease => exact h

theorem TaskCall.sound_expireLoop {now : ℤ} (hnow : now ≤ clock) {locks : List SystemTaskLock}
    (hlocks : ∀ lock ∈ locks, lock.lockedUntil < now) (hc : expireLoop now locks = some c) :
    c.Sound t clock := by
  cases locks with
  | nil => cases hc
  | cons =>
    cases hc
    exact ⟨hnow, hlocks⟩

theorem TaskCall.sound_next {c' : TaskCall} (hsound : c.Sound t clock)
    (hc' : (c.next clock fault t).2 = some c') : c'.Sound (c.next clock fault t).1 clock := by
  unfold TaskCall.next at hc' ⊢
  cases c with
  | update | renew | finishRelease => cases hc'
  | expireRead =>
    split_ifs at hc'
    exact sound_expireLoop hsound (fun lock hlock => by simpa using (mem_filter.mp hlock).2) hc'
  | expireMark =>
    split_ifs at hc' ⊢
    cases hc'
    refine ⟨hsound.1, fun lock' hlock' => hsound.2 lock' (mem_cons_of_mem _ hlock'), ?_⟩
    -- No task with this id is running any more.
    intro row' hrow' hrunning hid
    obtain ⟨row, hrow, rfl⟩ := mem_updateWhere.mp hrow'
    split_ifs at hrunning hid with hmarked
    simp only [decide_eq_true_eq, not_and] at hmarked
    exact absurd hrunning (hmarked hid)
  | expireDelete =>
    split_ifs at hc' ⊢
    exact sound_expireLoop hsound.1 hsound.2.1 hc'
  | finish =>
    dsimp only at hc' ⊢
    split_ifs at hc' ⊢ with hnot
    all_goals
      cases hc'
      simp only [not_or, not_not, List.any_eq_true] at hnot
      obtain ⟨-, row, hrow, hrowLeased⟩ := hnot
      refine ⟨_, mem_updateWhere.mpr ⟨row, hrow, rfl⟩, ?_⟩
      rw [if_pos hrowLeased]
      simp only [TaskTables.isLeased, decide_eq_true_eq] at hrowLeased
      exact ⟨hrowLeased.1, rfl⟩

theorem ClaimCall.waits_next {c : ClaimCall} (h : t.Inv started) (hwaits : c.Waits t.tasks runner)
    {phase : ClaimPhase} (hphase : (c.next runner clock fault t).2 = some phase) :
    ClaimCall.Waits t.tasks runner { c with phase } := by
  intro _ row hrow hid hrunning
  by_cases hselect : c.phase = .select
  · simp only [next, hselect, Option.ite_none_right_eq_some, List.any_eq_true,
      decide_eq_true_eq] at hphase
    obtain ⟨⟨-, _, htask, htaskID, -, hpending⟩, -⟩ := hphase
    rw [h.taskIDs.eq_of_key_eq hrow htask (hid.trans htaskID.symm), hpending] at hrunning
    cases hrunning
  · exact hwaits hselect row hrow hid hrunning

theorem ClaimCall.ended_of_mark {c : ClaimCall} (h : t.Inv started) (hsound : c.Sound t.tasks)
    (hfresh : fault = false → c.fresh t clock runner = true) {expired : String}
    (hphase : (c.next runner clock fault t).2 = some (.mark expired)) :
    HasEnded t.tasks expired := by
  unfold next at hphase
  unfold ClaimCall.fresh at hfresh
  cases hat : c.phase with
  | takeover =>
    simp only [hat] at hphase hfresh
    split_ifs at hphase with hnot hother
    · cases hphase
      have hpending := hfresh (by simpa using (not_or.mp hnot).1)
      simp only [List.any_eq_true, decide_eq_true_eq] at hpending
      obtain ⟨task, htask, hid, hpending⟩ := hpending
      obtain ⟨row, hrow, hrowID, htype⟩ := hsound.2 expired hat
      obtain ⟨_, htask', hid', htype'⟩ := hsound.1 (by simp [hat])
      refine ⟨row, hrow, hrowID, Bool.eq_false_iff.mpr fun hactive => hother.2 ?_⟩
      rw [h.taskIDs.eq_of_key_eq htask' htask (hid'.trans hid.symm)] at htype'
      rw [← hrowID, ← hid,
        h.oneActive row hrow task htask hactive (by simp [hpending, SystemTaskStatus.isActive])
        (htype.trans htype'.symm)]
    · cases hphase
  | existing =>
    simp only [hat] at hphase
    split_ifs at hphase
    split at hphase
    · cases hphase
    · split_ifs at hphase
      cases hphase
  | select | insert | mark | status =>
    simp only [hat] at hphase; split_ifs at hphase <;> cases hphase
  | release => simp [hat] at hphase

end

/-! ### Runs -/

namespace LeaseSystem

variable {P : Type} [DecidableEq P] {s : LeaseSystem P}

structure Lease (s : LeaseSystem P) : Prop extends Inv s where
  leased : s.Leased
  waits : ∀ runner c, s.claims runner = some c → c.Waits s.tasks runner
  marks : ∀ runner c expired, s.claims runner = some c → c.phase = .mark expired →
    HasEnded s.tasks expired
  sound : ∀ p c, s.calls p = some c → c.Sound s.toTaskTables s.clock

theorem Lease.create (h : Lease s) (taskID taskType payload state : String) :
    Lease (s.step (.create taskID taskType payload state)) := by
  have hinv := h.toInv.step (.create taskID taskType payload state)
  have hmem := (h.tables.createSystemTask taskID taskType payload state s.clock).2
  have hkeeps : KeepsLocks s.clock none s.toTaskTables
      (s.createSystemTask taskID taskType payload state s.clock) := by
    unfold TaskTables.createSystemTask
    split_ifs
    · exact .refl _
    apply KeepsLocks.of_tasks
    intro row hrow hrunning
    rcases mem_append.mp hrow with hrow | hrow
    · exact .inl (KeepsLocks.oldRunning_self hrow hrunning)
    · rw [mem_singleton.mp hrow] at hrunning
      cases hrunning
  have hended := fun row hrow (_ : row.status.isActive = false) => hmem row hrow
  exact ⟨hinv, hkeeps.leased h.leased,
    fun runner c hc => hkeeps.waits (by simp) (h.waits runner c hc),
    fun runner c expired hc hat => (h.marks runner c expired hc hat).mono hended,
    fun p c hc => (h.sound p c hc).keeps hkeeps hinv.tables hended⟩

theorem Lease.claim (h : Lease s) (runner taskID taskType : String) (lockUntil : ℤ) :
    Lease (s.step (.claim runner taskID taskType lockUntil)) := by
  have hinv := h.toInv.step (.claim runner taskID taskType lockUntil)
  simp only [LeaseSystem.step] at hinv ⊢
  split at hinv
  · exact h
  refine ⟨hinv, h.leased, forall_update (fun runner' c _ => h.waits runner' c) ?_,
    fun runner' c expired => ?_, h.sound⟩
  · rintro _ ⟨⟩ hne
    exact absurd rfl hne
  · apply forall_update (fun runner' c _ hc => h.marks runner' c expired hc)
    rintro _ ⟨⟩ ⟨⟩

/-- The claim that ends here has started its runner, and every other one waits as before. -/
theorem Lease.nextClaim (h : Lease s) {runner : String} {fault : Bool}
    (hfresh : s.fresh (.nextClaim runner fault) = true) :
    Lease (s.step (.nextClaim runner fault)) := by
  have hinv := h.toInv.step (.nextClaim runner fault)
  simp only [LeaseSystem.step] at hinv ⊢
  split at hinv
  · exact h
  rename_i c hc
  have hfreshCall : fault = false → c.fresh s.toTaskTables s.clock runner = true := by
    rintro rfl
    simpa [fresh, hc] using hfresh
  have hended := fun row hrow hended =>
    (c.evolves runner s.clock fault s.toTaskTables).mem_of_not_isActive (t := row) hrow hended
  have hkeeps : KeepsLocks s.clock
      (if (c.next runner s.clock fault s.toTaskTables).2 = none then some runner else none)
      s.toTaskTables (c.next runner s.clock fault s.toTaskTables).1 :=
    keeps h.tables h.leased (h.claims runner c hc) (h.waits runner c hc) hfreshCall (if_pos ·)
  refine ⟨hinv, hkeeps.leased h.leased, forall_update ?_ ?_, fun runner' c' expired => ?_,
    fun p call hcall => (h.sound p call hcall).keeps hkeeps hinv.tables hended⟩
  · intro runner' c' hne hc'
    refine hkeeps.waits ?_ (h.waits runner' c' hc')
    split_ifs
    · simpa using Ne.symm hne
    · simp
  · intro c' hc'
    obtain ⟨phase, hphase, rfl⟩ := map_eq_some_iff.mp hc'
    exact hkeeps.waits (by simp [hphase]) (waits_next h.tables (h.waits runner c hc) hphase)
  revert runner' c'
  refine forall_update (fun runner' c' _ hc' hat =>
    (h.marks runner' c' expired hc' hat).mono hended) ?_
  intro c' hc' hat
  obtain ⟨phase, hphase, rfl⟩ := map_eq_some_iff.mp hc'
  cases hat
  exact (ended_of_mark h.tables (h.claims runner c hc) hfreshCall hphase).mono hended

theorem Lease.start (h : Lease s) (p : P) (request : TaskRequest) :
    Lease (s.step (.start p request)) := by
  have hinv := h.toInv.step (.start p request)
  simp only [LeaseSystem.step] at hinv ⊢
  split at hinv
  · exact h
  refine ⟨hinv, h.leased, h.waits, h.marks, forall_update (fun p' c _ => h.sound p' c) ?_⟩
  rintro _ ⟨⟩
  cases request with
  | expire => exact Int.le_refl _
  | update | renew | finish => trivial

theorem Lease.next (h : Lease s) {p : P} {fault : Bool} (hfresh : s.fresh (.next p fault) = true) :
    Lease (s.step (.next p fault)) := by
  have hinv := h.toInv.step (.next p fault)
  simp only [LeaseSystem.step] at hinv ⊢
  split at hinv
  · exact h
  rename_i c hc
  have hended := fun row hrow hended =>
    (c.evolves s.clock fault s.toTaskTables).mem_of_not_isActive (t := row) hrow hended
  have hkeeps : KeepsLocks s.clock none s.toTaskTables (c.next s.clock fault s.toTaskTables).1 := by
    apply TaskCall.keeps h.tables (h.sound p c hc)
    rintro rfl
    simpa [fresh, hc] using hfresh
  refine ⟨hinv, hkeeps.leased h.leased,
    fun runner c' hc' => hkeeps.waits (by simp) (h.waits runner c' hc'),
    fun runner c' expired hc' hat => (h.marks runner c' expired hc' hat).mono hended,
    forall_update ?_ ?_⟩
  · intro p' c' _ hc'
    exact (h.sound p' c' hc').keeps hkeeps hinv.tables hended
  · intro c' hc'
    exact TaskCall.sound_next (h.sound p c hc) hc'

/-- **One event** with fresh leases. -/
theorem Lease.step (h : Lease s) {e : LeaseEvent P} (hfresh : s.fresh e = true) :
    Lease (s.step e) := by
  cases e with
  | tick seconds =>
    exact ⟨h.toInv.step (.tick seconds), h.leased, h.waits, h.marks,
      fun p c hc => (h.sound p c hc).tick seconds⟩
  | create taskID taskType payload state => exact h.create taskID taskType payload state
  | claim runner taskID taskType lockUntil => exact h.claim runner taskID taskType lockUntil
  | nextClaim => exact h.nextClaim hfresh
  | start p request => exact h.start p request
  | next => exact h.next hfresh

omit [DecidableEq P] in
theorem Lease.not_killsLive (h : Lease s) {e : LeaseEvent P} (hfresh : s.fresh e = true) :
    s.killsLive e = false := by
  rw [Bool.eq_false_iff]
  intro hkills
  simp only [killsLive, Option.any_eq_true, List.any_eq_true, decide_eq_true_eq] at hkills
  obtain ⟨taskID, hmarked, row, hrow, hrowID, hrunning, lock', hlock', hid, -, hlive⟩ := hkills
  unfold marked at hmarked
  split at hmarked
  · split at hmarked
    · rename_i hc
      cases hmarked
      exact h.tables.not_running (hrowID ▸ h.marks _ _ _ hc rfl) hrow hrunning
    · cases hmarked
  · split at hmarked
    · rename_i now lock locks hc
      cases hmarked
      -- The lock was over when it was read, and it is still the one lock of the task.
      obtain ⟨hnow, hstale⟩ := h.sound _ _ hc
      have hlock : lock ∈ s.locks := by
        simp only [fresh, hc, all_some, TaskCall.fresh, Bool.or_eq_true, Bool.not_eq_true',
          decide_eq_true_eq] at hfresh
        refine hfresh.resolve_left fun hnone => ?_
        simpa [hrunning, hrowID] using any_eq_false.mp hnone row hrow
      rw [h.tables.lock_eq hlock' hlock hid] at hlive
      have := hstale lock mem_cons_self
      omega
    · cases hmarked
  · cases hmarked

/-- **Runs with fresh leases**: every running task has its lock, and no task is failed while that
lock is live. -/
theorem leased_of_fresh (es : List (LeaseEvent P))
    (h : Guarded step (fun s e => s.fresh e = true) ({} : LeaseSystem P) es) :
    (∀ row ∈ (es.foldl step ({} : LeaseSystem P)).tasks, row.status = .running →
      ∃ lock ∈ (es.foldl step ({} : LeaseSystem P)).locks, Names lock row) ∧
    Guarded step (fun s e => s.killsLive e = false) ({} : LeaseSystem P) es := by
  have hempty : Lease ({} : LeaseSystem P) :=
    ⟨inv_foldl [], by simp [TaskTables.Leased], by simp, by simp, by simp⟩
  have hstep : ∀ (s : LeaseSystem P) e, Lease s → s.fresh e = true → Lease (s.step e) :=
    fun s e hs => hs.step
  exact ⟨(Guarded.invariant hstep hempty h).leased,
    Guarded.mono_of_invariant hstep (fun s e hs => hs.not_killsLive) hempty h⟩

def freshRun : List (LeaseEvent Unit) :=
  [.create "t" "log_cleanup" "" "", .claim "a" "t" "log_cleanup" 60, .nextClaim "a" false,
    .nextClaim "a" false, .nextClaim "a" false, .tick 40, .start () (.renew "t" "a" 100),
    .next () false, .tick 61, .start () .expire, .next () false, .next () false]

theorem leased_freshRun :
    Guarded step (fun s e => s.fresh e = true) ({} : LeaseSystem Unit) freshRun ∧
      Guarded step (fun s e => s.killsLive e = false) ({} : LeaseSystem Unit) freshRun := by
  have h : Guarded step (fun s e => s.fresh e = true) ({} : LeaseSystem Unit) freshRun := by
    decide +kernel
  exact ⟨h, (leased_of_fresh freshRun h).2⟩

/-- A runner gets the lock and stalls until an expiry pass has deleted it; then it sets its task
running for good. In the other run the stalled renewal prolongs a lock that an expiry pass has read,
and the pass fails the task under its live lock. -/
theorem stuck_and_killed : let locked : List (LeaseEvent Bool) :=
      [.create "t" "log_cleanup" "" "", .claim "a" "t" "log_cleanup" 60, .nextClaim "a" false,
       .nextClaim "a" false]
    let expire : List (LeaseEvent Bool) := [.tick 100, .start true .expire, .next true false]
    let finish : List (LeaseEvent Bool) := [.next true false, .next true false,
      .nextClaim "a" false]
    let renew : List (LeaseEvent Bool) := [.nextClaim "a" false, .start false (.renew "t" "a" 160)]
    let stuck := (locked ++ expire ++ finish).foldl step {}
    let renewed := (locked ++ renew ++ expire ++ [LeaseEvent.next false false]).foldl step {}
    ((stuck.tasks.map fun row => (row.status, row.lockedBy)) = [(.running, "a")] ∧
      stuck.locks = [] ∧ stuck.claims "a" = none ∧ stuck.calls true = none) ∧
        renewed.killsLive (.next true false) = true := by
  decide +kernel

end LeaseSystem

end TokensFlux
