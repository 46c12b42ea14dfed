import TokensFlux.Lib.Guarded
import TokensFlux.SystemTask.Basic

/-!
# The lease of a system task

`TaskStep` is all that a statement may do to a task.  A lock row always has the type of the task
that it names, so a condition on `task_id` and `locked_by` is one on the lock of the type.
-/

namespace TokensFlux

open List Function TaskTables LeaseSystem

/-! ### Tasks -/

def TaskStep (t t' : SystemTask) : Prop :=
  t'.taskID = t.taskID ∧ t'.type = t.type ∧
    (t' = t ∨ t.status.isActive = true ∧ t'.status = .running ∧ t'.activeKey = t.activeKey ∨
      t.status = .running ∧ t'.status.isActive = false ∧ t'.activeKey = none)

def Evolves (tasks tasks' : List SystemTask) : Prop :=
  ∃ f, tasks' = tasks.map f ∧ ∀ t ∈ tasks, TaskStep t (f t)

def HasTask (tasks : List SystemTask) (taskID type : String) : Prop :=
  ∃ t ∈ tasks, t.taskID = taskID ∧ t.type = type

section

variable {tasks tasks' : List SystemTask} {t t' : SystemTask} {taskID type : String}

theorem Evolves.refl (tasks : List SystemTask) : Evolves tasks tasks :=
  ⟨id, (map_id tasks).symm, fun _ _ => ⟨rfl, rfl, .inl rfl⟩⟩

theorem evolves_updateWhere {p : SystemTask → Bool} {f : SystemTask → SystemTask}
    (h : ∀ t ∈ tasks, p t = true → TaskStep t (f t)) : Evolves tasks (updateWhere p f tasks) := by
  refine ⟨fun t => if p t then f t else t, rfl, fun t ht => ?_⟩
  dsimp only
  split_ifs with hp
  · exact h t ht hp
  · exact ⟨rfl, rfl, .inl rfl⟩

theorem Evolves.hasTask (h : Evolves tasks tasks') (ht : HasTask tasks taskID type) :
    HasTask tasks' taskID type := by
  obtain ⟨f, rfl, hf⟩ := h
  obtain ⟨t, ht, rfl, rfl⟩ := ht
  exact ⟨f t, mem_map_of_mem ht, (hf t ht).1, (hf t ht).2.1⟩

theorem Evolves.mem_of_not_isActive (h : Evolves tasks tasks') (ht : t ∈ tasks)
    (hended : t.status.isActive = false) :
    t ∈ tasks' := by
  obtain ⟨f, rfl, hf⟩ := h
  have heq : f t = t := by
    obtain ⟨-, -, heq | ⟨hactive, -⟩ | ⟨hrunning, -⟩⟩ := hf t ht
    · exact heq
    · simp [hended] at hactive
    · simp [hrunning, SystemTaskStatus.isActive] at hended
  exact heq ▸ mem_map_of_mem ht

theorem TaskStep.not_pending (h : TaskStep t t') (ht : t.status ≠ .pending) :
    t'.status ≠ .pending := by
  obtain ⟨-, -, rfl | ⟨-, hrunning, -⟩ | ⟨-, hended, -⟩⟩ := h
  · exact ht
  · simp [hrunning]
  · intro hpending
    simp [hpending, SystemTaskStatus.isActive] at hended

theorem TaskStep.isActive (h : TaskStep t t') (ht : t'.status.isActive = true) :
    t.status.isActive = true := by
  obtain ⟨-, -, rfl | ⟨hactive, -⟩ | ⟨-, hended, -⟩⟩ := h
  · exact ht
  · exact hactive
  · exact absurd ht (by simp [hended])

theorem TaskStep.pending_of_running (h : TaskStep t t') (ht' : t'.status = .running)
    (ht : t.status ≠ .running) :
    t.status = .pending := by
  have hactive := h.isActive (by simp [ht', SystemTaskStatus.isActive])
  cases hstatus : t.status <;> simp_all [SystemTaskStatus.isActive]

end

theorem evolves_markSystemTaskLeaseExpired (t : TaskTables) (taskID : String) (now : ℤ) :
    Evolves t.tasks (t.markSystemTaskLeaseExpired taskID now).tasks := by
  apply evolves_updateWhere
  intro row _ hrow
  simp only [decide_eq_true_eq] at hrow
  exact ⟨rfl, rfl, .inr (.inr ⟨hrow.2, rfl, rfl⟩)⟩

theorem ClaimCall.evolves (c : ClaimCall) (runner : String) (clock : ℤ) (fault : Bool)
    (t : TaskTables) :
    Evolves t.tasks (c.next runner clock fault t).1.tasks := by
  unfold ClaimCall.next
  cases c.phase with
  | select => exact .refl _
  | existing =>
    dsimp only
    split_ifs
    · exact .refl _
    · split
      · exact .refl _
      · split_ifs <;> exact .refl _
  | insert | takeover | release => dsimp only; split_ifs <;> exact .refl _
  | mark expired =>
    dsimp only
    split_ifs
    · exact .refl _
    · exact evolves_markSystemTaskLeaseExpired t expired clock
  | status =>
    dsimp only
    split_ifs
    · exact .refl _
    apply evolves_updateWhere
    intro row _ hrow
    simp only [decide_eq_true_eq] at hrow
    exact ⟨rfl, rfl, .inr (.inl ⟨by simp [hrow.2.2, SystemTaskStatus.isActive], rfl, rfl⟩)⟩

theorem TaskCall.evolves (c : TaskCall) (clock : ℤ) (fault : Bool) (t : TaskTables) :
    Evolves t.tasks (c.next clock fault t).1.tasks := by
  unfold TaskCall.next
  cases c with
  | update =>
    split_ifs
    · exact .refl _
    apply evolves_updateWhere
    intro row _ hrow
    simp only [isLeased, decide_eq_true_eq] at hrow
    exact ⟨rfl, rfl, .inr (.inl ⟨by simp [hrow.2.1, SystemTaskStatus.isActive], hrow.2.1, rfl⟩)⟩
  | renew | finishRelease | expireDelete => dsimp only; split_ifs <;> exact .refl _
  | expireRead => exact .refl _
  | expireMark _ lock =>
    split_ifs
    · exact .refl _
    · exact evolves_markSystemTaskLeaseExpired t lock.taskID clock
  | finish =>
    dsimp only
    split_ifs
    · exact .refl _
    all_goals
      apply evolves_updateWhere
      intro row _ hrow
      simp only [isLeased, decide_eq_true_eq] at hrow
      exact ⟨rfl, rfl, .inr (.inr ⟨hrow.2.1, rfl, rfl⟩)⟩

/-! ### Locks -/

variable {started : List (String × String)} {t : TaskTables}

theorem ClaimCall.locks (c : ClaimCall) (runner : String) (clock : ℤ) (fault : Bool)
    (htypes : DistinctKeys SystemTaskLock.type t.locks) :
    DistinctKeys SystemTaskLock.type (c.next runner clock fault t).1.locks ∧
      ∀ lock ∈ (c.next runner clock fault t).1.locks, lock ∈ t.locks ∨
        c.phase ≠ .select ∧ lock.type = c.taskType ∧ lock.taskID = c.taskID := by
  unfold ClaimCall.next
  cases c.phase with
  | select => exact ⟨htypes, fun _ => .inl⟩
  | existing =>
    dsimp only
    split_ifs
    · exact ⟨htypes, fun _ => .inl⟩
    · split
      · exact ⟨htypes, fun _ => .inl⟩
      · split_ifs <;> exact ⟨htypes, fun _ => .inl⟩
  | insert =>
    dsimp only
    split_ifs with hthere
    · exact ⟨htypes, fun _ => .inl⟩
    have hnone : c.taskType ∉ t.locks.map SystemTaskLock.type := by
      intro hmem
      obtain ⟨lock, hlock, htype⟩ := mem_map.mp hmem
      exact hthere (.inr (any_eq_true.mpr ⟨lock, hlock, by simpa using htype⟩))
    have hinsert := htypes.insertNew ⟨c.taskType, c.taskID, runner, c.lockUntil, c.now⟩
    rw [insertNew, if_neg hnone] at hinsert
    refine ⟨hinsert, fun lock hlock => ?_⟩
    rcases mem_append.mp hlock with hlock | hlock
    · exact .inl hlock
    · rw [mem_singleton.mp hlock]
      exact .inr ⟨by simp, rfl, rfl⟩
  | takeover =>
    dsimp only
    split_ifs
    · exact ⟨htypes, fun _ => .inl⟩
    all_goals
      refine ⟨htypes.updateWhere fun _ _ _ => rfl, fun lock hlock => ?_⟩
      obtain ⟨_, hlock₀, rfl⟩ := mem_updateWhere.mp hlock
      split_ifs with hstale
      · simp only [decide_eq_true_eq] at hstale
        exact .inr ⟨by simp, hstale.1, rfl⟩
      · exact .inl hlock₀
  | mark | status => dsimp only; split_ifs <;> exact ⟨htypes, fun _ => .inl⟩
  | release =>
    dsimp only
    split_ifs
    · exact ⟨htypes, fun _ => .inl⟩
    · exact ⟨htypes.filter _, fun lock hlock => .inl (mem_filter.mp hlock).1⟩

theorem TaskCall.locks (c : TaskCall) (clock : ℤ) (fault : Bool)
    (htypes : DistinctKeys SystemTaskLock.type t.locks) :
    DistinctKeys SystemTaskLock.type (c.next clock fault t).1.locks ∧
      ∀ lock ∈ (c.next clock fault t).1.locks, ∃ lock₀ ∈ t.locks,
        lock.type = lock₀.type ∧ lock.taskID = lock₀.taskID ∧ lock.lockedBy = lock₀.lockedBy := by
  have hkept {locks : List SystemTaskLock} (h : locks <+ t.locks) :
      DistinctKeys SystemTaskLock.type locks ∧ ∀ lock ∈ locks, ∃ lock₀ ∈ t.locks,
        lock.type = lock₀.type ∧ lock.taskID = lock₀.taskID ∧ lock.lockedBy = lock₀.lockedBy :=
    ⟨htypes.sublist (h.map _), fun lock hlock => ⟨lock, h.subset hlock, rfl, rfl, rfl⟩⟩
  unfold TaskCall.next
  cases c with
  | update | finish | expireMark => dsimp only; split_ifs <;> exact hkept (.refl _)
  | expireRead => exact hkept (.refl _)
  | renew =>
    split_ifs
    · exact hkept (.refl _)
    refine ⟨htypes.updateWhere fun _ _ _ => rfl, fun lock hlock => ?_⟩
    obtain ⟨lock₀, hlock₀, rfl⟩ := mem_updateWhere.mp hlock
    refine ⟨lock₀, hlock₀, ?_⟩
    split_ifs <;> exact ⟨rfl, rfl, rfl⟩
  | expireDelete | finishRelease =>
    split_ifs
    · exact hkept (.refl _)
    · exact hkept filter_sublist

/-! ### The system -/

/-- One active task and one lock for each type. -/
structure TaskTables.Inv (t : TaskTables) (started : List (String × String)) : Prop where
  taskIDs : DistinctKeys SystemTask.taskID t.tasks
  activeKeys : ∀ row ∈ t.tasks, row.activeKey = if row.status.isActive then some row.type else none
  oneActive : ∀ row ∈ t.tasks, ∀ row' ∈ t.tasks, row.status.isActive = true →
    row'.status.isActive = true → row.type = row'.type → row = row'
  lockTypes : DistinctKeys SystemTaskLock.type t.locks
  lockTasks : ∀ lock ∈ t.locks, HasTask t.tasks lock.taskID lock.type
  startedOnce : (started.map Prod.fst).Nodup
  startedTasks : ∀ x ∈ started, ∃ row ∈ t.tasks, row.taskID = x.1 ∧ row.status ≠ .pending

def ClaimCall.Sound (tasks : List SystemTask) (c : ClaimCall) : Prop :=
  (c.phase ≠ .select → HasTask tasks c.taskID c.taskType) ∧
    ∀ expired, c.phase = .takeover expired → HasTask tasks expired c.taskType

theorem ClaimCall.Sound.mono {tasks tasks' : List SystemTask} {c : ClaimCall} (h : c.Sound tasks)
    (hkeep : ∀ taskID type, HasTask tasks taskID type → HasTask tasks' taskID type) :
    c.Sound tasks' :=
  ⟨fun hne => hkeep _ _ (h.1 hne), fun expired hat => hkeep _ _ (h.2 expired hat)⟩

theorem TaskTables.Inv.write {t' : TaskTables} (h : t.Inv started)
    (htasks : Evolves t.tasks t'.tasks) (hlockTypes : DistinctKeys SystemTaskLock.type t'.locks)
    (hlocks : ∀ lock ∈ t'.locks, HasTask t.tasks lock.taskID lock.type) :
    t'.Inv (started ++ newlyRunning t t') := by
  have hlocks' : ∀ lock ∈ t'.locks, HasTask t'.tasks lock.taskID lock.type :=
    fun lock hlock => htasks.hasTask (hlocks lock hlock)
  obtain ⟨f, hf, hstep⟩ := htasks
  have hids : t'.tasks.map SystemTask.taskID = t.tasks.map SystemTask.taskID := by
    rw [hf, map_map]
    exact map_congr_left fun row hrow => (hstep row hrow).1
  -- A task that has become running was pending before, so it was not started before.
  have hnew : ∀ x ∈ newlyRunning t t', ∃ row ∈ t.tasks, row.taskID = x.1 ∧ row.status = .pending ∧
      (f row).status = .running := by
    intro x hx
    obtain ⟨row', hrow', rfl⟩ := mem_map.mp hx
    obtain ⟨hmem, hrunning⟩ := mem_filter.mp hrow'
    obtain ⟨row, hrow, rfl⟩ := mem_map.mp (hf ▸ hmem)
    simp only [decide_eq_true_eq, any_eq_true, not_exists, not_and] at hrunning
    have hnot : row.status ≠ .running := hrunning.2 row hrow (hstep row hrow).1.symm
    exact ⟨row, hrow, (hstep row hrow).1.symm,
      (hstep row hrow).pending_of_running hrunning.1 hnot, hrunning.1⟩
  refine ⟨?_, ?_, ?_, hlockTypes, hlocks', ?_, ?_⟩
  · unfold DistinctKeys
    rw [hids]
    exact h.taskIDs
  · intro row' hrow'
    obtain ⟨row, hrow, rfl⟩ := mem_map.mp (hf ▸ hrow')
    have hkey := h.activeKeys row hrow
    obtain ⟨-, htype, heq | ⟨hactive, hrunning, hsame⟩ | ⟨-, hended, hnone⟩⟩ := hstep row hrow
    · rw [heq]
      exact hkey
    · rw [hsame, hkey, htype, hrunning, hactive]
      rfl
    · rw [hnone, hended]
      rfl
  · intro row₁ hrow₁ row₂ hrow₂ hactive₁ hactive₂ htype
    obtain ⟨a, ha, rfl⟩ := mem_map.mp (hf ▸ hrow₁)
    obtain ⟨b, hb, rfl⟩ := mem_map.mp (hf ▸ hrow₂)
    rw [(hstep a ha).2.1, (hstep b hb).2.1] at htype
    rw [h.oneActive a ha b hb ((hstep a ha).isActive hactive₁)
      ((hstep b hb).isActive hactive₂) htype]
  · rw [map_append, nodup_append]
    refine ⟨h.startedOnce, ?_, ?_⟩
    · have hsub : ((newlyRunning t t').map Prod.fst).Sublist (t'.tasks.map SystemTask.taskID) := by
        unfold newlyRunning
        rw [map_map]
        exact filter_sublist.map _
      rw [hids] at hsub
      exact h.taskIDs.sublist hsub
    rintro id hid _ hid' rfl
    obtain ⟨x, hx, rfl⟩ := mem_map.mp hid
    obtain ⟨y, hy, hxy⟩ := mem_map.mp hid'
    obtain ⟨row, hrow, hrowID, hnot⟩ := h.startedTasks x hx
    obtain ⟨row', hrow', hrowID', hpending, -⟩ := hnew y hy
    rw [h.taskIDs.eq_of_key_eq hrow hrow' (by rw [hrowID, hrowID', hxy])] at hnot
    exact hnot hpending
  intro x hx
  rcases mem_append.mp hx with hx | hx
  · obtain ⟨row, hrow, hid, hnot⟩ := h.startedTasks x hx
    exact ⟨f row, hf ▸ mem_map_of_mem hrow, (hstep row hrow).1.trans hid,
      (hstep row hrow).not_pending hnot⟩
  · obtain ⟨row, hrow, hid, -, hrunning⟩ := hnew x hx
    exact ⟨f row, hf ▸ mem_map_of_mem hrow, (hstep row hrow).1.trans hid, by simp [hrunning]⟩

theorem TaskTables.Inv.createSystemTask (h : t.Inv started)
    (taskID taskType payload state : String) (now : ℤ) :
    let t' := t.createSystemTask taskID taskType payload state now
    t'.Inv (started ++ newlyRunning t t') ∧ ∀ row ∈ t.tasks, row ∈ t'.tasks := by
  unfold TaskTables.createSystemTask
  split_ifs with htaken
  · exact ⟨h.write (.refl _) h.lockTypes h.lockTasks, fun _ => id⟩
  dsimp only
  set new : SystemTask :=
    { taskID, type := taskType, status := .pending, activeKey := some taskType, payload, state,
                            updatedAt := now }
  have hfree : ∀ row ∈ t.tasks, row.taskID ≠ taskID ∧ row.activeKey ≠ some taskType := by
    simpa using htaken
  have hnone : newlyRunning t ⟨t.tasks ++ [new], t.locks⟩ = [] := by
    unfold newlyRunning
    rw [map_eq_nil_iff, filter_eq_nil_iff]
    intro row hrow hnew
    simp only [decide_eq_true_eq, any_eq_true, not_exists, not_and] at hnew
    rcases mem_append.mp hrow with hrow | hrow
    · exact hnew.2 row hrow rfl hnew.1
    · rw [mem_singleton.mp hrow] at hnew
      cases hnew.1
  have hmem : ∀ row ∈ t.tasks, row ∈ t.tasks ++ [new] := fun _ => mem_append_left _
  rw [hnone, append_nil]
  refine ⟨⟨?_, ?_, ?_, h.lockTypes, ?_, h.startedOnce, ?_⟩, hmem⟩
  · have hinsert := h.taskIDs.insertNew new
    rwa [insertNew, if_neg] at hinsert
    intro hid
    obtain ⟨row, hrow, hrowID⟩ := mem_map.mp hid
    exact (hfree row hrow).1 hrowID
  · exact forall_mem_append.mpr ⟨h.activeKeys, by simp [new, SystemTaskStatus.isActive]⟩
  · -- An active task of the type would have its key.
    have hother : ∀ row ∈ t.tasks, row.status.isActive = true → row.type ≠ taskType := by
      intro row hrow hactive htype
      have hkey := h.activeKeys row hrow
      rw [hactive, if_pos rfl, htype] at hkey
      exact (hfree row hrow).2 hkey
    intro row hrow row' hrow' hactive hactive' htype
    rcases mem_append.mp hrow with hrow | hrow <;> rcases mem_append.mp hrow' with hrow' | hrow'
    · exact h.oneActive row hrow row' hrow' hactive hactive' htype
    · rw [mem_singleton.mp hrow'] at htype
      exact absurd htype (hother row hrow hactive)
    · rw [mem_singleton.mp hrow] at htype
      exact absurd htype.symm (hother row' hrow' hactive')
    · rw [mem_singleton.mp hrow, mem_singleton.mp hrow']
  · intro lock hlock
    obtain ⟨row, hrow, hid, htype⟩ := h.lockTasks lock hlock
    exact ⟨row, hmem row hrow, hid, htype⟩
  · intro x hx
    obtain ⟨row, hrow, hid, hnot⟩ := h.startedTasks x hx
    exact ⟨row, hmem row hrow, hid, hnot⟩

namespace LeaseSystem

variable {P : Type} [DecidableEq P] {s : LeaseSystem P}

structure Inv (s : LeaseSystem P) : Prop where
  tables : s.toTaskTables.Inv s.started
  claims : ∀ runner c, s.claims runner = some c → c.Sound s.tasks

theorem sound_next {c : ClaimCall} (h : t.Inv started) (hc : c.Sound t.tasks)
    (runner : String) (clock : ℤ)
    (fault : Bool) {phase : ClaimPhase} (hphase : (c.next runner clock fault t).2 = some phase) :
    ClaimCall.Sound t.tasks { c with phase } := by
  have hfound : HasTask t.tasks c.taskID c.taskType := by
    by_cases hselect : c.phase = .select
    · simp only [ClaimCall.next, hselect, Option.ite_none_right_eq_some, any_eq_true,
        decide_eq_true_eq] at hphase
      obtain ⟨⟨-, row, hrow, hid, htype, -⟩, -⟩ := hphase
      exact ⟨row, hrow, hid, htype⟩
    · exact hc.1 hselect
  refine ⟨fun _ => hfound, ?_⟩
  rintro expired rfl
  unfold ClaimCall.next at hphase
  cases hat : c.phase with
  | existing =>
    simp only [hat] at hphase
    split_ifs at hphase
    split at hphase
    · cases hphase
    rename_i lock hlock
    split_ifs at hphase
    cases hphase
    have htype : lock.type = c.taskType := by simpa using find?_some hlock
    exact htype ▸ h.lockTasks lock (mem_of_find?_eq_some hlock)
  | select | insert | mark | status =>
    simp only [hat] at hphase; split_ifs at hphase <;> cases hphase
  | release => simp [hat] at hphase
  | takeover => simp only [hat] at hphase; split_ifs at hphase <;> simp at hphase

/-- **One event** keeps the invariant. -/
theorem Inv.step (h : Inv s) (e : LeaseEvent P) : Inv (s.step e) := by
  cases e with
  | tick => exact ⟨h.tables, h.claims⟩
  | create taskID taskType payload state =>
    obtain ⟨htables, hmem⟩ := h.tables.createSystemTask taskID taskType payload state s.clock
    refine ⟨htables, fun runner c hc => (h.claims runner c hc).mono ?_⟩
    rintro _ _ ⟨row, hrow, hid, htype⟩
    exact ⟨row, hmem row hrow, hid, htype⟩
  | claim runner =>
    simp only [LeaseSystem.step]
    split
    · exact h
    · refine ⟨h.tables, forall_update (fun runner' c _ => h.claims runner' c) ?_⟩
      rintro _ ⟨⟩
      exact ⟨fun hne => absurd rfl hne, fun _ hphase => by cases hphase⟩
  | nextClaim runner fault =>
    simp only [LeaseSystem.step]
    split
    · exact h
    rename_i c hc
    have hevolves := c.evolves runner s.clock fault s.toTaskTables
    obtain ⟨htypes, hlocks⟩ := c.locks runner s.clock fault h.tables.lockTypes
    refine ⟨h.tables.write hevolves htypes fun lock hlock => ?_, forall_update ?_ ?_⟩
    · rcases hlocks lock hlock with hlock | ⟨hne, htype, hid⟩
      · exact h.tables.lockTasks lock hlock
      · rw [htype, hid]
        exact (h.claims runner c hc).1 hne
    · intro runner' c' _ hc'
      exact (h.claims runner' c' hc').mono fun _ _ => hevolves.hasTask
    intro c' hc'
    obtain ⟨phase, hphase, rfl⟩ := Option.map_eq_some_iff.mp hc'
    exact (sound_next h.tables (h.claims runner c hc) runner s.clock fault hphase).mono fun _
      _ => hevolves.hasTask
  | start =>
    simp only [LeaseSystem.step]
    split <;> exact ⟨h.tables, h.claims⟩
  | next p fault =>
    simp only [LeaseSystem.step]
    split
    · exact h
    rename_i c hc
    obtain ⟨htypes, hlocks⟩ := c.locks s.clock fault h.tables.lockTypes
    have hevolves := c.evolves s.clock fault s.toTaskTables
    refine ⟨h.tables.write hevolves htypes fun lock hlock => ?_,
      fun runner c' hc' => (h.claims runner c' hc').mono fun _ _ => hevolves.hasTask⟩
    obtain ⟨lock₀, hlock₀, htype, hid, -⟩ := hlocks lock hlock
    rw [htype, hid]
    exact h.tables.lockTasks lock₀ hlock₀

theorem inv_foldl (es : List (LeaseEvent P)) : Inv (es.foldl step ({} : LeaseSystem P)) := by
  refine Guarded.invariant_of_step (fun s e h => h.step e) es ⟨⟨?_, ?_, ?_, ?_, ?_, ?_, ?_⟩, ?_⟩ <;>
    simp [DistinctKeys]

/-- **In every run** a type has one lock, of a task of that type, and `active_key` is set for the
active tasks. -/
theorem locks_consistent (es : List (LeaseEvent P)) : let s := es.foldl step ({} : LeaseSystem P)
    DistinctKeys SystemTaskLock.type s.locks ∧
      (∀ lock ∈ s.locks, HasTask s.tasks lock.taskID lock.type) ∧
      ∀ row ∈ s.tasks, row.activeKey = if row.status.isActive then some row.type else none :=
  have h := (inv_foldl es).tables
  ⟨h.lockTypes, h.lockTasks, h.activeKeys⟩

def writer : TaskCall → Option (String × String)
  | .update taskID lockedBy _ _ | .finish taskID lockedBy _ _ _ _ => some (taskID, lockedBy)
  | _ => none

/-- What is safe about a state and the next event. -/
structure LeaseSafe (s : LeaseSystem P) (e : LeaseEvent P) : Prop where
  oneActive : ∀ row ∈ s.tasks, ∀ row' ∈ s.tasks, row.status.isActive = true →
    row'.status.isActive = true → row.type = row'.type → row = row'
  terminalStays : ∀ row ∈ s.tasks, row.status.isActive = false →
    row ∈ (s.step e).tasks ∧ ∀ row' ∈ (s.step e).tasks, row'.taskID = row.taskID → row' = row
  startedOnce : (s.started.map Prod.fst).Nodup
  owned : ∀ p fault c taskID runner, e = .next p fault → s.calls p = some c →
    writer c = some (taskID, runner) →
    (s.step e).tasks ≠ s.tasks → ∃ row ∈ s.tasks, row.taskID = taskID ∧
      ∃ lock ∈ s.locks, lock.type = row.type ∧ lock.taskID = taskID ∧ lock.lockedBy = runner

omit [DecidableEq P] in
theorem Inv.owned (h : Inv s) {c : TaskCall} {clock : ℤ} {fault : Bool} {taskID runner : String}
    (hwriter : writer c = some (taskID, runner))
    (hchange : (c.next clock fault s.toTaskTables).1.tasks ≠ s.tasks) :
    ∃ row ∈ s.tasks, row.taskID = taskID ∧
      ∃ lock ∈ s.locks, lock.type = row.type ∧ lock.taskID = taskID ∧ lock.lockedBy = runner := by
  obtain ⟨now, hleased⟩ : ∃ now, ¬∀ row ∈ s.tasks, s.isLeased taskID runner now row = false := by
    have hkeep : ∀ (p : SystemTask → Bool) f, (∀ row ∈ s.tasks, p row = false) →
        updateWhere p f s.tasks = s.tasks := by
      intro p f hp
      refine (map_congr_left fun row hrow => ?_).trans (map_id _)
      simp [hp row hrow]
    cases c with
    | update _ _ _ now =>
      cases hwriter
      refine ⟨now, fun hnone => hchange ?_⟩
      simp only [TaskCall.next]
      split_ifs
      · rfl
      · exact hkeep _ _ hnone
    | finish _ _ _ _ _ now =>
      cases hwriter
      refine ⟨now, fun hnone => hchange ?_⟩
      have hany : s.tasks.any (s.isLeased taskID runner now) = false := by simpa using hnone
      simp [TaskCall.next, hany]
    | _ => cases hwriter
  push Not at hleased
  obtain ⟨row, hrow, hleased⟩ := hleased
  simp only [ne_eq, Bool.not_eq_false, isLeased, decide_eq_true_eq, any_eq_true] at hleased
  obtain ⟨hid, -, -, lock, hlock, hlockID, hby, -⟩ := hleased
  refine ⟨row, hrow, hid, lock, hlock, ?_, hlockID.trans hid, hby⟩
  -- The lock names a task with its own type, and that task is `row`.
  obtain ⟨_, hrow', hid', htype⟩ := h.tables.lockTasks lock hlock
  rw [← htype, h.tables.taskIDs.eq_of_key_eq hrow' hrow (hid'.trans hlockID)]

/-- **The lease is safe** in every run. -/
theorem leaseSafe (es : List (LeaseEvent P)) (e : LeaseEvent P) :
    LeaseSafe (es.foldl step ({} : LeaseSystem P)) e := by
  have h := inv_foldl es
  generalize es.foldl step ({} : LeaseSystem P) = s at h
  have hkeeps : ∀ row ∈ s.tasks, row.status.isActive = false → row ∈ (s.step e).tasks := by
    intro row hrow hended
    cases e with
    | tick => exact hrow
    | create taskID taskType payload state =>
      exact (h.tables.createSystemTask taskID taskType payload state s.clock).2 row hrow
    | claim | start =>
      simp only [step]
      split <;> exact hrow
    | nextClaim | next =>
      simp only [step]
      split
      · exact hrow
      · rename_i c hc
        exact (c.evolves ..).mem_of_not_isActive hrow hended
  refine ⟨h.tables.oneActive, fun row hrow hended => ?_, h.tables.startedOnce, ?_⟩
  · have hmem := hkeeps row hrow hended
    exact ⟨hmem, fun row' hrow' hid => (h.step e).tables.taskIDs.eq_of_key_eq hrow' hmem hid⟩
  · rintro p fault c taskID runner rfl hc hwriter hchange
    apply h.owned hwriter
    simpa [step, hc, write] using hchange

end LeaseSystem

end TokensFlux
