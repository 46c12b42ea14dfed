import Mathlib.Data.Int.Notation
import TokensFlux.Lib.Rows

/-!
# System tasks and their locks

The functions are sequences of single statements without a transaction, so a runner may stall
between any two.  There is at most one claim in progress for every runner id.
-/

namespace TokensFlux

/-! ### Tables -/

inductive SystemTaskStatus
  | pending
  | running
  | succeeded
  | failed
deriving DecidableEq, Repr

def SystemTaskStatus.isActive : SystemTaskStatus → Bool
  | .pending | .running => true
  | .succeeded | .failed => false

structure SystemTask where
  taskID : String
  type : String
  status : SystemTaskStatus
  activeKey : Option String
  payload : String := ""
  state : String := ""
  result : String := ""
  error : String := ""
  lockedBy : String := ""
  updatedAt : ℤ
deriving DecidableEq, Repr

structure SystemTaskLock where
  type : String
  taskID : String
  lockedBy : String
  lockedUntil : ℤ
  updatedAt : ℤ
deriving DecidableEq, Repr

structure TaskTables where
  tasks : List SystemTask := []
  locks : List SystemTaskLock := []
deriving DecidableEq, Repr

namespace TaskTables

variable (t : TaskTables)

/-- It fails if the task id or the active key is taken. -/
def createSystemTask (taskID taskType payload state : String) (now : ℤ) : TaskTables :=
  if t.tasks.any fun row => row.taskID = taskID ∨ row.activeKey = some taskType then t
  else
    let row : SystemTask :=
      { taskID, type := taskType, status := .pending, activeKey := some taskType, payload, state,
        updatedAt := now }
    { t with tasks := t.tasks ++ [row] }

def markSystemTaskLeaseExpired (taskID : String) (now : ℤ) : TaskTables :=
  let expire (row : SystemTask) : SystemTask :=
    { row with status := .failed, activeKey := none, error := "task lease expired",
               updatedAt := now }
  { t with tasks := updateWhere (fun row => row.taskID = taskID ∧
             row.status = .running) expire t.tasks }

def releaseSystemTaskLock (taskID lockedBy : String) : TaskTables :=
  { t with locks := t.locks.filter fun lock => ¬(lock.taskID = taskID ∧ lock.lockedBy = lockedBy) }

/-- The task is running for the runner, who has its lock. -/
def isLeased (taskID lockedBy : String) (now : ℤ) (row : SystemTask) : Bool :=
  row.taskID = taskID ∧ row.status = .running ∧ row.lockedBy = lockedBy ∧
    t.locks.any fun lock => lock.taskID = row.taskID ∧ lock.lockedBy = lockedBy ∧
      now ≤ lock.lockedUntil

end TaskTables

/-! ### Claims -/

inductive ClaimPhase
  | select
  | insert
  | existing
  | takeover (expired : String)
  | mark (expired : String)
  | status
  | release
deriving DecidableEq, Repr

structure ClaimCall where
  taskID : String
  taskType : String
  lockUntil : ℤ
  now : ℤ
  phase : ClaimPhase := .select
deriving DecidableEq, Repr

namespace ClaimCall

/-- `none` if the claim has returned. An insertion that fails for any reason goes on like one that
finds a lock. -/
def next (c : ClaimCall) (runner : String) (clock : ℤ) (fault : Bool) (t : TaskTables) :
    TaskTables × Option ClaimPhase :=
  let isPending (row : SystemTask) : Bool := row.taskID = c.taskID ∧ row.type = c.taskType ∧
    row.status = .pending
  match c.phase with
  | .select => (t, if ¬fault ∧ t.tasks.any isPending then some .insert else none)
  | .insert =>
    if fault ∨ t.locks.any fun lock => lock.type = c.taskType then (t, some .existing)
    else ({ t with locks := t.locks ++ [⟨c.taskType, c.taskID, runner, c.lockUntil, c.now⟩] },
      some .status)
  | .existing =>
    if fault then (t, none)
    else
      match t.locks.find? fun lock => lock.type = c.taskType with
      | none => (t, none)
      | some lock =>
        if lock.lockedUntil ≥ c.now then (t, none) else (t, some (.takeover lock.taskID))
  | .takeover expired =>
    let isStale (lock : SystemTaskLock) : Bool := lock.type = c.taskType ∧ lock.lockedUntil < c.now
    let take (lock : SystemTaskLock) : SystemTaskLock :=
      ⟨lock.type, c.taskID, runner, c.lockUntil, c.now⟩
    if fault ∨ ¬t.locks.any isStale then (t, none)
    else
      ({ t with locks := updateWhere isStale take t.locks },
        some (if expired ≠ "" ∧ expired ≠ c.taskID then .mark expired else .status))
  | .mark expired =>
    if fault then (t, some .release) else (t.markSystemTaskLeaseExpired expired clock, some .status)
  | .status =>
    let run (row : SystemTask) : SystemTask :=
      { row with status := .running, lockedBy := runner, updatedAt := c.now }
    if fault ∨ ¬t.tasks.any isPending then (t, some .release)
    else ({ t with tasks := updateWhere isPending run t.tasks }, none)
  | .release => (if fault then t else t.releaseSystemTaskLock c.taskID runner, none)

end ClaimCall

/-! ### The other calls -/

/-- `expireMark` and `expireDelete` are in the loop over the locks that were read. -/
inductive TaskCall
  | update (taskID lockedBy state : String) (now : ℤ)
  | renew (taskID lockedBy : String) (lockUntil now : ℤ)
  | expireRead (now : ℤ)
  | expireMark (now : ℤ) (lock : SystemTaskLock) (locks : List SystemTaskLock)
  | expireDelete (now : ℤ) (lock : SystemTaskLock) (locks : List SystemTaskLock)
  | finish (taskID lockedBy : String) (succeeded : Bool) (result error : String) (now : ℤ)
  | finishRelease (taskID lockedBy : String)
deriving DecidableEq, Repr

namespace TaskCall

def expireLoop (now : ℤ) : List SystemTaskLock → Option TaskCall
  | [] => none
  | lock :: locks => some (.expireMark now lock locks)

/-- `none` if the call has returned. -/
def next (clock : ℤ) (fault : Bool) (t : TaskTables) : TaskCall → TaskTables × Option TaskCall
  | .update taskID lockedBy state now =>
    let update (row : SystemTask) : SystemTask := { row with state, updatedAt := now }
    (if fault then t else { t with tasks := updateWhere (t.isLeased taskID lockedBy now)
                                     update t.tasks }, none)
  | .renew taskID lockedBy lockUntil now =>
    let isLive (lock : SystemTaskLock) : Bool :=
      lock.taskID = taskID ∧ lock.lockedBy = lockedBy ∧ lock.lockedUntil ≥ now
    let renew (lock : SystemTaskLock) : SystemTaskLock :=
      { lock with lockedUntil := lockUntil, updatedAt := now }
    (if fault then t else { t with locks := updateWhere isLive renew t.locks }, none)
  | .expireRead now =>
    (t, if fault then none else expireLoop now (t.locks.filter fun lock => lock.lockedUntil < now))
  | .expireMark now lock locks =>
    if fault then (t, none) else (t.markSystemTaskLeaseExpired lock.taskID clock,
      some (.expireDelete now lock locks))
  | .expireDelete now lock locks =>
    let isStale (row : SystemTaskLock) : Bool :=
      row.type = lock.type ∧ row.taskID = lock.taskID ∧ row.lockedBy = lock.lockedBy ∧
        row.lockedUntil < now
    if fault then (t, none) else ({ t with locks := t.locks.filter fun row => !isStale row },
      expireLoop now locks)
  | .finish taskID lockedBy succeeded result error now =>
    let finish (row : SystemTask) : SystemTask :=
      { row with
        status := if succeeded then .succeeded else .failed,
        activeKey := none, result, error, updatedAt := now }
    if fault ∨ ¬t.tasks.any (t.isLeased taskID lockedBy now) then (t, none)
    else
      ({ t with tasks := updateWhere (t.isLeased taskID lockedBy now) finish t.tasks },
        some (.finishRelease taskID lockedBy))
  | .finishRelease taskID lockedBy =>
    (if fault then t else t.releaseSystemTaskLock taskID lockedBy, none)

end TaskCall

/-! ### The system -/

inductive TaskRequest
  | update (taskID lockedBy state : String)
  | renew (taskID lockedBy : String) (lockUntil : ℤ)
  | expire
  | finish (taskID lockedBy : String) (succeeded : Bool) (result error : String)

def TaskRequest.call (now : ℤ) : TaskRequest → TaskCall
  | .update taskID lockedBy state => .update taskID lockedBy state now
  | .renew taskID lockedBy lockUntil => .renew taskID lockedBy lockUntil now
  | .expire => .expireRead now
  | .finish taskID lockedBy succeeded result error =>
    .finish taskID lockedBy succeeded result error now

inductive LeaseEvent (P : Type)
  | tick (seconds : ℕ)
  | create (taskID taskType payload state : String)
  | claim (runner taskID taskType : String) (lockUntil : ℤ)
  | nextClaim (runner : String) (fault : Bool)
  | start (p : P) (request : TaskRequest)
  | next (p : P) (fault : Bool)

/-- `started` lists every task and runner for which a task has become running. -/
structure LeaseSystem (P : Type) extends TaskTables where
  claims : String → Option ClaimCall := fun _ => none
  calls : P → Option TaskCall := fun _ => none
  clock : ℤ := 0
  started : List (String × String) := []

namespace LeaseSystem

variable {P : Type} [DecidableEq P]

def newlyRunning (t t' : TaskTables) : List (String × String) :=
  (t'.tasks.filter fun row => row.status = .running ∧
    ¬t.tasks.any fun old => old.taskID = row.taskID ∧ old.status = .running).map fun row =>
      (row.taskID, row.lockedBy)

def write (s : LeaseSystem P) (t : TaskTables) : LeaseSystem P :=
  { s with toTaskTables := t, started := s.started ++ newlyRunning s.toTaskTables t }

def step (s : LeaseSystem P) : LeaseEvent P → LeaseSystem P
  | .tick seconds => { s with clock := s.clock + seconds }
  | .create taskID taskType payload state =>
    s.write (s.createSystemTask taskID taskType payload state s.clock)
  | .claim runner taskID taskType lockUntil =>
    match s.claims runner with
    | some _ => s
    | none =>
      { s with claims := Function.update s.claims runner (some { taskID, taskType, lockUntil,
                                                                 now := s.clock }) }
  | .nextClaim runner fault =>
    match s.claims runner with
    | none => s
    | some c =>
      let (t, phase) := c.next runner s.clock fault s.toTaskTables
      { s.write t with claims := Function.update s.claims runner
                         (phase.map fun phase => { c with phase }) }
  | .start p request =>
    match s.calls p with
    | some _ => s
    | none => { s with calls := Function.update s.calls p (some (request.call s.clock)) }
  | .next p fault =>
    match s.calls p with
    | none => s
    | some c =>
      let (t, call) := c.next s.clock fault s.toTaskTables
      { s.write t with calls := Function.update s.calls p call }

end LeaseSystem

end TokensFlux
