import TokensFlux.Task.Billing

/-!
# Polling of asynchronous tasks

Polls, sweeps and fetches by users each work on a copy of the row, on any number of nodes.
-/

namespace TokensFlux

/-! ### Video tasks -/

/-- Not at all, with the code of an OpenAI error, or as something else. -/
inductive ErrorBody
  | unreadable
  | openai (code : String)
  | unrecognized
deriving DecidableEq, Repr

/-- None that could be read and parsed, or a result, the redacted body and its reading as an error.
-/
inductive VideoAnswer
  | failed
  | parsed (taskResult : TaskInfo) (data : List UInt8) (error : ErrorBody)
deriving DecidableEq, Repr

/-- `none` if the upstream only limits the rate. -/
def videoTaskResult (taskResult : TaskInfo) (error : ErrorBody) : Option TaskInfo :=
  if taskResult.status ≠ .empty then some taskResult
  else
    match error with
    | .unreadable => some taskResult
    | .openai code => if code = "429" then none else some (.fail "upstream returned error")
    | .unrecognized => some (.fail "upstream returned unrecognized message")

variable (env : TaskEnv)

/-- `none` for a status polling does not know. -/
def applyVideoResult (task : Task) (taskResult : TaskInfo) (now : ℤ) : Option Task :=
  let progress := fun default => if taskResult.progress ≠ "" then taskResult.progress else default
  let finishTime := if task.finishTime = 0 then now else task.finishTime
  match taskResult.status with
  | .submitted => some { task with status := .submitted, progress := progress "10%" }
  | .queued => some { task with status := .queued, progress := progress "20%" }
  | .inProgress =>
    let startTime := if task.startTime = 0 then now else task.startTime
    some { task with status := .inProgress, progress := progress "30%", startTime }
  | .success =>
    let resultUrl :=
      -- Inline data and a missing address are both served through the proxy.
      if hasPrefix taskResult.url "data:" || taskResult.url = "" then env.buildProxyUrl task.taskId
      else taskResult.url
    some { task with status := .success, progress := progress "100%", finishTime, resultUrl }
  | .failure =>
    some { task with
      status := .failure, progress := "100%", finishTime, failReason := taskResult.reason }
  | _ => none

inductive TaskBilling
  | refund
  | settle (taskResult : TaskInfo)
deriving DecidableEq, Repr

/-- The row, its copy, and the billing it executes. -/
structure Polled where
  row : Task
  task : Task
  billing : Option TaskBilling := none
deriving DecidableEq, Repr

def videoBilling (quota : ℤ) (taskResult : TaskInfo) (status : TaskStatus) : Option TaskBilling :=
  if status = .success then some (.settle taskResult)
  else if status = .failure ∧ quota ≠ 0 then some .refund
  else none

variable (row task : Task)

/-- The compare-and-swap decides about the billing only where the status of the copy changes. -/
def updateVideoSingleTask (answer : VideoAnswer) (now : ℤ) (fault : Option Err) : Polled :=
  match answer with
  | .failed => { row, task }
  | .parsed taskResult data error =>
    let snap := task.snapshot
    let task := { task with data }
    match videoTaskResult taskResult error with
    | none => { row, task }
    | some taskResult =>
      match applyVideoResult env task taskResult now with
      -- The unknown status stays in the copy, but the row is never written.
      | none => { row, task := { task with status := taskResult.status } }
      | some new =>
        let billing := videoBilling task.quota taskResult new.status
        if new.status.isDone ∧ snap.status ≠ new.status then
          match row.updateWithStatus fault new snap.status with
          | .ok (row, true) => { row, task := new, billing }
          -- Another process was first: the billing is its business.
          | .ok (row, false) => { row, task := new }
          | .error _ => { row, task := new }
        else if snap ≠ new.snapshot then
          match row.updateWithStatus fault new snap.status with
          -- Here neither a lost compare-and-swap nor an error cancels the billing.
          | .ok (row, _) => { row, task := new, billing }
          | .error _ => { row, task := new, billing }
        else { row, task := new, billing }

/-! ### The timeout sweep -/

def legacyTaskCutoff : ℤ := 1740182400

def Task.isLegacy (t : Task) : Bool :=
  decide (0 < t.submitTime) && decide (t.submitTime < legacyTaskCutoff)

def sweepTimedOutTask (timeoutMinutes now : ℤ) (fault : Option Err) : Polled :=
  if timeoutMinutes ≤ 0 ∨ now - timeoutMinutes * 60 ≤ task.submitTime then { row, task }
  else
    let failReason :=
      if task.isLegacy then "任务超时（旧系统遗留任务，不进行退款，请联系管理员）"
      else s!"任务超时（{timeoutMinutes}分钟）"
    let new := { task with status := .failure, progress := "100%", finishTime := now, failReason }
    match row.updateWithStatus fault new task.status with
    | .ok (row, true) =>
      let billing := if !task.isLegacy && task.quota ≠ 0 then some TaskBilling.refund else none
      { row, task := new, billing }
    | .ok (row, false) => { row, task := new }
    | .error _ => { row, task := new }

/-! ### Suno tasks -/

structure SunoItem where
  status : TaskStatus
  failReason : String := ""
  submitTime : ℤ := 0
  startTime : ℤ := 0
  finishTime : ℤ := 0
  data : List UInt8 := []
deriving DecidableEq, Repr

/-- The data are compared after sorting their bytes. -/
def taskNeedsUpdate (oldTask : Task) (newTask : SunoItem) : Bool :=
  oldTask.submitTime ≠ newTask.submitTime || oldTask.startTime ≠ newTask.startTime ||
    oldTask.finishTime ≠ newTask.finishTime || oldTask.status ≠ newTask.status ||
    oldTask.failReason ≠ newTask.failReason ||
    (oldTask.status.isDone && oldTask.progress ≠ "100%") ||
    !oldTask.data.isPerm newTask.data

def applySunoItem (task : Task) (item : SunoItem) : Task :=
  let status := if item.status ≠ .empty then item.status else task.status
  { task with
    status
    failReason := if item.failReason ≠ "" then item.failReason else task.failReason
    submitTime := if item.submitTime ≠ 0 then item.submitTime else task.submitTime
    startTime := if item.startTime ≠ 0 then item.startTime else task.startTime
    finishTime := if item.finishTime ≠ 0 then item.finishTime else task.finishTime
    progress :=
      if item.failReason ≠ "" ∨ status = .failure ∨ item.status = .success then "100%"
      else task.progress
    data := item.data }

/-- It does so before it stores the task. -/
def sunoRefunds (task : Task) (item : SunoItem) : Bool :=
  item.failReason ≠ "" || (applySunoItem task item).status = .failure

/-- The row is not written before the refund. -/
def updateSunoTask (item : SunoItem) : Polled where
  row := row
  task := applySunoItem task item
  billing := if sunoRefunds task item then some .refund else none

theorem applySunoItem_finished {task : Task} {item : SunoItem} (h : sunoRefunds task item = true) :
    (applySunoItem task item).isUnfinished = false := by
  have hprogress : (applySunoItem task item).progress = "100%" := by
    rw [sunoRefunds, Bool.or_eq_true, decide_eq_true_eq, decide_eq_true_eq] at h
    unfold applySunoItem at h ⊢
    dsimp only at h ⊢
    rw [if_pos]
    tauto
  rw [Task.isUnfinished, hprogress]
  rfl

/-- What `Update` is still to store, and whether it was refunded. -/
structure SunoSave where
  task : Task
  refunded : Bool
  isSuno : task.platform = .suno
  finished : refunded = true → task.isUnfinished = false

def sunoSave (task : Task) (item : SunoItem) (isSuno : task.platform = .suno) : SunoSave where
  task := applySunoItem task item
  refunded := sunoRefunds task item
  isSuno := isSuno
  finished := applySunoItem_finished

/-! ### Queries by users -/

def applyRealtimeResult (task : Task) (ti : TaskInfo) : Task :=
  let status := if ti.status ≠ .empty then ti.status else task.status
  { task with
    status
    progress := if ti.progress ≠ "" then ti.progress else task.progress
    resultUrl :=
      if hasPrefix ti.url "data:" then task.resultUrl
      else if ti.url ≠ "" then ti.url
      else if status = .success then env.buildProxyUrl task.taskId
      else task.resultUrl }

def tryRealtimeFetch (ti : TaskInfo) (fault : Option Err) : Polled :=
  let new := applyRealtimeResult env task ti
  if task.snapshot ≠ new.snapshot then
    match row.updateWithStatus fault new task.status with
    | .ok (row, _) => { row, task := new }
    | .error _ => { row, task := new }
  else { row, task := new }

/-! ### All workers -/

inductive Role
  | poll
  | sweep
  | fetch
deriving DecidableEq, Repr

/-- The copy it was given, and what it has charged the funding source unless nothing. -/
structure BillingCall where
  isRefund : Bool
  task : Task
  delta : Option ℤ
deriving DecidableEq, Repr

/-- A worker has at most one Suno task to store. -/
structure TaskSystem (W : Type) where
  billing : Store
  row : Task
  copies : Role → W → Option Task
  saves : W → Option SunoSave := fun _ => none
  calls : List BillingCall

/-- A pass and a sweep load the task only if it is unfinished, a fetch loads it in any case.  An
item about a Suno task takes two steps: `RefundTaskQuota` comes before `Update`, and others run
between. -/
inductive TaskEvent (W : Type)
  | load (role : Role) (w : W)
  | video (w : W) (answer : VideoAnswer) (now : ℤ) (fault : Option Err) (f : TaskFaults)
  | sweep (w : W) (timeoutMinutes now : ℤ) (fault : Option Err) (f : TaskFaults)
  | suno (w : W) (item : SunoItem) (f : TaskFaults)
  | sunoUpdate (w : W) (fault : Option Err)
  | failNull (w : W) (fault : Option Err)
  | failChannel (w : W) (failReason : String) (fault : Option Err)
  | fetch (w : W) (ti : TaskInfo) (fault : Option Err)
  | other (billing : Store)

namespace TaskSystem

variable {W : Type} [DecidableEq W]

def setCopy (s : TaskSystem W) (role : Role) (w : W) (task : Option Task) : TaskSystem W :=
  { s with copies := Function.update s.copies role (Function.update (s.copies role) w task) }

def bill (env : TaskEnv) (s : TaskSystem W) (f : TaskFaults) (p : Polled) : TaskSystem W × Task :=
  match p.billing with
  | none => ({ s with row := p.row }, p.task)
  | some .refund =>
    let (billing, delta) := refundTaskQuota s.billing f p.task
    ({ s with billing, row := p.row, calls := s.calls ++ [⟨true, p.task, delta⟩] }, p.task)
  | some (.settle taskResult) =>
    let settled := settleTaskBillingOnComplete env s.billing f p.row p.task taskResult
    ({ s with
        billing := settled.billing, row := settled.row,
        calls := s.calls ++ [⟨false, p.task, settled.delta⟩] },
      settled.task)

def poll (env : TaskEnv) (s : TaskSystem W) (w : W) (f : TaskFaults) (p : Polled) : TaskSystem W :=
  let (s, task) := s.bill env f p
  s.setCopy .poll w (some task)

/-- Steps of a worker without a copy, or on a task of another platform, do nothing. -/
def step (env : TaskEnv) (s : TaskSystem W) : TaskEvent W → TaskSystem W
  | .load role w =>
    if s.row.isUnfinished || role = .fetch then s.setCopy role w (some s.row) else s
  | .video w answer now fault f =>
    match s.copies .poll w with
    | none => s
    | some task =>
      match task.platform with
      | .video _ => s.poll env w f (updateVideoSingleTask env s.row task answer now fault)
      | _ => s
  | .sweep w timeoutMinutes now fault f =>
    match s.copies .sweep w with
    | none => s
    | some task =>
      (s.bill env f (sweepTimedOutTask s.row task timeoutMinutes now fault)).1.setCopy .sweep w none
  | .suno w item f =>
    match s.copies .poll w, s.saves w with
    | some task, none =>
      if isSuno : task.platform = .suno then
        if taskNeedsUpdate task item then
          { s.poll env w f (updateSunoTask s.row task item) with
            saves := Function.update s.saves w (some (sunoSave task item isSuno)) }
        else s
      else s
    | _, _ => s
  | .sunoUpdate w fault =>
    match s.saves w with
    | none => s
    | some save =>
      { s with
        row := s.row.update fault save.task
        saves := Function.update s.saves w none }
  | .failNull w fault =>
    match s.copies .poll w with
    | none => s
    | some task =>
      if task.getUpstreamTaskId = "" then { s with row := s.row.bulkFail fault none } else s
  | .failChannel w failReason fault =>
    match s.copies .poll w with
    | none => s
    | some _ => { s with row := s.row.bulkFail fault (some failReason) }
  | .fetch w ti fault =>
    match s.copies .fetch w with
    | none => s
    | some task =>
      match task.platform with
      | .video _ =>
        { s with row := (tryRealtimeFetch env s.row task ti fault).row }.setCopy .fetch w none
      | _ => s
  | .other billing => { s with billing }

end TaskSystem

/-! ### A pass

A loaded task is one object in memory, which the goroutines of all channels share; it is named by
its primary key. -/

structure PassIndex where
  taskM : AList fun _ : String => ℤ := ∅
  taskChannelM : AList fun _ : ℤ => List String := ∅
  nullTaskIds : List ℤ := []

namespace PassIndex

def taskIds (index : PassIndex) (channelId : ℤ) : List String :=
  (index.taskChannelM.lookup channelId).getD []

def add (index : PassIndex) (id : ℤ) (task : Task) : PassIndex :=
  let upstreamId := task.getUpstreamTaskId
  if upstreamId = "" then { index with nullTaskIds := index.nullTaskIds ++ [id] }
  else
    { index with
      -- A later task with the same id takes the place of an earlier one, whatever its channel.
      taskM := index.taskM.insert upstreamId id
      taskChannelM := index.taskChannelM.insert task.channelId
        (index.taskIds task.channelId ++ [upstreamId]) }

def ofRows (rows : ℤ → Task) (ids : List ℤ) : PassIndex :=
  ids.foldl (fun index id => index.add id (rows id)) {}

end PassIndex

/-- The channel the request goes through, the id at the upstream, and the task. -/
structure Poll where
  channelId : ℤ
  upstreamId : String
  id : ℤ
deriving DecidableEq, Repr

/-- The table, the loaded tasks, what each channel has still to be asked for, and what has been
asked and answered. -/
structure Pass where
  index : PassIndex
  rows : ℤ → Task
  mem : ℤ → Task
  billing : Store
  queues : ℤ → List String
  polls : List Poll := []
  updates : List Poll := []

structure SunoAnswer where
  taskId : String
  item : SunoItem
  fault : Option Err := none
  f : TaskFaults := {}

inductive PassEvent
  | failNull (fault : Option Err)
  | failChannel (channelId : ℤ) (fault : Option Err)
  | video (channelId : ℤ) (answer : VideoAnswer) (now : ℤ) (fault : Option Err) (f : TaskFaults)
  | suno (channelId : ℤ) (answers : List SunoAnswer)

namespace Pass

def platformTask (rows : ℤ → Task) (allTasks : List ℤ) (platform : TaskPlatform) : List ℤ :=
  allTasks.filter fun id => (rows id).platform = platform

def start (platform : TaskPlatform) (rows : ℤ → Task) (allTasks : List ℤ)
    (billing : Store) : Pass :=
  let index := PassIndex.ofRows rows (platformTask rows allTasks platform)
  { index
    rows
    mem := rows
    billing
    queues :=
      match platform with
      -- `DispatchPlatformUpdate` leaves Midjourney to its own loop.
      | .midjourney => fun _ => []
      | _ => index.taskIds }

def system (s : Pass) (id : ℤ) : TaskSystem Unit where
  billing := s.billing
  row := s.rows id
  copies role _ := if role = .poll then some (s.mem id) else none
  calls := []

variable (env : TaskEnv)

def onTask (s : Pass) (es : List (TaskEvent Unit)) (id : ℤ) : Pass :=
  let t := es.foldl (TaskSystem.step env) (s.system id)
  { s with
    billing := t.billing
    rows := Function.update s.rows id t.row
    mem := Function.update s.mem id ((t.copies .poll ()).getD (s.mem id)) }

def channelFailReason (platform : TaskPlatform) (channelId : ℤ) : String :=
  match platform with
  | .suno => s!"获取渠道信息失败，请联系管理员，渠道ID：{channelId}"
  | _ => s!"Failed to get channel info, channel ID: {channelId}"

/-- The tasks of the channel are looked up in `taskM`. -/
def failTasks (platform : TaskPlatform) (s : Pass) (channelId : ℤ) (fault : Option Err) : Pass :=
  let failedIds := (s.queues channelId).filterMap fun u => s.index.taskM.lookup u
  let s := { s with queues := Function.update s.queues channelId [] }
  failedIds.foldl (fun s id =>
    s.onTask env [.failChannel () (channelFailReason platform channelId) fault] id) s

/-- The request asks for the id of the task it has found. -/
def pollVideo (s : Pass) (channelId : ℤ) (e : TaskEvent Unit) : Pass :=
  match s.queues channelId with
  | [] => s
  | taskId :: rest =>
    let s := { s with queues := Function.update s.queues channelId rest }
    match s.index.taskM.lookup taskId with
    | none => s
    | some id =>
      let poll : Poll := ⟨channelId, (s.mem id).getUpstreamTaskId, id⟩
      let s := { s with polls := s.polls ++ [poll], updates := s.updates ++ [poll] }
      s.onTask env [e] id

/-- The channel of the task is not compared with the channel that has answered. -/
def sunoItem (channelId : ℤ) (s : Pass) (a : SunoAnswer) : Pass :=
  match s.index.taskM.lookup a.taskId with
  | none => s
  | some id =>
    let update : Poll := ⟨channelId, a.taskId, id⟩
    let s := { s with updates := s.updates ++ [update] }
    s.onTask env [.suno () a.item a.f, .sunoUpdate () a.fault] id

def pollSuno (s : Pass) (channelId : ℤ) (answers : List SunoAnswer) : Pass :=
  let asked := (s.queues channelId).filterMap fun u =>
    (s.index.taskM.lookup u).map fun id => (⟨channelId, u, id⟩ : Poll)
  let s := { s with queues := Function.update s.queues channelId [], polls := s.polls ++ asked }
  answers.foldl (sunoItem env channelId) s

/-- `hasChannel` tells which channels `CacheGetChannel` finds. -/
def step (platform : TaskPlatform) (hasChannel : ℤ → Bool) (s : Pass) : PassEvent → Pass
  | .failNull fault =>
      s.index.nullTaskIds.foldl (fun s id => s.onTask env [.failNull () fault] id) s
  | .failChannel channelId fault =>
    if hasChannel channelId then s else s.failTasks env platform channelId fault
  | .video channelId answer now fault f =>
    match platform, hasChannel channelId with
    | .video _, true => s.pollVideo env channelId (.video () answer now fault f)
    | _, _ => s
  | .suno channelId answers =>
    match platform, hasChannel channelId with
    | .suno, true => if s.queues channelId = [] then s else s.pollSuno env channelId answers
    | _, _ => s

end Pass

end TokensFlux
