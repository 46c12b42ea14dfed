import TokensFlux.Relay.Channel
import Mathlib.Data.Rat.Defs

/-!
# Rows of the channel table

GORM fills in defaults for zero values when it creates a row, and skips zero values when it updates
from a struct.
-/

namespace TokensFlux

/-- The column `channel_info`.  The mode `other` stands for the empty text too. -/
structure ChannelInfoColumn extends ChannelInfo where
  multiKeySize : ℕ := 0
  multiKeyDisabledReason : List (ℕ × String) := []
  multiKeyDisabledTime : List (ℕ × ℤ) := []
  multiKeyPollingIndex : ℤ := 0
deriving DecidableEq, Repr

def ChannelInfoColumn.zero : ChannelInfoColumn :=
  { multiKeyMode := .other }

structure ChannelRow where
  id : ℤ
  type : ℕ := 0
  key : String := ""
  openAIOrganization : Option String := none
  testModel : Option String := none
  status : ChannelStatus := .unknown
  name : String := ""
  weight : Option ℕ := none
  createdTime : ℤ := 0
  testTime : ℤ := 0
  responseTime : ℤ := 0
  baseURL : Option String := none
  other : String := ""
  balance : ℚ := 0
  balanceUpdatedTime : ℤ := 0
  models : String := ""
  group : String := ""
  usedQuota : ℤ := 0
  modelMapping : Option String := none
  statusCodeMapping : Option String := none
  priority : Option ℤ := none
  autoBan : Option ℤ := none
  otherInfo : String := ""
  tag : Option String := none
  setting : Option String := none
  paramOverride : Option String := none
  headerOverride : Option String := none
  remark : Option String := none
  channelInfo : ChannelInfoColumn := .zero
  otherSettings : String := ""
deriving DecidableEq, Repr

structure ChannelJson where
  rawArray : String → Option (List String)
  statusInfo : String → String → ℤ → String
  advancedCustom : String → Option AdvancedCustomConfig

def ChannelJson.plain : ChannelJson :=
  ⟨fun _ => none, fun info _ _ => info, fun _ => none⟩

def trimNewlines (s : String) : String :=
  let isNewline (c : Char) : Bool := c = '\n'
  String.ofList (((s.toList.dropWhile isNewline).reverse.dropWhile isNewline).reverse)

namespace ChannelRow

/-! ### What GORM writes -/

variable (c : ChannelRow)

def create : ChannelRow :=
  { c with
    status := if c.status = .unknown then .enabled else c.status
    weight := some (c.weight.getD 0)
    baseURL := some (c.baseURL.getD "")
    group := if c.group = "" then "default" else c.group
    statusCodeMapping := some (c.statusCodeMapping.getD "")
    priority := some (c.priority.getD 0)
    autoBan := some (c.autoBan.getD 1) }

def updates (row c : ChannelRow) : ChannelRow where
  id := row.id
  type := if c.type = 0 then row.type else c.type
  key := if c.key = "" then row.key else c.key
  openAIOrganization := c.openAIOrganization.or row.openAIOrganization
  testModel := c.testModel.or row.testModel
  status := if c.status = .unknown then row.status else c.status
  name := if c.name = "" then row.name else c.name
  weight := c.weight.or row.weight
  createdTime := if c.createdTime = 0 then row.createdTime else c.createdTime
  testTime := if c.testTime = 0 then row.testTime else c.testTime
  responseTime := if c.responseTime = 0 then row.responseTime else c.responseTime
  baseURL := c.baseURL.or row.baseURL
  other := if c.other = "" then row.other else c.other
  balance := if c.balance = 0 then row.balance else c.balance
  balanceUpdatedTime := if c.balanceUpdatedTime = 0 then row.balanceUpdatedTime
    else c.balanceUpdatedTime
  models := if c.models = "" then row.models else c.models
  group := if c.group = "" then row.group else c.group
  usedQuota := if c.usedQuota = 0 then row.usedQuota else c.usedQuota
  modelMapping := c.modelMapping.or row.modelMapping
  statusCodeMapping := c.statusCodeMapping.or row.statusCodeMapping
  priority := c.priority.or row.priority
  autoBan := c.autoBan.or row.autoBan
  otherInfo := if c.otherInfo = "" then row.otherInfo else c.otherInfo
  tag := c.tag.or row.tag
  setting := c.setting.or row.setting
  paramOverride := c.paramOverride.or row.paramOverride
  headerOverride := c.headerOverride.or row.headerOverride
  remark := c.remark.or row.remark
  channelInfo := if c.channelInfo = .zero then row.channelInfo else c.channelInfo
  otherSettings := if c.otherSettings = "" then row.otherSettings else c.otherSettings

def getPriority : ℤ := c.priority.getD 0

def getWeight : ℕ := c.weight.getD 0

section Keys

variable (json : ChannelJson)

def getKeys (c : ChannelRow) : List String :=
  if c.key = "" then []
  else
    let trimmed := trimSpace c.key
    match if hasPrefix trimmed "[" then json.rawArray trimmed else none with
    | some keys => keys
    | none => splitText (trimNewlines c.key) "\n"

def countedKeys (key : String) : List String :=
  if key = "" then []
  else
    let trimmed := trimSpace key
    match if hasPrefix trimmed "[" then json.rawArray trimmed else none with
    | some (first :: rest) => first :: rest
    | _ => splitText (trimNewlines key) "\n"

/-- The statuses are cut to the keys that are there; `existing` is the row in the table. -/
def prepareUpdate (c : ChannelRow) (existing : Option ChannelRow) : ChannelRow :=
  if c.channelInfo.isMultiKey then
    let key := if c.key ≠ "" then c.key else (existing.map ChannelRow.key).getD ""
    let size := (countedKeys json key).length
    { c with channelInfo := { c.channelInfo with
        multiKeySize := size
        multiKeyStatusList := c.channelInfo.multiKeyStatusList.filter fun e => e.1 < size } }
  else c

end Keys

end ChannelRow

/-! ### The status of a key -/

def hasEnabledMultiKey (keys : List String) (statusList : List (ℕ × ChannelStatus)) : Bool :=
  (List.range keys.length).any fun i => (statusList.lookup i).getD .enabled = .enabled

def setEntry {β : Type} (m : List (ℕ × β)) (i : ℕ) (b : β) : List (ℕ × β) :=
  (i, b) :: m.filter fun e => e.1 ≠ i

def ChannelInfoColumn.setKeyStatus (info : ChannelInfoColumn) (i : ℕ) (status : ChannelStatus)
    (reason : String) (now : ℤ) : ChannelInfoColumn :=
  if status = .enabled then
    { info with multiKeyStatusList := info.multiKeyStatusList.filter fun e => e.1 ≠ i }
  else
    { info with
      multiKeyStatusList := setEntry info.multiKeyStatusList i status
      multiKeyDisabledReason := setEntry info.multiKeyDisabledReason i reason
      multiKeyDisabledTime := setEntry info.multiKeyDisabledTime i now }

namespace ChannelRow

variable (json : ChannelJson) (usingKey : String) (status : ChannelStatus)
  (reason : String) (now : ℤ)

variable (c : ChannelRow)

def withStatus : ChannelRow :=
  { c with status, otherInfo := json.statusInfo c.otherInfo reason now }

def handlerMultiKeyUpdate (keys : List String) : ChannelRow :=
  if keys = [] then { c with status }
  else
    match keys.findIdx? (· = usingKey) with
    | none =>
      -- A key that is not found is only logged.
      if usingKey ≠ "" then c else c.withStatus json status reason now
    | some keyIndex =>
      let c := { c with channelInfo := c.channelInfo.setKeyStatus keyIndex status reason now }
      if !hasEnabledMultiKey keys c.channelInfo.multiKeyStatusList then
        c.withStatus json .autoDisabled "All keys are disabled" now
      else if status = .enabled then { c with status := .enabled }
      else c

/-- `none` when it returns false; the flag says whether the abilities change. -/
def changeStatus : Option (ChannelRow × Bool) :=
  if c.status = status then none
  else if c.channelInfo.isMultiKey then
    let c' := c.handlerMultiKeyUpdate json usingKey status reason now (c.getKeys json)
    some (c', c.status ≠ c'.status)
  else some (c.withStatus json status reason now, true)

def toChannel : Channel where
  id := c.id
  type := c.type
  status := c.status
  key := c.key
  keys := c.getKeys json
  group := c.group
  models := c.models
  weight := c.weight
  priority := c.priority
  channelInfo := c.channelInfo.toChannelInfo
  advancedCustom := json.advancedCustom c.otherSettings

end ChannelRow

/-! ### Calls on one channel at the same time

`UpdateChannelStatus` loads the row, changes its copy and saves every column except the key.  The
other calls are single statements. -/

inductive RowEvent
  | load (caller : ℕ)
  /-- `UpdateChannelStatus` saves its copy, unless that has the status already. -/
  | save (caller : ℕ) (usingKey : String) (status : ChannelStatus) (reason : String) (now : ℤ)
  | updateChannelUsedQuota (quota : ℤ)
  | updateBalance (balance : ℚ) (now : ℤ)
  | updateResponseTime (responseTime now : ℤ)
  | readExisting (caller : ℕ)
  | update (caller : ℕ) (c : ChannelRow)
deriving DecidableEq, Repr

structure RowState where
  row : ChannelRow
  loaded : ℕ → Option ChannelRow := fun _ => none
  existing : ℕ → Option ChannelRow := fun _ => none

def ChannelRow.saveWithoutKey (row c : ChannelRow) : ChannelRow :=
  { c with key := row.key }

namespace RowState

def savedRow (json : ChannelJson) (row c : ChannelRow) (usingKey : String) (status : ChannelStatus)
    (reason : String) (now : ℤ) : ChannelRow :=
  match c.changeStatus json usingKey status reason now with
  | none => row
  | some (c, _) => row.saveWithoutKey c

def step (json : ChannelJson) (s : RowState) : RowEvent → RowState
  | .load caller => { s with loaded := Function.update s.loaded caller (some s.row) }
  | .save caller usingKey status reason now =>
    match s.loaded caller with
    | none => s
    | some c =>
      { s with
        row := savedRow json s.row c usingKey status reason now
        loaded := Function.update s.loaded caller none }
  | .updateChannelUsedQuota quota =>
    { s with row := { s.row with usedQuota := s.row.usedQuota + quota } }
  | .updateBalance balance now =>
    { s with row := { s.row with balance, balanceUpdatedTime := now } }
  | .updateResponseTime responseTime now =>
    { s with row := { s.row with responseTime, testTime := now } }
  | .readExisting caller => { s with existing := Function.update s.existing caller (some s.row) }
  | .update caller c =>
    { s with
      row := s.row.updates (c.prepareUpdate json (s.existing caller))
      existing := Function.update s.existing caller none }

end RowState

end TokensFlux
