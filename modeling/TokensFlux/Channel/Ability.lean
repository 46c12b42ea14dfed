import TokensFlux.Channel.Row
import TokensFlux.Lib.Rows

/-!
# The ability table

One row for each group and model of a channel, with copies of the columns that selection reads.
-/

namespace TokensFlux

structure Ability where
  group : String
  model : String
  channelId : ℤ
  enabled : Bool
  priority : Option ℤ
  weight : ℕ
  tag : Option String
deriving DecidableEq, Repr

def Ability.key (a : Ability) : String × String × ℤ :=
  (a.group, a.model, a.channelId)

/-! ### The abilities of a channel -/

/-- The text by which `AddAbilities` tells the pairs of a channel apart. -/
def pairKey (p : String × String) : String :=
  p.1 ++ "|" ++ p.2

def newPairs : List String → List (String × String) → List (String × String)
  | _, [] => []
  | seen, p :: ps =>
    if pairKey p ∈ seen then newPairs seen ps else p :: newPairs (pairKey p :: seen) ps

namespace ChannelRow

variable (c : ChannelRow)

def pairs : List (String × String) :=
  (splitText c.models ",").flatMap fun model =>
    (splitText c.group ",").map fun group => (group, model)

def ability (p : String × String) : Ability where
  group := p.1
  model := p.2
  channelId := c.id
  enabled := c.status = .enabled
  priority := some c.getPriority
  weight := c.getWeight
  tag := c.tag

def newAbilities : List Ability :=
  (newPairs [] c.pairs).map c.ability

end ChannelRow

/-! ### The tables -/

structure ChannelTables where
  channels : List ChannelRow := []
  abilities : List Ability := []
deriving DecidableEq, Repr

namespace ChannelTables

variable (t : ChannelTables)

def getChannelById (id : ℤ) : Option ChannelRow :=
  t.channels.find? fun c => c.id = id

def addAbilities (c : ChannelRow) : ChannelTables :=
  { t with abilities := insertAll Ability.key t.abilities c.newAbilities }

def deleteAbilities (id : ℤ) : ChannelTables :=
  { t with abilities := t.abilities.filter fun a => a.channelId ≠ id }

def updateAbilities (c : ChannelRow) : ChannelTables :=
  (t.deleteAbilities c.id).addAbilities c

def updateAbilityStatus (id : ℤ) (status : Bool) : ChannelTables :=
  { t with
    abilities := updateWhere (fun a => a.channelId = id)
      (fun a => { a with enabled := status }) t.abilities }

def updateAbilityStatusByTag (tag : String) (status : Bool) : ChannelTables :=
  { t with
    abilities := updateWhere (fun a => a.tag = some tag)
      (fun a => { a with enabled := status }) t.abilities }

/-- A weight of zero is a zero value and is skipped. -/
def updateAbilityByTag (tag : String) (newTag : Option String) (priority : Option ℤ)
    (weight : Option ℕ) : ChannelTables :=
  { t with
    abilities := updateWhere (fun a => a.tag = some tag) (fun a =>
        { a with
          tag := newTag.or a.tag
          priority := priority.or a.priority
          weight := if weight.getD 0 = 0 then a.weight else weight.getD 0 })
      t.abilities }

def updateChannels (p : ChannelRow → Bool) (f : ChannelRow → ChannelRow) : ChannelTables :=
  { t with channels := updateWhere p f t.channels }

def deleteChannels (p : ChannelRow → Bool) : ChannelTables :=
  { t with channels := t.channels.filter fun c => !p c }

/-! ### The operations -/

def insert (c : ChannelRow) : ChannelTables :=
  if c.id ∈ t.channels.map ChannelRow.id then t
  else ({ t with channels := t.channels ++ [c.create] }).addAbilities c.create

def batchInsertChannels (cs : List ChannelRow) : ChannelTables :=
  if (t.channels.map ChannelRow.id ++ cs.map ChannelRow.id).Nodup then cs.foldl insert t else t

/-- The row in the table, or the struct itself when there is none. -/
def updatedRow (json : ChannelJson) (c : ChannelRow) : ChannelRow :=
  let c := c.prepareUpdate json (t.getChannelById c.id)
  match t.getChannelById c.id with
  | some row => row.updates c
  | none => c

def update (json : ChannelJson) (c : ChannelRow) : ChannelTables :=
  -- Without an id the statement has no condition, and GORM refuses it.
  if c.id = 0 then t
  else
    (t.updateChannels (fun row => row.id = c.id) fun _ => t.updatedRow json c).updateAbilities
      (t.updatedRow json c)

def updateChannelStatus (json : ChannelJson) (id : ℤ) (usingKey : String)
    (status : ChannelStatus) (reason : String) (now : ℤ) : ChannelTables :=
  match (t.getChannelById id).bind (·.changeStatus json usingKey status reason now) with
  | none => t
  | some (c, shouldUpdateAbilities) =>
    let t := t.updateChannels (fun row => row.id = id) fun _ => c
    if shouldUpdateAbilities then t.updateAbilityStatus id (status = .enabled) else t

def enableChannelByTag (tag : String) : ChannelTables :=
  (t.updateChannels (fun c => c.tag = some tag) fun c =>
    { c with status := .enabled }).updateAbilityStatusByTag
    tag true

def disableChannelByTag (tag : String) : ChannelTables :=
  (t.updateChannels (fun c => c.tag = some tag)
    fun c => { c with status := .manuallyDisabled }).updateAbilityStatusByTag tag false

end ChannelTables

/-- The object of a channel in the memory cache, beside the tables. -/
structure CachedTables where
  cached : ChannelRow
  tables : ChannelTables
deriving DecidableEq, Repr

/-- The object of a multi-key channel is changed in any case, another only when its status is. -/
def CachedTables.updateChannelStatus (s : CachedTables) (json : ChannelJson) (usingKey : String)
    (status : ChannelStatus) (reason : String) (now : ℤ) : CachedTables :=
  let tables := s.tables.updateChannelStatus json s.cached.id usingKey status reason now
  if s.cached.channelInfo.isMultiKey then
    { cached := s.cached.handlerMultiKeyUpdate json usingKey status reason now
        (s.cached.getKeys json), tables }
  else if s.cached.status = status then s
  else { cached := { s.cached with status }, tables }

structure TagEdit where
  newTag : Option String := none
  modelMapping : Option String := none
  models : Option String := none
  group : Option String := none
  priority : Option ℤ := none
  weight : Option ℕ := none
  paramOverride : Option String := none
  headerOverride : Option String := none
deriving DecidableEq, Repr

namespace TagEdit

variable (e : TagEdit) (tag : String)

def updatedTag : String :=
  e.newTag.getD tag

def shouldReCreateAbilities : Bool :=
  e.models.getD "" ≠ "" || e.group.getD "" ≠ ""

def apply (c : ChannelRow) : ChannelRow :=
  { c with
    tag := if e.updatedTag tag ≠ tag then e.newTag else c.tag
    modelMapping := e.modelMapping.or c.modelMapping
    models := if e.models.getD "" ≠ "" then e.models.getD "" else c.models
    group := if e.group.getD "" ≠ "" then e.group.getD "" else c.group
    priority := e.priority.or c.priority
    weight := e.weight.or c.weight
    paramOverride := e.paramOverride.or c.paramOverride
    headerOverride := e.headerOverride.or c.headerOverride }

end TagEdit

namespace ChannelTables

variable (t : ChannelTables)

def editChannelByTag (tag : String) (e : TagEdit) : ChannelTables :=
  let t := t.updateChannels (fun c => c.tag = some tag) (e.apply tag)
  if e.shouldReCreateAbilities then
    (t.channels.filter fun c => c.tag = some (e.updatedTag tag)).foldl updateAbilities t
  else t.updateAbilityByTag tag e.newTag e.priority e.weight

/-- The channels are read outside the transaction that has changed their tags. -/
def batchSetChannelTag (ids : List ℤ) (tag : Option String) : ChannelTables :=
  (t.channels.filter fun c => c.id ∈ ids).foldl updateAbilities
    (t.updateChannels (fun c => c.id ∈ ids) fun c => { c with tag })

def delete (id : ℤ) : ChannelTables :=
  -- Without an id the statement has no condition, and GORM refuses it.
  if id = 0 then t else (t.deleteChannels fun c => c.id = id).deleteAbilities id

def batchDeleteChannels (ids : List ℤ) : ChannelTables :=
  { t.deleteChannels fun c => c.id ∈ ids with
    abilities := t.abilities.filter fun a => a.channelId ∉ ids }

def deleteDisabledChannel : ChannelTables :=
  t.deleteChannels fun c => c.status = .autoDisabled ∨ c.status = .manuallyDisabled

def fixAbility : ChannelTables :=
  t.channels.foldl (fun t c => (t.deleteAbilities c.id).addAbilities c) { t with abilities := [] }

end ChannelTables

inductive ChannelCall
  | insert (c : ChannelRow)
  | batchInsertChannels (cs : List ChannelRow)
  | update (c : ChannelRow)
  | updateChannelStatus (id : ℤ) (usingKey : String) (status : ChannelStatus)
    (reason : String) (now : ℤ)
  | enableChannelByTag (tag : String)
  | disableChannelByTag (tag : String)
  | editChannelByTag (tag : String) (e : TagEdit)
  | batchSetChannelTag (ids : List ℤ) (tag : Option String)
  | delete (id : ℤ)
  | batchDeleteChannels (ids : List ℤ)
  | deleteDisabledChannel
  | fixAbility
deriving DecidableEq, Repr

/-- A call that fails leaves the tables as they are. -/
def ChannelTables.step (json : ChannelJson) (t : ChannelTables) : ChannelCall → ChannelTables
  | .insert c => t.insert c
  | .batchInsertChannels cs => t.batchInsertChannels cs
  | .update c => t.update json c
  | .updateChannelStatus id usingKey status reason now =>
    t.updateChannelStatus json id usingKey status reason now
  | .enableChannelByTag tag => t.enableChannelByTag tag
  | .disableChannelByTag tag => t.disableChannelByTag tag
  | .editChannelByTag tag e => t.editChannelByTag tag e
  | .batchSetChannelTag ids tag => t.batchSetChannelTag ids tag
  | .delete id => t.delete id
  | .batchDeleteChannels ids => t.batchDeleteChannels ids
  | .deleteDisabledChannel => t.deleteDisabledChannel
  | .fixAbility => t.fixAbility

/-! ### Selection from the database -/

def Ability.weightGE (a b : Ability) : Prop :=
  b.weight ≤ a.weight

instance : DecidableRel Ability.weightGE :=
  fun a b => inferInstanceAs (Decidable (b.weight ≤ a.weight))

def drawAbility : ℕ → List Ability → Option Ability
  | _, [] => none
  | weight, a :: abilities =>
    if weight ≤ a.weight + 10 then some a else drawAbility (weight - (a.weight + 10)) abilities

namespace ChannelTables

variable (t : ChannelTables) (json : ChannelJson)

variable (group model : String)

def enabledAbilities : List Ability :=
  t.abilities.filter fun a => a.group = group ∧ a.model = model ∧ a.enabled

def distinctPriorities : List ℤ :=
  ((t.enabledAbilities group model).filterMap Ability.priority).dedup.insertionSort (· ≥ ·)

def getPriority (retry : ℕ) : Except Err ℤ :=
  match t.distinctPriorities group model with
  | [] => .error "数据库一致性被破坏"
  | first :: rest =>
    let priorities := first :: rest
    .ok (if priorities.length ≤ retry then priorities.getD (priorities.length - 1) 0
      else priorities.getD retry 0)

/-- The first attempt asks for `MAX(priority)`. -/
def channelQuery (retry : ℕ) : Except Err (List Ability) :=
  let abilities := t.enabledAbilities group model
  let withPriority (priority : ℤ) :=
    (abilities.filter fun a => a.priority = some priority).insertionSort Ability.weightGE
  if retry ≠ 0 then (t.getPriority group model retry).map withPriority
  else
    match (abilities.filterMap Ability.priority).max? with
    | none => .ok []
    | some priority => .ok (withPriority priority)

/-- An ability without a channel is kept. -/
def filterAbilitiesByRequestPath (abilities : List Ability) (requestPath : String) : List Ability :=
  if requestPath = "" then abilities
  else abilities.filter fun a =>
    match t.getChannelById a.channelId with
    | none => true
    | some c =>
      c.type ≠ channelTypeAdvancedCustom ||
        (json.advancedCustom c.otherSettings).any fun config => config.supportsPath requestPath

def getChannel (random : ℕ) (group model : String) (retry : ℕ) (requestPath : String) :
    Option Channel × Option Err :=
  match t.channelQuery group model retry with
  | .error e => (none, some e)
  | .ok abilities =>
    let abilities := t.filterAbilitiesByRequestPath json abilities requestPath
    if abilities = [] then (none, none)
    else
      let weightSum := abilities.foldl (fun sum a => sum + (a.weight + 10)) 0
      let id := ((drawAbility (random % weightSum) abilities).map Ability.channelId).getD 0
      match t.getChannelById id with
      | some c => (some (c.toChannel json), none)
      | none => (some (({ id } : ChannelRow).toChannel json), some "record not found")

def isChannelEnabledForGroupModelDB (group modelName : String) (channelID : ℤ) : Bool :=
  let normalized := formatMatchingModelName modelName
  let enabled model := (t.enabledAbilities group model).any (·.channelId = channelID)
  enabled modelName || normalized ≠ "" && normalized ≠ modelName && enabled normalized

/-- Without the memory cache. -/
def isChannelEnabledForGroupModel (group modelName : String) (channelID : ℤ) : Bool :=
  if group = "" ∨ modelName = "" ∨ channelID ≤ 0 then false
  else t.isChannelEnabledForGroupModelDB group modelName channelID

end ChannelTables

end TokensFlux
