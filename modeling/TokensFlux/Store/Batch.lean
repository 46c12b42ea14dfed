import TokensFlux.Store.Basic

/-!
# The batch updater

`batchUpdate` swaps the five maps for empty ones, one lock at a time, and writes what it has taken
without any lock.
-/

namespace TokensFlux

abbrev BatchStores := BatchUpdateType → AList fun _ : ℤ => ℤ

def BatchUpdateType.all : List BatchUpdateType :=
  [.userQuota, .tokenQuota, .usedQuota, .channelUsedQuota, .requestCount]

namespace BatchStores

def empty : BatchStores := fun _ => ∅

variable (stores : BatchStores)

variable (type_ : BatchUpdateType)

def value (id : ℤ) : ℤ :=
  ((stores type_).lookup id).getD 0

def addNewRecord (id value : ℤ) : BatchStores :=
  Function.update stores type_ <| match (stores type_).lookup id with
    | none => (stores type_).insert id value
    | some old => (stores type_).insert id (old + value)

def erase (id : ℤ) : BatchStores :=
  Function.update stores type_ ((stores type_).erase id)

end BatchStores

/-! ### The statements of a run -/

namespace Store

def addChannelUsedQuota (s : Store) (fault : Option Err) (id quota : ℤ) : Store :=
  match fault with
  | some _ => s
  | none =>
    { s with
      channelUsedQuota := Function.update s.channelUsedQuota id (s.channelUsedQuota id + quota) }

/-- Its error is only logged. -/
def updateUserQuotaUsedQuotaAndRequestCount (s : Store) (fault : Option Err)
    (id quota usedQuota requestCount : ℤ) : Store :=
  if quota = 0 ∧ usedQuota = 0 ∧ requestCount = 0 then s
  else
    match fault with
    | some _ => s
    | none =>
      { s with
        userQuota := Function.update s.userQuota id (s.userQuota id + quota)
        userUsedQuota := Function.update s.userUsedQuota id (s.userUsedQuota id + usedQuota)
        requestCount := Function.update s.requestCount id (s.requestCount id + requestCount) }

end Store

inductive BatchStatement
  | token (id quota : ℤ)
  | channel (id quota : ℤ)
  | user (id quota usedQuota requestCount : ℤ)
deriving DecidableEq, Repr

namespace BatchStatement

def exec (tables : Store) (fault : Option Err) : BatchStatement → Store
  | .token id quota =>
    match tables.addTokenQuota fault id quota with
    | .ok tables => tables
    | .error _ => tables
  | .channel id quota => tables.addChannelUsedQuota fault id quota
  | .user id quota usedQuota requestCount =>
    tables.updateUserQuotaUsedQuotaAndRequestCount fault id quota usedQuota requestCount

/-- The order of the keys of a map is arbitrary: `id` says which of them it is. -/
def next (stores : BatchStores) (id : ℤ) : Option BatchStatement :=
  if (stores .tokenQuota).keys ≠ [] then
    ((stores .tokenQuota).lookup id).map fun quota => .token id quota
  else if (stores .channelUsedQuota).keys ≠ [] then
    ((stores .channelUsedQuota).lookup id).map fun quota => .channel id quota
  else if id ∈ stores .userQuota ∨ id ∈ stores .usedQuota ∨ id ∈ stores .requestCount then
    some (.user id (stores.value .userQuota id) (stores.value .usedQuota id)
      (stores.value .requestCount id))
  else none

def rest (stores : BatchStores) : BatchStatement → BatchStores
  | .token id _ => stores.erase .tokenQuota id
  | .channel id _ => stores.erase .channelUsedQuota id
  | .user id _ _ _ =>
    ((stores.erase .userQuota id).erase .usedQuota id).erase .requestCount id

end BatchStatement

inductive BatchRun
  | checking (types : List BatchUpdateType)
  | swapping (types : List BatchUpdateType) (stores : BatchStores)
  | writing (stores : BatchStores)
  | finished

structure BatchSystem where
  tables : Store
  stores : BatchStores
  runs : List BatchRun := []
  recorded : BatchUpdateType → ℤ → ℤ := fun _ _ => 0

inductive BatchEvent
  | record (type_ : BatchUpdateType) (id value : ℤ)
  | start
  | advance (i : ℕ) (id : ℤ) (fault : Option Err)

namespace BatchSystem

def advance (tables : Store) (stores : BatchStores) (id : ℤ) (fault : Option Err) :
    BatchRun → Store × BatchStores × BatchRun
  | .checking [] => (tables, stores, .finished)
  | .checking (type_ :: types) =>
    if (stores type_).keys ≠ [] then (tables, stores, .swapping BatchUpdateType.all .empty)
    else (tables, stores, .checking types)
  | .swapping [] taken => (tables, stores, .writing taken)
  | .swapping (type_ :: types) taken =>
    (tables, Function.update stores type_ ∅,
      .swapping types (Function.update taken type_ (stores type_)))
  | .writing taken =>
    match BatchStatement.next taken id with
    | none => (tables, stores, .writing taken)
    | some statement => (statement.exec tables fault, stores, .writing (statement.rest taken))
  | .finished => (tables, stores, .finished)

def step (s : BatchSystem) : BatchEvent → BatchSystem
  | .record type_ id value =>
    { s with
      stores := s.stores.addNewRecord type_ id value
      recorded := fun t k =>
        if t = type_ ∧ k = id then s.recorded t k + value else s.recorded t k }
  | .start => { s with runs := s.runs ++ [.checking BatchUpdateType.all] }
  | .advance i id fault =>
    match s.runs[i]? with
    | none => s
    | some run =>
      let (tables, stores, run) := advance s.tables s.stores id fault run
      { s with tables, stores, runs := s.runs.set i run }

end BatchSystem

end TokensFlux
