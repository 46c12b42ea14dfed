import TokensFlux.Channel.Row

/-!
# Keys that are handed out while others are disabled

Without the memory cache every request has its own object, and in polling mode writes the column
`channel_info` back; with it all share one, which `UpdateChannelStatus` changes before the row.
`disabled` and `returned` only record.
-/

namespace TokensFlux

structure StatusCall where
  usingKey : String
  status : ChannelStatus
  reason : String := ""
  now : ℤ := 0
deriving DecidableEq, Repr

namespace ChannelRow

/-- For the polling index that is read from the cache or the database. -/
def getNextEnabledKey (c : ChannelRow) (json : ChannelJson) (random : ℕ) (pollingIndex : ℤ) :
    Except RelayError (String × ℕ) :=
  (c.toChannel json).getNextEnabledKey { random, pollingIndex := .ok pollingIndex }

def movePollingIndex (c : ChannelRow) (json : ChannelJson) (idx : ℕ) : ChannelRow :=
  { c with channelInfo := { c.channelInfo with
      multiKeyPollingIndex := ((idx + 1) % (c.getKeys json).length : ℕ) } }

def saveChannelInfo (row c : ChannelRow) : ChannelRow :=
  { row with channelInfo := c.channelInfo }

end ChannelRow

/-! ### Without the memory cache -/

structure HeldChannel where
  channel : ChannelRow
  disabled : List String
  chosen : Option String := none
deriving DecidableEq, Repr

structure PendingStatus where
  call : StatusCall
  channel : ChannelRow
  handled : Bool := false
deriving DecidableEq, Repr

structure KeyState where
  row : ChannelRow
  held : ℕ → Option HeldChannel := fun _ => none
  pending : ℕ → Option PendingStatus := fun _ => none
  pollingLock : Option ℕ := none
  disabled : List String := []
  returned : List (String × List String) := []

inductive KeyEvent
  | load (request : ℕ)
  /-- `GetNextEnabledKey` takes the lock, reads the polling index and chooses. -/
  | choose (request random : ℕ)
  /-- In polling mode it saves its object, releases the lock and returns. -/
  | saveChannelInfo (request : ℕ)
  | loadRow (caller : ℕ) (call : StatusCall)
  | handle (caller : ℕ)
  | save (caller : ℕ)
deriving DecidableEq, Repr

namespace KeyState

variable (json : ChannelJson) (s : KeyState)

def choose (request random : ℕ) (h : HeldChannel) : KeyState :=
  match h.channel.getNextEnabledKey json random s.row.channelInfo.multiKeyPollingIndex with
  | .error _ => s
  | .ok (key, idx) =>
    if h.channel.channelInfo.multiKeyMode = .polling then
      { s with
        held := Function.update s.held request
          (some { h with channel := h.channel.movePollingIndex json idx, chosen := some key })
        pollingLock := some request }
    else { s with returned := (key, h.disabled) :: s.returned }

def saveChannelInfo (request : ℕ) (h : HeldChannel) (key : String) : KeyState :=
  { s with
    row := s.row.saveChannelInfo h.channel
    held := Function.update s.held request (some { h with chosen := none })
    pollingLock := none
    returned := (key, h.disabled) :: s.returned }

def disabledAfter (disabled : List String) (call : StatusCall) : List String :=
  if call.status = .enabled then disabled.filter fun key => key ≠ call.usingKey
    else call.usingKey :: disabled

def savePending (caller : ℕ) (p : PendingStatus) : KeyState :=
  { s with
    row := s.row.saveWithoutKey p.channel
    pending := Function.update s.pending caller none
    disabled := disabledAfter s.disabled p.call }

/-- A step that has to wait, or is not due, does nothing. -/
def step : KeyEvent → KeyState
  | .load request =>
    if (s.held request).any fun h => h.chosen.isSome then s
    else
      { s with held := Function.update s.held request (some { channel := s.row,
                                                              disabled := s.disabled }) }
  | .choose request random =>
    match s.held request with
    | none => s
    | some h => if h.chosen = none ∧ s.pollingLock = none then s.choose json request random h else s
  | .saveChannelInfo request =>
    match s.held request with
    | none => s
    | some h =>
      match h.chosen with
      | none => s
      | some key => s.saveChannelInfo request h key
  | .loadRow caller call =>
    -- A call for the status that the channel has already returns false.
    if (s.pending caller).isSome ∨ s.row.status = call.status then s
    else { s with pending := Function.update s.pending caller (some { call, channel := s.row }) }
  | .handle caller =>
    match s.pending caller with
    | none => s
    | some p =>
      if p.handled ∨ s.pollingLock ≠ none then s
      else
        match p.channel.changeStatus json p.call.usingKey p.call.status
          p.call.reason p.call.now with
        | none => s
        | some (c, _) =>
          { s with pending := Function.update s.pending caller (some { p with channel := c,
                                                                              handled := true }) }
  | .save caller =>
    match s.pending caller with
    | none => s
    | some p => if p.handled then s.savePending caller p else s

end KeyState

/-! ### With the memory cache -/

/-- The shared object and the row, and the call that holds `channelStatusLock`. -/
structure CachedKeyState where
  cached : ChannelRow
  row : ChannelRow
  pending : Option (StatusCall × Option ChannelRow) := none
  disabled : List String := []
  returned : List (String × List String) := []

inductive CachedKeyEvent
  /-- `GetNextEnabledKey` on the shared object, under the polling lock. -/
  | next (random : ℕ)
  /-- `UpdateChannelStatus` takes `channelStatusLock` and changes the shared object. -/
  | enter (call : StatusCall)
  /-- It loads the row; for the status that the row has already it returns false. -/
  | load
  | save
deriving DecidableEq, Repr

namespace CachedKeyState

variable (json : ChannelJson) (s : CachedKeyState)

def next (random : ℕ) : CachedKeyState :=
  match s.cached.getNextEnabledKey json random s.cached.channelInfo.multiKeyPollingIndex with
  | .error _ => s
  | .ok (key, idx) =>
    { s with
      cached :=
        if s.cached.channelInfo.multiKeyMode = .polling
          then s.cached.movePollingIndex json idx else s.cached
      returned := (key, s.disabled) :: s.returned }

/-- One that enables a key ends its being disabled. -/
def enter (call : StatusCall) : CachedKeyState :=
  { s with
    cached := s.cached.handlerMultiKeyUpdate json call.usingKey call.status call.reason call.now
      (s.cached.getKeys json)
    pending := some (call, none)
    disabled := if call.status = .enabled then s.disabled.filter fun key =>
      key ≠ call.usingKey else s.disabled }

/-- A step that has to wait, or is not due, does nothing. -/
def step : CachedKeyEvent → CachedKeyState
  | .next random => s.next json random
  | .enter call => if s.pending = none then s.enter json call else s
  | .load =>
    match s.pending with
    | some (call, none) =>
      if s.row.status = call.status then { s with pending := none }
      else { s with pending := some (call, some s.row) }
    | _ => s
  | .save =>
    match s.pending with
    | some (call, some c) =>
      { s with
        row := RowState.savedRow json s.row c call.usingKey call.status call.reason call.now
        pending := none
        disabled := if call.status = .enabled then s.disabled else call.usingKey :: s.disabled }
    | _ => s

end CachedKeyState

end TokensFlux
