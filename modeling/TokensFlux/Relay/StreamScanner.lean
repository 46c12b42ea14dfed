import TokensFlux.Common.Str

/-!
# The stream scanner

A state has one program counter for each of the four goroutines; `step` is `none` while its
goroutine is blocked.
-/

namespace TokensFlux

/-! ### Lines -/

inductive LineAction
  | skip
  | send (data : String)
  | done
deriving DecidableEq, Repr

def readLine (line : String) : LineAction :=
  if byteLength line < 6 then .skip
  else if ¬hasPrefix line "data:" ∧ ¬hasPrefix line "[DONE]" then .skip
  else
    let data := trimSpace (dropBytes line 5)
    if data = "" then .skip
    else if ¬hasPrefix data "[DONE]" then .send data
    else .done

def scanLines : List String → List String
  | [] => []
  | line :: lines =>
    match readLine line with
    | .skip => scanLines lines
    | .send data => data :: scanLines lines
    | .done => []

/-! ### Goroutines -/

/-- `close` and `stop` are its deferred calls. -/
inductive ScannerState
  | scan
  | check (line : String)
  | send (data : String)
  | close
  | stop
  | done
deriving DecidableEq, Repr

inductive HandlerState
  | receive
  | lock (data : String)
  | call (data : String)
  | stop
  | done
deriving DecidableEq, Repr

/-- It is `done` from the start if pings are disabled. -/
inductive PingState
  | wait
  | lock
  | ping
  | done
deriving DecidableEq, Repr

inductive CallerState
  | wait
  | cancel
  | stop
  | join
  | returned
deriving DecidableEq, Repr

inductive Writer
  | handler
  | ping
deriving DecidableEq, Repr

inductive HandlerCall
  | begins (data : String)
  | ends (data : String)
deriving DecidableEq, Repr

/-- `calls` records the calls of the data handler. -/
structure StreamState where
  lines : List String
  ping : PingState
  scanner : ScannerState := .scan
  handler : HandlerState := .receive
  caller : CallerState := .wait
  dataChan : List String := []
  dataClosed : Bool := false
  stopClosed : Bool := false
  cancelled : Bool := false
  writeMutex : Option Writer := none
  calls : List HandlerCall := []
deriving DecidableEq, Repr

def dataChanCapacity : ℕ := 10

inductive StreamEvent
  | scanner
  /-- The caller closes the body after `stop`. -/
  | readError
  | sendStopped
  | handler
  | handlerStops
  | ping
  | pingFails
  | pingStopped
  | pingExpires
  | pingClientGone
  | caller
  | timeout
  | clientGone
deriving DecidableEq, Repr

namespace StreamState

variable (s : StreamState)

def scannerStep : Option StreamState :=
  match s.scanner with
  | .scan =>
    match s.lines with
    | [] => some { s with scanner := .close }
    | line :: lines => some { s with lines, scanner := .check line }
  | .check line =>
    if s.stopClosed || s.cancelled then some { s with scanner := .close }
    else
      match readLine line with
      | .skip => some { s with scanner := .scan }
      | .send data => some { s with scanner := .send data }
      | .done => some { s with scanner := .close }
  | .send data =>
    if s.dataChan.length < dataChanCapacity then
      some { s with dataChan := s.dataChan ++ [data], scanner := .scan }
    else none
  | .close => some { s with dataClosed := true, scanner := .stop }
  | .stop => some { s with stopClosed := true, scanner := .done }
  | .done => none

/-- It ranges over `dataChan` until it is closed and empty. -/
def handlerStep : Option StreamState :=
  match s.handler with
  | .receive =>
    match s.dataChan with
    | data :: dataChan => some { s with dataChan, handler := .lock data }
    | [] => if s.dataClosed then some { s with handler := .stop } else none
  | .lock data =>
    if s.writeMutex = none then
      some { s with writeMutex := some .handler, handler := .call data,
                    calls := s.calls ++ [.begins data] }
    else none
  | .call data =>
    some { s with writeMutex := none, handler := .receive, calls := s.calls ++ [.ends data] }
  | .stop => some { s with stopClosed := true, handler := .done }
  | .done => none

def pingStep : Option StreamState :=
  match s.ping with
  | .wait => some { s with ping := .lock }
  | .lock =>
    if s.writeMutex = none then some { s with writeMutex := some .ping, ping := .ping } else none
  | .ping => some { s with writeMutex := none, ping := .wait }
  | .done => none

/-- `wg.Wait()` waits for the other three. -/
def callerStep : Option StreamState :=
  match s.caller with
  | .wait => if s.stopClosed then some { s with caller := .cancel } else none
  | .cancel => some { s with cancelled := true, caller := .stop }
  | .stop => some { s with stopClosed := true, caller := .join }
  | .join =>
    if s.scanner = .done ∧ s.handler = .done ∧
      s.ping = .done then some { s with caller := .returned } else none
  | .returned => none

def step : StreamEvent → Option StreamState
  | .scanner => s.scannerStep
  | .readError => if s.scanner = .scan then some { s with scanner := .close } else none
  | .sendStopped =>
    match s.scanner with
    | .send _ => if s.stopClosed || s.cancelled then some { s with scanner := .close } else none
    | _ => none
  | .handler => s.handlerStep
  | .handlerStops =>
    match s.handler with
    | .call data =>
      some { s with writeMutex := none, handler := .stop, calls := s.calls ++ [.ends data] }
    | _ => none
  | .ping => s.pingStep
  | .pingFails => if s.ping = .ping then some { s with writeMutex := none, ping := .done } else none
  | .pingStopped =>
    if s.ping = .wait ∧ (s.stopClosed || s.cancelled) then some { s with ping := .done } else none
  | .pingExpires | .pingClientGone => if s.ping = .wait then some { s with ping := .done } else none
  | .caller => s.callerStep
  | .timeout | .clientGone => if s.caller = .wait then some { s with caller := .cancel } else none

def start (lines : List String) (pingEnabled : Bool) : StreamState where
  lines
  ping := if pingEnabled then .wait else .done

end StreamState

end TokensFlux
