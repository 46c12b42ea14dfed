import TokensFlux.Relay.StreamScanner
import TokensFlux.Lib.Guarded

/-!
# What the stream scanner delivers

The goroutines deliver `scanLines`, which is what the stream carries only on `CleanLines`: a line
that begins with `[DONE]` is cut like a `data:` line, or ends the stream.
-/

namespace TokensFlux

open HandlerState List Option ScannerState

/-! ### The stream -/

def isTerminator (line : String) : Bool :=
  trimSpace line = "[DONE]" || hasPrefix line "data:" && trimSpace (dropBytes line 5) = "[DONE]"

def linePayload (line : String) : Option String :=
  if hasPrefix line "data:" ∧ trimSpace (dropBytes line 5) ≠ ""
    then some (trimSpace (dropBytes line 5)) else none

def streamPayloads : List String → List String
  | [] => []
  | line :: lines =>
    if isTerminator line then [] else (linePayload line).toList ++ streamPayloads lines

/-- Up to the first terminator, no line and no payload but the terminator begins with `[DONE]`.
Nothing is sent after a terminator without `data:`. -/
def CleanLines : List String → Prop
  | [] => True
  | line :: lines =>
    ¬hasPrefix line "[DONE]" ∧ if isTerminator line then hasPrefix line "data:" ∨
      scanLines lines = []
      else (hasPrefix line "data:" → ¬hasPrefix (trimSpace (dropBytes line 5)) "[DONE]") ∧
        CleanLines lines

section

variable {line : String}

theorem readLine_of_data (h : hasPrefix line "data:") : readLine line =
      if trimSpace (dropBytes line 5) = "" then .skip
      else if ¬hasPrefix (trimSpace (dropBytes line 5)) "[DONE]"
        then .send (trimSpace (dropBytes line 5))
      else .done := by
  unfold readLine
  by_cases hshort : byteLength line < 6
  · -- Nothing follows the five bytes of the prefix.
    obtain ⟨t, rfl⟩ := hasPrefix_iff.mp h
    have hfive : byteLength "data:" = 5 := by decide +kernel
    rw [byteLength_append, hfive] at hshort
    have ht : t = "" := byteLength_eq_zero (by omega)
    have hdrop : dropBytes ("data:" ++ t) 5 = t := hfive ▸ dropBytes_append "data:" t
    have hblank : trimSpace "" = "" := by decide +kernel
    rw [byteLength_append, hfive, if_pos (by omega), hdrop, ht, if_pos hblank]
  · rw [if_neg hshort, if_neg fun hnot => hnot.1 h]

theorem exists_readLine_of_bare (h : hasPrefix line "[DONE]") :
    ∃ data, readLine line = .send data ∧ hasPrefix data "[DONE]" = false := by
  obtain ⟨t, rfl⟩ := hasPrefix_iff.mp h
  have hfive : byteLength "[DONE" = 5 := by decide +kernel
  have hdrop : dropBytes ("[DONE]" ++ t) 5 = "]" ++ t := by
    rw [show "[DONE]" ++ t = "[DONE" ++ ("]" ++ t) by rw [← String.append_assoc]; rfl, ← hfive]
    exact dropBytes_append _ _
  have hhead : (trimSpace ("]" ++ t)).toList.head? = some ']' := by
    apply head?_trimSpace
    · simp
    · decide
  have hlong : ¬byteLength ("[DONE]" ++ t) < 6 := by
    rw [byteLength_append, show byteLength "[DONE]" = 6 by decide +kernel]
    omega
  have hne : trimSpace ("]" ++ t) ≠ "" := by
    intro hnil
    rw [hnil] at hhead
    cases hhead
  have hnot : hasPrefix (trimSpace ("]" ++ t)) "[DONE]" = false := by
    refine Bool.eq_false_iff.mpr fun hprefix => ?_
    obtain ⟨u, hu⟩ := hasPrefix_iff.mp hprefix
    rw [hu] at hhead
    simp at hhead
  refine ⟨trimSpace ("]" ++ t), ?_, hnot⟩
  unfold readLine
  rw [if_neg hlong, if_neg fun hnot => hnot.2 h, hdrop]
  rw [if_neg hne, if_pos (by simp [hnot])]

theorem readLine_of_other (hdata : ¬hasPrefix line "data:") (hbare : ¬hasPrefix line "[DONE]") :
    readLine line = .skip := by
  unfold readLine
  split_ifs with h1 h2
  · rfl
  · rfl
  all_goals exact absurd ⟨hdata, hbare⟩ h2

theorem not_hasPrefix_done_of_data (h : hasPrefix line "data:") :
    ¬hasPrefix line "[DONE]" ∧ trimSpace line ≠ "[DONE]" := by
  obtain ⟨t, rfl⟩ := hasPrefix_iff.mp h
  have hhead : ("data:" ++ t).toList.head? = some 'd' := by simp
  constructor
  · intro hbare
    obtain ⟨u, hu⟩ := hasPrefix_iff.mp hbare
    rw [hu] at hhead
    simp at hhead
  intro htrim
  have htrimmed := head?_trimSpace hhead (by decide)
  rw [htrim] at htrimmed
  simp at htrimmed

end

theorem streamPayloads_ne_append {sent : List String} (hne : sent ≠ [])
    (hsent : ∀ data ∈ sent, hasPrefix data "[DONE]" = false) (lines : List String) :
    streamPayloads lines ≠ sent ++ scanLines lines := by
  induction lines generalizing sent with
  | nil => simpa [streamPayloads, scanLines] using hne.symm
  | cons line _ ih =>
    unfold streamPayloads scanLines
    by_cases hterm : isTerminator line
    · rw [if_pos hterm]
      intro h
      exact hne (append_eq_nil_iff.mp h.symm).1
    rw [if_neg hterm]
    by_cases hdata : hasPrefix line "data:"
    · rw [readLine_of_data hdata]
      unfold linePayload
      generalize trimSpace (dropBytes line 5) = data
      by_cases hempty : data = ""
      · simpa [hempty] using ih hne hsent
      by_cases hdone : hasPrefix data "[DONE]"
      · -- The first payload that the scanner has sent does not begin with `[DONE]`.
        obtain ⟨first, rest, rfl⟩ := exists_cons_of_ne_nil hne
        have hfirst := hsent first mem_cons_self
        intro h
        simp only [hdata, hempty, hdone] at h
        obtain rfl : data = first := by simpa [hempty] using congrArg head? h
        exact Bool.false_ne_true (hfirst.symm.trans hdone)
      obtain ⟨first, rest, rfl⟩ := exists_cons_of_ne_nil hne
      have hih := @ih (rest ++ [data]) (by simp)
        (forall_mem_append.mpr ⟨(forall_mem_cons.mp hsent).2, by simpa using hdone⟩)
      simp only [hdata, hempty, hdone, ne_eq, not_false_eq_true, and_self, if_true, if_false,
        toList_some, cons_append]
      intro h
      obtain ⟨-, hrest⟩ := cons.inj h
      exact hih (by simpa using hrest)
    have hnone : linePayload line = none := if_neg fun h => hdata h.1
    rw [hnone]
    by_cases hbare : hasPrefix line "[DONE]"
    · obtain ⟨data, hread, hnot⟩ := exists_readLine_of_bare hbare
      rw [hread]
      have hih := @ih (sent ++ [data]) (by simp)
        (forall_mem_append.mpr ⟨hsent, by simpa using hnot⟩)
      simpa using hih
    · rw [readLine_of_other hdata hbare]
      exact ih hne hsent

/-- **The scanner sends what the stream carries** exactly if its lines are clean. -/
theorem scanLines_eq_streamPayloads_iff (lines : List String) :
    scanLines lines = streamPayloads lines ↔ CleanLines lines := by
  induction lines with
  | nil => exact iff_of_true rfl trivial
  | cons line lines ih =>
    unfold scanLines streamPayloads CleanLines
    by_cases hdata : hasPrefix line "data:"
    · obtain ⟨hbare, htrim⟩ := not_hasPrefix_done_of_data hdata
      rw [readLine_of_data hdata]
      unfold isTerminator linePayload
      simp only [hdata, hbare, htrim]
      generalize trimSpace (dropBytes line 5) = data
      have hself : hasPrefix "[DONE]" "[DONE]" := by decide
      by_cases hterm : data = "[DONE]"
      · subst hterm
        simp [hself]
      by_cases hempty : data = ""
      · simp [hempty, ih, show hasPrefix "" "[DONE]" = false by decide]
      by_cases hdone : hasPrefix data "[DONE]"
      · simp [hterm, hempty, hdone]
      · simp [hterm, hempty, hdone, ih]
    have hnone : linePayload line = none := if_neg fun h => hdata h.1
    have hterm : isTerminator line = decide (trimSpace line = "[DONE]") := by
      simp [isTerminator, hdata]
    rw [hnone, hterm]
    by_cases hbare : hasPrefix line "[DONE]"
    · obtain ⟨data, hread, hnot⟩ := exists_readLine_of_bare hbare
      rw [hread]
      refine iff_of_false ?_ fun h => h.1 hbare
      split_ifs
      · simp
      · exact (@streamPayloads_ne_append [data] (by simp) (by simpa using hnot) lines).symm
    rw [readLine_of_other hdata hbare]
    by_cases htrim : trimSpace line = "[DONE]"
    · simp [htrim, hbare, hdata]
    · simp [htrim, hbare, hdata, ih]

/-! ### The goroutines -/

def callsFor (payloads : List String) : List HandlerCall :=
  payloads.flatMap fun data => [.begins data, .ends data]

def ScannerState.rest (lines : List String) : ScannerState → List String
  | .scan => scanLines lines
  | .check line => scanLines (line :: lines)
  | .send data => data :: scanLines lines
  | _ => []

def HandlerState.rest : HandlerState → List HandlerCall
  | .lock data => callsFor [data]
  | .call data => [.ends data]
  | _ => []

/-- The handler does not stop the stream, and there is no timeout, disconnect or read error. -/
def StreamEvent.Calm : StreamEvent → Prop
  | .readError | .handlerStops | .timeout | .clientGone | .pingClientGone => False
  | _ => True

namespace StreamState

variable {lines : List String} {s s' : StreamState}

/-- Nothing is stopped before the scanner has closed `dataChan`, so that no payload is dropped. -/
structure Inv (lines : List String) (s : StreamState) : Prop where
  delivers : s.calls ++ s.handler.rest ++ callsFor (s.dataChan ++ s.scanner.rest s.lines) =
    callsFor (scanLines lines)
  closed : s.dataClosed = true ↔ s.scanner = .stop ∨ s.scanner = .done
  stopped : s.stopClosed = true ∨ s.cancelled = true → s.dataClosed = true
  ended : s.scanner = .done ∨ s.caller ≠ .wait → s.stopClosed = true
  drained : s.handler = .stop ∨ s.handler = .done → s.dataClosed = true ∧ s.dataChan = []
  handlerLocks : s.writeMutex = some .handler ↔ ∃ data, s.handler = .call data
  pingLocks : s.writeMutex = some .ping ↔ s.ping = .ping
  joined : s.caller = .returned → s.scanner = .done ∧ s.handler = .done

theorem inv_start (lines : List String) (pingEnabled : Bool) :
    Inv lines (start lines pingEnabled) := by
  cases pingEnabled <;> constructor <;> simp [start, HandlerState.rest, ScannerState.rest]

/-- Reading a line costs more than the call of the handler for it. -/
def remaining (s : StreamState) : ℕ :=
  8 * s.lines.length + 4 * s.dataChan.length + (match s.scanner with
      | .scan => 3 | .check _ => 10 | .send _ => 9 | .close => 2 | .stop => 1 | .done => 0) +
    (match s.handler with
      | .receive => 2 | .lock _ => 5 | .call _ => 4 | .stop => 1 | .done => 0) +
    (match s.ping with
      | .wait => 1 | .lock => 3 | .ping => 2 | .done => 0) +
    (match s.caller with
      | .wait => 4 | .cancel => 3 | .stop => 2 | .join => 1 | .returned => 0)

theorem Inv.scannerStep (h : Inv lines s) (hs : s.scannerStep = some s') :
    Inv lines s' ∧ s'.remaining < s.remaining := by
  cases h
  unfold StreamState.scannerStep at hs
  cases hpc : s.scanner with
  | scan =>
    cases hlines : s.lines with
    | nil | cons =>
      simp only [hpc, hlines, Option.some.injEq] at hs
      subst hs
      refine ⟨by constructor <;> simp_all [ScannerState.rest, scanLines], ?_⟩
      simp only [remaining, hpc, hlines, length_cons, length_nil]
      omega
  | check line =>
    -- The scanner has not closed `dataChan` yet, so nothing is stopped.
    have hgo : ¬(s.stopClosed || s.cancelled) = true := by simp_all
    simp only [hpc, if_neg hgo] at hs
    cases hread : readLine line with
    | skip | send | done =>
      simp only [hread, Option.some.injEq] at hs
      subst hs
      refine ⟨by constructor <;> simp_all [ScannerState.rest, scanLines], ?_⟩
      simp only [remaining, hpc]
      omega
  | send =>
    simp only [hpc, ite_none_right_eq_some, Option.some.injEq] at hs
    obtain ⟨-, rfl⟩ := hs
    refine ⟨by constructor <;> simp_all [ScannerState.rest], ?_⟩
    simp only [remaining, hpc, length_append, length_singleton]
    omega
  | close | stop =>
    simp only [hpc, Option.some.injEq] at hs
    subst hs
    refine ⟨by constructor <;> simp_all [ScannerState.rest], ?_⟩
    simp only [remaining, hpc]
    omega
  | done => simp [hpc] at hs

theorem Inv.handlerStep (h : Inv lines s) (hs : s.handlerStep = some s') :
    Inv lines s' ∧ s'.remaining < s.remaining := by
  cases h
  unfold StreamState.handlerStep at hs
  cases hpc : s.handler with
  | receive =>
    cases hchan : s.dataChan with
    | nil =>
      simp only [hpc, hchan, ite_none_right_eq_some, Option.some.injEq] at hs
      obtain ⟨_, rfl⟩ := hs
      refine ⟨by constructor <;> simp_all [HandlerState.rest], ?_⟩
      simp only [remaining, hpc, hchan]
      omega
    | cons =>
      simp only [hpc, hchan, Option.some.injEq] at hs
      subst hs
      refine ⟨by constructor <;> simp_all [HandlerState.rest, callsFor], ?_⟩
      simp only [remaining, hpc, hchan, length_cons]
      omega
  | lock =>
    simp only [hpc, ite_none_right_eq_some, Option.some.injEq] at hs
    obtain ⟨_, rfl⟩ := hs
    refine ⟨by constructor <;> simp_all [HandlerState.rest, callsFor], ?_⟩
    simp only [remaining, hpc]
    omega
  | call data | stop =>
    simp only [hpc, Option.some.injEq] at hs
    subst hs
    refine ⟨by constructor <;> simp_all [HandlerState.rest], ?_⟩
    simp only [remaining, hpc]
    omega
  | done => simp [hpc] at hs

theorem Inv.callerStep (h : Inv lines s) (hs : s.callerStep = some s') :
    Inv lines s' ∧ s'.remaining < s.remaining := by
  cases h
  unfold StreamState.callerStep at hs
  cases hpc : s.caller with
  | wait | join =>
    simp only [hpc, ite_none_right_eq_some, Option.some.injEq] at hs
    obtain ⟨_, rfl⟩ := hs
    exact ⟨by constructor <;> simp_all, by simp [remaining, hpc]⟩
  | cancel | stop =>
    simp only [hpc, Option.some.injEq] at hs
    subst hs
    exact ⟨by constructor <;> simp_all, by simp [remaining, hpc]⟩
  | returned => simp [hpc] at hs

theorem Inv.pingStep (h : Inv lines s) (hs : s.pingStep = some s') : Inv lines s' := by
  cases h
  unfold StreamState.pingStep at hs
  cases hpc : s.ping with
  | wait | ping =>
    simp only [hpc, Option.some.injEq] at hs
    subst hs
    constructor <;> simp_all
  | lock =>
    simp only [hpc, ite_none_right_eq_some, Option.some.injEq] at hs
    obtain ⟨_, rfl⟩ := hs
    constructor <;> simp_all
  | done => simp [hpc] at hs

theorem Inv.pingDone (h : Inv lines s) (hs : s.ping ≠ .ping) :
    Inv lines { s with ping := .done } := by
  cases h
  constructor <;> simp_all

/-- **One step.**  Every calm step keeps the invariant. -/
theorem Inv.step {e : StreamEvent} (h : Inv lines s) (he : e.Calm) (hs : s.step e = some s') :
    Inv lines s' := by
  cases e with
  | scanner => exact (h.scannerStep hs).1
  | handler => exact (h.handlerStep hs).1
  | ping => exact h.pingStep hs
  | caller => exact (h.callerStep hs).1
  | sendStopped =>
    have hclosed := h.closed
    have hstopped := h.stopped
    simp only [StreamState.step] at hs
    split at hs
    · simp_all
    · cases hs
  | pingFails =>
    simp only [StreamState.step, ite_none_right_eq_some, Option.some.injEq] at hs
    obtain ⟨hpc, rfl⟩ := hs
    cases h
    constructor <;> simp_all
  | pingStopped =>
    simp only [StreamState.step, ite_none_right_eq_some, Option.some.injEq] at hs
    obtain ⟨⟨hpc, -⟩, rfl⟩ := hs
    exact h.pingDone (by simp [hpc])
  | pingExpires =>
    simp only [StreamState.step, ite_none_right_eq_some, Option.some.injEq] at hs
    obtain ⟨hpc, rfl⟩ := hs
    exact h.pingDone (by simp [hpc])
  | readError | handlerStops | timeout | clientGone | pingClientGone => exact he.elim

/-! ### Progress -/

theorem scannerStep_eq_none (h : s.scannerStep = none) :
    s.scanner = .done ∨ (∃ data, s.scanner = .send data) ∧ s.dataChan ≠ [] := by
  unfold scannerStep at h
  cases hpc : s.scanner with
  | scan => cases hlines : s.lines <;> simp [hpc, hlines] at h
  | check line => cases hread : readLine line <;> simp [hpc, hread] at h <;> split at h <;> cases h
  | send data =>
    refine .inr ⟨⟨data, rfl⟩, fun hnil => ?_⟩
    simp [hpc, hnil, dataChanCapacity] at h
  | close | stop => simp [hpc] at h
  | done => exact .inl rfl

theorem handlerStep_eq_none (h : s.handlerStep = none) :
    s.handler = .done ∨ s.handler = .receive ∧ s.dataChan = [] ∧ s.dataClosed = false ∨
      (∃ data, s.handler = .lock data) ∧ s.writeMutex ≠ none := by
  unfold handlerStep at h
  cases hpc : s.handler with
  | receive => cases hchan : s.dataChan <;> simp_all
  | lock => simp_all
  | call data | stop => simp [hpc] at h
  | done => exact .inl rfl

/-- **Progress.**  Until the function returns, some goroutine can go on, with less left to do. -/
theorem Inv.progress (h : Inv lines s) (hreturned : s.caller ≠ .returned) :
    ∃ e s', e.Calm ∧ s.step e = some s' ∧ s'.remaining < s.remaining := by
  cases hscanner : s.scannerStep with
  | some s' => exact ⟨.scanner, s', trivial, hscanner, (h.scannerStep hscanner).2⟩
  | none =>
  cases hhandler : s.handlerStep with
  | some s' => exact ⟨.handler, s', trivial, hhandler, (h.handlerStep hhandler).2⟩
  | none =>
  by_cases hping : s.ping = .ping
  · refine ⟨.ping, { s with writeMutex := none, ping := .wait }, trivial, ?_, ?_⟩
    · simp [StreamState.step, StreamState.pingStep, hping]
    · simp [remaining, hping]
  -- Nobody holds the mutex, since its holder could go on.
  have hfree : s.writeMutex = none := by
    rcases hmutex : s.writeMutex with _ | writer
    · rfl
    cases writer with
    | handler =>
      obtain ⟨data, hcall⟩ := h.handlerLocks.mp hmutex
      simp [StreamState.handlerStep, hcall] at hhandler
    | ping => exact absurd (h.pingLocks.mp hmutex) hping
  by_cases hlock : s.ping = .lock
  · refine ⟨.ping, { s with writeMutex := some .ping, ping := .ping }, trivial, ?_, ?_⟩
    · simp [StreamState.step, StreamState.pingStep, hlock, hfree]
    · simp [remaining, hlock]
  -- The scanner is done, for a handler that has left or waits has emptied `dataChan`.
  have hdone : s.scanner = .done ∧ s.handler = .done := by
    have hclosed := h.closed
    have hdrained := h.drained
    rcases scannerStep_eq_none hscanner with hs | ⟨⟨data, hs⟩, _⟩ <;>
      rcases handlerStep_eq_none hhandler with hh | ⟨hh, _, _⟩ | ⟨-, _⟩ <;> simp_all
  have hstop := h.ended (.inl hdone.1)
  by_cases hwait : s.ping = .wait
  · refine ⟨.pingStopped, { s with ping := .done }, trivial, ?_, ?_⟩
    · simp [StreamState.step, hwait, hstop]
    · simp [remaining, hwait]
  have hleft : s.ping = .done := by cases hpc : s.ping <;> simp_all
  have hcaller : s.callerStep ≠ none := by
    unfold StreamState.callerStep
    cases hpc : s.caller <;> simp_all
  obtain ⟨s', hs'⟩ := ne_none_iff_exists'.mp hcaller
  exact ⟨.caller, s', trivial, hs', (h.callerStep hs').2⟩

/-! ### Whole runs -/

/-- Payloads in order, once each and without overlap, all of them when the function returns, and
until then some goroutine is not blocked. -/
structure Exact (payloads : List String) (s : StreamState) : Prop where
  inOrder : s.calls <+: callsFor payloads
  complete : s.caller = .returned → s.calls = callsFor payloads
  unblocked : s.caller ≠ .returned → ∃ e, e.Calm ∧ (s.step e).isSome

theorem Inv.complete (h : Inv lines s) (hreturned : s.caller = .returned) :
    s.calls = callsFor (scanLines lines) := by
  obtain ⟨hscanner, hhandler⟩ := h.joined hreturned
  have hnil := (h.drained (.inr hhandler)).2
  simpa [hscanner, hhandler, hnil, ScannerState.rest, HandlerState.rest, callsFor] using h.delivers

/-- **Every interleaving** of calm steps. -/
theorem Inv.run {es : List StreamEvent} (h : Inv lines s) (hes : ∀ e ∈ es, e.Calm)
    (hrun : es.foldlM StreamState.step s = some s') : Inv lines s' :=
  foldlM_invariant (fun _ _ _ hs he hs' => hs.step he hs') h hes hrun

theorem Inv.exact (h : Inv lines s) : s.Exact (scanLines lines) := by
  refine ⟨?_, h.complete, fun hreturned => ?_⟩
  · rw [← h.delivers, append_assoc]
    exact prefix_append _ _
  · obtain ⟨e, s', he, hs', -⟩ := h.progress hreturned
    exact ⟨e, he, by simp [hs']⟩

theorem callsFor_injective : Function.Injective callsFor := by
  intro l₁ l₂ h
  induction l₁ generalizing l₂ with
  | nil => cases l₂ with
    | nil => rfl
    | cons => cases h
  | cons _ _ ih => cases l₂ with
    | nil => cases h
    | cons =>
      simp only [callsFor, flatMap_cons, cons_append, nil_append, cons.injEq,
        HandlerCall.begins.injEq] at h
      rw [h.1, ih h.2.2]

/-- **The scanner delivers exactly the stream**, in all calm interleavings, if and only if the lines
are clean. -/
theorem exact_iff_cleanLines (lines : List String) (pingEnabled : Bool) :
    (∀ (es : List StreamEvent) (s : StreamState), (∀ e ∈ es, e.Calm) →
      es.foldlM step (start lines pingEnabled) = some s → s.Exact (streamPayloads lines)) ↔
      CleanLines lines := by
  rw [← scanLines_eq_streamPayloads_iff]
  constructor
  · intro h
    -- Some run returns, and has delivered what is scanned.
    have hstep : ∀ s e s', Inv lines s → StreamEvent.Calm e → step s e = some s' → Inv lines s' :=
      fun _ _ _ hs he hs' => hs.step he hs'
    obtain ⟨es, s, hes, hrun, hreturned⟩ :=
      exists_foldlM_of_progress (fun s => s.caller = .returned) remaining
      hstep (fun _ hs => hs.progress) (inv_start lines pingEnabled)
    have hcalls := ((inv_start lines pingEnabled).run hes hrun).complete hreturned
    exact callsFor_injective (hcalls.symm.trans ((h es s hes hrun).complete hreturned))
  · intro heq es s hes hrun
    rw [← heq]
    exact ((inv_start lines pingEnabled).run hes hrun).exact

/-- A bare `[DONE]` is delivered as `]`. -/
theorem not_exact_bare_done : ¬∀ (es : List StreamEvent) (s : StreamState), (∀ e ∈ es, e.Calm) →
      es.foldlM step (start ["[DONE]"] false) = some s → s.Exact (streamPayloads ["[DONE]"]) := by
  intro h
  -- The scanner sends `]` and reads the end of the stream, then the handler gets it and the caller
  -- cleans up.
  let es : List StreamEvent := replicate 6 .scanner ++ replicate 5 .handler ++ replicate 4 .caller
  let s : StreamState :=
    { lines := [], ping := .done, scanner := .done, handler := .done, caller := .returned,
      dataClosed := true, stopClosed := true, cancelled := true, calls := [.begins "]", .ends "]"] }
  have hcalm : ∀ e ∈ es, e.Calm := by
    simp [es, StreamEvent.Calm]
  have hrun : es.foldlM step (start ["[DONE]"] false) = some s := by decide +kernel
  have hcalls := (h es s hcalm hrun).complete rfl
  exact absurd hcalls (by decide +kernel)

/-- **No deadlock**: a calm run can always go on until the function returns, with all that is
scanned delivered. -/
theorem returns_of_calm {lines : List String} {pingEnabled : Bool}
    {es : List StreamEvent} {s : StreamState}
    (hes : ∀ e ∈ es, e.Calm) (hrun : es.foldlM step (start lines pingEnabled) = some s) :
    ∃ (es' : List StreamEvent) (s' : StreamState), (∀ e ∈ es', e.Calm) ∧
      es'.foldlM step s = some s' ∧
      s'.caller = .returned ∧ s'.calls = callsFor (scanLines lines) := by
  have hinv := (inv_start lines pingEnabled).run hes hrun
  obtain ⟨es', s', hes', hrun', hreturned⟩ :=
    exists_foldlM_of_progress (fun s => s.caller = .returned) remaining
    (fun _ _ _ h (he : StreamEvent.Calm _) hs' => h.step he hs') (fun _ h => h.progress) hinv
  exact ⟨es', s', hes', hrun', hreturned, (hinv.run hes' hrun').complete hreturned⟩

theorem returns_after_ping : ∃ (es : List StreamEvent) (s : StreamState),
    (.ping :: es).foldlM step (start ["data: x"] true) = some s ∧
      s.calls = [.begins "x", .ends "x"] := by
  obtain ⟨es, s, -, hrun, -, hcalls⟩ := returns_of_calm (by simp [StreamEvent.Calm])
    (rfl : [StreamEvent.ping].foldlM step (start ["data: x"] true) = some _)
  exact ⟨es, s, hrun, hcalls.trans (by decide +kernel)⟩

end StreamState

end TokensFlux
