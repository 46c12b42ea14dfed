import TokensFlux.Lib.Guarded
import TokensFlux.Subscription.Equiv.Basic

/-!
# Refunding a pre-consumed subscription under faults

A call whose save or commit fails after the amount was returned leaves the record `consumed`: the
next returns it again.
-/

namespace TokensFlux

/-- What the calls have subtracted so far, and whether one of them has returned nil. -/
structure RefundRun where
  store : Store
  subtracted : ℤ
  succeeded : Bool

/-- A single call, `refundWithRetry`, or other requests moving the used amount to `amountUsed`. -/
inductive RefundEvent
  | call (f : RefundFaults)
  | retry (f : ℕ → RefundFaults)
  | others (amountUsed : ℕ)

namespace RefundRun

variable (requestId : String) (id : ℤ)

variable (r : RefundRun)

def call (f : RefundFaults) : RefundRun × Option Err :=
  let (store, err) := r.store.refundSubscriptionPreConsume f requestId
  (⟨store, r.subtracted + (r.store.amountUsed id - store.amountUsed id),
    r.succeeded || err.isNone⟩, err)

def others (amountUsed : ℕ) : RefundRun :=
  match r.store.subs.lookup id with
  | none => r
  | some sub =>
    { r with
      store := { r.store with subs := r.store.subs.insert id { sub with amountUsed } } }

def step : RefundEvent → RefundRun
  | .call f => (r.call requestId id f).1
  | .retry f => (refundWithRetry (fun i r => r.call requestId id (f i)) r).1
  | .others amountUsed => r.others id amountUsed

end RefundRun

/-- Exactly once when a call has returned nil. -/
def RefundedOnce (a : ℤ) (r : RefundRun) : Prop :=
  r.subtracted ≤ a ∧ (r.succeeded = true → r.subtracted = a)

def RefundFaults.ReturnsAmount (f : RefundFaults) : Prop :=
  f.start = none ∧ f.select = none ∧ f.inner.start = none ∧ f.inner.select = none ∧
    f.inner.save = none ∧ f.inner.commit = none

instance (f : RefundFaults) : Decidable f.ReturnsAmount := by
  unfold RefundFaults.ReturnsAmount
  infer_instance

/-- Once the amount is returned, saving and committing the record do not fail. -/
def RefundFaults.KeepsRecord (f : RefundFaults) : Prop :=
  f.ReturnsAmount → f.save = none ∧ f.commit = none

instance (f : RefundFaults) : Decidable f.KeepsRecord := by
  unfold RefundFaults.KeepsRecord
  infer_instance

def RefundEvent.KeepsRecord : RefundEvent → Prop
  | .call f => f.KeepsRecord
  | .retry f => ∀ i < 3, (f i).KeepsRecord
  | .others _ => True

instance : DecidablePred RefundEvent.KeepsRecord
  | .call f => inferInstanceAs (Decidable f.KeepsRecord)
  | .retry f => inferInstanceAs (Decidable (∀ i < 3, (f i).KeepsRecord))
  | .others _ => .isTrue trivial

/-- Other requests leave at least `a` used. -/
def RefundEvent.LeavesUsed (a : ℤ) : RefundEvent → Prop
  | .others amountUsed => a ≤ amountUsed
  | _ => True

instance (a : ℤ) : DecidablePred (RefundEvent.LeavesUsed a)
  | .call _ | .retry _ => .isTrue trivial
  | .others amountUsed => inferInstanceAs (Decidable (a ≤ amountUsed))

/-! ### One call -/

namespace RefundRun

variable {requestId : String} {id a : ℤ} {r : RefundRun}

/-- Not refunded yet, or refunded once. -/
def Inv (requestId : String) (id a : ℤ) (r : RefundRun) : Prop :=
  (∃ record, r.store.records.lookup requestId = some record ∧ record.status = .consumed ∧
      record.userSubscriptionId = id ∧ record.preConsumed = a ∧
      r.subtracted = 0 ∧ r.succeeded = false ∧ a ≤ r.store.amountUsed id) ∨
    (∃ record, r.store.records.lookup requestId = some record ∧
      record.status = .refunded ∧ r.subtracted = a)

theorem Inv.refundedOnce (ha : 0 < a) (h : Inv requestId id a r) : RefundedOnce a r := by
  rcases h with ⟨record, -, -, -, -, hsub, hsucc, -⟩ | ⟨record, -, -, hsub⟩
  · refine ⟨by omega, fun hs => ?_⟩
    rw [hsucc] at hs
    cases hs
  · exact ⟨hsub.le, fun _ => hsub⟩

theorem postConsume_ok_faults {s s' : Store} {f : TxFaults} {id delta : ℤ} (hd : delta ≠ 0)
    (h : s.postConsumeUserSubscriptionDelta f id delta = .ok s') :
    f.start = none ∧ f.select = none ∧ f.save = none ∧ f.commit = none := by
  unfold Store.postConsumeUserSubscriptionDelta at h
  split_ifs at h with hid
  split at h
  · cases h
  · cases h
  · cases h
  rename_i hstart hselect hsub
  dsimp only at h
  split_ifs at h
  all_goals
    obtain ⟨hcommit, h⟩ := Store.commitTx_ok h
    obtain ⟨hsave, -⟩ := Store.saveSub_ok h
    exact ⟨hstart, hselect, hsave, hcommit⟩

theorem markRefunded_of_none {s : Store} {f : RefundFaults} {record : SubscriptionPreConsumeRecord}
    (hsave : f.save = none) (hcommit : f.commit = none) : s.markRefunded f requestId record =
      ({ s with records := s.records.insert requestId { record with status := .refunded } },
        none) := by
  rw [Store.markRefunded, hsave, hcommit]

theorem Inv.call (ha : 0 < a) (h : Inv requestId id a r) {f : RefundFaults}
    (hf : f.KeepsRecord) : Inv requestId id a (r.call requestId id f).1 := by
  unfold RefundRun.call Store.refundSubscriptionPreConsume
  -- A call that fails before it touches the tables leaves the run as it is.
  have hsame : ∀ e : Err, Inv requestId id a ⟨r.store,
      r.subtracted + (r.store.amountUsed id - r.store.amountUsed id),
        r.succeeded || (some e).isNone⟩ := by
    intro e
    simpa using h
  split_ifs with hblank
  · exact hsame _
  cases hstart : f.start with
  | some e => exact hsame e
  | none =>
  cases hselect : f.select with
  | some e => exact hsame e
  | none =>
  rcases h with ⟨record, hrec, hstatus, hid, _, hsub, _, hused⟩ | ⟨record, hrec, hstatus, hsub⟩
  · simp only [hrec, hstatus, reduceCtorEq, if_false,
      if_neg (show ¬record.preConsumed ≤ 0 by omega)]
    cases hpost : r.store.postConsumeUserSubscriptionDelta f.inner record.userSubscriptionId
        (-record.preConsumed) with
    | error e => exact hsame e
    | ok s =>
      have hd : -record.preConsumed ≠ 0 := by omega
      obtain ⟨h1, h2, h3, h4⟩ := postConsume_ok_faults hd hpost
      obtain ⟨hsave, hcommit⟩ := hf ⟨hstart, hselect, h1, h2, h3, h4⟩
      obtain ⟨_, hlookup, -, -, rfl⟩ := Store.postConsumeUserSubscriptionDelta_ok hd hpost
      rw [hid] at hlookup
      rw [Store.amountUsed_of_lookup hlookup] at hused
      simp only [markRefunded_of_none hsave hcommit]
      refine .inr ⟨_, AList.lookup_insert _, rfl, ?_⟩
      -- The used amount was at least `a`, so the cut at zero took nothing off the refund.
      simp only [Store.amountUsed, hid, hlookup, AList.lookup_insert]
      omega
  · simp only [hrec, hstatus, if_true]
    exact .inr ⟨record, hrec, hstatus, by simpa using hsub⟩

/-! ### Whole runs -/

theorem Inv.retryLoop (ha : 0 < a) {f : ℕ → RefundFaults} {lastErr : Option Err} :
    ∀ (n i : ℕ) (r : RefundRun), Inv requestId id a r →
      (∀ j, i ≤ j → j < i + n → (f j).KeepsRecord) →
      Inv requestId id a (TokensFlux.retryLoop (fun i r =>
        r.call requestId id (f i)) lastErr n i r).1 := by
  intro n
  induction n generalizing lastErr with
  | zero => exact fun i r h _ => h
  | succ _ ih =>
    intro i r h hf
    have hcall := h.call ha (hf i le_rfl (by omega))
    rw [TokensFlux.retryLoop]
    cases hres : r.call requestId id (f i) with
    | mk r' err =>
      rw [hres] at hcall
      cases err with
      | none => exact hcall
      | some => exact ih (i + 1) r' hcall fun j hj hj' => hf j (by omega) (by omega)

theorem Inv.others (h : Inv requestId id a r) {amountUsed : ℕ} (hu : a ≤ amountUsed) :
    Inv requestId id a (r.others id amountUsed) := by
  unfold RefundRun.others
  split
  · exact h
  rcases h with ⟨record, hrec, hstatus, hid, hpre, hsub, hsucc, -⟩ | ⟨record, hrec, hstatus, hsub⟩
  · refine .inl ⟨record, hrec, hstatus, hid, hpre, hsub, hsucc, ?_⟩
    simpa [Store.amountUsed] using hu
  · exact .inr ⟨record, hrec, hstatus, hsub⟩

/-- **One call of the run.** -/
theorem Inv.step (ha : 0 < a) (h : Inv requestId id a r) {e : RefundEvent}
    (hkeep : e.KeepsRecord) (hused : e.LeavesUsed a) :
    Inv requestId id a (r.step requestId id e) := by
  cases e with
  | call => exact h.call ha hkeep
  | retry => exact Inv.retryLoop ha 3 0 r h fun j _ hj => hkeep j (by omega)
  | others => exact h.others hused

end RefundRun

/-- **The refund of a consumed record is exactly once** in every run of calls, retries and other
requests in which no call loses its record after returning the amount. -/
theorem refundRun_refundedOnce {s : Store} {requestId : String} {userId id a : ℤ}
    (hrec : s.records.lookup requestId = some ⟨userId, id, a, .consumed⟩) (ha : 0 < a)
    (hused : a ≤ s.amountUsed id) {es : List RefundEvent}
    (hothers : ∀ e ∈ es, e.LeavesUsed a) (hkeep : ∀ e ∈ es, e.KeepsRecord) :
    RefundedOnce a (es.foldl (RefundRun.step requestId id) ⟨s, 0, false⟩) := by
  have h0 : RefundRun.Inv requestId id a ⟨s, 0, false⟩ :=
    Or.inl ⟨_, hrec, rfl, rfl, rfl, rfl, rfl, hused⟩
  have hrun : RefundRun.Inv requestId id a (es.foldl (RefundRun.step requestId id) ⟨s, 0, false⟩) :=
    List.foldlRecOn es _ h0 fun r hr e he => hr.step ha (hkeep e he) (hothers e he)
  exact hrun.refundedOnce ha

def consumedStore : Store :=
  { Store.empty with
    subs := AList.singleton 3
      { userId := 1, planId := 2, amountTotal := 100, amountUsed := 20, startTime := 0,
        endTime := 1000, status := .active, lastResetTime := 0, nextResetTime := 0,
        allowWalletOverflow := false }
    records := AList.singleton "r" ⟨1, 3, 5, .consumed⟩ }

theorem refundRun_refundedOnce_of_retries :
    RefundedOnce 5 ([.retry fun i => if i = 2 then {} else { inner := { commit := some "lost" } },
      .others 30, .call { select := some "timeout" }, .call {}].foldl
        (RefundRun.step "r" 3) ⟨consumedStore, 0, false⟩) := by
  have hrec : consumedStore.records.lookup "r" = some ⟨1, 3, 5, .consumed⟩ := rfl
  exact refundRun_refundedOnce hrec (by decide) (by decide) (by decide) (by decide)

/-! ### The lost record -/

theorem Store.refundSubscriptionPreConsume_of_returnsAmount {s : Store} {f : RefundFaults}
    {requestId : String} {userId id a : ℤ} {sub : UserSubscription}
    (hblank : trimSpace requestId ≠ "")
    (hrec : s.records.lookup requestId = some ⟨userId, id, a, .consumed⟩) (ha : 0 < a)
    (hid : 0 < id) (hsub : s.subs.lookup id = some sub)
    (htotal : sub.amountTotal ≤ 0 ∨ sub.amountUsed ≤ sub.amountTotal) (hf : f.ReturnsAmount) :
    s.refundSubscriptionPreConsume f requestId =
      ({ s with subs := s.subs.insert id { sub with amountUsed := (sub.amountUsed - a).toNat } } :
        Store).markRefunded f requestId ⟨userId, id, a, .consumed⟩ := by
  obtain ⟨hstart, hselect, h1, h2, h3, h4⟩ := hf
  have hinner : f.inner = {} := by
    cases hi : f.inner
    simp_all
  obtain ⟨s', hs'⟩ := Store.postConsumeUserSubscriptionDelta_isOk hid hsub
    (show sub.amountTotal ≤ 0 ∨ sub.amountUsed + -a ≤ sub.amountTotal by omega)
  obtain ⟨sub', hsub', -, -, rfl⟩ :=
    Store.postConsumeUserSubscriptionDelta_ok (by omega : -a ≠ 0) hs'
  obtain rfl : sub = sub' := Option.some.inj (hsub.symm.trans hsub')
  rw [Store.refundSubscriptionPreConsume, if_neg hblank]
  simp only [hstart, hselect, hrec, reduceCtorEq, if_false, if_neg (not_le.mpr ha), hinner, hs']
  rfl

/-- The commit that should mark the record is lost, `refundWithRetry` calls again, and 10 are
returned for a request that had consumed 5. -/
theorem refund_subtracts_twice :
    ¬RefundedOnce 5 ([.retry fun i => if i = 0 then { commit := some "lost" } else {}].foldl
      (RefundRun.step "r" 3) ⟨consumedStore, 0, false⟩) := by
  intro h
  exact absurd h.1 (by decide)

end TokensFlux
