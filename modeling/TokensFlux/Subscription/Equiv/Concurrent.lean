import TokensFlux.Lib.Guarded
import TokensFlux.Lib.Table
import TokensFlux.Subscription.Concurrent
import TokensFlux.Subscription.Equiv.Schedule

/-!
# One request, many calls

The unique index lets one transaction insert the record of a request, and only that one adds to the
used amount.  `Effect` is all that a step may do; `Inv` and `UsedInv` follow from it alone.
-/

namespace TokensFlux

open List Option UserSubscription

open TxSystem

def UserSubscription.usedBy (userId : ℤ) (sub : UserSubscription) : ℕ :=
  if sub.userId = userId then sub.amountUsed else 0

def Store.userUsed (s : Store) (userId : ℤ) : ℕ := tableSum (usedBy userId) s.subs

/-! ### What a call holds -/

/-- `row` was made from row `id` of the tables, with at most `n` more used. -/
def NearRow (t : Store) (userId id : ℤ) (row : UserSubscription) (n : ℕ) : Prop :=
  ∃ old, t.subs.lookup id = some old ∧ old.userId = userId ∧ row.userId = userId ∧
    row.amountUsed ≤ old.amountUsed + n

section

variable {t : Store} {userId id : ℤ} {row row' : UserSubscription}

theorem NearRow.mono {n m : ℕ} (h : NearRow t userId id row n) (hnm : n ≤ m) :
    NearRow t userId id row m := by
  obtain ⟨old, hold, huser, hrow, _⟩ := h
  exact ⟨old, hold, huser, hrow, by omega⟩

theorem NearRow.dueReset {cal : Calendar} {now : ℤ} {plan : SubscriptionPlan}
    (h : NearRow t userId id row 0) (hreset : dueReset cal row plan now = some row') :
    NearRow t userId id row' 0 := by
  obtain ⟨old, hold, huser, hrow, hused⟩ := h
  rcases dueReset_cases hreset with ⟨-, -, ⟨next, last, rfl⟩, -⟩ | ⟨-, ⟨next, last, rfl⟩, -⟩
  · exact ⟨old, hold, huser, hrow, hused⟩
  · exact ⟨old, hold, huser, hrow, Nat.zero_le _⟩

theorem NearRow.charged {amount : ℤ} (h : NearRow t userId id row 0) (hamount : 0 < amount) :
    NearRow t userId id { row with amountUsed := (row.amountUsed + amount).toNat }
      amount.toNat := by
  obtain ⟨old, hold, huser, hrow, _⟩ := h
  exact ⟨old, hold, huser, hrow, by dsimp only; omega⟩

end

def PreConsumePhase.rows : PreConsumePhase → List (ℤ × UserSubscription)
  | scanning candidates => candidates
  | creating id sub | duplicate id sub | saving id sub | repeated id sub _ => [(id, sub)]
  | checking | answering _ | locking | answered _ => []

def PreConsumePhase.result : PreConsumePhase → Option SubscriptionPreConsumeResult
  | answered result => some result
  | repeated id sub dup => some (repeatedResult id sub dup)
  | _ => none

def PreConsumePhase.CandidateRecorded : PreConsumePhase → Prop
  | repeated id _ dup => dup.userSubscriptionId = id
  | _ => True

instance : ∀ phase : PreConsumePhase, Decidable phase.CandidateRecorded
  | .repeated .. => Int.instDecidableEq _ _
  | .checking | .answering _ | .locking | .scanning _ | .creating .. | .duplicate .. | .saving .. |
    .answered _ => .isTrue trivial

variable {id : ℤ}

namespace PreConsumeCall

def Needs (c : PreConsumeCall) : PreConsumeRow → Prop
  | .sub id => ∃ r ∈ c.phase.rows ++ c.rows, r.1 = id
  | .record requestId => c.record.isSome ∧ requestId = c.requestId

def chargeOn (c : PreConsumeCall) (id : ℤ) : ℕ :=
  c.record.elim 0 fun record => if record.userSubscriptionId = id then c.amount.toNat else 0

def Knows (c : PreConsumeCall) (t : Store) : PreConsumePhase → Prop
  | .answering existing => t.records.lookup c.requestId = some existing ∧ c.record = none
  | .saving id _ => c.record = some ⟨c.userId, id, c.amount, .consumed⟩
  | .answered result => ∃ record, c.record.or (t.records.lookup c.requestId) = some record ∧
      result.userSubscriptionId = record.userSubscriptionId ∧ result.preConsumed =
        record.preConsumed
  | .repeated _ _ dup => t.records.lookup c.requestId = some dup ∧ c.record = none
  | .checking | .locking | .scanning _ | .creating _ _ | .duplicate _ _ => c.record = none

/-- What a call has read stands in the tables, but for resets. -/
structure Sound (t : Store) (c : PreConsumeCall) : Prop where
  rows : ∀ r ∈ c.rows, NearRow t c.userId r.1 r.2 (c.chargeOn r.1)
  candidates : ∀ r ∈ c.phase.rows, NearRow t c.userId r.1 r.2 0
  record : ∀ record, c.record = some record → record.preConsumed = c.amount ∧
    t.records.lookup c.requestId = none
  named : ∀ record, c.record = some record → c.Needs (.sub record.userSubscriptionId)
  knows : c.Knows t c.phase

variable {c : PreConsumeCall} {t t' : Store}

theorem chargeOn_of_none (h : c.record = none) (id : ℤ) : c.chargeOn id = 0 := by
  rw [chargeOn, h, elim_none]

theorem Sound.frame (h : c.Sound t)
    (hsubs : ∀ id, c.Needs (.sub id) → t'.subs.lookup id = t.subs.lookup id)
    (hrecords : ∀ requestId record, t.records.lookup requestId = some record →
      t'.records.lookup requestId = some record)
    (hrecord : c.record.isSome → t'.records.lookup c.requestId = t.records.lookup c.requestId) :
    c.Sound t' := by
  have hnear (r : ℤ × UserSubscription) (hr : r ∈ c.phase.rows ++ c.rows) (n : ℕ)
      (hrow : NearRow t c.userId r.1 r.2 n) : NearRow t' c.userId r.1 r.2 n := by
    obtain ⟨old, hold, hrow⟩ := hrow
    exact ⟨old, (hsubs r.1 ⟨r, hr, rfl⟩).trans hold, hrow⟩
  refine ⟨?_, ?_, ?_, h.named, ?_⟩
  · intro r hr
    exact hnear r (mem_append_right _ hr) _ (h.rows r hr)
  · intro r hr
    exact hnear r (mem_append_left _ hr) _ (h.candidates r hr)
  · intro record hsome
    obtain ⟨hamount, hnone⟩ := h.record record hsome
    exact ⟨hamount, (hrecord (by rw [hsome]; rfl)).trans hnone⟩
  have hknows := h.knows
  generalize c.phase = phase at hknows ⊢
  cases phase with
  | answering | repeated => exact ⟨hrecords _ _ hknows.1, hknows.2⟩
  | answered =>
    obtain ⟨record, hfound, hreports⟩ := hknows
    refine ⟨record, ?_, hreports⟩
    cases hown : c.record with
    | some =>
      rw [hown] at hfound
      exact hfound
    | none =>
      rw [hown, none_or] at hfound
      exact hrecords _ _ hfound
  | checking | locking | scanning | creating | duplicate | saving => exact hknows

theorem Sound.toPhase (h : c.Sound t) {phase : PreConsumePhase} (hrecord : c.record = none)
    (hrows : ∀ r ∈ phase.rows, NearRow t c.userId r.1 r.2 0) (hknows : c.Knows t phase) :
    Sound t { c with phase } := by
  refine ⟨h.rows, hrows, h.record, ?_, by cases phase <;> exact hknows⟩
  intro record hsome
  exact absurd (hsome.symm.trans hrecord) (some_ne_none record)

theorem Needs.of_phase {phase : PreConsumePhase} {k : PreConsumeRow}
    (hrows : ∀ r ∈ phase.rows, r ∈ c.phase.rows) (h : Needs { c with phase } k) : c.Needs k := by
  cases k with
  | sub =>
    obtain ⟨r, hr, hid⟩ := h
    refine ⟨r, ?_, hid⟩
    rcases mem_append.mp hr with hr | hr
    · exact mem_append_left _ (hrows r hr)
    · exact mem_append_right _ hr
  | record => exact h

/-! ### What a commit writes -/

theorem lookup_commitTo_of_not_needs (h : ¬c.Needs (.sub id)) :
    (c.commitTo t).subs.lookup id = t.subs.lookup id := by
  rcases lookup_foldl_insert c.rows t.subs id with ⟨hsame, -⟩ | ⟨r, hr, hid, -⟩
  · exact hsame
  · exact absurd ⟨r, mem_append_right _ hr, hid⟩ h

theorem records_commitTo_of_not_needs {requestId : String} (h : ¬c.Needs (.record requestId)) :
    (c.commitTo t).records.lookup requestId = t.records.lookup requestId := by
  unfold commitTo
  rcases hrecord : c.record with _ | _
  · rfl
  have hne : requestId ≠ c.requestId := by
    intro heq
    exact h ⟨by rw [hrecord]; rfl, heq⟩
  exact AList.lookup_insert_ne hne

theorem Sound.records_commitTo (h : c.Sound t) {requestId : String}
    {record : SubscriptionPreConsumeRecord} (hrecord : t.records.lookup requestId = some record) :
    (c.commitTo t).records.lookup requestId = some record := by
  rw [records_commitTo_of_not_needs]
  · exact hrecord
  rintro ⟨hsome, rfl⟩
  obtain ⟨own, hown⟩ := isSome_iff_exists.mp hsome
  rw [(h.record own hown).2] at hrecord
  cases hrecord

theorem lookup_records_commitTo_self :
    (c.commitTo t).records.lookup c.requestId = c.record.or (t.records.lookup c.requestId) := by
  unfold commitTo
  cases c.record with
  | none => rfl
  | some => exact AList.lookup_insert _

/-- **The charge.**  A commit adds what its record says. -/
theorem Sound.userUsed_commitTo (h : c.Sound t) (userId : ℤ) : (c.commitTo t).userUsed userId
      ≤ t.userUsed userId + c.record.elim 0 fun record => record.preConsumed.toNat := by
  have hrow (id : ℤ) : (c.commitTo t).subs.lookup id = t.subs.lookup id ∨
      ∃ row, (c.commitTo t).subs.lookup id = some row ∧
        NearRow t c.userId id row (c.chargeOn id) := by
    rcases lookup_foldl_insert c.rows t.subs id with ⟨hsame, -⟩ | ⟨r, hr, rfl, hrow⟩
    · exact .inl hsame
    · exact .inr ⟨r.2, hrow, h.rows r hr⟩
  have hweight (id : ℤ) : rowWeight (usedBy userId) (c.commitTo t).subs id
        ≤ rowWeight (usedBy userId) t.subs id + c.chargeOn id := by
    unfold rowWeight usedBy
    rcases hrow id with hsame | ⟨row, hnew, old, hold, huser, hrow, _⟩
    · rw [hsame]
      exact Nat.le_add_right _ _
    · rw [hnew, hold, elim_some, elim_some, huser, hrow]
      split_ifs <;> omega
  have hkeys (id : ℤ) (hsome : ((c.commitTo t).subs.lookup id).isSome) :
      (t.subs.lookup id).isSome := by
    rcases hrow id with hsame | ⟨row, -, old, hold, -⟩
    · rw [← hsame]
      exact hsome
    · rw [hold]
      rfl
  cases hrecord : c.record with
  | none =>
    rw [elim_none]
    refine tableSum_le_add (a := 0) hkeys ?_
    intro id
    rw [ite_self]
    exact (hweight id).trans_eq (by rw [chargeOn_of_none hrecord])
  | some record =>
    rw [elim_some]
    refine tableSum_le_add (a := record.userSubscriptionId) hkeys ?_
    intro id
    refine (hweight id).trans_eq ?_
    rw [chargeOn, hrecord, elim_some, (h.record record hrecord).1]
    simp only [eq_comm]

end PreConsumeCall

def PreConsumeEvent.process {P : Type} : PreConsumeEvent P → P
  | start p .. | next p _ => p

def PreConsumeEvent.IsFor {P : Type} (requestId : String) : PreConsumeEvent P → Prop
  | start _ r .. => r = requestId
  | next .. => True

def newlyRecorded (t₀ t : Store) (requestId : String) : ℕ :=
  if (t₀.records.lookup requestId).isSome then 0
  else (t.records.lookup requestId).elim 0 fun record => record.preConsumed.toNat

namespace PreConsumeSystem

variable {P : Type} [DecidableEq P] {cal : Calendar} {s s' : PreConsumeSystem P} {p : P}
  {c : PreConsumeCall} {e : PreConsumeEvent P}

/-! ### What a statement does -/

def Continues (s : PreConsumeSystem P) (c : PreConsumeCall) : PreConsumeEvent P → Prop
  | .start _ requestId userId .. => c.requestId = requestId ∧ c.userId = userId
  | .next p _ => ∃ c₀, s.calls p = some c₀ ∧ c.requestId = c₀.requestId ∧ c.userId = c₀.userId

inductive Effect (s : PreConsumeSystem P) (e : PreConsumeEvent P) : PreConsumeSystem P → Prop
  | stay : Effect s e s
  | failed : Effect s e (s.rollback e.process)
  | advanced (s₁ : PreConsumeSystem P) (c : PreConsumeCall) (hlocks : Locks e.process s s₁)
      (request : Continues s c e) (sound : c.Sound s.store.tables)
      (held : ∀ k, c.Needs k → s₁.locks k = some e.process) :
      Effect s e (s₁.advance e.process c)
  | committed (p : P) (f : PreConsumeFaults) (c : PreConsumeCall)
      (result : SubscriptionPreConsumeResult) (he : e = .next p f) (hfault : f.commit = none)
      (hcall : s.calls p = some c) (hresult : c.phase.result = some result) :
      Effect s e (s.commit p ⟨c.commitTo s.store.tables, ⟨c.requestId, result⟩ :: s.store.answers⟩)

structure Inv (s : PreConsumeSystem P) : Prop where
  owned : Owned PreConsumeCall.Needs s
  sound : EachCall (PreConsumeCall.Sound s.store.tables) s

variable {f : PreConsumeFaults} {result : SubscriptionPreConsumeResult} {sub : UserSubscription}

theorem effect_finish (hcall : s.calls p = some c) (hresult : c.phase.result = some result) :
    Effect s (.next p f) (finish s p c f.commit result) := by
  unfold finish
  split
  · exact .failed
  · rename_i hfault
    exact .committed p f c result rfl hfault hcall hresult

theorem effect_advance {c' : PreConsumeCall} (h : Inv s) (hcall : s.calls p = some c)
    (hrequest : c'.requestId = c.requestId ∧ c'.userId = c.userId)
    (hsound : c'.Sound s.store.tables)
    (hneeds : ∀ k, c'.Needs k → c.Needs k) : Effect s (.next p f) (s.advance p c') :=
  .advanced s c' (.refl p s) ⟨c, hcall, hrequest⟩ hsound
    fun k hk => h.owned p c k hcall (hneeds k hk)

theorem effect_consider (h : Inv s) (hcall : s.calls p = some c) {candidate : UserSubscription}
    {rest rows : List (ℤ × UserSubscription)}
    (hphase : c.phase = .scanning ((id, candidate) :: rest))
    (hsub : NearRow s.store.tables c.userId id sub 0)
    (hrows : ∀ r ∈ rows, r ∈ c.rows ∨ r = (id, sub)) :
    Effect s (.next p f) (consider s p c id sub rest rows) := by
  have hc := h.sound p c hcall
  have hrecord : c.record = none := by
    have hknows := hc.knows
    rw [hphase] at hknows
    exact hknows
  have hnear (r : ℤ × UserSubscription) (hr : r ∈ rows) :
      NearRow s.store.tables c.userId r.1 r.2 (c.chargeOn r.1) := by
    rcases hrows r hr with hr | rfl
    · exact hc.rows r hr
    · exact hsub.mono (Nat.zero_le _)
  have hcandidates (r : ℤ × UserSubscription) (hr : r ∈ (id, candidate) :: rest) :
      NearRow s.store.tables c.userId r.1 r.2 0 := by
    refine hc.candidates r ?_
    rw [hphase]
    exact hr
  have hneeds (phase : PreConsumePhase)
      (hids : ∀ r ∈ phase.rows, ∃ r' ∈ (id, candidate) :: rest, r'.1 = r.1) (k : PreConsumeRow)
      (hk : PreConsumeCall.Needs { c with phase, rows } k) : c.Needs k := by
    cases k with
    | record => exact hk
    | sub =>
      obtain ⟨r, hr, rfl⟩ := hk
      have hread (r' : ℤ × UserSubscription) (hr' : r' ∈ (id, candidate) :: rest) :
          c.Needs (.sub r'.1) := by
        refine ⟨r', mem_append_left _ ?_, rfl⟩
        rw [hphase]
        exact hr'
      rcases mem_append.mp hr with hr | hr
      · obtain ⟨r', hr', hid⟩ := hids r hr
        rw [← hid]
        exact hread r' hr'
      · rcases hrows r hr with hr | rfl
        · exact ⟨r, mem_append_right _ hr, rfl⟩
        · exact hread (id, candidate) mem_cons_self
  have hnamed (phase : PreConsumePhase) (record : SubscriptionPreConsumeRecord)
      (hsome : c.record = some record) :
      PreConsumeCall.Needs { c with phase, rows } (.sub record.userSubscriptionId) :=
    absurd (hsome.symm.trans hrecord) (some_ne_none record)
  unfold consider
  split_ifs
  · refine effect_advance h hcall ⟨rfl, rfl⟩ ⟨hnear, ?_, hc.record, hnamed _, hrecord⟩ (hneeds _ ?_)
    · intro r hr
      exact hcandidates r (mem_cons_of_mem _ hr)
    · intro r hr
      exact ⟨r, mem_cons_of_mem _ hr, rfl⟩
  refine effect_advance h hcall ⟨rfl, rfl⟩ ⟨hnear, ?_, hc.record, hnamed _, hrecord⟩ (hneeds _ ?_)
  · intro r hr
    obtain rfl := mem_singleton.mp hr
    exact hsub
  · intro r hr
    obtain rfl := mem_singleton.mp hr
    exact ⟨(id, candidate), mem_cons_self, rfl⟩

theorem effect_scan (h : Inv s) (hcall : s.calls p = some c) {candidate : UserSubscription}
    {rest : List (ℤ × UserSubscription)} (hphase : c.phase = .scanning ((id, candidate) :: rest)) :
    Effect s (.next p f) (scan cal s p c f id candidate rest) := by
  have hcandidate : NearRow s.store.tables c.userId id candidate 0 := by
    refine (h.sound p c hcall).candidates (id, candidate) ?_
    rw [hphase]
    exact mem_cons_self
  unfold scan
  split
  · exact .failed
  split
  · exact effect_consider h hcall hphase hcandidate fun r hr => Or.inl hr
  · exact .failed
  rename_i sub hreset _
  refine effect_consider h hcall hphase (hcandidate.dueReset hreset) ?_
  intro r hr
  rcases mem_append.mp hr with hr | hr
  · exact .inl hr
  · exact .inr (mem_singleton.mp hr)

theorem effect_lock (h : Inv s) (hcall : s.calls p = some c) {subs : List (ℤ × UserSubscription)}
    (hrecord : c.record = none)
    (hsubs : ∀ r ∈ subs, s.store.tables.subs.lookup r.1 = some r.2 ∧ r.2.userId = c.userId)
    (hfree : ∀ r ∈ subs, s.waits p (.sub r.1) = false) :
    Effect s (.next p f) ((s.acquireAll p (subs.map fun r => .sub r.1)).advance p
      { c with phase := .scanning subs }) := by
  have hlocks : Locks p s (s.acquireAll p (subs.map fun r => .sub r.1)) :=
    ⟨_, forall_mem_map.mpr hfree, rfl⟩
  refine .advanced _ _ hlocks ⟨c, hcall, rfl,
    rfl⟩ ((h.sound p c hcall).toPhase hrecord ?_ hrecord) ?_
  · intro r hr
    obtain ⟨hlookup, huser⟩ := hsubs r hr
    exact ⟨r.2, hlookup, huser, huser, le_rfl⟩
  intro k hk
  cases k with
  | record => exact hlocks.locks_self (h.owned p c _ hcall hk)
  | sub =>
    obtain ⟨r, hr, rfl⟩ := hk
    rcases mem_append.mp hr with hr | hr
    · exact locks_acquireAll (mem_map.mpr ⟨r, hr, rfl⟩)
    · exact hlocks.locks_self (h.owned p c _ hcall ⟨r, mem_append_right _ hr, rfl⟩)

theorem effect_create (h : Inv s) (hcall : s.calls p = some c) (hphase : c.phase = .creating id sub)
    (hfree : s.waits p (.record c.requestId) = false)
    (hnone : s.store.tables.records.lookup c.requestId = none) :
    Effect s (.next p f) ((s.acquire p (.record c.requestId)).advance p
      { c with phase := .saving id sub, record := some ⟨c.userId, id, c.amount, .consumed⟩ }) := by
  have hc := h.sound p c hcall
  have hrecord : c.record = none := by
    have hknows := hc.knows
    rw [hphase] at hknows
    exact hknows
  have hlocks : Locks p s (s.acquire p (.record c.requestId)) := .acquire hfree
  refine .advanced _ _ hlocks ⟨c, hcall, rfl, rfl⟩ ⟨?_, ?_, ?_, ?_, rfl⟩ ?_
  · intro r hr
    refine (hc.rows r hr).mono ?_
    rw [PreConsumeCall.chargeOn_of_none hrecord]
    exact Nat.zero_le _
  · have hcandidates := hc.candidates
    rw [hphase] at hcandidates
    exact hcandidates
  · intro record hrecord'
    cases hrecord'
    exact ⟨rfl, hnone⟩
  · intro record hrecord'
    cases hrecord'
    exact ⟨(id, sub), mem_append_left _ (mem_singleton_self _), rfl⟩
  intro k hk
  cases k with
  | record =>
    rw [hk.2]
    exact locks_acquire_self
  | sub =>
    refine hlocks.locks_self (h.owned p c _ hcall ?_)
    obtain ⟨r, hr, hid⟩ := hk
    refine ⟨r, ?_, hid⟩
    rw [hphase]
    exact hr

theorem effect_save (h : Inv s) (hcall : s.calls p = some c) (hphase : c.phase = .saving id sub)
    (hid : result.userSubscriptionId = id) (hamount : result.preConsumed = c.amount) :
    Effect s (.next p f) (s.advance p
      { c with
        phase := .answered result
        rows := c.rows ++
          [(id, { sub with amountUsed := (sub.amountUsed + c.amount).toNat })] }) := by
  have hc := h.sound p c hcall
  have hrecord : c.record = some ⟨c.userId, id, c.amount, .consumed⟩ := by
    have hknows := hc.knows
    rw [hphase] at hknows
    exact hknows
  have hmem : (id, sub) ∈ c.phase.rows := by
    rw [hphase]
    exact mem_singleton_self _
  have hcharge : c.chargeOn id = c.amount.toNat := by
    rw [PreConsumeCall.chargeOn, hrecord, elim_some, if_pos rfl]
  refine effect_advance h hcall ⟨rfl, rfl⟩ ⟨?_, forall_mem_nil _, hc.record, ?_, ?_⟩ ?_
  · intro r hr
    rcases mem_append.mp hr with hr | hr
    · exact hc.rows r hr
    obtain rfl := mem_singleton.mp hr
    have hcharged := (hc.candidates _ hmem).charged c.amount_pos
    rw [← hcharge] at hcharged
    exact hcharged
  · intro record hsome
    obtain rfl := some.inj (hrecord.symm.trans hsome)
    exact ⟨_, mem_append_right _ (mem_append_right _ (mem_singleton_self _)), rfl⟩
  · refine ⟨⟨c.userId, id, c.amount, .consumed⟩, ?_, hid, hamount⟩
    rw [hrecord, some_or]
  intro k hk
  cases k with
  | record => exact hk
  | sub =>
    obtain ⟨r, hr, rfl⟩ := hk
    rcases mem_append.mp hr with hr | hr
    · cases hr
    rcases mem_append.mp hr with hr | hr
    · exact ⟨r, mem_append_right _ hr, rfl⟩
    · obtain rfl := mem_singleton.mp hr
      exact ⟨(id, sub), mem_append_left _ hmem, rfl⟩

theorem effect_proceed (h : Inv s) (hcall : s.calls p = some c) :
    Effect s (.next p f) (proceed cal s p f c c.phase) := by
  have hc := h.sound p c hcall
  have hknows := hc.knows
  -- A statement after which the call has read no new row.
  have hadvance (phase : PreConsumePhase) (hrecord : c.record = none)
      (hrows : ∀ r ∈ phase.rows, r ∈ c.phase.rows) (hphase : c.Knows s.store.tables phase) :
      Effect s (.next p f) (s.advance p { c with phase }) :=
    effect_advance h hcall ⟨rfl, rfl⟩
      (hc.toPhase hrecord (fun r hr => hc.candidates r (hrows r hr)) hphase)
        fun _ => .of_phase hrows
  generalize hphase : c.phase = phase at hknows hadvance
  unfold proceed
  split
  · -- checking
    split
    · rename_i existing hfound
      split_ifs
      · exact .failed
      · exact hadvance _ hknows (forall_mem_nil _) ⟨hfound, hknows⟩
    · exact hadvance _ hknows (forall_mem_nil _) hknows
    · exact .failed
  · -- answering
    rename_i existing
    split
    · refine hadvance _ hknows.2 (forall_mem_nil _) ⟨existing, ?_, rfl, rfl⟩
      rw [hknows.2, none_or]
      exact hknows.1
    · exact .failed
  · -- locking
    dsimp only
    split
    · exact .failed
    split_ifs with hwaits hnil
    · exact .stay
    · exact .failed
    · refine effect_lock h hcall hknows (fun r hr => ⟨Store.lookup_of_mem_activeSubscriptions hr,
          Store.userId_of_mem_activeSubscriptions hr⟩) ?_
      simpa using hwaits
  · exact .failed
  · -- scanning
    exact effect_scan h hcall hphase
  · -- creating
    split
    · exact hadvance _ hknows (fun r hr => hr) hknows
    · exact .stay
    · exact hadvance _ hknows (fun r hr => hr) hknows
    · rename_i hfree hnone
      exact effect_create h hcall hphase hfree hnone
  · -- duplicate
    split
    · rename_i dup _ hfound
      split_ifs
      · exact .failed
      · exact hadvance _ hknows (fun r hr => hr) ⟨hfound, hknows⟩
    · exact .failed
  · -- saving
    split
    · exact .failed
    · exact effect_save h hcall hphase rfl rfl
  all_goals exact effect_finish hcall (by rw [hphase]; rfl)

variable (cal : Calendar)

/-- **All that an event may do.** -/
theorem effect_step (h : Inv s) (e : PreConsumeEvent P) : Effect s e (s.step cal e) := by
  cases e with
  | start p requestId =>
    unfold step
    dsimp only
    split_ifs with hrefused hamount
    · exact .stay
    rotate_left
    · exact .stay
    refine .advanced s _ (.refl p s) ⟨rfl, rfl⟩ ⟨forall_mem_nil _, forall_mem_nil _,
        fun record hrecord => absurd hrecord.symm (some_ne_none record),
        fun record hrecord => absurd hrecord.symm (some_ne_none record), rfl⟩ ?_
    intro k hk
    cases k with
    | record => cases hk.1
    | sub =>
      obtain ⟨r, hr, -⟩ := hk
      cases hr
  | next p f =>
    rw [step]
    split
    · exact .stay
    · rename_i c hcall
      exact effect_proceed h hcall

/-! ### What holds in every run -/

theorem Inv.commit (h : Inv s) (hcall : s.calls p = some c) (answers : List PreConsumeAnswer) :
    Inv (s.commit p ⟨c.commitTo s.store.tables, answers⟩) := by
  refine ⟨h.owned.commit p _, ?_⟩
  intro q c' hq
  have hqp : q ≠ p := by
    rintro rfl
    simp at hq
  rw [calls_commit_of_ne hqp] at hq
  have hnot (k : PreConsumeRow) (hk : c'.Needs k) : ¬c.Needs k := by
    intro hk'
    exact hqp (h.owned.unique hq hcall hk hk')
  refine (h.sound q c' hq).frame ?_ ?_ ?_
  · intro id hid
    exact PreConsumeCall.lookup_commitTo_of_not_needs (hnot _ hid)
  · intro requestId record hrecord
    exact (h.sound p c hcall).records_commitTo hrecord
  · intro hsome
    exact PreConsumeCall.records_commitTo_of_not_needs (hnot _ ⟨hsome, rfl⟩)

theorem Effect.inv (heffect : Effect s e s') (h : Inv s) : Inv s' := by
  cases heffect with
  | stay => exact h
  | failed => exact ⟨h.owned.commit _ _, h.sound.commit _ _⟩
  | advanced s₁ _ hlocks _ sound held =>
    refine ⟨(hlocks.owned h.owned).advance held, ?_⟩
    have hsound : EachCall (PreConsumeCall.Sound s₁.store.tables) s₁ := by
      rw [hlocks.store_eq]
      exact hlocks.eachCall h.sound
    refine hsound.advance _ ?_
    rw [hlocks.store_eq]
    exact sound
  | committed _ _ _ _ _ _ hcall => exact h.commit hcall _

variable (store : Store)

omit [DecidableEq P] in
theorem eachCall_init (R : PreConsumeCall → Prop) :
    EachCall R (init store : PreConsumeSystem P) := by
  intro p c hcall
  exact absurd hcall.symm (some_ne_none c)

omit [DecidableEq P] in
theorem inv_init : Inv (init store : PreConsumeSystem P) :=
  ⟨fun p c _ hcall _ => (eachCall_init store (fun _ => False) p c hcall).elim,
   eachCall_init store _⟩

/-- **Exclusion in every run**: a row is worked on in one open transaction only. -/
theorem needs_exclusive (es : List (PreConsumeEvent P)) (k : PreConsumeRow) :
    {p | ∃ c ∈ (es.foldl (step cal) (init store : PreConsumeSystem P)).calls p,
      c.Needs k}.Subsingleton := by
  have h := @Guarded.invariant_of_step _ _ (step cal) Inv
    (fun _ e h => (effect_step cal h e).inv h) _ es (inv_init store)
  rintro p ⟨_, hp, hc⟩ q ⟨_, hq, hc'⟩
  exact h.owned.unique hp hq hc hc'

/-! ### The used amount -/

structure UsedInv (t₀ : Store) (requestId : String) (userId : ℤ) (s : PreConsumeSystem P) : Prop
    extends Inv s where
  request : EachCall (fun c => c.requestId = requestId) s
  kept : ∀ record, t₀.records.lookup requestId = some record →
    s.store.tables.records.lookup requestId = some record
  used : s.store.tables.userUsed userId ≤ t₀.userUsed userId +
    newlyRecorded t₀ s.store.tables requestId

variable {t₀ : Store} {requestId : String} {userId : ℤ}

theorem UsedInv.commit (h : UsedInv t₀ requestId userId s) (hcall : s.calls p = some c)
    (answers : List PreConsumeAnswer) :
    UsedInv t₀ requestId userId (s.commit p ⟨c.commitTo s.store.tables, answers⟩) := by
  have hc := h.sound p c hcall
  have hrequest := h.request p c hcall
  refine ⟨h.toInv.commit hcall answers, h.request.commit p _, ?_, ?_⟩
  · intro record hrecord
    exact hc.records_commitTo (h.kept record hrecord)
  have hused := h.used
  have hcharge := hc.userUsed_commitTo userId
  have hlookup : (c.commitTo s.store.tables).records.lookup requestId
      = c.record.or (s.store.tables.records.lookup requestId) := by
    rw [← hrequest]
    exact PreConsumeCall.lookup_records_commitTo_self
  unfold newlyRecorded at hused ⊢
  rw [store_commit]
  rw [hlookup]
  cases hrecord : c.record with
  | none =>
    rw [hrecord, elim_none] at hcharge
    exact hcharge.trans hused
  | some record =>
    -- The record is new: it was not there when the call inserted it, nor at the beginning.
    have hnone : s.store.tables.records.lookup requestId = none := by
      rw [← hrequest]
      exact (hc.record record hrecord).2
    have hnone₀ : t₀.records.lookup requestId = none := by
      cases hfound : t₀.records.lookup requestId with
      | none => rfl
      | some found =>
        rw [h.kept found hfound] at hnone
        cases hnone
    rw [hnone₀, hnone] at hused
    rw [hnone₀, some_or]
    rw [hrecord] at hcharge
    simp only [isSome_none, Bool.false_eq_true, if_false, elim_none, elim_some, Nat.add_zero]
      at hused hcharge ⊢
    omega

theorem Effect.usedInv (heffect : Effect s e s') (h : UsedInv t₀ requestId userId s)
    (he : e.IsFor requestId) : UsedInv t₀ requestId userId s' := by
  cases heffect with
  | stay => exact h
  | failed =>
    exact ⟨Effect.inv (.failed (e := e)) h.toInv, h.request.commit _ _, h.kept, h.used⟩
  | advanced s₁ c hlocks request sound held =>
    have hinv := Effect.inv (.advanced s₁ c hlocks request sound held) h.toInv
    have hfor : c.requestId = requestId := by
      cases e with
      | start => exact request.1.trans he
      | next p =>
        obtain ⟨c₀, hcall, hsame, -⟩ := request
        exact hsame.trans (h.request p c₀ hcall)
    refine ⟨hinv, (hlocks.eachCall h.request).advance _ hfor, ?_, ?_⟩
    · rw [store_advance, hlocks.store_eq]
      exact h.kept
    · rw [store_advance, hlocks.store_eq]
      exact h.used
  | committed _ _ _ _ _ _ hcall => exact h.commit hcall _

/-- **The used amount.** -/
theorem userUsed_le {es : List (PreConsumeEvent P)}
    (hes : ∀ e ∈ es, e.IsFor requestId) (userId : ℤ) :
    (es.foldl (step cal) (init store)).store.tables.userUsed userId ≤ store.userUsed userId
        + newlyRecorded store (es.foldl (step cal) (init store)).store.tables requestId := by
  have hinit : UsedInv store requestId userId (init store : PreConsumeSystem P) :=
    ⟨inv_init store, eachCall_init store _, fun _ h => h, Nat.le_add_right _ _⟩
  have hrun : UsedInv store requestId userId (es.foldl (step cal) (init store)) :=
    foldlRecOn es _ hinit fun s hs e he => (effect_step cal hs.toInv e).usedInv hs (hes e he)
  exact hrun.used

/-! ### The answers -/

def AnswerRight (t : Store) (a : PreConsumeAnswer) : Prop :=
  ∃ record, t.records.lookup a.requestId = some record ∧ a.result.userSubscriptionId =
    record.userSubscriptionId ∧ a.result.preConsumed = record.preConsumed

def AnswersRight (t : PreConsumeTables) : Prop :=
  ∀ a ∈ t.answers, AnswerRight t.tables a

def CandidateRecorded (s : PreConsumeSystem P) : PreConsumeEvent P → Prop
  | .next p f => f.commit = none → ∀ c ∈ s.calls p, c.phase.CandidateRecorded
  | .start .. => True

instance (s : PreConsumeSystem P) : ∀ e : PreConsumeEvent P, Decidable (CandidateRecorded s e)
  | .next p _ => inferInstanceAs (Decidable (_ → ∀ c ∈ s.calls p, _))
  | .start .. => .isTrue trivial

theorem answerRight_commitTo_iff {t : Store} (hc : c.Sound t)
    (hresult : c.phase.result = some result) :
    AnswerRight (c.commitTo t) ⟨c.requestId, result⟩ ↔ c.phase.CandidateRecorded := by
  have hknows := hc.knows
  unfold AnswerRight
  rw [PreConsumeCall.lookup_records_commitTo_self]
  generalize c.phase = phase at hknows hresult
  cases phase with
  | answered =>
    cases hresult
    exact iff_of_true hknows trivial
  | repeated _ _ dup =>
    cases hresult
    obtain ⟨hdup, hnone⟩ := hknows
    rw [hnone, none_or, hdup]
    constructor
    · rintro ⟨_, hrecord, hid, -⟩
      cases hrecord
      exact hid.symm
    · intro hcandidate
      exact ⟨dup, rfl, hcandidate.symm, rfl⟩
  | _ => cases hresult

omit [DecidableEq P] in
theorem answersRight_commit_iff (h : Inv s) (hright : AnswersRight s.store)
    (hcall : s.calls p = some c) (hresult : c.phase.result = some result) :
    AnswersRight ⟨c.commitTo s.store.tables, ⟨c.requestId, result⟩ :: s.store.answers⟩ ↔
      c.phase.CandidateRecorded := by
  have hc := h.sound p c hcall
  have hold : ∀ a ∈ s.store.answers, AnswerRight (c.commitTo s.store.tables) a := by
    intro a ha
    obtain ⟨record, hrecord, hreports⟩ := hright a ha
    exact ⟨record, hc.records_commitTo hrecord, hreports⟩
  rw [← answerRight_commitTo_iff hc hresult, AnswersRight, forall_mem_cons, and_iff_left hold]

theorem answersRight_step_iff (s : PreConsumeSystem P) (e : PreConsumeEvent P)
    (h : Inv s ∧ AnswersRight s.store) :
    (Inv (s.step cal e) ∧ AnswersRight (s.step cal e).store) ↔ CandidateRecorded s e := by
  obtain ⟨hinv, hright⟩ := h
  have heffect := effect_step cal hinv e
  rw [and_iff_right (heffect.inv hinv)]
  constructor
  · intro hnext
    cases e with
    | start => trivial
    | next p f =>
      intro hfault c hcall
      cases hphase : c.phase with
      | repeated id sub dup =>
        have hstep : s.step cal (.next p f) = s.commit p ⟨c.commitTo s.store.tables,
            ⟨c.requestId, repeatedResult id sub dup⟩ :: s.store.answers⟩ := by
          rw [step, hcall]
          dsimp only
          rw [hphase]
          unfold proceed finish
          rw [hfault]
        rw [hstep, store_commit, answersRight_commit_iff hinv hright hcall (by rw [hphase]; rfl),
          hphase] at hnext
        exact hnext
      | _ => trivial
  intro hrecorded
  generalize s.step cal e = s' at heffect
  cases heffect with
  | stay | failed => exact hright
  | advanced _ _ hlocks =>
    rw [store_advance, hlocks.store_eq]
    exact hright
  | committed _ _ c _ he hfault hcall hresult =>
    subst he
    rw [store_commit, answersRight_commit_iff hinv hright hcall hresult]
    exact hrecorded hfault c hcall

/-! ### All calls -/

/-- **One request, many calls** add at most what its record says. Every answer reports the record
exactly if no call commits with a candidate of its own after its insert has failed. -/
theorem preConsume_once_iff (es : List (PreConsumeEvent P)) :
    (∀ requestId, (∀ e ∈ es, e.IsFor requestId) → ∀ userId,
      (es.foldl (step cal) (init store)).store.tables.userUsed userId ≤ store.userUsed userId
          + newlyRecorded store (es.foldl (step cal) (init store)).store.tables requestId) ∧
    (Guarded (step cal) CandidateRecorded (init store) es ↔
      ∀ es', es' <+: es → AnswersRight (es'.foldl (step cal) (init store)).store) := by
  refine ⟨fun requestId hes userId => userUsed_le cal store hes userId, ?_⟩
  have hstep (s : PreConsumeSystem P) (e : PreConsumeEvent P) (hs : Inv s) : Inv (s.step cal e) :=
    (effect_step cal hs e).inv hs
  have hinv (es : List (PreConsumeEvent P)) : Inv (es.foldl (step cal) (init store)) :=
    Guarded.invariant_of_step hstep es (inv_init store)
  rw [Guarded.iff_forall_prefix (answersRight_step_iff cal) ⟨inv_init store,
    fun a ha => absurd ha not_mem_nil⟩]
  constructor
  · intro h es' hes'
    exact (h es' hes').2
  · intro h es' hes'
    exact ⟨hinv es', h es' hes'⟩

end PreConsumeSystem

def freshSubscription (endTime : ℤ) : UserSubscription where
  userId := 1
  planId := 2
  amountTotal := 100
  amountUsed := 0
  startTime := 1000
  endTime
  status := .active
  lastResetTime := 0
  nextResetTime := 0
  allowWalletOverflow := false

def twoSubscriptions : Store :=
  { Store.empty with
    subs := ((∅ : AList fun _ : ℤ => UserSubscription).insert 2 (freshSubscription 9000)).insert 1
      (freshSubscription 8000)
    plans := fun _ => some (.ofPeriod "never") }

namespace PreConsumeSystem

def racingCalls (amount : ℤ) : List (PreConsumeEvent Bool) :=
  [.start false "r" 1 amount 2000, .start true "r" 1 amount 2000, .next false {}, .next true {},
    .next false {}, .next false {}, .next false {}, .next false {}, .next false {}, .next true {},
    .next true {}, .next true {}, .next true {}, .next true {}, .next true {}]

theorem preConsume_once_of_room :
    let s := (racingCalls 40).foldl (step .utc) (init twoSubscriptions)
    s.store.tables.userUsed 1 ≤ 40 ∧ AnswersRight s.store ∧
      s.store.answers.map (fun a => (a.result.userSubscriptionId, a.result.preConsumed)) =
        [(1, 40), (1, 40)] := by
  have hused := (preConsume_once_iff .utc twoSubscriptions (racingCalls 40)).1 "r" (by
    simp [racingCalls, PreConsumeEvent.IsFor]) 1
  have hright := (preConsume_once_iff .utc twoSubscriptions (racingCalls 40)).2.mp
    (by decide +kernel) _ prefix_rfl
  exact ⟨hused.trans (by decide +kernel), hright, by decide +kernel⟩

/-- The first call has left subscription 1 no room, so the second one comes to subscription 2 before
its insert fails, and reports it; the record names subscription 1. -/
theorem preConsume_once_broken : let s := (racingCalls 60).foldl (step .utc) (init twoSubscriptions)
    s.store.answers.map (fun a => (a.requestId, a.result.userSubscriptionId, a.result.preConsumed))
        = [("r", 2, 60), ("r", 1, 60)] ∧
      s.store.tables.records.lookup "r" = some ⟨1, 1, 60, .consumed⟩ ∧
      s.store.tables.userUsed 1 = 60 := by
  decide +kernel

end PreConsumeSystem

end TokensFlux
