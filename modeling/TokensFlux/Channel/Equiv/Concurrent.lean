import TokensFlux.Channel.Equiv.Status
import TokensFlux.Lib.Guarded

/-!
# What a change of status does to the row

`UpdateChannelStatus` saves every column of the row it has loaded.  The saved row is the change of
status applied to the current row (`SaveKeeps`) exactly when no other column has changed since the
load and its own columns come out the same (`NotStale`).
-/

namespace TokensFlux

namespace ChannelRow

/-- The columns that a change of status does not write. -/
def others (c : ChannelRow) : ChannelRow :=
  { c with status := .unknown, otherInfo := "", channelInfo := .zero }

/-- The columns that a change of status writes. -/
def own (c : ChannelRow) : ChannelStatus × String × ChannelInfoColumn :=
  (c.status, c.otherInfo, c.channelInfo)

theorem eq_of_others_own {c c' : ChannelRow} (hothers : c.others = c'.others)
    (hown : c.own = c'.own) :
    c = c' := by
  have hrestored : ∀ r : ChannelRow, { r.others with
      status := r.own.1, otherInfo := r.own.2.1, channelInfo := r.own.2.2 } = r := fun _ => rfl
  rw [← hrestored c, ← hrestored c', hothers, hown]

variable (json : ChannelJson) (usingKey : String) (status : ChannelStatus)
  (reason : String) (now : ℤ)

/-- The change of status, whatever the status is. -/
def applyStatus (c : ChannelRow) : ChannelRow :=
  if c.channelInfo.isMultiKey then
    c.handlerMultiKeyUpdate json usingKey status reason now (c.getKeys json)
  else c.withStatus json status reason now

theorem others_applyStatus (c : ChannelRow) :
    (c.applyStatus json usingKey status reason now).others = c.others := by
  unfold applyStatus
  split_ifs
  · obtain ⟨_, heq⟩ := c.handlerMultiKeyUpdate_eq json usingKey status reason now (c.getKeys json)
    rw [heq]
    rfl
  · rfl

theorem changeStatus_eq_none_iff (c : ChannelRow) :
    c.changeStatus json usingKey status reason now = none ↔ c.status = status := by
  unfold changeStatus
  split_ifs with hsame <;> simp [hsame]

theorem changeStatus_eq_some {c c' : ChannelRow} {changed : Bool}
    (h : c.changeStatus json usingKey status reason now = some (c', changed)) :
    c' = c.applyStatus json usingKey status reason now := by
  unfold changeStatus at h
  unfold applyStatus
  split_ifs at h ⊢ <;> cases h <;> rfl

theorem prepareUpdate_usedQuota (c : ChannelRow) (existing : Option ChannelRow) :
    (c.prepareUpdate json existing).usedQuota = c.usedQuota := by
  unfold prepareUpdate
  split_ifs <;> rfl

end ChannelRow

def RowEvent.delta : RowEvent → ℤ
  | .updateChannelUsedQuota quota => quota
  | _ => 0

namespace RowState

variable (json : ChannelJson) (s : RowState)

/-- What is saved is the change of status applied to the current row. -/
def SaveKeeps : RowEvent → Prop
  | .save caller usingKey status reason now => ∀ c, s.loaded caller = some c → c.status ≠ status →
      (s.step json (.save caller usingKey status reason now)).row
        = s.row.applyStatus json usingKey status reason now
  | _ => True

/-- When a copy is saved, its other columns are those of the row, and its own columns come out as
they would from the row.  No struct brings another used quota. -/
def NotStale : RowEvent → Prop
  | .save caller usingKey status reason now => ∀ c, s.loaded caller = some c → c.status ≠ status →
      (s.row.saveWithoutKey c).others = s.row.others ∧
        (c.applyStatus json usingKey status reason now).own
          = (s.row.applyStatus json usingKey status reason now).own
  | .update _ c => c.usedQuota = 0 ∨ c.usedQuota = s.row.usedQuota
  | _ => True

/-- A copy that is still the row is not stale. -/
theorem notStale_of_loaded {caller : ℕ} (h : s.loaded caller = some s.row) (usingKey : String)
    (status : ChannelStatus) (reason : String) (now : ℤ) :
    s.NotStale json (.save caller usingKey status reason now) := by
  intro c hc _
  obtain rfl := Option.some.inj (h.symm.trans hc)
  exact ⟨rfl, rfl⟩

/-- **A save.** -/
theorem savedRow_keeps_iff (row c : ChannelRow) (usingKey : String) (status : ChannelStatus)
    (reason : String) (now : ℤ) :
    (savedRow json row c usingKey status reason now).usedQuota = row.usedQuota ∧
      (c.status ≠ status → savedRow json row c usingKey status reason now
        = row.applyStatus json usingKey status reason now) ↔
      (c.status ≠ status → (row.saveWithoutKey c).others = row.others ∧
        (c.applyStatus json usingKey status reason now).own
          = (row.applyStatus json usingKey status reason now).own) := by
  unfold savedRow
  cases hchange : c.changeStatus json usingKey status reason now with
  | none =>
    -- The copy has the status already, and nothing is saved.
    have hsame := (c.changeStatus_eq_none_iff json usingKey status reason now).mp hchange
    exact iff_of_true ⟨rfl, fun hne => absurd hsame hne⟩ fun hne => absurd hsame hne
  | some result =>
    obtain ⟨c', _⟩ := result
    have hne : c.status ≠ status := by
      intro hsame
      rw [(c.changeStatus_eq_none_iff json usingKey status reason now).mpr hsame] at hchange
      cases hchange
    obtain rfl := ChannelRow.changeStatus_eq_some json usingKey status reason now hchange
    have hothers : (row.saveWithoutKey (c.applyStatus json usingKey status reason now)).others
        = (row.saveWithoutKey c).others :=
      congrArg (fun c => row.saveWithoutKey c)
        (c.others_applyStatus json usingKey status reason now)
    have hrow := row.others_applyStatus json usingKey status reason now
    constructor
    · rintro ⟨-, hsaved⟩ _
      have hsaved : row.saveWithoutKey (c.applyStatus json usingKey status reason now)
          = row.applyStatus json usingKey status reason now := hsaved hne
      constructor
      · rw [← hothers, hsaved, hrow]
      · rw [← hsaved]
        rfl
    intro hstale
    obtain ⟨hsame, hown⟩ := hstale hne
    have hsaved : row.saveWithoutKey (c.applyStatus json usingKey status reason now)
        = row.applyStatus json usingKey status reason now :=
      ChannelRow.eq_of_others_own (hothers.trans (hsame.trans hrow.symm)) hown
    refine ⟨?_, fun _ => hsaved⟩
    -- The used quota is one of the other columns.
    have hused := congrArg ChannelRow.usedQuota (hothers.trans hsame)
    exact hused

/-- **One statement** does so exactly if it is not stale. -/
theorem keeps_iff (e : RowEvent) :
    (s.step json e).row.usedQuota = s.row.usedQuota + e.delta ∧ s.SaveKeeps json e ↔
      s.NotStale json e := by
  cases e with
  | load caller | updateBalance balance now | updateResponseTime responseTime now
  | readExisting caller =>
    exact iff_of_true ⟨(Int.add_zero _).symm, trivial⟩ trivial
  | updateChannelUsedQuota => exact iff_of_true ⟨rfl, trivial⟩ trivial
  | update caller c =>
    have hquota : (s.step json (.update caller c)).row.usedQuota
        = if c.usedQuota = 0 then s.row.usedQuota else c.usedQuota := by
      show (s.row.updates (c.prepareUpdate json (s.existing caller))).usedQuota = _
      unfold ChannelRow.updates
      rw [ChannelRow.prepareUpdate_usedQuota]
    rw [hquota]
    show _ = s.row.usedQuota + 0 ∧ True ↔ c.usedQuota = 0 ∨ c.usedQuota = s.row.usedQuota
    rw [Int.add_zero, and_true]
    split_ifs with hzero
    · exact iff_of_true rfl (.inl hzero)
    · exact ⟨.inr, fun h => h.resolve_left hzero⟩
  | save caller usingKey status reason now =>
    show (s.step json (.save caller usingKey status reason now)).row.usedQuota =
      s.row.usedQuota + 0 ∧ _ ↔ _
    rw [Int.add_zero]
    cases hloaded : s.loaded caller with
    | none =>
      have hsame : s.step json (.save caller usingKey status reason now) = s := by
        simp only [step, hloaded]
      have hnone : ∀ c, s.loaded caller ≠ some c := by
        intro c
        rw [hloaded]
        exact nofun
      rw [hsame]
      exact iff_of_true ⟨rfl, fun c h => absurd h (hnone c)⟩ fun c h => absurd h (hnone c)
    | some c =>
      have hrow : (s.step json (.save caller usingKey status reason now)).row
          = savedRow json s.row c usingKey status reason now := by
        simp only [step, hloaded]
      unfold SaveKeeps NotStale
      simp only [hrow, hloaded, Option.some.injEq, forall_eq']
      exact savedRow_keeps_iff json s.row c usingKey status reason now

end RowState

end TokensFlux
