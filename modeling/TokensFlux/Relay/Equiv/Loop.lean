import TokensFlux.Quota.Equiv.Statistics
import TokensFlux.Relay.Equiv.Select
import TokensFlux.Relay.Loop

/-!
# The relay loop ends

`attemptsLeft` counts the retries of the groups from the stored index on, and every attempt lowers
it.
-/

namespace TokensFlux

open RelayState RetryParam

/-! ### The parts of a pass -/

theorem setupContextForSelectedChannel_frame (ctx : RelayContext)
    (channel : Option Channel) (name : String) (draw : KeyDraw) : ∃ channelId multi index key,
    (setupContextForSelectedChannel ctx channel name draw).1
      = { ctx with originalModel := name, channelId := channelId, channelIsMultiKey := multi,
                   channelMultiKeyIndex := index, channelKey := key } := by
  unfold setupContextForSelectedChannel
  obtain _ | c := channel
  · exact ⟨ctx.channelId, ctx.channelIsMultiKey, ctx.channelMultiKeyIndex, ctx.channelKey, rfl⟩
  dsimp only
  cases c.getNextEnabledKey draw with
  | error => exact ⟨c.id, ctx.channelIsMultiKey, ctx.channelMultiKeyIndex, ctx.channelKey, rfl⟩
  | ok key =>
    exact ⟨c.id, c.channelInfo.isMultiKey,
      if c.channelInfo.isMultiKey then key.2 else ctx.channelMultiKeyIndex, key.1, rfl⟩

section Pass

variable (cfg : RelayConfig) (env : AttemptEnv) (st : RelayState)

def RelayState.select : Selection :=
  cacheGetRandomSatisfiedChannel cfg.settings env.source st.ctx st.param

/-- The ratio is refreshed, the context is still the old channel's. -/
def RelayState.afterSelect : RelayState :=
  ({ st with ctx := (st.select cfg env).ctx, param := (st.select cfg env).param }).refreshGroupRatio
    cfg.prices.toPriceSettings

def RelayState.toChannel (c : Channel) : RelayState :=
  { st.afterSelect cfg env with
    ctx := (setupContextForSelectedChannel (st.select cfg env).ctx (some c) st.info.originModelName
      env.draw).1 }

variable {cfg env st}

theorem getChannel_first (h : st.hasChannelMeta = false) :
    getChannel cfg env st = (st, .ok st.ctx.channelId) := by
  rw [getChannel, if_pos h]

theorem getChannel_retry {c : Channel} {key : String × ℕ} (h : st.hasChannelMeta = true)
    (herr : (st.select cfg env).err = none) (hc : (st.select cfg env).channel = some c)
    (hkey : c.getNextEnabledKey env.draw = .ok key) :
    getChannel cfg env st = (st.toChannel cfg env c, .ok c.id) := by
  unfold select at herr hc
  have hmeta : ¬ st.hasChannelMeta = false := by simp [h]
  rw [getChannel, if_neg hmeta]
  unfold toChannel
  simp only [herr, hc]
  unfold setupContextForSelectedChannel
  simp only [hkey]
  rfl

theorem getChannel_retry_error (h : st.hasChannelMeta = true)
    (hno : ∀ c key, (st.select cfg env).err = none → (st.select cfg env).channel = some c →
      c.getNextEnabledKey env.draw ≠ .ok key) :
    ∃ st' e, getChannel cfg env st = (st', .error e) ∧ st'.attempts = st.attempts ∧
      st'.ctx.groupIndex = (st.select cfg env).ctx.groupIndex := by
  have hmeta : ¬ st.hasChannelMeta = false := by simp [h]
  rw [getChannel, if_neg hmeta]
  dsimp only
  cases herr : (cacheGetRandomSatisfiedChannel cfg.settings env.source st.ctx st.param).err with
  | some => exact ⟨_, _, rfl, rfl, rfl⟩
  | none =>
    rcases hc : (cacheGetRandomSatisfiedChannel cfg.settings env.source st.ctx
      st.param).channel with _ | c
    · exact ⟨_, _, rfl, rfl, rfl⟩
    cases hkey : c.getNextEnabledKey env.draw with
    | ok key => exact absurd hkey (hno c key herr hc)
    | error =>
      unfold setupContextForSelectedChannel
      simp only [hkey]
      exact ⟨_, _, rfl, rfl, rfl⟩

theorem relayAttempt_fst : (relayAttempt cfg env st).1.ctx = st.ctx ∧
      (relayAttempt cfg env st).1.param = st.param ∧
      (relayAttempt cfg env st).1.hasChannelMeta = true ∧
      (relayAttempt cfg env st).1.attempts = st.attempts ++ [⟨st.group, st.ctx.channelId⟩] := by
  unfold relayAttempt
  dsimp only
  split
  · exact ⟨rfl, rfl, rfl, rfl⟩
  · split_ifs
    · split <;> exact ⟨rfl, rfl, rfl, rfl⟩
    · exact ⟨rfl, rfl, rfl, rfl⟩

theorem relayOn_inl {channelId : ℤ} {st' : RelayState}
    (h : relayOn cfg env st channelId = .inl st') :
    st'.ctx = (st.addUsedChannel channelId).ctx ∧ st'.param = st.param.increaseRetry ∧
      st'.hasChannelMeta = true ∧ st'.attempts = st.attempts ++ [⟨st.group, st.ctx.channelId⟩] := by
  unfold relayOn at h
  cases hbody : env.bodyError with
  | some =>
    simp only [hbody] at h
    cases h
  | none =>
    simp only [hbody] at h
    obtain ⟨hctx, hparam, hmeta, hattempts⟩ :=
      @relayAttempt_fst cfg env (st.addUsedChannel channelId)
    unfold afterAttempt at h
    cases hresult : (relayAttempt cfg env (st.addUsedChannel channelId)).2 with
    | ok =>
      simp only [hresult] at h
      cases h
    | error =>
      simp only [hresult] at h
      split_ifs at h
      obtain rfl := Sum.inl.inj h
      refine ⟨hctx, ?_, hmeta, hattempts⟩
      dsimp only [fail]
      rw [hparam]
      rfl

theorem relayOn_inr {channelId : ℤ} {r : RelayResult} (h : relayOn cfg env st channelId = .inr r) :
    r.state.ctx = (st.addUsedChannel channelId).ctx ∧
      r.state.attempts.length ≤ st.attempts.length + 1 := by
  unfold relayOn at h
  cases hbody : env.bodyError with
  | some =>
    simp only [hbody] at h
    obtain rfl := Sum.inr.inj h
    exact ⟨rfl, Nat.le_succ _⟩
  | none =>
    simp only [hbody] at h
    obtain ⟨hctx, -, -, hattempts⟩ := @relayAttempt_fst cfg env (st.addUsedChannel channelId)
    have hlength : (relayAttempt cfg env (st.addUsedChannel channelId)).1.attempts.length
        ≤ st.attempts.length + 1 := by
      rw [hattempts, List.length_append]
      exact le_rfl
    unfold afterAttempt at h
    cases hresult : (relayAttempt cfg env (st.addUsedChannel channelId)).2 with
    | ok =>
      simp only [hresult] at h
      obtain rfl := Sum.inr.inj h
      exact ⟨hctx, hlength⟩
    | error =>
      simp only [hresult] at h
      split_ifs at h
      obtain rfl := Sum.inr.inj h
      exact ⟨hctx, hlength⟩

end Pass

/-! ### How many attempts are left -/

/-- A token of a single group has the retries the counter leaves. -/
def attemptsLeft (settings : RelaySettings) (ctx : RelayContext) (param : RetryParam) : ℕ :=
  if param.tokenGroup = "auto" then
    ((getUserAutoGroup settings.groups ctx.userGroup).length - ctx.groupIndex) *
      (settings.retryTimes + 1)
      - param.retry
  else settings.retryTimes + 1 - param.retry

section Selection

variable {settings : RelaySettings} {source : ℕ → ChannelSource} {ctx : RelayContext}
  {param : RetryParam}

theorem cacheGetRandomSatisfiedChannel_frame : ∃ autoGroup index retry reset,
    (cacheGetRandomSatisfiedChannel settings source ctx param).ctx
      = { ctx with autoGroup := autoGroup, autoGroupIndex := index } ∧
    (cacheGetRandomSatisfiedChannel settings source ctx param).param
      = { param with retry := retry, resetNextTry := reset } := by
  unfold cacheGetRandomSatisfiedChannel
  split_ifs
  · exact ⟨ctx.autoGroup, ctx.autoGroupIndex, param.retry, param.resetNextTry, rfl, rfl⟩
  · exact selectAuto_frame fun h => absurd h (lt_irrefl _)
  · split <;> exact ⟨ctx.autoGroup, ctx.autoGroupIndex, param.retry, param.resetNextTry, rfl, rfl⟩

theorem groupIndex_le_cacheGetRandomSatisfiedChannel :
    ctx.groupIndex ≤ (cacheGetRandomSatisfiedChannel settings source ctx param).ctx.groupIndex := by
  unfold cacheGetRandomSatisfiedChannel
  split_ifs
  · exact le_rfl
  · exact groupIndex_le_selectAuto (fun h => absurd h (lt_irrefl _)) le_rfl
  · split <;> exact le_rfl

theorem takeSlot_next {slot : Slot} {c : Channel} (hreset : param.resetNextTry = false) :
    let taken := takeSlot settings.retryTimes ctx param slot c
    (settings.retryTimes ≤ slot.retry ∧ taken.ctx.groupIndex = slot.index + 1 ∧
      taken.param.retry = 0 ∧ taken.param.increaseRetry = { param with retry := 0 }) ∨
      ((ctx.tokenCrossGroupRetry = true → slot.retry < settings.retryTimes) ∧
        taken.ctx.groupIndex = slot.index ∧ taken.param.retry = slot.retry ∧
        taken.param.increaseRetry = { param with retry := slot.retry + 1 }) := by
  dsimp only
  unfold takeSlot increaseRetry
  split_ifs with hlast h h
  · rw [Bool.and_eq_true, decide_eq_true_eq] at hlast
    exact .inl ⟨hlast.2, rfl, rfl, by rw [hreset]⟩
  · exact absurd rfl h
  · exact absurd (hreset.symm.trans h) Bool.false_ne_true
  refine .inr ⟨?_, rfl, rfl, rfl⟩
  intro hcross
  by_contra hle
  apply hlast
  rw [hcross, Bool.true_and, decide_eq_true_eq]
  omega

theorem positions_lt {count index retry retryTimes slot slotRetry index' retry' : ℕ}
    (hretry : retry ≤ retryTimes) (hindex : index ≤ slot) (hslot : slot < count)
    (hslotRetry : slotRetry = if slot = index then retry else 0)
    (hnext : index' = slot + 1 ∧ retry' = 0 ∨ index' = slot ∧ retry' = slotRetry + 1) :
    (count - index') * (retryTimes + 1) - retry' + 1 ≤
      (count - index) * (retryTimes + 1) - retry := by
  -- The groups after the one that was taken, and those that were passed over.
  obtain ⟨later, rfl⟩ : ∃ later, count = slot + 1 + later := ⟨count - (slot + 1), by omega⟩
  obtain ⟨passed, rfl⟩ : ∃ passed, slot = index + passed := ⟨slot - index, by omega⟩
  have hleft : (index + passed + 1 + later - index) * (retryTimes + 1)
      = later * (retryTimes + 1) + passed * (retryTimes + 1) + (retryTimes + 1) := by
    rw [show index + passed + 1 + later - index = later + passed + 1 by omega]
    ring
  rcases hnext with ⟨rfl, rfl⟩ | ⟨rfl, rfl⟩
  · rw [hleft, show index + passed + 1 + later - (index + passed + 1) = later by omega]
    omega
  have hgroup : (index + passed + 1 + later - (index + passed)) * (retryTimes + 1)
      = later * (retryTimes + 1) + (retryTimes + 1) := by
    rw [show index + passed + 1 + later - (index + passed) = later + 1 by omega]
    ring
  rcases Nat.eq_zero_or_pos passed with rfl | hpos
  · rw [if_pos (Nat.add_zero index)] at hslotRetry
    omega
  · have hpassed : retryTimes + 1 ≤ passed * (retryTimes + 1) := Nat.le_mul_of_pos_left _ hpos
    omega

/-- **Every retry lowers the attempts that are left.** -/
theorem attemptsLeft_selection {c : Channel} (hretry : param.retry ≤ settings.retryTimes)
    (hreset : param.resetNextTry = false) :
    let selected := cacheGetRandomSatisfiedChannel settings source ctx param
    selected.channel = some c →
      attemptsLeft settings selected.ctx selected.param.increaseRetry + 1 ≤
        attemptsLeft settings ctx param := by
  intro selected hc
  obtain ⟨_, _, _, _, hctx, -⟩ := cacheGetRandomSatisfiedChannel_frame
  have huser : selected.ctx.userGroup = ctx.userGroup := by rw [hctx]
  unfold attemptsLeft
  rw [huser]
  by_cases hauto : param.tokenGroup = "auto"
  · have hselect : selected
        = selectAuto settings.retryTimes source ctx.groupIndex ctx.groupIndex
          ((getUserAutoGroup settings.groups ctx.userGroup).drop ctx.groupIndex) ctx param := by
      unfold selected cacheGetRandomSatisfiedChannel at hc ⊢
      split_ifs at hc ⊢
      rfl
    rw [hselect] at hc
    obtain ⟨slot, htake, hle, hlt, hslot⟩ :=
      exists_slot_of_selectAuto (fun h => absurd h (lt_irrefl _)) hc
    rw [List.length_drop] at hlt
    rw [hselect, htake, if_pos hauto]
    have hnext := @takeSlot_next settings ctx param slot c hreset
    have htoken : (takeSlot settings.retryTimes ctx param slot c).param.increaseRetry.tokenGroup =
        "auto" := by
      rcases hnext with ⟨-, -, -, h⟩ | ⟨-, -, -, h⟩
      · rw [h]
        exact hauto
      · rw [h]
        exact hauto
    rw [if_pos htoken]
    apply positions_lt hretry hle (by omega) hslot
    rcases hnext with ⟨-, hindex, -, hparam⟩ | ⟨-, hindex, -, hparam⟩
    · exact .inl ⟨hindex, by rw [hparam]⟩
    · exact .inr ⟨hindex, by rw [hparam]⟩
  have hparam : selected.param = param := by
    unfold selected cacheGetRandomSatisfiedChannel
    rw [if_neg hauto]
    split <;> rfl
  rw [hparam, if_neg hauto]
  have hincrease : param.increaseRetry = { param with retry := param.retry + 1 } := by
    rw [increaseRetry, if_neg (by rw [hreset]; exact Bool.false_ne_true)]
  rw [hincrease, if_neg hauto]
  dsimp only
  omega

end Selection

/-! ### The whole loop -/

theorem RetryParam.increaseRetry_resetNextTry (param : RetryParam) :
    param.increaseRetry.resetNextTry = false := by
  unfold increaseRetry
  split_ifs with h
  · rfl
  · exact eq_false_of_ne_true h

/-- The first attempt needs no selection. -/
def RelayState.budget (settings : RelaySettings) (st : RelayState) : ℕ :=
  if st.hasChannelMeta then attemptsLeft settings st.ctx st.param
  else max 1 (attemptsLeft settings st.ctx st.param)

section Loop

variable {cfg : RelayConfig} {env : ℕ → AttemptEnv} {n : ℕ} {st st' : RelayState} {r : RelayResult}

/-- **One pass**: it fails, it uses the channel of the distributor, or it selects one. -/
theorem relayPass_cases (cfg : RelayConfig) (env : ℕ → AttemptEnv) (n : ℕ) (st : RelayState) :
    (∃ st', relayPass cfg env n st = .inr (.failed st') ∧ st'.attempts = st.attempts ∧
      (st'.ctx.groupIndex = st.ctx.groupIndex ∨
        st'.ctx.groupIndex = (st.select cfg (env n)).ctx.groupIndex)) ∨
    (st.param.retry ≤ cfg.settings.retryTimes ∧ st.hasChannelMeta = false ∧
      relayPass cfg env n st = relayOn cfg (env n) st st.ctx.channelId) ∨
    (∃ c, st.param.retry ≤ cfg.settings.retryTimes ∧ st.hasChannelMeta = true ∧
      (st.select cfg (env n)).channel = some c ∧
      relayPass cfg env n st = relayOn cfg (env n) (st.toChannel cfg (env n) c) c.id) := by
  unfold relayPass
  by_cases hretry : st.param.retry ≤ cfg.settings.retryTimes
  · rw [if_pos hretry]
    rcases hmeta : st.hasChannelMeta with _ | _
    · rw [getChannel_first hmeta]
      exact .inr (.inl ⟨hretry, rfl, rfl⟩)
    by_cases hsome : ∃ c key, (st.select cfg (env n)).err = none ∧
        (st.select cfg (env n)).channel = some c ∧ c.getNextEnabledKey (env n).draw = .ok key
    · obtain ⟨c, key, herr, hc, hkey⟩ := hsome
      rw [getChannel_retry hmeta herr hc hkey]
      exact .inr (.inr ⟨c, hretry, rfl, hc, rfl⟩)
    obtain ⟨st', e, hget, hattempts, hindex⟩ := getChannel_retry_error hmeta
      fun c key herr hc hkey => hsome ⟨c, key, herr, hc, hkey⟩
    rw [hget]
    exact .inl ⟨_, rfl, hattempts, .inr hindex⟩
  · rw [if_neg hretry]
    exact .inl ⟨_, rfl, rfl, .inl rfl⟩

theorem toChannel_ctx (c : Channel) : ∃ channelId multi index key, (st.toChannel cfg (env n) c).ctx
      = { (st.select cfg (env n)).ctx with
          originalModel := st.info.originModelName, channelId := channelId,
          channelIsMultiKey := multi, channelMultiKeyIndex := index, channelKey := key } :=
  setupContextForSelectedChannel_frame _ _ _ _

theorem relayPass_inl (hreset : st.param.resetNextTry = false)
    (h : relayPass cfg env n st = .inl st') :
    st'.param.resetNextTry = false ∧ st'.attempts.length = st.attempts.length + 1 ∧
      st'.budget cfg.settings + 1 ≤ st.budget cfg.settings := by
  rcases relayPass_cases cfg env n st with ⟨r, hr, -⟩ | ⟨hretry, hmeta, hpass⟩ |
    ⟨c, hretry, hmeta, hc, hpass⟩
  · rw [hr] at h
    cases h
  · obtain ⟨hctx, hparam, hmeta', hattempts⟩ := relayOn_inl (hpass.symm.trans h)
    refine ⟨by rw [hparam]; exact st.param.increaseRetry_resetNextTry, by rw [hattempts]; simp, ?_⟩
    have hincrease : st.param.increaseRetry = { st.param with retry := st.param.retry + 1 } := by
      rw [increaseRetry, if_neg (by rw [hreset]; exact Bool.false_ne_true)]
    unfold budget
    rw [if_pos hmeta', hmeta, if_neg Bool.false_ne_true, hctx, hparam, hincrease]
    have hleft : attemptsLeft cfg.settings (st.addUsedChannel st.ctx.channelId).ctx
        { st.param with retry := st.param.retry + 1 } =
          attemptsLeft cfg.settings st.ctx st.param - 1 := by
      unfold attemptsLeft
      split_ifs <;> exact Nat.sub_succ _ _
    omega
  obtain ⟨hctx, hparam, hmeta', hattempts⟩ := relayOn_inl (hpass.symm.trans h)
  refine ⟨by rw [hparam]; exact increaseRetry_resetNextTry _, by rw [hattempts]; simp; rfl, ?_⟩
  obtain ⟨_, _, _, _, htoChannel⟩ := toChannel_ctx c
  unfold budget
  rw [if_pos hmeta', if_pos hmeta, hctx, hparam]
  have hleft := attemptsLeft_selection hretry hreset hc
  have hsame : attemptsLeft cfg.settings ((st.toChannel cfg (env n) c).addUsedChannel c.id).ctx
      (st.toChannel cfg (env n) c).param.increaseRetry =
        attemptsLeft cfg.settings (st.select cfg (env n)).ctx
          (st.select cfg (env n)).param.increaseRetry := by
    unfold addUsedChannel
    rw [htoChannel]
    rfl
  rw [hsame]
  exact hleft

theorem relayPass_inr (hreset : st.param.resetNextTry = false)
    (h : relayPass cfg env n st = .inr r) :
    r.state.attempts.length ≤ st.attempts.length + st.budget cfg.settings := by
  rcases relayPass_cases cfg env n st with
    ⟨r', hr, hattempts, -⟩ | ⟨hretry, hmeta, hpass⟩ | ⟨c, hretry, hmeta, hc, hpass⟩
  · obtain rfl := Sum.inr.inj (hr.symm.trans h)
    show r'.attempts.length ≤ _
    rw [hattempts]
    exact Nat.le_add_right _ _
  · have hlength := (relayOn_inr (hpass.symm.trans h)).2
    have hbudget : 1 ≤ st.budget cfg.settings := by
      unfold budget
      rw [hmeta, if_neg Bool.false_ne_true]
      exact le_max_left _ _
    omega
  have hlength : r.state.attempts.length ≤ st.attempts.length + 1 :=
    (relayOn_inr (hpass.symm.trans h)).2
  have hbudget : 1 ≤ st.budget cfg.settings := by
    have hleft := attemptsLeft_selection hretry hreset hc
    unfold budget
    rw [if_pos hmeta]
    omega
  omega

theorem sumElim_eq_lastState {α : Type*} (f : RelayState → α) (run : RelayState ⊕ RelayResult) :
    Sum.elim f (fun r => f r.state) run = f (lastState run) := by
  cases run with
  | inl | inr => rfl

/-- **Attempts are bounded**, whatever selection finds and upstream answers. -/
theorem relayLoop_attempts_le (hreset : st.param.resetNextTry = false) (fuel : ℕ) :
    (lastState (relayLoop cfg env fuel st)).attempts.length ≤
      st.attempts.length + st.budget cfg.settings := by
  -- What was attempted and what is left stay within what was left at the start.
  let Inv (s : RelayState) : Prop := s.param.resetNextTry = false ∧
    s.attempts.length + s.budget cfg.settings ≤ st.attempts.length + st.budget cfg.settings
  have hgo : ∀ n s s', Inv s → relayPass cfg env n s = .inl s' → Inv s' := by
    rintro n s s' ⟨hs, hle⟩ hpass
    obtain ⟨hs', _, _⟩ := relayPass_inl hs hpass
    exact ⟨hs', by omega⟩
  have hleave : ∀ n s r, Inv s → relayPass cfg env n s = .inr r →
      r.state.attempts.length ≤ st.attempts.length + st.budget cfg.settings := by
    rintro n s r ⟨hs, hle⟩ hpass
    exact (relayPass_inr hs hpass).trans hle
  have hbound : Sum.elim Inv _ (runLoop (relayPass cfg env) fuel 0 st) :=
    runLoop_invariant hgo hleave (show Inv st from ⟨hreset, le_rfl⟩)
  unfold relayLoop
  cases hrun : runLoop (relayPass cfg env) fuel 0 st with
  | inl =>
    rw [hrun] at hbound
    exact (Nat.le_add_right _ _).trans hbound.2
  | inr =>
    rw [hrun] at hbound
    exact hbound

/-- **The loop ends.** -/
theorem relayLoop_stops (hreset : st.param.resetNextTry = false) {fuel : ℕ}
    (hfuel : st.budget cfg.settings < fuel) : ∃ r, relayLoop cfg env fuel st = .inr r := by
  have hgo : ∀ n s s', s.param.resetNextTry = false → relayPass cfg env n s = .inl s' →
      s'.param.resetNextTry = false ∧ s'.budget cfg.settings < s.budget cfg.settings := by
    intro n s s' hs hpass
    obtain ⟨hs', -, hbudget⟩ := relayPass_inl hs hpass
    exact ⟨hs', hbudget⟩
  exact runLoop_stops (fun s => s.budget cfg.settings) hgo hreset hfuel

theorem groupIndex_le_relayPass :
    st.ctx.groupIndex ≤ (lastState (relayPass cfg env n st)).ctx.groupIndex := by
  have hselect : st.ctx.groupIndex ≤ (st.select cfg (env n)).ctx.groupIndex :=
    groupIndex_le_cacheGetRandomSatisfiedChannel
  have hon : ∀ (s : RelayState) (channelId : ℤ),
      (lastState (relayOn cfg (env n) s channelId)).ctx.groupIndex = s.ctx.groupIndex := by
    intro s channelId
    cases hrun : relayOn cfg (env n) s channelId with
    | inl s' =>
      show s'.ctx.groupIndex = s.ctx.groupIndex
      rw [(relayOn_inl hrun).1]
      rfl
    | inr r =>
      show r.state.ctx.groupIndex = s.ctx.groupIndex
      rw [(relayOn_inr hrun).1]
      rfl
  rcases relayPass_cases cfg env n st with ⟨r, hr, -, hindex⟩ | ⟨-, -, hpass⟩ | ⟨c, -, -, -, hpass⟩
  · rw [hr]
    rcases hindex with hindex | hindex
    · exact hindex.ge
    · exact hselect.trans hindex.ge
  · rw [hpass, hon]
  · obtain ⟨_, _, _, _, htoChannel⟩ := toChannel_ctx c
    rw [hpass, hon, htoChannel]
    exact hselect

/-- **The stored index never decreases**, from pass to pass and in the state the loop is left in. -/
theorem relayLoop_groupIndex_monotone :
    Monotone fun fuel => (lastState (relayLoop cfg env fuel st)).ctx.groupIndex := by
  have hgo : ∀ n s s', relayPass cfg env n s = .inl s' → s.ctx.groupIndex ≤ s'.ctx.groupIndex := by
    intro n s s' h
    have hle := @groupIndex_le_relayPass cfg env n s
    rwa [h] at hle
  have hleave : ∀ n s r, relayPass cfg env n s = .inr r →
      s.ctx.groupIndex ≤ r.state.ctx.groupIndex := by
    intro n s r h
    have hle := @groupIndex_le_relayPass cfg env n s
    rwa [h] at hle
  have hmono : Monotone fun fuel => Sum.elim (fun s => s.ctx.groupIndex)
      (fun r => r.state.ctx.groupIndex)
      (runLoop (relayPass cfg env) fuel 0 st) := runLoop_monotone hgo hleave
  simpa only [sumElim_eq_lastState fun s => s.ctx.groupIndex, relayLoop] using hmono

end Loop

/-! ### A small relay -/

def RelayConfig.sample : RelayConfig where
  settings := { retryTimes := 1, groups := ⟨["a", "b"], ["a", "b"], fun _ => []⟩ }
  billing := .standard
  prices :=
    { PriceSettings.sample with
      getCompletionRatio := fun _ => 1
      getCacheRatio := fun _ => 1
      getCreateCacheRatio := fun _ => 1
      getImageRatio := fun _ => 1
      preConsumedQuota := 0
      getBillingMode := fun _ => "ratio"
      getBillingExpr := fun _ => none }
  textPrices := .search
  audioRatios := .ones
  expr := .linear
  requestPath := "/v1/chat/completions"

def RelayContext.sample : RelayContext where
  userGroup := "a"
  usingGroup := "auto"
  tokenGroup := "auto"
  tokenCrossGroupRetry := true

def AttemptEnv.failing (cache : ChannelCache) : AttemptEnv where
  source _ := cache.getRandomSatisfiedChannel 0
  result := .error { message := "", errorCode := "bad_response_status_code" }

end TokensFlux
