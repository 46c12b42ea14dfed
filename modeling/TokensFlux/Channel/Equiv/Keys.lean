import TokensFlux.Channel.Equiv.Status
import TokensFlux.Channel.Keys
import TokensFlux.Relay.Equiv.Channel
import TokensFlux.Lib.Guarded

/-!
# A disabled key is not handed out

`UpdateChannelStatus` disables only the first position of a key, and without the memory cache a copy
that is written back restores the statuses it was loaded with.  `KeepsDisabled` says of a step that
neither happens, and `Inv` is what such steps keep, once for each of the two modes.
-/

namespace TokensFlux

open CachedKeyState ChannelRow Function Inv List Option

/-! ### Statuses of keys -/

variable {row : ChannelRow}

namespace ChannelRow

variable (json : ChannelJson)

def keyStatus (c : ChannelRow) (i : ℕ) : ChannelStatus :=
  (c.channelInfo.multiKeyStatusList.lookup i).getD .enabled

def Blocks (c : ChannelRow) (key : String) : Prop :=
  ∀ i, (c.getKeys json)[i]? = some key → c.keyStatus i ≠ .enabled

/-- The key is disabled wherever it stands but for its first position. -/
def BlocksRepeated (c : ChannelRow) (key : String) : Prop :=
  ∀ i, (c.getKeys json)[i]? = some key → (c.getKeys json).findIdx? (· = key) ≠ some i →
    c.keyStatus i ≠ .enabled

variable {json}

theorem blocks_congr {c c' : ChannelRow} (hkey : c'.key = c.key)
    (hlist : c'.channelInfo.multiKeyStatusList = c.channelInfo.multiKeyStatusList) {key : String} :
    c'.Blocks json key ↔ c.Blocks json key := by
  unfold Blocks keyStatus getKeys
  rw [hkey, hlist]

variable (c : ChannelRow)

theorem getKeys_movePollingIndex (idx : ℕ) :
    (c.movePollingIndex json idx).getKeys json = c.getKeys json := by
  have hkey : (c.movePollingIndex json idx).key = c.key := rfl
  unfold getKeys
  rw [hkey]

theorem blocks_movePollingIndex (idx : ℕ) (key : String) :
    (c.movePollingIndex json idx).Blocks json key ↔ c.Blocks json key :=
  @blocks_congr json c (c.movePollingIndex json idx) rfl rfl key

variable {c : ChannelRow} {key : String}

theorem blocks_saveChannelInfo (hkey : c.key = row.key) (key : String) :
    (row.saveChannelInfo c).Blocks json key ↔ c.Blocks json key :=
  @blocks_congr json c (row.saveChannelInfo c) hkey.symm rfl key

theorem blocks_saveWithoutKey (hkey : c.key = row.key) (key : String) :
    (row.saveWithoutKey c).Blocks json key ↔ c.Blocks json key :=
  @blocks_congr json c (row.saveWithoutKey c) hkey.symm rfl key

theorem blocks_iff (hfirst : ∀ i, (c.getKeys json).findIdx? (· = key) = some i →
      c.keyStatus i ≠ .enabled) :
    c.Blocks json key ↔ c.BlocksRepeated json key := by
  constructor
  · exact fun h i hi _ => h i hi
  intro h i hi
  by_cases hfind : (c.getKeys json).findIdx? (· = key) = some i
  · exact hfirst i hfind
  · exact h i hi hfind

theorem blocksRepeated_of_nodup (h : (c.getKeys json).Nodup) (key : String) :
    c.BlocksRepeated json key := by
  intro i hi hfirst
  obtain ⟨hlt, heq⟩ := List.getElem?_eq_some_iff.mp hi
  refine absurd (List.findIdx?_eq_some_iff_getElem.mpr ⟨hlt, decide_eq_true heq, ?_⟩) hfirst
  intro j hj hsame
  have hij : (c.getKeys json)[j] = (c.getKeys json)[i] := (of_decide_eq_true hsame).trans heq.symm
  exact absurd (h.getElem_inj_iff.mp hij) (Nat.ne_of_lt hj)

theorem not_blocks_of_getNextEnabledKey {random : ℕ} {pollingIndex : ℤ} {idx : ℕ}
    (hmulti : c.channelInfo.isMultiKey = true)
    (h : c.getNextEnabledKey json random pollingIndex = .ok (key, idx)) : ¬ c.Blocks json key := by
  intro hblocks
  obtain ⟨hkey, hstatus⟩ := Channel.getNextEnabledKey_ok (c := c.toChannel json) hmulti h
  rw [getKeys_toChannel] at hkey
  exact hblocks idx hkey hstatus

/-- **`handlerMultiKeyUpdate`** changes the first position of the key, and nothing else that is
read. -/
theorem handlerMultiKeyUpdate_keys (usingKey : String) (status : ChannelStatus) (reason : String)
    (now : ℤ) (keys : List String) :
    (c.handlerMultiKeyUpdate json usingKey status reason now keys).key = c.key ∧
      (c.handlerMultiKeyUpdate json usingKey status reason now keys).channelInfo.isMultiKey
        = c.channelInfo.isMultiKey ∧
      ∀ j, (c.handlerMultiKeyUpdate json usingKey status reason now keys).keyStatus j
        = if keys.findIdx? (· = usingKey) = some j then status else c.keyStatus j := by
  obtain ⟨_, heq⟩ := c.handlerMultiKeyUpdate_eq json usingKey status reason now keys
  rw [heq]
  refine ⟨rfl, isMultiKey_handledInfo, fun j => ?_⟩
  unfold keyStatus
  rw [lookup_handledInfo]
  split_ifs with hfind henabled
  · rw [henabled, getD_none]
  · rw [getD_some]
  · rfl

section Handler

variable {c c' : ChannelRow} {usingKey : String} {status : ChannelStatus}

def Handled (json : ChannelJson) (c c' : ChannelRow) (usingKey : String)
    (status : ChannelStatus) : Prop :=
  c'.key = c.key ∧ c'.channelInfo.isMultiKey = c.channelInfo.isMultiKey ∧
    ∀ j, c'.keyStatus j = if (c.getKeys json).findIdx? (· = usingKey) = some j then status
      else c.keyStatus j

theorem Handled.getKeys_eq (h : Handled json c c' usingKey status) :
    c'.getKeys json = c.getKeys json := by
  unfold getKeys
  rw [h.1]

theorem Handled.blocks_iff_of_ne (h : Handled json c c' usingKey status) (hne : key ≠ usingKey) :
    c'.Blocks json key ↔ c.Blocks json key := by
  have hstatus : ∀ i, (c.getKeys json)[i]? = some key → c'.keyStatus i = c.keyStatus i := by
    intro i hi
    rw [h.2.2 i, if_neg]
    intro hfind
    obtain ⟨hlt, heq, -⟩ := findIdx?_eq_some_iff_getElem.mp hfind
    rw [getElem?_eq_getElem hlt] at hi
    exact hne ((some.inj hi).symm.trans (of_decide_eq_true heq))
  unfold Blocks
  rw [h.getKeys_eq]
  exact forall₂_congr fun i hi => by rw [hstatus i hi]

theorem Handled.blocks (h : Handled json c c' usingKey status) (hstatus : status ≠ .enabled)
    (hblocks : c.Blocks json key) : c'.Blocks json key := by
  intro i hi
  rw [h.getKeys_eq] at hi
  rw [h.2.2 i]
  split_ifs
  · exact hstatus
  · exact hblocks i hi

theorem Handled.first (h : Handled json c c' usingKey status) (hstatus : status ≠ .enabled) (i : ℕ)
    (hfind : (c'.getKeys json).findIdx? (· = usingKey) = some i) : c'.keyStatus i ≠ .enabled := by
  rw [h.getKeys_eq] at hfind
  rw [h.2.2 i, if_pos hfind]
  exact hstatus

theorem handled_of_changeStatus {reason : String} {now : ℤ} {changed : Bool}
    (hmulti : c.channelInfo.isMultiKey = true)
    (h : c.changeStatus json usingKey status reason now = some (c', changed)) :
    Handled json c c' usingKey status := by
  unfold changeStatus at h
  split_ifs at h
  cases h
  exact c.handlerMultiKeyUpdate_keys usingKey status reason now (c.getKeys json)

end Handler

end ChannelRow

/-! ### Without the memory cache -/

theorem forall_update_some {f : ℕ → Option β} {P : β → Prop}
    (hf : ∀ n b, f n = some b → P b) (m : ℕ) {x : β}
    (hx : P x) : ∀ n b, update f m (some x) n = some b → P b :=
  forall_update (fun n b _ => hf n b) fun _ h => some.inj h ▸ hx

/-- It blocks the keys that were disabled when it was loaded. -/
structure HeldChannel.Good (json : ChannelJson) (key : String) (h : HeldChannel) : Prop where
  key_eq : h.channel.key = key
  multi : h.channel.channelInfo.isMultiKey = true
  blocks : ∀ k ∈ h.disabled, h.channel.Blocks json k
  chosen : ∀ k, h.chosen = some k → k ∉ h.disabled

/-- Once changed, the first position of the key is disabled. -/
structure PendingStatus.Good (json : ChannelJson) (key : String) (p : PendingStatus) : Prop where
  key_eq : p.channel.key = key
  multi : p.channel.channelInfo.isMultiKey = true
  first : p.handled = true → p.call.status ≠ .enabled → ∀ i,
    (p.channel.getKeys json).findIdx? (· = p.call.usingKey) = some i →
      p.channel.keyStatus i ≠ .enabled

namespace KeyState

variable (json : ChannelJson)

def RowBlocks (s : KeyState) : Prop :=
  ∀ k ∈ s.disabled, s.row.Blocks json k

structure Inv (s : KeyState) : Prop where
  multi : s.row.channelInfo.isMultiKey = true
  blocks : s.RowBlocks json
  held : ∀ n h, s.held n = some h → h.Good json s.row.key
  pending : ∀ n p, s.pending n = some p → p.Good json s.row.key
  returned : ∀ r ∈ s.returned, r.1 ∉ r.2

/-- A copy that is written back blocks the disabled keys, and so does the copy of a call for the key
it disables, at its other positions. -/
def KeepsDisabled (s : KeyState) : KeyEvent → Prop
  | .saveChannelInfo request =>
    ∀ h, s.held request = some h → h.chosen ≠ none → ∀ k ∈ s.disabled, h.channel.Blocks json k
  | .save caller =>
    ∀ p, s.pending caller = some p → p.handled = true →
      (∀ k ∈ s.disabled, k ≠ p.call.usingKey → p.channel.Blocks json k) ∧
        (p.call.status ≠ .enabled → p.channel.BlocksRepeated json p.call.usingKey)
  | _ => True

variable {json} {s : KeyState}

/-! #### Requests -/

theorem Inv.load (h : s.Inv json) (request : ℕ) : (s.step json (.load request)).Inv json := by
  unfold step
  dsimp only
  split_ifs
  · exact h
  · refine ⟨h.multi, h.blocks, forall_update_some h.held request ?_, h.pending, h.returned⟩
    exact ⟨rfl, h.multi, h.blocks, fun k hk => by cases hk⟩

theorem Inv.choose (h : s.Inv json) (request random : ℕ) :
    (s.step json (.choose request random)).Inv json := by
  unfold step
  dsimp only
  rcases hheld : s.held request with _ | held
  · exact h
  have hgood := h.held request held hheld
  dsimp only
  split_ifs
  · unfold KeyState.choose
    rcases hnext : held.channel.getNextEnabledKey json random
      s.row.channelInfo.multiKeyPollingIndex with _ | result
    · exact h
    obtain ⟨key, idx⟩ := result
    have hkey : key ∉ held.disabled := fun hmem =>
      not_blocks_of_getNextEnabledKey hgood.multi hnext (hgood.blocks key hmem)
    split_ifs
    · refine ⟨h.multi, h.blocks, forall_update_some h.held request ?_, h.pending, h.returned⟩
      refine ⟨hgood.key_eq, hgood.multi, ?_, ?_⟩
      · exact fun k hk => (held.channel.blocks_movePollingIndex idx k).mpr (hgood.blocks k hk)
      · intro k hk
        exact some.inj hk ▸ hkey
    refine ⟨h.multi, h.blocks, h.held, h.pending, ?_⟩
    intro r hr
    rcases mem_cons.mp hr with rfl | hr
    · exact hkey
    · exact h.returned r hr
  · exact h

/-- **A request that saves its object** keeps the disabled keys exactly if the object blocks
them. -/
theorem rowBlocks_saveChannelInfo_iff (h : s.Inv json) (request : ℕ) :
    (s.step json (.saveChannelInfo request)).RowBlocks json ↔
      s.KeepsDisabled json (.saveChannelInfo request) := by
  show _ ↔ ∀ h, s.held request = some h → h.chosen ≠ none → ∀ k ∈ s.disabled,
    h.channel.Blocks json k
  cases hheld : s.held request with
  | none =>
    have hsame : s.step json (.saveChannelInfo request) = s := by
      simp only [step, hheld]
    rw [hsame]
    exact iff_of_true h.blocks fun h hnone => by cases hnone
  | some held =>
    simp only [Option.some.injEq, forall_eq']
    cases hchosen : held.chosen with
    | none =>
      have hsame : s.step json (.saveChannelInfo request) = s := by
        simp only [step, hheld, hchosen]
      rw [hsame]
      exact iff_of_true h.blocks fun hne => absurd rfl hne
    | some key =>
      have hstep : s.step json (.saveChannelInfo request) = s.saveChannelInfo request held key := by
        simp only [step, hheld, hchosen]
      have hgood := h.held request held hheld
      rw [hstep]
      show (∀ k ∈ s.disabled, (s.row.saveChannelInfo held.channel).Blocks json k) ↔ _
      simp only [blocks_saveChannelInfo hgood.key_eq]
      exact ⟨fun hall _ => hall, fun hall => hall (some_ne_none key)⟩

theorem Inv.saveChannelInfo (h : s.Inv json) (request : ℕ)
    (hguard : s.KeepsDisabled json (.saveChannelInfo request)) :
    (s.step json (.saveChannelInfo request)).Inv json := by
  have hblocks := (rowBlocks_saveChannelInfo_iff h request).mpr hguard
  revert hblocks
  unfold step
  dsimp only
  rcases hheld : s.held request with _ | held
  · exact fun _ => h
  dsimp only
  rcases hchosen : held.chosen with _ | key
  · exact fun _ => h
  intro hblocks
  have hgood := h.held request held hheld
  refine ⟨hgood.multi, hblocks, forall_update_some h.held request ?_, h.pending, ?_⟩
  · exact ⟨hgood.key_eq, hgood.multi, hgood.blocks, fun k hk => by cases hk⟩
  intro r hr
  rcases mem_cons.mp hr with rfl | hr
  · exact hgood.chosen key hchosen
  · exact h.returned r hr

/-! #### Calls of `UpdateChannelStatus` -/

theorem Inv.loadRow (h : s.Inv json) (caller : ℕ) (call : StatusCall) :
    (s.step json (.loadRow caller call)).Inv json := by
  unfold step
  dsimp only
  split_ifs
  · exact h
  · refine ⟨h.multi, h.blocks, h.held, forall_update_some h.pending caller ?_, h.returned⟩
    exact ⟨rfl, h.multi, fun hhandled => by cases hhandled⟩

theorem Inv.handle (h : s.Inv json) (caller : ℕ) : (s.step json (.handle caller)).Inv json := by
  unfold step
  dsimp only
  rcases hpending : s.pending caller with _ | p
  · exact h
  have hgood := h.pending caller p hpending
  dsimp only
  split_ifs
  · exact h
  rcases hchange : p.channel.changeStatus json p.call.usingKey p.call.status p.call.reason
    p.call.now with _ | _
  · exact h
  have hhandled := handled_of_changeStatus hgood.multi hchange
  refine ⟨h.multi, h.blocks, h.held, forall_update_some h.pending caller ?_, h.returned⟩
  exact ⟨hhandled.1.trans hgood.key_eq, hhandled.2.1.trans hgood.multi,
    fun _ hne => hhandled.first hne⟩

/-- **A call that saves its copy** keeps the disabled keys exactly if the copy blocks them, and
blocks its own key where that is repeated. -/
theorem rowBlocks_save_iff (h : s.Inv json) (caller : ℕ) :
    (s.step json (.save caller)).RowBlocks json ↔ s.KeepsDisabled json (.save caller) := by
  show _ ↔ ∀ p, s.pending caller = some p → p.handled = true →
    (∀ k ∈ s.disabled, k ≠ p.call.usingKey → p.channel.Blocks json k) ∧
      (p.call.status ≠ .enabled → p.channel.BlocksRepeated json p.call.usingKey)
  cases hpending : s.pending caller with
  | none =>
    have hsame : s.step json (.save caller) = s := by
      simp only [step, hpending]
    rw [hsame]
    exact iff_of_true h.blocks fun p hnone => by cases hnone
  | some p =>
    simp only [Option.some.injEq, forall_eq']
    cases hhandled : p.handled with
    | false =>
      have hsame : s.step json (.save caller) = s := by
        simp only [step, hpending, hhandled]
        rfl
      rw [hsame]
      exact iff_of_true h.blocks fun hfalse => by cases hfalse
    | true =>
      have hgood := h.pending caller p hpending
      have hstep : s.step json (.save caller) = s.savePending caller p := by
        simp only [step, hpending, hhandled]
        rfl
      rw [hstep]
      show (∀ k ∈ disabledAfter s.disabled p.call,
        (s.row.saveWithoutKey p.channel).Blocks json k) ↔ _
      simp only [blocks_saveWithoutKey hgood.key_eq]
      unfold disabledAfter
      split_ifs with hstatus
      · -- The key is enabled.
        simp only [mem_filter, decide_eq_true_eq, and_imp]
        exact ⟨fun hall _ => ⟨hall, fun hne => absurd hstatus hne⟩, fun hall => (hall trivial).1⟩
      have hown := blocks_iff (hgood.first hhandled hstatus)
      rw [forall_mem_cons, hown]
      constructor
      · exact fun hall _ => ⟨fun k hk _ => hall.2 k hk, fun _ => hall.1⟩
      intro hall
      obtain ⟨hothers, hrepeated⟩ := hall trivial
      refine ⟨hrepeated hstatus, fun k hk => ?_⟩
      by_cases hkey : k = p.call.usingKey
      · rw [hkey]
        exact hown.mpr (hrepeated hstatus)
      · exact hothers k hk hkey

theorem Inv.save (h : s.Inv json) (caller : ℕ) (hguard : s.KeepsDisabled json (.save caller)) :
    (s.step json (.save caller)).Inv json := by
  have hblocks := (rowBlocks_save_iff h caller).mpr hguard
  revert hblocks
  unfold step
  dsimp only
  rcases hpending : s.pending caller with _ | p
  · exact fun _ => h
  dsimp only
  split_ifs
  · intro hblocks
    have hgood := h.pending caller p hpending
    exact ⟨hgood.multi, hblocks, h.held,
      forall_update (fun n b _ => h.pending n b) (fun _ h => by cases h), h.returned⟩
  · exact fun _ => h

/-! #### Runs -/

theorem rowBlocks_step_iff (h : s.Inv json) (e : KeyEvent) :
    (s.step json e).RowBlocks json ↔ s.KeepsDisabled json e := by
  cases e with
  | load request => exact iff_of_true (h.load request).blocks trivial
  | choose request random => exact iff_of_true (h.choose request random).blocks trivial
  | saveChannelInfo request => exact rowBlocks_saveChannelInfo_iff h request
  | loadRow caller call => exact iff_of_true (h.loadRow caller call).blocks trivial
  | handle caller => exact iff_of_true (h.handle caller).blocks trivial
  | save caller => exact rowBlocks_save_iff h caller

theorem Inv.step (h : s.Inv json) (e : KeyEvent) (hguard : s.KeepsDisabled json e) :
    (s.step json e).Inv json := by
  cases e with
  | load request => exact h.load request
  | choose request random => exact h.choose request random
  | saveChannelInfo request => exact h.saveChannelInfo request hguard
  | loadRow caller call => exact h.loadRow caller call
  | handle caller => exact h.handle caller
  | save caller => exact h.save caller hguard

theorem inv_init (hmulti : row.channelInfo.isMultiKey = true) : Inv json { row } :=
  ⟨hmulti, fun _ h => absurd h not_mem_nil, fun _ _ h => (some_ne_none _ h.symm).elim,
    fun _ _ h => (some_ne_none _ h.symm).elim, fun _ h => absurd h not_mem_nil⟩

end KeyState

/-! ### With the memory cache -/

namespace CachedKeyState

variable (json : ChannelJson)

def CacheBlocks (s : CachedKeyState) : Prop :=
  ∀ k ∈ s.disabled, s.cached.Blocks json k

def PendingFirst (s : CachedKeyState) : Prop :=
  ∀ call c, s.pending = some (call, c) → call.status ≠ .enabled → ∀ i,
    (s.cached.getKeys json).findIdx? (· = call.usingKey) = some i → s.cached.keyStatus i ≠ .enabled

structure Inv (s : CachedKeyState) : Prop where
  multi : s.cached.channelInfo.isMultiKey = true
  blocks : s.CacheBlocks json
  pending : s.PendingFirst json
  returned : ∀ r ∈ s.returned, r.1 ∉ r.2

/-- The key that a call disables is disabled at its other positions. -/
def KeepsDisabled (s : CachedKeyState) : CachedKeyEvent → Prop
  | .save => ∀ call c, s.pending = some (call, some c) → call.status ≠ .enabled →
      s.cached.BlocksRepeated json call.usingKey
  | _ => True

variable {json} {s : CachedKeyState}

theorem Inv.next (h : s.Inv json) (random : ℕ) : (s.step json (.next random)).Inv json := by
  show (s.next json random).Inv json
  unfold CachedKeyState.next
  rcases hnext : s.cached.getNextEnabledKey json random
    s.cached.channelInfo.multiKeyPollingIndex with _ | result
  · exact h
  obtain ⟨key, idx⟩ := result
  have hreturned : ∀ r ∈ (key, s.disabled) :: s.returned, r.1 ∉ r.2 := by
    intro r hr
    rcases mem_cons.mp hr with rfl | hr
    · exact fun hmem => not_blocks_of_getNextEnabledKey h.multi hnext (h.blocks key hmem)
    · exact h.returned r hr
  split_ifs
  · refine ⟨h.multi, ?_, ?_, hreturned⟩
    · exact fun k hk => (s.cached.blocks_movePollingIndex idx k).mpr (h.blocks k hk)
    intro call c hpending hstatus i hfirst
    rw [getKeys_movePollingIndex] at hfirst
    exact h.pending call c hpending hstatus i hfirst
  · exact ⟨h.multi, h.blocks, h.pending, hreturned⟩

theorem Inv.enter (h : s.Inv json) (call : StatusCall) : (s.step json (.enter call)).Inv json := by
  unfold step
  split_ifs
  · have hhandled : ChannelRow.Handled json s.cached (s.enter json call).cached
        call.usingKey call.status :=
      s.cached.handlerMultiKeyUpdate_keys call.usingKey call.status call.reason call.now
        (s.cached.getKeys json)
    refine ⟨hhandled.2.1.trans h.multi, ?_, ?_, h.returned⟩
    · intro k hk
      have hdisabled : k ∈ if call.status = .enabled then s.disabled.filter fun key =>
          key ≠ call.usingKey
        else s.disabled := hk
      split_ifs at hdisabled with hstatus
      · obtain ⟨hmem, hne⟩ := mem_filter.mp hdisabled
        exact (hhandled.blocks_iff_of_ne (of_decide_eq_true hne)).mpr (h.blocks k hmem)
      · exact hhandled.blocks hstatus (h.blocks k hdisabled)
    · intro call' c hpending hstatus
      cases hpending
      exact hhandled.first hstatus
  · exact h

theorem Inv.load (h : s.Inv json) : (s.step json .load).Inv json := by
  unfold step
  match hpending : s.pending with
  | none => exact h
  | some (call, some c) => exact h
  | some (call, none) =>
    dsimp only
    split_ifs
    · exact ⟨h.multi, h.blocks, fun _ _ hnone => (some_ne_none _ hnone.symm).elim, h.returned⟩
    refine ⟨h.multi, h.blocks, ?_, h.returned⟩
    intro call' c hsome
    cases hsome
    exact h.pending call none hpending

/-- **A call that returns true** keeps the disabled keys exactly if its key is disabled where it is
repeated. -/
theorem cacheBlocks_save_iff (h : s.Inv json) :
    (s.step json .save).CacheBlocks json ↔ s.KeepsDisabled json .save := by
  show _ ↔ ∀ call c, s.pending = some (call, some c) → call.status ≠ .enabled →
    s.cached.BlocksRepeated json call.usingKey
  match hpending : s.pending with
  | none | some (call, none) =>
    have hsame : s.step json .save = s := by
      simp only [step, hpending]
    rw [hsame]
    exact iff_of_true h.blocks fun _ _ hnone => by cases hnone
  | some (call, some c) =>
    have hcached : (s.step json .save).cached = s.cached := by
      simp only [step, hpending]
    have hdisabled : (s.step json .save).disabled
        = if call.status = .enabled then s.disabled else call.usingKey :: s.disabled := by
      simp only [step, hpending]
    unfold CacheBlocks
    rw [hcached, hdisabled]
    constructor
    · intro hall call' c' hsome hstatus
      cases hsome
      rw [if_neg hstatus, forall_mem_cons] at hall
      exact (blocks_iff (h.pending call _ hpending hstatus)).mp hall.1
    intro hall
    split_ifs with hstatus
    · exact h.blocks
    · rw [forall_mem_cons]
      exact ⟨(blocks_iff (h.pending call _ hpending hstatus)).mpr (hall call c rfl hstatus),
        h.blocks⟩

theorem Inv.save (h : s.Inv json) (hguard : s.KeepsDisabled json .save) :
    (s.step json .save).Inv json := by
  have hblocks := (cacheBlocks_save_iff h).mpr hguard
  revert hblocks
  unfold step
  match s.pending with
  | none | some (call, none) => exact fun _ => h
  | some (call, some c) =>
    intro hblocks
    exact ⟨h.multi, hblocks, fun _ _ hnone => (some_ne_none _ hnone.symm).elim, h.returned⟩

theorem cacheBlocks_step_iff (h : s.Inv json) (e : CachedKeyEvent) :
    (s.step json e).CacheBlocks json ↔ s.KeepsDisabled json e := by
  cases e with
  | next random => exact iff_of_true (h.next random).blocks trivial
  | enter call => exact iff_of_true (h.enter call).blocks trivial
  | load => exact iff_of_true h.load.blocks trivial
  | save => exact cacheBlocks_save_iff h

theorem Inv.step (h : s.Inv json) (e : CachedKeyEvent) (hguard : s.KeepsDisabled json e) :
    (s.step json e).Inv json := by
  cases e with
  | next random => exact h.next random
  | enter call => exact h.enter call
  | load => exact h.load
  | save => exact h.save hguard

theorem inv_init {cached : ChannelRow} (hmulti : cached.channelInfo.isMultiKey = true) :
    Inv json { cached, row } :=
  ⟨hmulti, fun _ h => absurd h not_mem_nil, fun _ _ h => (some_ne_none _ h.symm).elim,
    fun _ h => absurd h not_mem_nil⟩

end CachedKeyState

/-! ### Runs -/

def NoneDisabled (returned : List (String × List String)) : Prop :=
  ∀ r ∈ returned, r.1 ∉ r.2

/-- **A disabled key is not handed out**: without and with the memory cache, the object that
requests load blocks all disabled keys throughout a run exactly if every step meets the
condition. -/
theorem disabled_key_not_returned_iff (json : ChannelJson) {cached row : ChannelRow}
    (hcached : cached.channelInfo.isMultiKey = true) (hrow : row.channelInfo.isMultiKey = true)
    (events : List KeyEvent) (cachedEvents : List CachedKeyEvent) :
    (((∀ done, done <+: events → (done.foldl (KeyState.step json) { row }).RowBlocks json)
          ↔ Guarded (KeyState.step json) (KeyState.KeepsDisabled json) { row } events) ∧
        (Guarded (KeyState.step json) (KeyState.KeepsDisabled json) { row } events →
          NoneDisabled (events.foldl (KeyState.step json) { row }).returned)) ∧
      ((∀ done, done <+: cachedEvents →
        (done.foldl (CachedKeyState.step json) { cached, row }).CacheBlocks json)
          ↔ Guarded (CachedKeyState.step json) (CachedKeyState.KeepsDisabled json)
          { cached, row } cachedEvents) ∧
        (Guarded (CachedKeyState.step json) (CachedKeyState.KeepsDisabled json)
          { cached, row } cachedEvents → NoneDisabled (cachedEvents.foldl (CachedKeyState.step json)
            { cached, row }).returned) := by
  refine ⟨⟨?_, ?_⟩, ?_, ?_⟩
  · exact (Guarded.iff_forall_prefix_of_invariant (fun s e h => KeyState.rowBlocks_step_iff h e)
      (fun s e h => h.step e) (fun s h => h.blocks) (KeyState.inv_init hrow)).symm
  · intro hguarded
    exact (@Guarded.invariant _ _ (KeyState.step json) (KeyState.KeepsDisabled json)
      (KeyState.Inv json)
      (fun s e h => h.step e) { row } events (KeyState.inv_init hrow) hguarded).returned
  · exact (Guarded.iff_forall_prefix_of_invariant (fun s e h => cacheBlocks_step_iff h e)
      (fun s e h => h.step e) (fun s h => h.blocks) (inv_init hcached)).symm
  intro hguarded
  exact (@Guarded.invariant _ _ (CachedKeyState.step json) (CachedKeyState.KeepsDisabled json)
    (CachedKeyState.Inv json) (fun s e h => h.step e) { cached, row } cachedEvents
    (inv_init hcached) hguarded).returned

def ChannelRow.twoKeys (mode : MultiKeyMode) : ChannelRow where
  id := 1
  key := "a\nb"
  status := .enabled
  channelInfo := { isMultiKey := true, multiKeyMode := mode, multiKeySize := 2 }

theorem disabled_key_not_returned_twoKeys :
    NoneDisabled ([KeyEvent.loadRow 2 { usingKey := "a", status := .autoDisabled },
      .handle 2, .save 2, .load 1, .choose 1 0].foldl (KeyState.step .plain)
        { row := .twoKeys .random }).returned := by
  apply (@disabled_key_not_returned_iff .plain (.twoKeys .random) (.twoKeys .random) rfl rfl
    [KeyEvent.loadRow 2 { usingKey := "a", status := .autoDisabled }, .handle 2, .save 2,
     .load 1, .choose 1 0] []).1.2
  refine ⟨trivial, trivial, ?_, trivial, trivial, trivial⟩
  intro p hp _
  refine ⟨fun k hk => absurd hk not_mem_nil, fun _ => blocksRepeated_of_nodup ?_ _⟩
  cases hp
  decide +kernel

/-- A request in polling mode saves an object that it has loaded before the key was disabled, and
the next one gets the key. -/
theorem disabled_key_not_returned_staleObject :
    ("a", ["a"]) ∈ ([KeyEvent.load 1, .loadRow 2 { usingKey := "a", status := .autoDisabled },
      .handle 2, .save 2, .choose 1 0, .saveChannelInfo 1, .load 3, .choose 3 0, .saveChannelInfo 3,
      .load 4, .choose 4 0, .saveChannelInfo 4].foldl (KeyState.step .plain)
        { row := .twoKeys .polling }).returned := by
  decide +kernel

/-! ### Polling -/

/-- The enabled positions from `index` on, around the list of keys. -/
def Channel.turns (c : Channel) (index : ℤ) : List ℕ :=
  let n := c.getKeys.length
  ((range n).rotate (if index < 0 ∨ (n : ℤ) ≤ index then 0 else index.toNat)).filter fun i =>
    c.keyStatus i = .enabled

def ChannelRow.turns (c : ChannelRow) (json : ChannelJson) : List ℕ :=
  (c.toChannel json).turns c.channelInfo.multiKeyPollingIndex

variable {idx : ℕ} {rest taken : List ℕ}

theorem Channel.perm_turns (c : Channel) (index : ℤ) : c.turns index ~ c.enabledIdx :=
  (rotate_perm ..).filter _

theorem Channel.getNextEnabledKey_of_turns {c : Channel} {random : ℕ} {index : ℤ}
    (hmulti : c.channelInfo.isMultiKey = true) (hmode : c.channelInfo.multiKeyMode = .polling)
    (h : c.turns index = idx :: rest) :
    c.getNextEnabledKey ⟨random, .ok index⟩ = .ok (c.getKeys.getD idx "", idx) := by
  have hperm := c.perm_turns index
  have hhead := congrArg head? h
  dsimp only [Channel.turns] at hhead
  rw [head?_filter] at hhead
  unfold Channel.getNextEnabledKey
  rw [if_neg (by simp [hmulti])]
  rcases henabled : c.enabledIdx with _ | ⟨first, others⟩
  · rw [h, henabled] at hperm
    cases hperm.eq_nil
  · simp only [hmode, map_add_mod_range, hhead]
    rfl

namespace CachedKeyState

variable {json : ChannelJson} {s : CachedKeyState}

theorem turns_movePollingIndex {c : ChannelRow} (h : c.turns json = idx :: rest) :
    (c.movePollingIndex json idx).turns json = rest ++ [idx] := by
  have hmem : idx ∈ (c.toChannel json).enabledIdx :=
    (Channel.perm_turns ..).subset (h ▸ mem_cons_self)
  obtain ⟨hlt, -⟩ := Channel.mem_enabledIdx.mp hmem
  have hnext := Nat.mod_lt (idx + 1) (Nat.zero_lt_of_lt hlt)
  have hturns := filter_rotate_next h
  have hindex : (c.movePollingIndex json idx).channelInfo.multiKeyPollingIndex
      = ((idx + 1) % (c.getKeys json).length : ℕ) := rfl
  have hstatus : ((c.movePollingIndex json idx).toChannel json).keyStatus =
      (c.toChannel json).keyStatus := by
    unfold Channel.keyStatus toChannel movePollingIndex
    rfl
  unfold ChannelRow.turns Channel.turns
  rw [getKeys_toChannel] at *
  rw [getKeys_movePollingIndex, hindex, hstatus]
  dsimp only
  rw [if_neg (by omega), Int.toNat_natCast]
  exact hturns

variable (hmulti : s.cached.channelInfo.isMultiKey = true)
  (hmode : s.cached.channelInfo.multiKeyMode = .polling)

include hmulti hmode

theorem next_of_turns (h : s.cached.turns json = idx :: rest) (random : ℕ) :
    s.next json random = { s with
      cached := s.cached.movePollingIndex json idx
      returned := ((s.cached.getKeys json).getD idx "", s.disabled) :: s.returned } := by
  unfold CachedKeyState.next ChannelRow.getNextEnabledKey
  rw [Channel.getNextEnabledKey_of_turns hmulti hmode h, getKeys_toChannel]
  dsimp only
  rw [if_pos hmode]

/-- **Polling is a round robin**: calls return the keys at the enabled positions in turn, each once
in a round. -/
theorem returned_eq_turns (h : s.cached.turns json = taken ++ rest) {randoms : List ℕ}
    (hlength : randoms.length = taken.length) :
    let s' := (randoms.map .next).foldl (step json) s
    s'.returned = (taken.map fun i => ((s.cached.getKeys json).getD i "",
      s.disabled)).reverse ++ s.returned ∧ s'.cached.turns json = rest ++ taken ∧ rest ++
        taken ~ (s.cached.toChannel json).enabledIdx := by
  refine and_assoc.mp ⟨?_, perm_append_comm.trans (h ▸ Channel.perm_turns ..)⟩
  induction taken generalizing s rest randoms with
  | nil =>
    rw [length_eq_zero_iff.mp hlength]
    exact ⟨rfl, by rw [append_nil]; exact h⟩
  | cons idx taken ih =>
    obtain ⟨random, randoms, rfl⟩ := exists_cons_of_length_eq_add_one hlength
    have hstep : step json s (.next random) = _ := next_of_turns hmulti hmode h random
    have hturns : (s.cached.movePollingIndex json idx).turns json = taken ++ (rest ++ [idx]) := by
      rw [turns_movePollingIndex h, List.append_eq, append_assoc]
    have hrun := @ih _ (step json s (.next random)) (by rw [hstep]; exact hmulti)
      (by rw [hstep]; exact hmode) (by rw [hstep]; exact hturns) randoms (Nat.succ.inj hlength)
    rw [hstep] at hrun
    dsimp only at hrun
    rw [getKeys_movePollingIndex] at hrun
    rw [map_cons, foldl_cons, map_cons, reverse_cons, append_assoc, hstep]
    exact ⟨hrun.1, by rw [hrun.2, append_assoc]; rfl⟩

end CachedKeyState

theorem CachedKeyState.returned_eq_turns_twoKeys : (([7, 7].map .next).foldl (step .plain)
    { cached := .twoKeys .polling, row := .twoKeys .polling }).returned = [("b", []), ("a", [])] :=
  (@returned_eq_turns [] [0, 1] .plain { cached := .twoKeys .polling,
                                         row := .twoKeys .polling } rfl rfl
    (by decide +kernel) [7, 7] rfl).1.trans (by decide +kernel)

end TokensFlux
