import TokensFlux.Channel.Ability

/-!
# A change of the status

With the memory cache, `UpdateChannelStatus` changes the cached copy of a multi-key channel in any
case, and its row only when the row has another status.
-/

namespace TokensFlux

open ChannelRow ChannelTables List Option

/-! ### Statuses of keys -/

section

variable {β : Type}

theorem lookup_cons_ite (m : List (ℕ × β)) (i j : ℕ) (b : β) :
    ((i, b) :: m).lookup j = if j = i then some b else m.lookup j := by
  rw [lookup_cons]
  by_cases h : j = i
  · rw [if_pos h, beq_iff_eq.mpr h]
  · rw [if_neg h, beq_eq_false_iff_ne.mpr h]

theorem lookup_filter_ne (m : List (ℕ × β)) (i j : ℕ) :
    (m.filter fun e => e.1 ≠ i).lookup j = if j = i then none else m.lookup j := by
  induction m with
  | nil => simp
  | cons e _ ih =>
    obtain ⟨k, b⟩ := e
    rw [lookup_cons_ite]
    by_cases hk : k = i
    · rw [filter_cons_of_neg (by simpa using hk), ih]
      subst hk
      split_ifs <;> rfl
    rw [filter_cons_of_pos (by simpa using hk), lookup_cons_ite, ih]
    by_cases hj : j = k
    · rw [if_pos hj, if_neg (hj ▸ hk), if_pos hj]
    · rw [if_neg hj, if_neg hj]

end

theorem ChannelInfoColumn.lookup_setKeyStatus (info : ChannelInfoColumn) (i j : ℕ)
    (status : ChannelStatus) (reason : String) (now : ℤ) :
    (info.setKeyStatus i status reason now).multiKeyStatusList.lookup j
      = if j = i then (if status = .enabled then none else some status)
        else info.multiKeyStatusList.lookup j := by
  unfold setKeyStatus
  split_ifs with henabled hj hj
  · rw [lookup_filter_ne, if_pos hj]
  · rw [lookup_filter_ne, if_neg hj]
  · rw [setEntry, lookup_cons_ite, if_pos hj]
  · rw [setEntry, lookup_cons_ite, if_neg hj, lookup_filter_ne, if_neg hj]

variable {keys : List String} {statusList statusList' : List (ℕ × ChannelStatus)}

theorem hasEnabledMultiKey_congr (h : ∀ i, statusList.lookup i = statusList'.lookup i) :
    hasEnabledMultiKey keys statusList = hasEnabledMultiKey keys statusList' := by
  unfold hasEnabledMultiKey
  simp only [h]

theorem hasEnabledMultiKey_of_lookup {i : ℕ} (hi : i < keys.length)
    (h : statusList.lookup i = none) :
    hasEnabledMultiKey keys statusList = true := by
  unfold hasEnabledMultiKey
  rw [List.any_eq_true]
  refine ⟨i, mem_range.mpr hi, ?_⟩
  rw [h]
  rfl

namespace ChannelRow

variable (json : ChannelJson) (usingKey : String) (status : ChannelStatus)
  (reason : String) (now : ℤ)
  (keys : List String) (c : ChannelRow)

def handledInfo : ChannelInfoColumn :=
  (keys.findIdx? (· = usingKey)).elim c.channelInfo fun i =>
    c.channelInfo.setKeyStatus i status reason now

def handledStatus : ChannelStatus :=
  if keys.findIdx? (· = usingKey) = none then if keys ≠ [] ∧ usingKey ≠ "" then c.status else status
  else if !hasEnabledMultiKey keys (c.handledInfo usingKey status reason now
    keys).multiKeyStatusList then .autoDisabled
  else if status = .enabled then .enabled
  else c.status

/-- **`handlerMultiKeyUpdate`** changes these columns alone. -/
theorem handlerMultiKeyUpdate_eq :
    ∃ otherInfo, c.handlerMultiKeyUpdate json usingKey status reason now keys = { c with
      channelInfo := c.handledInfo usingKey status reason now keys
      status := c.handledStatus usingKey status reason now keys
      otherInfo } := by
  unfold handlerMultiKeyUpdate handledStatus
  by_cases hkeys : keys = []
  · subst hkeys
    exact ⟨c.otherInfo, rfl⟩
  rw [if_neg hkeys]
  cases hfind : keys.findIdx? (· = usingKey) with
  | none =>
    have hinfo : c.handledInfo usingKey status reason now keys = c.channelInfo := by
      rw [handledInfo, hfind, elim_none]
    rw [hinfo, if_pos rfl]
    by_cases husing : usingKey ≠ ""
    · rw [if_pos husing, if_pos ⟨hkeys, husing⟩]
      exact ⟨c.otherInfo, rfl⟩
    · rw [if_neg husing, if_neg fun h => husing h.2]
      exact ⟨_, rfl⟩
  | some i =>
    have hinfo : c.handledInfo usingKey status reason now keys =
        c.channelInfo.setKeyStatus i status reason now := by
      rw [handledInfo, hfind, elim_some]
    rw [hinfo, if_neg (some_ne_none i)]
    dsimp only
    split_ifs <;> exact ⟨_, rfl⟩

variable {usingKey status reason now keys c} {c' : ChannelRow}

theorem lookup_handledInfo (j : ℕ) :
    (c.handledInfo usingKey status reason now keys).multiKeyStatusList.lookup j
      = if keys.findIdx? (· = usingKey) = some j
        then (if status = .enabled then none else some status)
        else c.channelInfo.multiKeyStatusList.lookup j := by
  unfold handledInfo
  cases keys.findIdx? (· = usingKey) with
  | none => rw [if_neg (some_ne_none j).symm, elim_none]
  | some i =>
    simp only [elim_some, ChannelInfoColumn.lookup_setKeyStatus, Option.some.injEq, eq_comm]

theorem isMultiKey_handledInfo :
    (c.handledInfo usingKey status reason now keys).isMultiKey = c.channelInfo.isMultiKey := by
  unfold handledInfo ChannelInfoColumn.setKeyStatus
  cases keys.findIdx? (· = usingKey) with
  | none => rfl
  | some =>
    split_ifs <;> rfl

theorem handledStatus_cases : c.handledStatus usingKey status reason now keys = c.status ∨
    (c.handledStatus usingKey status reason now keys = .enabled ↔ status = .enabled) := by
  unfold handledStatus
  split_ifs with hfind hkeys hnone henabled
  · exact .inl rfl
  · exact .inr Iff.rfl
  · -- No key is left, so the key was not enabled.
    refine .inr (iff_of_false not_false ?_)
    rintro rfl
    obtain ⟨i, hi⟩ := ne_none_iff_exists'.mp hfind
    obtain ⟨hlt, -⟩ := findIdx?_eq_some_iff_getElem.mp hi
    rw [hasEnabledMultiKey_of_lookup hlt (by rw [lookup_handledInfo, if_pos hi, if_pos rfl])]
      at hnone
    exact absurd hnone (by decide)
  · exact .inr (iff_of_true rfl henabled)
  · exact .inl rfl

theorem handledStatus_congr (hstatus : c.status = c'.status)
    (hlist : ∀ i, c.channelInfo.multiKeyStatusList.lookup i =
      c'.channelInfo.multiKeyStatusList.lookup i) :
    c.handledStatus usingKey status reason now keys =
      c'.handledStatus usingKey status reason now keys := by
  have henabled : hasEnabledMultiKey keys (c.handledInfo usingKey status reason now
      keys).multiKeyStatusList
      = hasEnabledMultiKey keys (c'.handledInfo usingKey status reason now
        keys).multiKeyStatusList := by
    apply hasEnabledMultiKey_congr
    intro i
    rw [lookup_handledInfo, lookup_handledInfo, hlist]
  rw [handledStatus, hstatus, henabled, ← handledStatus]

theorem getKeys_toChannel : (c.toChannel json).getKeys = c.getKeys json := by
  unfold Channel.getKeys toChannel getKeys
  split_ifs <;> rfl

end ChannelRow

/-! ### The cached copy and the row -/

structure CachedTables.Agree (s : CachedTables) (row : ChannelRow) : Prop where
  found : s.tables.getChannelById s.cached.id = some row
  key : row.key = s.cached.key
  status : row.status = s.cached.status
  statusList : ∀ i, row.channelInfo.multiKeyStatusList.lookup i =
    s.cached.channelInfo.multiKeyStatusList.lookup i
  abilities : ∀ a ∈ s.tables.abilities, a.channelId = s.cached.id →
    (a.enabled = true ↔ row.status = .enabled)

namespace CachedTables

variable {s : CachedTables} {row : ChannelRow} {json : ChannelJson} {usingKey : String}
  {status : ChannelStatus}
  {reason : String} {now : ℤ}

theorem Agree.getKeys_eq (h : s.Agree row) : row.getKeys json = s.cached.getKeys json := by
  unfold getKeys
  rw [h.key]

/-- A cache that is read again hands out the same keys. -/
theorem Agree.enabledIdx_eq (h : s.Agree row) :
    (row.toChannel json).enabledIdx = (s.cached.toChannel json).enabledIdx := by
  have hstatus : ∀ i, (row.toChannel json).keyStatus i =
      (s.cached.toChannel json).keyStatus i := fun i =>
    congrArg (·.getD ChannelStatus.enabled) (h.statusList i)
  unfold Channel.enabledIdx
  rw [getKeys_toChannel, getKeys_toChannel, h.getKeys_eq]
  simp only [hstatus]

/-- For a status that the channel has already, the call leaves the statuses as they are. -/
def StatusKept (json : ChannelJson) (usingKey : String) (status : ChannelStatus)
    (c : ChannelRow) : Prop :=
  ∀ i, (c.getKeys json).findIdx? (· = usingKey) = some i →
    c.channelInfo.multiKeyStatusList.lookup i = (if status = .enabled then none else some status) ∧
      (status = .autoDisabled ∨
        hasEnabledMultiKey (c.getKeys json) c.channelInfo.multiKeyStatusList = true)

theorem statusKept_iff {c : ChannelRow} (h : c.status = status) :
    StatusKept json usingKey status c ↔
    (∀ i, (c.handledInfo usingKey status reason now (c.getKeys json)).multiKeyStatusList.lookup i
        = c.channelInfo.multiKeyStatusList.lookup i) ∧
      c.handledStatus usingKey status reason now (c.getKeys json) = status := by
  constructor
  · intro hkept
    have hlist : ∀ i, (c.handledInfo usingKey status reason now
        (c.getKeys json)).multiKeyStatusList.lookup i
        = c.channelInfo.multiKeyStatusList.lookup i := by
      intro i
      rw [lookup_handledInfo]
      by_cases hi : (c.getKeys json).findIdx? (· = usingKey) = some i
      · rw [if_pos hi, (hkept i hi).1]
      · rw [if_neg hi]
    refine ⟨hlist, ?_⟩
    rw [handledStatus, hasEnabledMultiKey_congr hlist, h, ite_self]
    split_ifs with hfind hnone henabled
    · rfl
    · obtain ⟨i, hi⟩ := ne_none_iff_exists'.mp hfind
      exact ((hkept i hi).2.resolve_right (by simpa using hnone)).symm
    · exact henabled.symm
    · rfl
  rintro ⟨hlist, hstatus⟩ i hi
  have hlookup := hlist i
  rw [lookup_handledInfo, if_pos hi] at hlookup
  refine ⟨hlookup.symm, ?_⟩
  rw [handledStatus, if_neg (hi ▸ some_ne_none i), hasEnabledMultiKey_congr hlist] at hstatus
  cases henabled : hasEnabledMultiKey (c.getKeys json) c.channelInfo.multiKeyStatusList with
  | false => exact .inl (by simpa [henabled] using hstatus.symm)
  | true => exact .inr rfl

theorem getChannelById_updateChannels {t : ChannelTables} {id : ℤ} {c c' : ChannelRow}
    (h : t.getChannelById id = some c) (hid : c'.id = c.id) :
    (t.updateChannels (fun row => row.id = id) fun _ => c').getChannelById id = some c' := by
  unfold getChannelById at h
  have hc : c.id = id := by simpa using find?_some h
  have hsame : ((fun row : ChannelRow => decide (row.id = id)) ∘ fun row =>
      if decide (row.id = id) then c' else row)
      = fun row => decide (row.id = id) := by
    funext row
    by_cases hrow : row.id = id <;> simp [hrow, hid, hc]
  unfold getChannelById updateChannels updateWhere
  rw [find?_map, hsame, h, map_some, if_pos (decide_eq_true hc)]

/-- **The cached copy and the row agree after a call** if and only if their status was another one,
or the call leaves the cached copy as it is. -/
theorem updateChannelStatus_agree_iff (h : s.Agree row)
    (hcached : s.cached.channelInfo.isMultiKey = true) (hrow : row.channelInfo.isMultiKey = true) :
    (∃ row', (s.updateChannelStatus json usingKey status reason now).Agree row' ∧
      (row'.toChannel json).enabledIdx
        = ((s.updateChannelStatus json usingKey status reason now).cached.toChannel
          json).enabledIdx) ↔
      (s.cached.status = status → StatusKept json usingKey status s.cached) := by
  rw [exists_congr fun row' => and_iff_left_of_imp fun hagree => hagree.enabledIdx_eq]
  obtain ⟨_, hcached'⟩ :=
    s.cached.handlerMultiKeyUpdate_eq json usingKey status reason now (s.cached.getKeys json)
  rw [updateChannelStatus, if_pos hcached, hcached', ChannelTables.updateChannelStatus, h.found,
    bind_some, changeStatus]
  by_cases hsame : s.cached.status = status
  · -- The row stays as it is.
    rw [if_pos (h.status.trans hsame), imp_iff_right hsame, statusKept_iff hsame]
    constructor
    · rintro ⟨row', hagree⟩
      obtain rfl : row = row' := some.inj (h.found.symm.trans hagree.found)
      refine ⟨fun i => (hagree.statusList i).symm.trans (h.statusList i), ?_⟩
      exact hagree.status.symm.trans (h.status.trans hsame)
    · rintro ⟨hlist, hstatus⟩
      exact ⟨row, h.found, h.key, (h.status.trans hsame).trans hstatus.symm,
        fun i => (h.statusList i).trans (hlist i).symm, h.abilities⟩
  -- Both copies are changed alike.
  obtain ⟨c', hc', hid, hkey, hinfo, hstatus⟩ : ∃ c',
    row.handlerMultiKeyUpdate json usingKey status reason now
      (s.cached.getKeys json) = c' ∧ c'.id = row.id ∧ c'.key = row.key ∧
      c'.channelInfo = row.handledInfo usingKey status reason now (s.cached.getKeys json) ∧
      c'.status = row.handledStatus usingKey status reason now (s.cached.getKeys json) := by
    obtain ⟨_, hrow'⟩ :=
      row.handlerMultiKeyUpdate_eq json usingKey status reason now (s.cached.getKeys json)
    exact ⟨_, hrow', rfl, rfl, rfl, rfl⟩
  have hfound := getChannelById_updateChannels h.found hid
  have hcases : c'.status = row.status ∨ (c'.status = .enabled ↔ status = .enabled) :=
    hstatus ▸ handledStatus_cases
  rw [if_neg (h.status.trans_ne hsame), if_pos hrow, h.getKeys_eq, hc']
  refine iff_of_true ⟨c', ?_, hkey.trans h.key,
    hstatus.trans (handledStatus_congr h.status h.statusList), fun i => ?_, ?_⟩
    fun heq => absurd heq hsame
  · dsimp only
    split_ifs <;> exact hfound
  · rw [hinfo, lookup_handledInfo, lookup_handledInfo, h.statusList]
  dsimp only
  split_ifs with hchanged
  · intro a ha hid
    obtain ⟨b, -, rfl⟩ := mem_updateWhere.mp ha
    split_ifs at hid ⊢ with hb
    · rw [hcases.resolve_left (of_decide_eq_true hchanged).symm, decide_eq_true_eq]
    · exact absurd (decide_eq_true hid) hb
  · rw [← not_not.mp fun hne => hchanged (decide_eq_true hne)]
    exact h.abilities

end CachedTables

/-- The first of two keys is disabled. -/
def ChannelRow.keyDisabled : ChannelRow where
  id := 1
  key := "a\nb"
  status := .enabled
  channelInfo := { isMultiKey := true, multiKeyMode := .random,
                   multiKeyStatusList := [(0, .manuallyDisabled)] }

def CachedTables.keyDisabled : CachedTables :=
  ⟨.keyDisabled, { channels := [.keyDisabled] }⟩

theorem CachedTables.agree_keyDisabled : keyDisabled.Agree .keyDisabled :=
  ⟨rfl, rfl, rfl, fun _ => rfl, by decide⟩

theorem updateChannelStatus_agree_lastKey :
    let s := CachedTables.keyDisabled.updateChannelStatus .plain "b" .autoDisabled "" 0
    ∃ row, s.Agree row ∧ (row.toChannel .plain).enabledIdx =
      (s.cached.toChannel .plain).enabledIdx :=
  (CachedTables.updateChannelStatus_agree_iff CachedTables.agree_keyDisabled rfl rfl).mpr fun h =>
    absurd h (by decide)

/-- The channel is enabled already, so only the cached copy hears that the key is enabled again. -/
theorem updateChannelStatus_agree_enableKey :
    let s := CachedTables.keyDisabled.updateChannelStatus .plain "a" .enabled "" 0
    CachedTables.keyDisabled.Agree .keyDisabled ∧ (s.cached.toChannel .plain).enabledIdx = [0, 1] ∧
      s.tables.channels.map (fun row => (row.toChannel .plain).enabledIdx) = [[1]] :=
  ⟨CachedTables.agree_keyDisabled, by decide +kernel, by decide +kernel⟩

end TokensFlux
