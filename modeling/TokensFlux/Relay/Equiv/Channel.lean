import TokensFlux.Lib.Draw
import TokensFlux.Relay.Channel
import Mathlib.Tactic.Ring

/-!
# What the channel cache answers

The weighted choice is a draw at the weights `smoothedWeight`, among the channels of the priority
`priorityLevel`; it finds one if and only if there is a candidate.
-/

namespace TokensFlux

open List Option Except

/-! ### Choosing by weight -/

variable (channels : List Channel)

/-- What the loop subtracts for the channel. -/
def smoothedWeight (c : Channel) : ℕ :=
  let (smoothingFactor, smoothingAdjustment) :=
    smoothing (channels.foldl (fun sum c => sum + c.getWeight) 0) channels.length
  c.getWeight * smoothingFactor + smoothingAdjustment

/-- What `rand.Intn` is asked for. -/
def drawnBelow : ℕ :=
  let sumWeight := channels.foldl (fun sum c => sum + c.getWeight) 0
  (if sumWeight = 0 then channels.length * 100 else sumWeight) *
    (smoothing sumWeight channels.length).1

theorem weightedChannel_eq_draw (smoothingFactor smoothingAdjustment r : ℕ) :
    weightedChannel smoothingFactor smoothingAdjustment r channels
      = draw (fun c => c.getWeight * smoothingFactor + smoothingAdjustment) r channels := by
  induction channels generalizing r with
  | nil => rfl
  | cons _ _ ih =>
    rw [weightedChannel, draw]
    simp only [ih]

theorem randomChannel_eq (random : ℕ) : randomChannel channels random
    = draw (smoothedWeight channels) (random % drawnBelow channels) channels :=
  weightedChannel_eq_draw channels _ _ _

theorem total_smoothed (smoothingFactor smoothingAdjustment : ℕ) :
    totalWeight (fun c : Channel => c.getWeight * smoothingFactor + smoothingAdjustment) channels
      = totalWeight Channel.getWeight channels * smoothingFactor + channels.length *
      smoothingAdjustment := by
  induction channels with
  | nil => simp [totalWeight]
  | cons _ _ ih =>
    rw [totalWeight, totalWeight, ih, length_cons]
    ring

theorem drawnBelow_eq : drawnBelow channels = totalWeight (smoothedWeight channels) channels := by
  have htotal := total_smoothed channels
    (smoothing (channels.foldl (fun sum c => sum + c.getWeight) 0) channels.length).1
    (smoothing (channels.foldl (fun sum c => sum + c.getWeight) 0) channels.length).2
  refine Eq.trans ?_ htotal.symm
  unfold drawnBelow smoothing
  dsimp only
  rw [foldl_add_eq_totalWeight, Nat.zero_add]
  split_ifs with hzero
  · rw [hzero]
    ring
  · ring
  · ring

variable {channels} {c : Channel}

theorem drawnBelow_pos (h : channels ≠ []) : 0 < drawnBelow channels := by
  have hlength : 0 < channels.length := length_pos_of_ne_nil h
  unfold drawnBelow smoothing
  dsimp only
  split_ifs <;> omega

theorem exists_randomChannel (h : channels ≠ []) (random : ℕ) :
    ∃ c ∈ channels, randomChannel channels random = some c := by
  rw [randomChannel_eq]
  apply exists_draw
  rw [← drawnBelow_eq]
  exact Nat.mod_lt _ (drawnBelow_pos h)

/-! ### Priorities -/

def priorityLevel (priorities : List ℤ) (retry : ℕ) : ℤ :=
  let distinct := priorities.dedup.insertionSort (· ≥ ·)
  distinct.getD (min retry (distinct.length - 1)) 0

theorem priorityLevel_mem {ps : List ℤ} (h : ps ≠ []) (retry : ℕ) :
    priorityLevel ps retry ∈ ps := by
  have hall : ∀ q, q ∈ ps.dedup.insertionSort (· ≥ ·) → q ∈ ps := by
    intro q
    rw [mem_insertionSort, mem_dedup]
    exact id
  have hpos : 0 < (ps.dedup.insertionSort (· ≥ ·)).length := by
    rw [length_insertionSort, length_pos_iff, ne_eq, dedup_eq_nil]
    exact h
  have hlt : min retry ((ps.dedup.insertionSort (· ≥ ·)).length - 1)
      < (ps.dedup.insertionSort (· ≥ ·)).length := by omega
  apply hall
  unfold priorityLevel
  rw [getD_eq_getElem?_getD, getElem?_eq_getElem hlt, getD_some]
  exact getElem_mem hlt

namespace ChannelCache

variable (cache : ChannelCache)

theorem exists_targetPriority (h : channels ≠ []) (retry : ℕ) :
    ∃ c ∈ channels, c.getPriority = targetPriority channels retry :=
  mem_map.mp (@priorityLevel_mem (channels.map Channel.getPriority)
    (map_eq_nil_iff.not.mpr h) retry)

/-! ### The candidates of a group -/

variable {requestPath : String}

theorem mem_of_mem_filterChannelsByRequestPath {channels : List ℤ} {id : ℤ}
    (h : id ∈ cache.filterChannelsByRequestPath channels requestPath) : id ∈ channels := by
  unfold filterChannelsByRequestPath at h
  split_ifs at h
  · exact h
  · exact mem_of_mem_filter h

theorem isSome_channelsIDM_of_mem {group model : String} {id : ℤ}
    (h : id ∈ cache.satisfiedChannels group model requestPath) : (cache.channelsIDM id).isSome := by
  unfold satisfiedChannels at h
  dsimp only at h
  split_ifs at h <;> exact cache.isSome_channelsIDM _ _ id
    (cache.mem_of_mem_filterChannelsByRequestPath h)

theorem exists_lookupAll {ids : List ℤ} (h : ∀ id ∈ ids, (cache.channelsIDM id).isSome) :
    ∃ channels, cache.lookupAll ids = .ok channels ∧ channels.length = ids.length := by
  induction ids with
  | nil => exact ⟨[], rfl, rfl⟩
  | cons id _ ih =>
    obtain ⟨c, hc⟩ := isSome_iff_exists.mp (h id mem_cons_self)
    obtain ⟨channels, hchannels, hlength⟩ := ih fun i hi => h i (mem_cons_of_mem _ hi)
    refine ⟨c :: channels, ?_, ?_⟩
    · rw [lookupAll, hc, hchannels]
    · rw [length_cons, length_cons, hlength]

/-- **A group answers exactly when it has a candidate.** -/
theorem isSome_getRandomSatisfiedChannel_iff {random retry : ℕ} {group model : String} :
    (cache.getRandomSatisfiedChannel random group model retry requestPath).1.isSome
      ↔ cache.satisfiedChannels group model requestPath ≠ [] := by
  have hsome : ∀ id ∈ cache.satisfiedChannels group model requestPath,
      (cache.channelsIDM id).isSome :=
    fun _ => cache.isSome_channelsIDM_of_mem
  unfold getRandomSatisfiedChannel
  match hids : cache.satisfiedChannels group model requestPath with
  | [] => simp
  | [id] =>
    obtain ⟨c, hc⟩ := isSome_iff_exists.mp (hsome id (by rw [hids]; exact mem_cons_self))
    simp [hc]
  | id :: id' :: ids =>
    rw [hids] at hsome
    obtain ⟨channels, hchannels, hlength⟩ := cache.exists_lookupAll hsome
    have hne : channels ≠ [] := ne_nil_of_length_pos (by rw [hlength]; exact Nat.succ_pos _)
    -- The priority comes from a channel, so it has a channel to choose.
    obtain ⟨c, hc, hpriority⟩ := exists_targetPriority hne retry
    have htarget : (channels.filter fun c => c.getPriority = targetPriority channels retry) ≠ [] :=
      ne_nil_of_mem (mem_filter.mpr ⟨hc, by simpa using hpriority⟩)
    obtain ⟨c', -, hc'⟩ := exists_randomChannel htarget random
    simp only [hchannels, if_neg htarget, hc']
    simp

end ChannelCache

/-! ### Keys -/

/-- **A channel gives a key exactly when one is enabled**, if it is still in the cache. -/
theorem Channel.exists_getNextEnabledKey_iff {draw : KeyDraw} {index : ℤ}
    (h : draw.pollingIndex = .ok index) :
    (∃ key, c.getNextEnabledKey draw = .ok key) ↔ c.hasEnabledKey = true := by
  unfold Channel.getNextEnabledKey Channel.hasEnabledKey
  cases hmulti : c.channelInfo.isMultiKey with
  | false => simp
  | true =>
    cases henabled : c.enabledIdx with
    | nil => simp
    | cons => cases c.channelInfo.multiKeyMode <;> simp [h]

theorem Channel.mem_enabledIdx {idx : ℕ} :
    idx ∈ c.enabledIdx ↔ idx < c.getKeys.length ∧ c.keyStatus idx = .enabled := by
  unfold Channel.enabledIdx
  rw [mem_filter, mem_range, decide_eq_true_eq]

/-- **The key of a multi-key channel** stands at an enabled position. -/
theorem Channel.getNextEnabledKey_ok {draw : KeyDraw} {key : String} {idx : ℕ}
    (hmulti : c.channelInfo.isMultiKey = true) (h : c.getNextEnabledKey draw = .ok (key, idx)) :
    c.getKeys[idx]? = some key ∧ c.keyStatus idx = .enabled := by
  suffices hidx : idx ∈ c.enabledIdx ∧ key = c.getKeys.getD idx "" by
    obtain ⟨hmem, rfl⟩ := hidx
    obtain ⟨hlt, hstatus⟩ := mem_enabledIdx.mp hmem
    rw [getD_eq_getElem?_getD, getElem?_eq_getElem hlt]
    exact ⟨rfl, hstatus⟩
  unfold Channel.getNextEnabledKey at h
  rw [if_neg (by simp [hmulti])] at h
  rcases henabled : c.enabledIdx with _ | ⟨first, rest⟩
  · rw [henabled] at h
    cases h
  simp only [henabled] at h
  cases hmode : c.channelInfo.multiKeyMode with
  | random =>
    simp only [hmode] at h
    cases h
    refine ⟨?_, rfl⟩
    have hlt := Nat.mod_lt draw.random (length_pos_of_ne_nil (cons_ne_nil first rest))
    rw [getD_eq_getElem?_getD, getElem?_eq_getElem hlt, getD_some]
    exact getElem_mem hlt
  | polling =>
    simp only [hmode] at h
    rcases hindex : draw.pollingIndex with _ | _
    · rw [hindex] at h
      cases h
    rw [hindex] at h
    cases h
    refine ⟨?_, rfl⟩
    -- The loop stops at an enabled position, or the first one is taken.
    generalize hfind : find? _ _ = next
    obtain _ | _ := next
    · exact mem_cons_self
    have hstatus := find?_some hfind
    obtain ⟨i, hi, rfl⟩ := mem_map.mp (mem_of_find?_eq_some hfind)
    rw [← henabled]
    exact mem_enabledIdx.mpr ⟨Nat.mod_lt _ (Nat.zero_lt_of_lt (mem_range.mp hi)),
      of_decide_eq_true hstatus⟩
  | other =>
    simp only [hmode] at h
    cases h
    exact ⟨mem_cons_self, rfl⟩

end TokensFlux
