import TokensFlux.Relay.Select

/-!
# What selection does to the auto groups

When the groups with a candidate do not change, the attempts still to be made are a list,
`pendingSlots`, and selection takes its head.
-/

namespace TokensFlux

open List Option

/-- A missing key counts as 0. -/
def RelayContext.groupIndex (ctx : RelayContext) : ℕ :=
  ctx.autoGroupIndex.getD 0

/-- The index and the name of its group, and which retry in the group it is. -/
structure Slot where
  index : ℕ
  group : String
  retry : ℕ
deriving DecidableEq, Repr

def takeSlot (retryTimes : ℕ) (ctx : RelayContext) (param : RetryParam) (slot : Slot)
    (c : Channel) : Selection :=
  if ctx.tokenCrossGroupRetry && decide (retryTimes ≤ slot.retry) then
    ⟨{ ctx with autoGroup := some slot.group, autoGroupIndex := some (slot.index + 1) },
      { param with retry := 0, resetNextTry := true }, some c, slot.group, none⟩
  else
    ⟨{ ctx with autoGroup := some slot.group, autoGroupIndex := some slot.index },
      { param with retry := slot.retry }, some c, slot.group, none⟩

section Auto

variable {retryTimes : ℕ} {source : ℕ → ChannelSource} {start i : ℕ} {groups : List String}
  {ctx : RelayContext} {param : RetryParam} {slot : Slot} {c : Channel}

@[simp]
theorem takeSlot_channel : (takeSlot retryTimes ctx param slot c).channel = some c := by
  unfold takeSlot
  split_ifs <;> rfl

@[simp]
theorem takeSlot_err : (takeSlot retryTimes ctx param slot c).err = none := by
  unfold takeSlot
  split_ifs <;> rfl

theorem index_le_takeSlot (retryTimes : ℕ) (ctx : RelayContext) (param : RetryParam) (slot : Slot)
    (c : Channel) : slot.index ≤ (takeSlot retryTimes ctx param slot c).ctx.groupIndex := by
  unfold takeSlot
  split_ifs
  · exact Nat.le_succ _
  · exact le_rfl

/-- What the source gives for the group at index `i`. -/
def offer (source : ℕ → ChannelSource) (start i : ℕ) (group : String)
    (param : RetryParam) : Option Channel :=
  (source i group param.modelName (if start < i then 0 else param.retry) param.requestPath).1

theorem selectAuto_cons_of_none {group : String} (h : offer source start i group param = none) :
    selectAuto retryTimes source start i (group :: groups) ctx param
      = selectAuto retryTimes source start (i + 1) groups
        { ctx with autoGroupIndex := some (i + 1) } { param with retry := 0 } := by
  unfold offer at h
  rw [selectAuto]
  simp only [h]

variable (hlater : start < i → param.retry = 0)

include hlater

theorem ite_retry : (if start < i then 0 else param.retry) = param.retry := by
  split_ifs with hlt
  · exact (hlater hlt).symm
  · rfl

theorem selectAuto_cons_of_some {group : String} (h : offer source start i group param = some c) :
    selectAuto retryTimes source start i (group :: groups) ctx param
      = takeSlot retryTimes ctx param ⟨i, group, param.retry⟩ c := by
  unfold offer at h
  rw [selectAuto]
  simp only [h]
  rw [ite_retry hlater, takeSlot]

/-- **What selection takes, and where**: by the counter in the first group, from zero on in a later
one. -/
theorem selectAuto_cases : (∃ slot c,
      selectAuto retryTimes source start i groups ctx param = takeSlot retryTimes ctx param slot c ∧
      i ≤ slot.index ∧ slot.index < i + groups.length ∧ slot.retry = if slot.index = i
        then param.retry else 0) ∨
    ∃ index retry, (index = ctx.autoGroupIndex ∨ ∃ j, i ≤ j ∧ index = some j) ∧
      selectAuto retryTimes source start i groups ctx param
        = ⟨{ ctx with autoGroupIndex := index }, { param with retry }, none,
          param.tokenGroup, none⟩ := by
  induction groups generalizing i ctx param with
  | nil => exact .inr ⟨_, _, .inl rfl, rfl⟩
  | cons group _ ih =>
    rw [length_cons]
    cases h : offer source start i group param with
    | none =>
      rw [selectAuto_cons_of_none h]
      rcases @ih (i + 1) { ctx with autoGroupIndex := some (i + 1) }
        { param with retry := 0 } fun _ => rfl with
        ⟨slot, c, htake, hle, hlt, hretry⟩ | ⟨index, retry, hindex, hnone⟩
      · refine .inl ⟨slot, c, htake, by omega, by omega, ?_⟩
        rw [if_neg (by omega), hretry]
        split_ifs <;> rfl
      refine .inr ⟨index, retry, .inr ?_, hnone⟩
      rcases hindex with hindex | ⟨j, hj, hindex⟩
      · exact ⟨i + 1, Nat.le_succ i, hindex⟩
      · exact ⟨j, Nat.le_of_succ_le hj, hindex⟩
    | some c =>
      rw [selectAuto_cons_of_some hlater h]
      refine .inl ⟨⟨i, group, param.retry⟩, c, rfl, le_rfl, ?_, (if_pos rfl).symm⟩
      dsimp only
      omega

/-- **Selection touches nothing else.** -/
theorem selectAuto_frame :
    ∃ autoGroup index retry reset, (selectAuto retryTimes source start i groups ctx param).ctx
      = { ctx with autoGroup := autoGroup, autoGroupIndex := index } ∧
    (selectAuto retryTimes source start i groups ctx param).param
      = { param with retry := retry, resetNextTry := reset } := by
  rcases selectAuto_cases hlater with ⟨_, c, htake, -⟩ | ⟨index, retry, -, hnone⟩
  · rw [htake, takeSlot]
    split_ifs <;> exact ⟨_, _, _, _, rfl, rfl⟩
  · rw [hnone]
    exact ⟨_, _, _, _, rfl, rfl⟩

/-- **The index never goes back.** -/
theorem groupIndex_le_selectAuto (h : ctx.groupIndex ≤ i) :
    ctx.groupIndex ≤ (selectAuto retryTimes source start i groups ctx param).ctx.groupIndex := by
  rcases selectAuto_cases hlater with ⟨slot, c, htake, hle, -⟩ | ⟨_, _, hindex, hnone⟩
  · rw [htake]
    exact (h.trans hle).trans (index_le_takeSlot retryTimes ctx param slot c)
  rw [hnone]
  rcases hindex with rfl | ⟨j, hj, rfl⟩
  · exact le_rfl
  · exact h.trans hj

theorem exists_slot_of_selectAuto
    (h : (selectAuto retryTimes source start i groups ctx param).channel = some c) :
    ∃ slot : Slot, selectAuto retryTimes source start i groups ctx param =
      takeSlot retryTimes ctx param slot c ∧ i ≤ slot.index ∧ slot.index < i + groups.length ∧
      slot.retry = if slot.index = i then param.retry else 0 := by
  rcases selectAuto_cases hlater with ⟨slot, c', htake, hslot⟩ | ⟨_, _, -, hnone⟩
  · rw [htake, takeSlot_channel] at h
    cases h
    exact ⟨slot, htake, hslot⟩
  · rw [hnone] at h
    cases h

end Auto

/-! ### A fixed set of candidates -/

/-- Every group with a candidate has the retries up to `retryTimes`. -/
def pendingSlots (retryTimes : ℕ) (candidate : String → Bool) : ℕ → ℕ → List String → List Slot
  | _, _, [] => []
  | i, retry, group :: groups =>
    (if candidate group then (range' retry (retryTimes + 1 - retry)).map (Slot.mk i group) else [])
      ++ pendingSlots retryTimes candidate (i + 1) 0 groups

section Pending

variable {retryTimes : ℕ} {candidate : String → Bool} {i retry : ℕ} {group : String}
  {groups : List String} {slot : Slot} {rest : List Slot}

theorem pendingSlots_cons_of_not (h : candidate group = false) :
    pendingSlots retryTimes candidate i retry (group :: groups)
      = pendingSlots retryTimes candidate (i + 1) 0 groups := by
  rw [pendingSlots, h]
  rfl

theorem pendingSlots_cons_of_candidate (h : candidate group = true) (hretry : retry ≤ retryTimes) :
    pendingSlots retryTimes candidate i retry (group :: groups)
      = ⟨i, group, retry⟩ :: pendingSlots retryTimes candidate i (retry + 1) (group :: groups) := by
  rw [pendingSlots, pendingSlots, if_pos h, if_pos h,
    show retryTimes + 1 - retry = retryTimes + 1 - (retry + 1) + 1 by omega, range'_succ,
    map_cons, cons_append]

theorem pendingSlots_last : pendingSlots retryTimes candidate i (retryTimes + 1) (group :: groups)
      = pendingSlots retryTimes candidate (i + 1) 0 groups := by
  rw [pendingSlots, Nat.sub_self]
  split_ifs <;> rfl

theorem map_group_pendingSlots (i : ℕ) (groups : List String) :
    (pendingSlots retryTimes candidate i 0 groups).map Slot.group
      = (groups.filter candidate).flatMap (List.replicate (retryTimes + 1)) := by
  induction groups generalizing i with
  | nil => rfl
  | cons group _ ih =>
    rw [pendingSlots, map_append, ih, Nat.sub_zero]
    rcases h : candidate group with _ | _
    · rw [filter_cons_of_neg (by rw [h]; exact Bool.false_ne_true)]
      rfl
    have hmap : ((List.range' 0 (retryTimes + 1)).map (Slot.mk i group)).map Slot.group
        = List.replicate (retryTimes + 1) group := by
      rw [List.map_map, List.eq_replicate_iff]
      constructor
      · rw [length_map, length_range']
      · intro g hg
        obtain ⟨_, -, rfl⟩ := mem_map.mp hg
        rfl
    rw [filter_cons_of_pos h, flatMap_cons, if_pos rfl, hmap]

theorem pendingSlots_next {all : List String} (hgroups : all.drop i = groups)
    (hretry : retry ≤ retryTimes)
    (h : pendingSlots retryTimes candidate i retry groups = slot :: rest) :
    slot.retry ≤ retryTimes ∧ (retryTimes ≤ slot.retry →
        pendingSlots retryTimes candidate (slot.index + 1) 0 (all.drop (slot.index + 1)) = rest) ∧
      (slot.retry < retryTimes →
        pendingSlots retryTimes candidate slot.index (slot.retry + 1)
        (all.drop slot.index) = rest) := by
  induction groups generalizing i retry with
  | nil => cases h
  | cons group groups ih =>
    have hdrop : all.drop (i + 1) = groups := by
      rw [← tail_drop, hgroups, tail_cons]
    rcases hcandidate : candidate group with _ | _
    · rw [pendingSlots_cons_of_not hcandidate] at h
      exact ih hdrop (Nat.zero_le _) h
    rw [pendingSlots_cons_of_candidate hcandidate hretry] at h
    obtain ⟨rfl, hrest⟩ := cons.inj h
    refine ⟨hretry, ?_, ?_⟩
    · intro hlast
      have hretryTimes : retry = retryTimes := le_antisymm hretry hlast
      rw [hretryTimes, pendingSlots_last] at hrest
      rw [hdrop]
      exact hrest
    · intro _
      rw [hgroups]
      exact hrest

variable {source : ℕ → ChannelSource} {start : ℕ} {ctx : RelayContext} {param : RetryParam}
  (hsource : ∀ i group retry,
  (source i group param.modelName retry param.requestPath).1.isSome ↔ candidate group = true)

include hsource

theorem offer_eq_none (h : candidate group = false) : offer source start i group param = none := by
  unfold offer
  rw [← not_isSome_iff_eq_none, hsource, h]
  exact Bool.false_ne_true

/-- **Selection takes the head of what is pending.** -/
theorem selectAuto_of_pendingSlots_cons (hlater : start < i → param.retry = 0)
    (hretry : param.retry ≤ retryTimes)
    (h : pendingSlots retryTimes candidate i param.retry groups = slot :: rest) :
    ∃ c, (source slot.index slot.group param.modelName slot.retry param.requestPath).1 = some c ∧
      selectAuto retryTimes source start i groups ctx param =
      takeSlot retryTimes ctx param slot c := by
  induction groups generalizing i ctx param with
  | nil => cases h
  | cons group _ ih =>
    cases hcandidate : candidate group with
    | false =>
      rw [pendingSlots_cons_of_not hcandidate] at h
      rw [selectAuto_cons_of_none (offer_eq_none hsource hcandidate)]
      exact @ih (i + 1) { ctx with autoGroupIndex := some (i + 1) }
        { param with retry := 0 } hsource
        (fun _ => rfl) (Nat.zero_le _) h
    | true =>
      rw [pendingSlots_cons_of_candidate hcandidate hretry] at h
      obtain ⟨rfl, -⟩ := cons.inj h
      obtain ⟨c, hc⟩ := isSome_iff_exists.mp ((hsource i group param.retry).mpr hcandidate)
      refine ⟨c, hc, ?_⟩
      apply selectAuto_cons_of_some hlater
      rw [offer, ite_retry hlater]
      exact hc

theorem selectAuto_of_pendingSlots_nil (hretry : param.retry ≤ retryTimes)
    (h : pendingSlots retryTimes candidate i param.retry groups = []) :
    (selectAuto retryTimes source start i groups ctx param).channel = none := by
  induction groups generalizing i ctx param with
  | nil => rfl
  | cons group _ ih =>
    cases hcandidate : candidate group with
    | false =>
      rw [pendingSlots_cons_of_not hcandidate] at h
      rw [selectAuto_cons_of_none (offer_eq_none hsource hcandidate)]
      exact @ih (i + 1) { ctx with autoGroupIndex := some (i + 1) }
        { param with retry := 0 } hsource
        (Nat.zero_le _) h
    | true =>
      rw [pendingSlots_cons_of_candidate hcandidate hretry] at h
      cases h

end Pending

end TokensFlux
