import TokensFlux.Channel.Equiv.Status
import TokensFlux.Lib.Guarded

/-!
# The ability table mirrors the channel table

`KeepsMirror` decides whether a call keeps the mirror: a rebuild loses a pair whose text
`group|model` was seen already, `Update` and `DeleteDisabledChannel` leave rows without a channel,
`BatchSetChannelTag` rebuilds from the old tag, and `EditChannelByTag` with a weight of zero does
not reach the abilities.  `Mirrors` is the invariant, with one lemma for each call that says when
the call keeps it.
-/

namespace TokensFlux

open List ChannelRow ChannelTables TagEdit

theorem splitAux_ne_nil (sep : List Char) (skip : ℕ) (part cs : List Char) :
    splitAux sep skip part cs ≠ [] := by
  induction cs generalizing skip part with
  | nil =>
    exact cons_ne_nil _ _
  | cons c cs ih =>
    unfold splitAux
    split
    · rename_i h
      cases h
    · rename_i h
      cases h
      exact ih _ _
    rename_i h
    cases h
    split_ifs
    · exact cons_ne_nil _ _
    · exact ih _ _

theorem splitText_ne_nil (s sep : String) : splitText s sep ≠ [] :=
  splitAux_ne_nil _ _ _ _

/-! ### The rows of a channel -/

namespace ChannelRow

variable {c : ChannelRow} {a : Ability} {p q : String × String}

def abilities (c : ChannelRow) : List Ability :=
  c.pairs.map c.ability

/-- The texts `group|model` of the pairs of a channel tell them apart. -/
def PairsDistinct (c : ChannelRow) : Prop :=
  ∀ p ∈ c.pairs, ∀ q ∈ c.pairs, pairKey p = pairKey q → p = q

theorem pairs_ne_nil (c : ChannelRow) : c.pairs ≠ [] := by
  obtain ⟨_, _, hmodels⟩ := exists_cons_of_ne_nil (splitText_ne_nil c.models ",")
  obtain ⟨_, _, hgroups⟩ := exists_cons_of_ne_nil (splitText_ne_nil c.group ",")
  unfold pairs
  rw [hmodels, hgroups]
  simp

theorem channelId_of_mem (h : a ∈ c.abilities) : a.channelId = c.id := by
  obtain ⟨p, -, rfl⟩ := mem_map.mp h
  rfl

theorem ability_injective (c : ChannelRow) : Function.Injective c.ability := by
  intro p q h
  have hgroup : p.1 = q.1 := congrArg Ability.group h
  have hmodel : p.2 = q.2 := congrArg Ability.model h
  exact Prod.ext hgroup hmodel

end ChannelRow

theorem mem_of_mem_newPairs {seen : List String} {ps : List (String × String)} {p : String × String}
    (h : p ∈ newPairs seen ps) : p ∈ ps ∧ pairKey p ∉ seen := by
  induction ps generalizing seen with
  | nil => cases h
  | cons q _ ih =>
    unfold newPairs at h
    split_ifs at h with hseen
    · obtain ⟨hp, hnew⟩ := ih h
      exact ⟨mem_cons_of_mem q hp, hnew⟩
    rcases mem_cons.mp h with rfl | h
    · exact ⟨mem_cons_self, hseen⟩
    · obtain ⟨hp, hnew⟩ := ih h
      exact ⟨mem_cons_of_mem q hp, fun hmem => hnew (mem_cons_of_mem _ hmem)⟩

theorem distinctKeys_newPairs (seen : List String) (ps : List (String × String)) :
    DistinctKeys pairKey (newPairs seen ps) := by
  induction ps generalizing seen with
  | nil => exact nodup_nil
  | cons _ _ ih =>
    unfold newPairs
    split_ifs
    · exact ih seen
    refine nodup_cons.mpr ⟨?_, ih _⟩
    intro hmem
    obtain ⟨q, hq, hkey⟩ := mem_map.mp hmem
    exact (mem_of_mem_newPairs hq).2 (hkey ▸ mem_cons_self)

theorem exists_mem_newPairs {seen : List String} {ps : List (String × String)} {p : String × String}
    (h : p ∈ ps) (hnew : pairKey p ∉ seen) : ∃ q ∈ newPairs seen ps, pairKey q = pairKey p := by
  induction ps generalizing seen with
  | nil => cases h
  | cons q ps ih =>
    unfold newPairs
    by_cases hkey : pairKey p = pairKey q
    · rw [if_neg (hkey ▸ hnew)]
      exact ⟨q, mem_cons_self, hkey.symm⟩
    have hps : p ∈ ps := by
      rcases mem_cons.mp h with rfl | h
      · exact absurd rfl hkey
      · exact h
    split_ifs
    · exact ih hps hnew
    have hnew' : pairKey p ∉ pairKey q :: seen := by
      rw [mem_cons, not_or]
      exact ⟨hkey, hnew⟩
    obtain ⟨r, hr, hrkey⟩ := ih hps hnew'
    exact ⟨r, mem_cons_of_mem q hr, hrkey⟩

namespace ChannelRow

variable {c : ChannelRow} {a : Ability}

theorem mem_of_mem_newAbilities (h : a ∈ c.newAbilities) : a ∈ c.abilities := by
  obtain ⟨p, hp, rfl⟩ := mem_map.mp h
  exact mem_map_of_mem (mem_of_mem_newPairs hp).1

theorem newAbilities_ne_nil (c : ChannelRow) : c.newAbilities ≠ [] := by
  obtain ⟨p, ps, hps⟩ := exists_cons_of_ne_nil c.pairs_ne_nil
  obtain ⟨q, hq, -⟩ :=
    @exists_mem_newPairs [] c.pairs p (by rw [hps]; exact mem_cons_self) (by simp)
  exact ne_nil_of_mem (mem_map_of_mem hq)

theorem distinctKeys_newAbilities (c : ChannelRow) : DistinctKeys Ability.key c.newAbilities := by
  have hpairs : (newPairs [] c.pairs).Nodup := (distinctKeys_newPairs [] c.pairs).of_map _
  unfold DistinctKeys newAbilities
  rw [map_map]
  apply hpairs.map
  intro p q h
  have hkey : (c.ability p).key = (c.ability q).key := h
  obtain ⟨hgroup, hrest⟩ := Prod.mk.inj hkey
  exact Prod.ext hgroup (Prod.mk.inj hrest).1

/-- **A rebuild creates all rows of a channel** exactly when the texts of its pairs are distinct. -/
theorem pairsDistinct_iff : c.PairsDistinct ↔ ∀ a, a ∈ c.newAbilities ↔ a ∈ c.abilities := by
  constructor
  · intro hdistinct a
    refine ⟨mem_of_mem_newAbilities, ?_⟩
    intro h
    obtain ⟨p, hp, rfl⟩ := mem_map.mp h
    obtain ⟨q, hq, hkey⟩ := @exists_mem_newPairs [] c.pairs p hp (by simp)
    have heq : q = p := hdistinct q (mem_of_mem_newPairs hq).1 p hp hkey
    exact mem_map_of_mem (heq ▸ hq)
  intro h p hp q hq hkey
  have hmem : ∀ r ∈ c.pairs, r ∈ newPairs [] c.pairs := by
    intro r hr
    obtain ⟨r', hr', heq⟩ := mem_map.mp ((h (c.ability r)).mpr (mem_map_of_mem hr))
    exact c.ability_injective heq ▸ hr'
  exact (distinctKeys_newPairs [] c.pairs).eq_of_key_eq (hmem p hp) (hmem q hq) hkey

end ChannelRow

/-! ### The mirror -/

/-- The ability table has exactly one row for every channel, group and model. -/
structure Mirrors (t : ChannelTables) : Prop where
  distinct : DistinctKeys Ability.key t.abilities
  mem_iff : ∀ a, a ∈ t.abilities ↔ ∃ c ∈ t.channels, a ∈ c.abilities

structure Keyed (t : ChannelTables) : Prop where
  channels : DistinctKeys ChannelRow.id t.channels
  abilities : DistinctKeys Ability.key t.abilities

variable {t : ChannelTables} {c : ChannelRow} {a : Ability}

/-- Every row belongs to a channel. -/
def RowsOwned (t : ChannelTables) : Prop :=
  ∀ a ∈ t.abilities, ∃ c ∈ t.channels, c.id = a.channelId

theorem Mirrors.owned (h : Mirrors t) : RowsOwned t := by
  intro a ha
  obtain ⟨c, hc, hmem⟩ := (h.mem_iff a).mp ha
  exact ⟨c, hc, (channelId_of_mem hmem).symm⟩

/-- The rows of a channel that is not changed stay. -/
theorem Mirrors.mem_iff_updateChannels (h : Mirrors t) {p : ChannelRow → Bool}
    {f : ChannelRow → ChannelRow} (hf : ∀ c ∈ t.channels, p c → (f c).id = c.id)
    (ha : ∀ c ∈ t.channels, p c → a.channelId ≠ c.id) :
    a ∈ t.abilities ↔ ∃ c ∈ (t.updateChannels p f).channels, a ∈ c.abilities := by
  rw [h.mem_iff]
  constructor
  · rintro ⟨c, hc, hmem⟩
    have hp : ¬ p c = true := fun hp => ha c hc hp (channelId_of_mem hmem)
    exact ⟨c, mem_updateWhere.mpr ⟨c, hc, (if_neg hp).symm⟩, hmem⟩
  rintro ⟨c', hc', hmem⟩
  obtain ⟨c, hc, rfl⟩ := mem_updateWhere.mp hc'
  split_ifs at hmem with hp
  · exact absurd ((channelId_of_mem hmem).trans (hf c hc hp)) (ha c hc hp)
  · exact ⟨c, hc, hmem⟩

theorem mirrors_empty : Mirrors {} :=
  ⟨nodup_nil, fun a => by simp⟩

theorem keyed_empty : Keyed {} :=
  ⟨nodup_nil, nodup_nil⟩

/-! ### Changes row by row -/

/-- **Changes row by row**: `F` has to follow `G` on the rows of every channel. -/
theorem mirrors_map_iff (h : Mirrors t) {G : ChannelRow → ChannelRow} {F : Ability → Ability}
    (hpairs : ∀ c ∈ t.channels, (G c).pairs = c.pairs) (hkey : ∀ a, (F a).key = a.key)
    (hdistinct : DistinctKeys Ability.key (t.abilities.map F))
    (hid : ∀ c ∈ t.channels, (G c).id = c.id) :
    Mirrors ⟨t.channels.map G, t.abilities.map F⟩
      ↔ ∀ c ∈ t.channels, ∀ p ∈ c.pairs, F (c.ability p) = (G c).ability p := by
  have hrow : ∀ c ∈ t.channels, ∀ p ∈ c.pairs, F (c.ability p) ∈ t.abilities.map F := by
    intro c hc p hp
    exact mem_map_of_mem ((h.mem_iff _).mpr ⟨c, hc, mem_map_of_mem hp⟩)
  constructor
  · intro hm c hc p hp
    have hmem : (G c).ability p ∈ t.abilities.map F := by
      apply (hm.mem_iff _).mpr
      refine ⟨G c, mem_map_of_mem hc, mem_map_of_mem ?_⟩
      rw [hpairs c hc]
      exact hp
    apply hdistinct.eq_of_key_eq (hrow c hc p hp) hmem
    rw [hkey]
    show (p.1, p.2, c.id) = (p.1, p.2, (G c).id)
    rw [hid c hc]
  intro hfollow
  refine ⟨hdistinct, fun a => ⟨?_, ?_⟩⟩
  · intro ha
    obtain ⟨b, hb, rfl⟩ := mem_map.mp ha
    obtain ⟨c, hc, hmem⟩ := (h.mem_iff b).mp hb
    obtain ⟨p, hp, rfl⟩ := mem_map.mp hmem
    refine ⟨G c, mem_map_of_mem hc, ?_⟩
    rw [hfollow c hc p hp]
    exact mem_map_of_mem (by rw [hpairs c hc]; exact hp)
  rintro ⟨c', hc', hmem⟩
  obtain ⟨c, hc, rfl⟩ := mem_map.mp hc'
  obtain ⟨p, hp, rfl⟩ := mem_map.mp hmem
  rw [hpairs c hc] at hp
  rw [← hfollow c hc p hp]
  exact hrow c hc p hp

theorem mirrors_updateWhere_iff (h : Mirrors t) {p : ChannelRow → Bool}
    {g : ChannelRow → ChannelRow} {q : Ability → Bool} {f : Ability → Ability}
    (hg : ∀ c ∈ t.channels, p c → (g c).pairs = c.pairs ∧ (g c).id = c.id)
    (hf : ∀ a, (f a).key = a.key) :
    Mirrors ⟨updateWhere p g t.channels, updateWhere q f t.abilities⟩ ↔
      ∀ c ∈ t.channels, ∀ r ∈ c.pairs, (if q (c.ability r) then f (c.ability r) else c.ability r) =
        (if p c then g c else c).ability r := by
  apply mirrors_map_iff h
  · intro c hc
    split_ifs with hp
    · exact (hg c hc hp).1
    · rfl
  · intro a
    split_ifs
    · exact hf a
    · rfl
  · exact h.distinct.updateWhere fun a _ _ => hf a
  intro c hc
  split_ifs with hp
  · exact (hg c hc hp).2
  · rfl

/-! ### Deletions by id -/

/-- **Deletions by id** take the rows of a channel with it. -/
theorem mirrors_filter (h : Mirrors t) (q : ℤ → Bool) :
    Mirrors ⟨t.channels.filter fun c => q c.id, t.abilities.filter fun a => q a.channelId⟩ := by
  refine ⟨h.distinct.filter _, fun a => ?_⟩
  simp only [mem_filter]
  rw [h.mem_iff]
  constructor
  · rintro ⟨⟨c, hc, hmem⟩, hq⟩
    rw [channelId_of_mem hmem] at hq
    exact ⟨c, ⟨hc, hq⟩, hmem⟩
  · rintro ⟨c, ⟨hc, hq⟩, hmem⟩
    rw [channelId_of_mem hmem]
    exact ⟨⟨c, hc, hmem⟩, hq⟩

/-! ### Rebuilds -/

theorem mem_updateAbilities : a ∈ (t.updateAbilities c).abilities
      ↔ a.channelId ≠ c.id ∧ a ∈ t.abilities ∨ a.channelId = c.id ∧ a ∈ c.newAbilities := by
  have hmem : a ∈ (t.updateAbilities c).abilities ↔ a ∈ (t.deleteAbilities c.id).abilities ∨
        a ∈ c.newAbilities ∧ a.key ∉ (t.deleteAbilities c.id).abilities.map Ability.key :=
    mem_insertAll c.distinctKeys_newAbilities
  have hkept : a ∈ (t.deleteAbilities c.id).abilities ↔ a ∈ t.abilities ∧ a.channelId ≠ c.id := by
    unfold deleteAbilities
    rw [mem_filter, decide_eq_true_eq]
  rw [hmem, hkept]
  constructor
  · rintro (⟨ha, hne⟩ | ⟨ha, -⟩)
    · exact .inl ⟨hne, ha⟩
    · exact .inr ⟨channelId_of_mem (mem_of_mem_newAbilities ha), ha⟩
  rintro (⟨hne, ha⟩ | ⟨hid, ha⟩)
  · exact .inl ⟨ha, hne⟩
  -- No row of another channel has this key.
  refine .inr ⟨ha, ?_⟩
  intro hconflict
  obtain ⟨b, hb, hkey⟩ := mem_map.mp hconflict
  have hbid : b.channelId ≠ c.id := by
    simpa using (mem_filter.mp hb).2
  have hids : b.channelId = a.channelId := congrArg (fun k => k.2.2) hkey
  exact hbid (hids.trans hid)

def ChannelTables.rebuild (t : ChannelTables) (cs : List ChannelRow) : ChannelTables :=
  cs.foldl updateAbilities t

theorem channels_rebuild (cs : List ChannelRow) (t : ChannelTables) :
    (t.rebuild cs).channels = t.channels := by
  induction cs generalizing t with
  | nil => rfl
  | cons c _ ih => exact ih (t.updateAbilities c)

variable {cs : List ChannelRow}

theorem mem_rebuild (hcs : DistinctKeys ChannelRow.id cs) : a ∈ (t.rebuild cs).abilities
      ↔ (∃ c ∈ cs, a ∈ c.newAbilities) ∨ a.channelId ∉ cs.map ChannelRow.id ∧ a ∈ t.abilities := by
  induction cs generalizing t with
  | nil => simp [rebuild]
  | cons c cs ih =>
    obtain ⟨hnot, hcs⟩ := nodup_cons.mp hcs
    have hrebuild : t.rebuild (c :: cs) = (t.updateAbilities c).rebuild cs := rfl
    rw [hrebuild, ih hcs, mem_updateAbilities]
    simp only [mem_cons, map_cons, not_or, exists_eq_or_imp]
    constructor
    · rintro (h | ⟨hcs', ⟨hne, ha⟩ | ⟨hid, ha⟩⟩)
      · exact .inl (.inr h)
      · exact .inr ⟨⟨hne, hcs'⟩, ha⟩
      · exact .inl (.inl ha)
    rintro ((ha | h) | ⟨⟨hne, hcs'⟩, ha⟩)
    · have hid := channelId_of_mem (mem_of_mem_newAbilities ha)
      exact .inr ⟨hid ▸ hnot, .inr ⟨hid, ha⟩⟩
    · exact .inl h
    · exact .inr ⟨hcs', .inl ⟨hne, ha⟩⟩

theorem Keyed.addAbilities (h : Keyed t) (c : ChannelRow) : Keyed (t.addAbilities c) :=
  ⟨h.channels, h.abilities.insertAll _⟩

theorem Keyed.updateAbilities (h : Keyed t) (c : ChannelRow) : Keyed (t.updateAbilities c) := by
  apply Keyed.addAbilities
  exact ⟨h.channels, h.abilities.filter _⟩

theorem Keyed.rebuild (h : Keyed t) (cs : List ChannelRow) : Keyed (t.rebuild cs) := by
  induction cs generalizing t with
  | nil => exact h
  | cons c _ ih => exact ih (h.updateAbilities c)

/-- **Rebuilds** in tables that mirror each other elsewhere. -/
theorem mirrors_rebuild_iff (h : Keyed t) (hcs : DistinctKeys ChannelRow.id cs)
    (helse : ∀ a : Ability, a.channelId ∉ cs.map ChannelRow.id →
      (a ∈ t.abilities ↔ ∃ c ∈ t.channels, a ∈ c.abilities)) : Mirrors (t.rebuild cs)
      ↔ ∀ c ∈ cs, ∀ a, a ∈ c.newAbilities ↔ ∃ c' ∈ t.channels, c'.id = c.id ∧ a ∈ c'.abilities := by
  have hrebuilt : ∀ c ∈ cs, ∀ a, a.channelId = c.id →
      (a ∈ (t.rebuild cs).abilities ↔ a ∈ c.newAbilities) := by
    intro c hc a ha
    rw [mem_rebuild hcs]
    constructor
    · rintro (⟨c', hc', hmem⟩ | ⟨hnot, -⟩)
      · have hid := channelId_of_mem (mem_of_mem_newAbilities hmem)
        exact hcs.eq_of_key_eq hc' hc (hid.symm.trans ha) ▸ hmem
      · exact absurd (ha ▸ mem_map_of_mem hc) hnot
    · exact fun hmem => .inl ⟨c, hc, hmem⟩
  constructor
  · intro hm c hc a
    have hmem_iff := hm.mem_iff a
    rw [channels_rebuild] at hmem_iff
    constructor
    · intro ha
      have hid := channelId_of_mem (mem_of_mem_newAbilities ha)
      obtain ⟨c', hc', hmem⟩ := hmem_iff.mp ((hrebuilt c hc a hid).mpr ha)
      exact ⟨c', hc', (channelId_of_mem hmem).symm.trans hid, hmem⟩
    · rintro ⟨c', hc', hid, hmem⟩
      exact (hrebuilt c hc a ((channelId_of_mem hmem).trans hid)).mp (hmem_iff.mpr ⟨c', hc', hmem⟩)
  intro hall
  refine ⟨(h.rebuild cs).abilities, fun a => ?_⟩
  rw [channels_rebuild]
  by_cases hids : a.channelId ∈ cs.map ChannelRow.id
  · obtain ⟨c, hc, hid⟩ := mem_map.mp hids
    rw [hrebuilt c hc a hid.symm, hall c hc a]
    constructor
    · rintro ⟨c', hc', -, hmem⟩
      exact ⟨c', hc', hmem⟩
    · rintro ⟨c', hc', hmem⟩
      exact ⟨c', hc', (channelId_of_mem hmem).symm.trans hid.symm, hmem⟩
  rw [← helse a hids, mem_rebuild hcs]
  constructor
  · rintro (⟨c, hc, hmem⟩ | ⟨-, hmem⟩)
    · have hid := channelId_of_mem (mem_of_mem_newAbilities hmem)
      exact absurd (hid ▸ mem_map_of_mem hc) hids
    · exact hmem
  · exact fun hmem => .inr ⟨hids, hmem⟩

theorem mirrors_rebuild_self_iff (h : Keyed t) (hcs : DistinctKeys ChannelRow.id cs)
    (hthere : ∀ c ∈ cs, c ∈ t.channels) (helse : ∀ a : Ability, a.channelId ∉ cs.map ChannelRow.id →
      (a ∈ t.abilities ↔ ∃ c ∈ t.channels, a ∈ c.abilities)) :
    Mirrors (t.rebuild cs) ↔ ∀ c ∈ cs, c.PairsDistinct := by
  rw [mirrors_rebuild_iff h hcs helse]
  refine forall₂_congr fun c hc => ?_
  rw [pairsDistinct_iff]
  refine forall_congr' fun a => iff_congr Iff.rfl ⟨?_, fun hmem => ⟨c, hthere c hc, rfl, hmem⟩⟩
  rintro ⟨c', hc', hid, hmem⟩
  exact h.channels.eq_of_key_eq hc' (hthere c hc) hid ▸ hmem

/-! ### The condition -/

variable (json : ChannelJson)

/-- What a call needs to keep the mirror. -/
def KeepsMirror (t : ChannelTables) : ChannelCall → Prop
  | .insert c => c.id ∈ t.channels.map ChannelRow.id ∨ c.create.PairsDistinct
  | .batchInsertChannels cs =>
    (t.channels.map ChannelRow.id ++ cs.map ChannelRow.id).Nodup → ∀ c ∈ cs, c.create.PairsDistinct
  | .update c =>
    c.id = 0 ∨ c.id ∈ t.channels.map ChannelRow.id ∧ (t.updatedRow json c).PairsDistinct
  | .editChannelByTag tag e =>
    if e.shouldReCreateAbilities then
      ∀ c ∈ t.channels, c.tag = some tag ∨ c.tag = some (e.updatedTag tag) →
        (if c.tag = some tag then e.apply tag c else c).PairsDistinct
    else e.weight = some 0 → ∀ c ∈ t.channels, c.tag = some tag → c.getWeight = 0
  | .batchSetChannelTag ids tag => ∀ c ∈ t.channels, c.id ∈ ids → c.tag = tag ∧ c.PairsDistinct
  | .deleteDisabledChannel =>
    ∀ c ∈ t.channels, c.status ≠ .autoDisabled ∧ c.status ≠ .manuallyDisabled
  | .fixAbility => ∀ c ∈ t.channels, c.PairsDistinct
  | .updateChannelStatus .. | .enableChannelByTag _ | .disableChannelByTag _ | .delete _
  | .batchDeleteChannels _ => True

/-! ### New channels -/

theorem insert_eq (howned : RowsOwned t)
    (hnew : c.id ∉ t.channels.map ChannelRow.id) :
    t.insert c = ChannelTables.updateAbilities ⟨t.channels ++ [c.create],
      t.abilities⟩ c.create := by
  have hkept : (t.abilities.filter fun a => a.channelId ≠ c.create.id) = t.abilities := by
    apply filter_eq_self.mpr
    intro a ha
    obtain ⟨c', hc', hid⟩ := howned a ha
    have hne : a.channelId ≠ c.id := fun heq => hnew (mem_map.mpr ⟨c', hc', hid.trans heq⟩)
    exact decide_eq_true hne
  unfold ChannelTables.insert ChannelTables.updateAbilities deleteAbilities
  rw [if_neg hnew]
  rw [hkept]

theorem foldl_insert_eq (howned : RowsOwned t)
    (hnew : (t.channels.map ChannelRow.id ++ cs.map ChannelRow.id).Nodup) :
    cs.foldl insert t = rebuild ⟨t.channels ++ cs.map create, t.abilities⟩ (cs.map create) := by
  induction cs generalizing t with
  | nil =>
    rw [map_nil, append_nil]
    rfl
  | cons c cs ih =>
    have hfresh : c.id ∉ t.channels.map ChannelRow.id := by
      intro hmem
      exact disjoint_of_nodup_append hnew hmem (mem_map_of_mem mem_cons_self)
    have hinsert := insert_eq howned hfresh
    have howned' : RowsOwned (t.insert c) := by
      rw [hinsert]
      intro a ha
      rcases mem_updateAbilities.mp ha with ⟨-, hmem⟩ | ⟨hid, -⟩
      · obtain ⟨c', hc', hid⟩ := howned a hmem
        exact ⟨c', mem_append_left _ hc', hid⟩
      · exact ⟨c.create, mem_append_right _ mem_cons_self, hid.symm⟩
    have hchannels : (t.insert c).channels = t.channels ++ [c.create] := by
      rw [hinsert]
      rfl
    have hnew' : ((t.insert c).channels.map ChannelRow.id ++ cs.map ChannelRow.id).Nodup := by
      have hids : (t.insert c).channels.map ChannelRow.id =
          t.channels.map ChannelRow.id ++ [c.id] := by
        rw [hchannels, map_append]
        rfl
      rw [hids, append_assoc]
      exact hnew
    rw [foldl_cons, ih howned' hnew', hchannels, append_assoc, hinsert]
    rfl

/-- **`BatchInsertChannels`**, and with one channel `Insert`. -/
theorem mirrors_foldl_insert_iff (h : Keyed t) (hm : Mirrors t)
    (hnew : (t.channels.map ChannelRow.id ++ cs.map ChannelRow.id).Nodup) :
    Mirrors (cs.foldl insert t) ↔ ∀ c ∈ cs, c.create.PairsDistinct := by
  have hids : ∀ cs : List ChannelRow, (cs.map create).map ChannelRow.id = cs.map ChannelRow.id := by
    intro cs
    rw [map_map]
    rfl
  have hkeyed : Keyed ⟨t.channels ++ cs.map create, t.abilities⟩ := by
    refine ⟨?_, h.abilities⟩
    unfold DistinctKeys
    rw [map_append, hids]
    exact hnew
  have hcs : DistinctKeys ChannelRow.id (cs.map create) := by
    unfold DistinctKeys
    rw [hids]
    exact hnew.of_append_right
  rw [foldl_insert_eq hm.owned hnew, mirrors_rebuild_self_iff hkeyed hcs]
  · simp only [forall_mem_map]
  · exact fun c hc => mem_append_right _ hc
  intro a ha
  rw [hm.mem_iff]
  constructor
  · rintro ⟨c, hc, hmem⟩
    exact ⟨c, mem_append_left _ hc, hmem⟩
  rintro ⟨c, hc, hmem⟩
  rcases mem_append.mp hc with hc | hc
  · exact ⟨c, hc, hmem⟩
  · exact absurd (channelId_of_mem hmem ▸ mem_map_of_mem hc) ha

theorem mirrors_insert_iff (h : Keyed t) (hm : Mirrors t) :
    Mirrors (t.insert c) ↔ c.id ∈ t.channels.map ChannelRow.id ∨ c.create.PairsDistinct := by
  by_cases hmem : c.id ∈ t.channels.map ChannelRow.id
  · have hsame : t.insert c = t := if_pos hmem
    rw [hsame]
    exact iff_of_true hm (.inl hmem)
  have hnew : (t.channels.map ChannelRow.id ++ [c].map ChannelRow.id).Nodup := by
    apply nodup_append.mpr
    refine ⟨h.channels, nodup_singleton _, ?_⟩
    intro id hid id' hid' heq
    rw [map_singleton, mem_singleton] at hid'
    exact hmem (hid' ▸ heq ▸ hid)
  have hfold := mirrors_foldl_insert_iff h hm hnew
  rw [forall_mem_singleton] at hfold
  exact hfold.trans ⟨.inr, fun hor => hor.resolve_left hmem⟩

/-! ### `Update` -/

section Update

variable (json : ChannelJson)

theorem getChannelById_eq_some (h : Keyed t) (hc : c ∈ t.channels) :
    t.getChannelById c.id = some c := by
  unfold getChannelById
  cases hfind : t.channels.find? fun c' => c'.id = c.id with
  | none =>
    have hnot := find?_eq_none.mp hfind c hc
    simp at hnot
  | some c' =>
    have hid : c'.id = c.id := by simpa using find?_some hfind
    rw [h.channels.eq_of_key_eq (mem_of_find?_eq_some hfind) hc hid]

theorem ChannelRow.prepareUpdate_id (c : ChannelRow) (existing : Option ChannelRow) :
    (c.prepareUpdate json existing).id = c.id := by
  unfold prepareUpdate
  split_ifs <;> rfl

theorem updatedRow_id (t : ChannelTables) (c : ChannelRow) : (t.updatedRow json c).id = c.id := by
  unfold updatedRow
  cases hfind : t.getChannelById c.id with
  | none =>
    dsimp only
    rw [prepareUpdate_id, hfind]
    exact prepareUpdate_id json c none
  | some row =>
    dsimp only
    rw [prepareUpdate_id, hfind]
    have hid : row.id = c.id := by
      simpa using find?_some hfind
    exact hid

theorem Keyed.updateChannels (h : Keyed t) {p : ChannelRow → Bool} {f : ChannelRow → ChannelRow}
    (hf : ∀ c ∈ t.channels, p c → (f c).id = c.id) : Keyed (t.updateChannels p f) :=
  ⟨h.channels.updateWhere hf, h.abilities⟩

theorem Keyed.update_channels (h : Keyed t) (c : ChannelRow) :
    Keyed (t.updateChannels (fun row => row.id = c.id) fun _ => t.updatedRow json c) := by
  apply h.updateChannels
  intro row _ hid
  rw [updatedRow_id]
  exact (of_decide_eq_true hid).symm

/-- **`Update`** of a channel that is not there leaves rows without a channel. -/
theorem mirrors_update_iff (h : Keyed t) (hm : Mirrors t) : Mirrors (t.update json c)
      ↔ c.id = 0 ∨ c.id ∈ t.channels.map ChannelRow.id ∧ (t.updatedRow json c).PairsDistinct := by
  by_cases hzero : c.id = 0
  · have hsame : t.update json c = t := if_pos hzero
    rw [hsame]
    exact iff_of_true hm (.inl hzero)
  have hupdate : t.update json c =
      (t.updateChannels (fun row => row.id = c.id) fun _ => t.updatedRow json c).rebuild
        [t.updatedRow json c] := if_neg hzero
  rw [hupdate]
  have hone : DistinctKeys ChannelRow.id [t.updatedRow json c] := nodup_singleton _
  have helse : ∀ a, a.channelId ∉ [t.updatedRow json c].map ChannelRow.id → (a ∈ t.abilities ↔
      ∃ c' ∈ (t.updateChannels (fun row => row.id = c.id) fun _ => t.updatedRow json c).channels,
        a ∈ c'.abilities) := by
    intro a ha
    rw [map_singleton, mem_singleton, updatedRow_id] at ha
    refine hm.mem_iff_updateChannels (fun row _ hid => ?_) fun row _ hid => ?_
    · exact (updatedRow_id json t c).trans (of_decide_eq_true hid).symm
    · rwa [of_decide_eq_true hid]
  by_cases hmem : c.id ∈ t.channels.map ChannelRow.id
  · obtain ⟨row, hrow, hid⟩ := mem_map.mp hmem
    rw [mirrors_rebuild_self_iff (h.update_channels json c) hone _ helse, forall_mem_singleton]
    · exact ⟨fun hd => .inr ⟨hmem, hd⟩, fun hor => (hor.resolve_left hzero).2⟩
    · intro c' hc'
      rw [mem_singleton] at hc'
      apply mem_updateWhere.mpr
      refine ⟨row, hrow, ?_⟩
      rw [if_pos (decide_eq_true hid)]
      exact hc'
  rw [mirrors_rebuild_iff (h.update_channels json c) hone helse, forall_mem_singleton]
  refine iff_of_false ?_ (fun hor => hmem (hor.resolve_left hzero).1)
  intro hall
  obtain ⟨a, ha⟩ := exists_mem_of_ne_nil _ (t.updatedRow json c).newAbilities_ne_nil
  obtain ⟨c', hc', hid, -⟩ := (hall a).mp ha
  obtain ⟨row, hrow, rfl⟩ := mem_updateWhere.mp hc'
  have hne : row.id ≠ c.id := fun hid => hmem (mem_map.mpr ⟨row, hrow, hid⟩)
  rw [if_neg (by simpa using hne), updatedRow_id] at hid
  exact hne hid

end Update

/-! ### Changes of the status -/

section Status

variable (json : ChannelJson)

def ChannelRow.SameCopies (c c' : ChannelRow) : Prop :=
  c'.id = c.id ∧ c'.pairs = c.pairs ∧ c'.priority = c.priority ∧
    c'.weight = c.weight ∧ c'.tag = c.tag

theorem ChannelRow.SameCopies.ability_eq {c c' : ChannelRow} (h : c.SameCopies c')
    (r : String × String) :
    c'.ability r = { c.ability r with enabled := c'.status = .enabled } := by
  obtain ⟨hid, -, hpriority, hweight, htag⟩ := h
  simp only [ability, getPriority, getWeight, hid, hpriority, hweight, htag]

theorem ChannelRow.handlerMultiKeyUpdate_spec (c : ChannelRow) (usingKey : String)
    (status : ChannelStatus) (reason : String) (now : ℤ) (keys : List String) :
    c.SameCopies (c.handlerMultiKeyUpdate json usingKey status reason now keys) ∧
      ((c.handlerMultiKeyUpdate json usingKey status reason now keys).status = c.status ∨
        ((c.handlerMultiKeyUpdate json usingKey status reason now keys).status = .enabled ↔
          status = .enabled)) := by
  obtain ⟨_, heq⟩ := c.handlerMultiKeyUpdate_eq json usingKey status reason now keys
  rw [heq]
  exact ⟨⟨rfl, rfl, rfl, rfl, rfl⟩, handledStatus_cases⟩

theorem ChannelRow.changeStatus_spec {c c' : ChannelRow} {usingKey : String}
    {status : ChannelStatus} {reason : String} {now : ℤ} {changed : Bool}
    (h : c.changeStatus json usingKey status reason now = some (c', changed)) :
    c.SameCopies c' ∧ (if changed then (c'.status = .enabled ↔ status = .enabled)
      else c'.status = c.status) := by
  unfold changeStatus at h
  split_ifs at h with hsame hmulti
  · cases h
    obtain ⟨hcopies, hstatus⟩ :=
      c.handlerMultiKeyUpdate_spec json usingKey status reason now (c.getKeys json)
    refine ⟨hcopies, ?_⟩
    split_ifs with hchanged
    · have hne := of_decide_eq_true hchanged
      exact hstatus.resolve_left fun heq => hne heq.symm
    · exact (not_not.mp fun hne => hchanged (decide_eq_true hne)).symm
  · cases h
    exact ⟨⟨rfl, rfl, rfl, rfl, rfl⟩, Iff.rfl⟩

theorem Mirrors.updateChannelStatus (h : Keyed t) (hm : Mirrors t) (id : ℤ) (usingKey : String)
    (status : ChannelStatus) (reason : String) (now : ℤ) :
    Mirrors (t.updateChannelStatus json id usingKey status reason now) := by
  unfold ChannelTables.updateChannelStatus
  rcases hrow : t.getChannelById id with _ | c
  · exact hm
  rw [Option.bind_some]
  have hc : c ∈ t.channels := mem_of_find?_eq_some hrow
  have hid : c.id = id := by simpa using List.find?_some hrow
  rcases hchange : c.changeStatus json usingKey status reason now with _ | result
  · exact hm
  obtain ⟨c', changed⟩ := result
  obtain ⟨hcopies, hstatus⟩ := c.changeStatus_spec json hchange
  have honly : ∀ row ∈ t.channels, row.id = id → row = c := fun row hmem hrowid =>
    h.channels.eq_of_key_eq hmem hc (hrowid.trans hid.symm)
  -- Both ways are one change of the tables by the id.
  suffices hboth : Mirrors ⟨updateWhere (fun row => row.id = id) (fun _ => c') t.channels,
      updateWhere (fun a => changed && a.channelId = id)
        (fun a => { a with enabled := status = .enabled })
        t.abilities⟩ by
    cases changed with
    | false =>
      simp only [updateWhere, Bool.false_and, if_false, map_id', Bool.false_eq_true] at hboth
      exact hboth
    | true =>
      exact hboth
  refine (mirrors_updateWhere_iff hm ?_ (fun a => ?_)).mpr ?_
  · intro row hmem hrowid
    obtain rfl := honly row hmem (of_decide_eq_true hrowid)
    exact ⟨hcopies.2.1, hcopies.1⟩
  · rfl
  intro row hmem r _
  by_cases hrowid : row.id = id
  · obtain rfl := honly row hmem hrowid
    rw [if_pos (decide_eq_true hrowid), hcopies.ability_eq r]
    have hability : (row.ability r).channelId = id := hrowid
    cases changed with
    | false =>
      have hkept : c'.status = row.status := hstatus
      rw [hkept]
      rfl
    | true =>
      have henabled : c'.status = .enabled ↔ status = .enabled := hstatus
      rw [if_pos (by simpa using hability), decide_eq_decide.mpr henabled]
  · have hability : (row.ability r).channelId ≠ id := hrowid
    rw [if_neg (by simpa using fun _ => hability), if_neg (by simpa using hrowid)]

/-- **Changes by tag** go by the tag in the abilities. -/
theorem Mirrors.updateStatusByTag (hm : Mirrors t) (tag : String) (status : ChannelStatus) :
    Mirrors ((t.updateChannels (fun c => c.tag = some tag) fun c =>
      { c with status }).updateAbilityStatusByTag
      tag (status = .enabled)) := by
  refine (mirrors_updateWhere_iff hm ?_ (fun a => ?_)).mpr ?_
  · exact fun c _ _ => ⟨rfl, rfl⟩
  · rfl
  intro c _ r _
  by_cases htag : c.tag = some tag
  · have hability : (c.ability r).tag = some tag := htag
    rw [if_pos (decide_eq_true htag), if_pos (decide_eq_true hability)]
    rfl
  · have hability : (c.ability r).tag ≠ some tag := htag
    rw [if_neg (by simpa using hability), if_neg (by simpa using htag)]

end Status

/-! ### Changes by tag -/

section Tag

variable {tag : String} {e : TagEdit}

theorem TagEdit.apply_tag (htag : c.tag = some tag) :
    (e.apply tag c).tag = some (e.updatedTag tag) := by
  unfold apply
  dsimp only
  split_ifs with hne
  · unfold updatedTag at hne ⊢
    cases hnew : e.newTag with
    | none =>
      rw [hnew] at hne
      exact absurd rfl hne
    | some => rfl
  · rw [htag, not_not.mp hne]

theorem TagEdit.ability_apply_iff (htag : c.tag = some tag) {r : String × String}
    (ha : a = c.ability r) : { a with
        tag := e.newTag.or a.tag
        priority := e.priority.or a.priority
        weight := if e.weight.getD 0 = 0 then a.weight else e.weight.getD 0 } =
          (e.apply tag c).ability r
      ↔ (e.weight = some 0 → c.getWeight = 0) := by
  subst ha
  have hnewTag : e.newTag.or c.tag = (e.apply tag c).tag := by
    rw [apply_tag htag, htag]
    unfold updatedTag
    cases e.newTag <;> rfl
  have hpriority : e.priority.or (some c.getPriority) = some (e.apply tag c).getPriority := by
    unfold apply
    cases e.priority <;> rfl
  have hweight : (if e.weight.getD 0 = 0 then c.getWeight else e.weight.getD 0) =
      (e.apply tag c).getWeight
      ↔ (e.weight = some 0 → c.getWeight = 0) := by
    have happly : (e.apply tag c).getWeight = (e.weight.or c.weight).getD 0 := rfl
    rw [happly]
    cases hw : e.weight with
    | none => simp [getWeight]
    | some w =>
      by_cases hzero : w = 0 <;> simp [hzero]
  have hsame : (e.apply tag c).id = c.id ∧ (e.apply tag c).status = c.status := ⟨rfl, rfl⟩
  rw [← hweight]
  simp only [ability, Ability.mk.injEq, hnewTag, hpriority, hsame.1, hsame.2, true_and, and_true]

/-- **`EditChannelByTag`** without new groups and models. -/
theorem mirrors_updateAbilityByTag_iff (hm : Mirrors t)
    (hkeep : e.shouldReCreateAbilities = false) :
    Mirrors ((t.updateChannels (fun c => c.tag =
      some tag) (e.apply tag)).updateAbilityByTag tag e.newTag
        e.priority e.weight) ↔
        (e.weight = some 0 → ∀ c ∈ t.channels, c.tag = some tag → c.getWeight = 0) := by
  obtain ⟨hmodels, hgroup⟩ := Bool.or_eq_false_iff.mp hkeep
  have hpairs : ∀ c, (e.apply tag c).pairs = c.pairs := by
    intro c
    unfold pairs apply
    rw [if_neg (of_decide_eq_false hmodels), if_neg (of_decide_eq_false hgroup)]
  refine (mirrors_updateWhere_iff hm (fun c _ _ => ⟨hpairs c, rfl⟩) (fun a => ?_)).trans ?_
  · rfl
  constructor
  · intro hall hzero c hc htag
    obtain ⟨r, hr⟩ := exists_mem_of_ne_nil _ c.pairs_ne_nil
    have hrow := hall c hc r hr
    have hability : (c.ability r).tag = some tag := htag
    rw [if_pos (decide_eq_true hability), if_pos (decide_eq_true htag)] at hrow
    exact (ability_apply_iff htag rfl).mp hrow hzero
  intro hzero c hc r _
  by_cases htag : c.tag = some tag
  · have hability : (c.ability r).tag = some tag := htag
    rw [if_pos (decide_eq_true hability), if_pos (decide_eq_true htag)]
    exact (ability_apply_iff htag rfl).mpr fun h => hzero h c hc htag
  · have hability : (c.ability r).tag ≠ some tag := htag
    rw [if_neg (by simpa using hability), if_neg (by simpa using htag)]

theorem TagEdit.apply_tag_eq_iff :
    (if c.tag = some tag then e.apply tag c else c).tag = some (e.updatedTag tag)
      ↔ c.tag = some tag ∨ c.tag = some (e.updatedTag tag) := by
  split_ifs with htag
  · exact iff_of_true (apply_tag htag) (.inl htag)
  · exact ⟨.inr, fun hor => hor.resolve_left htag⟩

theorem Keyed.updateByTag (h : Keyed t) (tag : String) (e : TagEdit) :
    Keyed (t.updateChannels (fun c => c.tag = some tag) (e.apply tag)) :=
  h.updateChannels fun _ _ _ => rfl

/-- **`EditChannelByTag`** with new groups or models. -/
theorem mirrors_recreate_iff (h : Keyed t) (hm : Mirrors t) :
    Mirrors ((t.updateChannels (fun c => c.tag = some tag) (e.apply tag)).rebuild
        ((t.updateChannels (fun c => c.tag = some tag) (e.apply tag)).channels.filter
          fun c => c.tag = some (e.updatedTag tag)))
      ↔ ∀ c ∈ t.channels, c.tag = some tag ∨ c.tag = some (e.updatedTag tag) →
        (if c.tag = some tag then e.apply tag c else c).PairsDistinct := by
  have hkeyed := h.updateByTag tag e
  rw [mirrors_rebuild_self_iff hkeyed (hkeyed.channels.filter _)]
  · constructor
    · intro hall c hc hor
      apply hall
      refine mem_filter.mpr ⟨mem_updateWhere.mpr ⟨c, hc, ?_⟩, ?_⟩
      · simp only [decide_eq_true_eq]
      · exact decide_eq_true (apply_tag_eq_iff.mpr hor)
    intro hall c' hc'
    obtain ⟨hmem, htag⟩ := mem_filter.mp hc'
    obtain ⟨c, hc, rfl⟩ := mem_updateWhere.mp hmem
    simp only [decide_eq_true_eq] at htag ⊢
    exact hall c hc (apply_tag_eq_iff.mp htag)
  · exact fun c hc => (mem_filter.mp hc).1
  intro a ha
  refine hm.mem_iff_updateChannels (fun _ _ _ => rfl) fun c hc htag hid => ha ?_
  rw [hid]
  have hmem : (if c.tag = some tag then e.apply tag c else c) ∈
      (t.updateChannels (fun c => c.tag = some tag) (e.apply tag)).channels :=
    mem_updateWhere.mpr ⟨c, hc, by simp only [decide_eq_true_eq]⟩
  refine mem_map.mpr ⟨_, mem_filter.mpr ⟨hmem, decide_eq_true (apply_tag_eq_iff.mpr (.inl ?_))⟩, ?_⟩
  · exact of_decide_eq_true htag
  · split_ifs <;> rfl

theorem mirrors_editChannelByTag_iff (h : Keyed t) (hm : Mirrors t) :
    Mirrors (t.editChannelByTag tag e)
      ↔ if e.shouldReCreateAbilities then
          ∀ c ∈ t.channels, c.tag = some tag ∨ c.tag = some (e.updatedTag tag) →
            (if c.tag = some tag then e.apply tag c else c).PairsDistinct
        else e.weight = some 0 → ∀ c ∈ t.channels, c.tag = some tag → c.getWeight = 0 := by
  unfold editChannelByTag
  split_ifs with hcreate
  · exact mirrors_recreate_iff h hm
  · exact mirrors_updateAbilityByTag_iff hm (by simpa using hcreate)

/-- The rows before a change of the tag are those after it only if it changes nothing. -/
theorem ChannelRow.newAbilities_setTag_iff {tag : Option String} :
    (∀ a, a ∈ c.newAbilities ↔ a ∈ { c with tag }.abilities) ↔ c.tag = tag ∧ c.PairsDistinct := by
  constructor
  · intro hsame
    obtain ⟨a, ha⟩ := exists_mem_of_ne_nil _ c.newAbilities_ne_nil
    obtain ⟨r, -, hold⟩ := mem_map.mp (mem_of_mem_newAbilities ha)
    obtain ⟨r', -, hset⟩ := mem_map.mp ((hsame a).mp ha)
    have htag : c.tag = tag := congrArg Ability.tag (hold.trans hset.symm)
    subst htag
    exact ⟨rfl, pairsDistinct_iff.mpr hsame⟩
  · rintro ⟨rfl, hdistinct⟩
    exact pairsDistinct_iff.mp hdistinct

/-- **`BatchSetChannelTag`** rebuilds the rows from channels with their old tags. -/
theorem mirrors_batchSetChannelTag_iff (h : Keyed t) (hm : Mirrors t) {ids : List ℤ}
    {tag : Option String} :
    Mirrors (t.batchSetChannelTag ids tag) ↔ ∀ c ∈ t.channels, c.id ∈ ids → c.tag = tag ∧
      c.PairsDistinct := by
  have hkeyed : Keyed (t.updateChannels (fun c => c.id ∈ ids) fun c => { c with tag }) :=
    h.updateChannels fun _ _ _ => rfl
  unfold batchSetChannelTag
  rw [← rebuild, mirrors_rebuild_iff hkeyed (h.channels.filter _)]
  · simp only [mem_filter, decide_eq_true_eq, and_imp]
    refine forall₃_congr fun c hc hid => ?_
    rw [← newAbilities_setTag_iff]
    have hnew : { c with tag } ∈ (t.updateChannels (fun c => c.id ∈ ids) fun c =>
        { c with tag }).channels :=
      mem_updateWhere.mpr ⟨c, hc, (if_pos (decide_eq_true hid)).symm⟩
    refine forall_congr' fun a => iff_congr Iff.rfl ⟨?_, fun hmem => ⟨_, hnew, rfl, hmem⟩⟩
    rintro ⟨c', hc', hid', hmem⟩
    exact hkeyed.channels.eq_of_key_eq hc' hnew hid' ▸ hmem
  intro a ha
  refine hm.mem_iff_updateChannels (fun _ _ _ => rfl) fun c hc hid heq => ha ?_
  rw [heq]
  exact mem_map_of_mem (mem_filter.mpr ⟨hc, hid⟩)

end Tag

/-! ### Deletions and `FixAbility` -/

theorem Mirrors.delete (hm : Mirrors t) (id : ℤ) : Mirrors (t.delete id) := by
  unfold ChannelTables.delete
  split_ifs
  · exact hm
  · have hfilter := mirrors_filter hm fun i => !decide (i = id)
    simpa only [ChannelTables.deleteChannels, deleteAbilities, ne_eq, decide_not] using hfilter

theorem Mirrors.batchDeleteChannels (hm : Mirrors t) (ids : List ℤ) :
    Mirrors (t.batchDeleteChannels ids) := by
  have hfilter := mirrors_filter hm fun i => !decide (i ∈ ids)
  simpa only [ChannelTables.batchDeleteChannels, ChannelTables.deleteChannels,
    decide_not] using hfilter

/-- **`DeleteDisabledChannel`** leaves the rows of the channels it deletes. -/
theorem mirrors_deleteDisabledChannel_iff (h : Keyed t) (hm : Mirrors t) :
    Mirrors t.deleteDisabledChannel
      ↔ ∀ c ∈ t.channels, c.status ≠ .autoDisabled ∧ c.status ≠ .manuallyDisabled := by
  constructor
  · intro hm' c hc
    rw [← not_or]
    intro hdisabled
    obtain ⟨r, hr⟩ := exists_mem_of_ne_nil _ c.pairs_ne_nil
    have hrow : c.ability r ∈ t.deleteDisabledChannel.abilities :=
      (hm.mem_iff _).mpr ⟨c, hc, mem_map_of_mem hr⟩
    obtain ⟨c', hc', hmem⟩ := (hm'.mem_iff _).mp hrow
    obtain ⟨hthere, hkept⟩ := mem_filter.mp hc'
    -- The only channel with this row is the one that was deleted.
    obtain rfl : c' = c := h.channels.eq_of_key_eq hthere hc (channelId_of_mem hmem).symm
    simp [hdisabled] at hkept
  intro hall
  have hsame : t.deleteDisabledChannel = t := by
    unfold deleteDisabledChannel deleteChannels
    rw [filter_eq_self.mpr]
    intro c hc
    simpa using hall c hc
  rw [hsame]
  exact hm

theorem mirrors_fixAbility_iff (h : Keyed t) :
    Mirrors t.fixAbility ↔ ∀ c ∈ t.channels, c.PairsDistinct := by
  apply mirrors_rebuild_self_iff (t := ⟨t.channels, []⟩) ⟨h.channels, nodup_nil⟩ h.channels
  · exact fun c hc => hc
  · intro a ha
    refine iff_of_false not_mem_nil ?_
    rintro ⟨c, hc, hmem⟩
    exact ha (channelId_of_mem hmem ▸ mem_map_of_mem hc)

/-! ### Runs -/

theorem Keyed.insert (h : Keyed t) (c : ChannelRow) : Keyed (t.insert c) := by
  unfold ChannelTables.insert
  split_ifs with hmem
  · exact h
  apply Keyed.addAbilities
  refine ⟨?_, h.abilities⟩
  have hnew := h.channels.insertNew c.create
  unfold insertNew at hnew
  rwa [if_neg (show c.create.id ∉ _ from hmem)] at hnew

theorem Keyed.step (h : Keyed t) (call : ChannelCall) : Keyed (t.step json call) := by
  cases call with
  | insert c => exact h.insert c
  | batchInsertChannels cs =>
    have hfold : Keyed (cs.foldl ChannelTables.insert t) := by
      induction cs generalizing t with
      | nil => exact h
      | cons c _ ih => exact ih (h.insert c)
    show Keyed (t.batchInsertChannels cs)
    unfold batchInsertChannels
    split_ifs
    · exact hfold
    · exact h
  | update c =>
    show Keyed (t.update json c)
    unfold update
    split_ifs
    · exact h
    · exact (h.update_channels json c).updateAbilities _
  | updateChannelStatus id usingKey status reason now =>
    show Keyed (t.updateChannelStatus json id usingKey status reason now)
    unfold ChannelTables.updateChannelStatus
    rcases hrow : t.getChannelById id with _ | c
    · exact h
    rw [Option.bind_some]
    rcases hchange : c.changeStatus json usingKey status reason now with _ | result
    · exact h
    have hid : c.id = id := by simpa using List.find?_some hrow
    have hkeyed : Keyed (t.updateChannels (fun row => row.id = id) fun _ => result.1) := by
      apply h.updateChannels
      intro row _ hrowid
      rw [(c.changeStatus_spec json hchange).1.1, hid]
      exact (of_decide_eq_true hrowid).symm
    dsimp only
    split_ifs
    · exact ⟨hkeyed.channels, hkeyed.abilities.updateWhere fun _ _ _ => rfl⟩
    · exact hkeyed
  | enableChannelByTag tag | disableChannelByTag tag =>
    exact ⟨h.channels.updateWhere fun _ _ _ => rfl, h.abilities.updateWhere fun _ _ _ => rfl⟩
  | editChannelByTag tag e =>
    have hkeyed := h.updateByTag tag e
    show Keyed (t.editChannelByTag tag e)
    unfold editChannelByTag
    split_ifs
    · exact hkeyed.rebuild _
    · exact ⟨hkeyed.channels, hkeyed.abilities.updateWhere fun _ _ _ => rfl⟩
  | batchSetChannelTag =>
    apply Keyed.rebuild
    exact h.updateChannels fun _ _ _ => rfl
  | delete id =>
    show Keyed (t.delete id)
    unfold ChannelTables.delete
    split_ifs
    · exact h
    · exact ⟨h.channels.filter _, h.abilities.filter _⟩
  | batchDeleteChannels => exact ⟨h.channels.filter _, h.abilities.filter _⟩
  | deleteDisabledChannel => exact ⟨h.channels.filter _, h.abilities⟩
  | fixAbility => exact Keyed.rebuild (t := ⟨t.channels, []⟩) ⟨h.channels, nodup_nil⟩ _

/-- **One call** keeps the mirror exactly if it meets the condition. -/
theorem mirrors_step_iff (h : Keyed t) (hm : Mirrors t) (call : ChannelCall) :
    Mirrors (t.step json call) ↔ KeepsMirror json t call := by
  cases call with
  | insert => exact mirrors_insert_iff h hm
  | batchInsertChannels cs =>
    show Mirrors (t.batchInsertChannels cs) ↔ (_ → _)
    unfold batchInsertChannels
    split_ifs with hnew
    · exact (mirrors_foldl_insert_iff h hm hnew).trans ⟨fun hall _ => hall, fun hall => hall hnew⟩
    · exact iff_of_true hm fun h => absurd h hnew
  | update => exact mirrors_update_iff json h hm
  | updateChannelStatus id usingKey status reason now =>
    exact iff_of_true (Mirrors.updateChannelStatus json h hm id usingKey status reason now) trivial
  | enableChannelByTag tag => exact iff_of_true (hm.updateStatusByTag tag .enabled) trivial
  | disableChannelByTag tag =>
    exact iff_of_true (hm.updateStatusByTag tag .manuallyDisabled) trivial
  | editChannelByTag => exact mirrors_editChannelByTag_iff h hm
  | batchSetChannelTag => exact mirrors_batchSetChannelTag_iff h hm
  | delete id => exact iff_of_true (hm.delete id) trivial
  | batchDeleteChannels ids => exact iff_of_true (hm.batchDeleteChannels ids) trivial
  | deleteDisabledChannel => exact mirrors_deleteDisabledChannel_iff h hm
  | fixAbility => exact mirrors_fixAbility_iff h

/-- **The ability table mirrors the channel table** throughout a run from empty tables exactly if
every call of the run meets the condition. -/
theorem abilities_mirror_iff (json : ChannelJson) (calls : List ChannelCall) :
    (∀ done, done <+: calls → Mirrors (done.foldl (step json) {}))
      ↔ Guarded (step json) (KeepsMirror json) {} calls := by
  have hstep : ∀ t call, Keyed t ∧ Mirrors t →
      ((Keyed (t.step json call) ∧ Mirrors (t.step json call)) ↔ KeepsMirror json t call) := by
    rintro t call ⟨h, hm⟩
    rw [and_iff_right (h.step json call)]
    exact mirrors_step_iff json h hm call
  rw [Guarded.iff_forall_prefix hstep ⟨keyed_empty, mirrors_empty⟩]
  have hkeyed : ∀ done : List ChannelCall, Keyed (done.foldl (step json) {}) := by
    intro done
    exact foldlRecOn done _ keyed_empty fun t h call _ => h.step json call
  exact forall₂_congr fun done _ => (and_iff_right (hkeyed done)).symm

/-- A channel that is tagged later keeps an ability without the tag. -/
theorem abilities_mirror_batchSetChannelTag :
    ¬ Mirrors ([ChannelCall.insert { id := 1, models := "gpt-4", group := "default" },
      .batchSetChannelTag [1] (some "vip")].foldl (step .plain) {}) := by
  intro h
  have hmem := (h.mem_iff ⟨"default", "gpt-4", 1, true, some 0, 0, none⟩).mp (by decide +kernel)
  revert hmem
  decide +kernel

end TokensFlux
