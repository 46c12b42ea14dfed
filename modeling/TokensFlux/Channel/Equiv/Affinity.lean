import TokensFlux.Channel.Affinity

/-! # Keys of the channel affinity cache collide where a part of them has a colon -/

namespace TokensFlux

open String

variable {n n' m m' g g' v v' : String}

/-- The key under a rule that includes all parts. -/
def affinityKey (name model group value : String) : String :=
  fullKey channelAffinityCacheNamespace (buildChannelAffinityCacheKeySuffix { name }
    model group value)

def joinKey (name model group value : String) :
    String := name ++ ":" ++ model ++ ":" ++ group ++ ":" ++ value

def KeyPart (part : String) : Prop :=
  part ≠ "" ∧ ':' ∉ part.toList

instance (part : String) : Decidable (KeyPart part) := instDecidableAnd

/-- The parts before the value are key parts and not the namespace, and there is no space around
them all. -/
structure Separated (n m g v : String) : Prop where
  name : KeyPart n
  model : KeyPart m
  group : KeyPart g
  trimmed : trimSpace (joinKey n m g v) = joinKey n m g v
  other : (n, m, g) ≠ ("new-api", "channel_affinity", "v1")

theorem append_colon_inj {a a' x x' : List Char} (ha : ':' ∉ a) (ha' : ':' ∉ a')
    (h : a ++ ':' :: x = a' ++ ':' :: x') : a = a' ∧ x = x' := by
  have htake {a x : List Char} (ha : ':' ∉ a) : (a ++ ':' :: x).takeWhile (· ≠ ':') = a := by
    rw [List.takeWhile_append_of_pos, List.takeWhile_cons_of_neg (by simp), List.append_nil]
    intro c hc
    simpa using ne_of_mem_of_not_mem hc ha
  obtain rfl : a = a' := by rw [← htake ha, h, htake ha']
  exact ⟨rfl, by simpa using h⟩

theorem joinKey_inj (hn : KeyPart n) (hn' : KeyPart n') (hm : KeyPart m) (hm' : KeyPart m')
    (hg : KeyPart g) (hg' : KeyPart g') (h : joinKey n m g v = joinKey n' m' g' v') :
    n = n' ∧ m = m' ∧ g = g' ∧ v = v' := by
  have hlists := congrArg toList h
  simp only [joinKey, toList_append, List.append_assoc] at hlists
  obtain ⟨hname, hrest⟩ := append_colon_inj hn.2 hn'.2 hlists
  obtain ⟨hmodel, hrest⟩ := append_colon_inj hm.2 hm'.2 hrest
  obtain ⟨hgroup, hvalue⟩ := append_colon_inj hg.2 hg'.2 hrest
  exact ⟨toList_inj.mp hname, toList_inj.mp hmodel, toList_inj.mp hgroup, toList_inj.mp hvalue⟩

theorem Separated.affinityKey_eq (h : Separated n m g v) :
    affinityKey n m g v = "new-api:channel_affinity:v1:" ++ joinKey n m g v := by
  obtain ⟨hname, hmodel, hgroup, htrim, hother⟩ := h
  have hsuffix : buildChannelAffinityCacheKeySuffix { name := n } m g v = joinKey n m g v := by
    rw [buildChannelAffinityCacheKeySuffix, if_pos ⟨rfl, hname.1⟩, if_pos ⟨rfl, hmodel.1⟩,
      if_pos ⟨rfl, hgroup.1⟩]
    rfl
  have hprefix : nsPrefix channelAffinityCacheNamespace = "new-api:channel_affinity:v1:" := by
    decide +kernel
  have hnot : ¬hasPrefix (joinKey n m g v) "new-api:channel_affinity:v1:" = true := by
    rw [hasPrefix_iff]
    rintro ⟨t, ht⟩
    have hparts : joinKey n m g v = joinKey "new-api" "channel_affinity" "v1" t := ht
    obtain ⟨rfl, rfl, rfl, -⟩ :=
      joinKey_inj hname (by decide) hmodel (by decide) hgroup (by decide) hparts
    exact hother rfl
  -- The first character is one of the name's, and so not a colon.
  obtain ⟨c, cs, hcs⟩ := List.exists_cons_of_ne_nil (mt toList_eq_nil_iff.mp hname.1)
  have hcolon : c ≠ ':' := by
    rintro rfl
    exact hname.2 (by simp [hcs])
  have hdrop : (joinKey n m g v).toList.dropWhile (· = ':') = (joinKey n m g v).toList := by
    simp [joinKey, hcs, hcolon]
  have hempty : joinKey n m g v ≠ "" := by
    simp [joinKey]
  rw [affinityKey, hsuffix, fullKey, htrim, hprefix]
  simp [hempty, hnot, hdrop]

/-- **Keys of separated parts do not collide.** -/
theorem affinityKey_inj (h : Separated n m g v) (h' : Separated n' m' g' v')
    (hkey : affinityKey n m g v = affinityKey n' m' g' v') : n = n' ∧ m = m' ∧ g = g' ∧ v = v' := by
  rw [h.affinityKey_eq, h'.affinityKey_eq] at hkey
  refine joinKey_inj h.name h'.name h.model h'.model h.group h'.group ?_
  simpa using hkey

theorem affinityKey_inj_vip :
    affinityKey "r" "gpt-4" "vip" "a:b" ≠ affinityKey "r" "gpt-4" "default" "a:b" := by
  intro hkey
  have h : Separated "r" "gpt-4" "vip" "a:b" := by constructor <;> decide +kernel
  have h' : Separated "r" "gpt-4" "default" "a:b" := by constructor <;> decide +kernel
  exact absurd (affinityKey_inj h h' hkey).2.2.1 (by decide)

/-- The value of the one request begins with the group of the other. -/
theorem affinityKey_collides :
    affinityKey "r" "gpt-4" "vip" "default:u" = affinityKey "r" "gpt-4:vip" "default" "u" := by
  decide +kernel

end TokensFlux
