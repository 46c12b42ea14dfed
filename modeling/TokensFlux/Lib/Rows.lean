import Mathlib.Data.List.Nodup

/-!
# Rows with a primary key

A table is a list of rows, and `key` is the primary key of a row.
-/

namespace TokensFlux

open List

variable {α κ : Type*} [DecidableEq κ] {key : α → κ} {rows : List α} {a b : α}

def DistinctKeys (key : α → κ) (rows : List α) : Prop :=
  (rows.map key).Nodup

omit [DecidableEq κ] in
theorem DistinctKeys.eq_of_key_eq (h : DistinctKeys key rows) (ha : a ∈ rows) (hb : b ∈ rows)
    (hkey : key a = key b) : a = b :=
  inj_on_of_nodup_map h ha hb hkey

/-! ### Insertion -/

def insertNew (key : α → κ) (rows : List α) (a : α) : List α :=
  if key a ∈ rows.map key then rows else rows ++ [a]

def insertAll (key : α → κ) (rows new : List α) : List α :=
  new.foldl (insertNew key) rows

theorem DistinctKeys.insertNew (h : DistinctKeys key rows) (a : α) :
    DistinctKeys key (insertNew key rows a) := by
  unfold TokensFlux.insertNew
  split_ifs with hmem
  · exact h
  unfold DistinctKeys
  rw [map_append, map_singleton]
  exact nodup_append.mpr ⟨h, nodup_singleton _, fun k hk k' hk' heq => by
    rw [mem_singleton] at hk'
    exact hmem (hk' ▸ heq ▸ hk)⟩

theorem DistinctKeys.insertAll (h : DistinctKeys key rows) (new : List α) :
    DistinctKeys key (insertAll key rows new) := by
  induction new generalizing rows with
  | nil => exact h
  | cons a _ ih => exact ih (h.insertNew a)

theorem mem_insertAll {new : List α} (hnew : DistinctKeys key new) :
    b ∈ insertAll key rows new ↔ b ∈ rows ∨ b ∈ new ∧ key b ∉ rows.map key := by
  induction new generalizing rows with
  | nil => simp [insertAll]
  | cons a new ih =>
    have hcons : key a ∉ new.map key ∧ DistinctKeys key new := nodup_cons.mp hnew
    have hstep : insertAll key rows (a :: new) = insertAll key (insertNew key rows a) new := rfl
    rw [hstep, ih hcons.2]
    by_cases hmem : key a ∈ rows.map key
    · have hsame : insertNew key rows a = rows := if_pos hmem
      rw [hsame]
      constructor
      · rintro (hb | ⟨hb, hkey⟩)
        · exact .inl hb
        · exact .inr ⟨mem_cons_of_mem a hb, hkey⟩
      rintro (hb | ⟨hb, hkey⟩)
      · exact .inl hb
      · rcases mem_cons.mp hb with rfl | hb
        · exact absurd hmem hkey
        · exact .inr ⟨hb, hkey⟩
    have hadd : insertNew key rows a = rows ++ [a] := if_neg hmem
    rw [hadd]
    simp only [mem_append, map_append, map_singleton, mem_cons, not_mem_nil, or_false]
    constructor
    · rintro ((hb | rfl) | ⟨hb, hkey⟩)
      · exact .inl hb
      · exact .inr ⟨.inl rfl, hmem⟩
      · exact .inr ⟨.inr hb, fun h => hkey (.inl h)⟩
    rintro (hb | ⟨rfl | hb, hkey⟩)
    · exact .inl (.inl hb)
    · exact .inl (.inr rfl)
    -- Another new row, whose key is not that of `a`.
    refine .inr ⟨hb, ?_⟩
    rintro (h | h)
    · exact hkey h
    · exact hcons.1 (h ▸ mem_map_of_mem hb)

/-! ### Changes and deletions by a condition -/

def updateWhere (p : α → Bool) (f : α → α) (rows : List α) : List α :=
  rows.map fun a => if p a then f a else a

theorem mem_updateWhere {p : α → Bool} {f : α → α} :
    b ∈ updateWhere p f rows ↔ ∃ a ∈ rows, b = if p a then f a else a := by
  unfold updateWhere
  rw [mem_map]
  constructor
  · rintro ⟨a, ha, rfl⟩
    exact ⟨a, ha, rfl⟩
  · rintro ⟨a, ha, rfl⟩
    exact ⟨a, ha, rfl⟩

theorem filter_updateWhere {p q : α → Bool} {f : α → α} (h : ∀ a, p a = true → q (f a) = false) :
    (updateWhere p f rows).filter q = (rows.filter q).filter fun a => !p a := by
  induction rows with
  | nil => rfl
  | cons a _ ih =>
    unfold updateWhere at ih ⊢
    rw [map_cons, filter_cons, filter_cons, ih]
    by_cases hp : p a = true
    · by_cases hq : q a = true <;> simp [hp, hq, h a hp]
    · by_cases hq : q a = true <;> simp [hp, hq]

omit [DecidableEq κ] in
theorem DistinctKeys.updateWhere (h : DistinctKeys key rows) {p : α → Bool} {f : α → α}
    (hf : ∀ a ∈ rows, p a → key (f a) = key a) : DistinctKeys key (updateWhere p f rows) := by
  have hkeys : (TokensFlux.updateWhere p f rows).map key = rows.map key := by
    unfold TokensFlux.updateWhere
    rw [map_map]
    apply map_congr_left
    intro a ha
    show key (if p a then f a else a) = key a
    split_ifs with hp
    · exact hf a ha hp
    · rfl
  unfold DistinctKeys
  rw [hkeys]
  exact h

omit [DecidableEq κ] in
theorem DistinctKeys.filter (h : DistinctKeys key rows) (p : α → Bool) :
    DistinctKeys key (rows.filter p) :=
  h.sublist ((filter_sublist).map key)

end TokensFlux
