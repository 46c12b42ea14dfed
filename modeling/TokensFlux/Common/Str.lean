import Mathlib.Data.List.DropRight
import Mathlib.Data.List.Infix

/-!
# Strings as the billing code reads them

The functions of the package `strings`; lengths and cuts are in bytes of UTF-8.
-/

namespace TokensFlux

/-- The Latin-1 spaces and the Unicode white space. -/
def isSpace (c : Char) : Bool :=
  let n := c.toNat
  (9 ≤ n && n ≤ 13) || n == 0x20 || n == 0x85 || n == 0xA0 || n == 0x1680 ||
    (0x2000 ≤ n && n ≤ 0x200A) || n == 0x2028 || n == 0x2029 || n == 0x202F || n == 0x205F ||
    n == 0x3000

variable (s : String)

def trimSpace : String :=
  String.ofList (((s.toList.dropWhile isSpace).reverse.dropWhile isSpace).reverse)

theorem dropWhile_isSpace_of_isPrefix {l m : List Char} (h : l <+: m.dropWhile isSpace) :
    l.dropWhile isSpace = l := by
  rw [List.dropWhile_eq_self_iff]
  intro hl
  have hhead := List.dropWhile_get_zero_not isSpace m (hl.trans_le h.length_le)
  rwa [List.get_eq_getElem, ← h.getElem hl] at hhead

theorem trimSpace_trimSpace : trimSpace (trimSpace s) = trimSpace s := by
  unfold trimSpace
  rw [String.toList_ofList]
  congr 1
  set m := s.toList.dropWhile isSpace
  set l := (m.reverse.dropWhile isSpace).reverse with hl
  have hprefix : l <+: m := List.rdropWhile_prefix isSpace m
  rw [dropWhile_isSpace_of_isPrefix hprefix, hl, List.reverse_reverse, List.dropWhile_idempotent]

theorem trimSpace_eq_empty_iff {s : String} : trimSpace s = "" ↔ ∀ c ∈ s.toList, isSpace c := by
  unfold trimSpace
  rw [← String.toList_eq_nil_iff, String.toList_ofList, List.reverse_eq_nil_iff,
    List.dropWhile_eq_nil_iff]
  constructor
  · -- What is left after the leading spaces begins with another character, if it is not empty.
    intro h
    have hnil : s.toList.dropWhile isSpace = [] := by
      by_contra hne
      have hhead := List.head_mem hne
      have hspace := h _ (List.mem_reverse.mpr hhead)
      rw [List.head_dropWhile_not isSpace hne] at hspace
      cases hspace
    exact List.dropWhile_eq_nil_iff.mp hnil
  · intro h c hc
    exact h c ((List.dropWhile_sublist isSpace).mem (List.mem_reverse.mp hc))

theorem head?_trimSpace {s : String} {c : Char} (h : s.toList.head? = some c)
    (hc : isSpace c = false) :
    (trimSpace s).toList.head? = some c := by
  obtain ⟨cs, hs⟩ := List.head?_eq_some_iff.mp h
  have hleft : s.toList.dropWhile isSpace = c :: cs := by
    rw [hs, List.dropWhile_cons_of_neg (by simp [hc])]
  have hright : ((c :: cs).reverse.dropWhile isSpace).reverse.head? = some c := by
    rw [List.reverse_cons, List.dropWhile_append]
    split_ifs <;> simp [hc]
  rw [trimSpace, String.toList_ofList, hleft, hright]

def hasPrefix (s p : String) : Bool := p.toList.isPrefixOf s.toList

theorem hasPrefix_iff {s p : String} : hasPrefix s p = true ↔ ∃ t, s = p ++ t := by
  unfold hasPrefix
  rw [List.isPrefixOf_iff_prefix]
  constructor
  · rintro ⟨cs, hcs⟩
    refine ⟨String.ofList cs, String.toList_inj.mp ?_⟩
    rw [String.toList_append, String.toList_ofList, hcs]
  · rintro ⟨t, rfl⟩
    exact ⟨t.toList, String.toList_append.symm⟩

def hasSuffix (s p : String) : Bool := p.toList.isSuffixOf s.toList

def trimPrefix (s p : String) : String :=
  if hasPrefix s p then String.ofList (s.toList.drop p.toList.length) else s

def byteLength : ℕ := s.toList.foldl (fun n c => n + c.utf8Size) 0

/-- A character that the bytes end in is dropped as a whole. -/
def dropBytesAux : List Char → ℕ → List Char
  | [], _ => []
  | c :: cs, n => if n = 0 then c :: cs else dropBytesAux cs (n - c.utf8Size)

def dropBytes (n : ℕ) : String := String.ofList (dropBytesAux s.toList n)

theorem foldl_utf8Size (cs : List Char) (n : ℕ) :
    cs.foldl (fun n c => n + c.utf8Size) n = n + cs.foldl (fun n c => n + c.utf8Size) 0 := by
  induction cs generalizing n with
  | nil => rfl
  | cons c _ ih =>
    rw [List.foldl_cons, List.foldl_cons, ih, ih (0 + c.utf8Size)]
    omega

theorem byteLength_append (s t : String) : byteLength (s ++ t) = byteLength s + byteLength t := by
  unfold byteLength
  rw [String.toList_append, List.foldl_append, foldl_utf8Size]

theorem byteLength_eq_zero {s : String} (h : byteLength s = 0) : s = "" := by
  unfold byteLength at h
  cases hs : s.toList with
  | nil => exact String.toList_eq_nil_iff.mp hs
  | cons c =>
    rw [hs, List.foldl_cons, foldl_utf8Size] at h
    have := c.utf8Size_pos
    omega

theorem dropBytesAux_append (cs ds : List Char) :
    dropBytesAux (cs ++ ds) (cs.foldl (fun n c => n + c.utf8Size) 0) = ds := by
  induction cs with
  | nil => cases ds <;> rfl
  | cons c cs ih =>
    have := c.utf8Size_pos
    rw [List.cons_append, List.foldl_cons, foldl_utf8Size, dropBytesAux, if_neg (by omega)]
    rw [show 0 + c.utf8Size + cs.foldl (fun n c => n + c.utf8Size) 0 - c.utf8Size =
      cs.foldl (fun n c => n + c.utf8Size) 0 by omega, ih]

theorem dropBytes_append (s t : String) : dropBytes (s ++ t) (byteLength s) = t := by
  unfold dropBytes byteLength
  rw [String.toList_append, dropBytesAux_append, String.ofList_toList]

def containsText (s part : String) : Bool := decide (part.toList <:+: s.toList)

/-- The loop of `strings.Split`: the part being read (backwards), and how much of a separator is to
be skipped. -/
def splitAux (sep : List Char) : ℕ → List Char → List Char → List String
  | _, part, [] => [String.ofList part.reverse]
  | skip + 1, part, _ :: cs => splitAux sep skip part cs
  | 0, part, c :: cs =>
    if sep.isPrefixOf (c :: cs) then
      String.ofList part.reverse :: splitAux sep (sep.length - 1) [] cs
    else splitAux sep 0 (c :: part) cs

def splitText (s sep : String) : List String :=
  splitAux sep.toList 0 [] s.toList

example : splitText "MJ::JOB::upsample::2" "::" = ["MJ", "JOB", "upsample", "2"] := by
  decide +kernel

def digitsValue (cs : List Char) : Option ℤ :=
  if cs ≠ [] ∧ cs.all Char.isDigit then
    some (cs.foldl (fun n c => 10 * n + (c.toNat - 48 : ℤ)) 0)
  else none

def atoi : Option ℤ :=
  let value :=
    match s.toList with
    | '-' :: cs => (digitsValue cs).map fun n => -n
    | '+' :: cs => digitsValue cs
    | cs => digitsValue cs
  value.filter fun n => -9223372036854775808 ≤ n && n ≤ 9223372036854775807

example : (atoi "2", atoi "-15", atoi "+", atoi "2a") = (some 2, some (-15), none, none) := by
  decide +kernel

inductive BillingPreference
  | subscriptionFirst
  | walletFirst
  | subscriptionOnly
  | walletOnly
deriving DecidableEq, Repr

/-- An unknown preference means `subscription_first`. -/
def normalizeBillingPreference (pref : String) : BillingPreference :=
  if trimSpace pref = "wallet_first" then .walletFirst
  else if trimSpace pref = "subscription_only" then .subscriptionOnly
  else if trimSpace pref = "wallet_only" then .walletOnly
  else .subscriptionFirst

end TokensFlux
