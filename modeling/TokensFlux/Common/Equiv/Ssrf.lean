import TokensFlux.Common.Ssrf

/-!
# IPv4 addresses inside IPv6 ones

Of the embeddings, the check sees through mapped and translated (NAT64) addresses only.
-/

namespace TokensFlux

namespace IP

inductive Embedding
  | mapped
  | compatible
  | nat64
  | sixToFour (rest : Fin (2 ^ 80))

variable {a : Fin (2 ^ 32)}

def Embedding.embed (a : Fin (2 ^ 32)) : Embedding → Fin (2 ^ 128)
  | mapped => ⟨0xffff * 2 ^ 32 + a, by omega⟩
  | compatible => ⟨a, by omega⟩
  | nat64 => ⟨0x64ff9b * 2 ^ 96 + a, by omega⟩
  | sixToFour rest => ⟨0x2002 * 2 ^ 112 + a * 2 ^ 80 + rest, by omega⟩

theorem isPrivateIP_of_to4 {ip : IP} (h : ip.to4 = some a.val) :
    isPrivateIP (some ip) = isPrivateIP (some (v4 a)) := by
  have htest (four six : ℕ → Bool) : ip.test four six = (v4 a).test four six := by
    unfold test
    rw [h]
    rfl
  simp only [isPrivateIP, isUnspecified, isLoopback, isLinkLocalUnicast, isLinkLocalMulticast,
    isInterfaceLocalMulticast, htest]

theorem isPrivateIP_of_not_mapped {x : Fin (2 ^ 128)} (h : x.val / 2 ^ 32 ≠ 0xffff) :
    isPrivateIP (some (v6 x)) = true ↔ x.val ≤ 1 ∨ x.val / 2 ^ 32 = 0x64ff9b * 2 ^ 64 ∨
      x.val / 2 ^ 64 = 0x100 * 2 ^ 48 ∨ x.val / 2 ^ 105 = 0x2001 * 2 ^ 7 ∨
      x.val / 2 ^ 96 = 0x20010db8 ∨ x.val / 2 ^ 121 = 0x7e ∨
      x.val / 2 ^ 118 = 0x3fa ∨ x.val / 2 ^ 120 = 0xff := by
  have htest (four six : ℕ → Bool) : (v6 x).test four six = six x.val := by
    rw [test, to4, if_neg h]
    rfl
  simp only [isPrivateIP, isUnspecified, isLoopback, isLinkLocalUnicast, isLinkLocalMulticast,
    isInterfaceLocalMulticast, htest, privateIPv6Nets, IPNet.contains, multicastScope,
    List.any_cons, List.any_nil, Bool.or_eq_true, decide_eq_true_eq, Bool.false_eq_true, or_false,
    Nat.reduceSub]
  omega

/-- **A private address embedded in sixteen bytes is private** where it is mapped or translated, and
else only if it is the unspecified or the loopback address of IPv6. -/
theorem isPrivateIP_embed_iff (h : isPrivateIP (some (v4 a)) = true) (e : Embedding) :
    isPrivateIP (some (v6 (e.embed a))) = true ↔ e = .mapped ∨ e = .nat64 ∨
      e = .compatible ∧ a.val ≤ 1 := by
  cases e with
  | mapped =>
    have hval : (Embedding.mapped.embed a).val = 0xffff * 2 ^ 32 + a := rfl
    have hto4 : (v6 (Embedding.mapped.embed a)).to4 = some a.val := by
      rw [to4, if_pos (by omega), Option.some_inj]
      omega
    simp [isPrivateIP_of_to4 hto4, h]
  | compatible | nat64 | sixToFour =>
    rw [isPrivateIP_of_not_mapped (by simp only [Embedding.embed]; omega)]
    simp only [Embedding.embed, reduceCtorEq, true_and, false_and, or_true, false_or, or_false,
      iff_true, iff_false]
    omega

theorem isPrivateIP_mapped_loopback :
    isPrivateIP (some (v6 (Embedding.mapped.embed 0x7f000001))) = true :=
  (isPrivateIP_embed_iff (by decide) .mapped).mpr (.inl rfl)

/-- `::10.0.0.1` and `2002:a00:1::` are taken for public. -/
theorem isPrivateIP_hidden : isPrivateIP (some (v4 0x0a000001)) = true ∧
    isPrivateIP (some (v6 (Embedding.compatible.embed 0x0a000001))) = false ∧
    isPrivateIP (some (v6 ((Embedding.sixToFour 0).embed 0x0a000001))) = false := by
  decide

end IP

end TokensFlux
