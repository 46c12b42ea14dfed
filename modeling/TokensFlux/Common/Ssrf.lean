import Mathlib

/-!
# SSRF protection

Which addresses a request of the server must not go to; an address is a number of 32 or 128 bits.
-/

namespace TokensFlux

/-- A `net.IP` of four or of sixteen bytes. -/
inductive IP
  | v4 (a : Fin (2 ^ 32))
  | v6 (x : Fin (2 ^ 128))
deriving DecidableEq

/-- A network by its first address and the length of its prefix. -/
structure IPNet where
  ip : ℕ
  ones : ℕ

def IPNet.contains (width : ℕ) (net : IPNet) (x : ℕ) : Bool :=
  x / 2 ^ (width - net.ones) = net.ip / 2 ^ (width - net.ones)

def ipv4Net (a b c d ones : ℕ) : IPNet := ⟨((a * 256 + b) * 256 + c) * 256 + d, ones⟩

def privateIPv4Nets : List IPNet :=
  [ipv4Net 0 0 0 0 8, ipv4Net 10 0 0 0 8, ipv4Net 100 64 0 0 10, ipv4Net 127 0 0 0 8,
    ipv4Net 169 254 0 0 16, ipv4Net 172 16 0 0 12, ipv4Net 192 0 0 0 24, ipv4Net 192 0 2 0 24,
    ipv4Net 192 168 0 0 16, ipv4Net 198 18 0 0 15, ipv4Net 198 51 100 0 24, ipv4Net 203 0 113 0 24,
    ipv4Net 224 0 0 0 4, ipv4Net 240 0 0 0 4, ipv4Net 255 255 255 255 32]

def privateIPv6Nets : List IPNet :=
  [⟨0, 128⟩, ⟨1, 128⟩, ⟨0xffff * 2 ^ 32, 96⟩, ⟨0x64ff9b * 2 ^ 96, 96⟩, ⟨0x100 * 2 ^ 112, 64⟩,
    ⟨0x2001 * 2 ^ 112, 23⟩, ⟨0x20010db8 * 2 ^ 96, 32⟩, ⟨0xfc00 * 2 ^ 112, 7⟩,
    ⟨0xfe80 * 2 ^ 112, 10⟩, ⟨0xff00 * 2 ^ 112, 8⟩]

namespace IP

/-- The address of four bytes, also where it is written in sixteen as `::ffff:a`. -/
def to4 : IP → Option ℕ
  | v4 a => some a
  | v6 x => if x.val / 2 ^ 32 = 0xffff then some (x.val % 2 ^ 32) else none

def value : IP → ℕ
  | v4 a => a
  | v6 x => x

/-- The tests of the library ask for four bytes first. -/
def test (ip : IP) (four six : ℕ → Bool) : Bool :=
  ip.to4.elim (six ip.value) four

def multicastScope (scope x : ℕ) : Bool :=
  x / 2 ^ 120 = 0xff ∧ x / 2 ^ 112 % 16 = scope

variable (ip : IP)

def isUnspecified : Bool := ip.test (· = 0) (· = 0)

def isLoopback : Bool := ip.test ((ipv4Net 127 0 0 0 8).contains 32) (· = 1)

def isLinkLocalUnicast : Bool :=
  ip.test ((ipv4Net 169 254 0 0 16).contains 32) (IPNet.contains 128 ⟨0xfe80 * 2 ^ 112, 10⟩)

def isLinkLocalMulticast : Bool := ip.test ((ipv4Net 224 0 0 0 24).contains 32) (multicastScope 2)

def isInterfaceLocalMulticast : Bool := ip.test (fun _ => false) (multicastScope 1)

/-- The last test is `IsPrivate` of the library, for an address of sixteen bytes. -/
def isPrivateIP : Option IP → Bool
  | none => true
  | some ip =>
    ip.isUnspecified || ip.isLoopback || ip.isLinkLocalUnicast || ip.isLinkLocalMulticast ||
      ip.isInterfaceLocalMulticast || ip.test (fun a => privateIPv4Nets.any (·.contains 32 a))
        fun x => privateIPv6Nets.any (·.contains 128 x) ||
          IPNet.contains 128 ⟨0xfc00 * 2 ^ 112, 7⟩ x

end IP

end TokensFlux
