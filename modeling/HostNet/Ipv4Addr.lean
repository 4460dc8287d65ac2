import HostNet.Bytes

/-!
# IPv4 addresses

* `Ipv4Addr` — four octets.
* `Ipv4Addr.bytes` — the octets in order, as they are on the wire.
* `Ipv4Addr.rank` — the octets as one number; addresses are ordered by it.
* `Ipv4Addr.text` — the dotted form.
-/

namespace HostNet

/-- The address of a host. -/
structure Ipv4Addr where
  o0 : UInt8
  o1 : UInt8
  o2 : UInt8
  o3 : UInt8
  deriving Repr, DecidableEq, Inhabited

namespace Ipv4Addr

/-- The octets in order. -/
def bytes (ip : Ipv4Addr) : Bytes := [ip.o0, ip.o1, ip.o2, ip.o3]

@[simp] theorem length_bytes (ip : Ipv4Addr) : ip.bytes.length = 4 := rfl

/-- The octets read as one number, first octet highest. -/
def rank (ip : Ipv4Addr) : Nat := ip.bytes.foldl (fun n octet => n * 256 + octet.toNat) 0

/-- Different addresses have different ranks. -/
theorem rank_injective {a b : Ipv4Addr} (h : a.rank = b.rank) : a = b := by
  obtain ⟨a0, a1, a2, a3⟩ := a
  obtain ⟨b0, b1, b2, b3⟩ := b
  have := a0.toNat_lt
  have := a1.toNat_lt
  have := a2.toNat_lt
  have := a3.toNat_lt
  have := b0.toNat_lt
  have := b1.toNat_lt
  have := b2.toNat_lt
  have := b3.toNat_lt
  simp only [rank, bytes, List.foldl_cons, List.foldl_nil] at h
  simp only [mk.injEq, ← UInt8.toNat_inj]
  omega

/-- The octets in decimal, with dots between them. -/
def text (ip : Ipv4Addr) : String :=
  s!"{ip.o0.toNat}.{ip.o1.toNat}.{ip.o2.toNat}.{ip.o3.toNat}"

end Ipv4Addr

end HostNet
