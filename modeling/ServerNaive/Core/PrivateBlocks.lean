import ServerNaive.Bits.Block
import ServerNaive.Core.Address

/-! The private-address filter against the list of address blocks that it stands for. -/
namespace StdNet
open BitBlock

namespace Ipv4Addr

/-- The address as a number of 32 bits. -/
def toNat (ip : Ipv4Addr) : Nat := ((ip.a.toNat * 256 + ip.b.toNat) * 256 + ip.c.toNat) * 256 + ip.d.toNat

/-- The block `ip/len`. -/
def block (ip : Ipv4Addr) (len : Nat) (aligned : 2 ^ (32 - len) ∣ ip.toNat) : Block := ⟨ip.toNat, 32 - len, aligned⟩

end Ipv4Addr

namespace Ipv6Addr

/-- The address as a number of 128 bits. -/
def toNat (ip : Ipv6Addr) : Nat := ip.segments.foldl (fun n segment => n * 65536 + segment.toNat) 0

def block (ip : Ipv6Addr) (len : Nat) (aligned : 2 ^ (128 - len) ∣ ip.toNat) : Block := ⟨ip.toNat, 128 - len, aligned⟩

end Ipv6Addr

end StdNet

namespace ServerNaive
open StdNet BitBlock

/-- Loopback, the three private ones, link-local, this network, shared address space, protocol
assignments, broadcast and multicast. -/
def privateBlocks4 : List Block :=
  [Ipv4Addr.block ⟨127, 0, 0, 0⟩ 8 (by decide), Ipv4Addr.block ⟨10, 0, 0, 0⟩ 8 (by decide),
    Ipv4Addr.block ⟨172, 16, 0, 0⟩ 12 (by decide), Ipv4Addr.block ⟨192, 168, 0, 0⟩ 16 (by decide),
    Ipv4Addr.block ⟨169, 254, 0, 0⟩ 16 (by decide), Ipv4Addr.block ⟨0, 0, 0, 0⟩ 8 (by decide),
    Ipv4Addr.block ⟨100, 64, 0, 0⟩ 10 (by decide), Ipv4Addr.block ⟨192, 0, 0, 0⟩ 24 (by decide),
    Ipv4Addr.block ⟨255, 255, 255, 255⟩ 32 (by decide), Ipv4Addr.block ⟨224, 0, 0, 0⟩ 4 (by decide)]

/-- Loopback, unique local and link-local. -/
def privateBlocks6 : List Block :=
  [Ipv6Addr.block .localhost 128 (by decide), Ipv6Addr.block ⟨[0xfc00, 0, 0, 0, 0, 0, 0, 0], rfl⟩ 7 (by decide),
    Ipv6Addr.block ⟨[0xfe80, 0, 0, 0, 0, 0, 0, 0], rfl⟩ 10 (by decide)]

def InPrivateBlock : IpAddr → Prop
  | .v4 ip => ∃ b ∈ privateBlocks4, b.Contains ip.toNat
  | .v6 ip => ∃ b ∈ privateBlocks6, b.Contains ip.toNat

theorem toNat_and_c0 (b : UInt8) : (b &&& 0xC0).toNat = b.toNat / 64 * 64 :=
  and_mask (w := 8) (k := 6) (by decide) b.toNat_lt

theorem toNat_and_fe00 (segment : UInt16) : (segment &&& 0xfe00).toNat = segment.toNat / 512 * 512 :=
  and_mask (w := 16) (k := 9) (by decide) segment.toNat_lt

theorem toNat_and_ffc0 (segment : UInt16) : (segment &&& 0xffc0).toNat = segment.toNat / 64 * 64 :=
  and_mask (w := 16) (k := 6) (by decide) segment.toNat_lt

/-- The leading bits of the address, for the lengths that the filter tests. -/
theorem toNat_div (ip : Ipv4Addr) :
    ip.toNat / 2 ^ 28 = ip.a.toNat / 16 ∧ ip.toNat / 2 ^ 24 = ip.a.toNat ∧
      ip.toNat / 2 ^ 22 = ip.a.toNat * 4 + ip.b.toNat / 64 ∧ ip.toNat / 2 ^ 20 = ip.a.toNat * 16 + ip.b.toNat / 16 ∧
      ip.toNat / 2 ^ 16 = ip.a.toNat * 256 + ip.b.toNat ∧
      ip.toNat / 2 ^ 8 = (ip.a.toNat * 256 + ip.b.toNat) * 256 + ip.c.toNat := by
  have a := ip.a.toNat_lt
  have b := ip.b.toNat_lt
  have c := ip.c.toNat_lt
  have d := ip.d.toNat_lt
  unfold Ipv4Addr.toNat
  refine ⟨?_, ?_, ?_, ?_, ?_, ?_⟩ <;> omega

theorem isPrivateIpv4_iff (ip : Ipv4Addr) : isPrivateIpv4 ip = true ↔ InPrivateBlock (.v4 ip) := by
  obtain ⟨four, eight, ten, twelve, sixteen, twentyFour⟩ := toNat_div ip
  have b := ip.b.toNat_lt
  have c := ip.c.toNat_lt
  have d := ip.d.toNat_lt
  simp only [isPrivateIpv4, Ipv4Addr.isLoopback, Ipv4Addr.isPrivate, Ipv4Addr.isLinkLocal, Ipv4Addr.isBroadcast,
    Ipv4Addr.isMulticast, Bool.or_eq_true, Bool.and_eq_true, beq_iff_eq, decide_eq_true_eq, or_assoc,
    ← UInt8.toNat_inj, UInt8.le_iff_toNat_le, toNat_and_c0]
  simp only [InPrivateBlock, privateBlocks4, List.mem_cons, List.not_mem_nil, or_false, exists_eq_or_imp,
    exists_eq_left, Ipv4Addr.block, Block.contains_iff, Nat.reduceSub, four, eight, ten, twelve, sixteen, twentyFour]
  refine or_congr ?_ (or_congr ?_ (or_congr ?_ (or_congr ?_ (or_congr ?_ (or_congr ?_ (or_congr ?_ (or_congr ?_
    (or_congr ?_ ?_))))))))
  · exact Iff.rfl
  · exact Iff.rfl
  · change (_ = 172 ∧ 16 ≤ _) ∧ _ ≤ 31 ↔ _ = 2753
    omega
  · change _ = 192 ∧ _ = 168 ↔ _ = 49320
    omega
  · change _ = 169 ∧ _ = 254 ↔ _ = 43518
    omega
  · exact Iff.rfl
  · change _ = 100 ∧ _ = 64 ↔ _ = 401
    omega
  · change (_ = 192 ∧ _ = 0) ∧ _ = 0 ↔ _ = 12582912
    omega
  · change ((_ = 255 ∧ _ = 255) ∧ _ = 255) ∧ _ = 255 ↔ ip.toNat / 2 ^ 0 = 4294967295
    unfold Ipv4Addr.toNat
    omega
  · change 224 ≤ _ ∧ _ ≤ 239 ↔ _ = 14
    omega

theorem exists_segments (ip : Ipv6Addr) : ∃ a b c d e f g h, ip.segments = [a, b, c, d, e, f, g, h] := by
  obtain ⟨segments, size⟩ := ip
  rcases segments with _ | ⟨a, _ | ⟨b, _ | ⟨c, _ | ⟨d, _ | ⟨e, _ | ⟨f, _ | ⟨g, _ | ⟨h, _ | ⟨i, more⟩⟩⟩⟩⟩⟩⟩⟩⟩
  case cons.cons.cons.cons.cons.cons.cons.cons.nil => exact ⟨a, b, c, d, e, f, g, h, rfl⟩
  all_goals
    simp only [List.length_cons, List.length_nil] at size
    omega

/-- An address of the sixth version is its first group, and less than a unit of it. -/
theorem toNat_first (ip : Ipv6Addr) : ∃ rest < 2 ^ 112, ip.toNat = (ip.segment 0).toNat * 2 ^ 112 + rest := by
  obtain ⟨a, b, c, d, e, f, g, h, shape⟩ := exists_segments ip
  obtain ⟨segments, size⟩ := ip
  cases shape
  have bound2 := b.toNat_lt
  have bound3 := c.toNat_lt
  have bound4 := d.toNat_lt
  have bound5 := e.toNat_lt
  have bound6 := f.toNat_lt
  have bound7 := g.toNat_lt
  have bound8 := h.toNat_lt
  refine ⟨(((((b.toNat * 65536 + c.toNat) * 65536 + d.toNat) * 65536 + e.toNat) * 65536 + f.toNat) * 65536 +
    g.toNat) * 65536 + h.toNat, by omega, ?_⟩
  change (((((((0 * 65536 + a.toNat) * 65536 + b.toNat) * 65536 + c.toNat) * 65536 + d.toNat) * 65536 + e.toNat) *
    65536 + f.toNat) * 65536 + g.toNat) * 65536 + h.toNat = a.toNat * 2 ^ 112 + _
  omega

theorem toNat_eq_one_iff (ip : Ipv6Addr) : ip = .localhost ↔ ip.toNat = 1 := by
  constructor
  · rintro rfl
    rfl
  · intro one
    obtain ⟨a, b, c, d, e, f, g, h, shape⟩ := exists_segments ip
    obtain ⟨segments, size⟩ := ip
    cases shape
    change (((((((0 * 65536 + a.toNat) * 65536 + b.toNat) * 65536 + c.toNat) * 65536 + d.toNat) * 65536 + e.toNat) *
      65536 + f.toNat) * 65536 + g.toNat) * 65536 + h.toNat = 1 at one
    have zero (x : UInt16) (value : x.toNat = 0) : x = 0 := UInt16.toNat_inj.mp value
    obtain rfl := zero a (by omega)
    obtain rfl := zero b (by omega)
    obtain rfl := zero c (by omega)
    obtain rfl := zero d (by omega)
    obtain rfl := zero e (by omega)
    obtain rfl := zero f (by omega)
    obtain rfl := zero g (by omega)
    obtain rfl : h = 1 := UInt16.toNat_inj.mp (show h.toNat = 1 by omega)
    rfl

theorem isPrivateIpv6_iff (ip : Ipv6Addr) : isPrivateIpv6 ip = true ↔ InPrivateBlock (.v6 ip) := by
  obtain ⟨rest, small, value⟩ := toNat_first ip
  have first := (ip.segment 0).toNat_lt
  have seven : ip.toNat / 2 ^ 121 = (ip.segment 0).toNat / 512 := by omega
  have ten : ip.toNat / 2 ^ 118 = (ip.segment 0).toNat / 64 := by omega
  simp only [isPrivateIpv6, Ipv6Addr.isLoopback, isIpv6Ula, isIpv6LinkLocal, Bool.or_eq_true, beq_iff_eq, or_assoc,
    ← UInt16.toNat_inj, toNat_and_fe00, toNat_and_ffc0]
  simp only [InPrivateBlock, privateBlocks6, List.mem_cons, List.not_mem_nil, or_false, exists_eq_or_imp,
    exists_eq_left, Ipv6Addr.block, Block.contains_iff, Nat.reduceSub, seven, ten]
  refine or_congr ?_ (or_congr ?_ ?_)
  · change _ ↔ ip.toNat / 2 ^ 0 = 1
    rw [Nat.pow_zero, Nat.div_one]
    exact toNat_eq_one_iff ip
  · change _ = 64512 ↔ _ = 126
    omega
  · change _ = 65152 ↔ _ = 1018
    omega

theorem isPrivateIp_iff (ip : IpAddr) : isPrivateIp ip = true ↔ InPrivateBlock ip := by
  cases ip with
  | v4 ip => exact isPrivateIpv4_iff ip
  | v6 ip => exact isPrivateIpv6_iff ip

instance (ip : IpAddr) : Decidable (InPrivateBlock ip) := decidable_of_iff _ (isPrivateIp_iff ip)

end ServerNaive
