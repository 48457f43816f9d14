import ServerNaive.Net.Text

/-! Printed numbers and addresses: which characters they are made of, and that they are read back. -/
namespace StdNet

/-! Ports. -/

theorem dropWhile_of_none {s : Text} (none_blank : ∀ c ∈ s, isWhitespace c = false) : s.dropWhile isWhitespace = s := by
  cases s with
  | nil => rfl
  | cons c s => rw [List.dropWhile_cons_of_neg (by rw [none_blank c List.mem_cons_self]; decide)]

theorem trim_of_none {s : Text} (none_blank : ∀ c ∈ s, isWhitespace c = false) : trim s = s := by
  have reversed : ∀ c ∈ s.reverse, isWhitespace c = false := fun c member => none_blank c (List.mem_reverse.mp member)
  rw [trim, dropWhile_of_none none_blank, dropWhile_of_none reversed, List.reverse_reverse]

theorem trim_toDigits (n : Nat) : trim (Nat.toDigits 10 n) = Nat.toDigits 10 n :=
  trim_of_none (forall_mem_toDigits (by decide) (by decide) n)

theorem parseU16_unsigned {s : Text} (unsigned : s.head? ≠ some '+') : parseU16 s = parseDigits16 s := by
  unfold parseU16
  split
  · exact absurd rfl unsigned
  · rfl

theorem parseDigits16_toDigits (n : UInt16) : parseDigits16 (Nat.toDigits 10 n.toNat) = some n := by
  obtain ⟨ds, printed, below, value, _⟩ := toDigits_values (show 1 < 10 by decide) n.toNat
  have nonempty : ds ≠ [] := by
    rintro rfl
    exact Nat.toDigits_ne_nil printed
  have span := spanDigits_show (by decide) below (ends_nil 10)
  rw [List.append_nil, ← printed] at span
  simp only [parseDigits16, span, nonempty, value, n.toNat_lt, ne_eq, not_true_eq_false, or_self, if_false, if_true,
    UInt16.ofNat_toNat]

theorem parseU16_toDigits (n : UInt16) : parseU16 (Nat.toDigits 10 n.toNat) = some n := by
  have unsigned : (Nat.toDigits 10 n.toNat).head? ≠ some '+' := by
    intro signed
    have plain := forall_mem_toDigits (P := (· ≠ '+')) (show 1 < 10 by decide) (by decide) n.toNat
    exact plain '+' (List.mem_of_mem_head? signed) rfl
  rw [parseU16_unsigned unsigned, parseDigits16_toDigits]

/-! Addresses. -/

theorem forall_mem_showIpv4 {P : Char → Prop} (digits : ∀ d < 10, P (Nat.digitChar d)) (dot : P '.') (ip : Ipv4Addr) :
    ∀ c ∈ showIpv4 ip, P c := by
  have number := forall_mem_toDigits (by decide) digits
  intro c member
  simp only [showIpv4, List.mem_append, List.mem_cons] at member
  rcases member with a | rfl | b | rfl | c | rfl | d
  · exact number _ _ a
  · exact dot
  · exact number _ _ b
  · exact dot
  · exact number _ _ c
  · exact dot
  · exact number _ _ d

theorem forall_mem_showIpv6 {P : Char → Prop} (digits : ∀ d < 16, P (Nat.digitChar d)) (colon : P ':') (dot : P '.')
    (ip : Ipv6Addr) : ∀ c ∈ showIpv6 ip, P c := by
  have groups := forall_mem_showGroups digits colon
  intro c member
  unfold showIpv6 at member
  split at member
  · rcases List.mem_append.mp member with lead | four
    · simp only [List.mem_cons, List.not_mem_nil, or_false] at lead
      rcases lead with rfl | rfl | rfl | rfl | rfl | rfl | rfl
      any_goals exact colon
      all_goals exact digits 15 (by decide)
    · exact forall_mem_showIpv4 (fun d below => digits d (by omega)) dot _ c four
  · unfold showSegments at member
    dsimp only at member
    split_ifs at member
    · rw [List.mem_append, List.mem_append] at member
      rcases member with (front | colons) | back
      · exact groups _ _ c front
      · simp only [List.mem_cons, List.not_mem_nil, or_false, or_self] at colons
        rw [colons]
        exact colon
      · exact groups _ _ c back
    · exact groups _ _ c member

theorem length_showIpv4 (ip : Ipv4Addr) : (showIpv4 ip).length ≤ 15 := by
  have octet (n : UInt8) : (Nat.toDigits 10 n.toNat).length ≤ 3 :=
    (Nat.length_toDigits_le_iff (by decide) (by decide)).mpr (Nat.lt_trans n.toNat_lt (by decide))
  have a := octet ip.a
  have b := octet ip.b
  have c := octet ip.c
  have d := octet ip.d
  simp only [showIpv4, List.length_append, List.length_cons]
  omega

theorem parseIpv4Addr_toString (ip : Ipv4Addr) : parseIpv4Addr ip.toString = some ip := by
  have read := readIpv4Addr_show ip (ends_nil 10)
  have short := length_showIpv4 ip
  rw [List.append_nil] at read
  rw [parseIpv4Addr, Ipv4Addr.toString, String.toList_ofList, if_neg (by omega), read]
  rfl

theorem parseIpv6Addr_toString (ip : Ipv6Addr) : parseIpv6Addr ip.toString = some ip := by
  rw [parseIpv6Addr, Ipv6Addr.toString, String.toList_ofList, readIpv6Addr_show]
  rfl

/-! The parser of both families against those of one. -/

theorem spanDigits_length (radix : Nat) (s : Text) :
    (spanDigits radix s).1.length + (spanDigits radix s).2.length = s.length := by
  induction s with
  | nil => rfl
  | cons c s ih =>
      rw [spanDigits]
      split
      · exact Nat.zero_add _
      · simp only [List.length_cons]
        omega

theorem readOctet_length {s rest : Text} {n : UInt8} (read : readOctet s = some (n, rest)) :
    s.length ≤ rest.length + 3 := by
  have total := spanDigits_length 10 s
  obtain ⟨⟨value, left⟩, number, same⟩ := Option.map_eq_some_iff.mp read
  cases same
  simp only [readNumber] at number
  split_ifs at number with long
  cases number
  omega

theorem readGivenChar_length {c : Char} {s rest : Text} (read : readGivenChar c s = some rest) :
    s.length = rest.length + 1 := by
  cases s with
  | nil => cases read
  | cons x s =>
      rw [readGivenChar] at read
      split_ifs at read
      cases read
      rfl

theorem readIpv4Addr_length {s rest : Text} {ip : Ipv4Addr} (read : readIpv4Addr s = some (ip, rest)) :
    s.length ≤ rest.length + 15 := by
  simp only [readIpv4Addr, Option.bind_eq_bind, Option.bind_eq_some_iff, Prod.exists] at read
  obtain ⟨a, s1, one, s2, dot1, b, s3, two, s4, dot2, c, s5, three, s6, dot3, d, s7, four, same⟩ := read
  cases same
  have first := readOctet_length one
  have second := readOctet_length two
  have third := readOctet_length three
  have fourth := readOctet_length four
  rw [readGivenChar_length dot1] at first
  rw [readGivenChar_length dot2] at second
  rw [readGivenChar_length dot3] at third
  omega

/-- An address of the fourth version in front is no way to start one of the sixth. -/
theorem readIpv6Addr_of_ipv4 {s rest : Text} {ip : Ipv4Addr} (read : readIpv4Addr s = some (ip, rest)) :
    readIpv6Addr s = none := by
  have head : readGroups 8 0 s = ([Ipv4Addr.pair ip.a ip.b, Ipv4Addr.pair ip.c ip.d], true, rest) := by
    simp [readGroups, readSeparator, read]
  simp [readIpv6Addr, head]

theorem parseIpv6Addr_of_ipv4 {s : String} {ip : Ipv4Addr} (four : parseIpv4Addr s = some ip) :
    parseIpv6Addr s = none := by
  unfold parseIpv4Addr at four
  split_ifs at four
  cases read : readIpv4Addr s.toList with
  | none =>
      rw [read] at four
      cases four
  | some got =>
      rw [parseIpv6Addr, readIpv6Addr_of_ipv4 read]
      rfl

theorem parseIpAddr_eq_none_iff (s : String) :
    parseIpAddr s = none ↔ parseIpv4Addr s = none ∧ parseIpv6Addr s = none := by
  cases read : readIpv4Addr s.toList with
  | none =>
      have four : parseIpv4Addr s = none := by
        rw [parseIpv4Addr, read]
        exact ite_self _
      have both : parseIpAddr s = none ↔ parseIpv6Addr s = none := by
        simp only [parseIpAddr, readIpAddr, read, parseIpv6Addr]
        rcases readIpv6Addr s.toList with _ | ⟨ip, _ | ⟨c, rest⟩⟩ <;> simp [whole]
      rw [both, four]
      simp
  | some got =>
      obtain ⟨ip, rest⟩ := got
      have length := readIpv4Addr_length read
      have six : parseIpv6Addr s = none := by
        rw [parseIpv6Addr, readIpv6Addr_of_ipv4 read]
        rfl
      rw [six]
      cases rest with
      | nil => simp [parseIpAddr, readIpAddr, parseIpv4Addr, read, whole, show ¬ 15 < s.toList.length by simpa using length]
      | cons c rest => simp [parseIpAddr, readIpAddr, parseIpv4Addr, read, whole]

end StdNet
