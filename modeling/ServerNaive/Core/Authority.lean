import ServerNaive.Core.Address
import ServerNaive.Net.Slice
import ServerNaive.Net.TextLaws

/-! CONNECT targets as text: how they are printed, and how `from_authority` slices what it is given. -/
namespace ServerNaive.Address
open StdNet

/-- As the `Display` of an address. -/
def toString : Address → String
  | .ipv4 ip port => ip.toString ++ ":" ++ String.ofList (Nat.toDigits 10 port.toNat)
  | .ipv6 ip port => "[" ++ ip.toString ++ "]:" ++ String.ofList (Nat.toDigits 10 port.toNat)
  | .domain host port => host ++ ":" ++ String.ofList (Nat.toDigits 10 port.toNat)

/-- `from_authority` with its slices: the outer `none` is a slice that panics. -/
def fromAuthoritySlices (authority : String) : Option (Option Address) :=
  let s := authority.toList
  if s.head? = some '[' then
    match find ']' s with
    | none => some none
    | some close => do
        let host ← slice s 1 close
        let rest ← sliceFrom s (close + 1)
        return do
          let port ← stripFront [':'] rest
          let port ← parseU16 (trim port)
          let ip ← parseIpv6Addr (String.ofList host)
          return .ipv6 ip port
  else
    match rfind ':' s with
    | none => some none
    | some colon => do
        let host ← sliceTo s colon
        let port ← sliceFrom s (colon + 1)
        return do
          let port ← parseU16 port
          return ((parseIpv4Addr (String.ofList host)).map (.ipv4 · port)).getD (.domain (String.ofList host) port)

/-! The two branches. -/

theorem fromAuthority_bracket {authority : String} {s : Text} (starts : authority.toList = '[' :: s)
    (target : Address) :
    fromAuthority authority = some target ↔ ∃ host port number ip, splitFirst ']' s = some (host, ':' :: port) ∧
      parseU16 (trim port) = some number ∧ parseIpv6Addr (String.ofList host) = some ip ∧
        target = .ipv6 ip number := by
  constructor
  · intro parsed
    simp only [fromAuthority, starts] at parsed
    split at parsed
    · rename_i host port cut
      split at parsed
      · rename_i number ip numbered read
        cases parsed
        exact ⟨host, port, number, ip, cut, numbered, read, rfl⟩
      · cases parsed
    · cases parsed
  · rintro ⟨host, port, number, ip, cut, numbered, read, rfl⟩
    simp only [fromAuthority, starts, cut, numbered, read]

/-- Text that is no address of the fourth version is a domain, whatever it is. -/
theorem fromAuthority_unbracketed {authority : String} (plain : authority.toList.head? ≠ some '[') :
    fromAuthority authority = (splitLast ':' authority.toList).bind fun cut => (parseU16 cut.2).map fun number =>
      ((parseIpv4Addr (String.ofList cut.1)).map (.ipv4 · number)).getD (.domain (String.ofList cut.1) number) := by
  unfold fromAuthority
  split
  · rename_i s starts
    rw [starts] at plain
    exact absurd rfl plain
  · cases splitLast ':' authority.toList with
    | none => rfl
    | some cut =>
        cases numbered : parseU16 cut.2 with
        | none => simp [numbered]
        | some number => cases four : parseIpv4Addr (String.ofList cut.1) <;> simp [numbered, four]

theorem fromAuthority_plain {authority : String} (plain : authority.toList.head? ≠ some '[') (target : Address) :
    fromAuthority authority = some target ↔ ∃ host port number, splitLast ':' authority.toList = some (host, port) ∧
      parseU16 port = some number ∧
        target = ((parseIpv4Addr (String.ofList host)).map (.ipv4 · number)).getD (.domain (String.ofList host) number) := by
  rw [fromAuthority_unbracketed plain]
  simp only [Option.bind_eq_some_iff, Option.map_eq_some_iff, Prod.exists, @eq_comm _ target,
    exists_and_left]

theorem head?_cases (s : Text) : (∃ t, s = '[' :: t) ∨ s.head? ≠ some '[' := by
  cases s with
  | nil => exact .inr (by simp)
  | cons c s =>
      by_cases bracket : c = '['
      · exact .inl ⟨s, by rw [bracket]⟩
      · exact .inr (by simpa using bracket)

/-! Slices. -/

/-- The cut of a bracketed authority: the offsets stand before and behind the bracket. -/
theorem slices_bracket {s host rest : Text} (cut : splitFirst ']' s = some (host, rest)) :
    ∃ close, find ']' ('[' :: s) = some close ∧ slice ('[' :: s) 1 close = some host ∧
      sliceFrom ('[' :: s) (close + 1) = some rest := by
  obtain ⟨rfl, -⟩ := splitFirst_eq_some cut
  have inside : '[' :: (host ++ ']' :: rest) = ['['] ++ host ++ (']' :: rest) := by simp
  have behind : '[' :: (host ++ ']' :: rest) = ('[' :: host ++ [']']) ++ rest := by simp
  have size : byteLen ('[' :: host ++ [']']) = byteLen (['['] ++ host) + 1 := byteLen_append ('[' :: host) [']']
  refine ⟨byteLen (['['] ++ host), ?_, ?_, ?_⟩
  · rw [find_eq, splitFirst, if_neg (by decide), cut]
    rfl
  · rw [inside]
    exact slice_append ['['] host (']' :: rest)
  · rw [behind, ← size]
    exact sliceFrom_append ('[' :: host ++ [']']) rest

theorem slices_plain {s host port : Text} (cut : splitLast ':' s = some (host, port)) :
    ∃ colon, rfind ':' s = some colon ∧ sliceTo s colon = some host ∧ sliceFrom s (colon + 1) = some port := by
  have found := rfind_eq ':' s
  rw [cut] at found
  obtain ⟨rfl, -⟩ := splitLast_eq_some cut
  have behind : host ++ ':' :: port = (host ++ [':']) ++ port := by simp
  have size : byteLen (host ++ [':']) = byteLen host + 1 := byteLen_append host [':']
  refine ⟨byteLen host, found, sliceTo_append host (':' :: port), ?_⟩
  rw [behind, ← size]
  exact sliceFrom_append (host ++ [':']) port

theorem fromAuthoritySlices_bracket {authority : String} {s : Text} (starts : authority.toList = '[' :: s) :
    fromAuthoritySlices authority = some (fromAuthority authority) := by
  simp only [fromAuthoritySlices, fromAuthority, starts, List.head?_cons, if_true]
  cases cut : splitFirst ']' s with
  | none =>
      have absent : find ']' ('[' :: s) = none := by
        rw [find_eq, splitFirst, if_neg (by decide), cut]
        rfl
      simp only [absent]
  | some parts =>
      obtain ⟨host, rest⟩ := parts
      obtain ⟨close, found, inside, behind⟩ := slices_bracket cut
      simp only [found, inside, behind, Option.bind_eq_bind, Option.bind_some]
      cases rest with
      | nil => rfl
      | cons c port =>
          by_cases colon : c = ':'
          · subst colon
            have stripped : stripFront [':'] (':' :: port) = some port := rfl
            rw [stripped, Option.bind_some]
            cases numbered : parseU16 (trim port) with
            | none => simp [numbered]
            | some number => cases six : parseIpv6Addr (String.ofList host) <;> simp [numbered, six]
          · have kept : stripFront [':'] (c :: port) = none := by
              simp [stripFront, Ne.symm colon]
            rw [kept]
            simp [colon]

theorem fromAuthoritySlices_plain {authority : String} (plain : authority.toList.head? ≠ some '[') :
    fromAuthoritySlices authority = some (fromAuthority authority) := by
  rw [fromAuthority_unbracketed plain]
  simp only [fromAuthoritySlices, if_neg plain]
  cases cut : splitLast ':' authority.toList with
  | none =>
      have absent := rfind_eq ':' authority.toList
      rw [cut] at absent
      simp only [absent, Option.map_none, Option.bind_none]
  | some parts =>
      obtain ⟨host, port⟩ := parts
      obtain ⟨colon, found, before, behind⟩ := slices_plain cut
      simp only [found, before, behind, Option.bind_eq_bind, Option.bind_some]
      cases parseU16 port <;> rfl

/-- No authority makes a slice panic. -/
theorem fromAuthoritySlices_eq (authority : String) : fromAuthoritySlices authority = some (fromAuthority authority) := by
  rcases head?_cases authority.toList with ⟨s, starts⟩ | plain
  · exact fromAuthoritySlices_bracket starts
  · exact fromAuthoritySlices_plain plain

/-! Printing. -/

theorem toList_ipv4 (ip : Ipv4Addr) (port : UInt16) :
    (Address.ipv4 ip port).toString.toList = showIpv4 ip ++ ':' :: Nat.toDigits 10 port.toNat := by
  simp [toString, Ipv4Addr.toString]

theorem toList_ipv6 (ip : Ipv6Addr) (port : UInt16) :
    (Address.ipv6 ip port).toString.toList = '[' :: (showIpv6 ip ++ ']' :: ':' :: Nat.toDigits 10 port.toNat) := by
  simp [toString, Ipv6Addr.toString]

theorem toList_domain (host : String) (port : UInt16) :
    (Address.domain host port).toString.toList = host.toList ++ ':' :: Nat.toDigits 10 port.toNat := by
  simp [toString]

theorem colon_not_mem_toDigits (n : Nat) : ':' ∉ Nat.toDigits 10 n := by
  intro member
  exact forall_mem_toDigits (P := (· ≠ ':')) (show 1 < 10 by decide) (by decide) n ':' member rfl

theorem fromAuthority_ipv4 (ip : Ipv4Addr) (port : UInt16) :
    fromAuthority (Address.ipv4 ip port).toString = some (.ipv4 ip port) := by
  have printed := toList_ipv4 ip port
  have plain : (Address.ipv4 ip port).toString.toList.head? ≠ some '[' := by
    rw [printed]
    intro bracket
    rcases List.mem_append.mp (List.mem_of_mem_head? bracket) with shown | rest
    · exact forall_mem_showIpv4 (P := (· ≠ '[')) (by decide) (by decide) ip '[' shown rfl
    · rcases List.mem_cons.mp rest with colon | digit
      · exact absurd colon (by decide)
      · exact forall_mem_toDigits (P := (· ≠ '[')) (show 1 < 10 by decide) (by decide) _ '[' digit rfl
  refine (fromAuthority_plain plain _).mpr ⟨showIpv4 ip, Nat.toDigits 10 port.toNat, port, ?_, parseU16_toDigits port, ?_⟩
  · rw [printed]
    exact splitLast_append (showIpv4 ip) (colon_not_mem_toDigits _)
  · have read := parseIpv4Addr_toString ip
    rw [Ipv4Addr.toString] at read
    rw [read]
    rfl

theorem fromAuthority_ipv6 (ip : Ipv6Addr) (port : UInt16) :
    fromAuthority (Address.ipv6 ip port).toString = some (.ipv6 ip port) := by
  have read := parseIpv6Addr_toString ip
  rw [Ipv6Addr.toString] at read
  refine (fromAuthority_bracket (toList_ipv6 ip port) _).mpr
    ⟨showIpv6 ip, Nat.toDigits 10 port.toNat, port, ip, ?_, ?_, read, rfl⟩
  · apply splitFirst_append
    intro member
    exact forall_mem_showIpv6 (P := (· ≠ ']')) (by decide) (by decide) (by decide) ip ']' member rfl
  · rw [trim_toDigits, parseU16_toDigits]

/-- A domain is printed as it was read, up to the spelling of the port, so the same colon is the last. -/
theorem fromAuthority_domain {authority host : String} {port : UInt16}
    (parsed : fromAuthority authority = some (.domain host port)) :
    fromAuthority (Address.domain host port).toString = some (.domain host port) := by
  rcases head?_cases authority.toList with ⟨s, starts⟩ | plain
  · obtain ⟨_, _, _, _, -, -, -, other⟩ := (fromAuthority_bracket starts _).mp parsed
    cases other
  · obtain ⟨name, spelled, number, cut, -, target⟩ := (fromAuthority_plain plain _).mp parsed
    cases four : parseIpv4Addr (String.ofList name) with
    | some ip =>
        rw [four] at target
        cases target
    | none =>
        rw [four] at target
        cases target
        have printed := toList_domain (String.ofList name) port
        rw [String.toList_ofList] at printed
        have unbracketed : (Address.domain (String.ofList name) port).toString.toList.head? ≠ some '[' := by
          rw [(splitLast_eq_some cut).1] at plain
          rw [printed]
          cases name with
          | nil => exact plain
          | cons c name => exact plain
        refine (fromAuthority_plain unbracketed _).mpr
          ⟨name, Nat.toDigits 10 port.toNat, port, ?_, parseU16_toDigits port, ?_⟩
        · rw [printed]
          exact splitLast_append name (colon_not_mem_toDigits _)
        · rw [four]
          rfl

/-- Whatever is accepted is printed in a spelling that is read back, and no text makes a slice panic. -/
theorem authority_round_trip :
    (∀ authority target, fromAuthority authority = some target → fromAuthority target.toString = some target) ∧
    (∀ ip port, fromAuthority (Address.ipv4 ip port).toString = some (.ipv4 ip port)) ∧
    (∀ ip port, fromAuthority (Address.ipv6 ip port).toString = some (.ipv6 ip port)) ∧
    ∀ authority, fromAuthoritySlices authority = some (fromAuthority authority) := by
  refine ⟨?_, fromAuthority_ipv4, fromAuthority_ipv6, fromAuthoritySlices_eq⟩
  intro authority target parsed
  cases target with
  | ipv4 ip port => exact fromAuthority_ipv4 ip port
  | ipv6 ip port => exact fromAuthority_ipv6 ip port
  | domain host port => exact fromAuthority_domain parsed

/-- Only the bracketed form trims, and a sign or leading zeros are accepted in both. -/
theorem authority_round_trip_spellings :
    (fromAuthority "[::1]: +0443 " = some (.ipv6 Ipv6Addr.localhost 443) ∧
      fromAuthority (Address.ipv6 Ipv6Addr.localhost 443).toString = some (.ipv6 Ipv6Addr.localhost 443)) ∧
    fromAuthority "é.example:+0443" = some (.domain "é.example" 443) ∧
      fromAuthority (Address.domain "é.example" 443).toString = some (.domain "é.example" 443) :=
  ⟨⟨by decide +kernel, authority_round_trip.1 "[::1]: +0443 " _ (by decide +kernel)⟩, by decide +kernel,
    authority_round_trip.1 "é.example:+0443" _ (by decide +kernel)⟩

end ServerNaive.Address
