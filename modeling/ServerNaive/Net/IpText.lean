import ServerNaive.Net.Ip

/-! Addresses as text: how the standard library prints and parses them, and that
parsing a printed address gives the address back. Parsers return the unread rest. -/
namespace StdNet

abbrev Text := List Char

/-! Numbers. -/

def toDigit (radix : Nat) (c : Char) : Option Nat :=
  if '0' ≤ c ∧ c ≤ '9' ∧ c.toNat - '0'.toNat < radix then some (c.toNat - '0'.toNat)
  else if 'a' ≤ c ∧ c ≤ 'z' ∧ c.toNat - 'a'.toNat + 10 < radix then some (c.toNat - 'a'.toNat + 10)
  else if 'A' ≤ c ∧ c ≤ 'Z' ∧ c.toNat - 'A'.toNat + 10 < radix then some (c.toNat - 'A'.toNat + 10)
  else none

def ofDigits (radix : Nat) (ds : List Nat) : Nat := ds.foldl (fun n d => n * radix + d) 0

def spanDigits (radix : Nat) : Text → List Nat × Text
  | [] => ([], [])
  | c :: s => match toDigit radix c with
      | none => ([], c :: s)
      | some d => (d :: (spanDigits radix s).1, (spanDigits radix s).2)

/-- As `Parser::read_number` with a digit limit. -/
def readNumber (radix most : Nat) (allowZeroPrefix : Bool) (bound : Nat) (s : Text) :
    Option (Nat × Text) :=
  let (ds, rest) := spanDigits radix s
  if most < ds.length ∨ ds = [] then none
  else if allowZeroPrefix = false ∧ ds.head? = some 0 ∧ 1 < ds.length then none
  else if ofDigits radix ds < bound then some (ofDigits radix ds, rest)
  else none

/-- Text that ends the number before it. -/
def Ends (radix : Nat) (s : Text) : Prop := ∀ c, s.head? = some c → toDigit radix c = none

theorem ofDigits_snoc (radix : Nat) (ds : List Nat) (d : Nat) :
    ofDigits radix (ds ++ [d]) = ofDigits radix ds * radix + d := by
  rw [ofDigits, List.foldl_append]
  rfl

/-- The printed digits, as numbers. -/
theorem toDigits_values {radix : Nat} (base : 1 < radix) (n : Nat) :
    ∃ ds, Nat.toDigits radix n = ds.map Nat.digitChar ∧ (∀ d ∈ ds, d < radix) ∧
      ofDigits radix ds = n ∧ (ds.head? = some 0 → n = 0) := by
  induction n using Nat.strong_induction_on with
  | _ n ih =>
      by_cases one : n < radix
      · refine ⟨[n], Nat.toDigits_of_lt_base one, ?_, ?_, Option.some.inj⟩
        · intro d member
          rw [List.mem_singleton.mp member]
          exact one
        · simp only [ofDigits, List.foldl_cons, List.foldl_nil, Nat.zero_mul, Nat.zero_add]
      · have large := Nat.le_of_not_lt one
        have first : 0 < n / radix := Nat.div_pos large (by omega)
        obtain ⟨ds, printed, below, value, leading⟩ := ih (n / radix) (Nat.div_lt_self (by omega) base)
        refine ⟨ds ++ [n % radix], ?_, ?_, ?_, ?_⟩
        · rw [Nat.toDigits_of_base_le base large, printed, List.map_append]
          rfl
        · intro d member
          rcases List.mem_append.mp member with old | last
          · exact below d old
          · rw [List.mem_singleton.mp last]
            exact Nat.mod_lt _ (by omega)
        · rw [ofDigits_snoc, value, Nat.mul_comm, Nat.div_add_mod]
        · intro zero
          cases ds with
          | nil =>
              rw [← value] at first
              exact absurd first (Nat.lt_irrefl 0)
          | cons d ds =>
              have none_above := leading zero
              omega

/-- What holds of every digit holds of a printed number. -/
theorem forall_mem_toDigits {P : Char → Prop} {radix : Nat} (base : 1 < radix)
    (digits : ∀ d < radix, P (Nat.digitChar d)) (n : Nat) : ∀ c ∈ Nat.toDigits radix n, P c := by
  obtain ⟨ds, printed, below, _⟩ := toDigits_values base n
  rw [printed]
  intro c member
  obtain ⟨d, inside, rfl⟩ := List.mem_map.mp member
  exact digits d (below d inside)

theorem toDigit_digitChar {radix d : Nat} (hex : radix ≤ 16) (below : d < radix) :
    toDigit radix (Nat.digitChar d) = some d := by
  have all : ∀ r ≤ 16, ∀ d < r, toDigit r (Nat.digitChar d) = some d := by decide
  exact all radix hex d below

theorem spanDigits_show {radix : Nat} (hex : radix ≤ 16) {ds : List Nat} (below : ∀ d ∈ ds, d < radix)
    {rest : Text} (ends : Ends radix rest) :
    spanDigits radix (ds.map Nat.digitChar ++ rest) = (ds, rest) := by
  induction ds with
  | nil =>
      cases rest with
      | nil => rfl
      | cons c rest =>
          change spanDigits radix (c :: rest) = _
          rw [spanDigits, ends c rfl]
  | cons d ds ih =>
      have tail := ih fun x member => below x (List.mem_cons_of_mem d member)
      rw [List.map_cons, List.cons_append, spanDigits, toDigit_digitChar hex (below d List.mem_cons_self),
        tail]

theorem readNumber_show {radix most bound n : Nat} {allowZeroPrefix : Bool} {rest : Text}
    (base : 1 < radix) (hex : radix ≤ 16) (positive : 0 < most) (room : bound ≤ radix ^ most)
    (small : n < bound) (ends : Ends radix rest) :
    readNumber radix most allowZeroPrefix bound (Nat.toDigits radix n ++ rest) = some (n, rest) := by
  obtain ⟨ds, printed, below, value, leading⟩ := toDigits_values base n
  have short := (Nat.length_toDigits_le_iff base positive).mpr (Nat.lt_of_lt_of_le small room)
  rw [printed, List.length_map] at short
  have nonempty : ds ≠ [] := by
    rintro rfl
    exact Nat.toDigits_ne_nil printed
  have zero : ¬ (allowZeroPrefix = false ∧ ds.head? = some 0 ∧ 1 < ds.length) := by
    rintro ⟨_, first, long⟩
    rw [leading first, Nat.toDigits_of_lt_base (by omega)] at printed
    have one := congrArg List.length printed
    rw [List.length_map, List.length_singleton] at one
    omega
  rw [readNumber, printed, spanDigits_show hex below ends]
  simp only [value]
  rw [if_neg (by push Not; exact ⟨short, nonempty⟩), if_neg zero, if_pos small]

/-! Addresses of the fourth version. -/

def showIpv4 (ip : Ipv4Addr) : Text :=
  Nat.toDigits 10 ip.a.toNat ++ '.' :: (Nat.toDigits 10 ip.b.toNat ++ '.' ::
    (Nat.toDigits 10 ip.c.toNat ++ '.' :: Nat.toDigits 10 ip.d.toNat))

def readGivenChar (c : Char) : Text → Option Text
  | [] => none
  | x :: s => if x = c then some s else none

def readOctet (s : Text) : Option (UInt8 × Text) :=
  (readNumber 10 3 false 256 s).map fun (n, s) => (UInt8.ofNat n, s)

def readIpv4Addr (s : Text) : Option (Ipv4Addr × Text) := do
  let (a, s) ← readOctet s
  let s ← readGivenChar '.' s
  let (b, s) ← readOctet s
  let s ← readGivenChar '.' s
  let (c, s) ← readOctet s
  let s ← readGivenChar '.' s
  let (d, s) ← readOctet s
  return (⟨a, b, c, d⟩, s)

theorem readOctet_show (n : UInt8) {rest : Text} (ends : Ends 10 rest) :
    readOctet (Nat.toDigits 10 n.toNat ++ rest) = some (n, rest) := by
  rw [readOctet, readNumber_show (by decide) (by decide) (by decide) (by decide) n.toNat_lt ends]
  simp only [Option.map_some, UInt8.ofNat_toNat]

theorem ends_cons {radix : Nat} {c : Char} {s : Text} (h : toDigit radix c = none) : Ends radix (c :: s) := by
  intro x same
  rw [← Option.some.inj same]
  exact h

theorem ends_nil (radix : Nat) : Ends radix [] := by
  intro c same
  cases same

theorem readIpv4Addr_show (ip : Ipv4Addr) {rest : Text} (ends : Ends 10 rest) :
    readIpv4Addr (showIpv4 ip ++ rest) = some (ip, rest) := by
  have dot (s : Text) : Ends 10 ('.' :: s) := ends_cons (by decide)
  simp only [readIpv4Addr, showIpv4, List.append_assoc, List.cons_append, readOctet_show _ (dot _),
    readGivenChar, Option.bind_eq_bind, Option.bind_some, if_true, readOctet_show _ ends]
  rfl

/-- A dot separates the octets, so text without one is not read as such an address. -/
theorem readIpv4Addr_none {s : Text} (undotted : '.' ∉ s) : readIpv4Addr s = none := by
  have kept : ∀ s : Text, (spanDigits 10 s).2 <:+ s := by
    intro s
    induction s with
    | nil => exact List.suffix_refl _
    | cons c s ih =>
        rw [spanDigits]
        split
        · exact List.suffix_refl _
        · exact ih.trans (List.suffix_cons c s)
  rw [readIpv4Addr]
  cases first : readOctet s with
  | none => rfl
  | some got =>
      obtain ⟨a, rest⟩ := got
      have suffix : rest <:+ s := by
        simp only [readOctet, readNumber, Option.map_eq_some_iff] at first
        obtain ⟨⟨n, left⟩, read, same⟩ := first
        split_ifs at read
        cases read
        cases same
        exact kept s
      have no_dot : readGivenChar '.' rest = none := by
        cases rest with
        | nil => rfl
        | cons c rest =>
            rw [readGivenChar, if_neg]
            rintro rfl
            exact undotted (suffix.subset List.mem_cons_self)
      simp only [Option.bind_eq_bind, Option.bind_some, no_dot, Option.bind_none]

/-! Addresses of the sixth version. -/

/-- A run of groups. -/
structure Span where
  start : Nat
  len : Nat
  deriving DecidableEq

/-- One more zero group, at position `i`. -/
def Span.extend (current : Span) (i : Nat) : Span :=
  ⟨if current.len = 0 then i else current.start, current.len + 1⟩

/-- The loop that looks for the longest run of zero groups; `i` counts the groups seen. -/
def zeroSpan : List UInt16 → Nat → Span → Span → Span
  | [], _, _, longest => longest
  | g :: gs, i, current, longest =>
      if g = 0 then
        zeroSpan gs (i + 1) (current.extend i)
          (if longest.len < (current.extend i).len then current.extend i else longest)
      else zeroSpan gs (i + 1) ⟨0, 0⟩ longest

/-- Groups in hexadecimal, with a colon before all but the first group of the address. -/
def showGroups : Nat → List UInt16 → Text
  | _, [] => []
  | i, g :: gs => (if 0 < i then [':'] else []) ++ Nat.toDigits 16 g.toNat ++ showGroups (i + 1) gs

def toIpv4Mapped (ip : Ipv6Addr) : Option Ipv4Addr :=
  match ip.segments with
  | [0, 0, 0, 0, 0, 0xffff, ab, cd] =>
      some ⟨UInt8.ofNat (ab.toNat / 256), UInt8.ofNat (ab.toNat % 256),
        UInt8.ofNat (cd.toNat / 256), UInt8.ofNat (cd.toNat % 256)⟩
  | _ => none

def showSegments (segments : List UInt16) : Text :=
  let zeroes := zeroSpan segments 0 ⟨0, 0⟩ ⟨0, 0⟩
  if 1 < zeroes.len then
    showGroups 0 (segments.take zeroes.start) ++ [':', ':'] ++
      showGroups 0 (segments.drop (zeroes.start + zeroes.len))
  else showGroups 0 segments

def showIpv6 (ip : Ipv6Addr) : Text :=
  match toIpv4Mapped ip with
  | some v4 => [':', ':', 'f', 'f', 'f', 'f', ':'] ++ showIpv4 v4
  | none => showSegments ip.segments

/-- The colon stands before every group but the first. -/
def readSeparator {α : Type} (i : Nat) (inner : Text → Option (α × Text)) (s : Text) :
    Option (α × Text) :=
  if 0 < i then (readGivenChar ':' s).bind inner else inner s

def readGroup (s : Text) : Option (UInt16 × Text) :=
  (readNumber 16 4 true 65536 s).map fun (n, s) => (UInt16.ofNat n, s)

/-- Reads at most `left` groups, the first of them being number `i`; an address of the
fourth version may stand for the last two. The flag tells whether one did. -/
def readGroups : Nat → Nat → Text → List UInt16 × Bool × Text
  | 0, _, s => ([], false, s)
  | left + 1, i, s =>
      match if 0 < left then readSeparator i readIpv4Addr s else none with
      | some (v4, s) => ([Ipv4Addr.pair v4.a v4.b, Ipv4Addr.pair v4.c v4.d], true, s)
      | none => match readSeparator i readGroup s with
          | none => ([], false, s)
          | some (g, s) =>
              let (gs, embedded, s) := readGroups left (i + 1) s
              (g :: gs, embedded, s)

def readIpv6Addr (s : Text) : Option (Ipv6Addr × Text) :=
  match readGroups 8 0 s with
  | (head, embedded, s) =>
      if head.length = 8 then (Ipv6Addr.ofSegments head).map (·, s)
      else if embedded then none
      else do
        let s ← readGivenChar ':' s
        let s ← readGivenChar ':' s
        let (tail, _, s) := readGroups (8 - (head.length + 1)) 0 s
        let ip ← Ipv6Addr.ofSegments
          (head ++ List.replicate (8 - head.length - tail.length) 0 ++ tail)
        return (ip, s)

def readIpAddr (s : Text) : Option (IpAddr × Text) :=
  match readIpv4Addr s with
  | some (ip, s) => some (.v4 ip, s)
  | none => (readIpv6Addr s).map fun (ip, s) => (.v6 ip, s)

/-- A parse counts only when it reads the whole text. -/
def whole {α : Type} (r : Option (α × Text)) : Option α :=
  match r with
  | some (x, []) => some x
  | _ => none

/-- As `str::parse::<Ipv4Addr>`; longer text is refused at once. -/
def parseIpv4Addr (s : String) : Option Ipv4Addr :=
  if 15 < s.toList.length then none else whole (readIpv4Addr s.toList)

def parseIpv6Addr (s : String) : Option Ipv6Addr := whole (readIpv6Addr s.toList)

def parseIpAddr (s : String) : Option IpAddr := whole (readIpAddr s.toList)

def Ipv4Addr.toString (ip : Ipv4Addr) : String := String.ofList (showIpv4 ip)

def Ipv6Addr.toString (ip : Ipv6Addr) : String := String.ofList (showIpv6 ip)

def IpAddr.toString : IpAddr → String
  | .v4 ip => ip.toString
  | .v6 ip => ip.toString

/-- The span is a run of zero groups of the list. -/
def IsZeroSpan (segments : List UInt16) (span : Span) : Prop :=
  ∃ before after, segments = before ++ List.replicate span.len 0 ++ after ∧
    (0 < span.len → before.length = span.start)

theorem IsZeroSpan.grow {segments more : List UInt16} {span : Span} (h : IsZeroSpan segments span) :
    IsZeroSpan (segments ++ more) span := by
  obtain ⟨before, after, same, size⟩ := h
  exact ⟨before, after ++ more, by rw [same, List.append_assoc], size⟩

/-- The current span ends where the loop stands. -/
theorem zeroSpan_isZeroSpan (gs seen : List UInt16) {current longest : Span}
    (now : ∃ before, seen = before ++ List.replicate current.len 0 ∧
      (0 < current.len → before.length = current.start))
    (best : IsZeroSpan seen longest) :
    IsZeroSpan (seen ++ gs) (zeroSpan gs seen.length current longest) := by
  induction gs generalizing seen current longest with
  | nil =>
      rw [List.append_nil]
      exact best
  | cons g gs ih =>
      obtain ⟨before, same, size⟩ := now
      have step : seen ++ g :: gs = (seen ++ [g]) ++ gs := by
        rw [List.append_assoc]
        rfl
      have count : seen.length + 1 = (seen ++ [g]).length := by
        rw [List.length_append]
        rfl
      rw [step, zeroSpan, count]
      by_cases zero : g = 0
      · have longer : seen ++ [g] = before ++ List.replicate (current.extend seen.length).len 0 := by
          rw [same, zero, List.append_assoc, ← List.replicate_succ']
          rfl
        have place : before.length = (current.extend seen.length).start := by
          unfold Span.extend
          split_ifs with fresh
          · rw [same, fresh, List.replicate_zero, List.append_nil]
          · exact size (Nat.pos_of_ne_zero fresh)
        rw [if_pos zero]
        refine ih _ ⟨before, longer, fun _ => place⟩ ?_
        split_ifs
        · exact ⟨before, [], by rw [longer, List.append_nil], fun _ => place⟩
        · exact best.grow
      · rw [if_neg zero]
        refine ih _ ⟨seen ++ [g], ?_, fun h => absurd h (Nat.lt_irrefl 0)⟩ best.grow
        rw [List.replicate_zero, List.append_nil]

theorem zeroSpan_split {segments : List UInt16} {span : Span}
    (found : zeroSpan segments 0 ⟨0, 0⟩ ⟨0, 0⟩ = span) (long : 1 < span.len) :
    segments = segments.take span.start ++ List.replicate span.len 0 ++
      segments.drop (span.start + span.len) := by
  have start : IsZeroSpan ([] ++ segments) (zeroSpan segments 0 ⟨0, 0⟩ ⟨0, 0⟩) :=
    zeroSpan_isZeroSpan segments [] ⟨[], rfl, fun h => absurd h (Nat.lt_irrefl 0)⟩
      ⟨[], [], rfl, fun h => absurd h (Nat.lt_irrefl 0)⟩
  rw [List.nil_append, found] at start
  obtain ⟨before, after, same, size⟩ := start
  have at_start := size (by omega)
  have front : segments.take span.start = before := by
    rw [same, List.append_assoc, ← at_start, List.take_left]
  have back : segments.drop (span.start + span.len) = after := by
    have size : span.start + span.len = (before ++ List.replicate span.len (0 : UInt16)).length := by
      rw [List.length_append, List.length_replicate, at_start]
    rw [same, size, List.drop_left]
  rw [front, back]
  exact same

theorem forall_mem_showGroups {P : Char → Prop} (digits : ∀ d < 16, P (Nat.digitChar d)) (colon : P ':') (i : Nat)
    (gs : List UInt16) : ∀ c ∈ showGroups i gs, P c := by
  induction gs generalizing i with
  | nil =>
      intro c member
      cases member
  | cons g gs ih =>
      intro c member
      rw [showGroups, List.mem_append, List.mem_append] at member
      rcases member with (first | digit) | rest
      · split_ifs at first
        · rw [List.mem_singleton.mp first]
          exact colon
        · cases first
      · exact forall_mem_toDigits (by decide) digits _ c digit
      · exact ih (i + 1) c rest

theorem showGroups_undotted (i : Nat) (gs : List UInt16) : '.' ∉ showGroups i gs := by
  intro member
  exact forall_mem_showGroups (P := (· ≠ '.')) (by decide) (by decide) i gs '.' member rfl

theorem readGivenChar_cons (c : Char) (s : Text) : readGivenChar c (c :: s) = some s := by
  rw [readGivenChar, if_pos rfl]

theorem undotted_of_readGivenChar {c : Char} {s rest : Text} (undotted : '.' ∉ s)
    (read : readGivenChar c s = some rest) : '.' ∉ rest := by
  cases s with
  | nil => cases read
  | cons x s =>
      rw [readGivenChar] at read
      split_ifs at read
      cases read
      exact fun member => undotted (List.mem_cons_of_mem x member)

theorem readSeparator_ipv4_none {i : Nat} {s : Text} (undotted : '.' ∉ s) :
    readSeparator i readIpv4Addr s = none := by
  unfold readSeparator
  split_ifs
  · cases read : readGivenChar ':' s with
    | none => rfl
    | some rest => exact readIpv4Addr_none (undotted_of_readGivenChar undotted read)
  · exact readIpv4Addr_none undotted

theorem readGroup_show (g : UInt16) {rest : Text} (ends : Ends 16 rest) :
    readGroup (Nat.toDigits 16 g.toNat ++ rest) = some (g, rest) := by
  rw [readGroup, readNumber_show (by decide) (by decide) (by decide) (by decide) g.toNat_lt ends]
  simp only [Option.map_some, UInt16.ofNat_toNat]

/-- Text at which reading groups stops: its end, or the double colon. -/
def Stops (s : Text) : Prop := s = [] ∨ ∃ rest, s = ':' :: ':' :: rest

theorem Stops.ends {s : Text} (h : Stops s) : Ends 16 s := by
  rcases h with rfl | ⟨rest, rfl⟩
  · exact ends_nil 16
  · exact ends_cons (by decide)

theorem Stops.no_group {s : Text} (h : Stops s) (i : Nat) : readSeparator i readGroup s = none := by
  unfold readSeparator
  rcases h with rfl | ⟨rest, rfl⟩
  · split_ifs <;> rfl
  · split_ifs
    · rw [readGivenChar_cons]
      rfl
    · rfl

theorem ends_showGroups (i : Nat) (gs : List UInt16) {rest : Text} (stops : Stops rest) :
    Ends 16 (showGroups (i + 1) gs ++ rest) := by
  cases gs with
  | nil => exact stops.ends
  | cons g gs => exact ends_cons (by decide)

theorem readGroups_show {gs : List UInt16} {left : Nat} (i : Nat) (room : gs.length ≤ left) {rest : Text}
    (stops : Stops rest) (undotted : '.' ∉ rest) :
    readGroups left i (showGroups i gs ++ rest) = (gs, false, rest) := by
  induction gs generalizing i left with
  | nil =>
      cases left with
      | zero => rfl
      | succ left =>
          have no_v4 := readSeparator_ipv4_none (i := i) undotted
          change readGroups (left + 1) i rest = _
          rw [readGroups, no_v4, ite_self, stops.no_group i]
  | cons g gs ih =>
      cases left with
      | zero => exact absurd room (Nat.not_succ_le_zero _)
      | succ left =>
          have plain : '.' ∉ showGroups i (g :: gs) ++ rest := by
            rw [List.mem_append]
            rintro (shown | later)
            · exact showGroups_undotted i (g :: gs) shown
            · exact undotted later
          have group : readSeparator i readGroup (showGroups i (g :: gs) ++ rest) =
              some (g, showGroups (i + 1) gs ++ rest) := by
            unfold readSeparator
            rw [showGroups]
            split_ifs
            · rw [List.append_assoc, List.append_assoc, List.singleton_append, readGivenChar_cons]
              exact readGroup_show g (ends_showGroups i gs stops)
            · rw [List.append_assoc, List.append_assoc, List.nil_append]
              exact readGroup_show g (ends_showGroups i gs stops)
          rw [readGroups, readSeparator_ipv4_none plain, ite_self, group]
          simp only [ih (i + 1) (Nat.le_of_succ_le_succ room)]

theorem ofSegments_eq {segments : List UInt16} (size : segments.length = 8) :
    Ipv6Addr.ofSegments segments = some ⟨segments, size⟩ := dif_pos size

theorem readIpv6Addr_showSegments {segments : List UInt16} (size : segments.length = 8) :
    readIpv6Addr (showSegments segments) = some (⟨segments, size⟩, []) := by
  unfold showSegments
  generalize found : zeroSpan segments 0 ⟨0, 0⟩ ⟨0, 0⟩ = span
  dsimp only
  split_ifs with long
  · have split := zeroSpan_split found long
    generalize segments.take span.start = front at split ⊢
    generalize segments.drop (span.start + span.len) = back at split ⊢
    have count := congrArg List.length split
    rw [List.length_append, List.length_append, List.length_replicate, size] at count
    have head : readGroups 8 0 (showGroups 0 front ++ [':', ':'] ++ showGroups 0 back) =
        (front, false, ':' :: ':' :: showGroups 0 back) := by
      rw [List.append_assoc]
      refine readGroups_show 0 (by omega) (.inr ⟨_, rfl⟩) ?_
      rintro (_ | ⟨_, _ | ⟨_, member⟩⟩)
      exact showGroups_undotted 0 back member
    have tail : readGroups (8 - (front.length + 1)) 0 (showGroups 0 back) = (back, false, []) := by
      have read : readGroups (8 - (front.length + 1)) 0 (showGroups 0 back ++ []) = (back, false, []) :=
        readGroups_show 0 (by omega) (.inl rfl) List.not_mem_nil
      rwa [List.append_nil] at read
    have zeros : 8 - front.length - back.length = span.len := by omega
    rw [readIpv6Addr, head]
    simp only [if_neg (show front.length ≠ 8 by omega), Bool.false_eq_true, if_false, readGivenChar_cons,
      Option.bind_eq_bind, Option.bind_some, tail, zeros, ← split, ofSegments_eq size]
    rfl
  · have all : readGroups 8 0 (showGroups 0 segments) = (segments, false, []) := by
      have read : readGroups 8 0 (showGroups 0 segments ++ []) = (segments, false, []) :=
        readGroups_show 0 (by omega) (.inl rfl) List.not_mem_nil
      rwa [List.append_nil] at read
    rw [readIpv6Addr, all]
    simp only [if_pos size, ofSegments_eq size, Option.map_some]

theorem pair_halves (g : UInt16) :
    Ipv4Addr.pair (UInt8.ofNat (g.toNat / 256)) (UInt8.ofNat (g.toNat % 256)) = g := by
  have bound := g.toNat_lt
  rw [Ipv4Addr.pair, AsyncIo.ofBe16_be16 (by omega), UInt16.ofNat_toNat]

theorem toIpv4Mapped_spec {ip : Ipv6Addr} {v4 : Ipv4Addr} (h : toIpv4Mapped ip = some v4) :
    v4.toIpv6Mapped = ip := by
  obtain ⟨segments, size⟩ := ip
  unfold toIpv4Mapped at h
  split at h
  · rename_i ab cd same
    cases same
    cases h
    simp only [Ipv4Addr.toIpv6Mapped, pair_halves]
  · cases h

theorem readIpv6Addr_showMapped (v4 : Ipv4Addr) :
    readIpv6Addr ([':', ':', 'f', 'f', 'f', 'f', ':'] ++ showIpv4 v4) = some (v4.toIpv6Mapped, []) := by
  have v4_read := readIpv4Addr_show v4 (ends_nil 10)
  rw [List.append_nil] at v4_read
  have group : readGroup ('f' :: 'f' :: 'f' :: 'f' :: ':' :: showIpv4 v4) =
      some (0xffff, ':' :: showIpv4 v4) := readGroup_show 0xffff (ends_cons (by decide))
  have tail : readGroups 7 0 ('f' :: 'f' :: 'f' :: 'f' :: ':' :: showIpv4 v4) =
      ([0xffff, Ipv4Addr.pair v4.a v4.b, Ipv4Addr.pair v4.c v4.d], true, []) := by
    have second : readGroups 6 1 (':' :: showIpv4 v4) =
        ([Ipv4Addr.pair v4.a v4.b, Ipv4Addr.pair v4.c v4.d], true, []) := by
      rw [readGroups, if_pos (by decide), readSeparator, if_pos (by decide), readGivenChar_cons,
        Option.bind_some, v4_read]
    have no_v4 : readSeparator 0 readIpv4Addr ('f' :: 'f' :: 'f' :: 'f' :: ':' :: showIpv4 v4) = none := rfl
    have first : readSeparator 0 readGroup ('f' :: 'f' :: 'f' :: 'f' :: ':' :: showIpv4 v4) =
      some (0xffff, ':' :: showIpv4 v4) := group
    rw [readGroups, no_v4, ite_self, first]
    simp only [second]
  have head : readGroups 8 0 ([':', ':', 'f', 'f', 'f', 'f', ':'] ++ showIpv4 v4) =
      ([], false, ':' :: ':' :: 'f' :: 'f' :: 'f' :: 'f' :: ':' :: showIpv4 v4) := rfl
  rw [readIpv6Addr, head]
  simp only [List.length_nil, if_neg (show (0 : Nat) ≠ 8 by decide), Bool.false_eq_true, if_false,
    readGivenChar_cons, Option.bind_eq_bind, Option.bind_some, Nat.zero_add, Nat.reduceSub, tail]
  rfl

theorem readIpv6Addr_show (ip : Ipv6Addr) : readIpv6Addr (showIpv6 ip) = some (ip, []) := by
  unfold showIpv6
  split
  · rename_i v4 mapped
    rw [readIpv6Addr_showMapped, toIpv4Mapped_spec mapped]
  · exact readIpv6Addr_showSegments ip.size

theorem showSegments_undotted (segments : List UInt16) : '.' ∉ showSegments segments := by
  unfold showSegments
  dsimp only
  split_ifs
  · rw [List.mem_append, List.mem_append]
    rintro ((front | colons) | back)
    · exact showGroups_undotted _ _ front
    · exact absurd colons (by decide)
    · exact showGroups_undotted _ _ back
  · exact showGroups_undotted _ _

theorem readIpv4Addr_showIpv6 (ip : Ipv6Addr) : readIpv4Addr (showIpv6 ip) = none := by
  unfold showIpv6
  split
  · rfl
  · exact readIpv4Addr_none (showSegments_undotted _)

/-- Parsing the printed form of an address gives the address back. -/
@[simp] theorem parseIpAddr_toString (ip : IpAddr) : parseIpAddr ip.toString = some ip := by
  cases ip with
  | v4 ip =>
      have read := readIpv4Addr_show ip (ends_nil 10)
      rw [List.append_nil] at read
      rw [parseIpAddr, IpAddr.toString, Ipv4Addr.toString, String.toList_ofList, readIpAddr, read]
      rfl
  | v6 ip =>
      rw [parseIpAddr, IpAddr.toString, Ipv6Addr.toString, String.toList_ofList, readIpAddr,
        readIpv4Addr_showIpv6, readIpv6Addr_show]
      rfl

theorem readNumber_none {radix : Nat} {c : Char} (other : toDigit radix c = none) (most : Nat)
    (allowZeroPrefix : Bool) (bound : Nat) (s : Text) :
    readNumber radix most allowZeroPrefix bound (c :: s) = none := by
  simp [readNumber, spanDigits, other]

/-- Text that starts with neither a digit nor a colon is no address. -/
theorem parseIpAddr_none {t : String} {c : Char} {s : Text} (starts : t.toList = c :: s)
    (decimal : toDigit 10 c = none) (hex : toDigit 16 c = none) (colon : c ≠ ':') : parseIpAddr t = none := by
  have four : readIpv4Addr (c :: s) = none := by simp [readIpv4Addr, readOctet, readNumber_none decimal]
  have group : readGroup (c :: s) = none := by simp [readGroup, readNumber_none hex]
  have six : readIpv6Addr (c :: s) = none := by
    simp [readIpv6Addr, readGroups, readSeparator, four, group, readGivenChar, colon]
  simp [parseIpAddr, starts, readIpAddr, four, six, whole]

example : (Ipv6Addr.toString ⟨[0x2001, 0xdb8, 0, 0, 1, 0, 0, 0], rfl⟩).toList = "2001:db8:0:0:1::".toList := by
  decide
example : parseIpAddr "::ffff:10.0.0.1" = some (.v6 (Ipv4Addr.toIpv6Mapped ⟨10, 0, 0, 1⟩)) := by decide
example : parseIpAddr "1:2:3:4:5:6:7::8" = none ∧ parseIpAddr "01.2.3.4" = none := by decide

end StdNet
