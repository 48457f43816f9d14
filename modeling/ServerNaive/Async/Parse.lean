import ServerNaive.Async.Task

/-! Parsers of a whole byte string, and what it means that a task reads what a parser
describes, however the bytes arrive. -/
namespace AsyncIo

/-- A grammar for the front of a byte string. -/
abbrev Grammar (α : Type) := StateT Bytes Option α

namespace Grammar

def exactly (n : Nat) : Grammar Bytes := fun wire =>
  if wire.length < n then none else some (wire.take n, wire.drop n)

def u8 : Grammar UInt8 := do
  let bs ← exactly 1
  return bs.getD 0 0

def u16 : Grammar UInt16 := do
  let bs ← exactly 2
  return UInt16.ofNat (ofBe16 (bs.getD 0 0) (bs.getD 1 0))

/-- No byte string matches. -/
def never {α : Type} : Grammar α := fun _ => none

/-- The grammar takes at least `n` bytes off the front. -/
def Takes {α : Type} (g : Grammar α) (n : Nat) : Prop :=
  ∀ wire a rest, g wire = some (a, rest) → rest.length + n ≤ wire.length

variable {α β : Type}

theorem takes_exactly (n : Nat) : (exactly n).Takes n := by
  intro wire bs rest parsed
  unfold exactly at parsed
  split_ifs at parsed with short
  cases parsed
  rw [List.length_drop]
  omega

theorem takes_pure (a : α) : (pure a : Grammar α).Takes 0 := by
  intro wire b rest parsed
  cases parsed
  exact Nat.le_refl _

theorem takes_never (n : Nat) : (never : Grammar α).Takes n := by
  intro wire a rest parsed
  cases parsed

theorem Takes.bind {g : Grammar α} {k : α → Grammar β} {m n : Nat} (first : g.Takes m)
    (next : ∀ a, (k a).Takes n) : (g >>= k).Takes (m + n) := by
  intro wire b rest parsed
  obtain ⟨⟨a, mid⟩, one, two⟩ := Option.bind_eq_some_iff.mp parsed
  have front := first wire a mid one
  have back := next a mid b rest two
  omega

theorem Takes.weaken {g : Grammar α} {m n : Nat} (h : g.Takes m) (less : n ≤ m) : g.Takes n := by
  intro wire a rest parsed
  have := h wire a rest parsed
  omega

theorem takes_u8 : u8.Takes 1 := (takes_exactly 1).bind fun _ => takes_pure _

theorem takes_u16 : u16.Takes 2 := (takes_exactly 2).bind fun _ => takes_pure _

/-- The grammar reads `a` off the front `bs`, whatever follows. -/
def Parses (g : Grammar α) (bs : Bytes) (a : α) : Prop := ∀ rest, g (bs ++ rest) = some (a, rest)

theorem parses_pure (a : α) : (pure a : Grammar α).Parses [] a := by
  intro rest
  rfl

theorem Parses.bind {g : Grammar α} {k : α → Grammar β} {bs cs : Bytes} {a : α} {b : β}
    (first : g.Parses bs a) (next : (k a).Parses cs b) : (g >>= k).Parses (bs ++ cs) b := by
  intro rest
  rw [List.append_assoc]
  exact Option.bind_eq_some_iff.mpr ⟨(a, cs ++ rest), first _, next rest⟩

theorem parses_exactly {bs : Bytes} {n : Nat} (size : bs.length = n) : (exactly n).Parses bs bs := by
  intro rest
  have long : ¬ (bs ++ rest).length < n := by
    rw [List.length_append]
    omega
  rw [exactly, if_neg long, ← size, List.take_left, List.drop_left]

theorem Parses.map {g : Grammar α} {bs : Bytes} {a : α} (h : g.Parses bs a) (f : α → β) :
    (do return f (← g) : Grammar β).Parses bs (f a) := by
  have read := h.bind (k := fun a => (pure (f a) : Grammar β)) (parses_pure (f a))
  rwa [List.append_nil] at read

theorem parses_u8 (b : UInt8) : u8.Parses [b] b :=
  (parses_exactly (show [b].length = 1 from rfl)).map fun bs => bs.getD 0 0

theorem parses_u16 (n : UInt16) : u16.Parses (be16 n.toNat) n := by
  have bound := n.toNat_lt
  have read := (parses_exactly (length_be16 n.toNat)).map fun bs =>
    UInt16.ofNat (ofBe16 (bs.getD 0 0) (bs.getD 1 0))
  simp only [be16, List.getD_cons_zero, List.getD_cons_succ] at read
  rw [ofBe16_be16 (by omega), UInt16.ofNat_toNat] at read
  exact read

theorem bind_eq_some {g : Grammar α} {k : α → Grammar β} {wire rest : Bytes} {b : β}
    (parsed : (g >>= k) wire = some (b, rest)) : ∃ a mid, g wire = some (a, mid) ∧ k a mid = some (b, rest) := by
  obtain ⟨⟨a, mid⟩, one, two⟩ := Option.bind_eq_some_iff.mp parsed
  exact ⟨a, mid, one, two⟩

theorem of_pure_eq_some {a b : α} {wire rest : Bytes} (parsed : (pure a : Grammar α) wire = some (b, rest)) :
    b = a ∧ rest = wire := by
  cases parsed
  exact ⟨rfl, rfl⟩

theorem of_exactly_eq_some {n : Nat} {wire bs rest : Bytes} (parsed : exactly n wire = some (bs, rest)) :
    bs.length = n ∧ wire = bs ++ rest := by
  unfold exactly at parsed
  split_ifs at parsed with short
  cases parsed
  refine ⟨?_, (List.take_append_drop n wire).symm⟩
  rw [List.length_take]
  omega

theorem of_u8_eq_some {wire rest : Bytes} {b : UInt8} (parsed : u8 wire = some (b, rest)) : wire = b :: rest := by
  obtain ⟨bs, mid, read, ended⟩ := bind_eq_some parsed
  obtain ⟨size, rfl⟩ := of_exactly_eq_some read
  obtain ⟨c, rfl⟩ := List.length_eq_one_iff.mp size
  obtain ⟨rfl, rfl⟩ := of_pure_eq_some ended
  rfl

theorem of_u16_eq_some {wire rest : Bytes} {n : UInt16} (parsed : u16 wire = some (n, rest)) :
    wire = be16 n.toNat ++ rest := by
  obtain ⟨bs, mid, read, ended⟩ := bind_eq_some parsed
  obtain ⟨size, rfl⟩ := of_exactly_eq_some read
  obtain ⟨hi, lo, rfl⟩ := List.length_eq_two.mp size
  obtain ⟨rfl, rfl⟩ := of_pure_eq_some ended
  exact congrArg (· ++ rest) (be16_ofBe16 hi lo).symm

end Grammar

variable {R : Type} [ByteSource R] {α β : Type}

/-- The task consumes what the grammar describes, and fails exactly when it does not match. -/
def Reads (m : Task R IoError α) (g : Grammar α) : Prop :=
  ∀ fuel r, (m fuel r).Holds (fun a r' => g (ByteSource.rest r) = some (a, ByteSource.rest r'))
    (fun _ _ => g (ByteSource.rest r) = none) (fun _ => True)

theorem reads_fill {eof : IoError} (n : Nat) :
    Reads (fun fuel (r : R) => Task.fill eof n fuel [] r) (Grammar.exactly n) := by
  intro fuel r
  refine (Task.fill_holds fuel (Nat.zero_le n)).imp ?_ ?_ (fun _ h => h)
  · rintro bs r' ⟨size, same⟩
    rw [List.nil_append] at same
    have long : ¬ (ByteSource.rest r).length < n := by
      rw [← same, List.length_append]
      omega
    rw [Grammar.exactly, if_neg long, ← same, ← size, List.take_left, List.drop_left]
  · intro _ _ short
    rw [List.length_nil, Nat.zero_add] at short
    exact if_pos short

theorem reads_readExact (n : Nat) : Reads (Task.readExact n : Task R IoError Bytes) (Grammar.exactly n) :=
  reads_fill n

theorem reads_readInt (n : Nat) : Reads (Task.readInt n : Task R IoError Bytes) (Grammar.exactly n) :=
  reads_fill n

theorem reads_pure (a : α) : Reads (pure a : Task R IoError α) (pure a) := by
  intro fuel r
  exact Task.holds_pure rfl

theorem reads_fail (e : IoError) : Reads (Task.fail e : Task R IoError α) Grammar.never := by
  intro fuel r
  exact Task.holds_fail rfl

theorem Reads.bind {m : Task R IoError α} {k : α → Task R IoError β} {g : Grammar α}
    {h : α → Grammar β} (first : Reads m g) (next : ∀ a, Reads (k a) (h a)) : Reads (m >>= k) (g >>= h) := by
  intro fuel r
  have split (wire : Bytes) : (g >>= h) wire = (g wire).bind fun (a, rest) => h a rest := rfl
  apply Task.holds_bind
  refine (first fuel r).imp ?_ ?_ (fun _ done => done)
  · intro a r' parsed left
    rw [split, parsed]
    exact next a left r'
  · intro _ _ unmatched
    rw [split, unmatched]
    rfl

theorem reads_readU8 : Reads (Task.readU8 : Task R IoError UInt8) Grammar.u8 :=
  (reads_readInt 1).bind fun _ => reads_pure _

theorem reads_readU16 : Reads (Task.readU16 : Task R IoError UInt16) Grammar.u16 :=
  (reads_readInt 2).bind fun _ => reads_pure _

end AsyncIo
