import ServerNaive.Net.Text

/-! Slices of text at byte offsets, which the standard library refuses off the boundaries of characters. -/
namespace StdNet

/-- The length of a text in UTF-8. -/
def byteLen : Text → Nat
  | [] => 0
  | c :: s => c.utf8Size + byteLen s

/-- A text cut at a byte offset. Past the end and inside a character there is no cut, and slicing panics. -/
def cutAt : Text → Nat → Option (Text × Text)
  | s, 0 => some ([], s)
  | [], _ + 1 => none
  | c :: s, n + 1 =>
      if c.utf8Size ≤ n + 1 then (cutAt s (n + 1 - c.utf8Size)).map fun (front, back) => (c :: front, back)
      else none

/-- As `&s[..last]`. -/
def sliceTo (s : Text) (last : Nat) : Option Text := (cutAt s last).map Prod.fst

/-- As `&s[first..]`. -/
def sliceFrom (s : Text) (first : Nat) : Option Text := (cutAt s first).map Prod.snd

/-- As `&s[first..last]`. -/
def slice (s : Text) (first last : Nat) : Option Text :=
  if first ≤ last then (sliceTo s last).bind fun front => sliceFrom front first else none

/-- As `str::find` of a character. -/
def find (c : Char) : Text → Option Nat
  | [] => none
  | d :: s => if d = c then some 0 else (find c s).map (d.utf8Size + ·)

/-- As `str::rfind` of a character. -/
def rfind (c : Char) : Text → Option Nat
  | [] => none
  | d :: s => match rfind c s with
      | some n => some (d.utf8Size + n)
      | none => if d = c then some 0 else none

example : sliceFrom "é:1".toList 1 = none ∧ sliceFrom "é:1".toList 2 = some ":1".toList ∧
    rfind ':' "é:1".toList = some 2 ∧ sliceFrom "a".toList 2 = none := by decide

theorem byteLen_append (front back : Text) : byteLen (front ++ back) = byteLen front + byteLen back := by
  induction front with
  | nil => exact (Nat.zero_add _).symm
  | cons c front ih => simp only [List.cons_append, byteLen, ih, Nat.add_assoc]

/-- Where a character starts there is a cut. -/
theorem cutAt_append (front back : Text) : cutAt (front ++ back) (byteLen front) = some (front, back) := by
  induction front with
  | nil =>
      change cutAt back 0 = _
      rw [cutAt]
  | cons c front ih =>
      obtain ⟨n, size⟩ := Nat.exists_eq_succ_of_ne_zero (Nat.ne_of_gt (Char.utf8Size_pos c))
      have total : byteLen (c :: front) = n + byteLen front + 1 := by
        rw [byteLen, size]
        omega
      have rest : n + byteLen front + 1 - c.utf8Size = byteLen front := by omega
      rw [total, List.cons_append, cutAt, if_pos (by omega), rest, ih]
      rfl

theorem sliceTo_append (front back : Text) : sliceTo (front ++ back) (byteLen front) = some front := by
  rw [sliceTo, cutAt_append]
  rfl

theorem sliceFrom_append (front back : Text) : sliceFrom (front ++ back) (byteLen front) = some back := by
  rw [sliceFrom, cutAt_append]
  rfl

theorem slice_append (front mid back : Text) :
    slice (front ++ mid ++ back) (byteLen front) (byteLen (front ++ mid)) = some mid := by
  rw [slice, if_pos (by rw [byteLen_append]; omega), sliceTo_append, Option.bind_some, sliceFrom_append]

/-! Cuts at a given character. -/

theorem splitFirst_eq_some {c : Char} {s front back : Text} (cut : splitFirst c s = some (front, back)) :
    s = front ++ c :: back ∧ c ∉ front := by
  induction s generalizing front with
  | nil => cases cut
  | cons d s ih =>
      rw [splitFirst] at cut
      split_ifs at cut with same
      · cases cut
        exact ⟨by rw [same]; rfl, List.not_mem_nil⟩
      · obtain ⟨⟨rest, last⟩, found, shape⟩ := Option.map_eq_some_iff.mp cut
        cases shape
        obtain ⟨rfl, absent⟩ := ih found
        exact ⟨rfl, List.not_mem_cons_of_ne_of_not_mem (Ne.symm same) absent⟩

theorem splitFirst_append {c : Char} {front : Text} (absent : c ∉ front) (back : Text) :
    splitFirst c (front ++ c :: back) = some (front, back) := by
  induction front with
  | nil => exact if_pos rfl
  | cons d front ih =>
      have other : d ≠ c := fun same => absent (same ▸ List.mem_cons_self)
      rw [List.cons_append, splitFirst, if_neg other, ih fun member => absent (List.mem_cons_of_mem d member)]
      rfl

theorem splitLast_eq_some {c : Char} {s front back : Text} (cut : splitLast c s = some (front, back)) :
    s = front ++ c :: back ∧ c ∉ back := by
  obtain ⟨⟨rest, first⟩, found, shape⟩ := Option.map_eq_some_iff.mp cut
  cases shape
  obtain ⟨reversed, absent⟩ := splitFirst_eq_some found
  refine ⟨?_, fun member => absent (List.mem_reverse.mp member)⟩
  have forward := congrArg List.reverse reversed
  simpa using forward

theorem splitLast_append {c : Char} (front : Text) {back : Text} (absent : c ∉ back) :
    splitLast c (front ++ c :: back) = some (front, back) := by
  have reversed : (front ++ c :: back).reverse = back.reverse ++ c :: front.reverse := by simp
  have found := splitFirst_append (fun member => absent (List.mem_reverse.mp member)) front.reverse
  rw [splitLast, reversed, found]
  simp

theorem splitFirst_eq_none {c : Char} {s : Text} (uncut : splitFirst c s = none) : c ∉ s := by
  intro member
  obtain ⟨front, back, rfl, absent⟩ := List.eq_append_cons_of_mem member
  rw [splitFirst_append absent] at uncut
  cases uncut

theorem splitLast_eq_none {c : Char} {s : Text} (uncut : splitLast c s = none) : c ∉ s := by
  intro member
  exact splitFirst_eq_none (Option.map_eq_none_iff.mp uncut) (List.mem_reverse.mpr member)

theorem find_eq (c : Char) (s : Text) : find c s = (splitFirst c s).map fun cut => byteLen cut.1 := by
  induction s with
  | nil => rfl
  | cons d s ih =>
      rw [find, splitFirst, ih]
      split_ifs
      · rfl
      · rw [Option.map_map, Option.map_map]
        rfl

theorem rfind_eq_none {c : Char} {s : Text} (absent : c ∉ s) : rfind c s = none := by
  induction s with
  | nil => rfl
  | cons d s ih =>
      rw [rfind, ih fun member => absent (List.mem_cons_of_mem d member), if_neg]
      exact fun same => absent (same ▸ List.mem_cons_self)

theorem rfind_append {c : Char} (front : Text) {back : Text} (absent : c ∉ back) :
    rfind c (front ++ c :: back) = some (byteLen front) := by
  induction front with
  | nil =>
      change rfind c (c :: back) = _
      rw [rfind, rfind_eq_none absent, if_pos rfl]
      rfl
  | cons d front ih =>
      rw [List.cons_append, rfind, ih]
      rfl

theorem rfind_eq (c : Char) (s : Text) : rfind c s = (splitLast c s).map fun cut => byteLen cut.1 := by
  cases cut : splitLast c s with
  | none => exact rfind_eq_none (splitLast_eq_none cut)
  | some parts =>
      obtain ⟨front, back⟩ := parts
      obtain ⟨rfl, absent⟩ := splitLast_eq_some cut
      exact rfind_append front absent

end StdNet
