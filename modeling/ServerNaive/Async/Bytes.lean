import ServerNaive.Async.Loop

/-! Byte strings, the windows of a buffer and big-endian pairs. -/
namespace AsyncIo

abbrev Bytes := List UInt8

/-- The slice `buf[lo..hi]`. -/
def window (buf : Bytes) (lo hi : Nat) : Bytes := (buf.drop lo).take (hi - lo)

/-- The buffer after `bs` was read into `buf[pos..]`. -/
def overwrite (buf : Bytes) (pos : Nat) (bs : Bytes) : Bytes :=
  buf.take pos ++ bs ++ buf.drop (pos + bs.length)

@[simp] theorem length_window (buf : Bytes) (lo hi : Nat) :
    (window buf lo hi).length = min (hi - lo) (buf.length - lo) := by
  simp only [window, List.length_take, List.length_drop]

theorem length_overwrite {buf bs : Bytes} {pos : Nat} (fits : pos + bs.length ≤ buf.length) :
    (overwrite buf pos bs).length = buf.length := by
  simp only [overwrite, List.length_append, List.length_take, List.length_drop]
  omega

@[simp] theorem window_self (buf : Bytes) (i : Nat) : window buf i i = [] := by
  simp only [window, Nat.sub_self, List.take_zero]

theorem window_drop (buf : Bytes) (lo hi n : Nat) :
    (window buf lo hi).drop n = window buf (lo + n) hi := by
  simp only [window, List.drop_take, List.drop_drop]
  congr 1
  omega

/-- Reading past the filled part leaves what was there and appends what was read. -/
theorem window_overwrite {buf bs : Bytes} {lo pos : Nat} (ordered : lo ≤ pos)
    (fits : pos + bs.length ≤ buf.length) :
    window (overwrite buf pos bs) lo (pos + bs.length) = window buf lo pos ++ bs := by
  have inside : lo ≤ (buf.take pos).length := by
    simp only [List.length_take]
    omega
  have size : (buf.take pos).length = pos := by
    simp only [List.length_take]
    omega
  have cut : (pos + bs.length - lo) = ((buf.take pos).drop lo ++ bs).length := by
    simp only [List.length_append, List.length_drop, size]
    omega
  rw [window, overwrite, List.append_assoc, List.drop_append_of_le_length inside,
    ← List.append_assoc, cut, List.take_left, window, List.drop_take]

theorem take_overwrite {buf bs : Bytes} {pos : Nat} (fits : pos + bs.length ≤ buf.length) :
    (overwrite buf pos bs).take (pos + bs.length) = buf.take pos ++ bs := by
  have whole := window_overwrite (Nat.zero_le pos) fits
  simpa only [window, List.drop_zero, Nat.sub_zero] using whole

theorem drop_append_past {xs : Bytes} (ys : Bytes) {n : Nat} (past : xs.length ≤ n) :
    (xs ++ ys).drop n = ys.drop (n - xs.length) := by
  rw [List.drop_append, List.drop_eq_nil_of_le past, List.nil_append]

/-- As `u16::to_be_bytes`. -/
def be16 (n : Nat) : Bytes := [UInt8.ofNat (n / 256), UInt8.ofNat (n % 256)]

/-- As `u16::from_be_bytes`. -/
def ofBe16 (hi lo : UInt8) : Nat := hi.toNat * 256 + lo.toNat

@[simp] theorem length_be16 (n : Nat) : (be16 n).length = 2 := rfl

theorem ofBe16_be16 {n : Nat} (h : n ≤ 65535) :
    ofBe16 (UInt8.ofNat (n / 256)) (UInt8.ofNat (n % 256)) = n := by
  have hi : n / 256 < 256 := by omega
  have lo : n % 256 < 256 := by omega
  simp only [ofBe16, UInt8.toNat_ofNat', Nat.reducePow, Nat.mod_eq_of_lt hi, Nat.mod_eq_of_lt lo]
  omega

theorem be16_ofBe16 (hi lo : UInt8) : be16 (UInt16.ofNat (ofBe16 hi lo)).toNat = [hi, lo] := by
  have high := hi.toNat_lt
  have low := lo.toNat_lt
  have value : (UInt16.ofNat (ofBe16 hi lo)).toNat = hi.toNat * 256 + lo.toNat := by
    rw [UInt16.toNat_ofNat', ofBe16]
    omega
  have front : (hi.toNat * 256 + lo.toNat) / 256 = hi.toNat := by omega
  have back : (hi.toNat * 256 + lo.toNat) % 256 = lo.toNat := by omega
  rw [be16, value, front, back, UInt8.ofNat_toNat, UInt8.ofNat_toNat]

end AsyncIo
