import ServerNaive.Async.Prompt

/-! What a writing task puts on a stream that may fail it at any point. -/
namespace AsyncIo

variable {W : Type}

/-- The stream has taken a front of `bs`, and not all of it, since it was at `x`. -/
def TakesFront (bs : Bytes) (x x' : Traced W) : Prop :=
  ∃ front, front <+: bs ∧ front.length < bs.length ∧ accepted x'.calls = accepted x.calls ++ front

/-- The task puts `bs` on the stream, or a front of it if it fails or is dropped. -/
def Puts (m : Task (Traced W) IoError Unit) (bs : Bytes) : Prop :=
  ∀ fuel x, (m fuel x).Holds (fun _ x' => accepted x'.calls = accepted x.calls ++ bs) (fun _ x' => TakesFront bs x x')
    (fun x' => TakesFront bs x x')

theorem TakesFront.more {bs cs : Bytes} {x x' : Traced W} (h : TakesFront bs x x') : TakesFront (bs ++ cs) x x' := by
  obtain ⟨front, before, short, taken⟩ := h
  exact ⟨front, before.trans (List.prefix_append _ _), List.length_append ▸ Nat.lt_add_right _ short, taken⟩

theorem TakesFront.after {bs cs : Bytes} {x mid x' : Traced W} (wrote : accepted mid.calls = accepted x.calls ++ bs)
    (h : TakesFront cs mid x') : TakesFront (bs ++ cs) x x' := by
  obtain ⟨front, before, short, taken⟩ := h
  refine ⟨bs ++ front, (List.prefix_append_right_inj bs).mpr before, ?_, ?_⟩
  · rw [List.length_append, List.length_append]
    exact Nat.add_lt_add_left short _
  · rw [taken, wrote, List.append_assoc]

theorem Puts.bind {m : Task (Traced W) IoError Unit} {k : Unit → Task (Traced W) IoError Unit} {bs cs : Bytes}
    (first : Puts m bs) (next : Puts (k ()) cs) : Puts (m >>= k) (bs ++ cs) := by
  intro fuel x
  apply Task.holds_bind
  refine (first fuel x).imp ?_ (fun _ _ front => front.more) fun _ front => front.more
  intro _ mid wrote left
  refine (next left mid).imp ?_ (fun _ _ front => front.after wrote) fun _ front => front.after wrote
  intro _ last all
  rw [all, wrote, List.append_assoc]

variable [AsyncWrite W]

theorem offer_puts (fuel : Nat) (buf : Bytes) (x : Traced W) :
    (Task.offer fuel buf x).Holds (fun _ x' => accepted x'.calls = accepted x.calls ++ buf)
      (fun _ x' => TakesFront buf x x') (fun x' => TakesFront buf x x') := by
  induction fuel generalizing buf x with
  | zero =>
      cases buf with
      | nil => exact (List.append_nil _).symm
      | cons b buf => exact ⟨[], List.nil_prefix, Nat.succ_pos _, (List.append_nil _).symm⟩
  | succ fuel ih =>
      cases buf with
      | nil => exact (List.append_nil _).symm
      | cons b buf =>
          rw [Task.offer]
          split
          · rename_i x' polled
            have same : accepted x'.calls = accepted x.calls ++ [] := Traced.accepted_pollWrite polled
            refine (ih (b :: buf) x').imp ?_ (fun _ _ front => front.after same) fun _ front => front.after same
            intro _ last all
            rw [all, same, List.append_nil]
          · rename_i x' e polled
            exact ⟨[], List.nil_prefix, Nat.succ_pos _, Traced.accepted_pollWrite polled⟩
          · rename_i x' polled
            exact ⟨[], List.nil_prefix, Nat.succ_pos _, Traced.accepted_pollWrite polled⟩
          · rename_i x' n _ polled
            have wrote : accepted x'.calls = accepted x.calls ++ (b :: buf).take n := Traced.accepted_pollWrite polled
            have whole := List.take_append_drop n (b :: buf)
            refine (ih ((b :: buf).drop n) x').imp ?_ ?_ ?_
            · intro _ last all
              rw [all, wrote, List.append_assoc, whole]
            · intro _ last front
              exact whole ▸ front.after wrote
            · intro last front
              exact whole ▸ front.after wrote

theorem puts_writeAll (buf : Bytes) : Puts (W := W) (Task.writeAll buf) buf :=
  fun fuel x => offer_puts fuel buf x

end AsyncIo
