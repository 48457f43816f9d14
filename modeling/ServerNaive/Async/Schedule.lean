import Mathlib

/-! Runs of a transition system under a schedule: a list of labels, each of which the
system may refuse. -/
namespace AsyncIo

variable {σ α : Type}

/-- The state after every label of the schedule; a refused label makes it no schedule. -/
def follow (step : σ → α → Option σ) (s : σ) : List α → Option σ
  | [] => some s
  | a :: schedule => match step s a with
      | none => none
      | some t => follow step t schedule

/-- Every label of the schedule meets `P` in the state that takes it. -/
def Along (step : σ → α → Option σ) (P : σ → α → Prop) (s : σ) : List α → Prop
  | [] => True
  | a :: schedule => P s a ∧ ∀ t ∈ step s a, Along step P t schedule

instance Along.decidable (step : σ → α → Option σ) (P : σ → α → Prop) [∀ s a, Decidable (P s a)] :
    ∀ s schedule, Decidable (Along step P s schedule)
  | _, [] => .isTrue trivial
  | s, a :: schedule =>
      have (t : σ) : Decidable (Along step P t schedule) := Along.decidable step P t schedule
      inferInstanceAs (Decidable (P s a ∧ ∀ t ∈ step s a, Along step P t schedule))

/-- What every step that meets `P` keeps holds after every schedule of such steps. -/
theorem follow_along {step : σ → α → Option σ} {P : σ → α → Prop} {I : σ → Prop}
    (keep : ∀ {s a t}, I s → P s a → step s a = some t → I t) {schedule : List α} {s t : σ} (start : I s)
    (met : Along step P s schedule) (ran : follow step s schedule = some t) : I t := by
  induction schedule generalizing s with
  | nil =>
      cases ran
      exact start
  | cons a schedule ih =>
      rw [follow] at ran
      split at ran
      · cases ran
      · rename_i next stepped
        exact ih (keep start met.1 stepped) (met.2 next stepped) ran

theorem along_of_forall (step : σ → α → Option σ) {P : α → Prop} {schedule : List α}
    (met : ∀ a ∈ schedule, P a) (s : σ) : Along step (fun _ a => P a) s schedule := by
  induction schedule generalizing s with
  | nil => exact trivial
  | cons a schedule ih =>
      exact ⟨met a List.mem_cons_self, fun t _ => ih (fun b later => met b (List.mem_cons_of_mem a later)) t⟩

/-- What every step keeps holds after every schedule. -/
theorem follow_invariant {step : σ → α → Option σ} {I : σ → Prop}
    (keep : ∀ {s a t}, I s → step s a = some t → I t) {schedule : List α} {s t : σ} (start : I s)
    (ran : follow step s schedule = some t) : I t :=
  follow_along (fun inv _ stepped => keep inv stepped) start (along_of_forall step (fun _ _ => trivial) s) ran

theorem follow_append {step : σ → α → Option σ} {first second : List α} {s t u : σ}
    (ran : follow step s first = some t) (went : follow step t second = some u) :
    follow step s (first ++ second) = some u := by
  induction first generalizing s with
  | nil =>
      cases ran
      exact went
  | cons a first ih =>
      cases stepped : step s a with
      | none =>
          rw [follow, stepped] at ran
          cases ran
      | some next =>
          rw [follow, stepped] at ran
          rw [List.cons_append, follow, stepped]
          exact ih ran

/-- A system each step of which is shown by some steps of another has its runs shown by runs of it. -/
theorem follow_refines {τ β : Type} {step : σ → α → Option σ} {other : τ → β → Option τ} {R : σ → τ → Prop}
    (shows : ∀ {s a t u}, R s u → step s a = some t → ∃ labels v, follow other u labels = some v ∧ R t v)
    {schedule : List α} {s t : σ} {u : τ} (start : R s u) (ran : follow step s schedule = some t) :
    ∃ labels v, follow other u labels = some v ∧ R t v := by
  induction schedule generalizing s u with
  | nil =>
      cases ran
      exact ⟨[], u, rfl, start⟩
  | cons a schedule ih =>
      rw [follow] at ran
      split at ran
      · cases ran
      · rename_i next stepped
        obtain ⟨first, between, went, shown⟩ := shows start stepped
        obtain ⟨second, last, rest, final⟩ := ih shown ran
        exact ⟨first ++ second, last, follow_append went rest, final⟩

/-- Labels of one kind alone can lead to the goal. -/
def Leads (step : σ → α → Option σ) (allowed : α → Prop) (goal : σ → Prop) (s : σ) : Prop :=
  ∃ schedule t, (∀ a ∈ schedule, allowed a) ∧ follow step s schedule = some t ∧ goal t

theorem Leads.refl {step : σ → α → Option σ} {allowed : α → Prop} {goal : σ → Prop} {s : σ} (reached : goal s) :
    Leads step allowed goal s :=
  ⟨[], s, fun _ member => absurd member List.not_mem_nil, rfl, reached⟩

theorem Leads.head {step : σ → α → Option σ} {allowed : α → Prop} {goal : σ → Prop} {s t : σ} {a : α}
    (allows : allowed a) (stepped : step s a = some t) (rest : Leads step allowed goal t) :
    Leads step allowed goal s := by
  obtain ⟨schedule, last, all, ran, reached⟩ := rest
  refine ⟨a :: schedule, last, List.forall_mem_cons.mpr ⟨allows, all⟩, ?_, reached⟩
  rw [follow, stepped]
  exact ran

/-- An invariant under which some allowed label always lowers a measure leads to the goal. -/
theorem leads_of_progress {step : σ → α → Option σ} {allowed : α → Prop} {goal I : σ → Prop} (measure : σ → Nat)
    (progress : ∀ s, I s → ¬ goal s → ∃ a t, allowed a ∧ step s a = some t ∧ I t ∧ measure t < measure s)
    {s : σ} (start : I s) : Leads step allowed goal s := by
  induction size : measure s using Nat.strong_induction_on generalizing s with
  | _ n ih =>
      by_cases reached : goal s
      · exact .refl reached
      · obtain ⟨a, t, allows, stepped, kept, lower⟩ := progress s start reached
        exact .head allows stepped (ih (measure t) (size ▸ lower) kept rfl)

/-- What the allowed labels keep holds in the goal they lead to. -/
theorem Leads.invariant {step : σ → α → Option σ} {allowed : α → Prop} {goal I : σ → Prop} {s : σ}
    (leads : Leads step allowed goal s) (start : I s)
    (keep : ∀ {s a t}, I s → allowed a → step s a = some t → I t) : ∃ t, I t ∧ goal t := by
  obtain ⟨schedule, t, all, ran, reached⟩ := leads
  exact ⟨t, follow_along keep start (along_of_forall step all s) ran, reached⟩

end AsyncIo
