import ServerNaive.Config

/-! `max_connections` from the resources of the system. The figures are 64 bits wide. -/
namespace ServerNaive

/-- As `u64::saturating_mul`. -/
def saturatingMul (a b : Nat) : Nat := min (a * b) (2 ^ 64 - 1)

def perCoreMbps : Nat := 1500

def perUserKbps : Nat := 200

def perSessionKb : Nat := 200

def memBudgetPct : Nat := 50

def fdReserveDefault : Nat := 1024

def fdPerSession : Nat := 2

inductive Limit where
  | cpu
  | memory
  | fileDescriptors
  deriving DecidableEq

structure AutoBreakdown where
  value : Nat
  cpuCap : Nat
  memCap : Nat
  fdCap : Nat
  limiting : Limit
  deriving DecidableEq

def computeAuto (cpus totalMemKb nofileSoft : Nat) : AutoBreakdown :=
  let cpuCap := saturatingMul (saturatingMul (max cpus 1) perCoreMbps) 1000 / perUserKbps
  let memCap := saturatingMul totalMemKb memBudgetPct / 100 / perSessionKb
  let fdReserve := min fdReserveDefault (nofileSoft / 4)
  let fdCap := (nofileSoft - fdReserve) / fdPerSession
  { value := max (min (min cpuCap memCap) fdCap) 1
    cpuCap
    memCap
    fdCap
    limiting :=
      if cpuCap ≤ memCap ∧ cpuCap ≤ fdCap then .cpu
      else if memCap ≤ fdCap then .memory
      else .fileDescriptors }

theorem computeAuto_pos (cpus totalMemKb nofileSoft : Nat) : 0 < (computeAuto cpus totalMemKb nofileSoft).value :=
  Nat.lt_of_lt_of_le Nat.zero_lt_one (Nat.le_max_right ..)

/-- So many sessions fit into the memory and the descriptors that are set aside for them. -/
structure FitsBudget (totalMemKb nofileSoft sessions : Nat) : Prop where
  memory : perSessionKb * sessions ≤ totalMemKb * memBudgetPct / 100
  descriptors : fdPerSession * sessions + min fdReserveDefault (nofileSoft / 4) ≤ nofileSoft

theorem FitsBudget.mono {totalMemKb nofileSoft sessions fewer : Nat} (fits : FitsBudget totalMemKb nofileSoft sessions)
    (le : fewer ≤ sessions) : FitsBudget totalMemKb nofileSoft fewer where
  memory := (Nat.mul_le_mul_left _ le).trans fits.memory
  descriptors := (Nat.add_le_add_right (Nat.mul_le_mul_left _ le) _).trans fits.descriptors

def fixedExceedsAutoCap (value : Nat) (bd : AutoBreakdown) : Bool :=
  value > bd.cpuCap || value > bd.memCap || value > bd.fdCap

/-- The cap that a limit names. -/
def AutoBreakdown.cap (bd : AutoBreakdown) : Limit → Nat
  | .cpu => bd.cpuCap
  | .memory => bd.memCap
  | .fileDescriptors => bd.fdCap

/-- The smallest of the three caps. -/
def AutoBreakdown.least (bd : AutoBreakdown) : Nat := min (min bd.cpuCap bd.memCap) bd.fdCap

theorem saturatingMul_le (a b : Nat) : saturatingMul a b ≤ a * b := Nat.min_le_left ..

theorem saturatingMul_lt (a b : Nat) : saturatingMul a b < 2 ^ 64 :=
  Nat.lt_of_le_of_lt (Nat.min_le_right ..) (by decide)

theorem saturatingMul_mono {a a' : Nat} (b : Nat) (le : a ≤ a') : saturatingMul a b ≤ saturatingMul a' b :=
  min_le_min_right _ (Nat.mul_le_mul_right b le)

section Caps

variable (cpus totalMemKb nofileSoft : Nat)

theorem computeAuto_value :
    (computeAuto cpus totalMemKb nofileSoft).value = max (computeAuto cpus totalMemKb nofileSoft).least 1 := rfl

/-- A core's 1500 Mbit/s at 200 kbit/s a user. -/
theorem cpuCap_le : (computeAuto cpus totalMemKb nofileSoft).cpuCap ≤ 7500 * max cpus 1 := by
  have inner := saturatingMul_le (max cpus 1) perCoreMbps
  have outer := saturatingMul_le (saturatingMul (max cpus 1) perCoreMbps) 1000
  change saturatingMul (saturatingMul (max cpus 1) perCoreMbps) 1000 / perUserKbps ≤ _
  simp only [perCoreMbps, perUserKbps] at *
  omega

theorem cpuCap_mono {cpus cpus' : Nat} (le : cpus ≤ cpus') :
    (computeAuto cpus totalMemKb nofileSoft).cpuCap ≤ (computeAuto cpus' totalMemKb nofileSoft).cpuCap := by
  have inner := saturatingMul_mono perCoreMbps (max_le_max_right 1 le)
  exact Nat.div_le_div_right (saturatingMul_mono 1000 inner)

/-- Half of the memory, in sessions. -/
theorem memCap_le : perSessionKb * (computeAuto cpus totalMemKb nofileSoft).memCap ≤ totalMemKb / 2 := by
  have product := saturatingMul_le totalMemKb memBudgetPct
  change perSessionKb * (saturatingMul totalMemKb memBudgetPct / 100 / perSessionKb) ≤ _
  simp only [memBudgetPct, perSessionKb] at *
  omega

/-- The product saturates, so there is a bound that does not depend on the memory. -/
theorem memCap_lt : (computeAuto cpus totalMemKb nofileSoft).memCap < 2 ^ 61 - 1 := by
  have product := saturatingMul_lt totalMemKb memBudgetPct
  change saturatingMul totalMemKb memBudgetPct / 100 / perSessionKb < _
  simp only [perSessionKb]
  omega

theorem memCap_mono {totalMemKb totalMemKb' : Nat} (le : totalMemKb ≤ totalMemKb') :
    (computeAuto cpus totalMemKb nofileSoft).memCap ≤ (computeAuto cpus totalMemKb' nofileSoft).memCap :=
  Nat.div_le_div_right (Nat.div_le_div_right (saturatingMul_mono memBudgetPct le))

theorem fdCap_le : fdPerSession * (computeAuto cpus totalMemKb nofileSoft).fdCap +
    min fdReserveDefault (nofileSoft / 4) ≤ nofileSoft := by
  change fdPerSession * ((nofileSoft - min fdReserveDefault (nofileSoft / 4)) / fdPerSession) + _ ≤ _
  simp only [fdPerSession]
  omega

/-- The reserve grows by one descriptor where the limit grows by four. -/
theorem fdCap_mono {nofileSoft nofileSoft' : Nat} (le : nofileSoft ≤ nofileSoft') :
    (computeAuto cpus totalMemKb nofileSoft).fdCap ≤ (computeAuto cpus totalMemKb nofileSoft').fdCap := by
  change (nofileSoft - min fdReserveDefault (nofileSoft / 4)) / fdPerSession ≤
    (nofileSoft' - min fdReserveDefault (nofileSoft' / 4)) / fdPerSession
  apply Nat.div_le_div_right
  simp only [fdReserveDefault]
  omega

theorem cap_limiting : (computeAuto cpus totalMemKb nofileSoft).cap (computeAuto cpus totalMemKb nofileSoft).limiting =
    (computeAuto cpus totalMemKb nofileSoft).least := by
  have named : (computeAuto cpus totalMemKb nofileSoft).limiting =
      if (computeAuto cpus totalMemKb nofileSoft).cpuCap ≤ (computeAuto cpus totalMemKb nofileSoft).memCap ∧
          (computeAuto cpus totalMemKb nofileSoft).cpuCap ≤ (computeAuto cpus totalMemKb nofileSoft).fdCap then .cpu
      else if (computeAuto cpus totalMemKb nofileSoft).memCap ≤ (computeAuto cpus totalMemKb nofileSoft).fdCap then .memory
      else .fileDescriptors := rfl
  rw [named]
  generalize computeAuto cpus totalMemKb nofileSoft = bd
  unfold AutoBreakdown.least
  split_ifs with cpu memory <;> simp only [AutoBreakdown.cap] <;> omega

end Caps

/-- The figure does, where a single session would. -/
theorem computeAuto_fits {cpus totalMemKb nofileSoft : Nat}
    (memory : 0 < (computeAuto cpus totalMemKb nofileSoft).memCap)
    (descriptors : 0 < (computeAuto cpus totalMemKb nofileSoft).fdCap) :
    FitsBudget totalMemKb nofileSoft (computeAuto cpus totalMemKb nofileSoft).value := by
  have value := computeAuto_value cpus totalMemKb nofileSoft
  have half := memCap_le cpus totalMemKb nofileSoft
  have reserved := fdCap_le cpus totalMemKb nofileSoft
  rw [AutoBreakdown.least] at value
  constructor
  case memory =>
    calc perSessionKb * (computeAuto cpus totalMemKb nofileSoft).value
        ≤ perSessionKb * (computeAuto cpus totalMemKb nofileSoft).memCap := Nat.mul_le_mul_left _ (by omega)
      _ ≤ totalMemKb / 2 := half
      _ = totalMemKb * memBudgetPct / 100 := by
          simp only [memBudgetPct]
          omega
  case descriptors =>
    calc fdPerSession * (computeAuto cpus totalMemKb nofileSoft).value + min fdReserveDefault (nofileSoft / 4)
        ≤ fdPerSession * (computeAuto cpus totalMemKb nofileSoft).fdCap + min fdReserveDefault (nofileSoft / 4) :=
          Nat.add_le_add_right (Nat.mul_le_mul_left _ (by omega)) _
      _ ≤ nofileSoft := reserved

theorem fixedExceedsAutoCap_iff (value : Nat) (bd : AutoBreakdown) :
    fixedExceedsAutoCap value bd = true ↔ bd.least < value := by
  simp only [fixedExceedsAutoCap, AutoBreakdown.least, Bool.or_eq_true, decide_eq_true_eq]
  omega

/-- Larger caps give a larger figure. -/
theorem value_mono_of_caps {cpus cpus' mem mem' nofile nofile' : Nat}
    (cpu : (computeAuto cpus mem nofile).cpuCap ≤ (computeAuto cpus' mem' nofile').cpuCap)
    (memory : (computeAuto cpus mem nofile).memCap ≤ (computeAuto cpus' mem' nofile').memCap)
    (descriptors : (computeAuto cpus mem nofile).fdCap ≤ (computeAuto cpus' mem' nofile').fdCap) :
    (computeAuto cpus mem nofile).value ≤ (computeAuto cpus' mem' nofile').value := by
  rw [computeAuto_value, computeAuto_value]
  exact max_le_max_right 1 (min_le_min (min_le_min cpu memory) descriptors)

/-- What the automatic figure keeps to, over all resources. -/
structure Sized (cpus totalMemKb nofileSoft : Nat) (bd : AutoBreakdown) : Prop where
  positive : 1 ≤ bd.value
  permits : bd.value ≤ 2 ^ 61 - 1
  budgets : 1 ≤ bd.cpuCap → 1 ≤ bd.memCap → 1 ≤ bd.fdCap →
    2 * bd.value + min 1024 (nofileSoft / 4) ≤ nofileSoft ∧ 200 * bd.value ≤ totalMemKb / 2 ∧
      bd.value ≤ 7500 * max cpus 1
  limiting : bd.cap bd.limiting = bd.least
  exceeds : ∀ value, fixedExceedsAutoCap value bd = true ↔ bd.least < value

/-- The automatic figure is a number of permits, keeps to the three budgets where each has room for one session,
names a smallest cap, and grows with each of the resources. -/
theorem auto_sizing_sound (cpus totalMemKb nofileSoft : Nat) :
    Sized cpus totalMemKb nofileSoft (computeAuto cpus totalMemKb nofileSoft) ∧
      (∀ more, cpus ≤ more →
        (computeAuto cpus totalMemKb nofileSoft).value ≤ (computeAuto more totalMemKb nofileSoft).value) ∧
      (∀ more, totalMemKb ≤ more →
        (computeAuto cpus totalMemKb nofileSoft).value ≤ (computeAuto cpus more nofileSoft).value) ∧
      (∀ more, nofileSoft ≤ more →
        (computeAuto cpus totalMemKb nofileSoft).value ≤ (computeAuto cpus totalMemKb more).value) := by
  have value := computeAuto_value cpus totalMemKb nofileSoft
  have cpu := cpuCap_le cpus totalMemKb nofileSoft
  have memory := memCap_le cpus totalMemKb nofileSoft
  have bound := memCap_lt cpus totalMemKb nofileSoft
  have descriptors := fdCap_le cpus totalMemKb nofileSoft
  refine ⟨⟨?_, ?_, ?_, cap_limiting .., fun v => fixedExceedsAutoCap_iff v _⟩, ?_, ?_, ?_⟩
  · exact computeAuto_pos ..
  · rw [value, AutoBreakdown.least]
    omega
  · intro oneCpu oneMemory oneFd
    rw [value, AutoBreakdown.least]
    simp only [perSessionKb, fdPerSession, fdReserveDefault] at memory descriptors
    omega
  · exact fun more le => value_mono_of_caps (cpuCap_mono _ _ le) le_rfl le_rfl
  · exact fun more le => value_mono_of_caps le_rfl (memCap_mono _ _ le) le_rfl
  · exact fun more le => value_mono_of_caps le_rfl le_rfl (fdCap_mono _ _ le)

example : (computeAuto 4 (16 * 1024 * 1024) 65536).value = 30000 ∧
    (computeAuto 4 (16 * 1024 * 1024) 65536).limiting = .cpu ∧ (computeAuto 1 0 0).value = 1 := by decide

end ServerNaive
