import SistemaMonitoreo.Cpu

namespace SistemaMonitoreo.CpuSampler

open LibC Cpu

/-- What one call of a CPU delta sampler reports, in the error taxonomy of the design. -/
inductive CpuReport
  | unavailable
  | insufficientHistory
  | degenerate
  | utilization (pct : ℚ)
  deriving DecidableEq

def CpuReport.toDouble : CpuReport → ℚ
  | .utilization pct => pct
  | _ => -1

def idleTicks (s : CpuSample) : Nat := s.idle.toNat + s.iowait.toNat

def totalTicks (s : CpuSample) : Nat :=
  idleTicks s + (s.user.toNat + s.nice.toNat + s.system.toNat + s.irq.toNat + s.softirq.toNat +
    s.steal.toNat)

/-- The DeltaCpuSampler of the design (§4.2), in its own words: a first sample is only stored,
every later one is compared with the stored one and then replaces it. -/
inductive SpecSampler
  | uninitialized
  | ready (prev : CpuSample)

def specStep : SpecSampler → Option CpuSample → CpuReport × SpecSampler
  | s, none => (.unavailable, s)
  | .uninitialized, some cur => (.insufficientHistory, .ready cur)
  | .ready prev, some cur =>
    let dTotal : Int := totalTicks cur - totalTicks prev
    let dIdle : Int := idleTicks cur - idleTicks prev
    if dTotal = 0 then (.degenerate, .ready cur)
    else (.utilization ((dTotal - dIdle : Int) / (dTotal : ℚ) * 100), .ready cur)

def specRun (s : SpecSampler) : List (Option CpuSample) → List CpuReport × SpecSampler
  | [] => ([], s)
  | c :: cs =>
    let (r, s) := specStep s c
    let (rs, s') := specRun s cs
    (r :: rs, s')

/-- The first call that reads a sample compares it with the all-zero statics and reports the
utilization since boot, where the design reports `InsufficientHistory`. -/
theorem cpuRun_first_call :
    (cpuRun .zero [some "cpu  1 0 0 0 0 0 0 0\n".toList]).1 = [100] ∧
      ((specRun .uninitialized [readCpuSample (some "cpu  1 0 0 0 0 0 0 0\n".toList)]).1.map
        CpuReport.toDouble) = [-1] := by
  have h : readCpuSample (some "cpu  1 0 0 0 0 0 0 0\n".toList) = some ⟨1, 0, 0, 0, 0, 0, 0, 0⟩ := by
    decide
  have e := @getCpuUsage_some .zero _ _ h (by decide)
  have n : (totald .zero ⟨1, 0, 0, 0, 0, 0, 0, 0⟩ - idled .zero ⟨1, 0, 0, 0, 0, 0, 0, 0⟩).toNat = 1 ∧
      (totald .zero ⟨1, 0, 0, 0, 0, 0, 0, 0⟩).toNat = 1 := by decide
  rw [n.1, n.2] at e
  simp only [cpuRun, e, specRun, specStep, h, List.map_cons, List.map_nil, CpuReport.toDouble]
  norm_num

def wrapSub (a b : Nat) : Nat := (((a : Int) - b) % 2 ^ 64).toNat

/-- The delta sampler that `get_cpu_usage` realises: the baseline starts as the all-zero sample,
deltas are taken modulo `2^64`, and only a reported utilization moves the baseline. -/
def deltaStep (baseline : CpuSample) : Option CpuSample → CpuReport × CpuSample
  | none => (.unavailable, baseline)
  | some cur =>
    let dTotal := wrapSub (totalTicks cur) (totalTicks baseline)
    let dIdle := wrapSub (idleTicks cur) (idleTicks baseline)
    if dTotal = 0 then (.degenerate, baseline)
    else (.utilization (100 * (wrapSub dTotal dIdle : ℚ) / dTotal), cur)

def deltaRun (baseline : CpuSample) : List (Option CpuSample) → List CpuReport × CpuSample
  | [] => ([], baseline)
  | c :: cs =>
    let (r, b) := deltaStep baseline c
    let (rs, b') := deltaRun b cs
    (r :: rs, b')

theorem toNat_sub_wrap (x y : BitVec 64) (a b : Nat) (hx : x.toNat = a % 2 ^ 64)
    (hy : y.toNat = b % 2 ^ 64) : (x - y).toNat = wrapSub a b := by
  rw [BitVec.toNat_sub, hx, hy, wrapSub]
  omega

theorem toNat_total (s : CpuSample) : (total s).toNat = totalTicks s % 2 ^ 64 := by
  have h : total s = [s.idle, s.iowait, s.user, s.nice, s.system, s.irq, s.softirq, s.steal].sum := by
    simp only [total, idleTotal, nonIdle, List.sum_cons, List.sum_nil]
    ring
  rw [h, toNat_sum]
  simp only [List.map_cons, List.map_nil, List.sum_cons, List.sum_nil, totalTicks, idleTicks]
  congr 1
  omega

theorem toNat_idleTotal (s : CpuSample) : (idleTotal s).toNat = idleTicks s % 2 ^ 64 := by
  simp [idleTotal, idleTicks, BitVec.toNat_add]

theorem toNat_totald (p c : CpuSample) :
    (totald p c).toNat = wrapSub (totalTicks c) (totalTicks p) :=
  toNat_sub_wrap _ _ _ _ (toNat_total c) (toNat_total p)

theorem toNat_idled (p c : CpuSample) :
    (idled p c).toNat = wrapSub (idleTicks c) (idleTicks p) :=
  toNat_sub_wrap _ _ _ _ (toNat_idleTotal c) (toNat_idleTotal p)

theorem getCpuUsage_eq_deltaStep (prev : CpuSample) (stat : Option (List Char)) :
    getCpuUsage prev stat =
      ((deltaStep prev (readCpuSample stat)).1.toDouble, (deltaStep prev (readCpuSample stat)).2) := by
  cases h : readCpuSample stat with
  | none => simp [getCpuUsage_none h, deltaStep, CpuReport.toDouble]
  | some cur =>
    have hz : totald prev cur = 0 ↔ wrapSub (totalTicks cur) (totalTicks prev) = 0 := by
      rw [← toNat_totald, BitVec.toNat_eq]; simp
    by_cases h0 : totald prev cur = 0
    · simp [getCpuUsage_degenerate h h0, deltaStep, hz.mp h0, CpuReport.toDouble]
    · have hsub := toNat_sub_wrap (totald prev cur) (idled prev cur) _ _
        (by rw [Nat.mod_eq_of_lt (BitVec.isLt _)]) (by rw [Nat.mod_eq_of_lt (BitVec.isLt _)])
      simp only [getCpuUsage_some h h0, deltaStep, hz.not.mp h0, ↓reduceIte, CpuReport.toDouble,
        hsub, toNat_totald, toNat_idled]
      ring_nf

/-- Over every sequence of reads, the values `get_cpu_usage` returns and the statics it leaves
are those of the delta sampler, started from the same baseline. -/
theorem cpuRun_eq_deltaRun (prev : CpuSample) (stats : List (Option (List Char))) :
    cpuRun prev stats =
      ((deltaRun prev (stats.map readCpuSample)).1.map CpuReport.toDouble,
        (deltaRun prev (stats.map readCpuSample)).2) := by
  induction stats generalizing prev with
  | nil => rfl
  | cons stat stats ih =>
    simp only [cpuRun, deltaRun, List.map_cons, getCpuUsage_eq_deltaStep, ih]

end SistemaMonitoreo.CpuSampler
