import SistemaMonitoreo.Gauges
import SistemaMonitoreo.CpuSampler

namespace SistemaMonitoreo.GaugeBounds

open LibC Cpu CpuSampler Meminfo Gauges Stat

def cpuSamples (calls : List Call) : List CpuSample :=
  calls.filterMap fun
    | .cpu stat => readCpuSample stat
    | _ => none

/-- The published utilization is a percentage, and the statics of `get_cpu_usage` lie below
every sample the run has still to read. -/
structure CpuBounded (a : Agent) (ahead : List CpuSample) : Prop where
  nonneg : 0 ≤ a.gauges .cpuUsage
  le_hundred : a.gauges .cpuUsage ≤ 100
  baseline : ∀ c ∈ ahead, a.prevCpu.le c

theorem tickDelta_le_totalTicks (p c : CpuSample) : tickDelta p c ≤ totalTicks c :=
  calc tickDelta p c ≤ c.user.toNat + c.nice.toNat + c.system.toNat + c.idle.toNat +
        c.iowait.toNat + c.irq.toNat + c.softirq.toNat + c.steal.toNat := by
        unfold tickDelta
        gcongr <;> exact Nat.sub_le _ _
    _ = totalTicks c := by
        unfold totalTicks idleTicks
        omega

theorem step_prevCpu (a a' : Agent) (c : Call) (h : a.step c = .ok a') (hc : c.sampler ≠ .cpu) :
    a'.prevCpu = a.prevCpu := by
  cases c with
  | cpu stat => exact absurd rfl hc
  | network netDev =>
    simp only [Agent.step, updateNetworkGauge, bind, Except.bind] at h
    split at h
    · cases h
    · split at h <;> cases h <;> rfl
  | memory reads fragmentation =>
    cases h
    simp only [updateMemoryGauge]
    split_ifs <;> rfl
  | disk diskstats =>
    cases h
    simp only [updateDiskGauge]
    split_ifs <;> rfl
  | process stat =>
    cases h
    simp only [updateProccessGauge]
    split_ifs <;> rfl
  | contextSwitches stat =>
    cases h
    simp only [updateContextSwitchesGauge]
    split_ifs <;> rfl
  | fit p fifo stale locals =>
    obtain ⟨slots, -, rfl⟩ := updateFitGauge_ok p fifo stale locals a a' h
    rfl

theorem updateCpuGauge_cpuBounded (stat : Option (List Char)) (a : Agent) (ahead : List CpuSample)
    (ha : CpuBounded a ((readCpuSample stat).toList ++ ahead))
    (hmono : ∀ c ∈ (readCpuSample stat).toList, ∀ c' ∈ ahead, c.le c')
    (hfit : ∀ c ∈ (readCpuSample stat).toList, totalTicks c < 2 ^ 64) :
    CpuBounded (updateCpuGauge stat a).2 ahead := by
  cases hr : readCpuSample stat with
  | none =>
    rw [updateCpuGauge_unavailable stat a hr]
    simpa only [hr, Option.toList_none, List.nil_append] using ha
  | some c =>
    simp only [hr, Option.toList_some, List.singleton_append] at ha
    have hle := ha.baseline c (List.mem_cons_self _ _)
    have hfit' := lt_of_le_of_lt (tickDelta_le_totalTicks a.prevCpu c) (hfit c (by simp [hr]))
    by_cases h0 : tickDelta a.prevCpu c = 0
    · have ht : totald a.prevCpu c = 0 := by
        apply BitVec.eq_of_toNat_eq
        rw [toNat_totald _ _ hle hfit', h0]
        rfl
      have hneg : ¬ (-1 : ℚ) ≥ 0 := by norm_num
      simp only [updateCpuGauge, getCpuUsage_degenerate hr ht, hneg, ↓reduceIte]
      exact ⟨ha.nonneg, ha.le_hundred, fun c' hc' => ha.baseline c' (List.mem_cons_of_mem _ hc')⟩
    · obtain ⟨-, -, hval, hlo, hhi⟩ :=
        getCpuUsage_of_le a.prevCpu c stat hr hle (Nat.pos_of_ne_zero h0) hfit'
      rw [hval] at hlo hhi
      simp only [updateCpuGauge, hval, ge_iff_le, hlo, ↓reduceIte]
      refine ⟨?_, ?_, hmono c (by simp [hr])⟩ <;>
        simp only [setGauges, Function.update_same]
      · exact hlo
      · exact hhi

theorem cpuSamples_nil : cpuSamples [] = [] := rfl

theorem cpuSamples_cons_cpu (stat : Option (List Char)) (calls : List Call) :
    cpuSamples (.cpu stat :: calls) = (readCpuSample stat).toList ++ cpuSamples calls := by
  cases h : readCpuSample stat <;> simp [cpuSamples, h]

theorem cpuSamples_cons_of_ne (c : Call) (calls : List Call) (hc : c.sampler ≠ .cpu) :
    cpuSamples (c :: calls) = cpuSamples calls := by
  cases c <;> first | exact absurd rfl hc | rfl

theorem step_cpuBounded (a a' : Agent) (c : Call) (ahead : List CpuSample)
    (ha : CpuBounded a (cpuSamples [c] ++ ahead))
    (hmono : ∀ x ∈ cpuSamples [c], ∀ y ∈ ahead, x.le y)
    (hfit : ∀ x ∈ cpuSamples [c], totalTicks x < 2 ^ 64) (h : a.step c = .ok a') :
    CpuBounded a' ahead := by
  by_cases hc : c.sampler = .cpu
  · cases c <;> simp only [Call.sampler, reduceCtorEq] at hc
    cases h
    rw [cpuSamples_cons_cpu, cpuSamples_nil, List.append_nil] at ha hmono hfit
    exact updateCpuGauge_cpuBounded _ a ahead ha hmono hfit
  · rw [cpuSamples_cons_of_ne c [] hc, cpuSamples_nil, List.nil_append] at ha
    have hg := step_frame a a' c h .cpuUsage fun e => hc e.symm
    have hp := step_prevCpu a a' c h hc
    exact ⟨hg ▸ ha.nonneg, hg ▸ ha.le_hundred, hp ▸ ha.baseline⟩

theorem run_cpuBounded (a a' : Agent) (calls : List Call)
    (hmono : (cpuSamples calls).Pairwise CpuSample.le)
    (hfit : ∀ c ∈ cpuSamples calls, totalTicks c < 2 ^ 64)
    (ha : CpuBounded a (cpuSamples calls)) (h : a.run calls = .ok a') : CpuBounded a' [] := by
  induction calls generalizing a with
  | nil =>
    cases h
    exact ha
  | cons c calls ih =>
    have hsplit : cpuSamples (c :: calls) = cpuSamples [c] ++ cpuSamples calls := by
      simp only [cpuSamples, ← List.filterMap_append, List.singleton_append]
    rw [hsplit, List.pairwise_append] at hmono
    rw [hsplit, List.forall_mem_append] at hfit
    rw [hsplit] at ha
    simp only [Agent.run, List.foldlM_cons, bind, Except.bind] at h
    split at h
    · cases h
    · next a₁ e => exact ih a₁ hmono.2.1 hfit.2 (step_cpuBounded a a₁ c _ ha hmono.2.2 hfit.1 e) h

theorem zero_le_sample (c : CpuSample) : CpuSample.zero.le c :=
  ⟨Nat.zero_le _, Nat.zero_le _, Nat.zero_le _, Nat.zero_le _, Nat.zero_le _, Nat.zero_le _,
    Nat.zero_le _, Nat.zero_le _⟩

/-- Over every run from the initial state in which no /proc/stat counter goes backwards and every
sample's counters sum below `2^64`, the published CPU utilization stays within `[0, 100]`. -/
theorem run_cpuUsage_percentage (calls : List Call) (a' : Agent)
    (hmono : (cpuSamples calls).Pairwise CpuSample.le)
    (hfit : ∀ c ∈ cpuSamples calls, totalTicks c < 2 ^ 64) (h : Agent.init.run calls = .ok a') :
    0 ≤ a'.gauges .cpuUsage ∧ a'.gauges .cpuUsage ≤ 100 :=
  have hb := run_cpuBounded _ a' calls hmono hfit
    ⟨le_refl _, (by norm_num : (0 : ℚ) ≤ 100), fun c _ => zero_le_sample c⟩ h
  ⟨hb.nonneg, hb.le_hundred⟩

def growingStats : List Call :=
  [.cpu (some "cpu  1 2 3 4 5 6 7 8\n".toList), .memory (.same none) 0,
    .cpu (some "cpu  2 2 3 9 5 6 7 8\n".toList)]

theorem run_cpuUsage_percentage_sample :
    ∃ a', Agent.init.run growingStats = .ok a' ∧
      0 ≤ a'.gauges .cpuUsage ∧ a'.gauges .cpuUsage ≤ 100 :=
  ⟨_, rfl, run_cpuUsage_percentage growingStats _ (by decide) (by decide) rfl⟩

theorem getMemoryUsage_lt_hundred (totalRead freeRead : Option (List Char))
    (hf : 0 ≤ getMemoryFree freeRead) : getMemoryUsage totalRead freeRead < 100 := by
  have hpos : 0 < getMemoryFree freeRead :=
    (meminfoValue_cases _ freeRead).resolve_left fun e => by
      rw [getMemoryFree, e] at hf
      norm_num at hf
  simp only [getMemoryUsage]
  split_ifs with ht
  · rw [div_mul_eq_mul_div, div_lt_iff₀ ht]
    linarith
  · norm_num

theorem setGauges_memoryGauges_usage (gauges : Gauge → ℚ) (usage total used available fragmentation : ℚ) :
    setGauges gauges (memoryGauges usage total used available fragmentation) .memoryUsage = usage := by
  simp only [setGauges, memoryGauges, Function.update_apply, reduceCtorEq, if_true, if_false]

/-- The published memory usage is a percentage below 100. -/
structure MemoryBounded (gauges : Gauge → ℚ) : Prop where
  nonneg : 0 ≤ gauges .memoryUsage
  lt_hundred : gauges .memoryUsage < 100

theorem step_memoryBounded (a a' : Agent) (c : Call) (hc : c.ConsistentReads)
    (ha : MemoryBounded a.gauges) (h : a.step c = .ok a') : MemoryBounded a'.gauges := by
  by_cases hs : c.sampler = .memory
  · cases c <;> simp only [Call.sampler, reduceCtorEq] at hs
    obtain ⟨meminfo, rfl⟩ := hc
    cases h
    simp only [updateMemoryGauge, MeminfoReads.same]
    split_ifs with hg
    · constructor <;> dsimp only <;> rw [setGauges_memoryGauges_usage]
      · exact hg.1
      · exact getMemoryUsage_lt_hundred _ _ hg.2.2.2.1
    · exact ha
  · have e := step_frame a a' c h .memoryUsage fun e => hs e.symm
    exact ⟨e ▸ ha.nonneg, e ▸ ha.lt_hundred⟩

/-- Over every run from the initial state whose memory calls each see one /proc/meminfo, the
published memory usage stays within `[0, 100)`. -/
theorem run_memoryUsage_percentage (calls : List Call) (a' : Agent)
    (hc : ∀ c ∈ calls, c.ConsistentReads) (h : Agent.init.run calls = .ok a') :
    0 ≤ a'.gauges .memoryUsage ∧ a'.gauges .memoryUsage < 100 :=
  have hb := run_preserves (fun a => MemoryBounded a.gauges) _ step_memoryBounded _ a' calls hc
    ⟨le_refl _, by norm_num [Agent.init]⟩ h
  ⟨hb.nonneg, hb.lt_hundred⟩

theorem run_memoryUsage_percentage_sample :
    ∃ a', Agent.init.run [.memory (.same (some "MemTotal: 2048 kB\nMemAvailable: 1024 kB\n".toList)) 0,
        .cpu none] = .ok a' ∧ a'.gauges .memoryUsage = 50 ∧
      0 ≤ a'.gauges .memoryUsage ∧ a'.gauges .memoryUsage < 100 :=
  ⟨(updateCpuGauge none
      (updateMemoryGauge (.same (some "MemTotal: 2048 kB\nMemAvailable: 1024 kB\n".toList)) 0 .init).2).2,
    rfl, by rw [updateCpuGauge_unavailable none _ rfl, updateMemoryGauge_sample]; rfl,
    run_memoryUsage_percentage [.memory (.same (some "MemTotal: 2048 kB\nMemAvailable: 1024 kB\n".toList)) 0,
      .cpu none] _
      (List.forall_mem_cons.mpr ⟨⟨_, rfl⟩, List.forall_mem_cons.mpr ⟨trivial, List.forall_mem_nil _⟩⟩)
      rfl⟩

def NonnegValues (l : List (Gauge × ℚ)) : Prop := ∀ x ∈ l, 0 ≤ x.2

theorem setGauges_nonneg (gauges : Gauge → ℚ) (l : List (Gauge × ℚ)) (hl : NonnegValues l) (g : Gauge)
    (hg : 0 ≤ gauges g) : 0 ≤ setGauges gauges l g := by
  induction l generalizing gauges with
  | nil => exact hg
  | cons x l ih =>
    refine ih _ (fun y hy => hl y (List.mem_cons_of_mem _ hy)) ?_
    rw [Function.update_apply]
    split_ifs
    · exact hl x (List.mem_cons_self _ _)
    · exact hg

theorem nonnegValues_singleton (g : Gauge) (v : ℚ) (hv : 0 ≤ v) : NonnegValues [(g, v)] :=
  fun _ hx => by rw [List.mem_singleton.mp hx]; exact hv

theorem nonnegValues_memoryGauges (usage total used available fragmentation : ℚ) (hu : 0 ≤ usage)
    (ht : 0 ≤ total) (hd : 0 ≤ used) (ha : 0 ≤ available) (hf : 0 ≤ fragmentation) :
    NonnegValues (memoryGauges usage total used available fragmentation) := by
  intro x hx
  simp only [memoryGauges, List.mem_cons, List.mem_nil_iff, or_false] at hx
  rcases hx with rfl | rfl | rfl | rfl | rfl <;> assumption

theorem nonnegValues_diskGauges (m : Disk.DiskMetrics) : NonnegValues (diskGauges m) := by
  intro x hx
  simp only [diskGauges, List.mem_cons, List.mem_nil_iff, or_false] at hx
  rcases hx with rfl | rfl | rfl | rfl <;> exact Nat.cast_nonneg _

theorem nonnegValues_networkGauges (m : Network.NetworkMetrics) : NonnegValues (networkGauges m) := by
  intro x hx
  simp only [networkGauges, List.mem_cons, List.mem_nil_iff, or_false] at hx
  rcases hx with rfl | rfl | rfl | rfl | rfl | rfl <;> exact Nat.cast_nonneg _

def PublishesNonneg (a a' : Agent) : Prop := ∃ l, NonnegValues l ∧ a'.gauges = setGauges a.gauges l

theorem publishesNonneg_self (a : Agent) : PublishesNonneg a a :=
  ⟨[], ⟨fun x hx => absurd hx (List.not_mem_nil x), rfl⟩⟩

theorem step_publishesNonneg (a a' : Agent) (c : Call) (hc : ∀ p, c.sampler ≠ .fit p)
    (h : a.step c = .ok a') : PublishesNonneg a a' := by
  cases c with
  | cpu stat =>
    cases h
    simp only [updateCpuGauge]
    split_ifs with hu
    exacts [⟨_, nonnegValues_singleton _ _ hu, rfl⟩, publishesNonneg_self _]
  | memory reads fragmentation =>
    cases h
    simp only [updateMemoryGauge]
    split_ifs with hu
    exacts [⟨_, nonnegValues_memoryGauges _ _ _ _ _ hu.1 hu.2.1 hu.2.2.1 hu.2.2.2.1 hu.2.2.2.2, rfl⟩,
      publishesNonneg_self _]
  | disk diskstats =>
    cases h
    simp only [updateDiskGauge]
    split_ifs
    exacts [⟨_, nonnegValues_diskGauges _, rfl⟩, publishesNonneg_self _]
  | network netDev =>
    simp only [Agent.step, updateNetworkGauge, bind, Except.bind] at h
    split at h
    · cases h
    · split at h <;> cases h
      exacts [⟨_, nonnegValues_networkGauges _, rfl⟩, publishesNonneg_self _]
  | process stat =>
    cases h
    simp only [updateProccessGauge]
    split_ifs with hr
    exacts [⟨_, nonnegValues_singleton _ _ (Int.cast_nonneg.mpr hr), rfl⟩, publishesNonneg_self _]
  | contextSwitches stat =>
    cases h
    simp only [updateContextSwitchesGauge]
    split_ifs with hr
    exacts [⟨_, nonnegValues_singleton _ _ hr, rfl⟩, publishesNonneg_self _]
  | fit p => exact absurd rfl (hc p)

/-- No gauge outside the policy groups is negative. -/
def SystemNonneg (gauges : Gauge → ℚ) : Prop := ∀ g, (∀ p, g.owner ≠ .fit p) → 0 ≤ gauges g

theorem step_systemNonneg (a a' : Agent) (c : Call) (ha : SystemNonneg a.gauges)
    (h : a.step c = .ok a') : SystemNonneg a'.gauges := by
  intro g hg
  by_cases hc : ∃ p, c.sampler = .fit p
  · obtain ⟨p, hp⟩ := hc
    rw [step_frame a a' c h g (hp ▸ hg p)]
    exact ha g hg
  · obtain ⟨l, hl, e⟩ := step_publishesNonneg a a' c (fun p hp => hc ⟨p, hp⟩) h
    rw [e]
    exact setGauges_nonneg _ l hl g (ha g hg)

/-- Whatever the /proc files hold, over every run from the initial state no CPU, memory, disk,
network, process or context-switch gauge is ever negative. -/
theorem run_systemGauges_nonneg (calls : List Call) (a' : Agent) (h : Agent.init.run calls = .ok a') :
    ∀ g, (∀ p, g.owner ≠ .fit p) → 0 ≤ a'.gauges g :=
  run_preserves (fun a => SystemNonneg a.gauges) (fun _ => True)
    (fun a a' c _ => step_systemNonneg a a' c) _ a' calls (fun _ _ => trivial)
    (fun _ _ => le_refl _) h

theorem run_systemGauges_nonneg_sample :
    ∃ a', Agent.init.run [.cpu (some "cpu  1 2 3 4 5 6 7 8\n".toList), .disk none, .network none] = .ok a' ∧
      ∀ g, (∀ p, g.owner ≠ .fit p) → 0 ≤ a'.gauges g :=
  ⟨_, rfl, run_systemGauges_nonneg [.cpu (some "cpu  1 2 3 4 5 6 7 8\n".toList), .disk none, .network none]
    _ rfl⟩

theorem toInt_nonneg_iff (x : BitVec 64) : 0 ≤ x.toInt ↔ x.toNat < 2 ^ 63 := by
  rw [BitVec.toInt_eq_toNat_cond]
  have := x.isLt
  split <;> omega

theorem updateContextSwitchesGauge_procStat (t : ProcStat) (a : Agent) :
    updateContextSwitchesGauge (some t.text) a =
      if t.ctxt.toNat < 2 ^ 63 then
        { a with gauges := Function.update a.gauges .contextSwitches t.ctxt.toNat }
      else a := by
  rw [updateContextSwitchesGauge, getContextSwitches_procStat]
  by_cases h : t.ctxt.toNat < 2 ^ 63
  · have he : t.ctxt.toInt = t.ctxt.toNat := by
      rw [BitVec.toInt_eq_toNat_cond, if_pos (by omega)]
    have hq : ((t.ctxt.toInt : ℚ)) ≥ 0 := by rw [he]; positivity
    rw [if_pos hq, if_pos h, he]
    rfl
  · have hq : ¬ ((t.ctxt.toInt : ℚ)) ≥ 0 := by
      rw [ge_iff_le, Int.cast_nonneg, toInt_nonneg_iff]
      exact h
    rw [if_neg hq, if_neg h]

theorem updateProccessGauge_procStat (t : ProcStat) (a : Agent) :
    updateProccessGauge (some t.text) a =
      if t.procsRunning ≠ 0 ∧ t.procsRunning.toNat < 2 ^ 31 then
        { a with gauges := Function.update a.gauges .runningProcesses t.procsRunning.toNat }
      else a := by
  rw [updateProccessGauge, getRunningProcesses_procStat]
  by_cases h : t.procsRunning.toNat < 2 ^ 31
  · have hv : t.procsRunning.toInt = t.procsRunning.toNat := by
      rw [BitVec.toInt_eq_toNat_cond, if_pos (by omega)]
    rw [hv]
    by_cases h0 : t.procsRunning = 0
    · rw [h0]
      simp
    · have hn : (t.procsRunning.toNat : Int) ≠ 0 := by
        exact_mod_cast fun e => h0 (BitVec.eq_of_toNat_eq e)
      rw [if_neg hn, if_pos (by positivity), if_pos ⟨h0, h⟩]
      rfl
  · have hv : t.procsRunning.toInt < 0 := by
      have := t.procsRunning.isLt
      rw [BitVec.toInt_eq_toNat_cond, if_neg (by omega)]
      omega
    rw [if_neg hv.ne, if_neg (not_le.mpr hv), if_neg fun h' => h h'.2]

/-- On every /proc/stat of the kernel, the two /proc/stat gauges other than the CPU one publish
`ctxt` below `2^63` and a `procs_running` between 1 and `2^31 - 1`, and otherwise keep their
value. -/
theorem procStat_gauges (t : ProcStat) (a : Agent) :
    updateContextSwitchesGauge (some t.text) a =
        (if t.ctxt.toNat < 2 ^ 63 then
          { a with gauges := Function.update a.gauges .contextSwitches t.ctxt.toNat }
        else a) ∧
      updateProccessGauge (some t.text) a =
        if t.procsRunning ≠ 0 ∧ t.procsRunning.toNat < 2 ^ 31 then
          { a with gauges := Function.update a.gauges .runningProcesses t.procsRunning.toNat }
        else a :=
  ⟨updateContextSwitchesGauge_procStat t a, updateProccessGauge_procStat t a⟩

end SistemaMonitoreo.GaugeBounds
