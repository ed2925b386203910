import SistemaMonitoreo.Cpu
import SistemaMonitoreo.Meminfo
import SistemaMonitoreo.Stat
import SistemaMonitoreo.Disk
import SistemaMonitoreo.Network
import SistemaMonitoreo.Fifo

namespace SistemaMonitoreo.Gauges

open LibC Cpu Meminfo Stat Disk Network Fifo

/-- The samplers of expose_metrics.c; each one publishes its own group of gauges. -/
inductive Sampler
  | cpu
  | memory
  | disk
  | network
  | process
  | contextSwitches
  | fit (p : Policy)
  deriving DecidableEq, Repr

/-- The eight gauges of an allocation policy. -/
inductive FitGauge
  | iteration
  | time
  | totalAllocated
  | freedBlocks
  | freeBlocks
  | freeSize
  | fragmentation
  | externalFragmentation
  deriving DecidableEq, Repr

/-- The gauges that `init_metrics` creates. -/
inductive Gauge
  | cpuUsage
  | memoryUsage
  | totalMemory
  | usedMemory
  | availableMemory
  | memoryFragmentation
  | diskReadTime
  | diskWriteTime
  | diskIoInProgress
  | diskIoTime
  | networkReceivedBytes
  | networkTransmittedBytes
  | networkReceivedErrors
  | networkTransmittedErrors
  | networkReceivedDropped
  | networkTransmittedDropped
  | runningProcesses
  | contextSwitches
  | fit (p : Policy) (g : FitGauge)
  deriving DecidableEq

def Gauge.owner : Gauge → Sampler
  | .cpuUsage => .cpu
  | .memoryUsage | .totalMemory | .usedMemory | .availableMemory | .memoryFragmentation => .memory
  | .diskReadTime | .diskWriteTime | .diskIoInProgress | .diskIoTime => .disk
  | .networkReceivedBytes | .networkTransmittedBytes | .networkReceivedErrors
  | .networkTransmittedErrors | .networkReceivedDropped | .networkTransmittedDropped => .network
  | .runningProcesses => .process
  | .contextSwitches => .contextSwitches
  | .fit p _ => .fit p

/-- The state the samplers share: the statics of `get_cpu_usage`, the globals `metrics_disk`
and `metrics_network`, the policy slots, their copies `First`, `Best`, `Worst`, and the value
of every gauge. -/
structure Agent where
  prevCpu : CpuSample
  metricsDisk : DiskMetrics
  metricsNetwork : NetworkMetrics
  slots : Policy → MemoryMetrics
  copies : Policy → MemoryMetrics
  gauges : Gauge → ℚ

/-- Globals and statics start zeroed, and `prom_gauge_new` creates every gauge at 0. -/
def Agent.init : Agent :=
  ⟨.zero, .zero, .zero, fun _ => .zero, fun _ => .zero, fun _ => 0⟩

/-- `prom_gauge_set` on each gauge of a group, in order. -/
def setGauges (gauges : Gauge → ℚ) : List (Gauge × ℚ) → Gauge → ℚ
  | [] => gauges
  | (g, v) :: rest => setGauges (Function.update gauges g v) rest

def memoryGauges (usage total used available fragmentation : ℚ) : List (Gauge × ℚ) :=
  [(.memoryUsage, usage), (.totalMemory, total), (.usedMemory, used),
    (.availableMemory, available), (.memoryFragmentation, fragmentation)]

def diskGauges (m : DiskMetrics) : List (Gauge × ℚ) :=
  [(.diskReadTime, m.readTimeMs.toNat), (.diskWriteTime, m.writeTimeMs.toNat),
    (.diskIoInProgress, m.ioInProgress.toNat), (.diskIoTime, m.ioTimeMs.toNat)]

def networkGauges (m : NetworkMetrics) : List (Gauge × ℚ) :=
  [(.networkReceivedBytes, m.receiveBytes.toNat), (.networkTransmittedBytes, m.transmitBytes.toNat),
    (.networkReceivedErrors, m.receiveErrors.toNat),
    (.networkTransmittedErrors, m.transmitErrors.toNat),
    (.networkReceivedDropped, m.receiveDropped.toNat),
    (.networkTransmittedDropped, m.transmitDropped.toNat)]

def fitGauges (p : Policy) (m : MemoryMetrics) : List (Gauge × ℚ) :=
  [(.fit p .iteration, m.iterations), (.fit p .time, m.timeTaken),
    (.fit p .totalAllocated, m.totalAllocated.toNat), (.fit p .freedBlocks, m.freedBlocks),
    (.fit p .freeBlocks, m.freeBlocks), (.fit p .freeSize, m.freeSize.toNat),
    (.fit p .fragmentation, m.avgFragmentation),
    (.fit p .externalFragmentation, m.externalFragmentation)]

/-- `update_cpu_gauge`: publish the utilization unless it is negative; returns `EXIT_SUCCESS`
or `EXIT_FAILURE`. -/
def updateCpuGauge (stat : Option (List Char)) (a : Agent) : Int × Agent :=
  let (usage, prevCpu) := getCpuUsage a.prevCpu stat
  let a := { a with prevCpu }
  if usage ≥ 0 then (0, { a with gauges := setGauges a.gauges [(.cpuUsage, usage)] }) else (1, a)

/-- The six opens of /proc/meminfo in one `update_memory_gauge`, in call order:
`get_memory_usage` reads the total then the free memory, `get_memory_used` the free memory
then the total. -/
structure MeminfoReads where
  usageTotal : Option (List Char)
  usageFree : Option (List Char)
  total : Option (List Char)
  usedFree : Option (List Char)
  usedTotal : Option (List Char)
  available : Option (List Char)

def MeminfoReads.same (meminfo : Option (List Char)) : MeminfoReads :=
  ⟨meminfo, meminfo, meminfo, meminfo, meminfo, meminfo⟩

/-- `update_memory_gauge`. `fragmentation` is the value of `get_memory_fragmentation`, which
the sources declare but do not define. -/
def updateMemoryGauge (reads : MeminfoReads) (fragmentation : ℚ) (a : Agent) : Int × Agent :=
  let usage := getMemoryUsage reads.usageTotal reads.usageFree
  let total := getMemoryTotal reads.total
  let used := getMemoryUsed reads.usedFree reads.usedTotal
  let available := getMemoryFree reads.available
  if usage ≥ 0 ∧ total ≥ 0 ∧ used ≥ 0 ∧ available ≥ 0 ∧ fragmentation ≥ 0 then
    (0, { a with gauges := setGauges a.gauges (memoryGauges usage total used available fragmentation) })
  else (1, a)

def updateDiskGauge (diskstats : Option (List Char)) (a : Agent) : Agent :=
  let (diskMetrics, metricsDisk) := getDiskMetrics diskstats a.metricsDisk
  let a := { a with metricsDisk }
  if diskMetrics ≥ 0 then { a with gauges := setGauges a.gauges (diskGauges metricsDisk) } else a

def updateNetworkGauge (netDev : Option (List Char)) (a : Agent) : Except Fault Agent := do
  let (networkMetrics, metricsNetwork) ← getNetworkMetrics netDev a.metricsNetwork
  let a := { a with metricsNetwork }
  if networkMetrics ≥ 0 then
    pure { a with gauges := setGauges a.gauges (networkGauges metricsNetwork) }
  else pure a

def updateProccessGauge (stat : Option (List Char)) (a : Agent) : Agent :=
  let runningProcesses := getRunningProcesses stat
  if runningProcesses ≥ 0 then
    { a with gauges := setGauges a.gauges [(.runningProcesses, runningProcesses)] }
  else a

def updateContextSwitchesGauge (stat : Option (List Char)) (a : Agent) : Agent :=
  let contextSwitches : ℚ := getContextSwitches stat
  if contextSwitches ≥ 0 then
    { a with gauges := setGauges a.gauges [(.contextSwitches, contextSwitches)] }
  else a

/-- `update_First_Fit_gauge`, `update_Best_Fit_gauge` and `update_Worst_Fit_gauge`: fetch the
policy's record into its copy and publish the copy. -/
def updateFitGauge (p : Policy) (fifo : Option Delivery) (stale : List Char)
    (locals : RecordLocals) (a : Agent) : Except Fault Agent := do
  let (todoCorrecto, slots, copy) ← getFit p a.slots fifo stale locals
  let a := { a with slots, copies := Function.update a.copies p copy }
  if todoCorrecto ≥ 0 then pure { a with gauges := setGauges a.gauges (fitGauges p copy) }
  else pure a

def updateFirstFitGauge := updateFitGauge .firstFit

def updateBestFitGauge := updateFitGauge .bestFit

def updateWorstFitGauge := updateFitGauge .worstFit

/-- One sampler call, with what its reads of /proc or of the FIFO return. -/
inductive Call
  | cpu (stat : Option (List Char))
  | memory (reads : MeminfoReads) (fragmentation : ℚ)
  | disk (diskstats : Option (List Char))
  | network (netDev : Option (List Char))
  | process (stat : Option (List Char))
  | contextSwitches (stat : Option (List Char))
  | fit (p : Policy) (fifo : Option Delivery) (stale : List Char) (locals : RecordLocals)

def Call.sampler : Call → Sampler
  | .cpu _ => .cpu
  | .memory _ _ => .memory
  | .disk _ => .disk
  | .network _ => .network
  | .process _ => .process
  | .contextSwitches _ => .contextSwitches
  | .fit p _ _ _ => .fit p

def Agent.step (a : Agent) : Call → Except Fault Agent
  | .cpu stat => pure (updateCpuGauge stat a).2
  | .memory reads fragmentation => pure (updateMemoryGauge reads fragmentation a).2
  | .disk diskstats => pure (updateDiskGauge diskstats a)
  | .network netDev => updateNetworkGauge netDev a
  | .process stat => pure (updateProccessGauge stat a)
  | .contextSwitches stat => pure (updateContextSwitchesGauge stat a)
  | .fit p fifo stale locals => updateFitGauge p fifo stale locals a

/-- A sequence of sampler calls; a fault ends the run. -/
def Agent.run (a : Agent) (calls : List Call) : Except Fault Agent :=
  calls.foldlM Agent.step a

theorem setGauges_of_not_mem (gauges : Gauge → ℚ) (l : List (Gauge × ℚ)) (g : Gauge)
    (h : ∀ x ∈ l, x.1 ≠ g) : setGauges gauges l g = gauges g := by
  induction l generalizing gauges with
  | nil => rfl
  | cons x l ih =>
    obtain ⟨g', v⟩ := x
    have hg : g ≠ g' := fun e => h _ (List.mem_cons_self _ _) e.symm
    rw [setGauges, ih _ fun y hy => h y (List.mem_cons_of_mem _ hy), Function.update_noteq hg]

theorem setGauges_of_mem (gauges : Gauge → ℚ) (l : List (Gauge × ℚ)) (x : Gauge × ℚ)
    (hnd : (l.map Prod.fst).Nodup) (hx : x ∈ l) : setGauges gauges l x.1 = x.2 := by
  induction l generalizing gauges with
  | nil => cases hx
  | cons y l ih =>
    obtain ⟨g, v⟩ := y
    rw [List.map_cons, List.nodup_cons] at hnd
    rw [setGauges]
    rcases List.mem_cons.mp hx with rfl | hx
    · rw [setGauges_of_not_mem _ _ _ fun z hz e => hnd.1 (e ▸ List.mem_map_of_mem Prod.fst hz :)]
      exact Function.update_same _ _ _
    · exact ih _ hnd.2 hx

def Owned (s : Sampler) (l : List (Gauge × ℚ)) : Prop := ∀ x ∈ l, x.1.owner = s

theorem owned_nil (s : Sampler) : Owned s [] := fun _ h => nomatch h

theorem owned_singleton (g : Gauge) (v : ℚ) : Owned g.owner [(g, v)] := fun _ hx => by
  rw [List.mem_singleton.mp hx]

theorem memoryGauges_owned (usage total used available fragmentation : ℚ) :
    Owned .memory (memoryGauges usage total used available fragmentation) := by
  intro x hx
  simp only [memoryGauges, List.mem_cons, List.mem_nil_iff, or_false] at hx
  rcases hx with rfl | rfl | rfl | rfl | rfl <;> rfl

theorem diskGauges_owned (m : DiskMetrics) : Owned .disk (diskGauges m) := by
  intro x hx
  simp only [diskGauges, List.mem_cons, List.mem_nil_iff, or_false] at hx
  rcases hx with rfl | rfl | rfl | rfl <;> rfl

theorem networkGauges_owned (m : NetworkMetrics) : Owned .network (networkGauges m) := by
  intro x hx
  simp only [networkGauges, List.mem_cons, List.mem_nil_iff, or_false] at hx
  rcases hx with rfl | rfl | rfl | rfl | rfl | rfl <;> rfl

theorem fitGauges_owned (p : Policy) (m : MemoryMetrics) : Owned (.fit p) (fitGauges p m) := by
  intro x hx
  simp only [fitGauges, List.mem_cons, List.mem_nil_iff, or_false] at hx
  rcases hx with rfl | rfl | rfl | rfl | rfl | rfl | rfl | rfl <;> rfl

theorem diskGauges_nodup (m : DiskMetrics) : ((diskGauges m).map Prod.fst).Nodup := by
  simp only [diskGauges, List.map_cons, List.map_nil]
  decide

theorem networkGauges_nodup (m : NetworkMetrics) : ((networkGauges m).map Prod.fst).Nodup := by
  simp only [networkGauges, List.map_cons, List.map_nil]
  decide

theorem fitGauges_nodup (p : Policy) (m : MemoryMetrics) : ((fitGauges p m).map Prod.fst).Nodup := by
  simp [fitGauges]

/-- What one call of sampler `s` can change: a group of its own gauges, possibly empty, and
only its own struct. -/
structure StepFrame (s : Sampler) (a a' : Agent) : Prop where
  gauges : ∃ l, Owned s l ∧ a'.gauges = setGauges a.gauges l
  metricsDisk : s ≠ .disk → a'.metricsDisk = a.metricsDisk
  metricsNetwork : s ≠ .network → a'.metricsNetwork = a.metricsNetwork
  copies : ∀ p, s ≠ .fit p → a'.copies p = a.copies p

theorem updateCpuGauge_stepFrame (stat : Option (List Char)) (a : Agent) :
    StepFrame .cpu a (updateCpuGauge stat a).2 := by
  simp only [updateCpuGauge]
  split_ifs
  · exact ⟨⟨_, owned_singleton .cpuUsage _, rfl⟩, fun _ => rfl, fun _ => rfl, fun _ _ => rfl⟩
  · exact ⟨⟨[], owned_nil _, rfl⟩, fun _ => rfl, fun _ => rfl, fun _ _ => rfl⟩

theorem updateMemoryGauge_stepFrame (reads : MeminfoReads) (fragmentation : ℚ) (a : Agent) :
    StepFrame .memory a (updateMemoryGauge reads fragmentation a).2 := by
  simp only [updateMemoryGauge]
  split_ifs
  · exact ⟨⟨_, memoryGauges_owned _ _ _ _ _, rfl⟩, fun _ => rfl, fun _ => rfl, fun _ _ => rfl⟩
  · exact ⟨⟨[], owned_nil _, rfl⟩, fun _ => rfl, fun _ => rfl, fun _ _ => rfl⟩

theorem updateDiskGauge_stepFrame (diskstats : Option (List Char)) (a : Agent) :
    StepFrame .disk a (updateDiskGauge diskstats a) := by
  simp only [updateDiskGauge]
  split_ifs
  · exact ⟨⟨_, diskGauges_owned _, rfl⟩, fun h => absurd rfl h, fun _ => rfl, fun _ _ => rfl⟩
  · exact ⟨⟨[], owned_nil _, rfl⟩, fun h => absurd rfl h, fun _ => rfl, fun _ _ => rfl⟩

theorem updateNetworkGauge_stepFrame (netDev : Option (List Char)) (a a' : Agent)
    (h : updateNetworkGauge netDev a = .ok a') : StepFrame .network a a' := by
  simp only [updateNetworkGauge, bind, Except.bind] at h
  split at h
  · cases h
  · split at h <;> cases h
    · exact ⟨⟨_, networkGauges_owned _, rfl⟩, fun _ => rfl, fun h => absurd rfl h, fun _ _ => rfl⟩
    · exact ⟨⟨[], owned_nil _, rfl⟩, fun _ => rfl, fun h => absurd rfl h, fun _ _ => rfl⟩

theorem updateProccessGauge_stepFrame (stat : Option (List Char)) (a : Agent) :
    StepFrame .process a (updateProccessGauge stat a) := by
  simp only [updateProccessGauge]
  split_ifs
  · exact ⟨⟨_, owned_singleton .runningProcesses _, rfl⟩, fun _ => rfl, fun _ => rfl, fun _ _ => rfl⟩
  · exact ⟨⟨[], owned_nil _, rfl⟩, fun _ => rfl, fun _ => rfl, fun _ _ => rfl⟩

theorem updateContextSwitchesGauge_stepFrame (stat : Option (List Char)) (a : Agent) :
    StepFrame .contextSwitches a (updateContextSwitchesGauge stat a) := by
  simp only [updateContextSwitchesGauge]
  split_ifs
  · exact ⟨⟨_, owned_singleton .contextSwitches _, rfl⟩, fun _ => rfl, fun _ => rfl, fun _ _ => rfl⟩
  · exact ⟨⟨[], owned_nil _, rfl⟩, fun _ => rfl, fun _ => rfl, fun _ _ => rfl⟩

theorem updateFitGauge_eq (p : Policy) (fifo : Option Delivery) (stale : List Char)
    (locals : RecordLocals) (a : Agent) :
    updateFitGauge p fifo stale locals a = (readMemoryMetrics a.slots fifo stale locals).map
      fun slots => { a with slots, copies := Function.update a.copies p (slots p),
                            gauges := setGauges a.gauges (fitGauges p (slots p)) } := by
  simp only [updateFitGauge, getFit]
  cases readMemoryMetrics a.slots fifo stale locals <;> rfl

theorem updateFitGauge_ok (p : Policy) (fifo : Option Delivery) (stale : List Char)
    (locals : RecordLocals) (a a' : Agent) (h : updateFitGauge p fifo stale locals a = .ok a') :
    ∃ slots, readMemoryMetrics a.slots fifo stale locals = .ok slots ∧
      a' = { a with slots, copies := Function.update a.copies p (slots p),
                    gauges := setGauges a.gauges (fitGauges p (slots p)) } := by
  rw [updateFitGauge_eq] at h
  cases e : readMemoryMetrics a.slots fifo stale locals with
  | error f => rw [e] at h; cases h
  | ok slots => rw [e] at h; cases h; exact ⟨slots, rfl, rfl⟩

theorem updateFitGauge_stepFrame (p : Policy) (fifo : Option Delivery) (stale : List Char)
    (locals : RecordLocals) (a a' : Agent) (h : updateFitGauge p fifo stale locals a = .ok a') :
    StepFrame (.fit p) a a' := by
  obtain ⟨slots, -, rfl⟩ := updateFitGauge_ok p fifo stale locals a a' h
  refine ⟨⟨_, fitGauges_owned _ _, rfl⟩, fun _ => rfl, fun _ => rfl, fun q hq => ?_⟩
  exact Function.update_noteq (fun e => hq (congrArg Sampler.fit e.symm)) _ _

theorem step_stepFrame (a a' : Agent) (c : Call) (h : a.step c = .ok a') :
    StepFrame c.sampler a a' := by
  cases c with
  | network netDev => exact updateNetworkGauge_stepFrame netDev a a' h
  | cpu stat => cases h; exact updateCpuGauge_stepFrame stat a
  | memory reads fragmentation => cases h; exact updateMemoryGauge_stepFrame reads fragmentation a
  | disk diskstats => cases h; exact updateDiskGauge_stepFrame diskstats a
  | process stat => cases h; exact updateProccessGauge_stepFrame stat a
  | contextSwitches stat => cases h; exact updateContextSwitchesGauge_stepFrame stat a
  | fit p fifo stale locals => exact updateFitGauge_stepFrame p fifo stale locals a a' h

theorem step_frame (a a' : Agent) (c : Call) (h : a.step c = .ok a') (g : Gauge)
    (hg : g.owner ≠ c.sampler) : a'.gauges g = a.gauges g := by
  obtain ⟨l, hl, e⟩ := (step_stepFrame a a' c h).gauges
  rw [e, setGauges_of_not_mem _ _ _ fun x hx hxg => hg (hxg ▸ hl x hx :)]

theorem run_frame (a a' : Agent) (calls : List Call) (h : a.run calls = .ok a') (g : Gauge)
    (hg : g.owner ∉ calls.map Call.sampler) : a'.gauges g = a.gauges g := by
  induction calls generalizing a with
  | nil =>
    cases h
    rfl
  | cons c calls ih =>
    rw [List.map_cons, List.mem_cons, not_or] at hg
    simp only [Agent.run, List.foldlM_cons, bind, Except.bind] at h
    split at h
    · cases h
    · next a₁ e => rw [ih a₁ h hg.2, step_frame a a₁ c e g hg.1]

theorem run_preserves (P : Agent → Prop) (Q : Call → Prop)
    (hstep : ∀ a a' c, Q c → P a → a.step c = .ok a' → P a') (a a' : Agent) (calls : List Call)
    (hc : ∀ c ∈ calls, Q c) (ha : P a) (h : a.run calls = .ok a') : P a' := by
  induction calls generalizing a with
  | nil =>
    cases h
    exact ha
  | cons c calls ih =>
    simp only [Agent.run, List.foldlM_cons, bind, Except.bind] at h
    split at h
    · cases h
    · next a₁ e =>
      exact ih a₁ (fun c' hc' => hc c' (List.mem_cons_of_mem _ hc'))
        (hstep a a₁ c (hc c (List.mem_cons_self _ _)) ha e) h

def Publishes (gauges : Gauge → ℚ) (l : List (Gauge × ℚ)) : Prop := ∀ x ∈ l, gauges x.1 = x.2

theorem publishes_setGauges (gauges : Gauge → ℚ) (l : List (Gauge × ℚ))
    (hnd : (l.map Prod.fst).Nodup) : Publishes (setGauges gauges l) l :=
  fun x hx => setGauges_of_mem gauges l x hnd hx

theorem Publishes.setGauges_other {gauges : Gauge → ℚ} {l l' : List (Gauge × ℚ)} {s s' : Sampler}
    (h : Publishes gauges l) (hl : Owned s l) (hl' : Owned s' l') (hs : s' ≠ s) :
    Publishes (setGauges gauges l') l := by
  intro x hx
  rw [setGauges_of_not_mem _ _ _ fun y hy e => hs (by rw [← hl' y hy, ← hl x hx, e])]
  exact h x hx

/-- What Prometheus shows for the disk, the network and each policy is the content of the
struct that the sampler filled last. -/
structure Agent.Mirrored (a : Agent) : Prop where
  disk : Publishes a.gauges (diskGauges a.metricsDisk)
  network : Publishes a.gauges (networkGauges a.metricsNetwork)
  fit : ∀ p, Publishes a.gauges (fitGauges p (a.copies p))

theorem init_mirrored : Agent.init.Mirrored where
  disk _ hx := by
    simp only [diskGauges, List.mem_cons, List.mem_nil_iff, or_false] at hx
    rcases hx with rfl | rfl | rfl | rfl <;> rfl
  network _ hx := by
    simp only [networkGauges, List.mem_cons, List.mem_nil_iff, or_false] at hx
    rcases hx with rfl | rfl | rfl | rfl | rfl | rfl <;> rfl
  fit _ _ hx := by
    simp only [fitGauges, List.mem_cons, List.mem_nil_iff, or_false] at hx
    rcases hx with rfl | rfl | rfl | rfl | rfl | rfl | rfl | rfl <;> rfl

theorem updateDiskGauge_mirrors (diskstats : Option (List Char)) (a : Agent)
    (h : Publishes a.gauges (diskGauges a.metricsDisk)) :
    Publishes (updateDiskGauge diskstats a).gauges (diskGauges (updateDiskGauge diskstats a).metricsDisk) := by
  rcases getDiskMetrics_cases diskstats a.metricsDisk with e | e
  · simp only [updateDiskGauge, e, ge_iff_le, Int.reduceLE, ↓reduceIte]
    exact h
  · simp only [updateDiskGauge, e, ge_iff_le, le_refl, ↓reduceIte]
    exact publishes_setGauges _ _ (diskGauges_nodup _)

theorem updateNetworkGauge_mirrors (netDev : Option (List Char)) (a a' : Agent)
    (h : Publishes a.gauges (networkGauges a.metricsNetwork)) (ha : updateNetworkGauge netDev a = .ok a') :
    Publishes a'.gauges (networkGauges a'.metricsNetwork) := by
  simp only [updateNetworkGauge, bind, Except.bind] at ha
  split at ha
  · cases ha
  · next r e =>
    obtain ⟨r, m⟩ := r
    rcases getNetworkMetrics_cases _ _ _ _ e with ⟨rfl, rfl⟩ | rfl
    · simp only [ge_iff_le, Int.reduceLE, ↓reduceIte, pure, Except.pure, Except.ok.injEq] at ha
      subst ha
      exact h
    · simp only [ge_iff_le, le_refl, ↓reduceIte, pure, Except.pure, Except.ok.injEq] at ha
      subst ha
      exact publishes_setGauges _ _ (networkGauges_nodup _)

theorem updateFitGauge_mirrors (p : Policy) (fifo : Option Delivery) (stale : List Char)
    (locals : RecordLocals) (a a' : Agent) (h : updateFitGauge p fifo stale locals a = .ok a') :
    Publishes a'.gauges (fitGauges p (a'.copies p)) := by
  obtain ⟨slots, -, rfl⟩ := updateFitGauge_ok p fifo stale locals a a' h
  dsimp only
  rw [Function.update_same]
  exact publishes_setGauges _ _ (fitGauges_nodup _ _)

def halvesRecord : Record :=
  ⟨"First_Fit".toList, 7, ⟨0, ['5'], by decide⟩, 4, 2, 3, 5, ⟨1, ['5'], by decide⟩,
    ⟨2, ['5'], by decide⟩, by decide, by decide, by norm_num, by norm_num, by norm_num, by norm_num,
    by norm_num⟩

def halvesDelivery : Delivery := ⟨["First_Fit 7 0.5 4 2 3 5 1.5 2.5\n".toList], by decide, by decide⟩

theorem step_mirrored (a a' : Agent) (c : Call) (ha : a.Mirrored) (h : a.step c = .ok a') :
    a'.Mirrored := by
  obtain ⟨⟨l, hl, e⟩, hdisk, hnet, hcopies⟩ := step_stepFrame a a' c h
  constructor
  · by_cases hc : c.sampler = .disk
    · cases c <;> simp only [Call.sampler, reduceCtorEq] at hc
      simp only [Agent.step, pure, Except.pure, Except.ok.injEq] at h
      exact h ▸ updateDiskGauge_mirrors _ _ ha.disk
    · rw [hdisk hc, e]
      exact ha.disk.setGauges_other (diskGauges_owned _) hl hc
  · by_cases hc : c.sampler = .network
    · cases c <;> simp only [Call.sampler, reduceCtorEq] at hc
      exact updateNetworkGauge_mirrors _ _ _ ha.network h
    · rw [hnet hc, e]
      exact ha.network.setGauges_other (networkGauges_owned _) hl hc
  · intro p
    by_cases hc : c.sampler = .fit p
    · cases c <;> simp only [Call.sampler, reduceCtorEq, Sampler.fit.injEq] at hc
      subst hc
      exact updateFitGauge_mirrors _ _ _ _ _ _ h
    · rw [hcopies p hc, e]
      exact (ha.fit p).setGauges_other (fitGauges_owned _ _) hl hc

/-- Over every run, from any state where they agree, the disk, network and policy gauges
show the structs their samplers filled last. -/
theorem run_mirrored (a a' : Agent) (calls : List Call) (ha : a.Mirrored)
    (h : a.run calls = .ok a') : a'.Mirrored :=
  run_preserves _ (fun _ => True) (fun a a' c _ => step_mirrored a a' c) a a' calls
    (fun _ _ => trivial) ha h

theorem run_mirrored_sample :
    ∃ a', Agent.init.run [.disk (some "   8       0 sda 0 1 2 3 4 5 6 7 8 9 10\n".toList),
        .fit .firstFit (some halvesDelivery) [] ⟨[], 0, 0, 0, 0, 0, 0, 0, 0⟩] = .ok a' ∧
      a'.metricsDisk = ⟨1, 5, 6, 7⟩ ∧ (a'.copies .firstFit).iterations = 7 ∧ a'.Mirrored :=
  ⟨_, rfl, by decide, by decide, run_mirrored _ _ [.disk (some "   8       0 sda 0 1 2 3 4 5 6 7 8 9 10\n".toList),
    .fit .firstFit (some halvesDelivery) [] ⟨[], 0, 0, 0, 0, 0, 0, 0, 0⟩] init_mirrored rfl⟩

theorem updateCpuGauge_unavailable (stat : Option (List Char)) (a : Agent)
    (h : readCpuSample stat = none) : updateCpuGauge stat a = (1, a) := by
  simp only [updateCpuGauge, getCpuUsage_none h]
  norm_num

theorem updateMemoryGauge_failed (reads : MeminfoReads) (fragmentation : ℚ) (a : Agent)
    (h : getMemoryTotal reads.total < 0 ∨ getMemoryFree reads.available < 0) :
    updateMemoryGauge reads fragmentation a = (1, a) := by
  rw [updateMemoryGauge, if_neg]
  rintro ⟨-, ht, -, hf, -⟩
  rcases h with h | h <;> linarith

theorem updateDiskGauge_failed (diskstats : Option (List Char)) (a : Agent)
    (h : (getDiskMetrics diskstats a.metricsDisk).1 < 0) : updateDiskGauge diskstats a = a := by
  rcases getDiskMetrics_cases diskstats a.metricsDisk with e | e
  · simp only [updateDiskGauge, e, ge_iff_le, Int.reduceLE, ↓reduceIte]
  · omega

theorem updateNetworkGauge_unavailable (a : Agent) : updateNetworkGauge none a = .ok a := rfl

theorem updateProccessGauge_failed (stat : Option (List Char)) (a : Agent)
    (h : getRunningProcesses stat < 0) : updateProccessGauge stat a = a := by
  simp [updateProccessGauge, not_le.mpr h]

theorem updateContextSwitchesGauge_unavailable (a : Agent) :
    updateContextSwitchesGauge none a = a := by
  rw [updateContextSwitchesGauge, if_neg (by norm_num [getContextSwitches])]

/-- A /proc/stat without a `ctxt` line publishes 0 context switches over whatever the gauge
showed. -/
theorem updateContextSwitchesGauge_missing (text : List Char) (a : Agent)
    (h : findLabeled "ctxt" text = none) :
    updateContextSwitchesGauge (some text) a =
      { a with gauges := Function.update a.gauges .contextSwitches 0 } := by
  simp [updateContextSwitchesGauge, getContextSwitches_missing text h, setGauges]

theorem updateContextSwitchesGauge_missing_procs :
    (updateContextSwitchesGauge (some "ctxt 42\n".toList) .init).gauges .contextSwitches = 42 ∧
      findLabeled "ctxt" "procs_running 3\n".toList = none ∧
      updateContextSwitchesGauge (some "procs_running 3\n".toList)
          (updateContextSwitchesGauge (some "ctxt 42\n".toList) .init) =
        { updateContextSwitchesGauge (some "ctxt 42\n".toList) .init with
          gauges := Function.update (updateContextSwitchesGauge (some "ctxt 42\n".toList) .init).gauges
            .contextSwitches 0 } :=
  ⟨by decide, by decide, updateContextSwitchesGauge_missing _ _ (by decide)⟩

/-- The memory gauges describe one pair of total and available memory. -/
def MemoryConsistent (gauges : Gauge → ℚ) : Prop :=
  gauges .usedMemory = gauges .totalMemory - gauges .availableMemory ∧
    gauges .memoryUsage = 100 * gauges .usedMemory / gauges .totalMemory

theorem memoryConsistent_setGauges (gauges : Gauge → ℚ) (meminfo : Option (List Char))
    (fragmentation : ℚ) (hu : getMemoryUsage meminfo meminfo ≥ 0) :
    MemoryConsistent (setGauges gauges (memoryGauges (getMemoryUsage meminfo meminfo)
      (getMemoryTotal meminfo) (getMemoryUsed meminfo meminfo) (getMemoryFree meminfo) fragmentation)) := by
  simp only [getMemoryUsage, getMemoryUsed] at hu ⊢
  split_ifs at hu ⊢ with ht
  · simp only [MemoryConsistent, setGauges, memoryGauges, Function.update_apply, reduceCtorEq,
      if_true, if_false, true_and]
    ring
  · norm_num at hu

/-- When the six opens of one call see the same /proc/meminfo, the gauges the call sets are
consistent. -/
theorem updateMemoryGauge_same (meminfo : Option (List Char)) (fragmentation : ℚ) (a : Agent)
    (h : (updateMemoryGauge (.same meminfo) fragmentation a).1 = 0) :
    MemoryConsistent (updateMemoryGauge (.same meminfo) fragmentation a).2.gauges := by
  simp only [updateMemoryGauge, MeminfoReads.same] at h ⊢
  split_ifs at h ⊢ with hc
  · exact memoryConsistent_setGauges _ _ _ hc.1
  · cases h

theorem meminfo_sample_values :
    getMemoryTotal (some "MemTotal: 2048 kB\nMemAvailable: 1024 kB\n".toList) = 2 ∧
      getMemoryFree (some "MemTotal: 2048 kB\nMemAvailable: 1024 kB\n".toList) = 1 ∧
      getMemoryFree (some "MemTotal: 2048 kB\nMemAvailable: 512 kB\n".toList) = 1 / 2 := by
  simp only [getMemoryTotal, getMemoryFree]
  rw [meminfoValue_some _ _ (by decide), meminfoValue_some _ _ (by decide),
    meminfoValue_some _ _ (by decide), show (meminfoAux "MemTotal: %llu kB" _).toNat = 2048 by decide,
    show (meminfoAux "MemAvailable: %llu kB" _).toNat = 1024 by decide,
    show (meminfoAux "MemAvailable: %llu kB" _).toNat = 512 by decide]
  norm_num

theorem updateMemoryGauge_same_sample :
    (updateMemoryGauge (.same (some "MemTotal: 2048 kB\nMemAvailable: 1024 kB\n".toList)) 0 .init).1 = 0 ∧
      MemoryConsistent (updateMemoryGauge
        (.same (some "MemTotal: 2048 kB\nMemAvailable: 1024 kB\n".toList)) 0 .init).2.gauges :=
  have h0 : (updateMemoryGauge
      (.same (some "MemTotal: 2048 kB\nMemAvailable: 1024 kB\n".toList)) 0 .init).1 = 0 := by
    simp only [updateMemoryGauge, MeminfoReads.same, getMemoryUsage, getMemoryUsed,
      meminfo_sample_values.1, meminfo_sample_values.2.1]
    norm_num
  ⟨h0, updateMemoryGauge_same _ _ _ h0⟩

theorem updateMemoryGauge_sample (a : Agent) :
    updateMemoryGauge (.same (some "MemTotal: 2048 kB\nMemAvailable: 1024 kB\n".toList)) 0 a =
      (0, { a with gauges := setGauges a.gauges (memoryGauges 50 2 1 1 0) }) := by
  simp only [updateMemoryGauge, MeminfoReads.same, getMemoryUsage, getMemoryUsed,
    meminfo_sample_values.1, meminfo_sample_values.2.1]
  norm_num

def skewedReads : MeminfoReads :=
  let m := some "MemTotal: 2048 kB\nMemAvailable: 1024 kB\n".toList
  ⟨m, m, m, some "MemTotal: 2048 kB\nMemAvailable: 512 kB\n".toList, m, m⟩

/-- With reads that see different files the call still sets the gauges, and neither relation
holds: 1.5 MB used of 2 MB with 1 MB available, and a usage of 50. -/
theorem updateMemoryGauge_skewed :
    let gauges := (updateMemoryGauge skewedReads 0 .init).2.gauges
    (updateMemoryGauge skewedReads 0 .init).1 = 0 ∧
      gauges .usedMemory ≠ gauges .totalMemory - gauges .availableMemory ∧
      gauges .memoryUsage ≠ 100 * gauges .usedMemory / gauges .totalMemory := by
  obtain ⟨ht, hf, hf'⟩ := meminfo_sample_values
  have h2 : (2 : ℚ) > 0 := by norm_num
  simp only [updateMemoryGauge, skewedReads, getMemoryUsage, getMemoryUsed, ht, hf, hf', h2,
    ↓reduceIte]
  rw [if_pos (by norm_num)]
  simp only [setGauges, memoryGauges, Function.update_apply, reduceCtorEq, if_true, if_false,
    true_and]
  norm_num

/-- A memory call whose six opens see one /proc/meminfo; every other call qualifies. -/
def Call.ConsistentReads : Call → Prop
  | .memory reads _ => ∃ meminfo, reads = .same meminfo
  | _ => True

theorem init_memoryConsistent : MemoryConsistent Agent.init.gauges := by
  simp [MemoryConsistent, Agent.init]

theorem step_memoryConsistent (a a' : Agent) (c : Call) (hc : c.ConsistentReads)
    (ha : MemoryConsistent a.gauges) (h : a.step c = .ok a') : MemoryConsistent a'.gauges := by
  by_cases hs : c.sampler = .memory
  · cases c <;> simp only [Call.sampler, reduceCtorEq] at hs
    obtain ⟨meminfo, rfl⟩ := hc
    simp only [Agent.step, updateMemoryGauge, MeminfoReads.same, pure, Except.pure,
      Except.ok.injEq] at h
    subst h
    split_ifs with hu
    · exact memoryConsistent_setGauges _ _ _ hu.1
    · exact ha
  · have hframe := step_frame a a' c h
    simp only [MemoryConsistent, hframe .usedMemory fun e => hs e.symm,
      hframe .totalMemory fun e => hs e.symm, hframe .availableMemory fun e => hs e.symm,
      hframe .memoryUsage fun e => hs e.symm]
    exact ha

/-- Over every run whose memory calls each see one /proc/meminfo, the memory gauges stay
consistent. -/
theorem run_memoryConsistent (a a' : Agent) (calls : List Call)
    (hc : ∀ c ∈ calls, c.ConsistentReads) (ha : MemoryConsistent a.gauges)
    (h : a.run calls = .ok a') : MemoryConsistent a'.gauges :=
  run_preserves (fun a => MemoryConsistent a.gauges) _ step_memoryConsistent a a' calls hc ha h

theorem run_memoryConsistent_sample :
    ∃ a', Agent.init.run [.memory (.same (some "MemTotal: 2048 kB\nMemAvailable: 1024 kB\n".toList)) 0] =
        .ok a' ∧ a'.gauges .usedMemory = 1 ∧ MemoryConsistent a'.gauges :=
  ⟨(updateMemoryGauge (.same (some "MemTotal: 2048 kB\nMemAvailable: 1024 kB\n".toList)) 0 .init).2, rfl,
    by rw [updateMemoryGauge_sample]; rfl,
    run_memoryConsistent _ _ [.memory (.same (some "MemTotal: 2048 kB\nMemAvailable: 1024 kB\n".toList)) 0]
      (List.forall_mem_cons.mpr ⟨⟨_, rfl⟩, List.forall_mem_nil _⟩) init_memoryConsistent rfl⟩

end SistemaMonitoreo.Gauges
