import SistemaMonitoreo.Main

namespace SistemaMonitoreo.LaterMain

open LibC Fifo Gauges

/-- The `Config` that the later `load_config` fills: `calloc` leaves NULL the entry of every
item that is not a string. -/
structure Config where
  samplingInterval : Int
  metrics : List (Option (List Char))
  deriving DecidableEq

def isString : Main.Json → Bool
  | .string _ => true
  | _ => false

/-- `load_config` of the later main.c: the default interval is 1, and an item that is not a
string is skipped, its entry left NULL. -/
def loadConfig : Option Main.Json → Config
  | none => ⟨1, []⟩
  | some json =>
    let samplingInterval := match Main.getObjectItem json "sampling_interval".toList with
      | some (.number valueint) => valueint
      | _ => 1
    let metrics := match Main.getObjectItem json "metrics".toList with
      | some (.array items) =>
        items.map fun metric => if isString metric then metric.valuestring else none
      | _ => []
    ⟨samplingInterval, metrics⟩

/-- `config.metrics[i]` as a `strcmp` chain reads it: the first comparison dereferences it. -/
def metricName : Option (List Char) → Except Fault (List Char)
  | none => .error .strcmpNull
  | some name => .ok name

/-- The registration loop of `init_metrics` over a configuration whose entries may be NULL. -/
def initMetrics (config : Config) : Except Fault (List Gauge) := do
  let groups ← config.metrics.mapM fun entry => do
    let name ← metricName entry
    pure (((Main.metricOf name).map Main.Metric.registration).getD [])
  pure groups.flatten

/-- The `strcmp` chain of the later `update_metrics`, which also knows the three policies. -/
def samplerOf (name : List Char) : Option Sampler :=
  if name = "cpu_usage".toList then some .cpu
  else if name = "memory_usage".toList then some .memory
  else if name = "disk_usage".toList then some .disk
  else if name = "network_usage".toList then some .network
  else if name = "running_processes".toList then some .process
  else if name = "context_switches".toList then some .contextSwitches
  else if name = "First_Fit".toList then some (.fit .firstFit)
  else if name = "Best_Fit".toList then some (.fit .bestFit)
  else if name = "Worst_Fit".toList then some (.fit .worstFit)
  else none

/-- The sampler calls one pass of the later `update_metrics` makes, in order. -/
def updateMetrics (config : Config) : Except Fault (List Sampler) := do
  let calls ← config.metrics.mapM fun entry => do
    let name ← metricName entry
    pure (samplerOf name)
  pure (calls.filterMap id)

theorem mapM_metricName {β : Type} (f : List Char → β) (entries : List (Option (List Char))) :
    entries.mapM (fun entry => do let name ← metricName entry; pure (f name)) =
      if ∀ e ∈ entries, e.isSome then .ok ((entries.filterMap id).map f) else .error .strcmpNull := by
  induction entries with
  | nil => rfl
  | cons entry entries ih =>
    rw [List.mapM_cons, ih]
    cases entry with
    | none => rfl
    | some name =>
      simp only [metricName, List.forall_mem_cons, Option.isSome_some, true_and,
        List.filterMap_cons_some, List.map_cons]
      split_ifs <;> rfl

theorem loadConfig_metrics (json : Main.Json) (items : List Main.Json)
    (h : Main.getObjectItem json "metrics".toList = some (.array items)) :
    (loadConfig (some json)).metrics = items.map Main.Json.valuestring := by
  simp only [loadConfig, h]
  refine List.map_congr_left fun item _ => ?_
  cases item <;> rfl

theorem loadConfig_metrics_nil (json : Main.Json)
    (h : ∀ items, Main.getObjectItem json "metrics".toList ≠ some (.array items)) :
    (loadConfig (some json)).metrics = [] := by
  dsimp only [loadConfig]
  split
  · next items e => exact absurd e (h items)
  · rfl

theorem initMetrics_ok_iff (config : Config) :
    (∃ registered, initMetrics config = .ok registered) ↔ ∀ e ∈ config.metrics, e.isSome := by
  rw [initMetrics, mapM_metricName]
  split_ifs with hs
  · exact ⟨fun _ => hs, fun _ => ⟨_, rfl⟩⟩
  · exact ⟨fun ⟨_, e⟩ => (nomatch e), fun h => absurd h hs⟩

/-- The later `load_config` no longer faults on an item that is not a string, but the entry it
leaves NULL makes `init_metrics` fault: the documents the later program starts on are exactly
those whose metrics array holds only strings, as for src/main.c. -/
theorem initMetrics_loadConfig_ok_iff (json : Main.Json) :
    (∃ registered, initMetrics (loadConfig (some json)) = .ok registered) ↔
      Main.MetricsAreStrings json := by
  rw [initMetrics_ok_iff, Main.MetricsAreStrings]
  by_cases hm : ∃ items, Main.getObjectItem json "metrics".toList = some (.array items)
  · obtain ⟨items, h⟩ := hm
    rw [loadConfig_metrics json items h, h]
    simp only [List.forall_mem_map, Option.some.injEq, Main.Json.array.injEq, forall_eq']
  · push_neg at hm
    rw [loadConfig_metrics_nil json hm]
    exact ⟨fun _ items e => absurd e (hm items), fun _ e he => absurd he (List.not_mem_nil e)⟩

example : initMetrics (loadConfig (some (.object [("metrics".toList,
    .array [.string "cpu_usage".toList, .number 1])]))) = .error .strcmpNull := rfl

theorem initMetrics_some (samplingInterval samplingInterval' : Int) (names : List (List Char)) :
    initMetrics ⟨samplingInterval, names.map some⟩ = .ok (Main.initMetrics ⟨samplingInterval', names⟩) := by
  rw [initMetrics, mapM_metricName, if_pos fun e he => by
    obtain ⟨name, -, rfl⟩ := List.mem_map.mp he
    rfl]
  simp only [List.filterMap_map, Function.comp_def, id, List.filterMap_some, Main.initMetrics,
    List.flatMap]
  rfl

theorem samplerOf_eq (name : List Char) : samplerOf name = (Main.metricOf name).map Main.Metric.sampler := by
  unfold samplerOf Main.metricOf
  simp only [apply_ite (Option.map Main.Metric.sampler), Option.map_some', Option.map_none',
    Main.Metric.sampler]

theorem updateMetrics_some (samplingInterval : Int) (names : List (List Char)) :
    updateMetrics ⟨samplingInterval, names.map some⟩ =
      .ok ((names.filterMap Main.metricOf).map Main.Metric.sampler) := by
  rw [updateMetrics, mapM_metricName, if_pos fun e he => by
    obtain ⟨name, -, rfl⟩ := List.mem_map.mp he
    rfl]
  simp only [bind, Except.bind, pure, Except.pure, List.filterMap_map, Function.comp_def, id,
    List.filterMap_some, List.map_filterMap, samplerOf_eq]

/-- In the later program registration and sampling agree: on a configuration of names,
`init_metrics` and `update_metrics` go through, and a gauge is registered exactly when every pass
calls its sampler, the policies' gauges included. -/
theorem registered_iff_sampled (samplingInterval : Int) (names : List (List Char)) :
    ∃ registered pass, initMetrics ⟨samplingInterval, names.map some⟩ = .ok registered ∧
      updateMetrics ⟨samplingInterval, names.map some⟩ = .ok pass ∧
      ∀ g, g ∈ registered ↔ g.owner ∈ pass := by
  refine ⟨_, _, initMetrics_some _ samplingInterval names, updateMetrics_some _ _, fun g => ?_⟩
  rw [Main.initMetrics_eq, List.mem_flatMap, List.mem_map]
  exact ⟨fun ⟨m, hm, hg⟩ => ⟨m, hm, (Main.Metric.owner_of_mem m g hg).symm⟩,
    fun ⟨m, hm, hg⟩ => ⟨m, hm, Main.Metric.mem_registration m g hg.symm⟩⟩

end SistemaMonitoreo.LaterMain
