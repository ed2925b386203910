import SistemaMonitoreo.Gauges

namespace SistemaMonitoreo.Main

open LibC Fifo Gauges

/-- A tree that `cJSON_Parse` returns. Object members keep their order and may repeat a key;
a number carries the `valueint` cJSON stores with it. -/
inductive Json
  | null
  | bool (b : Bool)
  | number (valueint : Int)
  | string (valuestring : List Char)
  | array (items : List Json)
  | object (members : List (List Char × Json))

/-- `metric->valuestring`: NULL unless the item is a string. -/
def Json.valuestring : Json → Option (List Char)
  | .string s => some s
  | _ => none

/-- `case_insensitive_strcmp (a, b) == 0`. -/
def caseInsensitiveEq (a b : List Char) : Bool := a.map Char.toLower == b.map Char.toLower

/-- `cJSON_GetObjectItem`: the first member whose key matches ignoring case, NULL on anything
that is not an object. -/
def getObjectItem : Json → List Char → Option Json
  | .object members, name => (members.find? fun m => caseInsensitiveEq m.1 name).map Prod.snd
  | _, _ => none

/-- `strdup`, which dereferences its argument. -/
def strdup : Option (List Char) → Except Fault (List Char)
  | none => .error .strdupNull
  | some s => .ok s

/-- The `Config` of globant.h; `metrics_count` is the length of `metrics`. -/
structure Config where
  samplingInterval : Int
  metrics : List (List Char)
  deriving DecidableEq

/-- `#define intervalo 10` -/
def intervalo : Int := 10

/-- `load_config` of src/main.c. `document` is what `cJSON_Parse` returns on the file's
content; `none` also covers a file that cannot be opened or read, which return the default as
a parse failure does. Every item of a `metrics` array goes through `strdup`. -/
def loadConfig (document : Option Json) : Except Fault Config :=
  let config : Config := ⟨intervalo, []⟩
  match document with
  | none => pure config
  | some json =>
    let config := match getObjectItem json "sampling_interval".toList with
      | some (.number valueint) => { config with samplingInterval := valueint }
      | _ => config
    match getObjectItem json "metrics".toList with
    | some (.array items) => do
      let metrics ← items.mapM fun metric => strdup metric.valuestring
      pure { config with metrics }
    | _ => pure config

/-- The metric names that `init_metrics` registers. -/
inductive Metric
  | cpuUsage
  | memoryUsage
  | diskUsage
  | networkUsage
  | runningProcesses
  | contextSwitches
  | fit (p : Policy)
  deriving DecidableEq, Repr

/-- The `strcmp` chain of the registration loop of `init_metrics`. -/
def metricOf (name : List Char) : Option Metric :=
  if name = "cpu_usage".toList then some .cpuUsage
  else if name = "memory_usage".toList then some .memoryUsage
  else if name = "disk_usage".toList then some .diskUsage
  else if name = "network_usage".toList then some .networkUsage
  else if name = "running_processes".toList then some .runningProcesses
  else if name = "context_switches".toList then some .contextSwitches
  else if name = "First_Fit".toList then some (.fit .firstFit)
  else if name = "Best_Fit".toList then some (.fit .bestFit)
  else if name = "Worst_Fit".toList then some (.fit .worstFit)
  else none

def fitRegistration (p : Policy) : List Gauge :=
  [.fit p .iteration, .fit p .time, .fit p .totalAllocated, .fit p .freedBlocks,
    .fit p .freeBlocks, .fit p .freeSize, .fit p .fragmentation, .fit p .externalFragmentation]

def Metric.sampler : Metric → Sampler
  | .cpuUsage => .cpu
  | .memoryUsage => .memory
  | .diskUsage => .disk
  | .networkUsage => .network
  | .runningProcesses => .process
  | .contextSwitches => .contextSwitches
  | .fit p => .fit p

/-- The sampler `update_metrics` calls for a metric: none for the policies. -/
def Metric.sampled : Metric → Option Sampler
  | .fit _ => none
  | m => some m.sampler

/-- The gauges one name passes to `prom_collector_registry_must_register_metric`, in order. -/
def Metric.registration : Metric → List Gauge
  | .cpuUsage => [.cpuUsage]
  | .memoryUsage =>
    [.memoryUsage, .totalMemory, .usedMemory, .availableMemory, .memoryFragmentation]
  | .diskUsage => [.diskReadTime, .diskWriteTime, .diskIoInProgress, .diskIoTime]
  | .networkUsage =>
    [.networkReceivedBytes, .networkTransmittedBytes, .networkReceivedErrors,
      .networkTransmittedErrors, .networkReceivedDropped, .networkTransmittedDropped]
  | .runningProcesses => [.runningProcesses]
  | .contextSwitches => [.contextSwitches]
  | .fit p => fitRegistration p

/-- The registrations `init_metrics` makes, in order, one group per configured name. -/
def initMetrics (config : Config) : List Gauge :=
  config.metrics.flatMap fun name => ((metricOf name).map Metric.registration).getD []

/-- The `strcmp` chain of `update_metrics` in src/main.c, which knows six names. -/
def samplerOf (name : List Char) : Option Sampler :=
  if name = "cpu_usage".toList then some .cpu
  else if name = "memory_usage".toList then some .memory
  else if name = "disk_usage".toList then some .disk
  else if name = "network_usage".toList then some .network
  else if name = "running_processes".toList then some .process
  else if name = "context_switches".toList then some .contextSwitches
  else none

/-- The sampler calls one pass of `update_metrics` makes, in order. -/
def updateMetrics (config : Config) : List Sampler := config.metrics.filterMap samplerOf

/-- A number in the metrics array makes `load_config` pass NULL to `strdup`; a name given
twice makes `init_metrics` register its gauge twice. -/
theorem loadConfig_number_duplicate :
    loadConfig (some (.object [("metrics".toList,
      .array [.string "cpu_usage".toList, .number 1])])) = .error .strdupNull ∧
    (loadConfig (some (.object [("metrics".toList,
      .array [.string "cpu_usage".toList, .string "cpu_usage".toList])]))).map initMetrics =
        .ok [.cpuUsage, .cpuUsage] :=
  ⟨rfl, rfl⟩

/-- The metrics array of a document, if any, holds only strings. -/
def MetricsAreStrings (json : Json) : Prop :=
  ∀ items, getObjectItem json "metrics".toList = some (.array items) →
    ∀ item ∈ items, item.valuestring.isSome

theorem mapM_strdup (items : List Json) :
    items.mapM (fun metric => strdup metric.valuestring) =
      if ∀ item ∈ items, item.valuestring.isSome then .ok (items.filterMap Json.valuestring)
      else .error .strdupNull := by
  induction items with
  | nil => rfl
  | cons item items ih =>
    rw [List.mapM_cons, ih]
    cases item with
    | string s =>
      simp only [Json.valuestring, strdup, List.forall_mem_cons, Option.isSome_some, true_and,
        List.filterMap_cons]
      split_ifs <;> rfl
    | _ => rfl

/-- `load_config` returns a configuration exactly when the metrics array it reads holds only
strings. -/
theorem loadConfig_ok_iff (json : Json) :
    (∃ config, loadConfig (some json) = .ok config) ↔ MetricsAreStrings json := by
  simp only [loadConfig, MetricsAreStrings]
  split
  · next items h =>
    simp only [bind, Except.bind, mapM_strdup, h, Option.some.injEq, Json.array.injEq,
      forall_eq']
    split_ifs with hs
    · exact ⟨fun _ => hs, fun _ => ⟨_, rfl⟩⟩
    · exact ⟨fun ⟨_, e⟩ => (nomatch e), fun h => absurd h hs⟩
  · next h =>
    exact ⟨fun _ items e => absurd e (h items), fun _ => ⟨_, rfl⟩⟩

theorem initMetrics_eq (config : Config) :
    initMetrics config = (config.metrics.filterMap metricOf).flatMap Metric.registration := by
  unfold initMetrics
  induction config.metrics with
  | nil => rfl
  | cons name names ih =>
    cases h : metricOf name <;> simp [List.filterMap_cons, h, ih]

theorem Metric.owner_of_mem (m : Metric) : ∀ g ∈ m.registration, g.owner = m.sampler := by
  cases m with
  | fit p =>
    intro g hg
    simp only [Metric.registration, fitRegistration, List.mem_cons, List.mem_nil_iff, or_false] at hg
    rcases hg with rfl | rfl | rfl | rfl | rfl | rfl | rfl | rfl <;> rfl
  | _ => decide

def Metric.ofSampler : Sampler → Metric
  | .cpu => .cpuUsage
  | .memory => .memoryUsage
  | .disk => .diskUsage
  | .network => .networkUsage
  | .process => .runningProcesses
  | .contextSwitches => .contextSwitches
  | .fit p => .fit p

theorem Metric.ofSampler_sampler (m : Metric) : Metric.ofSampler m.sampler = m := by
  cases m <;> rfl

theorem Metric.sampler_injective : Function.Injective Metric.sampler := fun m m' h => by
  rw [← Metric.ofSampler_sampler m, h, Metric.ofSampler_sampler]

theorem Metric.mem_registration (m : Metric) (g : Gauge) (hg : g.owner = m.sampler) :
    g ∈ m.registration := by
  obtain rfl : m = Metric.ofSampler g.owner := by rw [hg, Metric.ofSampler_sampler]
  cases g with
  | fit p fg =>
    simp only [Gauge.owner, Metric.ofSampler, Metric.registration, fitRegistration]
    cases fg <;> simp only [List.mem_cons, true_or, or_true]
  | _ => simp only [Gauge.owner, Metric.ofSampler, Metric.registration, List.mem_cons, true_or, or_true]

theorem Metric.registration_nodup (m : Metric) : m.registration.Nodup := by
  cases m with
  | fit p => simp [Metric.registration, fitRegistration]
  | _ => decide

theorem Metric.registration_ne_nil (m : Metric) : m.registration ≠ [] := by
  cases m <;> simp [Metric.registration, fitRegistration]

/-- `init_metrics` registers no gauge twice exactly when no known name is configured twice. -/
theorem initMetrics_nodup_iff (config : Config) :
    (initMetrics config).Nodup ↔ (config.metrics.filterMap metricOf).Nodup := by
  have hdisj : ∀ m m' : Metric, m.registration.Disjoint m'.registration ↔ m ≠ m' := by
    intro m m'
    constructor
    · rintro hd rfl
      obtain ⟨g, hg⟩ := List.exists_mem_of_ne_nil m.registration m.registration_ne_nil
      exact hd hg hg
    · intro hne g hg hg'
      exact hne (Metric.sampler_injective ((Metric.owner_of_mem _ _ hg).symm.trans (Metric.owner_of_mem _ _ hg')))
  rw [initMetrics_eq, List.nodup_flatMap]
  simp only [Metric.registration_nodup, implies_true, true_and, Function.onFun]
  exact List.Pairwise.iff hdisj

theorem samplerOf_eq (name : List Char) : samplerOf name = (metricOf name).bind Metric.sampled := by
  unfold samplerOf metricOf
  simp only [apply_ite (Option.bind · Metric.sampled)]
  simp only [Option.some_bind, Option.none_bind, Metric.sampled, Metric.sampler, ite_self]

theorem updateMetrics_eq (config : Config) :
    updateMetrics config = (config.metrics.filterMap metricOf).filterMap Metric.sampled := by
  rw [updateMetrics, List.filterMap_filterMap]
  exact congrArg (List.filterMap · config.metrics) (funext samplerOf_eq)

theorem updateMetrics_registered (config : Config) (s : Sampler) (hs : s ∈ updateMetrics config)
    (g : Gauge) (hg : g.owner = s) : g ∈ initMetrics config := by
  rw [updateMetrics_eq, List.mem_filterMap] at hs
  obtain ⟨m, hm, hms⟩ := hs
  have hsampler : m.sampler = s := by
    cases m <;> simp only [Metric.sampled, Option.some.injEq, reduceCtorEq] at hms <;> exact hms
  rw [initMetrics_eq, List.mem_flatMap]
  exact ⟨m, hm, Metric.mem_registration m g (hg.trans hsampler.symm)⟩

theorem fit_not_mem_updateMetrics (config : Config) (p : Policy) :
    Sampler.fit p ∉ updateMetrics config := by
  rw [updateMetrics_eq, List.mem_filterMap]
  rintro ⟨m, -, hm⟩
  cases m <;> simp [Metric.sampled, Metric.sampler] at hm

/-- Over every run of the loop of `main` (any number of passes of `update_metrics`, cut anywhere),
a gauge that `init_metrics` did not register keeps its value. -/
theorem mainLoop_unregistered (config : Config) (a a' : Agent) (calls : List Call)
    (hcalls : ∀ c ∈ calls, c.sampler ∈ updateMetrics config) (h : a.run calls = .ok a') :
    ∀ g ∉ initMetrics config, a'.gauges g = a.gauges g := by
  intro g hg
  refine run_frame a a' calls h g fun hm => hg ?_
  obtain ⟨c, hc, e⟩ := List.mem_map.mp hm
  exact updateMetrics_registered config g.owner (e ▸ hcalls c hc) g rfl

theorem mainLoop_unregistered_sample :
    ∃ a', Agent.init.run [.cpu (some "cpu  1 2 3 4 5 6 7 8\n".toList),
        .disk (some "   8       0 sda 0 1 2 3 4 5 6 7 8 9 10\n".toList)] = .ok a' ∧
      a'.gauges .diskReadTime = 1 ∧
      ∀ g ∉ initMetrics ⟨10, ["cpu_usage".toList, "disk_usage".toList]⟩, a'.gauges g = Agent.init.gauges g :=
  ⟨_, rfl, by decide, mainLoop_unregistered ⟨10, ["cpu_usage".toList, "disk_usage".toList]⟩ _ _
    [.cpu (some "cpu  1 2 3 4 5 6 7 8\n".toList),
      .disk (some "   8       0 sda 0 1 2 3 4 5 6 7 8 9 10\n".toList)] (by decide) rfl⟩

/-- The loop of src/main.c never calls a policy sampler: over every run of it from the start,
the 24 policy gauges stay at 0, registered or not. -/
theorem mainLoop_fit_gauges (config : Config) (a' : Agent) (calls : List Call)
    (hcalls : ∀ c ∈ calls, c.sampler ∈ updateMetrics config) (h : Agent.init.run calls = .ok a') :
    ∀ p fg, a'.gauges (.fit p fg) = 0 := by
  intro p fg
  refine run_frame _ a' calls h _ fun hm => ?_
  obtain ⟨c, hc, e⟩ := List.mem_map.mp hm
  have e : c.sampler = .fit p := e
  exact fit_not_mem_updateMetrics config p (e ▸ hcalls c hc)

theorem mainLoop_fit_gauges_sample :
    ∃ a', Agent.init.run [.cpu (some "cpu  1 2 3 4 5 6 7 8\n".toList),
        .disk (some "   8       0 sda 0 1 2 3 4 5 6 7 8 9 10\n".toList)] = .ok a' ∧
      a'.gauges .diskReadTime = 1 ∧ ∀ p fg, a'.gauges (.fit p fg) = 0 :=
  ⟨_, rfl, by decide, mainLoop_fit_gauges ⟨10, ["cpu_usage".toList, "disk_usage".toList, "First_Fit".toList]⟩
    _ [.cpu (some "cpu  1 2 3 4 5 6 7 8\n".toList),
      .disk (some "   8       0 sda 0 1 2 3 4 5 6 7 8 9 10\n".toList)] (by decide) rfl⟩

end SistemaMonitoreo.Main
