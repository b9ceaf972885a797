import GpuFractioning.Fractiond.Flags
import GpuFractioning.Lib.Fallible
import GpuFractioning.Metricsd.CgroupAttribution
import GpuFractioning.Metricsd.Engine

/-!
# The start of metricsd

`fractioning-manager/metricsd/cmd` and `New` of `internal/metrics/exporter.go`: from the
command line to an exporter that is ready to serve. The registry of the metrics and the
multiplexer of the HTTP server panic on what they refuse. What they accept is input, and so
is which handler a request comes to and who reaches the listener.
-/

namespace GpuFractioning.Metricsd.Startup

open Fallible

section CommandLine

def defaultAddress : String := ":2112"
def defaultPath : String := "/metrics"
def healthzPath : String := "/healthz"
def readyzPath : String := "/readyz"

/-- Nanoseconds. -/
def minCollectInterval : ℤ := 2 * 10 ^ 9

/-- Nanoseconds. -/
def defaultCollectInterval : ℤ := 5 * 10 ^ 9

structure MetricNames where
  gpuMemoryUsedBytes : String
  gpuSMUtilizationPercent : String
  gpuSMUtilizationPercentNormalized : String
  deriving DecidableEq, Repr

/-- `cliFlags`, with durations in nanoseconds. -/
structure CliFlags where
  mapDir : String
  logLevel : String
  metricsEnabled : Bool
  address : String
  path : String
  procRoot : String
  interval : ℤ
  smUtilWindow : ℤ
  metricNames : MetricNames
  deriving DecidableEq, Repr

/-- The values of the flags that are not passed. -/
def defaultFlags (getenv : Getenv) : CliFlags :=
  { mapDir := envString getenv "MAP_DIR" Fractiond.defaultMapDir
    logLevel := envString getenv "LOG_LEVEL" "info"
    metricsEnabled := envBool getenv "METRICS_ENABLED" true
    address := envString getenv "METRICS_ADDRESS" defaultAddress
    path := envString getenv "METRICS_PATH" defaultPath
    procRoot := envString getenv "PROC_ROOT" defaultProcRoot
    interval := envDuration getenv "METRICS_INTERVAL" defaultCollectInterval
    smUtilWindow := envDuration getenv "SM_UTIL_WINDOW" 0
    metricNames :=
      { gpuMemoryUsedBytes := envString getenv "METRIC_NAME_GPU_MEMORY_USED_BYTES" ""
        gpuSMUtilizationPercent :=
          envString getenv "METRIC_NAME_GPU_SM_UTILIZATION_PERCENT" ""
        gpuSMUtilizationPercentNormalized :=
          envString getenv "METRIC_NAME_GPU_SM_UTILIZATION_PERCENT_NORMALIZED" "" } }

/-- The variables that the defaults are read from. -/
def environmentKeys : List String :=
  ["MAP_DIR", "LOG_LEVEL", "METRICS_ENABLED", "METRICS_ADDRESS", "METRICS_PATH", "PROC_ROOT",
    "METRICS_INTERVAL", "SM_UTIL_WINDOW", "METRIC_NAME_GPU_MEMORY_USED_BYTES",
    "METRIC_NAME_GPU_SM_UTILIZATION_PERCENT",
    "METRIC_NAME_GPU_SM_UTILIZATION_PERCENT_NORMALIZED"]

theorem defaultFlags_of_unset {getenv : Getenv} (h : ∀ key ∈ environmentKeys, getenv key = "") :
    defaultFlags getenv = defaultFlags fun _ => "" := by
  simp only [environmentKeys, List.forall_mem_cons, List.not_mem_nil, false_implies,
    implies_true, and_true] at h
  obtain ⟨hmap, hlevel, henabled, haddress, hpath, hproc, hinterval, hwindow, hmemory,
    hutilization, hnormalized⟩ := h
  simp only [defaultFlags, envString, envBool, envDuration, hmap, hlevel, henabled, haddress,
    hpath, hproc, hinterval, hwindow, hmemory, hutilization, hnormalized]

def flagSet : List (GoFlag.Flag CliFlags) :=
  [.stringVar "map-dir" fun v f => { f with mapDir := v },
    .stringVar "log-level" fun v f => { f with logLevel := v },
    .boolVar "metrics-enabled" fun v f => { f with metricsEnabled := v },
    .stringVar "metrics-address" fun v f => { f with address := v },
    .stringVar "metrics-path" fun v f => { f with path := v },
    .stringVar "proc-root" fun v f => { f with procRoot := v },
    .durationVar "metrics-interval" fun v f => { f with interval := v },
    .durationVar "sm-util-window" fun v f => { f with smUtilWindow := v },
    .stringVar "metric-name-gpu-memory-used-bytes" fun v f =>
      { f with metricNames := { f.metricNames with gpuMemoryUsedBytes := v } },
    .stringVar "metric-name-gpu-sm-utilization-percent" fun v f =>
      { f with metricNames := { f.metricNames with gpuSMUtilizationPercent := v } },
    .stringVar "metric-name-gpu-sm-utilization-percent-normalized" fun v f =>
      { f with metricNames := { f.metricNames with gpuSMUtilizationPercentNormalized := v } }]

/-- `parseFlags`; on an error the process exits. -/
def parseFlags (getenv : Getenv) (args : List String) : Except GoFlag.ParseError CliFlags :=
  (GoFlag.parse flagSet args (defaultFlags getenv)).map Prod.fst

end CommandLine

section Names

def defaultMetricNames : MetricNames :=
  { gpuMemoryUsedBytes := "gpu_fractioning_gpu_memory_used_bytes"
    gpuSMUtilizationPercent := "gpu_fractioning_gpu_sm_utilization_percent"
    gpuSMUtilizationPercentNormalized :=
      "gpu_fractioning_gpu_sm_utilization_percent_normalized" }

/-- A blank name is one that is not set. -/
def nameOr (fallback name : String) : String :=
  if GoString.trimSpace name = "" then fallback else name

/-- `metricNamePattern`: `^[a-zA-Z_:][a-zA-Z0-9_:]*$`. -/
def matchesMetricName (name : String) : Bool :=
  match name.toList with
  | [] => false
  | first :: rest =>
    (first.isAlpha || first = '_' || first = ':') &&
      rest.all fun c => c.isAlphanum || c = '_' || c = ':'

/-- The loop of `validate`, with the names it has seen and the fields they are from. -/
def validateFields : List (String × String) → FiniteMap String String → Except String Unit
  | [], _ => .ok ()
  | (key, name) :: fields, seen =>
    if matchesMetricName name = false then
      .error ("metric name " ++ key ++ "=" ++ GoText.quote name ++
        " is not a valid Prometheus metric name")
    else
      match seen.lookup name with
      | some other =>
        .error ("metric name " ++ key ++ "=" ++ GoText.quote name ++ " duplicates " ++ other ++
          "; each exported metric must have a unique name")
      | none => validateFields fields (seen.insert name key)

namespace MetricNames

def withDefaults (n : MetricNames) : MetricNames :=
  let d := defaultMetricNames
  { gpuMemoryUsedBytes := nameOr d.gpuMemoryUsedBytes n.gpuMemoryUsedBytes
    gpuSMUtilizationPercent := nameOr d.gpuSMUtilizationPercent n.gpuSMUtilizationPercent
    gpuSMUtilizationPercentNormalized :=
      nameOr d.gpuSMUtilizationPercentNormalized n.gpuSMUtilizationPercentNormalized }

/-- The names under the keys that the errors give them. -/
def fields (n : MetricNames) : List (String × String) :=
  [("gpuMemoryUsedBytes", n.gpuMemoryUsedBytes),
    ("gpuSmUtilizationPercent", n.gpuSMUtilizationPercent),
    ("gpuSmUtilizationPercentNormalized", n.gpuSMUtilizationPercentNormalized)]

def validate (n : MetricNames) : Except String Unit := validateFields n.fields ∅

/-- The names that are exported. -/
def exported (n : MetricNames) : List String := n.fields.map Prod.snd

end MetricNames

end Names

section Exporter

structure Config where
  address : String
  path : String
  procRoot : String
  interval : ℤ
  smUtilizationWindow : ℤ
  names : MetricNames
  deriving DecidableEq, Repr

def Config.metricsPath (c : Config) : String :=
  let path := GoString.trimSpace c.path
  if path = "" then defaultPath
  else if GoString.hasPrefix path "/" then path
  else "/" ++ path

def Config.collectInterval (c : Config) : ℤ :=
  if c.interval ≤ 0 then defaultCollectInterval
  else if c.interval < minCollectInterval then minCollectInterval
  else c.interval

/-- What the libraries and the network do. -/
structure Platform where
  /-- The names that the registry takes. -/
  validName : String → Bool
  /-- What a pattern of the multiplexer matches, if it is one. -/
  readPattern : String → Option String
  /-- The pattern whose handler answers a GET of a path. A redirection is no answer. -/
  route : List String → String → Option String
  /-- The port that an address names. -/
  lookupPort : String → Option ℤ
  /-- Whether a listener on a host is reached at the address of the pod. -/
  reachesPod : String → Bool

/-- `New` returns an error or panics. -/
inductive Failure where
  | error (message : String)
  | panic
  deriving DecidableEq, Repr

inductive Handler where
  | metrics
  | health
  deriving DecidableEq, Repr

abbrev Mux := List (String × Handler)

/-- `Runtime` as `New` returns it, with the directory that its reader lists. -/
structure Exporter where
  mapDir : String
  resolver : ProcCgroupResolver
  interval : ℤ
  engine : Engine
  registered : List String
  routes : Mux
  address : String

variable (p : Platform)

def mustRegister (names : List String) : Except Failure (List String) :=
  collectDistinct (fun name => require (p.validName name) .panic) id (fun _ => .panic) names

/-- `mux.Handle`. Two patterns that match the same requests conflict. -/
def Mux.handle (mux : Mux) (pattern : String) (handler : Handler) : Except Failure Mux := do
  require ((p.readPattern pattern).isSome &&
    mux.all fun route => p.readPattern route.1 ≠ p.readPattern pattern) .panic
  pure (mux ++ [(pattern, handler)])

/-- A health path is not registered where it is the path of the metrics. -/
def Mux.handleHealth (mux : Mux) (metricsPath path : String) : Except Failure Mux :=
  if metricsPath ≠ path then mux.handle p path .health else .ok mux

/-- The multiplexer of `New`. -/
def serveMux (metricsPath : String) : Except Failure Mux := do
  let mux ← Mux.handle p [] metricsPath .metrics
  let mux ← mux.handleHealth p metricsPath healthzPath
  mux.handleHealth p metricsPath readyzPath

/-- `New`, for a reader of this directory. -/
def new (cfg : Config) (reader : Option String) : Except Failure Exporter := do
  cfg.names.validate.mapError fun err => .error ("configure metric names: " ++ err)
  let mapDir ← match reader with
    | none => .error (.error "metrics requires an NRI container store")
    | some dir => .ok dir
  let registered ← mustRegister p cfg.names.exported
  let mux ← serveMux p cfg.metricsPath
  pure
    { mapDir := mapDir
      resolver := newProcCgroupResolver cfg.procRoot
      interval := cfg.collectInterval
      engine := newMetricsController cfg.collectInterval cfg.smUtilizationWindow
      registered := registered
      routes := mux
      address := cfg.address }

def CliFlags.config (f : CliFlags) : Config :=
  { address := f.address
    path := f.path
    procRoot := f.procRoot
    interval := f.interval
    smUtilizationWindow := f.smUtilWindow
    names := f.metricNames.withDefaults }

/-- `main` up to the start of the exporter, which a disabled one does not have. -/
def start (f : CliFlags) : Except Failure (Option Exporter) :=
  if f.metricsEnabled = false then .ok none else (new p f.config (some f.mapDir)).map some

/-- The handler that answers a GET of a path. -/
def Exporter.answer (e : Exporter) (path : String) : Option Handler :=
  (p.route (e.routes.map Prod.fst) path).bind fun pattern => e.routes.lookup pattern

end Exporter

section Start

/-- What `validate` asks of the names. -/
structure MetricNames.Valid (n : MetricNames) : Prop where
  matchesPattern : ∀ name ∈ n.exported, matchesMetricName name = true
  nodup : n.exported.Nodup

instance (n : MetricNames) : Decidable n.Valid :=
  decidable_of_iff ((∀ name ∈ n.exported, matchesMetricName name = true) ∧ n.exported.Nodup)
    ⟨fun h => ⟨h.1, h.2⟩, fun h => ⟨h.1, h.2⟩⟩

theorem validateFields_eq_ok_iff (fields : List (String × String))
    (seen : FiniteMap String String) :
    validateFields fields seen = .ok () ↔
      (∀ name ∈ fields.map Prod.snd, matchesMetricName name = true ∧ seen.lookup name = none) ∧
        (fields.map Prod.snd).Nodup := by
  induction fields generalizing seen with
  | nil => simp [validateFields]
  | cons field fields ih =>
    obtain ⟨key, name⟩ := field
    rw [validateFields, List.map_cons, List.forall_mem_cons, List.nodup_cons]
    by_cases hname : matchesMetricName name = false
    · simp [hname]
    · rw [Bool.not_eq_false] at hname
      cases hseen : seen.lookup name with
      | some other => simp [hname]
      | none =>
        have hlater (other : String) : (seen.insert name key).lookup other = none ↔
            other ≠ name ∧ seen.lookup other = none := by
          rw [FiniteMap.lookup_insert]
          by_cases hother : other = name <;> simp [hother]
        simp only [hname, Bool.true_eq_false, if_false, ih, hlater, true_and]
        constructor
        · rintro ⟨hnames, hnodup⟩
          refine ⟨fun other hother => ⟨(hnames other hother).1, (hnames other hother).2.2⟩,
            fun hmem => (hnames name hmem).2.1 rfl, hnodup⟩
        · rintro ⟨hnames, hnotMem, hnodup⟩
          refine ⟨fun other hother => ⟨(hnames other hother).1, ?_, (hnames other hother).2⟩,
            hnodup⟩
          rintro rfl
          exact hnotMem hother

theorem MetricNames.validate_eq_ok_iff (n : MetricNames) : n.validate = .ok () ↔ n.Valid := by
  rw [validate, validateFields_eq_ok_iff]
  constructor
  · rintro ⟨hnames, hnodup⟩
    exact ⟨fun name hname => (hnames name hname).1, hnodup⟩
  · rintro ⟨hnames, hnodup⟩
    exact ⟨fun name hname => ⟨hnames name hname, AList.lookup_empty name⟩, hnodup⟩

/-- A path without wildcards, escapes and anything that cleaning would change. -/
def PlainPath (path : String) : Prop :=
  ∃ segments : List String, segments ≠ [] ∧
    (∀ segment ∈ segments, segment ≠ "" ∧
      ∀ c ∈ segment.toList, (c.isAlphanum || c = '-' || c = '_') = true) ∧
    path = String.join (segments.map fun segment => "/" ++ segment)

theorem plainPath_of_mem {path : String} (hpath : path ∈ [healthzPath, readyzPath]) :
    PlainPath path := by
  simp only [List.mem_cons, List.not_mem_nil, or_false] at hpath
  rcases hpath with rfl | rfl
  · exact ⟨["healthz"], by simp, by simp, by decide⟩
  · exact ⟨["readyz"], by simp, by simp, by decide⟩

/-- What is documented: the registry takes the names of Prometheus; a plain path is a pattern
for itself and for nothing else; a port that is a number is that port; and without a host the
listener is on every address. -/
structure Platform.Lawful (p : Platform) : Prop where
  names : ∀ name, matchesMetricName name = true → p.validName name = true
  plain : ∀ path, PlainPath path → p.readPattern path = some path
  answered : ∀ patterns path, (patterns.map p.readPattern).Nodup → PlainPath path →
    path ∈ patterns → p.route patterns path = some path
  exact : ∀ patterns path pattern, PlainPath pattern → p.route patterns path = some pattern →
    path = pattern
  numbers : ∀ service port, GoStrconv.parseInt service = some port → 0 < port → port ≤ 65535 →
    p.lookupPort service = some port
  everywhere : p.reachesPod "" = true

/-- The multiplexer can tell the path from the health paths that are not the same text. -/
def Platform.Serves (p : Platform) (path : String) : Prop :=
  (p.readPattern path).isSome = true ∧
    ∀ health ∈ [healthzPath, readyzPath], path ≠ health → p.readPattern path ≠ some health

/-- The route of a health path beside that of the metrics. -/
def healthRoute (metricsPath path : String) : Mux :=
  if metricsPath ≠ path then [(path, .health)] else []

/-- The routes of an exporter with this path. -/
def routes (metricsPath : String) : Mux :=
  [(metricsPath, .metrics)] ++ healthRoute metricsPath healthzPath ++
    healthRoute metricsPath readyzPath

/-- What `New` builds where it succeeds. -/
def Config.exporter (cfg : Config) (mapDir : String) : Exporter :=
  { mapDir := mapDir
    resolver := newProcCgroupResolver cfg.procRoot
    interval := cfg.collectInterval
    engine := newMetricsController cfg.collectInterval cfg.smUtilizationWindow
    registered := cfg.names.exported
    routes := routes cfg.metricsPath
    address := cfg.address }

variable {p : Platform}

theorem mustRegister_of_valid (hp : p.Lawful) {n : MetricNames} (hn : n.Valid) :
    mustRegister p n.exported = .ok n.exported := by
  rw [mustRegister, collectDistinct_eq_ok_iff, List.map_id]
  refine ⟨?_, hn.nodup, rfl⟩
  intro name hname
  rw [require_eq_ok_iff]
  exact hp.names name (hn.matchesPattern name hname)

theorem Mux.handle_eq_ok_iff {mux mux' : Mux} {pattern : String} {handler : Handler} :
    mux.handle p pattern handler = .ok mux' ↔
      (p.readPattern pattern).isSome = true ∧
        (∀ route ∈ mux, p.readPattern route.1 ≠ p.readPattern pattern) ∧
        mux' = mux ++ [(pattern, handler)] := by
  simp only [handle, bind_eq_ok_iff, require_eq_ok_iff, pure_eq_ok_iff, Bool.and_eq_true,
    List.all_eq_true, decide_eq_true_eq]
  constructor
  · rintro ⟨-, ⟨hsome, hnew⟩, rfl⟩
    exact ⟨hsome, hnew, rfl⟩
  · rintro ⟨hsome, hnew, rfl⟩
    exact ⟨(), ⟨hsome, hnew⟩, rfl⟩

theorem Mux.handleHealth_eq_ok_iff {mux mux' : Mux} {metricsPath path : String}
    (hpath : p.readPattern path = some path) :
    mux.handleHealth p metricsPath path = .ok mux' ↔
      (metricsPath ≠ path → ∀ route ∈ mux, p.readPattern route.1 ≠ some path) ∧
        mux' = mux ++ healthRoute metricsPath path := by
  unfold handleHealth healthRoute
  by_cases hsame : metricsPath = path
  · simp [hsame, eq_comm]
  · simp [hsame, handle_eq_ok_iff, hpath]

theorem serveMux_eq_ok_iff (hp : p.Lawful) {metricsPath : String} {mux : Mux} :
    serveMux p metricsPath = .ok mux ↔ p.Serves metricsPath ∧ mux = routes metricsPath := by
  have hdistinct : some healthzPath ≠ some readyzPath := by decide
  have hhealthz := hp.plain healthzPath (plainPath_of_mem (by simp))
  have hreadyz := hp.plain readyzPath (plainPath_of_mem (by simp))
  simp only [serveMux, bind_eq_ok_iff, Mux.handle_eq_ok_iff,
    Mux.handleHealth_eq_ok_iff hhealthz, Mux.handleHealth_eq_ok_iff hreadyz]
  constructor
  · rintro ⟨_, ⟨hsome, -, rfl⟩, _, ⟨hother, rfl⟩, hother', rfl⟩
    refine ⟨⟨hsome, ?_⟩, rfl⟩
    simp only [List.forall_mem_cons, List.not_mem_nil, false_implies, implies_true, and_true]
    exact ⟨fun hne => hother hne (metricsPath, .metrics) (by simp),
      fun hne => hother' hne (metricsPath, .metrics) (by simp)⟩
  · rintro ⟨⟨hsome, hhealth⟩, rfl⟩
    refine ⟨_, ⟨hsome, by simp, rfl⟩, _, ⟨?_, rfl⟩, ?_, rfl⟩
    · intro hne route hroute
      rw [List.mem_singleton.mp hroute]
      exact hhealth healthzPath (by simp) hne
    · intro hne route hroute
      rcases List.mem_append.mp hroute with hroute | hroute
      · rw [List.mem_singleton.mp hroute]
        exact hhealth readyzPath (by simp) hne
      · unfold healthRoute at hroute
        split_ifs at hroute
        · rw [List.mem_singleton.mp hroute, hhealthz]
          exact hdistinct
        · cases hroute

theorem Mux.handle_eq_error {mux : Mux} {pattern : String} {handler : Handler} {err : Failure}
    (h : mux.handle p pattern handler = .error err) : err = .panic := by
  unfold handle require at h
  split_ifs at h
  · cases h
  · cases h
    rfl

theorem Mux.handleHealth_eq_error {mux : Mux} {metricsPath path : String} {err : Failure}
    (h : mux.handleHealth p metricsPath path = .error err) : err = .panic := by
  unfold handleHealth at h
  split_ifs at h
  exact handle_eq_error h

theorem serveMux_eq_error {metricsPath : String} {err : Failure}
    (h : serveMux p metricsPath = .error err) : err = .panic := by
  simp only [serveMux, bind_eq_error_iff] at h
  obtain h | ⟨mux, -, h | ⟨mux', -, h⟩⟩ := h
  · exact Mux.handle_eq_error h
  · exact Mux.handleHealth_eq_error h
  · exact Mux.handleHealth_eq_error h

theorem new_of_valid (hp : p.Lawful) {cfg : Config} (hvalid : cfg.names.Valid) (mapDir : String) :
    new p cfg (some mapDir) = (serveMux p cfg.metricsPath).map fun mux =>
      { cfg.exporter mapDir with routes := mux } := by
  unfold new
  rw [(MetricNames.validate_eq_ok_iff _).mpr hvalid, mustRegister_of_valid hp hvalid]
  cases serveMux p cfg.metricsPath <;> rfl

/-- A name that the registry would refuse, or a name that is given twice, ends the start with an
error. Only the path can make it panic. -/
theorem start_eq_panic_iff (hp : p.Lawful) {f : CliFlags} :
    start p f = .error .panic ↔
      f.metricsEnabled = true ∧ f.metricNames.withDefaults.Valid ∧
        ¬p.Serves f.config.metricsPath := by
  unfold start
  cases henabled : f.metricsEnabled with
  | false => simp
  | true =>
    rw [if_neg (by decide), show f.metricNames.withDefaults = f.config.names from rfl]
    by_cases hvalid : f.config.names.Valid
    · rw [new_of_valid hp hvalid]
      cases hmux : serveMux p f.config.metricsPath with
      | error err =>
        cases serveMux_eq_error hmux
        have hserves : ¬p.Serves f.config.metricsPath := by
          intro hserves
          rw [(serveMux_eq_ok_iff hp).mpr ⟨hserves, rfl⟩] at hmux
          cases hmux
        exact iff_of_true rfl ⟨rfl, hvalid, hserves⟩
      | ok mux =>
        have hserves := ((serveMux_eq_ok_iff hp).mp hmux).1
        simp [Except.map, hserves]
    · have hvalidate := fun h => hvalid ((MetricNames.validate_eq_ok_iff _).mp h)
      unfold new
      cases hnames : f.config.names.validate with
      | ok u => exact absurd hnames hvalidate
      | error err =>
        refine iff_of_false ?_ fun h => hvalid h.2.1
        intro h
        cases h

end Start

end GpuFractioning.Metricsd.Startup
