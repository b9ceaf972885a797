import GpuFractioning.Lib.GoPath
import GpuFractioning.Lib.Toml

/-!
# The configuration of the MPS control daemon

`mpsd/internal/config.go` and `buildMPSArgs` of `mpsd/internal/supervisor.go`:
the file and the arguments that `nvidia-cuda-mps-control` is started with. The
daemon itself is another's program. `ControlArgs` and `ControlConfig` are what the
sources say about it: its options in the comment on `buildMPSArgs`, the tables of its
TOML file in that on `TOML`, and the directories of its servers in
`common/configuration/configuration.go`. The stand-in that the repository has for it
is in `Mpsd/FakeMps`.
-/

namespace GpuFractioning.Mpsd

section Source

structure MPSConfig where
  memacctEnabled : Bool
  memacctAuditLog : Bool
  contextShareEnabled : Bool
  contextShareDefaultSocket : String
  sharedServerName : String
  deriving DecidableEq, Repr

namespace MPSConfig

def TOML (c : MPSConfig) : String :=
  "[features.memacct]\nenabled=" ++ toString c.memacctEnabled ++ "\naudit_log=" ++
    toString c.memacctAuditLog ++ "\n\n[features.context-share]\nenabled=" ++
    toString c.contextShareEnabled ++ "\n" ++
    (if c.contextShareDefaultSocket ≠ "" then
      "default_socket=" ++ GoText.quote c.contextShareDefaultSocket ++ "\n" else "") ++
    if c.sharedServerName ≠ "" then "\n[servers." ++ c.sharedServerName ++ "]\n" else ""

end MPSConfig

def buildMPSArgs (controlPort configPath : String) (multiuser : Bool) : List String :=
  (if controlPort ≠ "" then ["-p", controlPort] else []) ++ (if multiuser then ["-m"] else []) ++
    ["-f"] ++ if configPath ≠ "" then ["-a", configPath] else []

end Source

section Daemon

/-- The options of the control daemon, of which `buildMPSArgs` passes `-p`, `-m`, `-f` and `-a`. -/
structure ControlArgs where
  controlPort : Option String
  multiuser : Bool
  foreground : Bool
  configPath : Option String
  deriving DecidableEq, Repr

namespace ControlArgs

def none : ControlArgs := ⟨.none, false, false, .none⟩

/-- Options in any order; `-p` and `-a` take the argument after them. -/
def read : List String → ControlArgs → Option ControlArgs
  | [], args => some args
  | option :: rest, args =>
    if option = "-m" then read rest { args with multiuser := true }
    else if option = "-f" then read rest { args with foreground := true }
    else
      match rest with
      | [] => .none
      | value :: rest =>
        if option = "-p" then read rest { args with controlPort := some value }
        else if option = "-a" then read rest { args with configPath := some value }
        else .none

end ControlArgs

/-- The settings of the control daemon. A feature is off where it is not turned on. -/
structure ControlConfig where
  memacctEnabled : Bool
  memacctAuditLog : Bool
  contextShareEnabled : Bool
  contextShareDefaultSocket : Option String
  servers : List String
  deriving DecidableEq, Repr

namespace ControlConfig

def serverName? (t : Toml.Table) : Option String :=
  match t.path with
  | ["servers", name] => some name
  | _ => none

def ofTables (tables : List Toml.Table) : ControlConfig :=
  { memacctEnabled := Toml.isOn tables ["features", "memacct"] "enabled"
    memacctAuditLog := Toml.isOn tables ["features", "memacct"] "audit_log"
    contextShareEnabled := Toml.isOn tables ["features", "context-share"] "enabled"
    contextShareDefaultSocket :=
      Toml.text? tables ["features", "context-share"] "default_socket"
    servers := tables.filterMap serverName? }

def read (text : String) : Option ControlConfig := (Toml.read text).map ofTables

/-- The directories in which a client finds a server, as `SharedMPSSocketPath` describes them:
that of the node's own server, and the `default` namespace of every named one. -/
def sockets (c : ControlConfig) (pipeDir : String) : List String :=
  pipeDir :: c.servers.map fun name => GoPath.join [pipeDir, name, "default"]

end ControlConfig

end Daemon

section Reading

/-- The arguments are read as what they were built from, whatever the values look like. -/
theorem read_buildMPSArgs (controlPort configPath : String) (multiuser : Bool) :
    ControlArgs.read (buildMPSArgs controlPort configPath multiuser) .none =
      some
        { controlPort := if controlPort = "" then none else some controlPort
          multiuser := multiuser
          foreground := true
          configPath := if configPath = "" then none else some configPath } := by
  unfold buildMPSArgs
  by_cases hport : controlPort = "" <;> by_cases hpath : configPath = "" <;>
    cases multiuser <;> simp [ControlArgs.read, ControlArgs.none, hport, hpath]

/-- The lines of the file, the last of them empty. -/
def MPSConfig.lines (c : MPSConfig) : List String :=
  ["[features.memacct]", "enabled=" ++ toString c.memacctEnabled,
    "audit_log=" ++ toString c.memacctAuditLog, "", "[features.context-share]",
    "enabled=" ++ toString c.contextShareEnabled] ++
    (if c.contextShareDefaultSocket ≠ "" then
      ["default_socket=" ++ GoText.quote c.contextShareDefaultSocket] else []) ++
    (if c.sharedServerName ≠ "" then ["", "[servers." ++ c.sharedServerName ++ "]"] else []) ++
    [""]

theorem MPSConfig.TOML_eq (c : MPSConfig) : c.TOML = "\n".intercalate c.lines := by
  have hmemacct : "[features.memacct]\nenabled=" =
      "[features.memacct]" ++ ("\n" ++ "enabled=") := by decide
  have haudit : "\naudit_log=" = "\n" ++ "audit_log=" := by decide
  have hshare : "\n\n[features.context-share]\nenabled=" =
      "\n" ++ ("" ++ ("\n" ++ ("[features.context-share]" ++ ("\n" ++ "enabled=")))) := by decide
  have hserver : "\n[servers." = "" ++ ("\n" ++ "[servers.") := by decide
  have hend : "]\n" = "]" ++ ("\n" ++ "") := by decide
  unfold MPSConfig.TOML MPSConfig.lines
  rw [hmemacct, haudit, hshare, hserver, hend]
  by_cases hsocket : c.contextShareDefaultSocket = "" <;>
    by_cases hserver : c.sharedServerName = "" <;>
    simp only [hsocket, hserver, ne_eq, not_true_eq_false, not_false_eq_true, if_true, if_false,
      List.cons_append, List.nil_append, List.append_nil,
      String.intercalate_cons_cons, String.intercalate_singleton, String.append_assoc,
      String.append_empty]

/-- What the lines say. -/
def MPSConfig.parsedLines (c : MPSConfig) : List Toml.Line :=
  let socket : List Toml.Line :=
    if c.contextShareDefaultSocket ≠ "" then
      [.entry "default_socket" (.string c.contextShareDefaultSocket)] else []
  let server : List Toml.Line :=
    if c.sharedServerName ≠ "" then [.blank, .header ["servers", c.sharedServerName]] else []
  .header ["features", "memacct"] :: .entry "enabled" (.bool c.memacctEnabled) ::
    .entry "audit_log" (.bool c.memacctAuditLog) :: .blank ::
    .header ["features", "context-share"] :: .entry "enabled" (.bool c.contextShareEnabled) ::
    (socket ++ server ++ [.blank])

/-- The socket is in characters that need no escape, and the server under a bare key. -/
structure MPSConfig.Printable (c : MPSConfig) : Prop where
  socket : ∀ ch ∈ c.contextShareDefaultSocket.toList, Toml.isVerbatim ch = true
  server : c.sharedServerName ≠ "" → Toml.IsBareKey c.sharedServerName

variable {c : MPSConfig}

theorem readLine_bool {key : String} (hkey : Toml.IsBareKey key) (b : Bool) :
    Toml.readLine (key ++ "=" ++ toString b) = some (.entry key (.bool b)) :=
  Toml.readLine_entry hkey (Toml.readValue_bool b)

theorem readLine_table {outer name : String} (houter : Toml.IsBareKey outer)
    (hname : Toml.IsBareKey name) :
    Toml.readLine ("[" ++ outer ++ "." ++ name ++ "]") = some (.header [outer, name]) := by
  have hread := Toml.readLine_header (List.cons_ne_nil outer [name]) (by simp [houter, hname])
  simpa only [String.intercalate_cons_cons, String.intercalate_singleton, String.append_assoc]
    using hread

theorem mapM_readLine_lines (h : c.Printable) :
    c.lines.mapM Toml.readLine = some c.parsedLines := by
  have hmemacct : Toml.readLine "[features.memacct]" = some (.header ["features", "memacct"]) := by
    rw [show "[features.memacct]" = "[" ++ "features" ++ "." ++ "memacct" ++ "]" by decide]
    exact readLine_table (by decide) (by decide)
  have hshare : Toml.readLine "[features.context-share]" =
      some (.header ["features", "context-share"]) := by
    rw [show "[features.context-share]" = "[" ++ "features" ++ "." ++ "context-share" ++ "]" by
      decide]
    exact readLine_table (by decide) (by decide)
  have henabled (b : Bool) : Toml.readLine ("enabled=" ++ toString b) =
      some (.entry "enabled" (.bool b)) := by
    rw [show "enabled=" = "enabled" ++ "=" by decide]
    exact readLine_bool (by decide) b
  have haudit (b : Bool) : Toml.readLine ("audit_log=" ++ toString b) =
      some (.entry "audit_log" (.bool b)) := by
    rw [show "audit_log=" = "audit_log" ++ "=" by decide]
    exact readLine_bool (by decide) b
  have hblank : Toml.readLine "" = some .blank := by decide
  have hsocket : Toml.readLine ("default_socket=" ++ GoText.quote c.contextShareDefaultSocket) =
      some (.entry "default_socket" (.string c.contextShareDefaultSocket)) := by
    rw [show "default_socket=" = "default_socket" ++ "=" by decide]
    exact Toml.readLine_entry (by decide) (Toml.readValue_quote h.socket)
  have hserver (hne : c.sharedServerName ≠ "") :
      Toml.readLine ("[servers." ++ c.sharedServerName ++ "]") =
        some (.header ["servers", c.sharedServerName]) := by
    rw [show "[servers." = "[" ++ "servers" ++ "." by decide]
    exact readLine_table (by decide) (h.server hne)
  unfold MPSConfig.lines MPSConfig.parsedLines
  by_cases hshared : c.sharedServerName = ""
  · by_cases hdefault : c.contextShareDefaultSocket = "" <;>
      simp only [hdefault, hshared, ne_eq, not_true_eq_false, not_false_eq_true, if_true, if_false,
        List.cons_append, List.nil_append, List.append_nil, List.mapM_cons, List.mapM_nil, hmemacct,
        hshare, henabled, haudit, hblank, hsocket, Option.pure_def, Option.bind_eq_bind,
        Option.bind_some]
  · have hserver := hserver hshared
    by_cases hdefault : c.contextShareDefaultSocket = "" <;>
      simp only [hdefault, hshared, ne_eq, not_true_eq_false, not_false_eq_true, if_true, if_false,
        List.cons_append, List.nil_append, List.append_nil, List.mapM_cons, List.mapM_nil, hmemacct,
        hshare, henabled, haudit, hblank, hsocket, hserver, Option.pure_def, Option.bind_eq_bind,
        Option.bind_some]

theorem newline_notMem_lines (h : c.Printable) : ∀ line ∈ c.lines, '\n' ∉ line.toList := by
  have hbool (b : Bool) : '\n' ∉ (toString b).toList := by cases b <;> decide
  have hquote : '\n' ∉ (GoText.quote c.contextShareDefaultSocket).toList := by
    rw [Toml.quote_of_isVerbatim h.socket]
    intro hmem
    rcases List.mem_cons.mp hmem with hhead | hmem
    · exact absurd hhead (by decide)
    · rcases List.mem_append.mp hmem with hmem | hlast
      · exact absurd (h.socket _ hmem) (by decide)
      · exact absurd (List.mem_singleton.mp hlast) (by decide)
  have hserver (hne : c.sharedServerName ≠ "") : '\n' ∉ c.sharedServerName.toList :=
    (h.server hne).not_mem (by decide)
  have happend {s t : String} (hs : '\n' ∉ s.toList) (ht : '\n' ∉ t.toList) :
      '\n' ∉ (s ++ t).toList := by
    rw [String.toList_append, List.mem_append]
    exact not_or.mpr ⟨hs, ht⟩
  intro line hline
  simp only [MPSConfig.lines, List.mem_append, List.mem_cons, List.not_mem_nil, or_false] at hline
  rcases hline with ((((rfl | rfl | rfl | rfl | rfl | rfl) | hline) | hline) | rfl)
  · decide
  · exact happend (by decide) (hbool _)
  · exact happend (by decide) (hbool _)
  · decide
  · decide
  · exact happend (by decide) (hbool _)
  · split_ifs at hline
    · rw [List.mem_singleton.mp hline]
      exact happend (by decide) hquote
    · cases hline
  · split_ifs at hline with hne
    · rcases List.mem_cons.mp hline with rfl | hline
      · decide
      · rw [List.mem_singleton.mp hline]
        exact happend (happend (by decide) (hserver hne)) (by decide)
    · cases hline
  · decide

/-- The tables of the file. -/
def MPSConfig.tables (c : MPSConfig) : List Toml.Table :=
  [⟨["features", "memacct"],
      [("enabled", .bool c.memacctEnabled), ("audit_log", .bool c.memacctAuditLog)]⟩,
    ⟨["features", "context-share"],
      ("enabled", .bool c.contextShareEnabled) ::
        if c.contextShareDefaultSocket ≠ "" then
          [("default_socket", .string c.contextShareDefaultSocket)] else []⟩] ++
    if c.sharedServerName ≠ "" then [⟨["servers", c.sharedServerName], []⟩] else []

theorem foldlM_addLine_parsedLines (c : MPSConfig) :
    List.foldlM Toml.addLine [] c.parsedLines = some c.tables := by
  unfold MPSConfig.parsedLines MPSConfig.tables
  by_cases hsocket : c.contextShareDefaultSocket = ""
  · by_cases hserver : c.sharedServerName = ""
    · simp [hsocket, hserver, Toml.addLine]
    · simp [hsocket, hserver, Toml.addLine]
  · by_cases hserver : c.sharedServerName = ""
    · simp [hsocket, hserver, Toml.addLine]
    · simp [hsocket, hserver, Toml.addLine]

/-- What mpsd writes is read as what it was told to write. -/
theorem read_TOML (h : c.Printable) :
    ControlConfig.read c.TOML = some
      { memacctEnabled := c.memacctEnabled
        memacctAuditLog := c.memacctAuditLog
        contextShareEnabled := c.contextShareEnabled
        contextShareDefaultSocket :=
          if c.contextShareDefaultSocket = "" then none else some c.contextShareDefaultSocket
        servers := if c.sharedServerName = "" then [] else [c.sharedServerName] } := by
  have hne : c.lines ≠ [] := by simp [MPSConfig.lines]
  have hmemacct : Toml.isOn c.tables ["features", "memacct"] "enabled" = c.memacctEnabled :=
    Toml.isOn_of_lookup (by simp [Toml.lookup, MPSConfig.tables])
  have haudit : Toml.isOn c.tables ["features", "memacct"] "audit_log" = c.memacctAuditLog :=
    Toml.isOn_of_lookup (by simp [Toml.lookup, MPSConfig.tables])
  have hshare : Toml.isOn c.tables ["features", "context-share"] "enabled" =
      c.contextShareEnabled := Toml.isOn_of_lookup (by simp [Toml.lookup, MPSConfig.tables])
  rw [ControlConfig.read, MPSConfig.TOML_eq, Toml.read_lines hne (newline_notMem_lines h),
    mapM_readLine_lines h, Option.bind_some, foldlM_addLine_parsedLines, Option.map_some,
    ControlConfig.ofTables, hmemacct, haudit, hshare]
  congr 2
  · unfold MPSConfig.tables
    by_cases hsocket : c.contextShareDefaultSocket = "" <;>
      simp [Toml.text?, Toml.lookup, hsocket]
  · unfold MPSConfig.tables
    by_cases hserver : c.sharedServerName = "" <;>
      simp [ControlConfig.serverName?, hserver]

end Reading

end GpuFractioning.Mpsd
