import GpuFractioning.Mpsd.Supervisor

/-!
# The stand-in of the MPS control daemon

`hack/fake-mps/main.go`, which takes the place of `nvidia-cuda-mps-control` on
clusters without a GPU. It looks through the lines of the configuration file for the
names of the servers, and binds a socket for each of them where the control daemon
does. Its other flags it ignores.
-/

namespace GpuFractioning.Mpsd.FakeMps

section Source

def configPath : List String → String
  | arg :: value :: rest => if arg = "-a" then value else configPath (value :: rest)
  | _ => ""

/-- One pass of the loop of `configuredServers`. -/
def serverOfLine (line : String) : Option String := do
  let name ← GoString.cutPrefix (GoString.trimSpace line) "[servers."
  let name ← GoString.cutSuffix name "]"
  let name := GoString.trim '"' name
  if name ≠ "" then some name else none

/-- A file that cannot be read is only logged. -/
def configuredServers (files : Files) (path : String) : List String :=
  if path = "" then []
  else
    match files.entry path with
    | some (.file content) => (GoString.split '\n' content).filterMap serverOfLine
    | _ => []

/-- The sockets that `main` binds, with the value of `CUDA_MPS_PIPE_DIRECTORY`. -/
def sockets (pipeDirectory : String) (args : List String) (files : Files) : List String :=
  let pipeDir := if pipeDirectory = "" then "/run/nvidia-mps" else pipeDirectory
  GoPath.join [pipeDir, "control"] ::
    (configuredServers files (configPath args)).map fun server =>
      GoPath.join [pipeDir, server, "default", "control"]

end Source

theorem configPath_buildMPSArgs {controlPort : String} (hport : controlPort ≠ "-a")
    (path : String) (multiuser : Bool) :
    configPath (buildMPSArgs controlPort path multiuser) = path := by
  unfold buildMPSArgs
  by_cases hne : controlPort = "" <;> by_cases hpath : path = "" <;> cases multiuser <;>
    simp [configPath, hne, hpath, hport]

theorem trimSpace_header (name : String) :
    GoString.trimSpace ("[servers." ++ name ++ "]") = "[servers." ++ (name ++ "]") := by
  have hends := GoString.trimChars_append_cons (p := GoString.isSpace) (c := '[') (by decide) []
    ("servers.".toList ++ name.toList ++ [']'])
  rw [List.rdropWhile_concat_neg _ _ _ (by decide)] at hends
  rw [← String.toList_inj, GoString.trimSpace, String.toList_ofList]
  simpa using hends

theorem serverOfLine_header {name : String} (hname : Toml.IsBareKey name) :
    serverOfLine ("[servers." ++ name ++ "]") = some name := by
  have hkept : ∀ c ∈ name.toList, (c == '"') = false := by
    intro c hc
    exact beq_false_of_ne (Toml.isBare_ne (hname.2 c hc) (by decide))
  have hquotes : GoString.trim '"' name = name := by
    rw [GoString.trim, GoString.trimChars_eq_self _ hkept, String.ofList_toList]
  rw [serverOfLine, trimSpace_header]
  simp [hquotes, hname.1]

/-- A line that begins with another character than a bracket or a blank names no server. -/
theorem serverOfLine_of_ne {c : Char} (hspace : GoString.isSpace c = false) (hc : c ≠ '[')
    {line : String} (hline : line.toList.head? = some c) : serverOfLine line = none := by
  obtain ⟨rest, hrest⟩ := List.head?_eq_some_iff.mp hline
  have hcut : GoString.cutPrefix (GoString.trimSpace line) "[servers." = none := by
    have htrim := GoString.trimChars_append_cons hspace [] rest
    rw [GoString.trimSpace, hrest, GoString.cutPrefix, GoString.hasPrefix, String.toList_ofList]
    rw [List.nil_append] at htrim
    rw [htrim]
    simp [List.isPrefixOf, hc.symm]
  rw [serverOfLine, hcut]
  rfl

theorem filterMap_serverOfLine_lines {c : MPSConfig} (h : c.Printable) :
    c.lines.filterMap serverOfLine =
      if c.sharedServerName = "" then [] else [c.sharedServerName] := by
  have hmemacct : serverOfLine "[features.memacct]" = none := by decide
  have hshare : serverOfLine "[features.context-share]" = none := by decide
  have hblank : serverOfLine "" = none := by decide
  have henabled (b : Bool) : serverOfLine ("enabled=" ++ toString b) = none :=
    serverOfLine_of_ne (c := 'e') (by decide) (by decide) (by simp)
  have haudit (b : Bool) : serverOfLine ("audit_log=" ++ toString b) = none :=
    serverOfLine_of_ne (c := 'a') (by decide) (by decide) (by simp)
  have hsocket (s : String) : serverOfLine ("default_socket=" ++ s) = none :=
    serverOfLine_of_ne (c := 'd') (by decide) (by decide) (by simp)
  unfold MPSConfig.lines
  by_cases hserver : c.sharedServerName = ""
  · by_cases hdefault : c.contextShareDefaultSocket = "" <;>
      simp [hserver, hdefault, hmemacct, hshare, hblank, henabled, haudit, hsocket]
  · have hname := serverOfLine_header (h.server hserver)
    by_cases hdefault : c.contextShareDefaultSocket = "" <;>
      simp [hserver, hdefault, hmemacct, hshare, hblank, henabled, haudit, hsocket, hname]

theorem configuredServers_of_entry {c : MPSConfig} (h : c.Printable) {files : Files} {path : String}
    (hpath : path ≠ "") (hfile : files.entry path = some (.file c.TOML)) :
    configuredServers files path =
      if c.sharedServerName = "" then [] else [c.sharedServerName] := by
  have hne : c.lines ≠ [] := by simp [MPSConfig.lines]
  rw [configuredServers, if_neg hpath, hfile, ← filterMap_serverOfLine_lines h]
  dsimp only
  rw [MPSConfig.TOML_eq, show "\n" = String.singleton '\n' from rfl,
    GoString.split_intercalate hne (newline_notMem_lines h)]

end GpuFractioning.Mpsd.FakeMps
