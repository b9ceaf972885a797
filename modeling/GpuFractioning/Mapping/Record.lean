import GpuFractioning.Lib.FileSystem
import GpuFractioning.Mapping.ContainerStore

/-!
# The on-disk record and its file name

`common/mapping/fsstore/record.go`. A record carries the pod identity and the
devices of one container; the container ID is the stem of the file name. JSON
encoding is taken as lossless, so the contents of a file are either the record
its bytes decode to or bytes that decode to none.
-/

namespace GpuFractioning.Mapping

def schemaVersion : ℤ := 1

def fileExtension : String := ".json"

structure Record where
  schemaVersion : ℤ
  pod : String
  namespace_ : String
  podUID : String
  gpuDevices : List GPUDevice
  requestedMemoryMiB : ℤ
  deriving DecidableEq, Repr

/-- File contents, up to what `json.Unmarshal` makes of them. -/
inductive FileData where
  | record (rec : Record)
  | other (bytes : String)
  deriving DecidableEq, Repr

instance : Inhabited FileData := ⟨.other ""⟩

/-- The mapping directory. -/
abbrev MapDir := FileSystem.Directory FileData

def newRecord (info : ContainerInfo) : Record :=
  { schemaVersion := schemaVersion
    pod := info.pod
    namespace_ := info.namespace_
    podUID := info.podUID
    gpuDevices := info.gpuDevices
    requestedMemoryMiB := info.requestedMemoryMiB }

def Record.toContainer (r : Record) (containerID : String) : ContainerInfo :=
  { containerID := containerID
    container := ""
    pod := r.pod
    namespace_ := r.namespace_
    podUID := r.podUID
    cgroupPath := ""
    gpuDevices := r.gpuDevices
    requestedMemoryMiB := r.requestedMemoryMiB }

/-- What of a container survives the file: the container name and the cgroup
path are not part of the record. -/
def ContainerInfo.recorded (info : ContainerInfo) : ContainerInfo :=
  { info with container := "", cgroupPath := "" }

/-- `sanitizeContainerID`: one safe file-name component. -/
def sanitizeContainerID (containerID : String) : String :=
  let containerID := GoString.trimSpace containerID
  let containerID := GoString.afterLast "://" containerID
  let containerID := GoString.replaceChar '/' '_' containerID
  GoString.replaceChar '\\' '_' containerID

def fileName (containerID : String) : String := sanitizeContainerID containerID ++ fileExtension

def containerIDFromFile (name : String) : String := GoString.trimSuffix name fileExtension

/-- The IDs runtimes report: sanitizing is the identity and the file is not hidden. -/
structure Bare (containerID : String) : Prop where
  nonempty : containerID ≠ ""
  sanitized : sanitizeContainerID containerID = containerID
  visible : GoString.hasPrefix containerID "." = false

instance (containerID : String) : Decidable (Bare containerID) :=
  decidable_of_iff (containerID ≠ "" ∧ sanitizeContainerID containerID = containerID ∧
    GoString.hasPrefix containerID "." = false)
    ⟨fun h => ⟨h.1, h.2.1, h.2.2⟩, fun h => ⟨h.nonempty, h.sanitized, h.visible⟩⟩

@[simp] theorem toContainer_newRecord (info : ContainerInfo) :
    (newRecord info).toContainer info.containerID = info.recorded := rfl

@[simp] theorem containerIDFromFile_append (stem : String) :
    containerIDFromFile (stem ++ fileExtension) = stem :=
  GoString.trimSuffix_append stem fileExtension

@[simp] theorem recorded_containerID (info : ContainerInfo) :
    info.recorded.containerID = info.containerID := rfl

/-- Trimming and cutting only shorten, and replacing keeps the length, so an ID
that sanitizing leaves alone was neither trimmed nor cut. -/
theorem sanitized_length {containerID : String}
    (h : sanitizeContainerID containerID = containerID) :
    (GoString.afterLast "://" (GoString.trimSpace containerID)).toList.length =
      containerID.toList.length := by
  have hl := congrArg (fun s => s.toList.length) h
  simpa [sanitizeContainerID, GoString.replaceChar] using hl

theorem afterLast_length_le (s : String) :
    (GoString.afterLast "://" s).toList.length ≤ s.toList.length := by
  unfold GoString.afterLast
  split
  · next r hr =>
    have := GoString.afterLastList_length_le hr
    simp only [String.toList_ofList]
    omega
  · exact le_rfl

theorem trimSpace_of_sanitized {containerID : String}
    (h : sanitizeContainerID containerID = containerID) :
    GoString.trimSpace containerID = containerID := by
  have hlen := sanitized_length h
  have hcut := afterLast_length_le (GoString.trimSpace containerID)
  have htrim : containerID.toList.length ≤
      (GoString.trimChars GoString.isSpace containerID.toList).length := by
    rw [hlen] at hcut
    simpa [GoString.trimSpace] using hcut
  rw [← String.toList_inj]
  simpa [GoString.trimSpace] using GoString.trimChars_eq_of_length _ htrim

theorem slash_notMem_of_sanitized {containerID : String}
    (h : sanitizeContainerID containerID = containerID) : '/' ∉ containerID.toList := by
  rw [← h]
  intro hmem
  simp only [sanitizeContainerID, GoString.replaceChar, String.toList_ofList, List.map_map,
    List.mem_map, Function.comp_apply] at hmem
  obtain ⟨c, -, hc⟩ := hmem
  split_ifs at hc <;> simp_all

theorem normalizeContainerID_of_bare {containerID : String} (h : Bare containerID) :
    normalizeContainerID containerID = containerID := by
  have hslash := slash_notMem_of_sanitized h.sanitized
  have hcut : GoString.afterLast "://" containerID = containerID :=
    GoString.afterLast_eq_self (c := '/') (by decide) hslash
  have htrim : GoString.trimChars (· == '/') containerID.toList = containerID.toList := by
    apply GoString.trimChars_eq_self
    intro c hc
    simp only [beq_eq_false_iff_ne]
    rintro rfl
    exact hslash hc
  simp [normalizeContainerID, trimSpace_of_sanitized h.sanitized, h.nonempty, hcut,
    GoString.trim, htrim]

theorem fileName_of_bare {containerID : String} (h : Bare containerID) :
    fileName containerID = containerID ++ fileExtension := by
  rw [fileName, h.sanitized]

theorem hasSuffix_fileName (containerID : String) :
    GoString.hasSuffix (fileName containerID) fileExtension = true :=
  GoString.hasSuffix_append _ _

theorem hasPrefix_append_fileExtension {containerID : String} (hne : containerID ≠ "") :
    GoString.hasPrefix (containerID ++ fileExtension) "." = GoString.hasPrefix containerID "." :=
  GoString.hasPrefix_append_of_ne_empty (c := '.') hne

end GpuFractioning.Mapping
