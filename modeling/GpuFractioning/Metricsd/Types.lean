import GpuFractioning.Lib.FiniteMap
import GpuFractioning.Lib.GoFloat
import GpuFractioning.Lib.GoStrconv

/-!
# Metrics, snapshots and series labels

`metricsd/internal/metrics/types.go`, with percentages and fractions as exact
rationals, and the labels of an exported series.
-/

namespace GpuFractioning.Metricsd

structure GPUProcessMetric where
  pid : ℕ
  gpuUUID : String
  gpuIndex : ℤ
  usedGPUMemoryBytes : ℕ
  smUtilizationPercent : ℕ
  deriving DecidableEq, Repr

/-- One NVML collection; what the device errors say is only logged. -/
structure GPUProcessSnapshot where
  processes : List GPUProcessMetric
  deviceUUIDs : FiniteMap ℤ String
  deviceMinorToNVMLIndex : FiniteMap ℤ ℤ
  deviceTotalMemoryBytes : FiniteMap ℤ ℕ

structure PodGPUMetric where
  namespace_ : String
  pod : String
  podUID : String
  gpuUUID : String
  gpuIndex : ℤ
  memoryBytes : ℕ
  smUtilizationPercent : ℚ
  requestedGPUFraction : ℚ
  smUtilizationPercentNormalized : ℚ
  deriving DecidableEq, Repr

/-- `activePodUIDs` is `none` for the nil map of the zero snapshot. -/
structure Snapshot where
  metrics : List PodGPUMetric
  activePodUIDs : Option (Finset String)
  deriving DecidableEq

structure PodGPUKey where
  namespace_ : String
  pod : String
  podUID : String
  gpuUUID : String
  gpuIndex : ℤ
  deriving DecidableEq, Repr

/-- The label values of a series, in the order they are declared. -/
structure Labels where
  namespace_ : String
  pod : String
  podUUID : String
  gpuUUID : String
  gpu : String
  deriving DecidableEq, Repr

def PodGPUMetric.key (m : PodGPUMetric) : PodGPUKey :=
  { namespace_ := m.namespace_
    pod := m.pod
    podUID := m.podUID
    gpuUUID := m.gpuUUID
    gpuIndex := m.gpuIndex }

def PodGPUKey.labels (k : PodGPUKey) : Labels :=
  { namespace_ := k.namespace_
    pod := k.pod
    podUUID := k.podUID
    gpuUUID := k.gpuUUID
    gpu := GoStrconv.formatInt k.gpuIndex }

theorem PodGPUKey.labels_injective : Function.Injective PodGPUKey.labels := by
  rintro ⟨ns, pod, uid, uuid, index⟩ ⟨ns', pod', uid', uuid', index'⟩ h
  simp only [labels, Labels.mk.injEq] at h
  obtain ⟨rfl, rfl, rfl, rfl, hindex⟩ := h
  rw [GoStrconv.formatInt_injective hindex]

end GpuFractioning.Metricsd
