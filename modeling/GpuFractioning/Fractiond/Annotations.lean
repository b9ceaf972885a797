import GpuFractioning.Lib.GoString
import GpuFractioning.Lib.GoStrconv

/-!
# Pod annotations for GPU fractioning

`fractiond/internal/annotations/annotations.go`: the per-container keys, the
memory request and limit, the device assignment and the compute mode.
-/

namespace GpuFractioning.Fractiond

/-- `resource.ParseQuantity` followed by `Quantity.Value`, of `k8s.io/apimachinery`:
the bytes a quantity stands for, or nothing if it does not parse. -/
class ParseQuantity where
  value : String → Option ℤ

/-- The annotation map of a pod, which is only read. -/
abbrev AnnotationMap := String → Option String

namespace Annotations

def memoryInfix : String := "gpu-memory"

def devicesSuffix : String := "gpus.devices"

def annotationSuffixRequest : String := "request"

def annotationSuffixLimit : String := "limit"

def computeModeSuffix : String := "gpu-compute.mode"

def bytesPerMiB : ℤ := 1024 * 1024

def minMemoryBytes : ℤ := bytesPerMiB

inductive ComputeMode where
  | timeSlicing
  | smSharing
  deriving DecidableEq, Repr

def ComputeMode.value : ComputeMode → String
  | timeSlicing => "time-slicing"
  | smSharing => "sm-sharing"

/-- Why a quantity was refused. -/
inductive QuantityError where
  | invalid (value : String)
  | negative (value : String)
  | belowMinimum (value : String) (bytes : ℤ)
  deriving DecidableEq, Repr

/-- The errors of this package, each of which names the annotation key. -/
inductive ParseError where
  | quantity (key : String) (cause : QuantityError)
  | modeNotEnabled (key value : String)
  | invalidMode (key value : String)
  deriving DecidableEq, Repr

/-- Memory request and limit in whole MiB, as decimal strings; empty when absent. -/
structure GPUMemoryConfig where
  request : String
  limit : String
  deriving DecidableEq, Repr

namespace GPUMemoryConfig

def isEmpty (c : GPUMemoryConfig) : Bool := c.request == "" && c.limit == ""

/-- A missing request or limit is filled from the other. -/
def applyDefaults (c : GPUMemoryConfig) : GPUMemoryConfig :=
  let c := if c.request = "" then { c with request := c.limit } else c
  if c.limit = "" then { c with limit := c.request } else c

/-- The limit if set, otherwise the request, otherwise 0. -/
def effectiveMemoryMiB (c : GPUMemoryConfig) : ℤ :=
  let value := if c.limit = "" then c.request else c.limit
  if value = "" then 0 else (GoStrconv.parseInt value).getD 0

theorem applyDefaults_eq (c : GPUMemoryConfig) :
    c.applyDefaults =
      { request := if c.request = "" then c.limit else c.request
        limit := if c.limit = "" then c.request else c.limit } := by
  obtain ⟨request, limit⟩ := c
  by_cases hr : request = "" <;> by_cases hl : limit = "" <;> simp [applyDefaults, hr, hl]

theorem applyDefaults_nonempty {c : GPUMemoryConfig} (h : c.isEmpty = false) :
    c.applyDefaults.request ≠ "" ∧ c.applyDefaults.limit ≠ "" := by
  rw [applyDefaults_eq]
  by_cases hr : c.request = "" <;> by_cases hl : c.limit = "" <;> simp_all [isEmpty]

end GPUMemoryConfig

def containerMemoryAnnotationKey (pre containerName suffix : String) : String :=
  pre ++ containerName ++ "." ++ memoryInfix ++ "." ++ suffix

def containerDevicesAnnotationKey (pre containerName : String) : String :=
  pre ++ containerName ++ "." ++ devicesSuffix

def containerComputeModeAnnotationKey (pre containerName : String) : String :=
  pre ++ containerName ++ "." ++ computeModeSuffix

/-- Division of `int64` values, rounded up for positive ones; every operation wraps. -/
def ceilDiv (value divisor : ℤ) : ℤ :=
  (1 + ((value - 1).bmod (2 ^ 64)).tdiv divisor).bmod (2 ^ 64)

theorem ceilDiv_bounds {value divisor : ℤ} (hvalue : 0 < value)
    (hmax : value ≤ GoStrconv.maxInt64) (hdivisor : 0 < divisor) :
    (ceilDiv value divisor - 1) * divisor < value ∧ value ≤ ceilDiv value divisor * divisor ∧
      0 < ceilDiv value divisor ∧ ceilDiv value divisor ≤ value := by
  have hquotient := Int.ediv_mul_add_emod (value - 1) divisor
  have hmod := Int.emod_nonneg (value - 1) hdivisor.ne'
  have hmod' := Int.emod_lt_of_pos (value - 1) hdivisor
  have hpos : 0 ≤ (value - 1) / divisor := Int.ediv_nonneg (by omega) hdivisor.le
  have hle : (value - 1) / divisor ≤ value - 1 := Int.ediv_le_self divisor (by omega)
  have hceil : ceilDiv value divisor = 1 + (value - 1) / divisor := by
    unfold GoStrconv.maxInt64 at hmax
    have hdecrement : (value - 1).bmod (2 ^ 64) = value - 1 :=
      Int.bmod_eq_of_le (by omega) (by omega)
    rw [ceilDiv, hdecrement, Int.tdiv_eq_ediv_of_nonneg (by omega)]
    exact Int.bmod_eq_of_le (by omega) (by omega)
  rw [hceil]
  refine ⟨?_, ?_, by omega, by omega⟩
  · rw [add_sub_cancel_left]
    omega
  · rw [add_mul, one_mul]
    omega

section Parsing

variable [ParseQuantity]

def quantityToMemoryMiB (value : String) : Except QuantityError ℤ :=
  match ParseQuantity.value value with
  | none => .error (.invalid value)
  | some bytes =>
    if bytes < 0 then .error (.negative value)
    else if bytes < minMemoryBytes then .error (.belowMinimum value bytes)
    else .ok (ceilDiv bytes bytesPerMiB)

def parseToMemoryMiB (value : String) : Except QuantityError String :=
  (quantityToMemoryMiB value).map GoStrconv.formatInt

/-- One of the two memory annotations; absent means empty. -/
def parseMemoryAnnotation (annotations : AnnotationMap) (key : String) :
    Except ParseError String :=
  match annotations key with
  | none => .ok ""
  | some value => (parseToMemoryMiB value).mapError (.quantity key)

def parseGPUMemoryAnnotations (annotations : AnnotationMap) (containerName pre : String) :
    Except ParseError GPUMemoryConfig := do
  let request ← parseMemoryAnnotation annotations
    (containerMemoryAnnotationKey pre containerName annotationSuffixRequest)
  let limit ← parseMemoryAnnotation annotations
    (containerMemoryAnnotationKey pre containerName annotationSuffixLimit)
  return { request := request, limit := limit }

end Parsing

/-- The device assignment, trimmed; empty when absent. -/
def parseVisibleDevices (annotations : AnnotationMap) (containerName pre : String) : String :=
  GoString.trimSpace ((annotations (containerDevicesAnnotationKey pre containerName)).getD "")

/-- The compute mode; a blank value is an invalid one, not an absent one. -/
def parseComputeMode (annotations : AnnotationMap) (containerName pre : String)
    (smSharingEnabled : Bool) : Except ParseError ComputeMode :=
  let key := containerComputeModeAnnotationKey pre containerName
  match annotations key with
  | none => .ok .timeSlicing
  | some raw =>
    let val := GoString.trimSpace raw
    if val = ComputeMode.timeSlicing.value then .ok .timeSlicing
    else if val = ComputeMode.smSharing.value then
      if !smSharingEnabled then .error (.modeNotEnabled key val) else .ok .smSharing
    else .error (.invalidMode key val)

end Annotations

end GpuFractioning.Fractiond
