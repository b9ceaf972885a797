import GpuFractioning.Fractiond.Events

/-!
# The mapping directory over whole runs of callbacks

Which containers are live is a matter of the callbacks alone: the latest
Synchronize lists them, a later CreateContainer that is not blocked adds one,
a RemoveContainer takes one away. The directory is meant to hold the records of
the live containers after every flush. It does, except that a Synchronize whose
containers are all without a record leaves the directory as it was.
-/

namespace GpuFractioning.Fractiond

open FileSystem Mapping

section Live

variable [ParseQuantity]

/-- A container together with the pod it is matched to. -/
abbrev Sandboxed := Option PodSandbox × Container

/-- The live containers after one more callback, in the order they were announced. -/
def liveStep (cfg : Config) (live : List Sandboxed) : Callback → List Sandboxed
  | .createContainer pod ctr =>
    match buildAdjustment cfg pod ctr with
    | .error _ => live
    | .ok _ => live ++ [(some pod, ctr)]
  | .removeContainer ctr => live.filter fun e => e.2.id ≠ ctr.id
  | .synchronize pods ctrs =>
    ctrs.map fun ctr => ((podSandboxLookup pods).lookup ctr.podSandboxId, ctr)

def liveAfter (cfg : Config) (cbs : List Callback) : List Sandboxed :=
  cbs.foldl (liveStep cfg) []

/-- The records the adapter yields for a list of containers. -/
def recordsOf (cfg : Config) (live : List Sandboxed) : List ContainerInfo :=
  live.filterMap fun e => cfg.adapter.container e.1 (some e.2)

/-- The record that is due under an ID: that of the container announced last. -/
def due (cfg : Config) (live : List Sandboxed) : ContainerMap := fun containerID =>
  (recordsOf cfg live).reverse.find? fun info => info.containerID = containerID

/-- The reader returns exactly the records of the live containers, up to the fields
a record file does not carry. -/
def Tracks (cfg : Config) (live : List Sandboxed) (d : MapDir) : Prop :=
  ∀ containerID, (Reader.store d).lookup containerID =
    (due cfg live containerID).map ContainerInfo.recorded

namespace Callback

def isSynchronize : Callback → Bool
  | .synchronize _ _ => true
  | _ => false

/-- Every container ID of the callback is bare. -/
def Bare : Callback → Prop
  | .createContainer _ ctr => Mapping.Bare ctr.id
  | .removeContainer ctr => Mapping.Bare ctr.id
  | .synchronize _ ctrs => ∀ ctr ∈ ctrs, Mapping.Bare ctr.id

/-- The update of the mapping a callback calls for. -/
def intended (cfg : Config) : Callback → Option Update
  | .createContainer pod ctr =>
    match buildAdjustment cfg pod ctr with
    | .error _ => none
    | .ok _ => (cfg.adapter.container (some pod) (some ctr)).map .upsert
  | .removeContainer ctr => some (.delete ctr.id)
  | .synchronize pods ctrs => some (.replace (cfg.adapter.containers pods ctrs))

/-- A Synchronize none of whose containers has a record. -/
def Recordless (cfg : Config) : Callback → Prop
  | .synchronize pods ctrs => cfg.adapter.containers pods ctrs = []
  | _ => False

/-- The directory after the event of a callback has been applied. -/
def effect (cfg : Config) (cb : Callback) (d : MapDir) : MapDir :=
  match cb.event cfg with
  | none => d
  | some ev => ev.apply d

end Callback

end Live

section Steps

variable [ParseQuantity] {cfg : Config}

open Callback

theorem effect_of_not_recordless {cb : Callback} (h : ¬ cb.Recordless cfg) (d : MapDir) :
    cb.effect cfg d =
      match cb.intended cfg with
      | none => d
      | some u => (exec u.onDir d).2 := by
  cases cb with
  | createContainer pod ctr =>
    simp only [effect, event, intended]
    cases buildAdjustment cfg pod ctr with
    | error e => rfl
    | ok adj => cases cfg.adapter.container (some pod) (some ctr) <;> rfl
  | removeContainer ctr => rfl
  | synchronize pods ctrs =>
    have hne : (cfg.adapter.containers pods ctrs).isEmpty = false := by simpa [Recordless] using h
    simp [effect, event, intended, Event.apply, Event.update, hne]

theorem effect_of_recordless {cb : Callback} (h : cb.Recordless cfg) (d : MapDir) :
    cb.effect cfg d = d := by
  cases cb with
  | createContainer pod ctr => cases h
  | removeContainer ctr => cases h
  | synchronize pods ctrs =>
    have hnil : cfg.adapter.containers pods ctrs = [] := h
    simp [effect, event, Event.apply, Event.update, hnil]

theorem intended_bare {cb : Callback} (hcb : cb.Bare) {u : Update}
    (hu : cb.intended cfg = some u) : u.Bare := by
  cases cb with
  | createContainer pod ctr =>
    simp only [intended] at hu
    split at hu
    · cases hu
    · obtain ⟨info, hinfo, rfl⟩ := Option.map_eq_some_iff.mp hu
      intro containerID hid
      rw [List.mem_singleton.mp hid, Adapter.container_containerID hinfo]
      exact hcb
  | removeContainer ctr =>
    cases hu
    intro containerID hid
    rw [List.mem_singleton.mp hid]
    exact hcb
  | synchronize pods ctrs =>
    cases hu
    intro containerID hid
    obtain ⟨info, hinfo, rfl⟩ := List.mem_map.mp hid
    obtain ⟨ctr, hctr, hyield⟩ := List.mem_filterMap.mp hinfo
    rw [Adapter.container_containerID hyield]
    exact hcb ctr hctr

theorem recordsOf_remove (live : List Sandboxed) (containerID : String) :
    recordsOf cfg (live.filter fun e => e.2.id ≠ containerID) =
      (recordsOf cfg live).filter fun info => info.containerID ≠ containerID := by
  induction live with
  | nil => rfl
  | cons e live ih =>
    simp only [recordsOf] at ih ⊢
    cases hyield : cfg.adapter.container e.1 (some e.2) with
    | none => by_cases he : e.2.id = containerID <;> simpa [he, hyield] using ih
    | some info =>
      have hid := Adapter.container_containerID hyield
      by_cases he : e.2.id = containerID <;> simpa [he, hyield, hid] using ih

theorem due_liveStep (live : List Sandboxed) (cb : Callback) :
    due cfg (liveStep cfg live cb) =
      match cb.intended cfg with
      | none => due cfg live
      | some u => u.apply (due cfg live) := by
  cases cb with
  | createContainer pod ctr =>
    simp only [liveStep, intended]
    cases buildAdjustment cfg pod ctr with
    | error e => rfl
    | ok adj =>
      cases hyield : cfg.adapter.container (some pod) (some ctr) with
      | none =>
        funext containerID
        simp [due, recordsOf, List.filterMap_append, hyield]
      | some info =>
        funext containerID
        by_cases hid : info.containerID = containerID
        · simp [due, recordsOf, List.filterMap_append, hyield, Update.apply, hid]
        · have hid' : containerID ≠ info.containerID := fun h => hid h.symm
          simp [due, recordsOf, List.filterMap_append, hyield, Update.apply, hid, hid']
  | removeContainer ctr =>
    funext containerID
    simp only [liveStep, intended, due, recordsOf_remove, Update.apply, Function.update_apply,
      ← List.filter_reverse, List.find?_filter]
    split_ifs with hid
    · subst hid
      rw [List.find?_eq_none]
      intro info _
      simp
    · apply List.find?_congr
      intro info _
      by_cases h : info.containerID = containerID
      · simp [h, hid]
      · simp [h]
  | synchronize pods ctrs =>
    funext containerID
    simp only [liveStep, intended, due, recordsOf, List.filterMap_map, Update.apply]
    rfl

theorem tracks_iff {live : List Sandboxed} {d : MapDir} :
    Tracks cfg live d ↔ ∀ containerID,
      Reader.readable d containerID = (due cfg live containerID).map ContainerInfo.recorded := by
  simp only [Tracks, Reader.lookup_store]

theorem jsonFiles_effect {d : MapDir} (hd : JsonFiles d) (cb : Callback) :
    JsonFiles (cb.effect cfg d) := by
  unfold effect
  split
  · exact hd
  · next ev _ =>
    unfold Event.apply
    split
    · exact hd
    · exact jsonFiles_onDir hd _

theorem Tracks.effect {live : List Sandboxed} {d : MapDir} (hd : JsonFiles d)
    (h : Tracks cfg live d) {cb : Callback} (hcb : cb.Bare) (hrec : ¬ cb.Recordless cfg) :
    Tracks cfg (liveStep cfg live cb) (cb.effect cfg d) := by
  rw [tracks_iff] at h ⊢
  intro containerID
  rw [effect_of_not_recordless hrec, due_liveStep]
  cases hu : cb.intended cfg with
  | none => exact h containerID
  | some u =>
    simp only
    rw [readable_onDir hd (intended_bare hcb hu), ← Update.recorded_apply, funext h]

theorem tracks_synchronize (live : List Sandboxed) {d : MapDir} (hd : JsonFiles d)
    {pods : List PodSandbox} {ctrs : List Container}
    (hcb : (Callback.synchronize pods ctrs).Bare)
    (hrec : ¬ (Callback.synchronize pods ctrs).Recordless cfg) :
    Tracks cfg (liveStep cfg live (.synchronize pods ctrs))
      ((Callback.synchronize pods ctrs).effect cfg d) := by
  rw [tracks_iff]
  intro containerID
  rw [effect_of_not_recordless hrec, due_liveStep]
  simp only [intended]
  rw [readable_onDir hd (intended_bare hcb rfl)]
  exact Update.find?_map_recorded _ containerID

theorem tracks_recordless (live : List Sandboxed) {d : MapDir} {cb : Callback}
    (hrec : cb.Recordless cfg) :
    Tracks cfg (liveStep cfg live cb) (cb.effect cfg d) ↔
      ∀ containerID, Reader.readable d containerID = none := by
  rw [tracks_iff, effect_of_recordless hrec, due_liveStep]
  cases cb with
  | createContainer pod ctr => cases hrec
  | removeContainer ctr => cases hrec
  | synchronize pods ctrs =>
    have hnil : cfg.adapter.containers pods ctrs = [] := hrec
    simp [intended, hnil, Update.apply]

end Steps

section Runs

variable [ParseQuantity] {cfg : Config}

open Callback

theorem liveAfter_append (cbs : List Callback) (cb : Callback) :
    liveAfter cfg (cbs ++ [cb]) = liveStep cfg (liveAfter cfg cbs) cb := by
  simp [liveAfter]

theorem dirAfter_snoc (cbs : List Callback) (cb : Callback) (d : MapDir) :
    dirAfter cfg (cbs ++ [cb]) d = cb.effect cfg (dirAfter cfg cbs d) :=
  dirAfter_append cbs cb d

theorem jsonFiles_dirAfter {d : MapDir} (hd : JsonFiles d) (cbs : List Callback) :
    JsonFiles (dirAfter cfg cbs d) := by
  induction cbs using List.reverseRecOn with
  | nil => exact hd
  | append_singleton cbs cb ih =>
    rw [dirAfter_snoc]
    exact jsonFiles_effect ih cb

/-- Every Synchronize without a record finds an empty mapping. -/
def RecordlessOnEmpty (cfg : Config) (d : MapDir) (cbs : List Callback) : Prop :=
  ∀ before cb, before ++ [cb] <+: cbs → cb.Recordless cfg →
    ∀ containerID, Reader.readable (dirAfter cfg before d) containerID = none

/-- The run lemma: from the first Synchronize on, the directory is in step. -/
theorem tracks_dirAfter {d : MapDir} (hd : JsonFiles d) {cbs : List Callback}
    (hbare : ∀ cb ∈ cbs, cb.Bare) (hcond : RecordlessOnEmpty cfg d cbs)
    (hsync : ∃ cb ∈ cbs, cb.isSynchronize = true) :
    Tracks cfg (liveAfter cfg cbs) (dirAfter cfg cbs d) := by
  induction cbs using List.reverseRecOn with
  | nil =>
    obtain ⟨cb, hcb, -⟩ := hsync
    cases hcb
  | append_singleton cbs cb ih =>
    have hjson : JsonFiles (dirAfter cfg cbs d) := jsonFiles_dirAfter hd cbs
    rw [liveAfter_append, dirAfter_snoc]
    by_cases hrec : cb.Recordless cfg
    · exact (tracks_recordless _ hrec).mpr (hcond cbs cb (List.prefix_refl _) hrec)
    · by_cases hprev : ∃ cb ∈ cbs, cb.isSynchronize = true
      · refine (ih (fun c hc => hbare c (by simp [hc])) ?_ hprev).effect hjson
          (hbare cb (by simp)) hrec
        intro before c hpre
        exact hcond before c (hpre.trans (List.prefix_append cbs [cb]))
      · obtain ⟨c, hc, hcs⟩ := hsync
        rcases List.mem_append.mp hc with hc | hc
        · exact absurd ⟨c, hc, hcs⟩ hprev
        · rw [List.mem_singleton.mp hc] at hcs
          cases cb with
          | createContainer pod ctr => cases hcs
          | removeContainer ctr => cases hcs
          | synchronize pods ctrs => exact tracks_synchronize _ hjson (hbare _ (by simp)) hrec

theorem Processor.Reaches.dir_eq {d : MapDir} {cbs : List Callback} {p : Processor}
    (h : Processor.Reaches cfg d cbs p) (hflushed : p.Flushed) : p.dir = dirAfter cfg cbs d := by
  rw [← hflushed.drained, h.drained_eq]

/-- After every flush that follows a Synchronize the reader returns the records of
the live containers, if and only if no Synchronize without a record meets a
directory that still holds one. -/
theorem mapping_tracks_live_iff (cfg : Config) (d : MapDir) (cbs : List Callback)
    (hd : JsonFiles d) (hbare : ∀ cb ∈ cbs, cb.Bare) :
    (∀ done p, done <+: cbs → (∃ cb ∈ done, cb.isSynchronize = true) →
      Processor.Reaches cfg d done p → p.Flushed → Tracks cfg (liveAfter cfg done) p.dir) ↔
    ∀ before p pods ctrs, before ++ [.synchronize pods ctrs] <+: cbs →
      Processor.Reaches cfg d before p → p.Flushed →
      cfg.adapter.containers pods ctrs ≠ [] ∨ Reader.activeContainers p.dir = [] := by
  constructor
  · intro h before p pods ctrs hpre hp hflushed
    by_cases hrec : cfg.adapter.containers pods ctrs = []
    · obtain ⟨q, hq, hqflushed⟩ :=
        Processor.exists_flushed cfg (before ++ [.synchronize pods ctrs]) d
      have hrec' : (Callback.synchronize pods ctrs).Recordless cfg := hrec
      have htracks := h _ q hpre ⟨.synchronize pods ctrs, by simp, rfl⟩ hq hqflushed
      rw [hq.dir_eq hqflushed, liveAfter_append, dirAfter_snoc, tracks_recordless _ hrec']
        at htracks
      rw [hp.dir_eq hflushed]
      exact Or.inr (Reader.activeContainers_eq_nil.mpr htracks)
    · exact Or.inl hrec
  · intro h done p hpre hsync hp hflushed
    rw [hp.dir_eq hflushed]
    refine tracks_dirAfter hd (fun cb hcb => hbare cb (hpre.subset hcb)) ?_ hsync
    intro before cb hpre' hrec
    cases cb with
    | createContainer pod ctr => cases hrec
    | removeContainer ctr => cases hrec
    | synchronize pods ctrs =>
      obtain ⟨q, hq, hqflushed⟩ := Processor.exists_flushed cfg before d
      rcases h before q pods ctrs (hpre'.trans hpre) hq hqflushed with hne | hempty
      · exact absurd hrec hne
      · rw [hq.dir_eq hqflushed] at hempty
        exact Reader.activeContainers_eq_nil.mp hempty

end Runs

section Trainer

/-- A directory with the record of a container that is gone. -/
def leftoverDir : MapDir :=
  (∅ : MapDir).insert "old.json" (Writer.published (containerOn "old" "u0"))

/-- A container of the trainer pod without GPU memory annotations. -/
def sidecarContainer : Container :=
  { id := "c2", podSandboxId := "p1", name := "sidecar", state := .running
    env := [], mounts := [], linux := none }

theorem jsonFiles_leftoverDir : JsonFiles leftoverDir :=
  JsonFiles.insert (by simp [JsonFiles]) _ _

/-- A Synchronize that lists one container, which is not fractional, leaves the
record of a container that no longer exists. -/
theorem recordless_synchronize_keeps_stale_record :
    letI := gibQuantities
    let cbs : List Callback := [.synchronize [trainerPod] [sidecarContainer]]
    JsonFiles leftoverDir ∧ (∀ cb ∈ cbs, cb.Bare) ∧
    ∃ p, Processor.Reaches defaultConfig leftoverDir cbs p ∧ p.Flushed ∧
      ¬ Tracks defaultConfig (liveAfter defaultConfig cbs) p.dir ∧
      (Reader.store p.dir).lookup "old" = some (containerOn "old" "u0").recorded := by
  let inst : ParseQuantity := gibQuantities
  refine ⟨jsonFiles_leftoverDir, ?_, ?_⟩
  · intro cb hcb
    rw [List.mem_singleton.mp hcb]
    simp only [Callback.Bare]
    decide
  obtain ⟨p, hp, hflushed⟩ := Processor.exists_flushed defaultConfig
    [.synchronize [trainerPod] [sidecarContainer]] leftoverDir
  have hstale : (Reader.store p.dir).lookup "old" = some (containerOn "old" "u0").recorded := by
    rw [hp.dir_eq hflushed]
    decide
  refine ⟨p, hp, hflushed, ?_, hstale⟩
  intro htracks
  have hdue := htracks "old"
  rw [hstale] at hdue
  exact absurd hdue (by decide)

/-- A Synchronize that also lists a fractional container replaces the leftover record. -/
theorem mapping_tracks_live_iff_trainer :
    letI := gibQuantities
    let cbs : List Callback := [.synchronize [trainerPod] [sidecarContainer, trainerContainer]]
    ∃ p, Processor.Reaches defaultConfig leftoverDir cbs p ∧ p.Flushed ∧
      Tracks defaultConfig (liveAfter defaultConfig cbs) p.dir := by
  let inst : ParseQuantity := gibQuantities
  obtain ⟨p, hp, hflushed⟩ := Processor.exists_flushed defaultConfig
    [.synchronize [trainerPod] [sidecarContainer, trainerContainer]] leftoverDir
  refine ⟨p, hp, hflushed, ?_⟩
  refine (mapping_tracks_live_iff defaultConfig leftoverDir _ jsonFiles_leftoverDir ?_).mpr ?_
    _ p (List.prefix_refl _) ⟨_, List.mem_singleton_self _, rfl⟩ hp hflushed
  · intro cb hcb
    rw [List.mem_singleton.mp hcb]
    simp only [Callback.Bare]
    decide
  · intro before q pods ctrs hpre _ _
    obtain ⟨rest, hrest⟩ := hpre
    cases before with
    | nil =>
      simp only [List.nil_append, List.singleton_append, List.cons.injEq,
        Callback.synchronize.injEq] at hrest
      obtain ⟨⟨rfl, rfl⟩, -⟩ := hrest
      exact Or.inl (by decide)
    | cons cb before => simp at hrest

end Trainer

end GpuFractioning.Fractiond
