import GpuFractioning.Operator.DependencyChecker
import GpuFractioning.Operator.ManagedDaemon

/-!
# The cluster as the operator sees it

The objects behind the API server, and the surroundings of one reconcile: which
of its API calls fail, whether the context has ended by then, what the clock
shows, how lists are divided into pages, and which defaults the API server fills in
when it stores a DaemonSet. A call that fails has no effect.
-/

namespace GpuFractioning.Operator

/-- The calls of one reconcile. Those of a loop are told apart by page and item, by
node or by daemon. -/
inductive ApiCall where
  | getConfig
  | addFinalizer
  | listClusterPolicies
  | listClusterServiceVersions
  | getDaemonSet (daemon : String)
  | writeDaemonSet (daemon : String)
  | refetchDaemonSet (daemon : String)
  | listUpgradingNodes
  | removeUpgradingCondition (node : String)
  | listPods (page : ℕ)
  | checkDriver (page item : ℕ)
  | readNode (page item : ℕ)
  | patchNode (page item : ℕ)
  | updateStatus
  | listNodesWithCondition (page : ℕ)
  | removeCondition (node : String)
  | listNodesWithLabel (page : ℕ)
  | removeLabel (node : String)
  | removeFinalizer
  deriving DecidableEq, Repr

section Defaults

/-- What defaults leave of a container as it was set. -/
structure Container.Kept (ctr stored : Container) : Prop where
  name : stored.name = ctr.name
  image : stored.image = ctr.image
  imagePullPolicy : ctr.imagePullPolicy ≠ "" → stored.imagePullPolicy = ctr.imagePullPolicy
  args : stored.args = ctr.args
  env : stored.env = ctr.env

/-- The defaults of an API server. -/
structure SpecDefaults where
  apply : DaemonSetSpec → DaemonSetSpec
  apply_apply : ∀ spec, apply (apply spec) = apply spec
  annotations : ∀ spec, (apply spec).template.annotations = spec.template.annotations
  serviceAccountName : ∀ spec,
    (apply spec).template.spec.serviceAccountName = spec.template.spec.serviceAccountName
  containers : ∀ spec, List.Forall₂ Container.Kept spec.template.spec.containers
    (apply spec).template.spec.containers

namespace SpecDefaults

def probe (p : Probe) : Probe :=
  { p with failureThreshold := if p.failureThreshold = 0 then 3 else p.failureThreshold }

def container (ctr : Container) : Container :=
  { ctr with
    readinessProbe := probe ctr.readinessProbe
    livenessProbe := probe ctr.livenessProbe }

def volume (v : Volume) : Volume :=
  { v with
    source :=
      match v.source with
      | .hostPath path none => .hostPath path (some "")
      | source => source }

theorem probe_probe (p : Probe) : probe (probe p) = probe p := by
  unfold probe
  dsimp only
  split_ifs with h h'
  · exact absurd h' (by decide)
  · rfl
  · rfl

theorem container_container (ctr : Container) : container (container ctr) = container ctr := by
  unfold container
  simp only [probe_probe]

theorem volume_volume (v : Volume) : volume (volume v) = volume v := by
  obtain ⟨name, source⟩ := v
  match source with
  | .hostPath path none => rfl
  | .hostPath path (some type) => rfl
  | .other source => rfl

/-- The defaults of the fields that occur here. -/
def kubernetes : SpecDefaults where
  apply spec :=
    { spec with
      template :=
        { spec.template with
          spec :=
            { spec.template.spec with
              terminationGracePeriodSeconds :=
                some (spec.template.spec.terminationGracePeriodSeconds.getD 30)
              volumes := spec.template.spec.volumes.map volume
              containers := spec.template.spec.containers.map container } } }
  apply_apply spec := by
    simp only [Option.getD_some, List.map_map, Function.comp_def, volume_volume,
      container_container]
  annotations _ := rfl
  serviceAccountName _ := rfl
  containers spec := by
    rw [List.forall₂_map_right_iff, List.forall₂_same]
    exact fun ctr _ => ⟨rfl, rfl, fun _ => rfl, rfl, rfl⟩

end SpecDefaults

end Defaults

/-- The surroundings of one reconcile. -/
structure Env where
  fails : ApiCall → Option String
  ctxDone : ApiCall → Bool
  now : ApiCall → ℤ
  podPages : List Pod → List (List Pod)
  podPages_perm : ∀ pods, (podPages pods).flatten.Perm pods
  nodePages : List (String × Node) → List (List (String × Node))
  nodePages_perm : ∀ nodes, (nodePages nodes).flatten.Perm nodes
  defaults : SpecDefaults

/-- No call fails, the clock stands still and every list is one page. -/
def Env.undisturbed : Env where
  fails _ := none
  ctxDone _ := false
  now _ := 0
  podPages pods := [pods]
  podPages_perm pods := by simp
  nodePages nodes := [nodes]
  nodePages_perm nodes := by simp
  defaults := .kubernetes

/-- DaemonSets are keyed by namespace and name; `none` stands for a kind that is not
installed. -/
structure Cluster where
  config : Option GpuFractioningConfig
  daemonSets : FiniteMap (String × String) DaemonSet
  nodes : FiniteMap String Node
  pods : List Pod
  clusterPolicies : Option (List Json)
  clusterServiceVersions : Option (List Json)

/-- An unpaged list of objects of a kind that may not be installed. -/
def Env.list (env : Env) (call : ApiCall) (objects : Option (List Json)) :
    Except ApiError (List Json) :=
  match env.fails call with
  | some message => .error (.failed message)
  | none =>
    match objects with
    | none => .error .noMatch
    | some objects => .ok objects

def readClusterPolicy (env : Env) (c : Cluster) : ClusterPolicy :=
  ClusterPolicy.ofList (env.list .listClusterPolicies c.clusterPolicies)

/-- A paged list makes at least one call. -/
def atLeastOnePage {α : Type} (pages : List (List α)) : List (List α) :=
  if pages = [] then [[]] else pages

theorem flatten_atLeastOnePage {α : Type} (pages : List (List α)) :
    (atLeastOnePage pages).flatten = pages.flatten := by
  unfold atLeastOnePage
  split_ifs with h
  · rw [h]
    rfl
  · rfl

/-- Label selectors of equalities. -/
def matchesSelector (selector labels : LabelMap) : Bool :=
  selector.pairs.all fun entry => labels.lookup entry.1 = some entry.2

namespace Cluster

def modifyNode (c : Cluster) (name : String) (f : Node → Node) : Cluster :=
  match c.nodes.lookup name with
  | some node => { c with nodes := c.nodes.insert name (f node) }
  | none => c

def nodesMatching (c : Cluster) (selector : LabelMap) : List (String × Node) :=
  c.nodes.pairs.filter fun entry => matchesSelector selector entry.2.labels

/-- The pods of the managed daemons. -/
def managedPods (c : Cluster) (namespace_ : String) : List Pod :=
  c.pods.filter fun pod =>
    pod.namespace_ = namespace_ ∧ pod.labels.lookup labelManagedBy = some managedByValue

theorem lookup_modifyNode (c : Cluster) (name : String) (f : Node → Node) (name' : String) :
    (c.modifyNode name f).nodes.lookup name' =
      if name' = name then (c.nodes.lookup name).map f else c.nodes.lookup name' := by
  unfold modifyNode
  cases hnode : c.nodes.lookup name with
  | none =>
    split_ifs with h
    · rw [h, hnode]
      rfl
    · rfl
  | some node =>
    rw [FiniteMap.lookup_insert]
    rfl

theorem modifyNode_frame (c : Cluster) (name : String) (f : Node → Node) :
    c.modifyNode name f = { c with nodes := (c.modifyNode name f).nodes } := by
  unfold modifyNode
  split <;> rfl

end Cluster

end GpuFractioning.Operator
