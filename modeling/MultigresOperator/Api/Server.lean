import MultigresOperator.Api.Objects
import MultigresOperator.Lib.Keyed
import MultigresOperator.Lib.Prog

/-!
# The API server

The objects the Shard controller works on, as the API server holds them, and the requests of the
controller. A write stamps a resource version from a counter that only grows; patches and deletes
may be conditioned on a resource version or a UID. A delete either removes the object at once or
leaves it terminating, as the API server decides (finalizers, grace periods, pods no node has
accepted yet): the decision and the deadline are part of the request.

## Main results

* `exec_createPod`, `exec_patchPod`, `exec_deletePod`: the pods after a request
* `exec_createPVC`, `exec_patchPVC`, `exec_applyPVC`, `exec_deletePVC`: the PVCs after a request
* `origin_of_exec`: what a request can do to a pod
-/

namespace MultigresOperator

open Effects

/-- The kinds of API errors the controller distinguishes. -/
inductive ErrorKind
  | notFound
  | alreadyExists
  | conflict
  | other
  deriving DecidableEq, Repr

/-- An error with its text. Wrapping an error keeps its kind. -/
structure Failure where
  kind : ErrorKind
  text : String
  deriving DecidableEq, Repr

namespace Failure

/-- `errors.IsNotFound` -/
def isNotFound (e : Failure) : Bool := e.kind = .notFound

/-- `errors.IsAlreadyExists` -/
def isAlreadyExists (e : Failure) : Bool := e.kind = .alreadyExists

/-- `fmt.Errorf("text: %w", err)` -/
def wrap (text : String) (e : Failure) : Failure := { e with text := text ++ ": " ++ e.text }

/-- `fmt.Errorf("text")` -/
def new (text : String) : Failure := ⟨.other, text⟩

end Failure

structure Deployment where
  name : String
  labels : Labels
  deletionTimestamp : Option Time := none
  deriving DecidableEq, Repr

/-- The objects of the shard's namespace. `storageClasses` says which classes allow expansion,
`clusters` which MultigresClusters exist and whether they are being deleted, and `shardFinalizer`
whether the Shard carries its finalizer. -/
structure Server where
  pods : Keyed Pod.name
  pvcs : Keyed PVC.name
  deployments : Keyed Deployment.name
  storageClasses : List (String × Bool)
  clusters : List (String × Bool)
  shardFinalizer : Bool
  revision : ℕ
  deriving DecidableEq

/-! ## Requests -/

def Server.listPods (s : Server) (selector : Labels) : List Pod :=
  s.pods.items.filter fun pod => selector.Matches pod.labels

def Server.listPVCs (s : Server) (selector : Labels) : List PVC :=
  s.pvcs.items.filter fun pvc => selector.Matches pvc.labels

inductive PodPatch
  | requestDrain (now : Time)
  | setDrainState (state : DrainState)
  | clearDrain
  | setMaintenanceSurge (on : Bool)
  | setMaintenanceReady (on : Bool)
  deriving DecidableEq, Repr

def PodPatch.apply : PodPatch → Pod → Pod
  | .requestDrain now, pod =>
    { pod with drainState := some .requested, drainRequestedAt := some now }
  | .setDrainState state, pod => { pod with drainState := some state }
  | .clearDrain, pod => { pod with drainState := none, drainRequestedAt := none }
  | .setMaintenanceSurge on, pod => { pod with maintenanceSurge := on }
  | .setMaintenanceReady on, pod => { pod with maintenanceReady := on }

/-- A merge patch of a PVC: the fields it sets, and the resource version it is conditioned on. -/
structure PVCPatch where
  orphanSince : Option (Option OrphanLabel) := none
  ownerRefs : Option (List OwnerRef) := none
  request : Option ℕ := none
  resourceVersion : Option ℕ := none
  deriving DecidableEq, Repr

def PVCPatch.apply (patch : PVCPatch) (pvc : PVC) : PVC :=
  { pvc with
    orphanSince := patch.orphanSince.getD pvc.orphanSince
    ownerRefs := patch.ownerRefs.getD pvc.ownerRefs
    request := patch.request.getD pvc.request }

/-- How the API server carries out a delete. -/
structure Removal where
  atOnce : Bool
  deadline : Time
  deriving DecidableEq, Repr

/-- A request that writes. -/
inductive Op
  | createPod (pod : Pod)
  | patchPod (name : String) (patch : PodPatch)
  | deletePod (name : String) (uid : Option ℕ) (how : Removal)
  | createPVC (pvc : PVC)
  | patchPVC (name : String) (patch : PVCPatch)
  | applyPVC (pvc : PVC)
  | deletePVC (name : String) (resourceVersion : Option ℕ) (how : Removal)
  | deleteDeployment (name : String) (how : Removal)
  | setFinalizer (present : Bool)
  deriving DecidableEq, Repr

/-- The pod with a deletion timestamp; one it has already stays. -/
def Pod.stamped (deadline : Time) (pod : Pod) : Pod :=
  { pod with deletionTimestamp := pod.deletionTimestamp.or (some deadline) }

theorem Pod.terminating_stamped (deadline : Time) (pod : Pod) :
    (pod.stamped deadline).terminating = true := by
  cases h : pod.deletionTimestamp <;> simp [Pod.stamped, Pod.terminating, h]

namespace Server

/-- A new pod as it is stored: the server assigns its UID. -/
def admitPod (s : Server) (pod : Pod) : Pod := { pod with uid := s.revision }

/-- A new PVC as it is stored. -/
def admitPVC (s : Server) (pvc : PVC) : PVC :=
  { pvc with uid := s.revision, resourceVersion := s.revision + 1 }

/-- The condition of a request is met. -/
def meets (condition : Option ℕ) (value : ℕ) : Bool := condition.all (· == value)

def removePod (s : Server) (name : String) (how : Removal) : Keyed Pod.name :=
  if how.atOnce then s.pods.erase name
  else s.pods.modify name (Pod.stamped how.deadline) fun _ => rfl

/-- A PVC as a delete leaves it that does not remove it at once. -/
def stampedPVC (s : Server) (deadline : Time) (pvc : PVC) : PVC :=
  { pvc with
    deletionTimestamp := pvc.deletionTimestamp.or (some deadline)
    resourceVersion := s.revision + 1 }

theorem stampedPVC_name (s : Server) (deadline : Time) (pvc : PVC) :
    (s.stampedPVC deadline pvc).name = pvc.name := rfl

def removePVC (s : Server) (name : String) (how : Removal) : Keyed PVC.name :=
  if how.atOnce then s.pvcs.erase name
  else s.pvcs.modify name (s.stampedPVC how.deadline) (s.stampedPVC_name how.deadline)

def removeDeployment (s : Server) (name : String) (how : Removal) : Keyed Deployment.name :=
  if how.atOnce then s.deployments.erase name
  else s.deployments.modify name
    (fun d => { d with deletionTimestamp := d.deletionTimestamp.or (some how.deadline) })
    fun _ => rfl

end Server

theorem PodPatch.apply_name (patch : PodPatch) (pod : Pod) : (patch.apply pod).name = pod.name := by
  cases patch <;> rfl

/-- A PVC as a server-side apply leaves it: the fields the apply states, over what is stored. -/
def PVC.applied (stored desired : PVC) : PVC :=
  { stored with
    labels := Labels.merge desired.labels stored.labels
    ownerRefs := (stored.ownerRefs ++ desired.ownerRefs).dedup
    request := desired.request }

namespace Server

def exec (s : Server) : Op → Except Failure Server
  | .createPod pod =>
    if h : s.pods.find pod.name = none then
      .ok { s with pods := s.pods.insert (s.admitPod pod) h, revision := s.revision + 1 }
    else .error ⟨.alreadyExists, "pods \"" ++ pod.name ++ "\" already exists"⟩
  | .patchPod name patch =>
    if (s.pods.find name).isNone then .error ⟨.notFound, "pods \"" ++ name ++ "\" not found"⟩
    else .ok { s with
      pods := s.pods.modify name patch.apply patch.apply_name, revision := s.revision + 1 }
  | .deletePod name uid how =>
    match s.pods.find name with
    | none => .error ⟨.notFound, "pods \"" ++ name ++ "\" not found"⟩
    | some pod =>
      if meets uid pod.uid then
        .ok { s with pods := s.removePod name how, revision := s.revision + 1 }
      else .error ⟨.conflict, "the UID in the precondition does not match"⟩
  | .createPVC pvc =>
    if h : s.pvcs.find pvc.name = none then
      .ok { s with pvcs := s.pvcs.insert (s.admitPVC pvc) h, revision := s.revision + 1 }
    else .error ⟨.alreadyExists, "persistentvolumeclaims \"" ++ pvc.name ++ "\" already exists"⟩
  | .patchPVC name patch =>
    match s.pvcs.find name with
    | none => .error ⟨.notFound, "persistentvolumeclaims \"" ++ name ++ "\" not found"⟩
    | some pvc =>
      if meets patch.resourceVersion pvc.resourceVersion then
        .ok { s with
          pvcs := s.pvcs.modify name
            (fun pvc => { patch.apply pvc with resourceVersion := s.revision + 1 }) fun _ => rfl
          revision := s.revision + 1 }
      else .error ⟨.conflict, "the object has been modified"⟩
  | .applyPVC pvc =>
    if h : s.pvcs.find pvc.name = none then
      .ok { s with pvcs := s.pvcs.insert (s.admitPVC pvc) h, revision := s.revision + 1 }
    else .ok { s with
      pvcs := s.pvcs.modify pvc.name
        (fun stored => { stored.applied pvc with resourceVersion := s.revision + 1 }) fun _ => rfl
      revision := s.revision + 1 }
  | .deletePVC name resourceVersion how =>
    match s.pvcs.find name with
    | none => .error ⟨.notFound, "persistentvolumeclaims \"" ++ name ++ "\" not found"⟩
    | some pvc =>
      if meets resourceVersion pvc.resourceVersion then
        .ok { s with pvcs := s.removePVC name how, revision := s.revision + 1 }
      else .error ⟨.conflict, "the ResourceVersion in the precondition does not match"⟩
  | .deleteDeployment name how =>
    if (s.deployments.find name).isNone then
      .error ⟨.notFound, "deployments.apps \"" ++ name ++ "\" not found"⟩
    else .ok { s with deployments := s.removeDeployment name how, revision := s.revision + 1 }
  | .setFinalizer present => .ok { s with shardFinalizer := present, revision := s.revision + 1 }

/-! ## What a request changes -/

variable {s s' : Server}

theorem exec_createPod {pod : Pod} (h : s.exec (.createPod pod) = .ok s') :
    (∀ p ∈ s.pods, p.name ≠ pod.name) ∧ (∀ p, p ∈ s'.pods ↔ p = s.admitPod pod ∨ p ∈ s.pods) ∧
      s'.pvcs = s.pvcs := by
  simp only [exec] at h
  split at h
  · next hnone =>
    cases h
    exact ⟨Keyed.find_eq_none.mp hnone, fun p => Keyed.mem_insert (a := s.admitPod pod) (h := hnone), rfl⟩
  · cases h

variable {name : String} {how : Removal}

theorem exec_patchPod {patch : PodPatch} (h : s.exec (.patchPod name patch) = .ok s') :
    (∃ p ∈ s.pods, p.name = name) ∧
      (∀ p, p ∈ s'.pods ↔ ∃ q ∈ s.pods, p = if q.name = name then patch.apply q else q) ∧
      s'.pvcs = s.pvcs := by
  simp only [exec] at h
  split at h
  · cases h
  · next hsome =>
    cases h
    obtain ⟨p, hp⟩ := Option.ne_none_iff_exists'.mp (by simpa using hsome)
    exact ⟨⟨p, Keyed.find_eq_some.mp hp⟩, fun p => Keyed.mem_modify (h := patch.apply_name), rfl⟩

theorem exec_deletePod {uid : Option ℕ} (h : s.exec (.deletePod name uid how) = .ok s') :
    (∃ p ∈ s.pods, p.name = name ∧ meets uid p.uid) ∧ s'.pods = s.removePod name how ∧
      s'.pvcs = s.pvcs := by
  simp only [exec] at h
  split at h
  · cases h
  · next p hp =>
    split at h
    · next hm =>
      cases h
      have ⟨hmem, hname⟩ := Keyed.find_eq_some.mp hp
      exact ⟨⟨p, hmem, hname, hm⟩, rfl, rfl⟩
    · cases h

theorem exec_createPVC {pvc : PVC} (h : s.exec (.createPVC pvc) = .ok s') :
    (∀ p ∈ s.pvcs, p.name ≠ pvc.name) ∧ (∀ p, p ∈ s'.pvcs ↔ p = s.admitPVC pvc ∨ p ∈ s.pvcs) ∧
      s'.pods = s.pods := by
  simp only [exec] at h
  split at h
  · next hnone =>
    cases h
    exact ⟨Keyed.find_eq_none.mp hnone,
      fun p => Keyed.mem_insert (a := s.admitPVC pvc) (h := hnone), rfl⟩
  · cases h

def patchedPVC (s : Server) (patch : PVCPatch) (pvc : PVC) : PVC :=
  { patch.apply pvc with resourceVersion := s.revision + 1 }

/-- The PVC of a name as an apply leaves it. -/
def appliedPVC (s : Server) (desired stored : PVC) : PVC :=
  { stored.applied desired with resourceVersion := s.revision + 1 }

theorem exec_patchPVC {patch : PVCPatch} (h : s.exec (.patchPVC name patch) = .ok s') :
    (∃ p ∈ s.pvcs, p.name = name ∧ meets patch.resourceVersion p.resourceVersion) ∧
      (∀ p, p ∈ s'.pvcs ↔ ∃ q ∈ s.pvcs, p = if q.name = name then s.patchedPVC patch q else q) ∧
      s'.pods = s.pods := by
  simp only [exec] at h
  split at h
  · cases h
  · next p hp =>
    split at h
    · next hm =>
      cases h
      have ⟨hmem, hname⟩ := Keyed.find_eq_some.mp hp
      exact ⟨⟨p, hmem, hname, hm⟩, fun p => Keyed.mem_modify (h := by intro; rfl), rfl⟩
    · cases h

theorem exec_applyPVC {pvc : PVC} (h : s.exec (.applyPVC pvc) = .ok s') :
    s'.pods = s.pods ∧ ∀ p ∈ s'.pvcs, p = s.admitPVC pvc ∨
      ∃ q ∈ s.pvcs, p = if q.name = pvc.name then s.appliedPVC pvc q else q := by
  simp only [exec] at h
  split at h
  · next hnone =>
    cases h
    refine ⟨rfl, fun p hp => ?_⟩
    exact (Keyed.mem_insert (a := s.admitPVC pvc) (h := hnone).mp hp).imp_right fun hp =>
      ⟨p, hp, by simp [Keyed.find_eq_none.mp hnone p hp]⟩
  · cases h
    exact ⟨rfl, fun p hp => .inr (Keyed.mem_modify (h := by intro; rfl).mp hp)⟩

theorem mem_removePVC {p : PVC} :
    p ∈ s.removePVC name how ↔ ∃ q ∈ s.pvcs, p = q ∧ q.name ≠ name ∨
      q.name = name ∧ how.atOnce = false ∧ p = s.stampedPVC how.deadline q := by
  unfold removePVC
  split
  · next hat =>
    refine Keyed.mem_erase.trans ⟨fun ⟨hp, hne⟩ => ⟨p, hp, .inl ⟨rfl, hne⟩⟩, ?_⟩
    rintro ⟨q, hq, ⟨rfl, hne⟩ | ⟨-, hnot, -⟩⟩
    · exact ⟨hq, hne⟩
    · simp [hat] at hnot
  · next hat =>
    refine Keyed.mem_modify.trans (exists_congr fun q => and_congr_right fun _ => ?_)
    by_cases hname : q.name = name <;> simp [hname, hat]

theorem exec_deletePVC {resourceVersion : Option ℕ}
    (h : s.exec (.deletePVC name resourceVersion how) = .ok s') :
    (∃ p ∈ s.pvcs, p.name = name ∧ meets resourceVersion p.resourceVersion) ∧
      s'.pvcs = s.removePVC name how ∧ s'.pods = s.pods := by
  simp only [exec] at h
  split at h
  · cases h
  · next p hp =>
    split at h
    · next hm =>
      cases h
      have ⟨hmem, hname⟩ := Keyed.find_eq_some.mp hp
      exact ⟨⟨p, hmem, hname, hm⟩, rfl, rfl⟩
    · cases h

theorem mem_removePod {p : Pod} (h : p ∈ s.removePod name how) :
    ∃ q ∈ s.pods, p = q ∧ q.name ≠ name ∨
      q.name = name ∧ how.atOnce = false ∧ p = q.stamped how.deadline := by
  unfold removePod at h
  split at h
  · have ⟨hp, hne⟩ := Keyed.mem_erase.mp h
    exact ⟨p, hp, .inl ⟨rfl, hne⟩⟩
  · next hat =>
    obtain ⟨q, hq, rfl⟩ := Keyed.mem_modify.mp h
    refine ⟨q, hq, ?_⟩
    by_cases hname : q.name = name
    · exact .inr ⟨hname, by simpa using hat, by simp [hname]⟩
    · exact .inl ⟨by simp [hname], hname⟩

/-- Where a pod comes from that is stored after a request. -/
inductive Origin (s : Server) (o : Op) (pod : Pod) : Prop
  | created {new : Pod} (op : o = .createPod new) (eq : pod = s.admitPod new)
  | kept (mem : pod ∈ s.pods) (op : ∀ patch, o ≠ .patchPod pod.name patch)
  | patched {old : Pod} {patch : PodPatch} (mem : old ∈ s.pods) (op : o = .patchPod old.name patch)
      (eq : pod = patch.apply old)
  | stamped {old : Pod} {uid : Option ℕ} {how : Removal} (mem : old ∈ s.pods)
      (op : o = .deletePod old.name uid how) (eq : pod = old.stamped how.deadline)

/-- **What a request can do to a pod.** -/
theorem origin_of_exec {o : Op} (h : s.exec o = .ok s') {pod : Pod} (hpod : pod ∈ s'.pods) :
    Origin s o pod := by
  -- a request on another kind of object leaves the pods alone
  have other (hpods : s'.pods = s.pods) (ho : ∀ name patch, o ≠ .patchPod name patch) :
      Origin s o pod := .kept (hpods ▸ hpod) (ho pod.name)
  cases o with
  | createPod new =>
    rcases ((exec_createPod h).2.1 pod).mp hpod with heq | hmem
    · exact .created rfl heq
    · exact .kept hmem (by simp)
  | patchPod name patch =>
    obtain ⟨old, hold, rfl⟩ := ((exec_patchPod h).2.1 pod).mp hpod
    split
    · next hname => exact .patched hold (by rw [hname]) rfl
    · next hname => exact .kept hold fun patch' heq => hname (Op.patchPod.inj heq).1.symm
  | deletePod name uid how =>
    obtain ⟨old, hold, ⟨rfl, -⟩ | ⟨rfl, -, rfl⟩⟩ := mem_removePod ((exec_deletePod h).2.1 ▸ hpod)
    · exact .kept hold (by simp)
    · exact .stamped hold rfl rfl
  | createPVC pvc => exact other (exec_createPVC h).2.2 (by simp)
  | patchPVC name patch => exact other (exec_patchPVC h).2.2 (by simp)
  | applyPVC pvc => exact other (exec_applyPVC h).1 (by simp)
  | deletePVC name resourceVersion how => exact other (exec_deletePVC h).2.2 (by simp)
  | deleteDeployment name how =>
    refine other ?_ (by simp)
    simp only [exec] at h
    split at h <;> cases h
    rfl
  | setFinalizer present => cases h; exact other rfl (by simp)

end Server

end MultigresOperator
