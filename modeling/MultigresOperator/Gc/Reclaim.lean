import MultigresOperator.Gc.Clean
import MultigresOperator.Shard.Frame

/-!
# Reclaiming and collecting

The operator and the collector race for a PVC that carries the orphan label: the operator takes it
back before it creates a pod on it, the collector deletes it. Their requests interleave in any way;
the operator, which works on a Shard one pass at a time, makes its own sequences one after the other.
Both sides write under the resource version they read, so the first write wins, and a delete never
hits a PVC under a pod.

## Main definitions

* `claimThenCreate`: the operator readies the PVCs of a pod and creates it
* `releaseThenDelete`: it hands a drained pod's PVC to the collector and deletes the pod
* `contest`: the operator and the collector side by side
* `Readied`: a PVC at the read of the operator

## Main results

* `reclaim_excludes_collect`: **reclaiming and collecting never both win**
* `labelled_claim_reclaimed`: a pod created on a PVC that was labelled at the read
-/

namespace MultigresOperator

open Effects MultigresOperator.Action

/-! ## The operator's sequences -/

/-- A pod is created once its PVCs are ready. -/
def claimThenCreate (pod : Pod) : Action Unit := do
  match ← claimPodVolumes pod.claims with
  | some _ => pure ()
  | none => createPod pod

/-- A drained pod's PVC is released and the pod deleted. -/
def releaseThenDelete (shard : Shard) (pod : Pod) (poolName : String) (pool : PoolSpec)
    (replicas : ℕ) : Action Unit := do
  releaseDrainedPodPVC shard pod poolName pool replicas
  deletePod pod.name none

inductive Actor
  | gc
  | operator
  deriving DecidableEq

/-- What the actors do: runs of the collector, and sequences of the operator in a namespace. -/
inductive Task
  | clean (opts : Gc.Options)
  | claim (ns : String) (pod : Pod)
  | release (ns : String) (shard : Shard) (pod : Pod) (poolName : String) (pool : PoolSpec)
      (replicas : ℕ)

def Task.actor : Task → Actor
  | .clean _ => .gc
  | .claim _ _ => .operator
  | .release _ _ _ _ _ _ => .operator

/-- The operator and the collector side by side. The operator's cached reads may show anything. -/
def contest : Threads Actor Task Answer Namespaces (String × Op) Failure where
  machine := clusterMachine
  answers _ _ := True
  takes actor task := task.actor = actor
  code
    | .clean opts => Gc.clean opts >>= fun _ => pure ()
    | .claim ns pod => (claimThenCreate pod).inNamespace ns
    | .release ns shard pod poolName pool replicas =>
      (releaseThenDelete shard pod poolName pool replicas).inNamespace ns

/-! ## What the collector does to the operator's PVCs -/

namespace Server

/-- Between two requests of the operator PVCs may go, and the ones that stay keep their label. -/
def Trims (s t : Server) : Prop :=
  ∀ pvc ∈ t.pvcs, ∃ old ∈ s.pvcs, old.name = pvc.name ∧ old.orphanSince = pvc.orphanSince

/-- The PVC of a name, if there is one, carries no orphan label. -/
def Unlabelled (claim : String) (s : Server) : Prop :=
  ∀ pvc ∈ s.pvcs, pvc.name = claim → pvc.orphaned = false

variable {s t u : Server}

theorem Trims.refl (s : Server) : s.Trims s := fun pvc hpvc => ⟨pvc, hpvc, rfl, rfl⟩

theorem Trims.trans (h₁ : s.Trims t) (h₂ : t.Trims u) : s.Trims u := by
  intro pvc hpvc
  obtain ⟨mid, hmid, hname, hlabel⟩ := h₂ pvc hpvc
  obtain ⟨old, hold, hname', hlabel'⟩ := h₁ mid hmid
  exact ⟨old, hold, hname'.trans hname, hlabel'.trans hlabel⟩

theorem Unlabelled.trims {claim : String} (h : Unlabelled claim s) (ht : s.Trims t) :
    Unlabelled claim t := by
  intro pvc hpvc hname
  obtain ⟨old, hold, hname', hlabel⟩ := ht pvc hpvc
  simpa [PVC.orphaned, hlabel] using h old hold (hname'.trans hname)

theorem trims_of_deletePVC {name : String} {resourceVersion : Option ℕ} {how : Removal}
    (h : s.exec (.deletePVC name resourceVersion how) = .ok t) : s.Trims t := by
  intro pvc hpvc
  rw [(exec_deletePVC h).2.1] at hpvc
  obtain ⟨old, hold, ⟨rfl, -⟩ | ⟨-, -, rfl⟩⟩ := mem_removePVC.mp hpvc
  · exact ⟨pvc, hold, rfl, rfl⟩
  · exact ⟨old, hold, rfl, rfl⟩

theorem unlabelled_of_clear {claim : String} {resourceVersion : Option ℕ}
    (h : s.exec (.patchPVC claim { orphanSince := some none, resourceVersion }) = .ok t) :
    Unlabelled claim t ∧ ∀ other, Unlabelled other s → Unlabelled other t := by
  have hpvcs := (exec_patchPVC h).2.1
  refine ⟨fun pvc hpvc hname => ?_, fun other hother pvc hpvc hname => ?_⟩
  all_goals
    obtain ⟨old, hold, rfl⟩ := (hpvcs pvc).mp hpvc
    split at hname
    · next heq => simp [heq, patchedPVC, PVCPatch.apply, PVC.orphaned]
    · next heq => first | exact absurd hname heq | simpa [heq] using hother old hold hname

end Server

/-! ## The operator creates no pod on a labelled PVC -/

/-- The precondition of the operator's programs: the collector deletes PVCs in between. -/
abbrev Withstands {α : Type} (p : Action α) (Q : α → Server → Prop) (s : Server) : Prop :=
  p.wp machine Server.Trims (fun _ _ => True) Server.ClaimsUnlabelled Q (fun _ _ => True) s

/-- Once its PVCs are ready none of a pod's claims is labelled, and it stays that way. -/
theorem withstands_claimPodVolumes (claims : List String) (s : Server) :
    Withstands (claimPodVolumes claims)
      (fun claim t => claim = none → ∀ c ∈ claims, Server.Unlabelled c t) s := by
  unfold claimPodVolumes
  refine Prog.wp_firstM Server.Trims.refl
    (I := fun rest t => ∀ c ∈ claims, c ∉ rest → Server.Unlabelled c t) ?_ ?_ ?_
    fun c hc hrest => absurd hc hrest
  · exact fun _ _ _ hQ ht hnone c hc => (hQ hnone c hc).trims ht
  · intro claim rest s hI
    -- the claim at hand has been readied, and those before it still are
    have ready {t u : Server} (ht : s.Trims t) (hu : t.Trims u) (hclaim : Server.Unlabelled claim t) :
        ∀ c ∈ claims, c ∉ rest → Server.Unlabelled c u := by
      intro c hc hrest
      by_cases hcc : c = claim
      · exact hcc ▸ hclaim.trims hu
      · exact (hI c hc (by simp [hcc, hrest])).trims (ht.trans hu)
    refine Prog.wp_mapError_bind (fun _ _ => trivial) (Prog.wp_fetch_bind (fun _ _ => trivial) ?_)
    intro t ht i _
    rw [shown_direct]
    split
    · next hnone =>
      exact fun u hu => ready ht hu fun pvc hpvc hname => absurd hname (Keyed.find_eq_none.mp hnone pvc hpvc)
    · next pvc hfind =>
      have ⟨hpvc, hname⟩ := Keyed.find_eq_some.mp hfind
      split
      · intro u _ hsome
        cases hsome
      · refine Prog.wp_mapError_bind (fun _ _ => trivial) ?_
        unfold clearOrphan
        split
        · exact fun _ _ => trivial
        split
        · -- the patch is accepted: the label is gone
          intro u hu
          refine ⟨fun _ _ _ _ _ => trivial, fun v hv => ⟨fun pod hop => (nomatch hop), fun w hw => ?_⟩⟩
          have ⟨hcleared, hothers⟩ := Server.unlabelled_of_clear hv
          intro c hc hrest
          by_cases hcc : c = claim
          · exact (hcc ▸ hname ▸ hcleared).trims hw
          · exact (hothers c ((hI c hc (by simp [hcc, hrest])).trims (ht.trans hu))).trims hw
        · next hlabel =>
          refine fun u hu => ready ht hu fun stored hstored hname' => ?_
          obtain rfl := t.pvcs.eq_of_key_eq hstored hpvc (hname'.trans hname.symm)
          simpa using hlabel
  · exact fun s hI _ c hc => hI c hc (by simp)

theorem withstands_claimThenCreate (pod : Pod) (s : Server) :
    Withstands (claimThenCreate pod) (fun _ _ => True) s := by
  refine Prog.wp_bind Server.Trims.refl (Prog.wp_conseq (withstands_claimPodVolumes pod.claims s) ?_
    fun _ _ h => h)
  intro claim t hclaim
  cases claim with
  | some claim => exact fun _ _ => trivial
  | none =>
    intro u hu i _
    refine Prog.wp_conseq (Q := fun _ _ => True) (E := fun _ _ => True) ?_ (fun _ _ h => h) fun _ _ h => h
    intro v hv
    refine ⟨fun _ e _ => ?_, fun w hw => ⟨?_, fun _ _ => trivial⟩⟩
    · dsimp only
      split <;> exact fun _ _ => trivial
    · intro new hop pvc hpvc hclaims
      obtain rfl := Op.createPod.inj hop
      exact ((hclaim rfl pvc.name hclaims).trims (hu.trans hv)) pvc hpvc rfl

def Op.NoPodCreate (o : Op) : Prop := ∀ pod, o ≠ .createPod pod

theorem Op.OnPVC.noPodCreate {o : Op} (h : o.OnPVC) : o.NoPodCreate := by
  rintro pod rfl
  exact h

theorem noPodCreate_releaseThenDelete (shard : Shard) (pod : Pod) (poolName : String)
    (pool : PoolSpec) (replicas : ℕ) :
    (releaseThenDelete shard pod poolName pool replicas).Only Op.NoPodCreate := by
  refine Prog.only_bind (Prog.only_mono (onPVC_releaseDrainedPodPVC shard pod poolName pool replicas)
    fun o ho => ho.noPodCreate) fun _ => ?_
  exact Prog.only_bind Prog.only_answer fun _ => Prog.only_performUnless fun _ hop => nomatch hop

/-! ## What the operator has read when it creates a pod -/

/-- A claim at the operator's read: the PVC is absent, or it is not being deleted and its label, if it
carries one, is cleared under the resource version just read. -/
def ReadiedIn (log : List (Act Server Op)) (claim : String) (s : Server) : Prop :=
  ∀ pvc ∈ s.pvcs, pvc.name = claim → pvc.terminating = false ∧
    (pvc.orphaned = true → ∃ t, Act.call t (.patchPVC claim
      { orphanSince := some none, resourceVersion := some pvc.resourceVersion }) ∈ log)

theorem ReadiedIn.mono {log log' : List (Act Server Op)} {claim : String} {s : Server}
    (h : ReadiedIn log claim s) (hlog : log ⊆ log') : ReadiedIn log' claim s := by
  intro pvc hpvc hname
  have ⟨hterm, hclear⟩ := h pvc hpvc hname
  exact ⟨hterm, fun horphan => (hclear horphan).imp fun _ hmem => hlog hmem⟩

section Logs

variable {A : Server → Answer → Prop} {l : List (Act Server Op)}

theorem logged_clearOrphan {pvc pvc' : PVC}
    (h : Prog.Logged machine A (clearOrphan pvc) l (.ret pvc')) :
    readStores l = [] ∧ (pvc.orphaned = true → ∃ t, Act.call t (.patchPVC pvc.name
      { orphanSince := some none, resourceVersion := some pvc.resourceVersion }) ∈ l) := by
  unfold clearOrphan at h
  split at h
  · cases h with | move hm => cases hm
  split at h
  · obtain ⟨_, l₁, l₂, hpatch, hret, rfl⟩ := h.bind_ret
    obtain ⟨t, rfl⟩ := hpatch.of_perform
    obtain ⟨rfl, -⟩ := hret.of_ret
    exact ⟨rfl, fun _ => ⟨t, by simp⟩⟩
  · next hlabel =>
    obtain ⟨rfl, -⟩ := h.of_ret
    exact ⟨rfl, fun horphan => absurd horphan hlabel⟩

/-- **The reads of the operator**: once it has readied the claims of a pod, it has read each of them
once, in order, and found it ready or made it so. -/
theorem logged_claimPodVolumes {claims : List String}
    (h : Prog.Logged machine A (claimPodVolumes claims) l (.ret none)) :
    List.Forall₂ (ReadiedIn l) claims (readStores l) := by
  unfold claimPodVolumes at h
  induction claims generalizing l with
  | nil =>
    obtain ⟨rfl, -⟩ := Prog.Logged.of_ret h
    exact .nil
  | cons claim claims ih =>
    obtain ⟨found, l₁, l₂, hclaim, hrest, rfl⟩ := Prog.Logged.bind_ret h
    cases found with
    | some name => cases (Prog.Logged.of_ret hrest).2
    | none =>
      obtain ⟨pvc, l₃, l₄, hread, hready, rfl⟩ := hclaim.bind_ret
      obtain ⟨s, i, -, rfl, rfl⟩ := hread.mapError_ret.of_fetch
      have hothers := (ih hrest).imp fun _ _ (h : ReadiedIn l₂ _ _) =>
        h.mono (List.subset_append_right ([.read .direct s] ++ l₄) l₂)
      suffices readStores l₄ = [] ∧ ReadiedIn l₄ claim s by
        rw [readStores_append, readStores_append, this.1]
        refine .cons (this.2.mono ?_) hothers
        exact fun act hact => List.mem_append_left _ (List.mem_append_right _ hact)
      rw [shown_direct] at hready
      split at hready
      · next hnone =>
        obtain ⟨rfl, -⟩ := hready.of_ret
        exact ⟨rfl, fun pvc hpvc hname => absurd hname (Keyed.find_eq_none.mp hnone pvc hpvc)⟩
      next pvc hfind =>
      have ⟨hpvc, hname⟩ := Keyed.find_eq_some.mp hfind
      split at hready
      · cases hready.of_ret.2
      next hterm =>
      obtain ⟨pvc', l₅, l₆, hclear, hret, rfl⟩ := hready.bind_ret
      obtain ⟨rfl, -⟩ := hret.of_ret
      rw [List.append_nil]
      have ⟨hreads, hcleared⟩ := logged_clearOrphan hclear.mapError_ret
      refine ⟨hreads, fun stored hstored hname' => ?_⟩
      obtain rfl := s.pvcs.eq_of_key_eq hstored hpvc (hname'.trans hname.symm)
      exact ⟨by simpa using hterm, hname ▸ hcleared⟩

theorem logged_claimThenCreate {pod new : Pod} {k : Except Failure Unit → Action Unit}
    (h : Prog.Logged machine A (claimThenCreate pod) l (.call (.createPod new) k)) :
    new.claims = pod.claims ∧ List.Forall₂ (ReadiedIn l) pod.claims (readStores l) := by
  obtain ⟨found, l₁, l₂, hclaim, hcreate, rfl⟩ :=
    Prog.Logged.bind_call h (onPVC_claimPodVolumes pod.claims) fun ho => ho
  cases found with
  | some name => cases hcreate with | move hm => cases hm
  | none =>
    have hlog : l₂ = [] ∧ new.claims = pod.claims := by
      change Prog.Logged machine A (.ask fun _ => _) l₂ _ at hcreate
      cases hcreate with
      | move hm hrest =>
        cases hm with
        | ask =>
          cases hrest with
          | refl => exact ⟨rfl, rfl⟩
          | move hm hrest =>
            cases hm with
            | call => cases hrest with | move hm => cases hm
            | refused =>
              dsimp only at hrest
              split at hrest <;> cases hrest with | move hm => cases hm
    rw [hlog.1, List.append_nil]
    exact ⟨hlog.2, logged_claimPodVolumes hclaim⟩

end Logs

/-! ## Side by side -/

/-- `ReadiedIn` in one of the namespaces. -/
def Readied (log : List (Act Namespaces (String × Op))) (ns claim : String) (c : Namespaces) : Prop :=
  ∀ pvc ∈ (c.server ns).pvcs, pvc.name = claim → pvc.terminating = false ∧
    (pvc.orphaned = true → ∃ d, Act.call d (ns, .patchPVC claim
      { orphanSince := some none, resourceVersion := some pvc.resourceVersion }) ∈ log)

theorem readied_of_readiedIn {ns claim : String} {log' : List (Act Namespaces (String × Op))}
    {log : List (Act Server Op)} {c : Namespaces}
    (hacts : List.Forall₂ (Prog.ActWithin (fun c => Namespaces.server c ns) fun o => (ns, o)) log' log)
    (h : ReadiedIn log claim (c.server ns)) : Readied log' ns claim c := by
  intro pvc hpvc hname
  refine (h pvc hpvc hname).imp_right fun hclear horphan => ?_
  obtain ⟨t, ht⟩ := hclear horphan
  obtain ⟨act, hact, hwithin⟩ := Prog.exists_mem_within hacts ht
  cases hwithin
  exact ⟨_, hact⟩

def Actor.Relies : Actor → Namespaces → Namespaces → Prop
  | .gc => Namespaces.Advances
  | .operator => fun c d => ∀ ns, (c.server ns).Trims (d.server ns)

def Actor.Guarantees : Actor → Namespaces → String × Op → Prop
  | .gc => Gc.Collects
  | .operator => fun c o => (c.server o.1).ClaimsUnlabelled o.2

theorem Actor.relies_refl : ∀ (a : Actor) (c : Namespaces), a.Relies c c
  | .gc, c => .refl c
  | .operator, _ => fun _ => .refl _

theorem Actor.relies_trans (a : Actor) {c d e : Namespaces} (h₁ : a.Relies c d) (h₂ : a.Relies d e) :
    a.Relies c e := by
  cases a with
  | gc => exact Namespaces.Advances.trans h₁ h₂
  | operator => exact fun ns => (h₁ ns).trans (h₂ ns)

theorem Actor.compatible (a b : Actor) (hab : a ≠ b) (c : Namespaces) (o : String × Op) (d : Namespaces)
    (hG : a.Guarantees c o) (h : c.exec o = .ok d) : b.Relies c d := by
  cases a <;> cases b
  · exact absurd rfl hab
  · intro ns
    obtain ⟨name, resourceVersion, how, hop, -⟩ := hG
    have ⟨hexec, hother⟩ := Namespaces.exec_ok h
    by_cases hns : ns = o.1
    · subst hns
      rw [hop] at hexec
      exact Server.trims_of_deletePVC hexec
    · rw [hother ns hns]
      exact .refl _
  · exact Namespaces.advances_of_exec hG h
  · exact absurd rfl hab

theorem contest_safe (a : Actor) (task : Task) (h : contest.takes a task) (c : Namespaces)
    (hc : c.Fresh) : contest.Safe Actor.Relies Actor.Guarantees a (contest.code task) c := by
  obtain rfl : task.actor = a := h
  cases task with
  | clean opts =>
    exact Prog.wp_bind Namespaces.Advances.refl (Prog.wp_conseq (Gc.upholds_clean opts hc)
      (fun _ _ _ _ _ => trivial) fun _ _ h => h)
  | claim ns pod =>
    exact Prog.wp_within (within_clusterMachine ns) (fun _ _ h => h ns) (fun _ _ h => h)
      (fun _ _ h => h) (withstands_claimThenCreate pod _)
  | release ns shard pod poolName pool replicas =>
    exact Prog.wp_within (within_clusterMachine ns) (fun _ _ h => h ns) (fun _ _ h => h)
      (fun _ _ h => h) (Prog.wp_of_only (G := Server.ClaimsUnlabelled) (A := fun _ _ => True)
        (noPodCreate_releaseThenDelete shard pod poolName pool replicas)
        (fun _ _ ho pod hop => absurd hop (ho pod)) _)

/-- **Reclaiming and collecting never both win.** Whenever the collector deletes a PVC, no pod
references it; and whenever the operator creates a pod, it has read each of the pod's PVCs once since
it took the pod up, and the PVC was absent then, or not being deleted and not labelled, or it was
labelled and the label has been cleared under the resource version of that read. -/
theorem reclaim_excludes_collect {c d : Namespaces} {o : String × Op} {a : Actor}
    {x y : Config Actor Task Answer Namespaces (String × Op) Failure} (hc : c.Fresh)
    (h : contest.Reachable c x) (hstep : contest.Step x a (some (.call d o)) y) :
    (a = .gc → Gc.Collects d o) ∧
      (a = .operator → ∀ pod, o.2 = .createPod pod →
        List.Forall₂ (Readied (x.thread .operator).log o.1) pod.claims
          (readStores (x.thread .operator).log)) := by
  constructor
  · rintro rfl
    exact (Threads.guard_of_step (R := Actor.Relies) (G := Actor.Guarantees) ⟨Actor.relies_refl,
      fun a => a.relies_trans, contest_safe,
      fun _ c o d hc _ hexec ns => (Namespaces.fresh_of_exec hc hexec) ns,
      fun a b hab c o d _ hG hexec => Actor.compatible a b hab c o d hG hexec⟩ hc h hstep).2.1
  · rintro rfl pod hop
    obtain ⟨k, hcall⟩ := hstep.call_eq
    cases htask : (x.thread .operator).task with
    | none =>
      have := Threads.done_of_reachable h .operator htask
      simp [hcall, Prog.Done] at this
    | some task =>
      obtain ⟨htakes, hlogged⟩ := Threads.logged_of_reachable h .operator htask
      rw [hcall] at hlogged
      obtain ⟨ns, op⟩ := o
      obtain rfl : op = .createPod pod := hop
      cases task with
      | clean opts => cases htakes
      | claim ns' pod' =>
        obtain ⟨l, q, hl, hq, hacts⟩ :=
          Prog.Logged.within (A := fun _ _ => True) (within_clusterMachine ns') (fun _ _ _ => trivial) hlogged
        cases q <;> cases hq
        obtain ⟨hclaims, hreads⟩ := logged_claimThenCreate hl
        rw [Prog.readStores_within hacts, List.forall₂_map_right_iff] at hreads
        rw [hclaims]
        exact hreads.imp fun _ _ h => readied_of_readiedIn hacts h
      | release ns' shard pod' poolName pool replicas =>
        obtain ⟨l, q, hl, hq, -⟩ :=
          Prog.Logged.within (A := fun _ _ => True) (within_clusterMachine ns') (fun _ _ _ => trivial) hlogged
        cases q <;> cases hq
        exact absurd rfl ((hl.only (noPodCreate_releaseThenDelete shard pod' poolName pool replicas)).1 pod)

/-! ## A PVC that is labelled -/

namespace Sample

def orphanPVC : PVC where
  name := "data-0"
  uid := 1
  resourceVersion := 5
  labels := [(.appManagedBy, "multigres-operator")]
  orphanSince := some (.since 0)

def orphanServer : Server where
  pods := ⟨[], List.nodup_nil⟩
  pvcs := ⟨[orphanPVC], by simp⟩
  deployments := ⟨[], List.nodup_nil⟩
  storageClasses := []
  clusters := []
  shardFinalizer := true
  revision := 5

/-- One namespace holds a labelled PVC that no pod uses. -/
def orphanCluster : Namespaces := ⟨["db"], fun _ => orphanServer⟩

theorem orphanCluster_fresh : orphanCluster.Fresh := by
  intro ns pvc hpvc
  obtain rfl := List.mem_singleton.mp hpvc
  exact le_rfl

def returningPod : Pod where
  name := "pod-0"
  uid := 0
  labels := []
  claims := ["data-0"]

theorem reclaim_run : ∃ x y d, contest.Reachable orphanCluster x ∧
    contest.Step x .operator (some (.call d ("db", .createPod returningPod))) y ∧
    readStores (x.thread .operator).log = [orphanCluster] := by
  have h₀ : contest.Reachable orphanCluster _ := .idle
  have takes : contest.takes .operator (.claim "db" returningPod) := rfl
  have h₁ := h₀.step (.take trivial takes)
  have h₂ := h₁.step (.move (t := Actor.operator) (.read (i := {}) trivial))
  have h₃ := h₂.step (.move (t := Actor.operator) (.call (i := {}) rfl))
  have h₄ := h₃.step (.move (t := Actor.operator) (.ask (i := {}) trivial))
  exact ⟨_, _, _, h₄, .move (t := Actor.operator) (.call (i := {}) rfl), rfl⟩

theorem collect_run : ∃ x y, contest.Reachable orphanCluster x ∧ contest.Step x .gc
    (some (.call orphanCluster ("db", .deletePVC "data-0" (some 5) ⟨true, 0⟩))) y := by
  have h₀ : contest.Reachable orphanCluster _ := .idle
  have takes : contest.takes .gc (.clean { retention := 0 }) := rfl
  have h₁ := h₀.step (.take trivial takes)
  have h₂ := h₁.step (.move (t := Actor.gc) (.read (i := {}) trivial))
  have h₃ := h₂.step (.move (t := Actor.gc) (.ask (i := {}) trivial))
  have h₄ := h₃.step (.move (t := Actor.gc) (.read (i := {}) trivial))
  have h₅ := h₄.step (.move (t := Actor.gc) (.ask (i := { removal := ⟨true, 0⟩ }) trivial))
  exact ⟨_, _, h₅, .move (t := Actor.gc) (.call (i := {}) rfl)⟩

end Sample

section

open Sample

/-- The collector deletes the PVC while no pod is on it, and the operator creates a pod on the PVC whose
label it has cleared. -/
theorem reclaim_excludes_collect_returning :
    Gc.Collects orphanCluster ("db", .deletePVC "data-0" (some 5) ⟨true, 0⟩) ∧
    ∃ x : Config Actor Task Answer Namespaces (String × Op) Failure,
      readStores (x.thread .operator).log = [orphanCluster] ∧
      List.Forall₂ (Readied (x.thread .operator).log "db") returningPod.claims
        (readStores (x.thread .operator).log) := by
  obtain ⟨x, y, hx, hstep⟩ := collect_run
  obtain ⟨x', y', d, hx', hstep', hreads⟩ := reclaim_run
  exact ⟨(reclaim_excludes_collect orphanCluster_fresh hx hstep).1 rfl, x', hreads,
    (reclaim_excludes_collect orphanCluster_fresh hx' hstep').2 rfl _ rfl⟩

/-- **A labelled claim reclaimed**: the operator creates a pod on a PVC that carried the orphan label
at the operator's own read. -/
theorem labelled_claim_reclaimed :
    ∃ c x y d pod, c.Fresh ∧ contest.Reachable c x ∧
      contest.Step x .operator (some (.call d ("db", .createPod pod))) y ∧
      ¬ List.Forall₂ (fun claim (e : Namespaces) => ∀ pvc ∈ (e.server "db").pvcs, pvc.name = claim →
          pvc.terminating = false ∧ pvc.orphaned = false)
        pod.claims (readStores (x.thread .operator).log) := by
  obtain ⟨x, y, d, hx, hstep, hreads⟩ := reclaim_run
  refine ⟨_, x, y, d, _, orphanCluster_fresh, hx, hstep, fun hready => ?_⟩
  rw [hreads] at hready
  cases hready with
  | cons h _ => cases (h orphanPVC (List.mem_singleton.mpr rfl) rfl).2

end

end MultigresOperator
