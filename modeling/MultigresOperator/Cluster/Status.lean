import MultigresOperator.Api.Conditions
import MultigresOperator.Resolver.Cluster

/-!
# The status of a cluster

At the end of its pass the controller of a cluster lists the objects that carry the cluster's label,
folds their phases into one, and sets the conditions that depend on the cells and on the services
outside the cluster's network. The lists are read from the API server, and hold whatever carries the
label: objects of an earlier spec, objects on their way out, objects the spec names twice.

A table group on its way out is left out of the fold, since its status is the one from before the
drain. Cells and topology servers are not.

## Main results

* `statusOf_healthy_iff`: when the phase is `Healthy`
* `healthy_sound_iff`: `Healthy` says what it should exactly if no listed child stands in for a name
  of the spec while it is on its way out
-/

namespace MultigresOperator

/-- What the fold reads of a child, whatever its kind. -/
structure Child where
  generation : ℕ
  observedGeneration : ℕ
  phase : Phase
  /-- The annotation that asks the object to drain; empty if there is none. -/
  pendingDeletion : String := ""
  deletionTimestamp : Option Time := none
  deriving DecidableEq, Repr

namespace Child

/-- `tgDraining`: the object has started its drain handshake or is being deleted. -/
def draining (child : Child) : Bool :=
  child.pendingDeletion != "" || child.deletionTimestamp.isSome

/-- The child reports `Healthy`, and reports on what it is now. -/
def Current (child : Child) : Prop :=
  child.observedGeneration = child.generation ∧ child.phase = .healthy

instance (child : Child) : Decidable child.Current :=
  inferInstanceAs (Decidable (_ ∧ _))

/-- The child is healthy, and here to stay. -/
def InService (child : Child) : Prop :=
  child.draining = false ∧ child.Current

end Child

/-- The two variables of the fold over all children. -/
structure Tally where
  anyDegraded : Bool := false
  allHealthy : Bool := true
  deriving DecidableEq, Repr

namespace Tally

/-- One round of the loops over the children. -/
def judge (tally : Tally) (child : Child) : Tally :=
  if child.observedGeneration ≠ child.generation then { tally with allHealthy := false }
  else match child.phase with
    | .degraded => { anyDegraded := true, allHealthy := false }
    | .healthy => tally
    | _ => { tally with allHealthy := false }

/-- The loop over the children of one kind. -/
def judgeAll (tally : Tally) (children : List Child) : Tally :=
  children.foldl judge tally

/-- A tally the loops can reach: a degraded child is not healthy. -/
def Consistent (tally : Tally) : Prop :=
  tally.anyDegraded = true → tally.allHealthy = false

variable {tally : Tally}

theorem Consistent.judge (h : tally.Consistent) (child : Child) :
    (tally.judge child).Consistent := by
  unfold Tally.judge
  split
  · exact fun _ => rfl
  · split
    · exact fun _ => rfl
    · exact h
    · exact fun _ => rfl

theorem Consistent.judgeAll (h : tally.Consistent) (children : List Child) :
    (tally.judgeAll children).Consistent := by
  induction children generalizing tally with
  | nil => exact h
  | cons child children ih => exact ih (h.judge child)

theorem allHealthy_judge {child : Child} :
    (tally.judge child).allHealthy = true ↔ tally.allHealthy = true ∧ child.Current := by
  unfold judge Child.Current
  by_cases hg : child.observedGeneration = child.generation
  · rw [if_neg (not_not.mpr hg)]
    cases child.phase <;> simp [hg]
  · simp [hg]

/-- The flag survives a loop if every child reports `Healthy` for what it is now. -/
theorem allHealthy_judgeAll {children : List Child} :
    (tally.judgeAll children).allHealthy = true ↔
      tally.allHealthy = true ∧ ∀ child ∈ children, child.Current := by
  induction children generalizing tally with
  | nil => simp [judgeAll]
  | cons child children ih =>
    change ((tally.judge child).judgeAll children).allHealthy = true ↔ _
    rw [ih, allHealthy_judge, List.forall_mem_cons, and_assoc]

end Tally

/-! ### The objects of a cluster -/

namespace ClusterStatus

open V1Alpha1

structure Cell extends Child where
  name : String
  conditions : List Condition := []
  gatewayReplicas : ℤ := 0
  gatewayReadyReplicas : ℤ := 0
  deriving DecidableEq, Repr

structure TableGroup extends Child where
  databaseName : String
  tableGroupName : String
  readyShards : ℤ := 0
  totalShards : ℤ := 0
  deriving DecidableEq, Repr

structure TopoServer extends Child where
  name : String
  /-- The UID of the controlling owner. -/
  controller : Option ℕ := none
  deriving DecidableEq, Repr

structure Ingress where
  hostname : String := ""
  ip : String := ""
  deriving DecidableEq, Repr

structure Service where
  externalIPs : List String := []
  ingress : List Ingress := []
  deriving DecidableEq, Repr

/-- What one status update reads: the objects with the cluster's label and, where they exist, the
services with an external endpoint and the ready replicas of the admin web deployment. -/
structure Observed where
  cells : List Cell := []
  tableGroups : List TableGroup := []
  topoServers : List TopoServer := []
  gatewayService : Option Service := none
  adminWebService : Option Service := none
  adminWebReadyReplicas : Option ℤ := none

structure CellStatusSummary where
  ready : Bool
  gatewayReplicas : ℤ
  deriving DecidableEq, Repr

structure DatabaseStatusSummary where
  readyShards : ℤ := 0
  totalShards : ℤ := 0
  deriving DecidableEq, Repr

/-- `MultigresClusterStatus` -/
structure Status where
  observedGeneration : ℕ := 0
  phase : Phase := .unset
  message : String := ""
  initializedAt : Option Time := none
  conditions : List Condition := []
  cells : String → Option CellStatusSummary := fun _ => none
  databases : String → Option DatabaseStatusSummary := fun _ => none
  /-- The external endpoint, if the gateway is exposed. -/
  gateway : Option String := none
  adminWeb : Option String := none

/-- The first ingress of a load balancer: its host name before its address. -/
def ingressEndpoint : List Ingress → String
  | [] => ""
  | ing :: _ => if ing.hostname ≠ "" then ing.hostname else ing.ip

def extractExternalEndpoint (svc : Service) : String :=
  match svc.externalIPs with
  | ip :: _ => if ip ≠ "" then ip else ingressEndpoint svc.ingress
  | [] => ingressEndpoint svc.ingress

/-- The condition of an external endpoint: the type, the component in the texts, the reason for want
of ready pods and their name. -/
def endpointCondition (condType component noneReady pods : String) (enabled : Bool)
    (externalEndpoint : String) (readyReplicas : ℤ) (generation : ℕ) (now : Time) :
    Option Condition :=
  if !enabled then none
  else if externalEndpoint = "" then
    some ⟨condType, .conditionFalse, generation, now, "AwaitingEndpoint",
      "Waiting for " ++ component ++ " service endpoint"⟩
  else if readyReplicas = 0 then
    some ⟨condType, .conditionFalse, generation, now, noneReady,
      "External endpoint assigned but no " ++ pods ++ " pods are ready"⟩
  else
    some ⟨condType, .conditionTrue, generation, now, "EndpointReady",
      "External endpoint " ++ externalEndpoint ++ " is serving traffic"⟩

def conditionGatewayExternalReady : String := "GatewayExternalReady"

def conditionAdminWebExternalReady : String := "AdminWebExternalReady"

def computeGatewayCondition :=
  endpointCondition conditionGatewayExternalReady "gateway" "NoReadyGateways" "multigateway"

def computeAdminWebCondition :=
  endpointCondition conditionAdminWebExternalReady "admin web" "NoReadyAdminWeb" "multiadmin-web"

/-- `meta.SetStatusCondition` or, without a condition, `meta.RemoveStatusCondition`. -/
def setOrRemove (conditions : List Condition) (condType : String) :
    Option Condition → List Condition
  | some condition => setCondition conditions condition
  | none => conditions.filter (·.type != condType)

def cellReady (c : Cell) : Bool :=
  c.conditions.any fun cond => cond.type == "Available" && cond.status == .conditionTrue &&
    c.observedGeneration == c.generation

/-- The summaries of the cells; of two cells with one name the later. -/
def summarizeCells (cells : List Cell) (name : String) : Option CellStatusSummary :=
  (cells.reverse.find? (·.name == name)).map fun c => ⟨cellReady c, c.gatewayReplicas⟩

/-- The shards of a database: the ready ones of table groups that report on what they are now. -/
def summarizeDatabases (tgs : List TableGroup) (db : String) : Option DatabaseStatusSummary :=
  match tgs.filter (·.databaseName == db) with
  | [] => none
  | tgs => some
    { readyShards := ((tgs.filter fun tg => tg.observedGeneration == tg.generation).map
        (·.readyShards)).foldl (· + ·) 0
      totalShards := (tgs.map (·.totalShards)).foldl (· + ·) 0 }

def globalTopoName (cluster : MultigresCluster) : String :=
  cluster.name ++ "-global-topo"

/-- A managed global topology server that the spec no longer wants and the cluster still controls:
its retirement waits for `Healthy`, so it must not hold it back. -/
def retiring (cluster : MultigresCluster) (uid : ℕ) (wantsManagedGlobalTopo : Bool)
    (ts : TopoServer) : Bool :=
  !wantsManagedGlobalTopo && ts.name == globalTopoName cluster && ts.controller == some uid

structure TableGroupStatusIdentity where
  database : String
  tableGroup : String
  deriving DecidableEq, Repr

def expectedTableGroups (spec : MultigresClusterSpec) : List TableGroupStatusIdentity :=
  spec.databases.flatMap fun db => db.tableGroups.map fun tg => ⟨db.name, tg.name⟩

def TableGroup.identity (tg : TableGroup) : TableGroupStatusIdentity :=
  ⟨tg.databaseName, tg.tableGroupName⟩

section Update

variable (cluster : MultigresCluster) (uid : ℕ) (wantsManagedGlobalTopo : Bool) (seen : Observed)

def Observed.staying : List TableGroup :=
  seen.tableGroups.filter (!·.draining)

def Observed.counted : List TopoServer :=
  seen.topoServers.filter (!retiring cluster uid wantsManagedGlobalTopo ·)

def somethingMissing : Bool :=
  cluster.spec.cells.any (fun cell => !seen.cells.any (·.name == cell.name)) ||
  (expectedTableGroups cluster.spec).any (fun id => !seen.staying.any (·.identity == id)) ||
  (wantsManagedGlobalTopo && !seen.topoServers.any (·.name == globalTopoName cluster))

/-- The fold over the children of all kinds. -/
def tallyChildren : Tally :=
  let tally : Tally := {}
  let tally := tally.judgeAll (seen.cells.map (·.toChild))
  let tally := tally.judgeAll (seen.staying.map (·.toChild))
  let tally := tally.judgeAll
    ((seen.counted cluster uid wantsManagedGlobalTopo).map (·.toChild))
  if somethingMissing cluster wantsManagedGlobalTopo seen then { tally with allHealthy := false }
  else tally

def phaseOf (tally : Tally) : Phase × String :=
  if tally.anyDegraded then (.degraded, "Cluster is degraded")
  else if tally.allHealthy then (.healthy, "Ready")
  else (.progressing, "Cluster is progressing")

def allCellsReady : Bool :=
  !seen.cells.isEmpty &&
    seen.cells.all fun c => ((summarizeCells seen.cells c.name).map (·.ready)).getD true

def endpointOf (exposed : Option ExternalConfig) (svc : Option Service) : Option String :=
  match exposed with
  | some config => if config.enabled then some ((svc.map extractExternalEndpoint).getD "") else none
  | none => none

/-- The gateways ready in the cells that report on what they are now. -/
def aggregateReadyGateways : ℤ :=
  ((seen.cells.filter fun c => c.observedGeneration == c.generation).map
    (·.gatewayReadyReplicas)).foldl (· + ·) 0

/-- `updateStatus`, once the global topology is resolved. -/
def statusOf (generation : ℕ) (now : Time) (old : Status) : Status :=
  let (phase, message) := phaseOf (tallyChildren cluster uid wantsManagedGlobalTopo seen)
  let gateway := endpointOf cluster.spec.externalGateway seen.gatewayService
  let adminWeb := endpointOf cluster.spec.externalAdminWeb seen.adminWebService
  let conditions := setCondition old.conditions
    { type := "Available"
      status := if allCellsReady seen then .conditionTrue else .conditionFalse
      lastTransitionTime := now
      reason := "AggregatedStatus"
      message := "Aggregation of cell availability" }
  let conditions := setOrRemove conditions conditionGatewayExternalReady
    (computeGatewayCondition gateway.isSome (gateway.getD "") (aggregateReadyGateways seen)
      generation now)
  let conditions := setOrRemove conditions conditionAdminWebExternalReady
    (computeAdminWebCondition adminWeb.isSome (adminWeb.getD "")
      (seen.adminWebReadyReplicas.getD 0) generation now)
  { observedGeneration := generation
    phase, message, conditions, gateway, adminWeb
    initializedAt := old.initializedAt.or (if phase = .healthy then some now else none)
    cells := summarizeCells seen.cells
    databases := summarizeDatabases seen.staying }

end Update

/-- `updateStatus`: the status written, or the error of the global topology. -/
def updateStatus (go : Resolution.GoLib) (r : Resolution.Resolver) (cluster : MultigresCluster)
    (uid generation : ℕ) (now : Time) (old : Status) (seen : Observed) :
    Except Resolution.ResolveError Status := do
  let globalTopoSpec ← (Resolution.resolveGlobalTopo go r cluster).mapError
    (.wrap "failed to resolve global topo for status")
  return statusOf cluster uid globalTopoSpec.etcd.isSome seen generation now old

/-! ### What `Healthy` says -/

section Healthy

variable (cluster : MultigresCluster) (uid : ℕ) (wantsManagedGlobalTopo : Bool) (seen : Observed)

/-- Every object that counts reports `Healthy` for what it is now. -/
structure AllCurrent : Prop where
  cells : ∀ c ∈ seen.cells, c.Current
  tableGroups : ∀ tg ∈ seen.tableGroups, tg.draining = false → tg.Current
  topoServers : ∀ ts ∈ seen.topoServers,
    retiring cluster uid wantsManagedGlobalTopo ts = false → ts.Current

/-- Every name of the spec has an object that counts, and that object has property `P` if it is a
cell or a topology server. -/
structure Named (P : Child → Prop) : Prop where
  cells : ∀ cell ∈ cluster.spec.cells, ∃ c ∈ seen.cells, c.name = cell.name ∧ P c.toChild
  tableGroups : ∀ db ∈ cluster.spec.databases, ∀ group ∈ db.tableGroups,
    ∃ tg ∈ seen.tableGroups, tg.databaseName = db.name ∧ tg.tableGroupName = group.name ∧
      tg.draining = false
  globalTopo : wantsManagedGlobalTopo = true →
    ∃ ts ∈ seen.topoServers, ts.name = globalTopoName cluster ∧ P ts.toChild

/-- What `Healthy` should say: everything the spec names is healthy and here to stay. -/
structure Sound : Prop where
  cells : ∀ cell ∈ cluster.spec.cells, ∃ c ∈ seen.cells, c.name = cell.name ∧ c.InService
  tableGroups : ∀ db ∈ cluster.spec.databases, ∀ group ∈ db.tableGroups,
    ∃ tg ∈ seen.tableGroups, tg.databaseName = db.name ∧ tg.tableGroupName = group.name ∧
      tg.InService
  globalTopo : wantsManagedGlobalTopo = true →
    ∃ ts ∈ seen.topoServers, ts.name = globalTopoName cluster ∧ ts.InService

variable {cluster uid wantsManagedGlobalTopo seen}

theorem mem_staying {tg : TableGroup} :
    tg ∈ seen.staying ↔ tg ∈ seen.tableGroups ∧ tg.draining = false := by
  simp [Observed.staying]

theorem mem_expectedTableGroups {spec : MultigresClusterSpec} {id : TableGroupStatusIdentity} :
    id ∈ expectedTableGroups spec ↔
      ∃ db ∈ spec.databases, ∃ group ∈ db.tableGroups, ⟨db.name, group.name⟩ = id := by
  simp [expectedTableGroups]

theorem somethingMissing_eq_false :
    somethingMissing cluster wantsManagedGlobalTopo seen = false ↔
      Named cluster wantsManagedGlobalTopo seen fun _ => True := by
  unfold somethingMissing
  rw [Bool.or_eq_false_iff, Bool.or_eq_false_iff, List.any_eq_false, List.any_eq_false]
  constructor
  · rintro ⟨⟨hcells, htgs⟩, htopo⟩
    refine ⟨fun cell hcell => ?_, fun db hdb group hgroup => ?_, fun hwants => ?_⟩
    · simpa using hcells cell hcell
    · have h := htgs _ (mem_expectedTableGroups.mpr ⟨db, hdb, group, hgroup, rfl⟩)
      simp only [Bool.not_eq_true', Bool.not_eq_false, List.any_eq_true, beq_iff_eq] at h
      obtain ⟨tg, htg, hid⟩ := h
      obtain ⟨htg, hstay⟩ := mem_staying.mp htg
      injection hid with hdatabase hname
      exact ⟨tg, htg, hdatabase, hname, hstay⟩
    · simpa [hwants] using htopo
  · rintro ⟨hcells, htgs, htopo⟩
    refine ⟨⟨fun cell hcell => ?_, fun id hid => ?_⟩, ?_⟩
    · simpa using hcells cell hcell
    · obtain ⟨db, hdb, group, hgroup, rfl⟩ := mem_expectedTableGroups.mp hid
      obtain ⟨tg, htg, hdatabase, hname, hstay⟩ := htgs db hdb group hgroup
      simp only [Bool.not_eq_true', Bool.not_eq_false, List.any_eq_true, beq_iff_eq]
      exact ⟨tg, mem_staying.mpr ⟨htg, hstay⟩, congr (congrArg _ hdatabase) hname⟩
    · cases wantsManagedGlobalTopo with
      | false => rfl
      | true => simpa using htopo rfl

theorem tallyChildren_eq : tallyChildren cluster uid wantsManagedGlobalTopo seen =
    let tally := Tally.judgeAll {} (seen.cells.map (·.toChild) ++ seen.staying.map (·.toChild) ++
      (seen.counted cluster uid wantsManagedGlobalTopo).map (·.toChild))
    if somethingMissing cluster wantsManagedGlobalTopo seen then { tally with allHealthy := false }
    else tally := by
  unfold tallyChildren Tally.judgeAll
  rw [List.foldl_append, List.foldl_append]

theorem allCurrent_iff : AllCurrent cluster uid wantsManagedGlobalTopo seen ↔
    ∀ child ∈ seen.cells.map (·.toChild) ++ seen.staying.map (·.toChild) ++
      (seen.counted cluster uid wantsManagedGlobalTopo).map (·.toChild), child.Current := by
  constructor
  · rintro ⟨hcells, htgs, htopos⟩ child hchild
    rcases List.mem_append.mp hchild with hchild | hchild
    · rcases List.mem_append.mp hchild with hchild | hchild
      · obtain ⟨c, hc, rfl⟩ := List.mem_map.mp hchild
        exact hcells c hc
      · obtain ⟨tg, htg, rfl⟩ := List.mem_map.mp hchild
        obtain ⟨htg, hstay⟩ := mem_staying.mp htg
        exact htgs tg htg hstay
    · obtain ⟨ts, hts, rfl⟩ := List.mem_map.mp hchild
      obtain ⟨hts, hcounted⟩ := List.mem_filter.mp hts
      exact htopos ts hts (by simpa using hcounted)
  · intro h
    refine ⟨fun c hc => h _ ?_, fun tg htg hstay => h _ ?_, fun ts hts hcounted => h _ ?_⟩
    · exact List.mem_append_left _ (List.mem_append_left _ (List.mem_map_of_mem hc))
    · exact List.mem_append_left _ (List.mem_append_right _
        (List.mem_map_of_mem (mem_staying.mpr ⟨htg, hstay⟩)))
    · exact List.mem_append_right _ (List.mem_map_of_mem
        (List.mem_filter.mpr ⟨hts, by simpa using hcounted⟩))

/-- A cluster is reported `Healthy` if every object that counts is, and every name of the spec has
one. -/
theorem statusOf_healthy_iff {generation : ℕ} {now : Time} {old : Status} :
    (statusOf cluster uid wantsManagedGlobalTopo seen generation now old).phase = .healthy ↔
      AllCurrent cluster uid wantsManagedGlobalTopo seen ∧
        Named cluster wantsManagedGlobalTopo seen fun _ => True := by
  have hphase : ∀ tally : Tally, tally.Consistent →
      ((phaseOf tally).1 = .healthy ↔ tally.allHealthy = true) := by
    rintro ⟨degraded, healthy⟩ h
    cases degraded <;> cases healthy <;> simp_all [phaseOf, Tally.Consistent]
  change (phaseOf _).1 = .healthy ↔ _
  rw [tallyChildren_eq, ← somethingMissing_eq_false, allCurrent_iff]
  dsimp only
  cases hmissing : somethingMissing cluster wantsManagedGlobalTopo seen with
  | true =>
    rw [if_pos rfl, hphase _ fun _ => rfl]
    simp
  | false =>
    have hstart : Tally.Consistent {} := fun h => absurd h Bool.false_ne_true
    rw [if_neg Bool.false_ne_true, hphase _ (hstart.judgeAll _), Tally.allHealthy_judgeAll]
    simp

theorem updateStatus_eq_ok {go : Resolution.GoLib} {r : Resolution.Resolver} {generation : ℕ}
    {now : Time} {old status : Status} {topo : GlobalTopoServerSpec}
    (htopo : Resolution.resolveGlobalTopo go r cluster = .ok topo)
    (h : updateStatus go r cluster uid generation now old seen = .ok status) :
    status = statusOf cluster uid topo.etcd.isSome seen generation now old := by
  rw [updateStatus, htopo] at h
  exact (Except.ok.inj h).symm

/-- What is left to ask once the report is `Healthy`: that no name of the spec stands for objects on
their way out only. -/
theorem sound_iff_named (hcurrent : AllCurrent cluster uid wantsManagedGlobalTopo seen) :
    Sound cluster wantsManagedGlobalTopo seen ↔
      Named cluster wantsManagedGlobalTopo seen fun child => child.draining = false := by
  constructor
  · rintro ⟨hcells, htgs, htopo⟩
    refine ⟨fun cell hcell => ?_, fun db hdb group hgroup => ?_, fun hwants => ?_⟩
    · obtain ⟨c, hc, hname, hserves⟩ := hcells cell hcell
      exact ⟨c, hc, hname, hserves.1⟩
    · obtain ⟨tg, htg, hdatabase, hname, hserves⟩ := htgs db hdb group hgroup
      exact ⟨tg, htg, hdatabase, hname, hserves.1⟩
    · obtain ⟨ts, hts, hname, hserves⟩ := htopo hwants
      exact ⟨ts, hts, hname, hserves.1⟩
  · rintro ⟨hcells, htgs, htopo⟩
    refine ⟨fun cell hcell => ?_, fun db hdb group hgroup => ?_, fun hwants => ?_⟩
    · obtain ⟨c, hc, hname, hstay⟩ := hcells cell hcell
      exact ⟨c, hc, hname, hstay, hcurrent.cells c hc⟩
    · obtain ⟨tg, htg, hdatabase, hname, hstay⟩ := htgs db hdb group hgroup
      exact ⟨tg, htg, hdatabase, hname, hstay, hcurrent.tableGroups tg htg hstay⟩
    · obtain ⟨ts, hts, hname, hstay⟩ := htopo hwants
      -- a server the spec wants is not one that is being retired
      have hcounted : retiring cluster uid wantsManagedGlobalTopo ts = false := by
        simp [retiring, hwants]
      exact ⟨ts, hts, hname, hstay, hcurrent.topoServers ts hts hcounted⟩

/-- **`Healthy` is sound** exactly if, whenever all objects that count are healthy and every name of
the spec has one, every cell and the global topology server the spec wants have one that is neither
pending deletion nor terminating. -/
theorem healthy_sound_iff {go : Resolution.GoLib} {r : Resolution.Resolver} {generation : ℕ}
    {now : Time} {old status : Status} {topo : GlobalTopoServerSpec}
    (htopo : Resolution.resolveGlobalTopo go r cluster = .ok topo)
    (h : updateStatus go r cluster uid generation now old seen = .ok status) :
    (status.phase = .healthy → Sound cluster topo.etcd.isSome seen) ↔
      (AllCurrent cluster uid topo.etcd.isSome seen →
        (Named cluster topo.etcd.isSome seen fun _ => True) →
          Named cluster topo.etcd.isSome seen fun child => child.draining = false) := by
  rw [updateStatus_eq_ok htopo h, statusOf_healthy_iff]
  constructor
  · intro hsound hcurrent hnamed
    exact (sound_iff_named hcurrent).mp (hsound ⟨hcurrent, hnamed⟩)
  · rintro hstay ⟨hcurrent, hnamed⟩
    exact (sound_iff_named hcurrent).mpr (hstay hcurrent hnamed)

end Healthy

/-! ### A cell that is being drained -/

namespace Sample

def oneCell : MultigresCluster where
  name := "db"
  «namespace» := "prod"
  spec := { cells := [{ name := "z1" }] }

def healthyChild : Child where
  generation := 2
  observedGeneration := 2
  phase := .healthy

/-- The cell was dropped from the spec, its drain has begun, and the spec names it again. -/
def drainingCell : Observed where
  cells := [{ healthyChild with name := "z1", pendingDeletion := "2026-01-01T00:00:00Z" }]
  topoServers := [{ healthyChild with name := "db-global-topo" }]

def servingCell : Observed where
  cells := [{ healthyChild with name := "z1" }]
  topoServers := [{ healthyChild with name := "db-global-topo" }]

def resolver : Resolution.Resolver :=
  let missing := ⟨"not found", true⟩
  Resolution.newResolver
    { coreTemplate := fun _ _ => .error missing
      cellTemplate := fun _ _ => .error missing
      shardTemplate := fun _ _ => .error missing } "prod"

theorem oneCell_topo : ((Resolution.resolveGlobalTopo .ascii resolver oneCell).map
    (·.etcd.isSome)) = .ok true := by
  decide +kernel

theorem exists_updateStatus (seen : Observed) :
    ∃ topo status, Resolution.resolveGlobalTopo .ascii resolver oneCell = .ok topo ∧
      topo.etcd.isSome = true ∧
        updateStatus .ascii resolver oneCell 1 3 0 {} seen = .ok status := by
  have htopo := oneCell_topo
  cases h : Resolution.resolveGlobalTopo .ascii resolver oneCell with
  | error err =>
    rw [h] at htopo
    cases htopo
  | ok topo =>
    rw [h] at htopo
    refine ⟨topo, statusOf oneCell 1 topo.etcd.isSome seen 3 0 {}, rfl, Except.ok.inj htopo, ?_⟩
    rw [updateStatus, h]
    rfl

end Sample

section

open ClusterStatus.Sample

/-- The only cell is being drained, and the cluster is `Healthy`. -/
theorem healthy_while_draining :
    ∃ topo status, Resolution.resolveGlobalTopo .ascii resolver oneCell = .ok topo ∧
      updateStatus .ascii resolver oneCell 1 3 0 {} drainingCell = .ok status ∧
        status.phase = .healthy ∧ ¬ Sound oneCell topo.etcd.isSome drainingCell := by
  obtain ⟨topo, status, htopo, hetcd, hstatus⟩ := exists_updateStatus drainingCell
  refine ⟨topo, status, htopo, hstatus, ?_, ?_⟩
  · rw [updateStatus_eq_ok htopo hstatus, hetcd]
    decide
  · rintro ⟨hcells, -, -⟩
    obtain ⟨c, hc, -, hdraining, -⟩ := hcells { name := "z1" } (List.mem_singleton_self _)
    rw [List.mem_singleton.mp hc] at hdraining
    revert hdraining
    decide

theorem healthy_sound_iff_serving :
    ∃ topo status, Resolution.resolveGlobalTopo .ascii resolver oneCell = .ok topo ∧
      updateStatus .ascii resolver oneCell 1 3 0 {} servingCell = .ok status ∧
        status.phase = .healthy ∧ Sound oneCell topo.etcd.isSome servingCell := by
  obtain ⟨topo, status, htopo, hetcd, hstatus⟩ := exists_updateStatus servingCell
  have hhealthy : status.phase = .healthy := by
    rw [updateStatus_eq_ok htopo hstatus, hetcd]
    decide
  refine ⟨topo, status, htopo, hstatus, hhealthy, ?_⟩
  refine (healthy_sound_iff htopo hstatus).mpr (fun _ _ => ?_) hhealthy
  refine ⟨fun cell hcell => ?_, fun db hdb => absurd hdb List.not_mem_nil, fun _ => ?_⟩
  · rw [List.mem_singleton.mp hcell]
    exact ⟨_, List.mem_singleton_self _, rfl, rfl⟩
  · exact ⟨_, List.mem_singleton_self _, by decide, rfl⟩

end

end ClusterStatus

end MultigresOperator
