import Mathlib.Data.List.Pairwise
import MultigresOperator.Gc.Clean
import MultigresOperator.Shard.OneDisruption

/-!
# Quarantined pods

A pooler that cannot start again quarantines itself in the topology, and the data plane replaces
its pod: it deletes the pod and its data PVC. This module says which pods a pass may wipe, and what
that means over a run of passes, with anything else happening in between.

## Main results

* `guard_dataPlane`: a pass deletes only what belongs to a chosen pod
* `wipes_wait_for_the_rest`: every wipe of a run finds the rest of the pool Ready
* `primary_spared_iff`: which primaries no pass wipes
-/

namespace MultigresOperator

open Effects

/-! ## What a pass deletes -/

/-- A pass from `s` deletes one chosen pod, before anything else, and the data PVC of one. -/
def WipeGuard (store : TopoStore) (shard : Shard) (s t : Server) : Op → Prop
  | .deletePod name _ _ => t = s ∧ ∃ pod, Chosen store shard s pod ∧ pod.name = name
  | .deletePVC name _ _ => ∃ pod, Chosen store shard s pod ∧ dataPVCName shard pod = some name
  | _ => True

section Guard

variable {store : TopoStore} {shard known : Shard} {s t : Server}

theorem guard_drains : Ensures (fun _ i => i.topology = some store) (WipeGuard store shard s)
    (reconcileDrainState known) (fun _ _ => True) t := by
  have hpatch {pod : Pod} {text : String} {patch : PodPatch} {t : Server} :
      Ensures (fun _ i => i.topology = some store) (WipeGuard store shard s)
        ((Action.context text (Prog.perform (.patchPod pod.name patch))).bindResult fun _ => pure ())
        (fun _ _ => True) t :=
    .patchPodLogged trivial fun _ _ => ⟨trivial, trivial⟩
  refine .bind (.fetch (.forEach_mem (I := fun _ _ => True) (fun pod _ _ t _ => ?_) trivial))
  unfold reconcileDrain
  split
  · exact .ret trivial
  split
  · exact hpatch
  unfold executeDrainStateMachine
  split
  · exact .ret trivial
  · exact .ret trivial
  · exact .nowResult fun time => hpatch

/-- **A pass of the data plane** deletes only what belongs to a chosen pod. -/
theorem guard_dataPlane {r : Reconciler} : Ensures (fun _ i => i.topology = some store)
    (WipeGuard store shard s) (reconcileDataPlane r shard) (fun _ _ => True) s := by
  refine .reconcileDataPlane (fun i store' pod htopology htopology' hchosen => ?_) fun _ _ _ =>
    guard_drains
  obtain rfl := Option.some.inj (htopology.symm.trans htopology')
  exact ⟨fun how => ⟨rfl, pod, hchosen, rfl⟩, fun name hname _ _ => ⟨pod, hchosen, hname⟩⟩

end Guard

def Op.deletedPod : Op → Option String
  | .deletePod name _ _ => some name
  | _ => none

/-- A pass of the data plane with a current cache, over one content of the topology. -/
structure Round where
  reconciler : Reconciler
  shard : Shard
  topology : TopoStore
  answers : ℕ → Answer
  current : ∀ n, (answers n).Current
  topology_eq : ∀ n, (answers n).topology = some topology

namespace Round

variable (p : Round) (s : Server)

/-- The outcome of a pass. -/
def outcome : Outcome Answer Server Op Failure Unit :=
  (reconcileDataPlane p.reconciler p.shard).run machine p.answers s

def Wipes (pod : Pod) : Prop :=
  ∃ e ∈ (p.outcome s).trace, pod ∈ e.1.pods.items ∧ e.2.deletedPod = some pod.name

theorem guarded : ∀ e ∈ (p.outcome s).trace, WipeGuard p.topology p.shard s e.1 e.2 :=
  (Prog.run_of_wp guard_dataPlane
    (Prog.admits_of_forall fun n _ => ⟨p.current n, p.topology_eq n⟩)).1

variable {p s}

/-- **A pod that is wiped was chosen**, in the state that the pass started in. -/
theorem chosen {pod : Pod} (h : p.Wipes s pod) : Chosen p.topology p.shard s pod := by
  obtain ⟨⟨t, o⟩, he, hmem, hdeleted⟩ := h
  have hguard := p.guarded s _ he
  cases o with
  | deletePod name uid how =>
    obtain ⟨rfl, chosen, hchosen, hname⟩ := hguard
    have hsame : chosen.name = pod.name := hname.trans (Option.some.inj hdeleted)
    exact t.pods.eq_of_key_eq (Server.mem_listPods.mp hchosen.mem).1 hmem hsame ▸ hchosen
  | _ => cases hdeleted

end Round

/-! ## Runs of passes -/

/-- Runs: passes, and anything at all between two of them. -/
structure WipeRun where
  states : ℕ → Server
  rounds : ℕ → Option Round
  step : ∀ n p, rounds n = some p → states (n + 1) = (p.outcome (states n)).state

namespace WipeRun

/-- A pass of the run deletes a pod. -/
def Wipes (run : WipeRun) (n : ℕ) (pod : Pod) : Prop :=
  ∃ p, run.rounds n = some p ∧ p.Wipes (run.states n) pod

/-- After a wipe, no other pod of the pool and cell is wiped before the replacement is Ready. -/
def Serial (run : WipeRun) : Prop :=
  ∀ n k pod other, n < k → run.Wipes n pod → run.Wipes k other → other.name ≠ pod.name →
    other.pool = pod.pool → other.cell = pod.cell →
    ∃ j, n < j ∧ j ≤ k ∧ ∃ fresh ∈ (run.states j).pods.items,
      fresh.name = pod.name ∧ fresh.uid ≠ pod.uid ∧ isPodReady fresh = true

/-- A wipe leaves another pod of the shard that is Ready and not quarantined. -/
def LeavesReady (run : WipeRun) : Prop :=
  ∀ n p pod, run.rounds n = some p → p.Wipes (run.states n) pod →
    ∃ other ∈ (run.states n).listPods (shardSelector p.shard), other.name ≠ pod.name ∧
      other.name ∉ quarantinedNames p.topology p.shard (run.states n) ∧ isPodReady other = true

end WipeRun

/-- **The rest of the pool.** In every run, a pass wipes a pod only with a healthy backup, and only
while the pod is reported quarantined and not terminating, and every other pod of its pool and cell
that is neither reported quarantined nor draining nor terminating is Ready. So a replacement that
has arrived holds up the next wipe in its pool until it is Ready. -/
theorem wipes_wait_for_the_rest (run : WipeRun) (n : ℕ) :
    ∀ p ∈ run.rounds n, ∀ pod, p.Wipes (run.states n) pod →
      Chosen p.topology p.shard (run.states n) pod ∧
        ∀ other ∈ (run.states n).listPods (shardSelector p.shard), other.name ≠ pod.name →
          other.pool = pod.pool → other.cell = pod.cell →
          other.name ∉ quarantinedNames p.topology p.shard (run.states n) →
          other.disrupted = false → isPodReady other = true := by
  intro p _ pod h
  refine ⟨Round.chosen h, fun other hother hname hpool hcell hclear hstill => ?_⟩
  have hcalm := List.all_eq_true.mp (Round.chosen h).calm other hother
  simpa [hname, hpool, hcell, hclear, hstill] using hcalm

namespace Sample

/-- A pod of the shard that is not Ready, and its record. -/
def sickPod (index : ℕ) : Pod := poolPod index ""

def sickRecord (index : ℕ) (role : RoutingRole) : Multipooler :=
  { record (sickPod index).name (sickPod index).name role with lifecycle := .quarantined }

/-- Both poolers of the shard are quarantined. -/
def sickTopology : TopoStore := fun _ => .ok [sickRecord 0 .replica, sickRecord 1 .replica]

theorem sickPods_nodup : ([sickPod 0, sickPod 1].map Pod.name).Nodup := by decide +kernel

def sickServer : Server := server ⟨[sickPod 0, sickPod 1], sickPods_nodup⟩

/-- A pass a while later, with a healthy backup on record. -/
def sickRound : Round where
  reconciler := reconciler
  shard := { shard with backupHealthy := true }
  topology := sickTopology
  answers := fun _ =>
    { now := 1000, removal := ⟨false, 1030⟩, rpc := some (rpc "" []), topology := some sickTopology }
  current := fun _ => rfl
  topology_eq := fun _ => rfl

/-- One pass after another, with nothing in between. -/
def sickStates : ℕ → Server
  | 0 => sickServer
  | n + 1 => (sickRound.outcome (sickStates n)).state

def sickRun : WipeRun where
  states := sickStates
  rounds := fun _ => some sickRound
  step := fun _ _ h => Option.some.inj h ▸ rfl

theorem wipes_first : sickRound.Wipes (sickRun.states 0) (sickPod 0) := by
  unfold Round.Wipes
  decide +kernel

theorem wipes_second : sickRound.Wipes (sickRun.states 1) (sickPod 1) := by
  unfold Round.Wipes
  decide +kernel

theorem no_ready : ∀ j ≤ 1, ∀ pod ∈ (sickRun.states j).pods.items, isPodReady pod = false := by
  decide +kernel

end Sample

section

open Sample

/-- The first pod is on its way out when the second one is wiped. -/
theorem wipes_wait_for_the_rest_second :
    Chosen sickTopology sickRound.shard (sickRun.states 1) (sickPod 1) :=
  (wipes_wait_for_the_rest sickRun 1 sickRound rfl (sickPod 1) wipes_second).1

/-- **Two wipes in a row.** Every pod of the pool is quarantined, so nothing holds up the second
wipe: the first pod is still there, but terminating, and no pod is Ready. -/
theorem wipes_overlap : ∃ run : WipeRun,
    (∀ n, ∀ p ∈ run.rounds n, p.shard.backupHealthy = true) ∧ ¬ run.Serial ∧ ¬ run.LeavesReady := by
  refine ⟨sickRun, fun n p hp => Option.some.inj hp ▸ rfl, fun h => ?_, fun h => ?_⟩
  · obtain ⟨j, -, hj, fresh, hfresh, -, -, hready⟩ := h 0 1 (sickPod 0) (sickPod 1) Nat.one_pos
      ⟨sickRound, rfl, wipes_first⟩ ⟨sickRound, rfl, wipes_second⟩ (by decide +kernel)
      (by decide +kernel) (by decide +kernel)
    exact Bool.false_ne_true ((no_ready j hj fresh hfresh).symm.trans hready)
  · obtain ⟨other, hother, -, -, hready⟩ := h 1 sickRound (sickPod 1) rfl wipes_second
    have hmem := Keyed.mem_items.mpr (Server.mem_listPods.mp hother).1
    exact Bool.false_ne_true ((no_ready 1 le_rfl other hmem).symm.trans hready)

end

/-! ## Primaries -/

/-- A record of some cells that is read and not shut down. -/
def Live (store : TopoStore) (cells : List String) (record : Multipooler) : Prop :=
  ∃ cell ∈ cells, ∃ records, store cell = .ok records ∧ record ∈ records ∧
    record.isLifecycleShutdown = false

/-- The only live record that matches a pod. -/
structure OnlyRecord (store : TopoStore) (shard : Shard) (pod : Pod) (record : Multipooler) :
    Prop where
  live : Live store (collectCells shard) record
  matched : podMatchesPooler pod.name record = true
  sole : ∀ other, Live store (collectCells shard) other →
    podMatchesPooler pod.name other = true → other = record

/-- The pass spares a pod and the data PVC that is its own, and wipes one pod at most, with a
healthy backup. -/
structure Round.Spares (p : Round) (s : Server) (pod : Pod) : Prop where
  wipes : ¬ p.Wipes s pod
  data : ∀ e ∈ (p.outcome s).trace, ∀ name ∈ dataPVCName p.shard pod,
    (∀ other ∈ s.listPods (shardSelector p.shard), name ∈ dataPVCName p.shard other → other = pod) →
      ∀ version how, e.2 ≠ .deletePVC name version how
  once : ∀ a b, p.Wipes s a → p.Wipes s b → a = b
  backup : ∀ other, p.Wipes s other → p.shard.backupHealthy = true

section Primaries

variable {store : TopoStore} {shard : Shard} {s : Server} {pod a b : Pod} {record : Multipooler}
  {p : Round} {name : String}

theorem shutdown_of_quarantined (h : record.isLifecycleQuarantined = true) :
    record.isLifecycleShutdown = false := by
  simp_all [Multipooler.isLifecycleQuarantined, Multipooler.isLifecycleShutdown]

theorem live_of_quarantined {names cells : List String} {found : List QuarantinedPod}
    (h : quarantinedPodsOf store names cells = .ok found) : ∀ q ∈ found, ∃ record,
      Live store cells record ∧ record.isLifecycleQuarantined = true ∧
        podMatchesPooler q.podName record = true := by
  induction cells generalizing found with
  | nil =>
    cases h
    nofun
  | cons cell cells ih =>
    have hlater {rest : List QuarantinedPod} (hrest : quarantinedPodsOf store names cells = .ok rest)
        (q : QuarantinedPod) (hq : q ∈ rest) : ∃ record, Live store (cell :: cells) record ∧
          record.isLifecycleQuarantined = true ∧ podMatchesPooler q.podName record = true := by
      obtain ⟨record, ⟨cell, hcell, hlive⟩, hrecord⟩ := ih hrest q hq
      exact ⟨record, ⟨cell, .tail _ hcell, hlive⟩, hrecord⟩
    unfold quarantinedPodsOf at h
    split at h
    · split at h
      · exact hlater h
      · cases h
    next records hrecords =>
    cases hrest : quarantinedPodsOf store names cells with
    | error e => simp [hrest, Except.map] at h
    | ok rest =>
    simp only [hrest, Except.map, Except.ok.injEq] at h
    subst h
    intro q hq
    rcases List.mem_append.mp hq with hq | hq
    · obtain ⟨record, hrecord, rfl⟩ := List.mem_map.mp hq
      simp only [List.mem_filter, Bool.and_eq_true, bne_iff_ne] at hrecord
      obtain ⟨hmem, hquarantined, hmatch⟩ := hrecord
      exact ⟨record, ⟨cell, .head _, records, hrecords, hmem, shutdown_of_quarantined hquarantined⟩,
        hquarantined, podMatchesPooler_matchPod hmatch⟩
    · exact hlater hrest q hq

theorem OnlyRecord.quarantined (h : OnlyRecord store shard pod record)
    (hpod : pod.name ∈ quarantinedNames store shard s) : record.isLifecycleQuarantined = true := by
  unfold quarantinedNames getQuarantinedPods at hpod
  cases hfound : quarantinedPodsOf store ((s.listPods (shardSelector shard)).map Pod.name)
      (collectCells shard) with
  | error e => simp [hfound, Except.map] at hpod
  | ok found =>
    rw [hfound] at hpod
    obtain ⟨q, hq, hname⟩ := List.mem_map.mp hpod
    obtain ⟨other, hlive, hquarantined, hmatch⟩ :=
      live_of_quarantined hfound q ((List.mem_insertionSort _).mp hq)
    exact h.sole other hlive (hname ▸ hmatch) ▸ hquarantined

/-- Every request moves the revision, and a pod is deleted at the one that the pass starts in. -/
theorem Round.wipes_once (ha : p.Wipes s a) (hb : p.Wipes s b) : a = b := by
  have hmoves {t u : Server} {o : Op} (h : machine.exec t o = .ok u) : t.revision < u.revision := by
    rw [(Server.stamp_of_exec h).1]
    exact Nat.lt_succ_self _
  have honce := (Linked.atMostOnce (J := fun _ => True) (K := fun t => s.revision < t.revision)
    (D := fun _ o => o.deletedPod.isSome) (fun _ _ _ _ _ _ => trivial) (fun t o u _ hK hG h => ?_)
    (fun t o u _ hG hD h => ?_) (Prog.run_linked machine _ _ s) (p.guarded s) trivial).2.2.2
  · obtain ⟨e, he, hmem, hname⟩ := ha
    obtain ⟨e', he', hmem', hname'⟩ := hb
    -- two deletions would be a pair of the trace, in one order or the other
    have : Std.Symm fun e e' : Server × Op =>
        ¬ (e.2.deletedPod.isSome = true ∧ e'.2.deletedPod.isSome = true) :=
      ⟨fun _ _ h => h ∘ And.symm⟩
    obtain rfl : e = e' := by
      by_contra hne
      exact honce.forall he he' hne ⟨by simp [hname], by simp [hname']⟩
    exact e.1.pods.eq_of_key_eq hmem hmem' (Option.some.inj (hname.symm.trans hname'))
  · refine ⟨fun hD => ?_, hK.trans (hmoves h)⟩
    cases o with
    | deletePod => exact absurd (hG.1 ▸ hK) (lt_irrefl _)
    | _ => cases hD
  · cases o with
    | deletePod => exact hG.1 ▸ hmoves h
    | _ => cases hD

theorem Round.spares (hno : ¬ Chosen p.topology p.shard s pod) : p.Spares s pod := by
  refine ⟨fun hwipes => hno (Round.chosen hwipes), ?_, fun a b => Round.wipes_once,
    fun other hother => (Round.chosen hother).backup⟩
  rintro ⟨t, o⟩ he name hname hown version how rfl
  obtain ⟨other, hother, hdata⟩ := p.guarded s _ he
  exact hno (hown other hother.mem hdata ▸ hother)

namespace Sample

/-- A shard with one pod, and the pass over it when its record is the only one. -/
def lonePod (name : String) : Pod := { sickPod 0 with name }

def loneServer (name : String) : Server := server ⟨[lonePod name], List.nodup_singleton name⟩

def loneShard (roles : List (String × PodRole)) : Shard := { sickRound.shard with podRoles := roles }

def loneTopology (record : Multipooler) : TopoStore := fun _ => .ok [record]

def loneRound (record : Multipooler) : Round where
  reconciler := reconciler
  shard := loneShard []
  topology := loneTopology record
  answers := fun n => { sickRound.answers n with topology := some (loneTopology record) }
  current := fun _ => rfl
  topology_eq := fun _ => rfl

theorem collectCells_lone (roles : List (String × PodRole)) :
    collectCells (loneShard roles) = ["z1"] :=
  (by decide +kernel : collectCells shard = ["z1"])

theorem lone_only (hquarantined : record.isLifecycleQuarantined = true)
    (hmatch : podMatchesPooler name record = true) :
    OnlyRecord (loneTopology record) (loneShard []) (lonePod name) record where
  live := by
    rw [Live, collectCells_lone]
    exact ⟨"z1", .head _, [record], rfl, .head _, shutdown_of_quarantined hquarantined⟩
  matched := hmatch
  sole := by
    rintro other ⟨_, -, _, ⟨⟩, hmem, -⟩ -
    exact List.mem_singleton.mp hmem

theorem lone_wiped (hquarantined : record.isLifecycleQuarantined = true)
    (hmatch : podMatchesPooler name record = true) (hindex : resolvePodIndex name ≠ none) :
    (loneRound record).Wipes (loneServer name) (lonePod name) := by
  obtain ⟨index, hindex⟩ := Option.ne_none_iff_exists'.mp hindex
  have hne : name ≠ "" := by
    rintro rfl
    have hnone : resolvePodIndex "" = none := by decide +kernel
    cases hnone.symm.trans hindex
  have hpod : matchPod record [name] = name := by simp [matchPod, hmatch]
  -- whatever the record advertises, the role that the guard reads is not PRIMARY
  have hroles : mergePodRoles [] (getPoolerStatus (loneTopology record) (loneShard []) [name]) =
      [(name, .quarantined)] := by
    simp [mergePodRoles, getPoolerStatus, loneTopology, collectCells_lone, PoolerStatusResult.record,
      hpod, hne, shutdown_of_quarantined, Multipooler.role, hquarantined]
  have hstart : (loneRound record).outcome (loneServer name) =
      (reconcileQuarantineRemediation (loneShard [(name, .quarantined)]) >>= fun acted =>
        if acted then pure () else reconcileDrainState (loneShard [(name, .quarantined)])).run machine
          (loneRound record).answers (loneServer name) := by
    rw [← hroles]
    rfl
  have hfound (roles : List (String × PodRole)) :
      getQuarantinedPods (loneTopology record) (loneShard roles) [name] =
        .ok [⟨name, record.lifecycleReason⟩] := by
    simp [getQuarantinedPods, quarantinedPodsOf, loneTopology, collectCells_lone, hquarantined, hpod,
      hne, Except.map]
  have hlist (roles : List (String × PodRole)) :
      (loneServer name).listPods (shardSelector (loneShard roles)) = [lonePod name] := rfl
  have hclaims (selector : Labels) : (loneServer name).listPVCs selector = [] := rfl
  have hfind : (loneServer name).pods.find name = some (lonePod name) :=
    Keyed.find_eq_some.mpr ⟨List.mem_singleton_self _, rfl⟩
  have hlone : (lonePod name).name = name ∧ (lonePod name).terminating = false ∧
      (lonePod name).creationTimestamp = 0 := ⟨rfl, rfl, rfl⟩
  have hknown (roles : List (String × PodRole)) : (loneShard roles).backupHealthy = true ∧
      (loneShard roles).podRoles = roles := ⟨rfl, rfl⟩
  refine ⟨(loneServer name, .deletePod name none ⟨false, 1030⟩), ?_, List.mem_singleton_self _, rfl⟩
  rw [hstart]
  simp [reconcileQuarantineRemediation, remediateQuarantined, wipeQuarantinedPod, Action.context,
    Action.listPods, Action.listPVCs, Action.now, Action.deletePod, mountedTerminatingPVCs,
    Prog.firstM, Prog.fetch, Prog.mapError, Prog.bindResult, Bind.bind, Prog.bind, pure, Prog.answer,
    Prog.performUnless, Prog.run, Machine.attempt, Machine.look, Machine.shown, machine, loneRound,
    sickRound, Server.exec, Server.meets, hlist, hfound, hfind, hclaims, hlone, hknown, hindex,
    poolHealthyExcluding, quarantineRemediationMinPodAge, Outcome.cons]

end Sample

open Sample

/-- **Primaries.** No pass touches the pod of a record that is advertised as primary, exactly when
the record is not quarantined, or matches no pod that has an index. -/
theorem primary_spared_iff (record : Multipooler) :
    (record.isPrimaryPooler = true → ∀ (p : Round) (s : Server) (pod : Pod),
        OnlyRecord p.topology p.shard pod record → p.Spares s pod) ↔
      (record.isPrimaryPooler = true → record.isLifecycleQuarantined = true →
        ∀ name, podMatchesPooler name record = true → resolvePodIndex name = none) := by
  constructor
  · intro h hprimary hquarantined name hmatch
    by_contra hindex
    exact (h hprimary (loneRound record) (loneServer name) (lonePod name)
      (lone_only hquarantined hmatch)).wipes (lone_wiped hquarantined hmatch hindex)
  · intro h hprimary p s pod honly
    refine Round.spares fun hchosen => ?_
    have hnone := h hprimary (honly.quarantined hchosen.quarantined) pod.name honly.matched
    have hsome := hchosen.index
    rw [hnone] at hsome
    cases hsome

theorem quarantined_primary_wiped : ¬ ∀ (p : Round) (s : Server) (pod : Pod) (record : Multipooler),
    record.isPrimaryPooler = true → OnlyRecord p.topology p.shard pod record → p.Spares s pod := by
  intro h
  have hmatch : podMatchesPooler (sickPod 0).name (sickRecord 0 .primary) = true := by decide +kernel
  have hindex : resolvePodIndex (sickPod 0).name ≠ none := by decide +kernel
  exact (h (loneRound _) (loneServer _) (lonePod _) (sickRecord 0 .primary) rfl
    (lone_only rfl hmatch)).wipes (lone_wiped rfl hmatch hindex)

end Primaries

end MultigresOperator
