import MultigresOperator.Shard.OneDisruption

/-!
# PVCs being deleted

A PVC that is deleted while a pod mounts it is only held in place by the pods that reference it. No
request of a pass releases one that carries the shard's labels: no voluntary drain is started, no
pod that references it is deleted, and no pod is created on it. Deletes and creates look the PVCs of
a pod up by name, but the gate of the voluntary disruptions lists PVCs by the shard's labels, and
overlooks a PVC without them.

## Main results

* `KeepsClaims.of_guard`: a guarded request releases no PVC being deleted that is labelled
* `pass_keepsClaims`: **a pass releases no PVC being deleted** while all of them are labelled
* `unlabelled_claim_released`: a pass that drains a pod over a PVC without the labels
-/

namespace MultigresOperator

open Effects

/-- The PVC is being deleted under a shard pod that is not terminating. -/
def Held (shard : Shard) (s : Server) (pvc : PVC) : Prop :=
  pvc ∈ s.pvcs ∧ pvc.terminating = true ∧
    ∃ pod ∈ s.listPods (shardSelector shard), pod.terminating = false ∧ pvc.name ∈ pod.claims

/-- The request starts the drain of a pod that nobody has deleted. -/
def StartsVoluntaryDrain (s : Server) (o : Op) : Prop :=
  ∃ name time, o = .patchPod name (.requestDrain time) ∧
    ∃ pod ∈ s.pods, pod.name = name ∧ pod.terminating = false

/-- The request releases no PVC that is being deleted. -/
structure KeepsClaims (shard : Shard) (s : Server) (o : Op) : Prop where
  drain : StartsVoluntaryDrain s o → ∀ pvc, ¬ Held shard s pvc
  delete : ∀ name uid how, o = .deletePod name uid how → ∀ pod ∈ s.pods, pod.name = name →
    ∀ pvc, Held shard s pvc → pvc.name ∉ pod.claims
  create : ∀ pod, o = .createPod pod → ∀ pvc ∈ s.pvcs, pvc.terminating = true →
    pvc.name ∉ pod.claims

/-- Every PVC that is being deleted under a staying shard pod carries the shard's labels. -/
def HeldLabelled (shard : Shard) (s : Server) : Prop :=
  ∀ pvc, Held shard s pvc → (shardSelector shard).Matches pvc.labels = true

section Request

variable {B : Server → Answer → Prop} {shard : Shard} {s : Server} {o : Op}

/-- The gate of the voluntary disruptions sees every labelled PVC. -/
theorem Intact.not_held (h : Intact shard s) (hlabels : HeldLabelled shard s) (pvc : PVC) :
    ¬ Held shard s pvc := by
  intro hheld
  have hmatch := hlabels pvc hheld
  obtain ⟨hpvc, hterm, pod, hpod, hstays, hclaim⟩ := hheld
  simp [h pod hpod hstays pvc (Server.mem_listPVCs.mpr ⟨hpvc, hmatch⟩) hclaim] at hterm

theorem ClaimsLive.not_mem {claims : List String} (h : ClaimsLive s claims) {pvc : PVC}
    (hpvc : pvc ∈ s.pvcs) (hterm : pvc.terminating = true) : pvc.name ∉ claims := by
  intro hclaim
  simp [h pvc hpvc hclaim] at hterm

theorem intact_of_voluntary (hG : Guard B shard s o) (h : StartsVoluntaryDrain s o) :
    Intact shard s := by
  obtain ⟨name, time, rfl, pod, hpod, hname, hstays⟩ := h
  cases hG with
  | external hext => simp [(hext pod hpod hname).1] at hstays
  | voluntary clear _ => exact clear.intact

/-- **A guarded request** releases no PVC being deleted while all of them are labelled. -/
theorem KeepsClaims.of_guard (hG : Guard B shard s o) (hlabels : HeldLabelled shard s) :
    KeepsClaims shard s o where
  drain hdrain := (intact_of_voluntary hG hdrain).not_held hlabels
  delete := by
    rintro name uid how rfl pod hpod hname pvc hheld
    rcases hG pod hpod hname with hlive | ⟨hintact, -, -⟩
    · exact hlive.not_mem hheld.1 hheld.2.1
    · exact absurd hheld (hintact.not_held hlabels pvc)
  create := by
    rintro pod rfl pvc hpvc hterm
    exact hG.2.not_mem hpvc hterm

end Request

/-- **Data held by a PVC being deleted is not released.** Each request of a pass keeps the PVCs that
are being deleted in place if all of them that a staying shard pod references carry the shard's
labels; for a voluntary drain this is also necessary. -/
theorem pass_keepsClaims {r : Reconciler} {x : System} {p : Pass}
    (h : p.Admissible (fun _ _ _ => True) r x) :
    ∀ e ∈ (p.outcome r x).trace,
      (HeldLabelled x.shard e.1 → KeepsClaims x.shard e.1 e.2) ∧
        (StartsVoluntaryDrain e.1 e.2 →
          (KeepsClaims x.shard e.1 e.2 ↔ HeldLabelled x.shard e.1)) := by
  intro e he
  have hG := Pass.guarded h e he
  refine ⟨KeepsClaims.of_guard hG, fun hdrain => ⟨fun hkeeps pvc hheld => ?_, KeepsClaims.of_guard hG⟩⟩
  exact absurd hheld (hkeeps.drain hdrain pvc)

/-! ## PVCs with and without labels -/

namespace Sample

def deletedPVC (labels : Labels) : PVC where
  name := buildPoolDataPVCName shard "main" "z1" 0
  uid := 50
  labels := labels
  deletionTimestamp := some 0

/-- The stranded pod on a data PVC that is being deleted. -/
def deletedPVCSystem (labels : Labels) : System :=
  strandedSystem.on { strandedSystem.server with pvcs := ⟨[deletedPVC labels], by simp⟩ }

theorem emptyTopologyPass_admissible' (labels : Labels) :
    emptyTopologyPass.Admissible (fun _ _ _ => True) reconciler (deletedPVCSystem labels) :=
  ⟨.refl _, Prog.admits_of_forall fun _ _ => ⟨rfl, trivial⟩⟩

/-- The PVC as the operator builds it. -/
def labelledSystem : System :=
  deletedPVCSystem ((.cluster, "mg") :: buildPoolLabelsWithCell shard "main" "z1")

end Sample

section

open Sample

/-- Over a labelled PVC the pass makes requests, and keeps the PVC. -/
theorem pass_keepsClaims_labelled :
    (emptyTopologyPass.outcome reconciler labelledSystem).trace ≠ [] ∧
      ∀ e ∈ (emptyTopologyPass.outcome reconciler labelledSystem).trace,
        KeepsClaims labelledSystem.shard e.1 e.2 := by
  refine ⟨by decide +kernel, fun e he => ?_⟩
  have hlabels : ∀ e ∈ (emptyTopologyPass.outcome reconciler labelledSystem).trace,
      ∀ pvc ∈ e.1.pvcs.items, pvc.terminating = true →
        (shardSelector labelledSystem.shard).Matches pvc.labels = true := by decide +kernel
  exact (pass_keepsClaims (emptyTopologyPass_admissible' _) e he).1 fun pvc hheld =>
    hlabels e he pvc hheld.1 hheld.2.1

/-- **A PVC released**: the data PVC of the pod is being deleted and does not carry the shard's
labels, and the pass starts the drain of the pod. -/
theorem unlabelled_claim_released :
    ∃ r x p, Pass.Admissible (fun _ _ _ => True) p r x ∧
      ∃ e ∈ (p.outcome r x).trace, ¬ KeepsClaims x.shard e.1 e.2 := by
  have hdrain : ∃ e ∈ (emptyTopologyPass.outcome reconciler (deletedPVCSystem [])).trace,
      e.2 = .patchPod strandedPod.name (.requestDrain 0) ∧
        e.1.pods.items = [strandedPod] ∧ deletedPVC [] ∈ e.1.pvcs.items := by decide +kernel
  obtain ⟨e, he, hop, hpods, hpvc⟩ := hdrain
  have hpod : strandedPod ∈ e.1.pods := show strandedPod ∈ e.1.pods.items by simp [hpods]
  refine ⟨reconciler, deletedPVCSystem [], emptyTopologyPass, emptyTopologyPass_admissible' [], e, he,
    fun hkeeps => hkeeps.drain ⟨_, 0, hop, strandedPod, hpod, rfl, rfl⟩ (deletedPVC []) ?_⟩
  refine ⟨hpvc, rfl, strandedPod, Server.mem_listPods.mpr ⟨hpod, ?_⟩, rfl, ?_⟩ <;> decide +kernel

end

end MultigresOperator
