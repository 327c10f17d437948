import MultigresOperator.Lib.Parallel
import MultigresOperator.Shard.Volumes

/-!
# The garbage collector of PVCs

`multigres-gc` lists the PVCs that carry the orphan label, in one namespace or in all of them, and
deletes the ones whose label has expired and that no pod references. It lists the pods of a namespace
once, when the first PVC there comes to the check, and a delete is conditioned on the resource
version it listed.

## Main definitions

* `Namespaces`: the API server with several namespaces
* `Namespaces.exec`, `clusterMachine`: requests on one of them
* `clean`, `processPVC`, `podUsing`: one run of the collector
* `Server.Advances`: what requests do to a namespace, as the collector sees it

## Main results

* `advances_of_exec`: every request that creates no pod on a labelled PVC advances a namespace
* `upholds_clean`: **the collector deletes no PVC in use**, whatever advances the namespaces meanwhile
-/

namespace MultigresOperator

open Effects

/-! ## Namespaces -/

structure Namespaces where
  names : List String
  server : String → Server

namespace Namespaces

def exec (c : Namespaces) (o : String × Op) : Except Failure Namespaces :=
  ((c.server o.1).exec o.2).map fun s => { c with server := Function.update c.server o.1 s }

/-- What an accepted request leaves: the namespace it was made in changes, the others stay. -/
theorem exec_ok {c c' : Namespaces} {o : String × Op} (h : c.exec o = .ok c') :
    (c.server o.1).exec o.2 = .ok (c'.server o.1) ∧
      ∀ ns, ns ≠ o.1 → c'.server ns = c.server ns := by
  unfold exec at h
  cases hs : (c.server o.1).exec o.2 with
  | error e => rw [hs] at h; cases h
  | ok s =>
    rw [hs] at h
    obtain rfl := Except.ok.inj h
    exact ⟨by simp, fun ns hns => Function.update_of_ne hns _ _⟩

theorem exec_error {c : Namespaces} {o : String × Op} {e : Failure} (h : c.exec o = .error e) :
    (c.server o.1).exec o.2 = .error e := by
  unfold exec at h
  cases hs : (c.server o.1).exec o.2 with
  | error e' => rw [hs] at h; exact congrArg Except.error (Except.error.inj h)
  | ok s => rw [hs] at h; cases h

end Namespaces

def clusterMachine : Machine Answer Namespaces (String × Op) Failure where
  fault i := i.fault.map Failure.new
  view i c := { c with server := fun ns => i.cache.getD (c.server ns) }
  exec := Namespaces.exec

/-- A program that works on several namespaces. -/
abbrev ClusterAction (α : Type) := Prog Answer Namespaces (String × Op) Failure α

/-- The controller's programs work in one namespace. -/
def Action.inNamespace {α : Type} (ns : String) (p : Action α) : ClusterAction α :=
  p.within (fun c => c.server ns) fun o => (ns, o)

theorem within_clusterMachine (ns : String) :
    Prog.Within clusterMachine machine (fun c => c.server ns) fun o => (ns, o) where
  fault _ := rfl
  shown r _ _ := by cases r <;> rfl
  exec _ _ _ h := (Namespaces.exec_ok h).1
  error _ _ _ h := Namespaces.exec_error h

/-! ## One run -/

namespace Gc

/-- `gc.Options`; no namespace means all of them. -/
structure Options where
  retention : ℕ
  namespaceName : Option String := none
  dryRun : Bool := false

/-- `gc.Results` -/
structure Results where
  scanned : ℕ := 0
  deleted : ℕ := 0
  wouldDelete : ℕ := 0
  skipped : ℕ := 0
  inUse : ℕ := 0
  malformed : ℕ := 0
  errors : ℕ := 0
  deriving DecidableEq, Repr

/-- `buildSelector`: managed by the operator and carrying the orphan label. -/
def buildSelector (pvc : PVC) : Bool :=
  Labels.Matches [(.appManagedBy, "multigres-operator")] pvc.labels && pvc.orphaned

def listOrphans (c : Namespaces) (namespaceName : Option String) : List (String × PVC) :=
  (namespaceName.elim c.names fun ns => [ns]).flatMap fun ns =>
    ((c.server ns).pvcs.items.filter buildSelector).map fun pvc => (ns, pvc)

/-- A map from claim names to the name of one pod that uses it. -/
abbrev ClaimMap := List (String × String)

/-- `claimUsers`: the claims in use, by namespace. -/
abbrev ClaimUsers := List (String × ClaimMap)

/-- The claims that pods use; a later pod replaces an earlier one. -/
def claimMap (pods : List Pod) : ClaimMap :=
  (pods.flatMap fun pod => pod.claims.map fun claim => (claim, pod.name)).reverse

/-- `podUsing`: a pod that uses a claim, from one list of pods for each namespace. -/
def podUsing (users : ClaimUsers) (ns claim : String) : ClusterAction (ClaimUsers × Option String) :=
  match users.lookup ns with
  | some claims => pure (users, claims.lookup claim)
  | none => do
    let pods ← Prog.fetch .direct fun (c : Namespaces) => (c.server ns).pods.items
    pure ((ns, claimMap pods) :: users, (claimMap pods).lookup claim)

def deletePVC (ns : String) (pvc : PVC) (res : Results) : ClusterAction Results := do
  let i ← Prog.answer
  (Prog.perform (ns, .deletePVC pvc.name (some pvc.resourceVersion) i.removal)).bindResult fun
    | .ok () => pure { res with deleted := res.deleted + 1 }
    | .error e =>
      if e.isNotFound then pure res else pure { res with errors := res.errors + 1 }

/-- `processPVC`: fails only when it cannot tell whether the PVC is in use. -/
def processPVC (opts : Options) (cutoff : ℤ) (st : ClaimUsers × Results) (item : String × PVC) :
    ClusterAction (ClaimUsers × Results) :=
  let (users, res) := st
  let (ns, pvc) := item
  match pvc.orphanSince with
  | none => pure (users, { res with malformed := res.malformed + 1 })
  | some (.malformed _) => pure (users, { res with malformed := res.malformed + 1 })
  | some (.since orphanedAt) =>
    if cutoff < orphanedAt then pure (users, { res with skipped := res.skipped + 1 })
    else if pvc.terminating then pure (users, { res with skipped := res.skipped + 1 })
    else do
      let (users, pod) ← (podUsing users ns pvc.name).mapError
        (Failure.wrap ("list pods in namespace " ++ ns))
      match pod with
      | some _ => pure (users, { res with inUse := res.inUse + 1 })
      | none =>
        if opts.dryRun then pure (users, { res with wouldDelete := res.wouldDelete + 1 })
        else do
          let res ← deletePVC ns pvc res
          pure (users, res)

/-- `Clean`: one run of the collector. -/
def clean (opts : Options) : ClusterAction Results := do
  let pvcs ← (Prog.fetch .direct fun (c : Namespaces) => listOrphans c opts.namespaceName).mapError
    (Failure.wrap "list PVCs")
  let i ← Prog.answer
  let cutoff : ℤ := i.now - opts.retention
  let (_, res) ← Prog.forEach pvcs (([], { scanned := pvcs.length }) : ClaimUsers × Results)
    (processPVC opts cutoff)
  pure res

end Gc

/-! ## What advances a namespace -/

namespace Server

/-- No PVC carries a resource version the server has yet to give out. -/
def Fresh (s : Server) : Prop := ∀ pvc ∈ s.pvcs, pvc.resourceVersion ≤ s.revision

variable {s s' t u : Server} {o : Op}

/-- A request gives out one resource version, and every PVC it leaves changed carries it. -/
theorem stamp_of_exec (h : s.exec o = .ok s') : s'.revision = s.revision + 1 ∧
    ∀ pvc ∈ s'.pvcs, pvc ∈ s.pvcs ∨ pvc.resourceVersion = s.revision + 1 := by
  have modified {name : String} {f : PVC → PVC} (hf : ∀ pvc, (f pvc).name = pvc.name)
      (hrv : ∀ pvc, (f pvc).resourceVersion = s.revision + 1) :
      ∀ pvc ∈ s.pvcs.modify name f hf, pvc ∈ s.pvcs ∨ pvc.resourceVersion = s.revision + 1 := by
    intro pvc hpvc
    obtain ⟨old, hold, rfl⟩ := Keyed.mem_modify.mp hpvc
    split
    · exact .inr (hrv old)
    · exact .inl hold
  have inserted {new : PVC} (hnone : s.pvcs.find new.name = none) :
      ∀ pvc ∈ s.pvcs.insert (s.admitPVC new) hnone,
        pvc ∈ s.pvcs ∨ pvc.resourceVersion = s.revision + 1 := by
    intro pvc hpvc
    rcases Keyed.mem_insert.mp hpvc with rfl | hmem
    · exact .inr rfl
    · exact .inl hmem
  cases o with
  | createPod pod =>
    simp only [exec] at h
    split at h <;> cases h
    exact ⟨rfl, fun _ => .inl⟩
  | patchPod name patch =>
    simp only [exec] at h
    split at h <;> cases h
    exact ⟨rfl, fun _ => .inl⟩
  | deletePod name uid how =>
    simp only [exec] at h
    split at h
    · cases h
    · split at h <;> cases h
      exact ⟨rfl, fun _ => .inl⟩
  | createPVC pvc =>
    simp only [exec] at h
    split at h <;> cases h
    next hnone => exact ⟨rfl, inserted hnone⟩
  | patchPVC name patch =>
    simp only [exec] at h
    split at h
    · cases h
    · split at h <;> cases h
      exact ⟨rfl, modified (by intro; rfl) (by intro; rfl)⟩
  | applyPVC pvc =>
    simp only [exec] at h
    split at h <;> cases h
    · next hnone => exact ⟨rfl, inserted hnone⟩
    · exact ⟨rfl, modified (by intro; rfl) (by intro; rfl)⟩
  | deletePVC name resourceVersion how =>
    simp only [exec] at h
    split at h
    · cases h
    · split at h <;> cases h
      refine ⟨rfl, ?_⟩
      intro pvc hpvc
      obtain ⟨old, hold, ⟨rfl, -⟩ | ⟨-, -, rfl⟩⟩ := mem_removePVC.mp hpvc
      · exact .inl hold
      · exact .inr rfl
  | deleteDeployment name how =>
    simp only [exec] at h
    split at h <;> cases h
    exact ⟨rfl, fun _ => .inl⟩
  | setFinalizer present =>
    cases h
    exact ⟨rfl, fun _ => .inl⟩

theorem Fresh.exec (hs : s.Fresh) (h : s.exec o = .ok s') : s'.Fresh := by
  intro pvc hpvc
  have ⟨hrevision, hpvcs⟩ := stamp_of_exec h
  rcases hpvcs pvc hpvc with hmem | hrv
  · have := hs pvc hmem
    omega
  · omega

/-- What happens to a namespace between two requests of the collector: a PVC is as it was or carries
a new resource version, and a pod is on claims a pod was on before, or on PVCs that were not labelled
when it was created. -/
structure Advances (s t : Server) : Prop where
  revision : s.revision ≤ t.revision
  pvcs : ∀ pvc ∈ t.pvcs, pvc ∈ s.pvcs ∨ s.revision < pvc.resourceVersion
  pods : ∀ pod ∈ t.pods, (∃ q ∈ s.pods, q.claims = pod.claims) ∨
    ∀ pvc ∈ s.pvcs, pvc ∈ t.pvcs → pvc.name ∈ pod.claims → pvc.orphaned = false

theorem Advances.refl (s : Server) : Advances s s where
  revision := le_rfl
  pvcs _ := .inl
  pods pod hpod := .inl ⟨pod, hpod, rfl⟩

theorem Advances.trans (hs : s.Fresh) (h₁ : Advances s t) (h₂ : Advances t u) : Advances s u := by
  -- a PVC that is the same at both ends was the same in between
  have between (pvc : PVC) (h : pvc ∈ s.pvcs) (h' : pvc ∈ u.pvcs) : pvc ∈ t.pvcs :=
    (h₂.pvcs pvc h').resolve_right fun hrv => by
      have := hs pvc h
      have := h₁.revision
      omega
  refine ⟨h₁.revision.trans h₂.revision, fun pvc hpvc => ?_, fun pod hpod => ?_⟩
  · rcases h₂.pvcs pvc hpvc with hmem | hrv
    · exact h₁.pvcs pvc hmem
    · exact .inr (h₁.revision.trans_lt hrv)
  · rcases h₂.pods pod hpod with ⟨q, hq, hclaims⟩ | hnew
    · rcases h₁.pods q hq with ⟨q', hq', hclaims'⟩ | hnew'
      · exact .inl ⟨q', hq', hclaims'.trans hclaims⟩
      · exact .inr fun pvc h h' hclaim => hnew' pvc h (between pvc h h') (hclaims ▸ hclaim)
    · exact .inr fun pvc h h' hclaim => hnew pvc (between pvc h h') h' hclaim

/-- The request creates no pod on a PVC that carries the orphan label. -/
def ClaimsUnlabelled (s : Server) (o : Op) : Prop :=
  ∀ pod, o = .createPod pod → ∀ pvc ∈ s.pvcs, pvc.name ∈ pod.claims → pvc.orphaned = false

/-- **Every request advances its namespace**, unless it creates a pod on a labelled PVC. -/
theorem advances_of_exec (ho : s.ClaimsUnlabelled o) (h : s.exec o = .ok s') : Advances s s' := by
  have ⟨hrevision, hpvcs⟩ := stamp_of_exec h
  refine ⟨by omega, fun pvc hpvc => (hpvcs pvc hpvc).imp_right fun _ => by omega, fun pod hpod => ?_⟩
  cases origin_of_exec h hpod with
  | created hop heq =>
    subst heq
    exact .inr fun pvc hpvc _ hclaim => ho _ hop pvc hpvc hclaim
  | kept hmem _ => exact .inl ⟨pod, hmem, rfl⟩
  | @patched old patch hmem hop heq => exact .inl ⟨old, hmem, by rw [heq]; cases patch <;> rfl⟩
  | stamped hmem hop heq => exact .inl ⟨_, hmem, by rw [heq]; rfl⟩

end Server

namespace Namespaces

variable {c d e : Namespaces}

/-- No PVC of any namespace carries a resource version yet to be given out. -/
def Fresh (c : Namespaces) : Prop := ∀ ns, (c.server ns).Fresh

def Advances (c d : Namespaces) : Prop :=
  c.Fresh → d.Fresh ∧ ∀ ns, (c.server ns).Advances (d.server ns)

theorem Advances.refl (c : Namespaces) : c.Advances c :=
  fun hc => ⟨hc, fun _ => .refl _⟩

theorem Advances.trans (h₁ : c.Advances d) (h₂ : d.Advances e) : c.Advances e := by
  intro hc
  have ⟨hd, hcd⟩ := h₁ hc
  have ⟨he, hde⟩ := h₂ hd
  exact ⟨he, fun ns => (hcd ns).trans (hc ns) (hde ns)⟩

theorem fresh_of_exec {o : String × Op} (hc : c.Fresh) (h : c.exec o = .ok d) : d.Fresh := by
  have ⟨hexec, hother⟩ := exec_ok h
  intro ns
  by_cases hns : ns = o.1
  · subst hns
    exact (hc o.1).exec hexec
  · rw [hother ns hns]
    exact hc ns

theorem advances_of_exec {o : String × Op} (ho : (c.server o.1).ClaimsUnlabelled o.2)
    (h : c.exec o = .ok d) : c.Advances d := by
  refine fun hc => ⟨fresh_of_exec hc h, fun ns => ?_⟩
  have ⟨hexec, hother⟩ := exec_ok h
  by_cases hns : ns = o.1
  · subst hns
    exact Server.advances_of_exec ho hexec
  · rw [hother ns hns]
    exact .refl _

end Namespaces

/-! ## The collector deletes nothing in use -/

namespace Gc

/-- The request deletes a PVC that no pod references. -/
def Collects (c : Namespaces) (o : String × Op) : Prop :=
  ∃ name resourceVersion how, o.2 = .deletePVC name resourceVersion how ∧
    ∀ pod ∈ (c.server o.1).pods, name ∉ pod.claims

/-- What the collector knows of the PVCs it has listed: a PVC under a resource version it listed is
the PVC it listed, and where it has listed the pods and found none that uses a PVC, none does as long
as the PVC stays as it was. -/
structure Watches (listed : List (String × PVC)) (users : ClaimUsers) (c : Namespaces) : Prop where
  fresh : c.Fresh
  labelled : ∀ ns pvc, (ns, pvc) ∈ listed → pvc.orphaned = true
  old : ∀ ns pvc, (ns, pvc) ∈ listed → pvc.resourceVersion ≤ (c.server ns).revision
  same : ∀ ns pvc, (ns, pvc) ∈ listed → ∀ stored ∈ (c.server ns).pvcs, stored.name = pvc.name →
    stored.resourceVersion = pvc.resourceVersion → stored = pvc
  free : ∀ ns claims, users.lookup ns = some claims → ∀ pvc, (ns, pvc) ∈ listed →
    claims.lookup pvc.name = none → pvc ∈ (c.server ns).pvcs →
      ∀ pod ∈ (c.server ns).pods, pvc.name ∉ pod.claims

section Watches

variable {listed : List (String × PVC)} {users : ClaimUsers} {c d : Namespaces}

theorem Watches.advance (h : Watches listed users c) (ha : c.Advances d) : Watches listed users d := by
  have ⟨hfresh, hadvances⟩ := ha h.fresh
  refine ⟨hfresh, h.labelled, fun ns pvc hlisted => (h.old ns pvc hlisted).trans (hadvances ns).revision,
    fun ns pvc hlisted stored hstored hname hrv => ?_,
    fun ns claims husers pvc hlisted hlookup hmem pod hpod hclaim => ?_⟩
  · refine h.same ns pvc hlisted stored (((hadvances ns).pvcs stored hstored).resolve_right ?_) hname hrv
    have := h.old ns pvc hlisted
    omega
  · have hbefore : pvc ∈ (c.server ns).pvcs := by
      refine ((hadvances ns).pvcs pvc hmem).resolve_right ?_
      have := h.old ns pvc hlisted
      omega
    rcases (hadvances ns).pods pod hpod with ⟨q, hq, hclaims⟩ | hnew
    · exact h.free ns claims husers pvc hlisted hlookup hbefore q hq (hclaims ▸ hclaim)
    · have := hnew pvc hbefore hmem hclaim
      simp [h.labelled ns pvc hlisted] at this

theorem watches_listOrphans (hc : c.Fresh) (namespaceName : Option String) :
    Watches (listOrphans c namespaceName) [] c := by
  have hmem {ns : String} {pvc : PVC} (h : (ns, pvc) ∈ listOrphans c namespaceName) :
      pvc ∈ (c.server ns).pvcs ∧ pvc.orphaned = true := by
    obtain ⟨ns', -, h⟩ := List.mem_flatMap.mp h
    obtain ⟨pvc', hpvc', heq⟩ := List.mem_map.mp h
    obtain ⟨rfl, rfl⟩ := Prod.mk.inj heq
    have ⟨hmem, hsel⟩ := List.mem_filter.mp hpvc'
    exact ⟨hmem, (Bool.and_eq_true _ _ ▸ hsel).2⟩
  refine ⟨hc, fun ns pvc h => (hmem h).2, fun ns pvc h => hc ns pvc (hmem h).1,
    fun ns pvc h stored hstored hname _ => (c.server ns).pvcs.eq_of_key_eq hstored (hmem h).1 hname,
    fun ns claims h => ?_⟩
  cases h

theorem not_mem_claims_of_lookup_claimMap {pods : List Pod} {claim : String}
    (h : (claimMap pods).lookup claim = none) : ∀ pod ∈ pods, claim ∉ pod.claims := by
  intro pod hpod hclaim
  rw [List.lookup_eq_none_iff] at h
  have := h (claim, pod.name) (List.mem_reverse.mpr (List.mem_flatMap.mpr
    ⟨pod, hpod, List.mem_map.mpr ⟨claim, hclaim, rfl⟩⟩))
  simp at this

theorem Watches.listPods (h : Watches listed users c) (ns : String) :
    Watches listed ((ns, claimMap (c.server ns).pods.items) :: users) c := by
  refine ⟨h.fresh, h.labelled, h.old, h.same, fun ns' claims husers pvc hlisted hlookup hmem => ?_⟩
  rw [List.lookup_cons] at husers
  split at husers
  · next heq =>
    obtain rfl := Option.some.inj husers
    obtain rfl : ns' = ns := by simpa using heq
    exact not_mem_claims_of_lookup_claimMap hlookup
  · exact h.free ns' claims husers pvc hlisted hlookup hmem

theorem Watches.collects (h : Watches listed users c) {ns : String} {claims : ClaimMap} {pvc : PVC}
    {how : Removal} (husers : users.lookup ns = some claims) (hlisted : (ns, pvc) ∈ listed)
    (hlookup : claims.lookup pvc.name = none)
    (hexec : c.exec (ns, .deletePVC pvc.name (some pvc.resourceVersion) how) = .ok d) :
    Collects c (ns, .deletePVC pvc.name (some pvc.resourceVersion) how) := by
  refine ⟨_, _, _, rfl, h.free ns claims husers pvc hlisted hlookup ?_⟩
  obtain ⟨⟨stored, hstored, hname, hmeets⟩, -⟩ := Server.exec_deletePVC (Namespaces.exec_ok hexec).1
  have hrv : pvc.resourceVersion = stored.resourceVersion := by simpa [Server.meets] using hmeets
  exact h.same ns pvc hlisted stored hstored hname hrv.symm ▸ hstored

end Watches

/-- The precondition of the collector's programs: the namespaces advance in between. -/
abbrev Upholds {α : Type} (p : ClusterAction α) (Q : α → Namespaces → Prop) (c : Namespaces) : Prop :=
  p.wp clusterMachine Namespaces.Advances (fun _ _ => True) Collects Q (fun _ _ => True) c

section Upholds

variable {α : Type} {listed : List (String × PVC)} {users : ClaimUsers} {c : Namespaces}
  {Q : α → Namespaces → Prop}

theorem upholds_podUsing {ns claim : String} {f : Failure → Failure}
    {k : ClaimUsers × Option String → ClusterAction α} (h : Watches listed users c)
    (hk : ∀ users' pod d, Watches listed users' d →
      (pod = none → ∃ claims, users'.lookup ns = some claims ∧ claims.lookup claim = none) →
      Upholds (k (users', pod)) Q d) :
    Upholds ((podUsing users ns claim).mapError f >>= k) Q c := by
  refine Prog.wp_mapError_bind (fun _ _ => trivial) ?_
  unfold podUsing
  split
  · next claims hclaims => exact hk users _ c h fun hnone => ⟨claims, hclaims, hnone⟩
  · refine fun d hd => ⟨fun _ _ _ _ _ => trivial, fun i _ => ?_⟩
    exact hk _ _ d ((h.advance hd).listPods ns) fun hnone => ⟨_, by simp, hnone⟩

theorem upholds_deletePVC {ns : String} {claims : ClaimMap} {pvc : PVC} {res : Results}
    {k : Results → ClusterAction α} (h : Watches listed users c)
    (husers : users.lookup ns = some claims) (hlisted : (ns, pvc) ∈ listed)
    (hlookup : claims.lookup pvc.name = none)
    (hk : ∀ res d, Watches listed users d → Upholds (k res) Q d) :
    Upholds (deletePVC ns pvc res >>= k) Q c := by
  intro d hd i _ e he
  have hwatch := (h.advance hd).advance he
  refine ⟨fun j err _ => ?_, fun e' he' => ?_⟩
  · simp only [Bool.false_eq_true, if_false, Prog.bindResult]
    split <;> exact hk _ e hwatch
  · have hcollects := hwatch.collects husers hlisted hlookup he'
    refine ⟨hcollects, hk _ e' (hwatch.advance (Namespaces.advances_of_exec ?_ he'))⟩
    intro pod hop
    cases hop

theorem upholds_processPVC {opts : Options} {cutoff : ℤ} {st : ClaimUsers × Results}
    {item : String × PVC} (h : Watches listed st.1 c) (hitem : item ∈ listed) :
    Upholds (processPVC opts cutoff st item) (fun st d => Watches listed st.1 d) c := by
  obtain ⟨users, res⟩ := st
  obtain ⟨ns, pvc⟩ := item
  have done (d : Namespaces) (users : ClaimUsers) (res : Results) (h : Watches listed users d) :
      Upholds (pure (users, res)) (fun st d => Watches listed st.1 d) d := fun e he => h.advance he
  unfold processPVC
  dsimp only
  split
  · exact done c _ _ h
  · exact done c _ _ h
  split
  · exact done c _ _ h
  split
  · exact done c _ _ h
  refine upholds_podUsing h fun users pod d hd hpod => ?_
  dsimp only
  cases pod with
  | some pod => exact done d _ _ hd
  | none =>
    obtain ⟨claims, hclaims, hlookup⟩ := hpod rfl
    dsimp only
    split
    · exact done d _ _ hd
    · exact upholds_deletePVC hd hclaims hitem hlookup fun res e he => done e _ _ he

end Upholds

/-- **The collector deletes no PVC in use**, whatever advances the namespaces between its requests. -/
theorem upholds_clean (opts : Options) {c : Namespaces} (hc : c.Fresh) :
    Upholds (clean opts) (fun _ _ => True) c := by
  unfold clean
  refine Prog.wp_mapError_bind (fun _ _ => trivial) (Prog.wp_fetch_bind (fun _ _ => trivial) ?_)
  intro d hd i _ e he j _
  have hstart := (watches_listOrphans (hd hc).1 opts.namespaceName).advance he
  set listed := listOrphans d opts.namespaceName
  change Upholds (Prog.forEach listed _ _ >>= _) _ e
  refine Prog.wp_bind Namespaces.Advances.refl (Prog.wp_conseq (Prog.wp_forEach Namespaces.Advances.refl
    (I := fun rest (st : ClaimUsers × Results) d => (∀ item ∈ rest, item ∈ listed) ∧
      Watches listed st.1 d) ?_ ?_ ⟨fun _ hitem => hitem, hstart⟩) (fun _ _ _ _ _ => trivial)
    fun _ _ h => h)
  · exact fun _ _ s t hI ht => ⟨hI.1, hI.2.advance ht⟩
  · intro item rest st s hI
    exact Prog.wp_conseq (upholds_processPVC hI.2 (hI.1 item (by simp)))
      (fun st t hw => ⟨fun item hitem => hI.1 item (by simp [hitem]), hw⟩) fun _ _ h => h

end Gc

end MultigresOperator
