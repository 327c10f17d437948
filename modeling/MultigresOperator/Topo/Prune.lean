import MultigresOperator.Lib.Keyed
import MultigresOperator.Lib.Parallel
import MultigresOperator.Topo.Pooler

/-!
# Marking dead poolers

A phase of the Shard controller marks the topology records of poolers without a pod as shut down. It
takes the pods from the cache, then goes through the records of each cell and writes to every live
record that matches none of these pods. Meanwhile pods are created, and the poolers of pods register
themselves: a record may be that of a pod which the cached list did not hold yet, or be written by
such a pod's pooler after it was read. The write checks neither.

## Main definitions

* `Fleet`: the pods, and the topology records with the pod whose pooler wrote each one as active
* `markDeadPoolers`, `reconcilePoolerPrune`: the phase as a program
* `Config.turn`: one request of the phase, one pod created or one pooler registered
* `Run`: the interleavings

## Main results

* `wp_reconcilePoolerPrune`: the phase only writes to records that match none of the listed pods
* `registrations_survive_scan`: the registrations of existing pods survive if the list has their pods
* `stale_list_shuts_down_registration`: a registration that does not survive
-/

namespace MultigresOperator.Prune

open Effects

/-! ## The model -/

/-- A pod of the shard. A pod that is created again has another `uid`. -/
structure PodRef where
  name : String
  uid : ℕ
  deriving DecidableEq

/-- A topology record, and the pod whose pooler last wrote it as active. -/
structure Entry where
  record : Multipooler
  author : Option ℕ := none
  deriving DecidableEq

/-- The shard's pods, the versions of that list that a cache may still show, and its topology
records. -/
structure Fleet where
  pods : List PodRef
  past : List (List PodRef) := []
  records : Keyed fun e : Entry => e.record.id

/-- The records of a cell, `GetMultipoolersByCell`. -/
def Fleet.poolersIn (s : Fleet) (cell : String) : List Multipooler :=
  (s.records.items.map Entry.record).filter fun p => p.id.map PoolerId.cell == some cell

def deadPoolerReason : String := "operator: no backing pod for pooler"

/-- What the update of `MarkDeadPoolers` does to a record. It does not look at what it replaces. -/
def Entry.shutDown (e : Entry) : Entry :=
  { e with record := { e.record with lifecycle := .shutdown, lifecycleReason := deadPoolerReason } }

theorem Entry.id_shutDown (e : Entry) : e.shutDown.record.id = e.record.id := rfl

/-- The records with that of an identity shut down. -/
def Fleet.mark (s : Fleet) (id : Option PoolerId) : Fleet :=
  { s with records := s.records.modify id Entry.shutDown Entry.id_shutDown }

/-- `UpdateMultipoolerFields` with the update of `MarkDeadPoolers`. -/
inductive Op
  | mark (id : Option PoolerId)

/-- A fault of a request, and the pods a cached list shows. -/
structure Answer where
  fault : Option TopoError := none
  pods : List PodRef := []

def topology : Machine Answer Fleet Op TopoError where
  fault := Answer.fault
  view i s := { s with pods := i.pods }
  exec s
    | .mark id =>
      match s.records.find id with
      | none => .error { text := "node doesn't exist" }
      | some _ => .ok (s.mark id)

def poolerMatchesAnyActivePod (p : Multipooler) (activePodNames : List String) : Bool :=
  activePodNames.any fun podName => podMatchesPooler podName p

section

variable (activePodNames : List String)

/-- The records of one cell. A failed update is logged. -/
def markRecords : List Multipooler → ℕ → Prog Answer Fleet Op TopoError ℕ
  | [], marked => .ret marked
  | p :: poolers, marked =>
    if poolerMatchesAnyActivePod p activePodNames then markRecords poolers marked
    else if p.isLifecycleShutdown then markRecords poolers marked
    else .call (.mark p.id) fun
      | .error _ => markRecords poolers marked
      | .ok () => markRecords poolers (marked + 1)

/-- The cells: an unavailable one is skipped, any other failure ends the scan. -/
def markCells : List String → ℕ → Prog Answer Fleet Op TopoError (ℕ × Option String)
  | [], marked => .ret (marked, none)
  | cell :: cells, marked => .read .direct fun
    | .error err =>
      if err.unavailable then markCells cells marked
      else .ret (marked, some ("listing poolers in cell \"" ++ cell ++
        "\" for dead-pooler detection: " ++ err.text))
    | .ok s => (markRecords activePodNames (s.poolersIn cell) marked).bind (markCells cells)

/-- `MarkDeadPoolers`: the number of records marked, and the error that ended the scan. -/
def markDeadPoolers (shard : Shard) : Prog Answer Fleet Op TopoError (ℕ × Option String) :=
  markCells activePodNames (collectCells shard) 0

end

/-- `reconcilePoolerPrune`; `enabled` is `isPoolerPruningEnabled`. -/
def reconcilePoolerPrune (shard : Shard) (enabled : Bool) :
    Prog Answer Fleet Op TopoError (ℕ × Option String) :=
  if !enabled then .ret (0, none)
  else .read .cached fun
    | .error _ => .ret (0, none)
    | .ok s => markDeadPoolers (s.pods.map PodRef.name) shard

/-- What is left of the phase, and the fleet it works on. -/
structure Config where
  rest : Prog Answer Fleet Op TopoError (ℕ × Option String)
  fleet : Fleet

/-- A request of the phase, a pod that is created, a pooler that registers itself. -/
inductive Event
  | scan (i : Answer)
  | create (pod : PodRef)
  | register (pod : PodRef) (record : Multipooler)

/-- A pod joins. A lagging cache may still show the list without it. -/
def Fleet.create (s : Fleet) (pod : PodRef) : Fleet :=
  { s with pods := pod :: s.pods, past := s.pods :: s.past }

/-- A pooler writes its record, in place of one with the same identity. -/
def Fleet.register (s : Fleet) (pod : PodRef) (record : Multipooler) : Fleet :=
  { s with
    records := (s.records.erase record.id).insert ⟨record, some pod.uid⟩
      (Keyed.find_eq_none.mpr fun _ h => (Keyed.mem_erase.mp h).2) }

/-- One step. The cache shows the scan the list `listed`, which is or was that of the pods. A pod is
created with a `uid` of its own, and a pooler registers under the host name of its pod. -/
def Config.turn (listed : List PodRef) (c : Config) : Event → Option Config
  | .scan i =>
    if i.pods = listed ∧ (listed = c.fleet.pods ∨ listed ∈ c.fleet.past) then
      (c.rest.next topology i c.fleet).map fun x => ⟨x.1, x.2⟩
    else none
  | .create pod =>
    if ∀ e ∈ c.fleet.records.items, e.author ≠ some pod.uid then
      some { c with fleet := c.fleet.create pod }
    else none
  | .register pod record =>
    if pod ∈ c.fleet.pods ∧ podMatchesPooler pod.name record = true ∧ record.lifecycle = .active then
      some { c with fleet := c.fleet.register pod record }
    else none

/-- The interleavings whose steps satisfy `P`. -/
inductive Run (listed : List PodRef) (P : Fleet → Event → Prop) (c : Config) : Config → Prop
  | refl : Run listed P c c
  | step {d d' : Config} {e : Event} (run : Run listed P c d) (good : P d.fleet e)
      (turn : d.turn listed e = some d') : Run listed P c d'

/-! ## What is claimed of a fleet -/

/-- A record that the pooler of an existing pod wrote as active. -/
def Fleet.Registered (s : Fleet) (e : Entry) : Prop :=
  e ∈ s.records ∧ ∃ pod ∈ s.pods, e.author = some pod.uid

/-- The registrations of existing pods are not shut down. -/
def Fleet.Sound (s : Fleet) : Prop := ∀ e, s.Registered e → e.record.lifecycle ≠ .shutdown

def Fleet.Covered (listed : List PodRef) (s : Fleet) : Prop :=
  ∀ e, s.Registered e → poolerMatchesAnyActivePod e.record (listed.map PodRef.name) = true

/-- A pooler that registers, and the record it replaces, belong to a pod of the list. -/
def InTime (listed : List PodRef) (s : Fleet) : Event → Prop
  | .register _ record =>
    poolerMatchesAnyActivePod record (listed.map PodRef.name) = true ∧
      ∀ e ∈ s.records.items, e.record.id = record.id →
        poolerMatchesAnyActivePod e.record (listed.map PodRef.name) = true
  | _ => True

/-! ## The records that a scan writes to -/

section

variable {listed : List PodRef} {s t : Fleet}

def Unmatched (names : List String) (s : Fleet) (id : Option PoolerId) : Prop :=
  ∃ e ∈ s.records, e.record.id = id ∧ poolerMatchesAnyActivePod e.record names = false

/-- What the scan relies on: such a record stays one. -/
def Keeps (names : List String) (s t : Fleet) : Prop :=
  ∀ id, Unmatched names s id → Unmatched names t id

/-- What the scan guarantees: it only marks such records. -/
def MarksUnmatched (names : List String) (s : Fleet) : Op → Prop
  | .mark id => Unmatched names s id

variable {pooler : Option PoolerId} {e : Entry} {pod : PodRef} {record : Multipooler}

theorem exec_mark (h : topology.exec s (.mark pooler) = .ok t) : t = s.mark pooler := by
  change (match s.records.find pooler with
    | none => Except.error ({ text := "node doesn't exist" } : TopoError)
    | some _ => .ok (s.mark pooler)) = _ at h
  split at h
  · cases h
  · exact (Except.ok.inj h).symm

theorem mem_mark : e ∈ (s.mark pooler).records ↔
    ∃ old ∈ s.records, e = if old.record.id = pooler then old.shutDown else old :=
  Keyed.mem_modify (h := Entry.id_shutDown)

theorem keeps_mark (names : List String) (pooler : Option PoolerId) :
    Keeps names s (s.mark pooler) := by
  rintro other ⟨e, he, hid, hmatch⟩
  refine ⟨_, mem_mark.mpr ⟨e, he, rfl⟩, ?_, ?_⟩
  · split
    · exact hid
    · exact hid
  · split
    · exact hmatch
    · exact hmatch

theorem keeps_trans (names : List String) {a b c : Fleet} (h : Keeps names a b)
    (h' : Keeps names b c) : Keeps names a c := fun pooler hpooler => h' pooler (h pooler hpooler)

/-- The precondition of a program that marks unmatched records only. -/
abbrev safe (listed : List PodRef) {α : Type} (p : Prog Answer Fleet Op TopoError α)
    (Q : α → Fleet → Prop) : Fleet → Prop :=
  p.wp topology (Keeps (listed.map PodRef.name)) (fun _ i => i.pods = listed)
    (MarksUnmatched (listed.map PodRef.name)) Q fun _ _ => True

theorem safe_of_keeps {α : Type} {p : Prog Answer Fleet Op TopoError α} {Q : α → Fleet → Prop}
    (h : safe listed p Q s) (hst : Keeps (listed.map PodRef.name) s t) : safe listed p Q t :=
  Prog.wp_stable (R := Keeps (listed.map PodRef.name)) (fun hab hbc => keeps_trans _ hab hbc) h hst

theorem wp_markRecords {Q : ℕ → Fleet → Prop} (hQ : ∀ marked t, Q marked t)
    {poolers : List Multipooler}
    (h : ∀ p ∈ poolers, poolerMatchesAnyActivePod p (listed.map PodRef.name) = false →
      Unmatched (listed.map PodRef.name) s p.id) (marked : ℕ) :
    safe listed (markRecords (listed.map PodRef.name) poolers marked) Q s := by
  induction poolers generalizing s marked with
  | nil => exact fun t _ => hQ marked t
  | cons p poolers ih =>
    obtain ⟨hp, hpoolers⟩ := List.forall_mem_cons.mp h
    unfold markRecords
    split
    · exact ih hpoolers marked
    · next hmatch =>
      split
      · exact ih hpoolers marked
      · -- the record was unmatched when it was read, and still is
        intro t hst
        have hid : Unmatched (listed.map PodRef.name) t p.id :=
          hst _ (hp (Bool.eq_false_of_not_eq_true hmatch))
        have hrest (q : Multipooler) (hq : q ∈ poolers)
            (hfalse : poolerMatchesAnyActivePod q (listed.map PodRef.name) = false) :
            Unmatched (listed.map PodRef.name) t q.id := hst _ (hpoolers q hq hfalse)
        refine ⟨fun i e _ => ih hrest marked, fun t' ht' => ⟨hid, ih ?_ (marked + 1)⟩⟩
        intro q hq hfalse
        rw [exec_mark ht']
        exact keeps_mark _ _ _ (hrest q hq hfalse)

theorem wp_markCells (cells : List String) (marked : ℕ) :
    safe listed (markCells (listed.map PodRef.name) cells marked) (fun _ _ => True) s := by
  induction cells generalizing s marked with
  | nil => exact fun _ _ => trivial
  | cons cell cells ih =>
    intro t _
    refine ⟨fun i err _ => ?_, fun i _ => ?_⟩
    · dsimp only
      split
      · exact ih marked
      · exact fun _ _ => trivial
    · refine Prog.wp_bind (fun _ _ => id) (wp_markRecords (fun marked t => ih marked) ?_ marked)
      intro p hp hmatch
      obtain ⟨e, he, rfl⟩ := List.mem_map.mp (List.mem_filter.mp hp).1
      exact ⟨e, he, rfl, hmatch⟩

/-- **The phase marks unmatched records**: those that match none of the pods it was shown. -/
theorem wp_reconcilePoolerPrune (shard : Shard) (enabled : Bool) :
    safe listed (reconcilePoolerPrune shard enabled) (fun _ _ => True) s := by
  unfold reconcilePoolerPrune
  split
  · exact fun _ _ => trivial
  · intro t _
    refine ⟨fun _ _ _ => fun _ _ => trivial, fun i hi => ?_⟩
    subst hi
    exact wp_markCells _ _

/-! ## Registrations during a scan -/

theorem invariant_mark (hsound : s.Sound) (hcovered : s.Covered listed)
    (hunmatched : Unmatched (listed.map PodRef.name) s pooler) :
    (s.mark pooler).Sound ∧ (s.mark pooler).Covered listed := by
  have hkept (e : Entry) (he : (s.mark pooler).Registered e) : s.Registered e := by
    obtain ⟨hmem, pod, hpod, hauthor⟩ := he
    obtain ⟨old, hold, rfl⟩ := mem_mark.mp hmem
    split at hauthor
    · -- the record of a registration is covered, that of this identity is not
      next hkey =>
      obtain ⟨u, hu, huid, hfalse⟩ := hunmatched
      obtain rfl : u = old := s.records.eq_of_key_eq hu hold (huid.trans hkey.symm)
      rw [hcovered u ⟨hu, pod, hpod, hauthor⟩] at hfalse
      cases hfalse
    · next hkey =>
      rw [if_neg hkey]
      exact ⟨hold, pod, hpod, hauthor⟩
  exact ⟨fun e he => hsound e (hkept e he), fun e he => hcovered e (hkept e he)⟩

theorem mem_register :
    e ∈ (s.register pod record).records ↔
      e = ⟨record, some pod.uid⟩ ∨ e ∈ s.records ∧ e.record.id ≠ record.id := by
  unfold Fleet.register
  rw [Keyed.mem_insert, Keyed.mem_erase]

theorem invariant_register (hsound : s.Sound) (hcovered : s.Covered listed)
    (hactive : record.lifecycle = .active)
    (hmatch : poolerMatchesAnyActivePod record (listed.map PodRef.name) = true) :
    (s.register pod record).Sound ∧ (s.register pod record).Covered listed := by
  constructor
  · rintro e ⟨hmem, hauthor⟩
    rcases mem_register.mp hmem with rfl | ⟨hmem, -⟩
    · rw [hactive]
      decide
    · exact hsound e ⟨hmem, hauthor⟩
  · rintro e ⟨hmem, hauthor⟩
    rcases mem_register.mp hmem with rfl | ⟨hmem, -⟩
    · exact hmatch
    · exact hcovered e ⟨hmem, hauthor⟩

theorem keeps_register (h : ∀ e ∈ s.records.items, e.record.id = record.id →
      poolerMatchesAnyActivePod e.record (listed.map PodRef.name) = true) :
    Keeps (listed.map PodRef.name) s (s.register pod record) := by
  rintro id ⟨e, he, rfl, hfalse⟩
  refine ⟨e, mem_register.mpr (.inr ⟨he, fun hid => ?_⟩), rfl, hfalse⟩
  rw [h e he hid] at hfalse
  cases hfalse

theorem registered_of_create (hfresh : ∀ e ∈ s.records.items, e.author ≠ some pod.uid)
    (h : (s.create pod).Registered e) : s.Registered e := by
  obtain ⟨hmem, p, hp, hauthor⟩ := h
  rcases List.mem_cons.mp hp with rfl | hp
  · exact absurd hauthor (hfresh e hmem)
  · exact ⟨hmem, p, hp, hauthor⟩

/-- What holds while a scan runs. -/
structure Invariant (listed : List PodRef) (c : Config) : Prop where
  safe : safe listed c.rest (fun _ _ => True) c.fleet
  sound : c.fleet.Sound
  covered : c.fleet.Covered listed

/-- **One step** of the scan or of its environment keeps the invariant. -/
theorem Invariant.turn {c d : Config} {e : Event} (h : Invariant listed c)
    (good : InTime listed c.fleet e) (hturn : c.turn listed e = some d) : Invariant listed d := by
  cases e with
  | scan i =>
    obtain ⟨⟨hanswer, -⟩, hturn⟩ := Option.ite_none_right_eq_some.mp hturn
    obtain ⟨⟨rest, fleet⟩, hnext, rfl⟩ := Option.map_eq_some_iff.mp hturn
    obtain ⟨act, hmoves⟩ :=
      Prog.moves_of_next (A := fun _ i => i.pods = listed) hanswer hnext
    have hsafe := Prog.wp_of_moves (fun _ _ => id) h.safe hmoves
    -- either the request writes nothing, or it is a mark that satisfies the guard
    by_cases hcall : ∃ u o, act = some (.call u o)
    · obtain ⟨u, ⟨pooler⟩, rfl⟩ := hcall
      obtain ⟨rfl, hguard, hexec⟩ := Prog.guard_of_moves (fun _ _ => id) h.safe hmoves
      obtain rfl := exec_mark hexec
      obtain ⟨hsound, hcovered⟩ := invariant_mark h.sound h.covered hguard
      exact ⟨hsafe, hsound, hcovered⟩
    · obtain rfl : fleet = c.fleet :=
        Prog.store_of_moves hmoves fun u o heq => hcall ⟨u, o, heq⟩
      exact ⟨hsafe, h.sound, h.covered⟩
  | create pod =>
    obtain ⟨hfresh, hturn⟩ := Option.ite_none_right_eq_some.mp hturn
    obtain rfl := Option.some.inj hturn
    refine ⟨safe_of_keeps h.safe fun _ => id, ?_, ?_⟩
    · exact fun e he => h.sound e (registered_of_create hfresh he)
    · exact fun e he => h.covered e (registered_of_create hfresh he)
  | register pod record =>
    obtain ⟨⟨-, -, hactive⟩, hturn⟩ := Option.ite_none_right_eq_some.mp hturn
    obtain rfl := Option.some.inj hturn
    obtain ⟨hsound, hcovered⟩ := invariant_register h.sound h.covered hactive good.1
    exact ⟨safe_of_keeps h.safe (keeps_register good.2), hsound, hcovered⟩

/-- **Registrations survive a scan** whose list is not behind: if the list that the phase is shown has
the pods of the registrations at its start, and those of all poolers that register in the meantime,
no registration of an existing pod is shut down, at the end or at any point before. -/
theorem registrations_survive_scan {shard : Shard} {enabled : Bool} {start : Fleet} {c : Config}
    (hsound : start.Sound) (hcovered : start.Covered listed)
    (hrun : Run listed (InTime listed) ⟨reconcilePoolerPrune shard enabled, start⟩ c) :
    c.fleet.Sound := by
  have hinvariant : Invariant listed c := by
    induction hrun with
    | refl => exact ⟨wp_reconcilePoolerPrune shard enabled, hsound, hcovered⟩
    | step _ good turn ih => exact ih.turn good turn
  exact hinvariant.sound

end

/-! ## Two scans -/

/-- Whether a step meets the condition can be found out. -/
instance (listed : List PodRef) (s : Fleet) : (e : Event) → Decidable (InTime listed s e)
  | .scan _ => inferInstanceAs (Decidable True)
  | .create _ => inferInstanceAs (Decidable True)
  | .register _ _ => inferInstanceAs (Decidable (_ ∧ _))

/-- The steps one after another, each of them in time if `checked`. -/
def play (listed : List PodRef) (checked : Bool) : Config → List Event → Option Config
  | c, [] => some c
  | c, e :: events =>
    if checked = true → InTime listed c.fleet e then
      (c.turn listed e).bind fun d => play listed checked d events
    else none

theorem run_of_play {listed : List PodRef} {checked : Bool} {P : Fleet → Event → Prop}
    (hP : ∀ s e, (checked = true → InTime listed s e) → P s e) {c d d' : Config}
    {events : List Event} (hrun : Run listed P c d) (h : play listed checked d events = some d') :
    Run listed P c d' := by
  induction events generalizing d with
  | nil => exact Option.some.inj h ▸ hrun
  | cons e events ih =>
    obtain ⟨hgood, h⟩ := Option.ite_none_right_eq_some.mp h
    obtain ⟨u, hturn, h⟩ := Option.bind_eq_some_iff.mp h
    exact ih (hrun.step (hP d.fleet e hgood) hturn) h

namespace Sample

theorem oneCell_label : (List.lookup LabelKey.cluster [(LabelKey.cluster, "mg")]).isSome = true :=
  rfl

theorem oneCell_pools : (["main"] : List String).Nodup := List.nodup_singleton "main"

def oneCell : Shard where
  name := "shard-0"
  uid := 1
  labels := [(.cluster, "mg")]
  labels_cluster := oneCell_label
  spec :=
    { databaseName := "db", tableGroupName := "tg", shardName := "0"
      pools := [("main", { cells := ["z1"] })]
      pools_nodup := oneCell_pools
      podHash := fun _ _ _ => some "" }

def poolerRecord (service podName : String) : Multipooler where
  id := some ⟨"multipooler", "z1", service⟩
  hostname := podName ++ ".main.default.svc.cluster.local"
  lifecycle := .active

def firstPod : PodRef := ⟨"pool-0", 1⟩

/-- The pooler of a pod has registered, and a record of a pod that is gone is left. -/
def withDeadRecord : Fleet where
  pods := [firstPod]
  records :=
    ⟨[⟨poolerRecord "p-0" "pool-0", some 1⟩, ⟨poolerRecord "p-9" "pool-9", some 9⟩], by decide⟩

/-- The pooler registers once more while the phase is at work. -/
def scanInTime : List Event :=
  [.scan { pods := [firstPod] }, .scan { pods := [firstPod] },
    .register firstPod (poolerRecord "p-0" "pool-0"), .scan { pods := [firstPod] }]

/-- Nothing is there yet. -/
def noPods : Fleet where
  pods := []
  records := ⟨[], by decide⟩

/-- A pod is created and its pooler registers, then the phase is shown the list from before. -/
def scanBehind : List Event :=
  [.create firstPod, .register firstPod (poolerRecord "p-0" "pool-0"),
    .scan { pods := [] }, .scan { pods := [] }, .scan { pods := [] }]

/-- The identities and lifecycles of the records. -/
def lifecycles (c : Config) : List (Option PoolerId × Lifecycle) :=
  c.fleet.records.items.map fun e => (e.record.id, e.record.lifecycle)

end Sample

section

open Prune.Sample

/-- The dead record is marked and the registration survives. -/
theorem registrations_survive_scan_listed :
    ∃ c, Run [firstPod] (InTime [firstPod]) ⟨reconcilePoolerPrune oneCell true, withDeadRecord⟩ c ∧
      lifecycles c = [((poolerRecord "p-0" "pool-0").id, .active),
        ((poolerRecord "p-9" "pool-9").id, .shutdown)] ∧
      c.fleet.Sound := by
  have hplay : ((play [firstPod] true ⟨reconcilePoolerPrune oneCell true, withDeadRecord⟩
      scanInTime).map lifecycles) = some [((poolerRecord "p-0" "pool-0").id, .active),
        ((poolerRecord "p-9" "pool-9").id, .shutdown)] := by decide +kernel
  obtain ⟨c, hc, hlifecycles⟩ := Option.map_eq_some_iff.mp hplay
  have hrun := run_of_play (P := InTime [firstPod]) (fun _ _ h => h rfl) .refl hc
  refine ⟨c, hrun, hlifecycles, registrations_survive_scan ?_ ?_ hrun⟩
  · rintro e ⟨hmem, pod, hpod, hauthor⟩
    rcases List.mem_pair.mp hmem with rfl | rfl
    · decide
    · decide
  · rintro e ⟨hmem, pod, hpod, hauthor⟩
    rcases List.mem_pair.mp hmem with rfl | rfl
    · decide
    · -- the author of the dead record is not there
      obtain rfl := List.mem_singleton.mp hpod
      cases hauthor

/-- **A live registration is shut down**: the pod exists and its pooler wrote the record as active
before the scan, but the list that the cache showed does not have the pod yet. -/
theorem stale_list_shuts_down_registration :
    noPods.Sound ∧
      ∃ c, Run [] (fun _ _ => True) ⟨reconcilePoolerPrune oneCell true, noPods⟩ c ∧
        ¬ c.fleet.Sound := by
  refine ⟨fun e he => absurd he.1 List.not_mem_nil, ?_⟩
  have hplay : ((play [] false ⟨reconcilePoolerPrune oneCell true, noPods⟩ scanBehind).map fun c =>
      (c.fleet.pods, c.fleet.records.items)) =
      some ([firstPod], [Entry.shutDown ⟨poolerRecord "p-0" "pool-0", some 1⟩]) := by decide +kernel
  obtain ⟨c, hc, hfleet⟩ := Option.map_eq_some_iff.mp hplay
  obtain ⟨hpods, hrecords⟩ := Prod.mk.inj hfleet
  refine ⟨c, run_of_play (fun _ _ _ => trivial) .refl hc, fun hsound => ?_⟩
  refine hsound (Entry.shutDown ⟨poolerRecord "p-0" "pool-0", some 1⟩) ⟨?_, firstPod, ?_, rfl⟩ rfl
  · change _ ∈ c.fleet.records.items
    rw [hrecords]
    exact List.mem_singleton.mpr rfl
  · rw [hpods]
    exact List.mem_singleton.mpr rfl

end

end MultigresOperator.Prune
