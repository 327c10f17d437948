import MultigresOperator.Api.Server
import MultigresOperator.Posture.Disruption

/-!
# Programs of the controller

A reconcile pass is a program over the API server. Reads go through the manager's cached client or
directly to the API server, each request may be refused, and everything the controller learns from
elsewhere (the clock, the topology store, the poolers' answers) is an answer of the environment.

## Main definitions

* `Answer`: what the environment contributes to one request
* `Action`: programs of the controller
* `machine`: the API server as the machine they run on
* `Ensures`: the precondition of a program run with current cached reads
-/

namespace MultigresOperator

open Effects

/-- How the registration of a Lite shard's database in the topology ends. -/
inductive Registration
  | registered
  | unavailable
  | failed (text : String)
  deriving DecidableEq, Repr

/-- What the environment contributes to one request. `fault` refuses it, `cache` is what the cached
client shows where it lags the API server, and `rpc` and `topology` are the pooler client and the
topology store, absent when none can be had. `phaseHealthy` is the phase that the status update of
the data plane computes, and `storageClassMissing` the outcome of the StorageClass gates. -/
structure Answer where
  fault : Option String := none
  cache : Option Server := none
  now : Time := 0
  removal : Removal := ⟨false, 0⟩
  rpc : Option StatusRpc := none
  topology : Option TopoStore := none
  registration : Registration := .registered
  phaseHealthy : Bool := false
  storageClassMissing : Bool := false

def machine : Machine Answer Server Op Failure where
  fault i := i.fault.map Failure.new
  view i s := i.cache.getD s
  exec := Server.exec

/-- A program of the controller. -/
abbrev Action (α : Type) := Prog Answer Server Op Failure α

/-- The cached client is current. -/
def Answer.Current (i : Answer) : Prop := i.cache = none

instance (i : Answer) : Decidable i.Current := inferInstanceAs (Decidable (i.cache = none))

@[simp] theorem shown_direct (i : Answer) (s : Server) : machine.shown .direct i s = s := rfl

theorem shown_of_current {i : Answer} (h : i.Current) (r : Reader) (s : Server) :
    machine.shown r i s = s := by
  cases r with
  | cached => simp [Machine.shown, machine, show i.cache = none from h]
  | direct => rfl

namespace Action

variable {α : Type}

def context (text : String) (p : Action α) : Action α := p.mapError (Failure.wrap text)

/-- `time.Now()` -/
def now : Action Time := do
  let i ← Prog.answer
  pure i.now

/-- A request on objects the model leaves out: it may be refused. -/
def otherRequest : Action Unit := Prog.fetch .direct fun _ => ()

/-- `List` with `MatchingLabels`, on pods. -/
def listPods (r : Reader) (selector : Labels) : Action (List Pod) :=
  Prog.fetch r fun s => s.listPods selector

/-- `List` with `MatchingLabels`, on PVCs. -/
def listPVCs (r : Reader) (selector : Labels) : Action (List PVC) :=
  Prog.fetch r fun s => s.listPVCs selector

/-- `Get` of a PVC; `none` is a NotFound error. -/
def getPVC (r : Reader) (name : String) : Action (Option PVC) :=
  Prog.fetch r fun s => s.pvcs.find name

/-- `Get` of a pod; `none` is a NotFound error. -/
def getPod (r : Reader) (name : String) : Action (Option Pod) :=
  Prog.fetch r fun s => s.pods.find name

/-- `Delete` of a pod that tolerates NotFound. -/
def deletePod (name : String) (uid : Option ℕ) : Action Unit := do
  let i ← Prog.answer
  Prog.performUnless Failure.isNotFound (.deletePod name uid i.removal)

/-- `Delete` of a PVC that tolerates NotFound. -/
def deletePVC (name : String) : Action Unit := do
  let i ← Prog.answer
  Prog.performUnless Failure.isNotFound (.deletePVC name none i.removal)

/-- `Create` of a pod that tolerates AlreadyExists. -/
def createPod (pod : Pod) : Action Unit := do
  let i ← Prog.answer
  Prog.performUnless Failure.isAlreadyExists (.createPod { pod with creationTimestamp := i.now })

/-- `Create` of a PVC that tolerates AlreadyExists. -/
def createPVC (pvc : PVC) : Action Unit :=
  Prog.performUnless Failure.isAlreadyExists (.createPVC pvc)

end Action

/-! ## Preconditions

`Ensures B G p Q s` says of a program run from `s` with current cached reads and data-plane answers
in `B` that every request it performs satisfies `G`, and that it ends in `Q` unless it fails. -/

/-- The precondition of a program run alone with a current cache. -/
def Ensures (B : Server → Answer → Prop) (G : Server → Op → Prop) {α : Type} (p : Action α)
    (Q : α → Server → Prop) (s : Server) : Prop :=
  Prog.wpAlone machine (fun s i => i.Current ∧ B s i) G p Q (fun _ _ => True) s

namespace Ensures

variable {B : Server → Answer → Prop} {G : Server → Op → Prop} {α β : Type} {s : Server}
  {p : Action α} {Q : α → Server → Prop} {a : α} {bs : List β}

theorem conseq {Q' : α → Server → Prop} (h : Ensures B G p Q s) (hQ : ∀ a t, Q a t → Q' a t) :
    Ensures B G p Q' s :=
  Prog.wpAlone_conseq h hQ fun _ _ _ => trivial

theorem ret (h : Q a s) : Ensures B G (pure a) Q s :=
  Prog.wpAlone_pure.mpr h

theorem fail {e : Failure} : Ensures B G (.fail e) Q s :=
  Prog.wpAlone_fail.mpr trivial

theorem bind {f : α → Action β} {Q : β → Server → Prop}
    (h : Ensures B G p (fun a => Ensures B G (f a) Q) s) : Ensures B G (p >>= f) Q s :=
  Prog.wpAlone_bind h

variable {text name : String} {r : Reader} {f : Server → α} {k : Except Failure α → Action β}
  {o : Op}

theorem context (h : Ensures B G p Q s) : Ensures B G (Action.context text p) Q s :=
  Prog.wpAlone_mapError h

theorem answer {Q : Answer → Server → Prop} (h : ∀ i, B s i → Q i s) :
    Ensures B G Prog.answer Q s :=
  Prog.wpAlone_answer.mpr fun i hi => h i hi.2

theorem now {Q : Time → Server → Prop} (h : ∀ time, Q time s) : Ensures B G Action.now Q s :=
  bind (answer fun i _ => ret (h i.now))

theorem fetch (h : Q (f s) s) : Ensures B G (Prog.fetch r f) Q s :=
  Prog.wpAlone_fetch.mpr ⟨fun _ _ _ => trivial, fun _ hi => (shown_of_current hi.1 r s).symm ▸ h⟩

theorem fetchResult {Q : β → Server → Prop} (hok : Ensures B G (k (.ok (f s))) Q s)
    (herror : ∀ e, Ensures B G (k (.error e)) Q s) :
    Ensures B G ((Prog.fetch r f).bindResult k) Q s :=
  Prog.wpAlone_bindResult (Prog.wpAlone_fetch.mpr
    ⟨fun _ e _ => herror e, fun _ hi => (shown_of_current hi.1 r s).symm ▸ hok⟩)

theorem nowResult {f : Time → Action α} {Q : β → Server → Prop}
    (h : ∀ time, Ensures B G ((f time).bindResult k) Q s) :
    Ensures B G ((Action.now >>= f).bindResult k) Q s :=
  bind (p := Prog.answer) (f := fun i => (f i.now).bindResult k) (answer fun i _ => h i.now)

theorem patchPodLogged {patch : PodPatch} {I : Server → Prop} (hI : I s)
    (h : ∀ s', s.exec (.patchPod name patch) = .ok s' → G s (.patchPod name patch) ∧ I s') :
    Ensures B G ((Action.context text (Prog.perform (.patchPod name patch))).bindResult
      fun _ => pure ()) (fun _ => I) s :=
  Prog.wpAlone_bindResult (Prog.wpAlone_mapError (Prog.wpAlone_perform
    (fun _ _ _ => Prog.wpAlone_pure.mpr hI)
    fun s' hs' => ⟨(h s' hs').1, Prog.wpAlone_pure.mpr (h s' hs').2⟩))

theorem otherRequest {Q : Unit → Server → Prop} (h : Q () s) :
    Ensures B G Action.otherRequest Q s :=
  fetch h

theorem perform {Q : Unit → Server → Prop} (h : ∀ s', s.exec o = .ok s' → G s o ∧ Q () s') :
    Ensures B G (Prog.perform o) Q s :=
  Prog.wpAlone_perform (fun _ _ _ => trivial) h

theorem performUnless {tolerated : Failure → Bool} {Q : Unit → Server → Prop} (h₀ : Q () s)
    (h : ∀ s', s.exec o = .ok s' → G s o ∧ Q () s') :
    Ensures B G (Prog.performUnless tolerated o) Q s :=
  Prog.wpAlone_performUnless
    (fun _ e _ => by
      by_cases he : tolerated e
      · rw [if_pos he]; exact h₀
      · rw [if_neg he]; trivial) h

theorem forEach {f : α → β → Action α} {I : List β → α → Server → Prop}
    (step : ∀ b bs a s, I (b :: bs) a s → Ensures B G (f a b) (I bs) s) (h : I bs a s) :
    Ensures B G (Prog.forEach bs a f) (I []) s :=
  Prog.wpAlone_forEach step h

theorem forEach_mem {f : α → β → Action α} {I : α → Server → Prop}
    (step : ∀ b ∈ bs, ∀ a s, I a s → Ensures B G (f a b) I s) (h : I a s) :
    Ensures B G (Prog.forEach bs a f) I s := by
  have hloop := forEach (I := fun rest a s => (∀ b ∈ rest, b ∈ bs) ∧ I a s)
    (fun b rest a s ⟨hrest, hI⟩ => conseq (step b (hrest b (by simp)) a s hI) fun _ _ hI =>
      ⟨fun b hb => hrest b (by simp [hb]), hI⟩) ⟨fun _ hb => hb, h⟩
  exact conseq hloop fun _ _ hI => hI.2

theorem firstM {f : β → Action (Option α)} {I : List β → Server → Prop}
    {Q : Option α → Server → Prop} (step : ∀ b bs s, I (b :: bs) s →
      Ensures B G (f b) (fun o t => o.casesOn (I bs t) fun a => Q (some a) t) s)
    (done : ∀ s, I [] s → Q none s) (h : I bs s) : Ensures B G (Prog.firstM bs f) Q s :=
  Prog.wpAlone_firstM step done h

theorem createPod {pod : Pod} {Q : Unit → Server → Prop} (h₀ : Q () s)
    (h : ∀ time s', s.exec (.createPod { pod with creationTimestamp := time }) = .ok s' →
      G s (.createPod { pod with creationTimestamp := time }) ∧ Q () s') :
    Ensures B G (Action.createPod pod) Q s :=
  bind (answer fun i _ => performUnless h₀ (h i.now))

theorem deletePod {uid : Option ℕ} {Q : Unit → Server → Prop} (h₀ : Q () s)
    (h : ∀ how s', s.exec (.deletePod name uid how) = .ok s' →
      G s (.deletePod name uid how) ∧ Q () s') : Ensures B G (Action.deletePod name uid) Q s :=
  bind (answer fun i _ => performUnless h₀ (h i.removal))

theorem of_only {P : Op → Prop} {R : Server → Server → Prop} (refl : ∀ s, R s s)
    (trans : ∀ {a b c}, R a b → R b c → R a c)
    (step : ∀ s o s', P o → s.exec o = .ok s' → G s o ∧ R s s') (h : p.Only P)
    (hQ : ∀ a t, R s t → Q a t) : Ensures B G p Q s :=
  Prog.wpAlone_conseq (Prog.wpAlone_of_only refl trans step h s) hQ fun _ _ _ => trivial

end Ensures

end MultigresOperator
