import MultigresOperator.Lib.Interleave
import MultigresOperator.Lib.Table
import Mathlib.Data.Int.Notation

/-!
# The resolver of pooler clients

The resolver caches an mTLS client for each cluster. Shard reconciles look clients up, the cluster
reconciler activates and forgets clusters, and the clients that a rotation or a forgotten cluster
leaves behind are closed by timers. All of them share the registry of the resolver, under its lock, and
the state of each cluster, under a lock of its own; between the sections under a lock a lookup reads
the API server.

## Main definitions

* `ClusterState`, `Memory`: what the locks protect, and the clients with the number of times each was
  closed
* `Call`: a call at its next section
* `act`: the sections
* `resolver`: the calls over the memory
-/

namespace MultigresOperator.PoolerClient

open Interleave

/-! ### The memory -/

/-- A namespaced name. -/
abbrev Key := String × String

/-- `clusterState`. States, clients and channels have numbers; a retired client is identified by its
client, and `refreshDone` is `none` if there is no channel. -/
structure ClusterState where
  closed : Bool := false
  refreshing : Bool := false
  refreshDone : Option ℕ := none
  tlsClient : Option ℕ := none
  retiredClients : List ℕ := []
  resourceVersion : String := ""
  fetchedAt : ℤ := 0
  lastErr : Option String := none

/-- The resolver, the cluster states, the channels that are closed, the clients and the timers. -/
structure Memory where
  states : Table Key ℕ := ∅
  active : List Key := []
  closed : Bool := false
  heap : ℕ → ClusterState := fun _ => {}
  nextState : ℕ := 0
  nextClient : ℕ := 0
  nextChan : ℕ := 0
  closedChans : List ℕ := []
  /-- How many times a client was closed. -/
  closes : ℕ → ℕ := fun _ => 0
  /-- The timers that are running, each with its state and its client. -/
  timers : List (ℕ × ℕ) := []

/-- The intervals of the resolver. -/
structure Config where
  refreshInterval : ℤ := 300
  failureRetry : ℤ := 10

/-- What is read of a shard. -/
structure ShardRef where
  «namespace» : String
  name : String
  clusterLabel : String
  internalTLS : Bool

inductive Result
  | insecure
  | client (c : ℕ)
  | failed (err : String)
  | done

/-- A call at its next section. -/
inductive Call
  /-- `ClientFor`, at the first section of `ensureClusterActive`. -/
  | clientFor (shard : ShardRef)
  /-- The cluster is not active and is read from the API server. -/
  | validate (key : Key)
  /-- The cluster was found to be live. -/
  | publish (key : Key)
  /-- The cluster is active, and its state is looked up. -/
  | lookup (key : Key)
  /-- The top of the loop. -/
  | acquire (key : Key) (st : ℕ)
  /-- Another call is initializing the client. -/
  | await (key : Key) (st : ℕ) (done : Option ℕ)
  /-- The Secret is read, and the client refreshed. -/
  | refresh (key : Key) (st : ℕ)
  /-- The waiting calls are woken up. -/
  | signal (done : Option ℕ) (r : Result)
  | activate (key : Key)
  | forget (key : Key)
  /-- The second section of `ForgetCluster`. -/
  | retire (st : ℕ)
  | close
  /-- The states that `Close` has yet to close. -/
  | closing (sts : List ℕ)
  /-- A timer has expired. -/
  | timer (st client : ℕ)
  | returned (r : Result)

/-- The cluster as the API server has it. -/
inductive ClusterRead
  | live
  | deleting
  | failed (err : String)

/-- A Secret, and the TLS configuration that is built from it. -/
structure Secret where
  resourceVersion : String
  tlsConfig : Except String Unit

/-- The environment of a section: what is read, the clock, whether the caller's context has ended, and
the next state that a loop over a map takes. -/
structure Input where
  cluster : ClusterRead := .failed "timeout"
  secret : Except String Secret := .error "timeout"
  now : ℤ := 0
  cancelled : Bool := false
  pick : ℕ := 0

def resolverClosed : String := "operator internal TLS resolver is closed"

/-! ### The steps on the memory -/

namespace Memory

variable (m : Memory)

def write (st : ℕ) (s : ClusterState) : Memory := { m with heap := Function.update m.heap st s }

theorem heap_write_self (st : ℕ) (s : ClusterState) : (m.write st s).heap st = s :=
  Function.update_self ..

theorem heap_write_of_ne {st st' : ℕ} (h : st' ≠ st) (s : ClusterState) :
    (m.write st s).heap st' = m.heap st' :=
  Function.update_of_ne h ..

/-- A cluster is marked as active. -/
def activate (key : Key) : Memory :=
  { m with active := if key ∈ m.active then m.active else key :: m.active }

/-- A state for a cluster that has none. -/
def newState (key : Key) : Memory :=
  { m with
    states := m.states.set key m.nextState
    heap := Function.update m.heap m.nextState {}
    nextState := m.nextState + 1 }

/-- A call becomes the one that refreshes a client. -/
def beginRefresh (st : ℕ) : Memory :=
  { m.write st { m.heap st with refreshing := true, refreshDone := some m.nextChan } with
    nextChan := m.nextChan + 1 }

/-- `retireClient` for the current client, which is no longer that of the state. -/
def retireCurrent (st : ℕ) (s : ClusterState) : Memory × ClusterState :=
  match s.tlsClient with
  | none => (m, s)
  | some old =>
    ({ m with timers := m.timers ++ [(st, old)] },
      { s with tlsClient := none, retiredClients := s.retiredClients ++ [old] })

/-- A new client takes the place of the current one. -/
def replaceClient (st : ℕ) (s : ClusterState) (resourceVersion : String) (now : ℤ) : Memory :=
  let (m', s') := m.retireCurrent st s
  { m'.write st
      { s' with
        tlsClient := some m.nextClient, resourceVersion := resourceVersion, fetchedAt := now
        lastErr := none } with
    nextClient := m.nextClient + 1 }

/-- The registry forgets a cluster. -/
def forget (key : Key) : Memory :=
  { m with states := m.states.erase key, active := m.active.filter (· ≠ key) }

/-- `ForgetCluster` closes the state of a cluster. -/
def retireState (st : ℕ) : Memory :=
  if (m.heap st).closed then m
  else
    let (m', s') := m.retireCurrent st { m.heap st with closed := true }
    m'.write st s'

def closeClients (clients : List ℕ) : Memory :=
  { m with closes := fun c => m.closes c + clients.count c }

/-- `Close` closes a state with its clients, and stops their timers. -/
def closeState (st : ℕ) : Memory :=
  let s := m.heap st
  let m' := m.closeClients (s.tlsClient.toList ++ s.retiredClients)
  { m'.write st { s with closed := true, tlsClient := none, retiredClients := [] } with
    timers := m.timers.filter fun t => ¬ (t.1 = st ∧ t.2 ∈ s.retiredClients) }

/-- An expired timer closes its client, unless that has been done. -/
def expire (st client : ℕ) : Memory :=
  if client ∈ (m.heap st).retiredClients then
    (m.closeClients [client]).write st
      { m.heap st with retiredClients := (m.heap st).retiredClients.erase client }
  else m

end Memory

/-! ### The sections -/

def clusterKeyForShard (shard : ShardRef) : Except String Key :=
  if shard.clusterLabel = "" then
    .error ("internal TLS shard " ++ shard.namespace ++ "/" ++ shard.name ++
      " has no multigres.com/cluster label")
  else .ok (shard.namespace, shard.clusterLabel)

def keepExistingOrError (s : ClusterState) (i : Input) (err : String) : ClusterState × Result :=
  let r : Result := match s.tlsClient with
    | some c => .client c
    | none => .failed err
  if i.cancelled then (s, r) else ({ s with fetchedAt := i.now, lastErr := some err }, r)

section

variable (cfg : Config) (m : Memory)

/-- The first section of `ensureClusterActive`. -/
def enterClientFor (shard : ShardRef) : Call :=
  if !shard.internalTLS then .returned .insecure
  else match clusterKeyForShard shard with
    | .error err => .returned (.failed err)
    | .ok key =>
      if m.closed then .returned (.failed resolverClosed)
      else if key ∈ m.active then .lookup key
      else .validate key

/-- The read of a cluster that is not active. -/
def validate (key : Key) (i : Input) : Call :=
  let name := key.1 ++ "/" ++ key.2
  match i.cluster with
  | .failed err => .returned (.failed ("validating MultigresCluster " ++ name ++ ": " ++ err))
  | .deleting => .returned (.failed ("MultigresCluster " ++ name ++ " is being deleted"))
  | .live => .publish key

/-- The second section of `ensureClusterActive`. -/
def publish (key : Key) : Memory × Call :=
  if m.closed then (m, .returned (.failed resolverClosed)) else (m.activate key, .lookup key)

/-- The state of a cluster is looked up or created. -/
def lookup (key : Key) : Memory × Call :=
  if m.closed then (m, .returned (.failed resolverClosed))
  else match m.states.get key with
    | some st => (m, .acquire key st)
    | none => (m.newState key, .acquire key m.nextState)

/-- How long a client is used before the next refresh. -/
def nextRefresh (s : ClusterState) : ℤ :=
  if s.lastErr.isSome then cfg.failureRetry else cfg.refreshInterval

/-- The top of the loop: the cached client or error, a wait for another call, or a refresh. -/
def acquire (key : Key) (st : ℕ) (i : Input) : Memory × Call :=
  let s := m.heap st
  if s.closed then (m, .returned (.failed resolverClosed))
  else match s.tlsClient with
    | some current =>
      if s.refreshing ∨ i.now - s.fetchedAt < nextRefresh cfg s then (m, .returned (.client current))
      else (m.beginRefresh st, .refresh key st)
    | none =>
      if s.refreshing then (m, .await key st s.refreshDone)
      else match s.lastErr with
        | some err =>
          if i.now - s.fetchedAt < cfg.failureRetry then (m, .returned (.failed err))
          else (m.beginRefresh st, .refresh key st)
        | none => (m.beginRefresh st, .refresh key st)

/-- The section after a wait. Without a client or an error the call competes for the next refresh. -/
def await (key : Key) (st : ℕ) (done : Option ℕ) (i : Input) : Option Call :=
  let s := m.heap st
  if i.cancelled then some (.returned (.failed "context canceled"))
  else if ∀ d ∈ done, d ∉ m.closedChans then none
  else if s.closed then some (.returned (.failed resolverClosed))
  else match s.tlsClient, s.lastErr with
    | some current, _ => some (.returned (.client current))
    | none, some err => some (.returned (.failed err))
    | none, none => some (.acquire key st)

/-- The section after the read of the Secret. -/
def refresh (key : Key) (st : ℕ) (i : Input) : Memory × Call :=
  let name := key.1 ++ "/" ++ key.2
  let done := (m.heap st).refreshDone
  let s := { m.heap st with refreshing := false, refreshDone := none }
  if s.closed then (m.write st s, .signal done (.failed resolverClosed))
  else match i.secret with
    | .error err =>
      let (s', r) := keepExistingOrError s i
        ("reading operator internal TLS secret " ++ name ++ ": " ++ err)
      (m.write st s', .signal done r)
    | .ok secret =>
      match s.tlsClient, decide (secret.resourceVersion = s.resourceVersion), secret.tlsConfig with
      | some current, true, _ =>
        (m.write st { s with fetchedAt := i.now, lastErr := none }, .signal done (.client current))
      | _, _, .error err =>
        let (s', r) := keepExistingOrError s i
          ("building TLS config from secret " ++ name ++ ": " ++ err)
        (m.write st s', .signal done r)
      | _, _, .ok () =>
        (m.replaceClient st s secret.resourceVersion i.now, .signal done (.client m.nextClient))

/-- `ForgetCluster`, with the registry. -/
def forgetCluster (key : Key) : Memory × Call :=
  match m.states.get key with
  | some st => (m.forget key, .retire st)
  | none => (m.forget key, .returned .done)

/-- `Close`, with the registry. -/
def closeResolver : Memory × Call :=
  if m.closed then (m, .returned .done)
  else ({ m with closed := true, states := ∅, active := [] }, .closing (m.states.items.map Prod.snd))

/-- `Close`, with one of the states. -/
def closeNext (sts : List ℕ) (i : Input) : Option (Memory × Call) :=
  if sts = [] then some (m, .returned .done)
  else (sts[i.pick]?).map fun st => (m.closeState st, .closing (sts.eraseIdx i.pick))

/-- The next section of a call. -/
def act (i : Input) : Call → Option (Memory × Call)
  | .clientFor shard => some (m, enterClientFor m shard)
  | .validate key => some (m, validate key i)
  | .publish key => some (publish m key)
  | .lookup key => some (lookup m key)
  | .acquire key st => some (acquire cfg m key st i)
  | .await key st done => (await m key st done i).map fun c => (m, c)
  | .refresh key st => some (refresh m key st i)
  | .signal done r => some ({ m with closedChans := done.toList ++ m.closedChans }, .returned r)
  | .activate key => some (if m.closed then m else m.activate key, .returned .done)
  | .forget key => some (forgetCluster m key)
  | .retire st => some (m.retireState st, .returned .done)
  | .close => some (closeResolver m)
  | .closing sts => closeNext m sts i
  | .timer st client => some (m.expire st client, .returned .done)
  | .returned _ => none

/-- A call begins. That of a timer begins when the timer expires. -/
def enter : Call → Option Memory
  | .clientFor _ | .activate _ | .forget _ | .close => some m
  | .timer st client =>
    if (st, client) ∈ m.timers then some { m with timers := m.timers.erase (st, client) } else none
  | _ => none

end

def resolver (cfg : Config) : System Memory Call Input where
  enter := enter
  act m c i := act cfg m i c

/-- A resolver without calls. -/
def idle : World Memory Call := ⟨{}, []⟩

def Call.hasReturned : Call → Bool
  | .returned _ => true
  | _ => false

end MultigresOperator.PoolerClient
