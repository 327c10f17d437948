import MultigresOperator.Api.Cluster
import MultigresOperator.Lib.Checks
import MultigresOperator.Lib.Encoding
import MultigresOperator.Lib.Path

/-!
# Topology roots

Clusters that share a topology server keep their records under roots of their own. The root of a
cluster has one segment after `/multigres` when the cluster carries a project reference, two
segments from its namespace and name otherwise, and a hash in place of the two when they do not
fit into the common name of its certificate. Segments are percent-encoded.

Within one cluster the global root and the roots of its cells never nest. Across clusters the two
schemes share the prefix `/multigres`: a cluster whose project reference is the namespace of
another encloses it.

## Main results

* `Placed.isPrefix_iff`: one key prefix begins with another iff the cluster encloses the other
* `separate`: the roots inside one cluster do not nest
* `isolated_iff`: clusters are isolated iff neither encloses the other
-/

namespace MultigresOperator.Topology

open V1Alpha1 Encoding

/-! ### The model -/

/-- The path separator. -/
def slash : UInt8 := 47

/-- The bytes `url.PathEscape` leaves alone: letters, digits and `-_.~$&+:=@`. -/
def unescaped (c : UInt8) : Bool :=
  (97 ≤ c && c ≤ 122) || (65 ≤ c && c ≤ 90) || (48 ≤ c && c ≤ 57) || (utf8 "-_.~$&+:=@").contains c

/-- `url.PathEscape` -/
def pathEscape (value : String) : Bytes := percentEncode unescaped (utf8 value)

/-- A path segment: the dot segments are encoded as well, so that no cleaning of the path changes
it. -/
def segment (value : String) : Bytes :=
  let encoded := pathEscape value
  if encoded = utf8 "." then utf8 "%2E" else if encoded = utf8 ".." then utf8 "%2E%2E" else encoded

def encodeSegment (kind value : String) : Except String Bytes :=
  if value = "" then .error (kind ++ " must not be empty when deriving topology root")
  else if '\x00' ∈ value.toList then .error (kind ++ " must not contain a NUL byte")
  else .ok (segment value)

def rootPrefix : Bytes := utf8 "/multigres"

/-- The limit on an X.509 common name. -/
def maxTLSRootBytes : ℕ := 64

def annotationProjectRef : String := "multigres.com/project-ref"

structure Roots where
  clusterRoot : Bytes
  deriving DecidableEq

section Hash

variable (sha256 : Bytes → Vector UInt8 32)

def newRoots (annotations : Table String String) (ns clusterName : String) (topoTLS : Bool) :
    Except String Roots := do
  let projectRef := (annotations.get annotationProjectRef).getD ""
  if projectRef ≠ "" then
    let encoded ← encodeSegment "project reference" projectRef
    return { clusterRoot := rootPrefix ++ utf8 "/" ++ encoded }
  let encodedNamespace ← encodeSegment "namespace" ns
  let encodedClusterName ← encodeSegment "cluster name" clusterName
  let clusterRoot := rootPrefix ++ utf8 "/" ++ encodedNamespace ++ utf8 "/" ++ encodedClusterName
  if topoTLS = true ∧ clusterRoot.length > maxTLSRootBytes then
    return { clusterRoot := rootPrefix ++ utf8 "-fallback/" ++ base64 (sha256 clusterRoot).toList }
  return { clusterRoot := clusterRoot }

/-- The operator issues the topology client certificate, so that the root is its common name. -/
def operatorIssuesTopoClientCert (cluster : MultigresCluster) : Bool :=
  topoTLSEnabled cluster.spec.topoTLS &&
    match cluster.spec.globalTopoServer.bind (·.external) with
    | none => true
    | some external => external.caSecret = "" && external.clientCertSecret = ""

def forCluster (cluster : MultigresCluster) : Except String Roots :=
  newRoots sha256 cluster.annotations cluster.namespace cluster.name
    (operatorIssuesTopoClientCert cluster)

end Hash

namespace Roots

/-- The range that encloses the records of the cluster. -/
def keyPrefix (r : Roots) : Bytes := r.clusterRoot ++ utf8 "/"

def global (r : Roots) : Bytes := r.clusterRoot ++ utf8 "/global"

/-- The root of the records of a cell. -/
def cell (r : Roots) (cellName : String) : Except String Bytes := do
  let encoded ← encodeSegment "cell name" cellName
  return r.clusterRoot ++ utf8 "/" ++ encoded

end Roots

/-! ### Segments -/

theorem unescaped_slash : unescaped slash = false := by decide

theorem unescaped_percent : unescaped 37 = false := by decide

theorem unescaped_dot : unescaped 46 = true := by decide

theorem pathEscape_inj {s t : String} : pathEscape s = pathEscape t ↔ s = t :=
  (percentEncode_injective unescaped_percent).eq_iff.trans utf8_inj

/-- An escaped text never spells out an escaped dot. -/
theorem pathEscape_ne_dot (s : String) (rest : Bytes) : pathEscape s ≠ 37 :: 50 :: 69 :: rest := by
  unfold pathEscape percentEncode
  cases utf8 s with
  | nil => simp
  | cons c s =>
    rw [List.flatMap_cons, percentByte]
    split
    · next hkeep =>
      intro h
      have hc : c = 37 := (List.cons.inj h).1
      exact absurd (hc ▸ hkeep) (by simp [unescaped_percent])
    · next hkeep =>
      -- `2E` are the digits of the dot, and the dot is left alone
      intro h
      simp only [List.cons_append, List.nil_append, List.cons.injEq, true_and] at h
      have hlt := c.toNat_lt
      have hhigh := hexDigit_inj (by omega) (by omega) (h.1.trans (by decide : 50 = hexDigit 2))
      have hlow := hexDigit_inj (by omega) (by omega) (h.2.1.trans (by decide : 69 = hexDigit 14))
      have hc : c = 46 := UInt8.toNat_inj.mp (show c.toNat = 46 by omega)
      exact hkeep (hc ▸ unescaped_dot)

theorem segment_inj {s t : String} : segment s = segment t ↔ s = t := by
  refine ⟨fun h => ?_, congrArg segment⟩
  have dot : utf8 "%2E" = 37 :: 50 :: 69 :: [] := by decide
  have dots : utf8 "%2E%2E" = 37 :: 50 :: 69 :: [37, 50, 69] := by decide
  unfold segment at h
  dsimp only at h
  apply pathEscape_inj.mp
  split_ifs at h with h₁ h₂ h₃ h₄ h₅ h₆ h₇ h₈
  · rw [h₁, h₂]
  · exact absurd h (by decide)
  · exact absurd (h.symm.trans dot) (pathEscape_ne_dot t _)
  · exact absurd h (by decide)
  · rw [h₄, h₆]
  · exact absurd (h.symm.trans dots) (pathEscape_ne_dot t _)
  · exact absurd (h.trans dot) (pathEscape_ne_dot s _)
  · exact absurd (h.trans dots) (pathEscape_ne_dot s _)
  · exact h

theorem slash_notMem_segment (s : String) : slash ∉ segment s := by
  unfold segment
  dsimp only
  split_ifs
  · decide
  · decide
  · exact notMem_percentEncode unescaped_slash (by decide) (.inl (by decide))

theorem encodeSegment_eq_ok {kind value : String} {e : Bytes}
    (h : encodeSegment kind value = .ok e) : e = segment value := by
  unfold encodeSegment at h
  split_ifs at h
  exact (Except.ok.inj h).symm

/-! ### Where a cluster is placed -/

/-- What a cluster is known by: its project reference, or its namespace and name. -/
inductive Identity
  | projectRef (ref : String)
  | named (ns name : String)
  deriving DecidableEq

/-- The identity of a cluster; an empty reference counts as none. -/
def identity (cluster : MultigresCluster) : Identity :=
  let projectRef := (cluster.annotations.get annotationProjectRef).getD ""
  if projectRef ≠ "" then .projectRef projectRef else .named cluster.namespace cluster.name

/-- The root made of a namespace and a name, before it is shortened. -/
def fullRoot (ns name : String) : Bytes :=
  rootPrefix ++ utf8 "/" ++ segment ns ++ utf8 "/" ++ segment name

/-- The namespace and name of a cluster are hashed: the operator issues its certificate and they
take more than 52 bytes. -/
def Shortened (cluster : MultigresCluster) : Prop :=
  operatorIssuesTopoClientCert cluster = true ∧
    52 < (segment cluster.namespace).length + (segment cluster.name).length

instance (cluster : MultigresCluster) : Decidable (Shortened cluster) :=
  inferInstanceAs (Decidable (_ ∧ _))

theorem shortened_iff {cluster : MultigresCluster} :
    Shortened cluster ↔ operatorIssuesTopoClientCert cluster = true ∧
      (fullRoot cluster.namespace cluster.name).length > maxTLSRootBytes := by
  have hlen : (fullRoot cluster.namespace cluster.name).length =
      12 + (segment cluster.namespace).length + (segment cluster.name).length := by
    have h₁ : rootPrefix.length = 10 := by decide
    have h₂ : (utf8 "/").length = 1 := by decide
    simp only [fullRoot, List.length_append, h₁, h₂]
    omega
  unfold Shortened maxTLSRootBytes
  rw [hlen]
  refine and_congr_right fun _ => ?_
  omega

/-- The path of a cluster root, as segments. -/
inductive Placed (sha256 : Bytes → Vector UInt8 32) (cluster : MultigresCluster) :
    List Bytes → Prop
  | project {ref : String} (known : identity cluster = .projectRef ref) :
    Placed sha256 cluster [utf8 "multigres", segment ref]
  | named (known : identity cluster = .named cluster.namespace cluster.name)
    (full : ¬ Shortened cluster) :
    Placed sha256 cluster
      [utf8 "multigres", segment cluster.namespace, segment cluster.name]
  | hashed (known : identity cluster = .named cluster.namespace cluster.name)
    (short : Shortened cluster) :
    Placed sha256 cluster [utf8 "multigres-fallback",
      base64 (sha256 (fullRoot cluster.namespace cluster.name)).toList]

variable {sha256 : Bytes → Vector UInt8 32} {c d : MultigresCluster} {r t : Roots}

theorem utf8_slash : utf8 "/" = [slash] := by decide

theorem rootPrefix_slash : rootPrefix ++ [slash] = slash :: (utf8 "multigres" ++ [slash]) := by
  decide

theorem rootPrefix_fallback :
    rootPrefix ++ utf8 "-fallback/" = slash :: (utf8 "multigres-fallback" ++ [slash]) := by
  decide

theorem placed_of_forCluster (h : forCluster sha256 c = .ok r) :
    ∃ p, Placed sha256 c p ∧ r.keyPrefix = Path.render slash p := by
  unfold forCluster newRoots at h
  dsimp only at h
  split at h
  · next href =>
    obtain ⟨e, hseg, h⟩ := Checks.bind_eq_ok.mp h
    obtain rfl := encodeSegment_eq_ok hseg
    obtain rfl := Except.ok.inj h
    refine ⟨_, .project (if_pos href), ?_⟩
    simp only [Roots.keyPrefix, Path.render, utf8_slash, rootPrefix_slash, List.flatMap_cons,
      List.flatMap_nil, List.append_nil, List.append_assoc, List.cons_append]
  · next href =>
    have known : identity c = .named c.namespace c.name := if_neg href
    obtain ⟨ns, hns, h⟩ := Checks.bind_eq_ok.mp h
    obtain ⟨name, hname, h⟩ := Checks.bind_eq_ok.mp h
    obtain rfl := encodeSegment_eq_ok hns
    obtain rfl := encodeSegment_eq_ok hname
    rw [← fullRoot] at h
    split at h
    · next hshort =>
      obtain rfl := Except.ok.inj h
      refine ⟨_, .hashed known (shortened_iff.mpr hshort), ?_⟩
      simp only [Roots.keyPrefix, Path.render, utf8_slash, rootPrefix_fallback, List.flatMap_cons,
        List.flatMap_nil, List.append_nil, List.append_assoc, List.cons_append]
    · next hfull =>
      obtain rfl := Except.ok.inj h
      refine ⟨_, .named known (mt shortened_iff.mp hfull), ?_⟩
      simp only [Roots.keyPrefix, fullRoot, Path.render, utf8_slash, rootPrefix_slash,
        List.flatMap_cons, List.flatMap_nil, List.append_nil, List.append_assoc, List.cons_append]

theorem Placed.separated {p : List Bytes} (h : Placed sha256 c p) : Path.Separated slash p := by
  intro s hs
  cases h with
  | project =>
    simp only [List.mem_cons, List.not_mem_nil, or_false] at hs
    rcases hs with rfl | rfl
    · decide
    · exact slash_notMem_segment _
  | named =>
    simp only [List.mem_cons, List.not_mem_nil, or_false] at hs
    rcases hs with rfl | rfl | rfl
    · decide
    · exact slash_notMem_segment _
    · exact slash_notMem_segment _
  | hashed =>
    simp only [List.mem_cons, List.not_mem_nil, or_false] at hs
    rcases hs with rfl | rfl
    · decide
    · exact notMem_base64 (.inr rfl)

/-! ### Isolation -/

/-- The project reference of a cluster is the namespace of another one that has none and whose
namespace and name are not hashed. -/
def Encloses (c d : MultigresCluster) : Prop :=
  identity c = .projectRef d.namespace ∧ identity d = .named d.namespace d.name ∧ ¬ Shortened d

instance (c d : MultigresCluster) : Decidable (Encloses c d) := inferInstanceAs (Decidable (_ ∧ _))

/-- The hash does not confuse the roots of two clusters. -/
def CollisionFree (sha256 : Bytes → Vector UInt8 32) (c d : MultigresCluster) : Prop :=
  sha256 (fullRoot c.namespace c.name) = sha256 (fullRoot d.namespace d.name) →
    fullRoot c.namespace c.name = fullRoot d.namespace d.name

theorem fullRoot_inj {ns name ns' name' : String} (h : fullRoot ns name = fullRoot ns' name') :
    ns = ns' ∧ name = name' := by
  unfold fullRoot at h
  rw [utf8_slash, List.append_assoc, List.append_assoc, List.append_assoc, List.append_assoc,
    List.append_assoc, List.append_assoc, List.append_right_inj, List.append_right_inj] at h
  -- the first segment ends at the first separator
  have hends : segment ns ++ slash :: segment name ++ [slash] <+:
      segment ns' ++ slash :: segment name' ++ [slash] := by
    rw [show segment ns ++ slash :: segment name = segment ns' ++ slash :: segment name' from h]
  rw [List.append_assoc, List.append_assoc, List.cons_append, List.cons_append,
    Path.segment_prefix_segment (slash_notMem_segment _) (slash_notMem_segment _),
    Path.segment_prefix_segment (slash_notMem_segment _) (slash_notMem_segment _)] at hends
  exact ⟨segment_inj.mp hends.1, segment_inj.mp hends.2.1⟩

/-- One key prefix begins with another **iff** the cluster encloses the other. -/
theorem Placed.isPrefix_iff {p q : List Bytes} (hp : Placed sha256 c p) (hq : Placed sha256 d q)
    (different : identity c ≠ identity d) (collisionFree : CollisionFree sha256 c d) :
    p <+: q ↔ Encloses c d := by
  have plain : utf8 "multigres" ≠ utf8 "multigres-fallback" := by decide
  cases hp with
  | project hc =>
    cases hq with
    | project hd =>
      simp only [List.cons_prefix_cons, List.nil_prefix, true_and, and_true, segment_inj]
      constructor
      · rintro rfl
        exact absurd (hc.trans hd.symm) different
      · rintro ⟨-, hd', -⟩
        exact absurd (hd.symm.trans hd') (by simp)
    | named hd full =>
      simp only [List.cons_prefix_cons, List.nil_prefix, true_and, and_true, segment_inj]
      constructor
      · rintro rfl
        exact ⟨hc, hd, full⟩
      · rintro ⟨hc', -, -⟩
        exact Identity.projectRef.inj (hc.symm.trans hc')
    | hashed hd short => simp [List.cons_prefix_cons, plain, Encloses, short]
  | named hc =>
    have none : ¬ Encloses c d := fun h => absurd (hc.symm.trans h.1) (by simp)
    refine iff_of_false ?_ none
    cases hq with
    | project => simp [List.cons_prefix_cons]
    | named hd =>
      simp only [List.cons_prefix_cons, List.nil_prefix, true_and, and_true, segment_inj]
      rintro ⟨hns, hname⟩
      exact different (by rw [hc, hd, hns, hname])
    | hashed => simp [List.cons_prefix_cons, plain]
  | hashed hc =>
    have none : ¬ Encloses c d := fun h => absurd (hc.symm.trans h.1) (by simp)
    refine iff_of_false ?_ none
    cases hq with
    | project => simp [List.cons_prefix_cons, plain.symm]
    | named => simp [List.cons_prefix_cons, plain.symm]
    | hashed hd =>
      simp only [List.cons_prefix_cons, List.nil_prefix, true_and, and_true]
      intro h
      have hdigest := base64_inj (by simp) h
      obtain ⟨hns, hname⟩ := fullRoot_inj (collisionFree (Vector.toList_inj.mp hdigest))
      exact different (by rw [hc, hd, hns, hname])

/-- Neither key prefix is equal to the other or begins with it. -/
def Roots.Disjoint (r t : Roots) : Prop :=
  ¬ r.keyPrefix <+: t.keyPrefix ∧ ¬ t.keyPrefix <+: r.keyPrefix

def Roots.place (r : Roots) : Option String → Except String Bytes
  | none => .ok r.global
  | some cellName => r.cell cellName

/-- The global root and the roots of the cells, none of which is named `global`, are neither equal
nor nested. -/
def Roots.Separate (r : Roots) : Prop :=
  ∀ a b, a ≠ b → a ≠ some "global" → b ≠ some "global" → ∀ x y, r.place a = .ok x →
    r.place b = .ok y → ¬ x ++ utf8 "/" <+: y ++ utf8 "/"

/-- A root inside a cluster has one more segment: the name of the cell, or `global`. -/
theorem Roots.place_eq_ok {a : Option String} {x : Bytes} (h : r.place a = .ok x) :
    x ++ utf8 "/" = r.clusterRoot ++ slash :: (segment (a.getD "global") ++ [slash]) := by
  cases a with
  | none =>
    have hglobal : utf8 "/global" = slash :: segment "global" := by decide
    rw [← Except.ok.inj h, Roots.global, hglobal, utf8_slash]
    simp
  | some cellName =>
    obtain ⟨e, hseg, h⟩ := Checks.bind_eq_ok.mp h
    obtain rfl := encodeSegment_eq_ok hseg
    rw [← Except.ok.inj h, utf8_slash]
    simp

/-- **The roots inside one cluster do not nest.** -/
theorem separate (r : Roots) : r.Separate := by
  intro a b hab ha hb x y hx hy
  rw [Roots.place_eq_ok hx, Roots.place_eq_ok hy, List.prefix_append_right_inj,
    List.cons_prefix_cons, and_iff_right rfl,
    Path.segment_prefix_segment (slash_notMem_segment _) (slash_notMem_segment _), segment_inj]
  rintro ⟨hname, -⟩
  -- two different places of one name: one of them is a cell called `global`
  cases a with
  | none =>
    cases b with
    | none => exact hab rfl
    | some cellName => exact hb (congrArg some hname.symm)
  | some cellName =>
    cases b with
    | none => exact ha (congrArg some hname)
    | some cellName' => exact hab (congrArg some hname)

/-- **Isolation.** Two clusters of different identity keep apart, and so do the places inside each
of them, iff neither encloses the other. -/
theorem isolated_iff (sha256 : Bytes → Vector UInt8 32) (c d : MultigresCluster) (r t : Roots)
    (hc : forCluster sha256 c = .ok r) (hd : forCluster sha256 d = .ok t)
    (different : identity c ≠ identity d) (collisionFree : CollisionFree sha256 c d) :
    r.Disjoint t ∧ r.Separate ∧ t.Separate ↔ ¬ Encloses c d ∧ ¬ Encloses d c := by
  obtain ⟨p, hp, hr⟩ := placed_of_forCluster hc
  obtain ⟨q, hq, ht⟩ := placed_of_forCluster hd
  have hcd := hp.isPrefix_iff hq different collisionFree
  have hdc := hq.isPrefix_iff hp different.symm fun h => (collisionFree h.symm).symm
  rw [and_iff_left ⟨separate r, separate t⟩, Roots.Disjoint, hr, ht,
    Path.render_prefix_render hp.separated hq.separated,
    Path.render_prefix_render hq.separated hp.separated, hcd, hdc]

/-! ### A tenant whose project reference is the namespace of others -/

/-- A cluster with the project reference `team-a`. -/
def projectCluster : MultigresCluster where
  name := "main"
  «namespace» := "tenants"
  annotations := .ofList [(annotationProjectRef, "team-a")]

def teamCluster : MultigresCluster where
  name := "orders"
  «namespace» := "team-a"

/-- A cluster in the namespace `team-a` whose root does not fit into its certificate. -/
def longTeamCluster : MultigresCluster where
  name := "orders-of-the-european-region-with-a-long-name-of-its-own"
  «namespace» := "team-a"
  spec := { topoTLS := some { enabled := some true, issuerName := "topology" } }

theorem exists_of_isOk {x : Except String Roots} (h : x.isOk = true) : ∃ r, x = .ok r := by
  cases x with
  | error e => cases h
  | ok r => exact ⟨r, rfl⟩

theorem checksum_collisionFree : CollisionFree checksum projectCluster longTeamCluster :=
  fun h => absurd h (by decide +kernel)

/-- The namespace is the project reference, but the root is hashed: nothing is given away. -/
theorem isolated_iff_hashed :
    ∃ r t, forCluster checksum projectCluster = .ok r ∧
      forCluster checksum longTeamCluster = .ok t ∧
      (r.Disjoint t ∧ r.Separate ∧ t.Separate) := by
  obtain ⟨r, hr⟩ := exists_of_isOk (x := forCluster checksum projectCluster) (by decide +kernel)
  obtain ⟨t, ht⟩ := exists_of_isOk (x := forCluster checksum longTeamCluster)
    (by decide +kernel)
  refine ⟨r, t, hr, ht, (isolated_iff checksum projectCluster longTeamCluster r t hr ht
    (by decide +kernel) checksum_collisionFree).mpr ⟨?_, ?_⟩⟩
  · decide +kernel
  · decide +kernel

/-- A project reference equal to another cluster's namespace gives away that cluster's keys. -/
theorem project_ref_encloses_namespace :
    ¬ ∀ sha256 c d r t, forCluster sha256 c = .ok r → forCluster sha256 d = .ok t →
      identity c ≠ identity d → CollisionFree sha256 c d →
      r.Disjoint t ∧ r.Separate ∧ t.Separate := by
  intro isolated
  obtain ⟨r, hr⟩ := exists_of_isOk (x := forCluster checksum projectCluster) (by decide +kernel)
  obtain ⟨t, ht⟩ := exists_of_isOk (x := forCluster checksum teamCluster) (by decide +kernel)
  have apart := (isolated checksum projectCluster teamCluster r t hr ht (by decide +kernel)
    fun h => absurd h (by decide +kernel)).1.1
  -- `/multigres/team-a/` begins `/multigres/team-a/orders/`
  obtain ⟨p, hp, hkey⟩ := placed_of_forCluster hr
  obtain ⟨q, hq, hkey'⟩ := placed_of_forCluster ht
  rw [hkey, hkey', Path.render_prefix_render hp.separated hq.separated,
    hp.isPrefix_iff hq (by decide +kernel) fun h => absurd h (by decide +kernel)] at apart
  exact apart (by decide +kernel)

end MultigresOperator.Topology
