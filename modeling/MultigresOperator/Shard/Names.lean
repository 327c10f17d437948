import MultigresOperator.Api.Objects
import MultigresOperator.Lib.Assoc

/-!
# Names and labels of the shard's objects

Names are deterministic: the parts of an object's identity joined with dashes, followed by a hash
of the parts, cut to the length the kind of object allows. A pool pod's name and its data PVC's
name carry the pod's index after the last dash, and the controller reads it back from there.

## Main definitions

* `joinWithConstraints`: a name from its parts
* `buildPoolPodName`, `buildPoolDataPVCName`: the names of a pod and of its data PVC
* `resolvePodIndex`: the index in a pod name
* `isShardBuiltPVC`: a PVC carries a name the shard's builders produce
* `shardSelector`, `poolSelector`, `disruptionSelector`: the selectors of the controller's lists

## Main results

* `resolvePodIndex_buildPoolPodName`: the index is read back
* `buildPoolPodName_index_injective`: two indices of one pool and cell never share a pod name
* `isShardBuiltPVC_dataPVC_iff`: a data PVC is recognised by its name
-/

namespace MultigresOperator

/-! ## Joining parts -/

/-- One byte into an FNV-1a hash. -/
def fnvStep (h : UInt32) (b : UInt8) : UInt32 := (h ^^^ b.toUInt32) * 16777619

/-- `Hash`: FNV-1a over the bytes of the parts, each followed by a zero byte. -/
def fnvParts (parts : List String) : UInt32 :=
  parts.foldl (fun h part => fnvStep (part.toByteArray.data.toList.foldl fnvStep h) 0) 2166136261

/-- The last `n` hexadecimal digits of a number. -/
def hexDigits : ℕ → ℕ → List Char
  | 0, _ => []
  | n + 1, x => hexDigits n (x / 16) ++ [Nat.digitChar (x % 16)]

/-- The hash suffix of a name, eight hexadecimal digits. -/
def nameHash (parts : List String) : List Char := hexDigits 8 (fnvParts parts).toNat

/-- Rules a joined name must follow. A name cut to `maxLength` still holds one character, the
truncation mark and the hash. -/
structure Constraints where
  maxLength : ℕ
  validFirstChar : Char → Bool
  minTruncatedLength_le : 12 ≤ maxLength

def isLowercaseLetter (c : Char) : Bool := 'a' ≤ c && c ≤ 'z'

def isUppercaseLetter (c : Char) : Bool := 'A' ≤ c && c ≤ 'Z'

def isLowercaseAlphanumeric (c : Char) : Bool := isLowercaseLetter c || ('0' ≤ c && c ≤ '9')

def serviceConstraints : Constraints := ⟨63, isLowercaseLetter, by decide⟩

def podConstraints : Constraints := ⟨60, isLowercaseLetter, by decide⟩

/-- The character a name carries for a character of a part. -/
def transformChar (c : Char) : Char :=
  if isLowercaseAlphanumeric c || c == '-' then c
  else if isUppercaseLetter c then c.toLower
  else '-'

/-- The transformed first part, prefixed when it does not start with a valid character. -/
def firstPart (cons : Constraints) : List Char → List Char
  | [] => ['x']
  | c :: cs => if cons.validFirstChar c then c :: cs else 'x' :: c :: cs

/-- `JoinWithConstraints`: the transformed parts joined with dashes, then the hash; cut before the
truncation mark when the whole would be too long. -/
def joinWithConstraints (cons : Constraints) : List String → String
  | [] => ""
  | part :: parts =>
    let hash := nameHash (part :: parts)
    let newParts := firstPart cons (part.toList.map transformChar) ::
      parts.map fun p => p.toList.map transformChar
    let partialResult := List.intercalate ['-'] newParts
    let predictedLength := partialResult.length + 1 + hash.length
    if predictedLength ≤ cons.maxLength then
      String.ofList (partialResult ++ '-' :: hash)
    else
      let cutLength := predictedLength - cons.maxLength + 2
      String.ofList (partialResult.take (partialResult.length - cutLength) ++
        ['-', '-', '-'] ++ hash)

/-! ## Names -/

/-- The parts of the base name of a pool's pods and data PVCs in one cell. -/
def poolNameParts (shard : Shard) (poolName cellName : String) : List String :=
  [shard.clusterName, shard.spec.databaseName, shard.spec.tableGroupName, shard.spec.shardName,
    "pool", poolName, cellName]

def buildPoolPodName (shard : Shard) (poolName cellName : String) (index : ℕ) : String :=
  joinWithConstraints podConstraints (poolNameParts shard poolName cellName) ++ "-" ++
    toString index

def poolDataPVCNamePrefix (shard : Shard) (poolName cellName : String) : String :=
  "data-" ++ joinWithConstraints podConstraints (poolNameParts shard poolName cellName) ++ "-"

def buildPoolDataPVCName (shard : Shard) (poolName cellName : String) (index : ℕ) : String :=
  poolDataPVCNamePrefix shard poolName cellName ++ toString index

def buildSharedBackupPVCName (shard : Shard) : String :=
  joinWithConstraints serviceConstraints
    ["backup-data", shard.clusterName, shard.spec.databaseName, shard.spec.tableGroupName,
      shard.spec.shardName]

def legacyCellBackupPVCName (shard : Shard) (cellName : String) : String :=
  joinWithConstraints serviceConstraints
    ["backup-data", shard.clusterName, shard.spec.databaseName, shard.spec.tableGroupName,
      shard.spec.shardName, cellName]

/-- The value of a non-empty string of decimal digits. -/
def parseDigits (cs : List Char) : Option ℕ :=
  if cs ≠ [] ∧ cs.all Char.isDigit then some (Nat.ofDigitChars 10 cs 0) else none

/-- `strconv.Atoi` on a 64-bit machine: an optional sign and digits, within the range of `int`. -/
def atoi : List Char → Option ℤ
  | '-' :: cs => (parseDigits cs).bind fun n => if n ≤ 2 ^ 63 then some (-n) else none
  | '+' :: cs => (parseDigits cs).bind fun n => if n < 2 ^ 63 then some n else none
  | cs => (parseDigits cs).bind fun n => if n < 2 ^ 63 then some n else none

def afterLastDash (cs : List Char) : List Char := (cs.reverse.takeWhile (· ≠ '-')).reverse

/-- `resolvePodIndex`: the number after the last dash of a pod name. -/
def resolvePodIndex (podName : String) : Option ℕ :=
  if '-' ∈ podName.toList then (atoi (afterLastDash podName.toList)).map Int.toNat else none

/-- The number a canonical decimal suffix stands for, no sign and no leading zero. -/
def canonicalIndex (suffix : List Char) : Option ℕ :=
  (atoi suffix).bind fun index =>
    if 0 ≤ index ∧ (toString index.toNat).toList = suffix then some index.toNat else none

/-- `isShardBuiltPVC`: the claim carries a name the shard's builders produce, or once produced, for
the pool and cell on its labels. -/
def isShardBuiltPVC (shard : Shard) (pvc : PVC) : Bool :=
  let poolName := pvc.labels.get .pool
  let cellName := pvc.labels.get .cell
  if poolName = "" then
    pvc.name == buildSharedBackupPVCName shard ||
      (cellName != "" && pvc.name == legacyCellBackupPVCName shard cellName)
  else if cellName = "" then false
  else
    let stem := (poolDataPVCNamePrefix shard poolName cellName).toList
    stem.isPrefixOf pvc.name.toList &&
      (canonicalIndex (pvc.name.toList.drop stem.length)).isSome

/-! ## Reading an index back -/

variable {n index : ℕ} {shard : Shard} {poolName cellName : String} {labels : Labels}

theorem isDigit_of_mem_toString {c : Char} (h : c ∈ (toString n).toList) : c.isDigit = true := by
  rw [Nat.toString_eq_ofList_toDigits, String.toList_ofList] at h
  exact Nat.isDigit_of_mem_toDigits (by omega) (by omega) h

theorem toList_toString_ne_nil (n : ℕ) : (toString n).toList ≠ [] := by
  simp [Nat.toDigits_ne_nil]

theorem parseDigits_toString (n : ℕ) : parseDigits (toString n).toList = some n := by
  have hall : (toString n).toList.all Char.isDigit = true :=
    List.all_eq_true.mpr fun c hc => isDigit_of_mem_toString hc
  rw [parseDigits, if_pos ⟨toList_toString_ne_nil n, hall⟩, Nat.toString_eq_ofList_toDigits,
    String.toList_ofList, Nat.ofDigitChars_toDigits (by omega) (by omega)]

theorem atoi_toString (h : n < 2 ^ 63) : atoi (toString n).toList = some (n : ℤ) := by
  have hparse := parseDigits_toString n
  have hsign : ∀ c ∈ (toString n).toList, c ≠ '-' ∧ c ≠ '+' := fun c hc => by
    have := isDigit_of_mem_toString hc
    constructor <;> rintro rfl <;> simp at this
  unfold atoi
  split
  · next heq => exact absurd rfl (hsign '-' (heq ▸ List.mem_cons_self)).1
  · next heq => exact absurd rfl (hsign '+' (heq ▸ List.mem_cons_self)).2
  · rw [hparse, Option.bind_some, if_pos h]

theorem afterLastDash_append (cs : List Char) {ds : List Char} (h : '-' ∉ ds) :
    afterLastDash (cs ++ '-' :: ds) = ds := by
  have hds : ∀ c ∈ ds.reverse, decide (c ≠ '-') = true := fun c hc => by
    simpa using fun hc' : c = '-' => h (hc' ▸ List.mem_reverse.mp hc)
  rw [afterLastDash, List.reverse_append, List.reverse_cons, List.append_assoc,
    List.takeWhile_append_of_pos hds]
  simp

theorem resolvePodIndex_append (base : String) (h : index < 2 ^ 63) :
    resolvePodIndex (base ++ "-" ++ toString index) = some index := by
  have hlist : (base ++ "-" ++ toString index).toList =
      base.toList ++ '-' :: (toString index).toList := by
    simp [String.toList_append]
  have hdash : '-' ∉ (toString index).toList := fun hmem => by
    simpa using isDigit_of_mem_toString hmem
  rw [resolvePodIndex, hlist, if_pos (by simp), afterLastDash_append _ hdash, atoi_toString h]
  simp

/-- **The index of a pool pod** is read back from its name. -/
theorem resolvePodIndex_buildPoolPodName (shard : Shard) (poolName cellName : String)
    (h : index < 2 ^ 63) :
    resolvePodIndex (buildPoolPodName shard poolName cellName index) = some index :=
  resolvePodIndex_append _ h

theorem buildPoolPodName_index_injective (shard : Shard) (poolName cellName : String) {i j : ℕ}
    (hi : i < 2 ^ 63) (hj : j < 2 ^ 63)
    (h : buildPoolPodName shard poolName cellName i = buildPoolPodName shard poolName cellName j) :
    i = j := by
  have := resolvePodIndex_buildPoolPodName shard poolName cellName hi
  rw [h, resolvePodIndex_buildPoolPodName shard poolName cellName hj] at this
  exact (Option.some.inj this).symm

theorem index_eq_of_buildPoolPodName_eq {poolName' cellName' : String} {i j : ℕ}
    (h : buildPoolPodName shard poolName cellName i =
      buildPoolPodName shard poolName' cellName' j) : i = j := by
  have suffix (poolName cellName : String) (i : ℕ) :
      parseDigits (afterLastDash (buildPoolPodName shard poolName cellName i).toList) = some i := by
    have hdash : '-' ∉ (toString i).toList := fun hmem => by
      simpa using isDigit_of_mem_toString hmem
    have hlist : (buildPoolPodName shard poolName cellName i).toList =
        (joinWithConstraints podConstraints (poolNameParts shard poolName cellName)).toList ++
          '-' :: (toString i).toList := by
      simp [buildPoolPodName, String.toList_append]
    rw [hlist, afterLastDash_append _ hdash, parseDigits_toString]
  have hi := suffix poolName cellName i
  rw [h, suffix] at hi
  exact (Option.some.inj hi).symm

theorem canonicalIndex_toString (h : n < 2 ^ 63) : canonicalIndex (toString n).toList = some n := by
  rw [canonicalIndex, atoi_toString h, Option.bind_some, Int.toNat_natCast,
    if_pos ⟨Int.natCast_nonneg n, rfl⟩]

theorem toList_of_canonicalIndex {suffix : List Char} (h : canonicalIndex suffix = some index) :
    index < 2 ^ 63 ∧ suffix = (toString index).toList := by
  obtain ⟨n, hn, hcond⟩ := Option.bind_eq_some_iff.mp h
  split at hcond
  · next hnonneg =>
    cases hcond
    refine ⟨?_, hnonneg.2.symm⟩
    -- a sign changes nothing about the bound
    unfold atoi at hn
    split at hn <;> obtain ⟨m, -, hm⟩ := Option.bind_eq_some_iff.mp hn <;> split at hm <;>
      cases hm <;> omega
  · cases hcond

/-- **The data PVCs of the shard**: with a pool and a cell on its labels a PVC is recognised exactly if
it bears the name of their data PVC at some index. -/
theorem isShardBuiltPVC_dataPVC_iff {pvc : PVC} (hpool : pvc.labels.get .pool ≠ "")
    (hcell : pvc.labels.get .cell ≠ "") :
    isShardBuiltPVC shard pvc = true ↔ ∃ index < 2 ^ 63, pvc.name =
      buildPoolDataPVCName shard (pvc.labels.get .pool) (pvc.labels.get .cell) index := by
  rw [isShardBuiltPVC, if_neg hpool, if_neg hcell, Bool.and_eq_true, List.isPrefixOf_iff_prefix,
    Option.isSome_iff_exists]
  constructor
  · rintro ⟨⟨rest, hrest⟩, index, hindex⟩
    obtain ⟨hbound, hsuffix⟩ := toList_of_canonicalIndex hindex
    refine ⟨index, hbound, String.toList_inj.mp ?_⟩
    rw [← hrest, List.drop_left] at hsuffix
    rw [← hrest, hsuffix, buildPoolDataPVCName, String.toList_append]
  · rintro ⟨index, hbound, hname⟩
    rw [hname, buildPoolDataPVCName, String.toList_append, List.drop_left]
    exact ⟨List.prefix_append _ _, index, canonicalIndex_toString hbound⟩

/-! ## Labels -/

/-- The component label of pool pods, `PoolComponentName`. -/
def poolComponentName : String := "shard-pool"

/-- `BuildStandardLabels`, as far as selectors and caches read it. -/
def buildStandardLabels (clusterName component : String) : Labels :=
  [(.appInstance, clusterName), (.appComponent, component), (.appManagedBy, "multigres-operator")]

/-- `buildPoolLabelsWithCell`: the labels of a pool's objects in one cell. -/
def buildPoolLabelsWithCell (shard : Shard) (poolName cellName : String) : Labels :=
  Labels.merge
    (buildStandardLabels shard.clusterName poolComponentName ++
      [(.shard, shard.spec.shardName), (.cell, cellName), (.pool, poolName),
        (.database, shard.spec.databaseName), (.tableGroup, shard.spec.tableGroupName)])
    shard.labels

/-- `GetSelectorLabels`: the identity labels of a label map. -/
def getSelectorLabels (labels : Labels) : Labels :=
  labels.filter fun (key, _) => key ≠ .appManagedBy

def poolSelector (shard : Shard) (poolName cellName : String) : Labels :=
  getSelectorLabels (buildPoolLabelsWithCell shard poolName cellName)

/-- `shardSelector`: every pod and PVC the shard creates. -/
def shardSelector (shard : Shard) : Labels :=
  [(.cluster, shard.clusterName), (.database, shard.spec.databaseName),
    (.tableGroup, shard.spec.tableGroupName), (.shard, shard.spec.shardName)]

/-- The selector of `listDisruptionPods`: the pool pods of the shard. -/
def disruptionSelector (shard : Shard) : Labels :=
  shardSelector shard ++ [(.appComponent, poolComponentName)]

/-- `shardPDBLabels` as a selector: the poolers of the shard. -/
def shardPDBSelector (shard : Shard) : Labels :=
  (.appInstance, shard.clusterName) :: disruptionSelector shard

def cellSelector (shard : Shard) (cellName : String) : Labels :=
  shardPDBSelector shard ++ [(.cell, cellName)]

/-! ## Selectors -/

theorem Labels.matches_trans {selector selector' : Labels}
    (h : ∀ entry ∈ selector', entry ∈ selector) (hm : selector.Matches labels = true) :
    Labels.Matches selector' labels = true := by
  simp only [Labels.Matches, List.all_eq_true] at hm ⊢
  exact fun entry hentry => hm entry (h entry hentry)

theorem matches_disruptionSelector
    (h : (poolSelector shard poolName cellName).Matches labels = true) :
    (disruptionSelector shard).Matches labels = true := by
  refine Labels.matches_trans (fun entry hentry => ?_) h
  obtain ⟨cluster, hcluster⟩ := Option.isSome_iff_exists.mp shard.labels_cluster
  have hname : shard.clusterName = cluster := by simp [Shard.clusterName, Labels.get, hcluster]
  have hmem := Assoc.mem_of_lookup hcluster
  simp only [disruptionSelector, shardSelector, List.mem_append, List.mem_cons, List.not_mem_nil,
    or_false] at hentry
  simp only [poolSelector, getSelectorLabels, buildPoolLabelsWithCell, Labels.merge,
    buildStandardLabels, List.mem_filter, List.mem_append, List.mem_cons, List.not_mem_nil, or_false]
  rcases hentry with (rfl | rfl | rfl | rfl) | rfl
  · exact ⟨.inr ⟨hname ▸ hmem, rfl⟩, rfl⟩
  all_goals exact ⟨.inl (by simp), rfl⟩

theorem matches_cellSelector (h : (poolSelector shard poolName cellName).Matches labels = true) :
    (cellSelector shard cellName).Matches labels = true := by
  have hpool := matches_disruptionSelector h
  simp only [Labels.Matches, List.all_eq_true] at h hpool ⊢
  intro entry hentry
  simp only [cellSelector, shardPDBSelector, List.mem_append, List.mem_cons, List.not_mem_nil,
    or_false] at hentry
  rcases hentry with (rfl | hentry) | rfl
  · exact h _ (List.mem_filter.mpr ⟨List.mem_append_left _ (by simp [buildStandardLabels]), rfl⟩)
  · exact hpool entry hentry
  · exact h _ (List.mem_filter.mpr ⟨List.mem_append_left _ (by simp [buildStandardLabels]), rfl⟩)

theorem disruptionSelector_of_cellSelector (h : (cellSelector shard cellName).Matches labels = true) :
    (disruptionSelector shard).Matches labels = true :=
  Labels.matches_trans
    (fun _ hentry => List.mem_append_left _ (List.mem_cons_of_mem _ hentry)) h

theorem Labels.get_of_matches {selector : Labels} {key : LabelKey} {value : String}
    (h : selector.Matches labels = true) (hentry : (key, value) ∈ selector) :
    labels.get key = value := by
  simp only [Labels.Matches, List.all_eq_true] at h
  simp [Labels.get, beq_iff_eq.mp (h _ hentry)]

theorem pool_cell_of_matches {pod : Pod}
    (h : (poolSelector shard poolName cellName).Matches pod.labels = true) :
    pod.pool = poolName ∧ pod.cell = cellName := by
  constructor
  · refine Labels.get_of_matches h (List.mem_filter.mpr ⟨List.mem_append_left _ ?_, rfl⟩)
    simp [buildStandardLabels]
  · refine Labels.get_of_matches h (List.mem_filter.mpr ⟨List.mem_append_left _ ?_, rfl⟩)
    simp [buildStandardLabels]

theorem cell_of_matches_cellSelector {pod : Pod}
    (h : (cellSelector shard cellName).Matches pod.labels = true) : pod.cell = cellName :=
  Labels.get_of_matches h (List.mem_append_right _ (List.mem_singleton_self _))

end MultigresOperator
