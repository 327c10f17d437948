import MultigresOperator.Lib.Utf8
import MultigresOperator.Shard.Names

/-!
# Names of objects

Names are built from parts, which are strings of the user: any bytes at all. Each part is brought
down to lower-case letters, digits and dashes, the parts are joined with dashes, and a hash of the
parts as they were given is appended. A name that is too long is cut before the hash.

The other modules join parts that are text with `MultigresOperator.joinWithConstraints`, which
works on characters.
-/

namespace MultigresOperator.Naming

open Encoding Utf8

/-! ## The model -/

def hashLength : ℕ := 8

/-- `truncationMark`, three dashes. -/
def truncationMark : Bytes := [45, 45, 45]

def minTruncatedLength : ℕ := 1 + truncationMark.length + hashLength

/-- `Constraints`, as they are given. -/
structure Constraints where
  maxLength : ℤ
  validFirstChar : ℕ → Bool

def isLowercaseLetter (r : ℕ) : Bool := 97 ≤ r && r ≤ 122

def isUppercaseLetter (r : ℕ) : Bool := 65 ≤ r && r ≤ 90

def isDigit (r : ℕ) : Bool := 48 ≤ r && r ≤ 57

def isLowercaseAlphanumeric (r : ℕ) : Bool := isLowercaseLetter r || isDigit r

/-- One part after another into an FNV-1a hash, each followed by a zero byte. -/
def fnvParts (parts : List Bytes) : UInt32 :=
  parts.foldl (fun h part => fnvStep (part.foldl fnvStep h) 0) 2166136261

def asciiByte (c : Char) : UInt8 := UInt8.ofNat c.toNat

/-- `Hash`: the four bytes of the hash as hexadecimal digits. -/
def hash (parts : List Bytes) : Bytes := (hexDigits hashLength (fnvParts parts).toNat).map asciiByte

/-- The function `transform` of `JoinWithConstraints`. -/
def transform (r : ℕ) : ℕ :=
  if isLowercaseAlphanumeric r || r == 45 then r
  else if isUppercaseLetter r then r + 32
  else 45

/-- The transformed first part, prefixed when it does not start with a valid character. -/
def firstPart (cons : Constraints) (part : Bytes) : Bytes :=
  match part with
  | [] => [120]
  | b :: rest => if cons.validFirstChar b.toNat then b :: rest else 120 :: b :: rest

/-- The slice `s[:n]`, which panics if `n` is out of bounds. -/
def sliceTo (s : Bytes) (n : ℤ) : Except String Bytes :=
  if 0 ≤ n ∧ n ≤ s.length then .ok (s.take n.toNat)
  else .error ("slice bounds out of range [:" ++ toString n ++ "]")

/-- `JoinWithConstraints`. An error is a panic. -/
def joinWithConstraints (cons : Constraints) (parts : List Bytes) : Except String Bytes := do
  if cons.maxLength < minTruncatedLength then
    .error ("MaxLength of " ++ toString cons.maxLength ++ " is invalid; must be at least " ++
      toString minTruncatedLength)
  match parts.map (mapRunes transform) with
  | [] => return []
  | first :: rest =>
    let partialResult := List.intercalate [45] (firstPart cons first :: rest)
    let predictedLength : ℤ := partialResult.length + 1 + (hash parts).length
    if predictedLength ≤ cons.maxLength then return partialResult ++ 45 :: hash parts
    -- enough is cut off for the hash, and two more for the longer mark
    let cutLength := predictedLength - cons.maxLength + 2
    let partialResult ← sliceTo partialResult (partialResult.length - cutLength)
    return partialResult ++ truncationMark ++ hash parts

/-! ## Characters of a name -/

/-- A lower-case letter, a digit or a dash. -/
def NameByte (b : UInt8) : Prop := isLowercaseAlphanumeric b.toNat = true ∨ b = 45

theorem transform_lt (r : ℕ) : transform r < 0x80 := by
  unfold transform
  split
  · next h =>
    simp only [isLowercaseAlphanumeric, isLowercaseLetter, isDigit, Bool.or_eq_true,
      Bool.and_eq_true, decide_eq_true_eq, beq_iff_eq] at h
    omega
  · split
    · next h =>
      simp only [isUppercaseLetter, Bool.and_eq_true, decide_eq_true_eq] at h
      omega
    · decide

theorem nameByte_transform (r : ℕ) : NameByte (UInt8.ofNat (transform r)) := by
  have hlt := transform_lt r
  have hnat := toNat_ofNat_of_lt (show transform r < 256 by omega)
  rw [NameByte, hnat]
  unfold transform at hlt hnat ⊢
  split
  · next h =>
    rcases Bool.or_eq_true_iff.mp h with h | h
    · exact .inl h
    · rw [beq_iff_eq.mp h]
      exact .inr rfl
  · split
    · next h =>
      simp only [isUppercaseLetter, Bool.and_eq_true, decide_eq_true_eq] at h
      left
      simp only [isLowercaseAlphanumeric, isLowercaseLetter, Bool.or_eq_true, Bool.and_eq_true,
        decide_eq_true_eq]
      omega
    · exact .inr rfl

variable {b : UInt8} {cons : Constraints} {parts : List Bytes} {l : List Char}

theorem nameByte_of_mem_mapRunes {part : Bytes} (h : b ∈ mapRunes transform part) : NameByte b := by
  rw [mapRunes_ascii transform_lt] at h
  obtain ⟨r, -, rfl⟩ := List.mem_map.mp h
  exact nameByte_transform r

theorem nameByte_of_mem_firstPart {part : Bytes} (hpart : ∀ b ∈ part, NameByte b)
    (h : b ∈ firstPart cons part) : NameByte b := by
  have hx : NameByte 120 := .inl (by decide)
  unfold firstPart at h
  split at h
  · rw [List.mem_singleton.mp h]
    exact hx
  · split at h
    · exact hpart b h
    · rcases List.mem_cons.mp h with rfl | h
      · exact hx
      · exact hpart b h

theorem forall_hexDigits {P : Char → Prop} (hdigit : ∀ d < 16, P (Nat.digitChar d)) (n x : ℕ) :
    ∀ c ∈ hexDigits n x, P c := by
  induction n generalizing x with
  | zero => exact fun _ h => absurd h List.not_mem_nil
  | succ n ih =>
    intro c hc
    rcases List.mem_append.mp hc with hc | hc
    · exact ih _ c hc
    · rw [List.mem_singleton.mp hc]
      exact hdigit _ (Nat.mod_lt _ (by decide))

theorem nameByte_of_mem_hash (h : b ∈ hash parts) : NameByte b := by
  have hdigit : ∀ n < 16, NameByte (asciiByte (Nat.digitChar n)) := by
    unfold NameByte
    decide
  obtain ⟨c, hc, rfl⟩ := List.mem_map.mp h
  exact forall_hexDigits (P := fun c => NameByte (asciiByte c)) hdigit _ _ c hc

/-! ## Well-formed names -/

theorem length_hash (parts : List Bytes) : (hash parts).length = hashLength := by
  have hdigits (n x : ℕ) : (hexDigits n x).length = n := by
    induction n generalizing x with
    | zero => rfl
    | succ n ih => rw [hexDigits, List.length_append, ih, List.length_singleton]
  rw [hash, List.length_map, hdigits]

/-- A name of an object that carries the hash of its parts. -/
structure WellFormed (cons : Constraints) (parts : List Bytes) (name : Bytes) : Prop where
  length : name.length ≤ cons.maxLength
  bytes : ∀ b ∈ name, NameByte b
  first : ∃ b rest, name = b :: rest ∧ cons.validFirstChar b.toNat = true
  suffix : ∃ stem, name = stem ++ 45 :: hash parts

theorem mem_intercalate {α : Type} {sep : List α} {l : List (List α)} {b : α}
    (h : b ∈ List.intercalate sep l) : b ∈ sep ∨ ∃ part ∈ l, b ∈ part := by
  induction l with
  | nil => cases h
  | cons part l ih =>
    cases l with
    | nil =>
      rw [List.intercalate_singleton] at h
      exact .inr ⟨part, List.mem_cons_self, h⟩
    | cons next l =>
      rw [List.intercalate_cons_cons, List.mem_append, List.mem_append] at h
      rcases h with (h | h) | h
      · exact .inr ⟨part, List.mem_cons_self, h⟩
      · exact .inl h
      · rcases ih h with hsep | ⟨part', hpart', hmem⟩
        · exact .inl hsep
        · exact .inr ⟨part', List.mem_cons_of_mem _ hpart', hmem⟩

theorem joined_parts (hx : cons.validFirstChar 120 = true) {first : Bytes} {rest : List Bytes}
    (hfirst : ∀ b ∈ first, NameByte b) (hrest : ∀ part ∈ rest, ∀ b ∈ part, NameByte b) :
    (∀ b ∈ List.intercalate [45] (firstPart cons first :: rest), NameByte b) ∧
      ∃ b tail, List.intercalate [45] (firstPart cons first :: rest) = b :: tail ∧
        cons.validFirstChar b.toNat = true := by
  have hhead : ∃ b tail, firstPart cons first = b :: tail ∧ cons.validFirstChar b.toNat = true := by
    unfold firstPart
    split
    · exact ⟨_, _, rfl, hx⟩
    · split
      · next h => exact ⟨_, _, rfl, h⟩
      · exact ⟨_, _, rfl, hx⟩
  obtain ⟨b, tail, hcons, hvalid⟩ := hhead
  have hdash : NameByte 45 := .inr rfl
  constructor
  · intro c hc
    rcases mem_intercalate hc with hc | ⟨part, hpart, hc⟩
    · rw [List.mem_singleton.mp hc]
      exact hdash
    · rcases List.mem_cons.mp hpart with rfl | hpart
      · exact nameByte_of_mem_firstPart hfirst hc
      · exact hrest part hpart c hc
  · rw [hcons, List.intercalate_cons_cons_left]
    exact ⟨b, _, rfl, hvalid⟩

theorem wellFormed_truncated {joined : Bytes} (hmax : minTruncatedLength ≤ cons.maxLength)
    (hbytes : ∀ b ∈ joined, NameByte b)
    (hfirst : ∃ b tail, joined = b :: tail ∧ cons.validFirstChar b.toNat = true)
    (hlong : ¬ (joined.length + 1 + (hash parts).length : ℤ) ≤ cons.maxLength) :
    ∃ cut, sliceTo joined
        (joined.length - (joined.length + 1 + (hash parts).length - cons.maxLength + 2)) = .ok cut ∧
      WellFormed cons parts (cut ++ truncationMark ++ hash parts) := by
  have hhash := length_hash parts
  have hmin : minTruncatedLength = 12 := rfl
  rw [hmin] at hmax
  rw [hhash] at hlong ⊢
  unfold hashLength at hhash hlong ⊢
  have hn : (joined.length - (joined.length + 1 + (8 : ℕ) - cons.maxLength + 2) : ℤ) =
      cons.maxLength - 11 := by
    push_cast
    omega
  rw [hn, sliceTo, if_pos ⟨by omega, by push_cast at hlong; omega⟩]
  -- one character at least is left
  obtain ⟨m, hm⟩ : ∃ m, (cons.maxLength - 11).toNat = m + 1 := ⟨(cons.maxLength - 12).toNat, by omega⟩
  have hdashes : ∀ b ∈ truncationMark, NameByte b := by
    intro b hb
    simp only [truncationMark, List.mem_cons, List.not_mem_nil, or_false, or_self] at hb
    exact .inr hb
  obtain ⟨b, tail, rfl, hvalid⟩ := hfirst
  refine ⟨_, rfl, ?_, ?_, ?_, ?_⟩
  · have htake := List.length_take_le (cons.maxLength - 11).toNat (b :: tail)
    rw [List.length_append, List.length_append, hhash]
    have hmark : truncationMark.length = 3 := rfl
    omega
  · intro c hc
    rcases List.mem_append.mp hc with hc | hc
    · rcases List.mem_append.mp hc with hc | hc
      · exact hbytes c (List.mem_of_mem_take hc)
      · exact hdashes c hc
    · exact nameByte_of_mem_hash hc
  · rw [hm, List.take_succ_cons]
    exact ⟨b, _, rfl, hvalid⟩
  · exact ⟨(b :: tail).take (cons.maxLength - 11).toNat ++ [45, 45], by simp [truncationMark]⟩

/-- A join under constraints that leave room for a truncated name does not panic. -/
theorem exists_wellFormed (hmax : 12 ≤ cons.maxLength) (hx : cons.validFirstChar 120 = true)
    (hparts : parts ≠ []) :
    ∃ name, joinWithConstraints cons parts = .ok name ∧ WellFormed cons parts name := by
  obtain ⟨part, rest, rfl⟩ := List.exists_cons_of_ne_nil hparts
  have hmin : ¬ cons.maxLength < (minTruncatedLength : ℤ) := not_lt.mpr hmax
  have hrest : ∀ p ∈ rest.map (mapRunes transform), ∀ b ∈ p, NameByte b := by
    intro p hp b hb
    obtain ⟨p, -, rfl⟩ := List.mem_map.mp hp
    exact nameByte_of_mem_mapRunes hb
  have hpart : ∀ b ∈ mapRunes transform part, NameByte b := fun b => nameByte_of_mem_mapRunes
  obtain ⟨hbytes, hfirst⟩ := joined_parts hx hpart hrest
  unfold joinWithConstraints
  rw [if_neg hmin, List.map_cons]
  dsimp only
  generalize List.intercalate [45] (firstPart cons (mapRunes transform part) ::
    rest.map (mapRunes transform)) = joined at hbytes hfirst ⊢
  split
  · next hshort =>
    refine ⟨_, rfl, ?_, ?_, ?_, ⟨_, rfl⟩⟩
    · rw [List.length_append, List.length_cons]
      push_cast
      omega
    · intro b hb
      rcases List.mem_append.mp hb with hb | hb
      · exact hbytes b hb
      · rcases List.mem_cons.mp hb with rfl | hb
        · exact .inr rfl
        · exact nameByte_of_mem_hash hb
    · obtain ⟨b, tail, rfl, hvalid⟩ := hfirst
      exact ⟨b, _, rfl, hvalid⟩
  · next hlong =>
    obtain ⟨cut, hcut, hname⟩ := wellFormed_truncated hmax hbytes hfirst hlong
    rw [hcut]
    exact ⟨_, rfl, hname⟩

theorem hash_eq_of_suffix {parts' : List Bytes} {stem stem' : Bytes}
    (h : stem ++ 45 :: hash parts = stem' ++ 45 :: hash parts') : hash parts = hash parts' := by
  have hlength : (45 :: hash parts).length = (45 :: hash parts').length := by
    rw [List.length_cons, List.length_cons, length_hash, length_hash]
  exact (List.cons.inj (List.append_inj' h hlength).2).2

/-- **Names are well-formed and carry their hash.** Whatever the bytes of the parts, a join under
constraints that leave room for a truncated name does not panic and gives a well-formed name. Parts
with another hash have another name. -/
theorem join_well_formed (cons : Constraints) (parts : List Bytes) (hparts : parts ≠ [])
    (hmax : 12 ≤ cons.maxLength) (hx : cons.validFirstChar 120 = true) :
    ∃ name, joinWithConstraints cons parts = .ok name ∧ WellFormed cons parts name ∧
      ∀ parts', parts' ≠ [] → hash parts' ≠ hash parts →
        joinWithConstraints cons parts' ≠ .ok name := by
  obtain ⟨name, hname, hwell⟩ := exists_wellFormed hmax hx hparts
  refine ⟨name, hname, hwell, fun parts' hparts' hne hsame => ?_⟩
  obtain ⟨name', hname', hwell'⟩ := exists_wellFormed hmax hx hparts'
  obtain rfl := Except.ok.inj (hsame.symm.trans hname')
  obtain ⟨stem, hstem⟩ := hwell.suffix
  obtain ⟨stem', hstem'⟩ := hwell'.suffix
  exact hne (hash_eq_of_suffix (hstem'.symm.trans hstem))

/-- Constraints with the shortest allowed length. -/
def tightConstraints : Constraints := ⟨12, isLowercaseLetter⟩

/-- A part of bytes that encode nothing, under the tightest constraints. -/
theorem join_well_formed_invalid :
    ∃ name, joinWithConstraints tightConstraints [[0xff, 0x41], []] = .ok name ∧
      WellFormed tightConstraints [[0xff, 0x41], []] name ∧
      ∀ parts', parts' ≠ [] → hash parts' ≠ hash [[0xff, 0x41], []] →
        joinWithConstraints tightConstraints parts' ≠ .ok name :=
  join_well_formed tightConstraints [[0xff, 0x41], []] (by decide) (by decide) (by decide)

end MultigresOperator.Naming
