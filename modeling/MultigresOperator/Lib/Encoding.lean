import Mathlib.Data.UInt

/-!
# Text encodings of bytes

Percent-encoding and unpadded base64 in the URL alphabet. Both are injective, and their output
avoids the characters they are meant to keep out of a path.

## Main results

* `Encoding.hexText_injective`, `Encoding.percentEncode_injective`, `Encoding.base64_inj`
* `Encoding.notMem_percentEncode`, `Encoding.notMem_base64`: characters that do not occur
-/

namespace Encoding

/-- Text as the bytes of its encoding. -/
abbrev Bytes := List UInt8

def utf8 (s : String) : Bytes := s.toByteArray.data.toList

theorem utf8_inj {s t : String} : utf8 s = utf8 t ↔ s = t :=
  ⟨fun h => String.toByteArray_inj.mp (ByteArray.ext (Array.toList_inj.mp h)), congrArg utf8⟩

/-- A digest of 32 bytes that depends on every byte of the text, where a concrete one is needed. -/
def checksum (s : Bytes) : Vector UInt8 32 :=
  Vector.ofFn fun i => s.foldl (fun h b => h * 31 + b + UInt8.ofNat i.val) 7

/-- A code that can be read off the front of a text determines what was encoded. -/
theorem flatMap_injective {α β : Type} {f : α → List β} (hne : ∀ a, f a ≠ [])
    (hread : ∀ a b x y, f a ++ x = f b ++ y → a = b) :
    Function.Injective (List.flatMap f) := by
  intro s
  induction s with
  | nil =>
    intro t h
    cases t with
    | nil => rfl
    | cons b t =>
      rw [List.flatMap_nil, List.flatMap_cons, List.nil_eq, List.append_eq_nil_iff] at h
      exact absurd h.1 (hne b)
  | cons a s ih =>
    intro t h
    cases t with
    | nil =>
      rw [List.flatMap_nil, List.flatMap_cons, List.append_eq_nil_iff] at h
      exact absurd h.1 (hne a)
    | cons b t =>
      rw [List.flatMap_cons, List.flatMap_cons] at h
      obtain rfl := hread a b _ _ h
      rw [ih (List.append_cancel_left h)]

/-! ### Hexadecimal text -/

def hexByte (b : UInt8) : List Char := [Nat.digitChar (b.toNat / 16), Nat.digitChar (b.toNat % 16)]

/-- `hex.EncodeToString` -/
def hexText (s : Bytes) : List Char := s.flatMap hexByte

variable {m n : ℕ} {s : Bytes} {d : UInt8}

theorem digitChar_inj (hm : m < 16) (hn : n < 16) (h : Nat.digitChar m = Nat.digitChar n) :
    m = n := by
  have all : ∀ m < 16, ∀ n < 16, Nat.digitChar m = Nat.digitChar n → m = n := by decide
  exact all m hm n hn h

theorem hexText_injective : Function.Injective hexText := by
  refine flatMap_injective (fun b => by simp [hexByte]) fun a b x y h => ?_
  have ha := a.toNat_lt
  have hb := b.toNat_lt
  simp only [hexByte, List.cons_append, List.nil_append, List.cons.injEq] at h
  have hhigh := digitChar_inj (by omega) (by omega) h.1
  have hlow := digitChar_inj (by omega) (by omega) h.2.1
  apply UInt8.toNat_inj.mp
  omega

theorem isAlphanum_of_mem_hexText {c : Char} (h : c ∈ hexText s) : c.isAlphanum = true := by
  have all : ∀ n < 16, (Nat.digitChar n).isAlphanum = true := by decide
  obtain ⟨b, -, hc⟩ := List.mem_flatMap.mp h
  have hb := b.toNat_lt
  rcases List.mem_cons.mp hc with rfl | hc
  · exact all _ (by omega)
  · obtain rfl := List.mem_singleton.mp hc
    exact all _ (by omega)

/-! ### Percent-encoding -/

/-- An upper-case hexadecimal digit. -/
def hexDigit (n : ℕ) : UInt8 := UInt8.ofNat (if n < 10 then 48 + n else 55 + n)

theorem hexDigit_toNat (h : n < 16) : (hexDigit n).toNat = if n < 10 then 48 + n else 55 + n := by
  unfold hexDigit
  rw [UInt8.toNat_ofNat', Nat.mod_eq_of_lt]
  split <;> omega

theorem hexDigit_inj (hm : m < 16) (hn : n < 16) (h : hexDigit m = hexDigit n) : m = n := by
  have h' := congrArg UInt8.toNat h
  rw [hexDigit_toNat hm, hexDigit_toNat hn] at h'
  split at h' <;> split at h' <;> omega

/-- A byte: as it is, or as `%` and two hexadecimal digits. -/
def percentByte (keep : UInt8 → Bool) (c : UInt8) : Bytes :=
  if keep c then [c] else [37, hexDigit (c.toNat / 16), hexDigit (c.toNat % 16)]

/-- Every byte outside `keep` is written `%XX`. -/
def percentEncode (keep : UInt8 → Bool) (s : Bytes) : Bytes := s.flatMap (percentByte keep)

variable {keep : UInt8 → Bool}

theorem percentByte_read (hpercent : keep 37 = false) (c d : UInt8) (x y : Bytes)
    (h : percentByte keep c ++ x = percentByte keep d ++ y) : c = d := by
  unfold percentByte at h
  have hc := c.toNat_lt
  have hd := d.toNat_lt
  split at h
  · next hkc =>
    split at h
    · exact (List.cons.inj h).1
    · -- a byte that is kept is no percent sign
      exact absurd ((List.cons.inj h).1 ▸ hkc) (by simp [hpercent])
  · split at h
    · next hkd => exact absurd ((List.cons.inj h).1 ▸ hkd) (by simp [hpercent])
    · simp only [List.cons_append, List.nil_append, List.cons.injEq, true_and] at h
      have hhigh := hexDigit_inj (by omega) (by omega) h.1
      have hlow := hexDigit_inj (by omega) (by omega) h.2.1
      apply UInt8.toNat_inj.mp
      omega

theorem percentEncode_injective (hpercent : keep 37 = false) :
    Function.Injective (percentEncode keep) := by
  apply flatMap_injective
  · intro c
    unfold percentByte
    split <;> simp
  · exact percentByte_read hpercent

theorem mem_percentEncode (h : d ∈ percentEncode keep s) :
    keep d = true ∨ d = 37 ∨ ∃ n < 16, d = hexDigit n := by
  obtain ⟨c, -, hd⟩ := List.mem_flatMap.mp h
  have hc := c.toNat_lt
  unfold percentByte at hd
  split at hd
  · next hk => exact .inl (List.mem_singleton.mp hd ▸ hk)
  · simp only [List.mem_cons, List.not_mem_nil, or_false] at hd
    rcases hd with rfl | rfl | rfl
    · exact .inr (.inl rfl)
    · exact .inr (.inr ⟨_, by omega, rfl⟩)
    · exact .inr (.inr ⟨_, by omega, rfl⟩)

theorem notMem_percentEncode (hkeep : keep d = false) (hpercent : d ≠ 37)
    (hdigit : d.toNat < 48 ∨ 70 < d.toNat) : d ∉ percentEncode keep s := by
  intro hmem
  rcases mem_percentEncode hmem with h | h | ⟨n, hn, rfl⟩
  · exact absurd h (by simp [hkeep])
  · exact hpercent h
  · rw [hexDigit_toNat hn] at hdigit
    split at hdigit <;> omega

/-! ### Base64 -/

/-- A character of the URL alphabet: letters, digits, `-` and `_`. -/
def base64Char (n : ℕ) : UInt8 :=
  UInt8.ofNat (if n < 26 then 65 + n else if n < 52 then 71 + n else if n < 62 then n - 4
    else if n = 62 then 45 else 95)

theorem base64Char_toNat (h : n < 64) :
    (base64Char n).toNat = if n < 26 then 65 + n else if n < 52 then 71 + n
      else if n < 62 then n - 4 else if n = 62 then 45 else 95 := by
  unfold base64Char
  rw [UInt8.toNat_ofNat', Nat.mod_eq_of_lt]
  split_ifs <;> omega

theorem base64Char_inj (hm : m < 64) (hn : n < 64) (h : base64Char m = base64Char n) : m = n := by
  have h' := congrArg UInt8.toNat h
  rw [base64Char_toNat hm, base64Char_toNat hn] at h'
  split_ifs at h' <;> omega

/-- The base64 form without padding: four characters for three bytes, and two or three for a
rest of one or two bytes. -/
def base64 : Bytes → Bytes
  | [] => []
  | [a] => [base64Char (a.toNat / 4), base64Char (a.toNat % 4 * 16)]
  | [a, b] =>
    [base64Char (a.toNat / 4), base64Char (a.toNat % 4 * 16 + b.toNat / 16),
      base64Char (b.toNat % 16 * 4)]
  | a :: b :: c :: s =>
    base64Char (a.toNat / 4) :: base64Char (a.toNat % 4 * 16 + b.toNat / 16) ::
      base64Char (b.toNat % 16 * 4 + c.toNat / 64) :: base64Char (c.toNat % 64) :: base64 s

theorem base64_inj {t : Bytes} (hlen : s.length = t.length) (h : base64 s = base64 t) : s = t := by
  induction s using base64.induct generalizing t with
  | case1 => exact (List.eq_nil_of_length_eq_zero hlen.symm).symm
  | case2 a =>
    obtain ⟨a', rfl⟩ := List.length_eq_one_iff.mp hlen.symm
    have ha := a.toNat_lt
    have ha' := a'.toNat_lt
    simp only [base64, List.cons.injEq] at h
    have h₁ := base64Char_inj (by omega) (by omega) h.1
    have h₂ := base64Char_inj (by omega) (by omega) h.2.1
    rw [UInt8.toNat_inj.mp (show a.toNat = a'.toNat by omega)]
  | case3 a b =>
    obtain ⟨a', b', rfl⟩ := List.length_eq_two.mp hlen.symm
    have ha := a.toNat_lt
    have ha' := a'.toNat_lt
    have hb := b.toNat_lt
    have hb' := b'.toNat_lt
    simp only [base64, List.cons.injEq] at h
    have h₁ := base64Char_inj (by omega) (by omega) h.1
    have h₂ := base64Char_inj (by omega) (by omega) h.2.1
    have h₃ := base64Char_inj (by omega) (by omega) h.2.2.1
    rw [UInt8.toNat_inj.mp (show a.toNat = a'.toNat by omega),
      UInt8.toNat_inj.mp (show b.toNat = b'.toNat by omega)]
  | case4 a b c s ih =>
    match t with
    | [] | [_] | [_, _] => simp at hlen
    | a' :: b' :: c' :: t =>
      have ha := a.toNat_lt
      have ha' := a'.toNat_lt
      have hb := b.toNat_lt
      have hb' := b'.toNat_lt
      have hc := c.toNat_lt
      have hc' := c'.toNat_lt
      simp only [base64, List.cons.injEq] at h
      have h₁ := base64Char_inj (by omega) (by omega) h.1
      have h₂ := base64Char_inj (by omega) (by omega) h.2.1
      have h₃ := base64Char_inj (by omega) (by omega) h.2.2.1
      have h₄ := base64Char_inj (by omega) (by omega) h.2.2.2.1
      rw [UInt8.toNat_inj.mp (show a.toNat = a'.toNat by omega),
        UInt8.toNat_inj.mp (show b.toNat = b'.toNat by omega),
        UInt8.toNat_inj.mp (show c.toNat = c'.toNat by omega),
        ih (by simpa using hlen) h.2.2.2.2]

theorem mem_base64 (h : d ∈ base64 s) : ∃ n < 64, d = base64Char n := by
  induction s using base64.induct with
  | case1 => simp [base64] at h
  | case2 a =>
    have ha := a.toNat_lt
    simp only [base64, List.mem_cons, List.not_mem_nil, or_false] at h
    rcases h with rfl | rfl <;> exact ⟨_, by omega, rfl⟩
  | case3 a b =>
    have ha := a.toNat_lt
    have hb := b.toNat_lt
    simp only [base64, List.mem_cons, List.not_mem_nil, or_false] at h
    rcases h with rfl | rfl | rfl <;> exact ⟨_, by omega, rfl⟩
  | case4 a b c s ih =>
    have ha := a.toNat_lt
    have hb := b.toNat_lt
    have hc := c.toNat_lt
    simp only [base64, List.mem_cons] at h
    rcases h with rfl | rfl | rfl | rfl | h
    · exact ⟨_, by omega, rfl⟩
    · exact ⟨_, by omega, rfl⟩
    · exact ⟨_, by omega, rfl⟩
    · exact ⟨_, by omega, rfl⟩
    · exact ih h

theorem notMem_base64 (hd : d = 46 ∨ d = 47) : d ∉ base64 s := by
  intro hmem
  obtain ⟨n, hn, rfl⟩ := mem_base64 hmem
  have hval := base64Char_toNat hn
  rcases hd with hd | hd <;> rw [hd] at hval <;> simp at hval <;> split_ifs at hval <;> omega

end Encoding
