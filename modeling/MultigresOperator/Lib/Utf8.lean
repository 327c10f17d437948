import MultigresOperator.Lib.Encoding

/-!
# Characters of byte strings

A string is a list of bytes, which need not encode any text. It is read character by character as
UTF-8; a byte that starts no encoded character is read as the replacement character.
-/

namespace Utf8

open Encoding

/-- The character for bytes that encode nothing. -/
def runeError : ℕ := 0xFFFD

/-- What the first byte of an encoded character says: how many bytes follow, and between which bounds
the second byte is. -/
inductive Lead
  | two
  | three (lo hi : ℕ)
  | four (lo hi : ℕ)

/-- The encodings that start with a byte past ASCII. Bytes that only start overlong encodings,
surrogates or numbers past the last character start none. -/
def lead (b : ℕ) : Option Lead :=
  if b < 0xC2 then none
  else if b ≤ 0xDF then some .two
  else if b = 0xE0 then some (.three 0xA0 0xBF)
  else if b = 0xED then some (.three 0x80 0x9F)
  else if b ≤ 0xEF then some (.three 0x80 0xBF)
  else if b = 0xF0 then some (.four 0x90 0xBF)
  else if b ≤ 0xF3 then some (.four 0x80 0xBF)
  else if b = 0xF4 then some (.four 0x80 0x8F)
  else none

/-- The byte is between bounds. -/
def within (lo hi : ℕ) (b : UInt8) : Bool := lo ≤ b.toNat && b.toNat ≤ hi

/-- The first character of a byte string and the number of its bytes. A byte that starts no encoded
character stands alone. -/
def decodeRune : Bytes → ℕ × ℕ
  | [] => (runeError, 0)
  | b₀ :: rest =>
    if b₀.toNat < 0x80 then (b₀.toNat, 1)
    else
      match lead b₀.toNat, rest with
      | some .two, b₁ :: _ =>
        if within 0x80 0xBF b₁ then (b₀.toNat % 32 * 64 + b₁.toNat % 64, 2) else (runeError, 1)
      | some (.three lo hi), b₁ :: b₂ :: _ =>
        if within lo hi b₁ && within 0x80 0xBF b₂ then
          (b₀.toNat % 16 * 4096 + b₁.toNat % 64 * 64 + b₂.toNat % 64, 3)
        else (runeError, 1)
      | some (.four lo hi), b₁ :: b₂ :: b₃ :: _ =>
        if within lo hi b₁ && within 0x80 0xBF b₂ && within 0x80 0xBF b₃ then
          (b₀.toNat % 8 * 262144 + b₁.toNat % 64 * 4096 + b₂.toNat % 64 * 64 + b₃.toNat % 64, 4)
        else (runeError, 1)
      | _, _ => (runeError, 1)

/-- The characters after the next `skip` bytes. -/
def runesFrom : ℕ → Bytes → List ℕ
  | _, [] => []
  | 0, b :: rest => (decodeRune (b :: rest)).1 :: runesFrom ((decodeRune (b :: rest)).2 - 1) rest
  | skip + 1, _ :: rest => runesFrom skip rest

/-- The characters of a byte string. -/
def runes (s : Bytes) : List ℕ := runesFrom 0 s

/-- The bytes of a character; of the replacement character for what is none. -/
def encodeRune (r : ℕ) : Bytes :=
  if r < 0x80 then [UInt8.ofNat r]
  else if r < 0x800 then [UInt8.ofNat (0xC0 + r / 64), UInt8.ofNat (0x80 + r % 64)]
  else if 0xD800 ≤ r ∧ r ≤ 0xDFFF ∨ 0x10FFFF < r then [0xEF, 0xBF, 0xBD]
  else if r < 0x10000 then
    [UInt8.ofNat (0xE0 + r / 4096), UInt8.ofNat (0x80 + r / 64 % 64), UInt8.ofNat (0x80 + r % 64)]
  else
    [UInt8.ofNat (0xF0 + r / 262144), UInt8.ofNat (0x80 + r / 4096 % 64),
      UInt8.ofNat (0x80 + r / 64 % 64), UInt8.ofNat (0x80 + r % 64)]

/-- The string with its characters replaced. -/
def mapRunes (f : ℕ → ℕ) (s : Bytes) : Bytes := (runes s).flatMap fun r => encodeRune (f r)

/-! ## Replacement by ASCII -/

theorem mapRunes_ascii {f : ℕ → ℕ} (hf : ∀ r, f r < 0x80) (s : Bytes) :
    mapRunes f s = (runes s).map fun r => UInt8.ofNat (f r) := by
  have hencode : (fun r => encodeRune (f r)) = fun r => [UInt8.ofNat (f r)] :=
    funext fun r => if_pos (hf r)
  rw [mapRunes, hencode, ← List.map_eq_flatMap]

theorem toNat_ofNat_of_lt {n : ℕ} (h : n < 256) : (UInt8.ofNat n).toNat = n := by
  rw [UInt8.toNat_ofNat', Nat.mod_eq_of_lt h]

end Utf8
