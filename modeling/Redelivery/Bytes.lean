/-
  Redelivery.Bytes
  ────────────────
  **Octet strings and the two things they carry: text and whole numbers.**

  Header values, keys and payloads are plain octet lists.  Text is UTF-8; a
  whole number of fixed width is written most significant octet first, two's
  complement when signed, and is read back only from a value of exactly that
  width:

      toInt32? (ofInt32 v) = some v
      toInt64? (ofInt64 v) = some v
      toText? (ofText s)   = some s
-/

namespace Redelivery

/-- A string of octets. -/
abbrev Bytes := List UInt8

namespace Bytes

/-! ## §1. Text. -/

/-- The UTF-8 form of a text. -/
def ofText (s : String) : Bytes := s.toUTF8.data.toList

/-- The text that the octets spell, if they are well-formed UTF-8. -/
def toText? (b : Bytes) : Option String := String.fromUTF8? ⟨⟨b⟩⟩

theorem toText?_ofText (s : String) : toText? (ofText s) = some s := by
  have h : ByteArray.mk ⟨s.toUTF8.data.toList⟩ = s.toByteArray := rfl
  simp only [toText?, ofText, h, String.fromUTF8?]
  rw [dif_pos s.isValidUTF8]
  rfl

/-! ## §2. Whole numbers, most significant octet first. -/

/-- The last `width` digits of `n` in base 256, most significant first. -/
def bigEndian : (width : Nat) → (n : Nat) → Bytes
  | 0, _ => []
  | width + 1, n => bigEndian width (n / 256) ++ [UInt8.ofNat (n % 256)]

/-- The number whose base-256 digits are the given octets. -/
def ofBigEndian (b : Bytes) : Nat := b.foldl (fun n d => n * 256 + d.toNat) 0

/-- How many numbers so many octets can spell. -/
def span : (width : Nat) → Nat
  | 0 => 1
  | width + 1 => 256 * span width

theorem length_bigEndian (width n : Nat) : (bigEndian width n).length = width := by
  induction width generalizing n with
  | zero => rfl
  | succ width ih => simp [bigEndian, ih]

theorem ofBigEndian_bigEndian (width n : Nat) :
    ofBigEndian (bigEndian width n) = n % span width := by
  induction width generalizing n with
  | zero => simp [bigEndian, ofBigEndian, span, Nat.mod_one]
  | succ width ih =>
    have hd : (UInt8.ofNat (n % 256)).toNat = n % 256 := by
      simp
    have hi : (bigEndian width (n / 256)).foldl (fun n d => n * 256 + d.toNat) 0
        = n / 256 % span width := ih (n / 256)
    simp only [bigEndian, ofBigEndian, List.foldl_append, List.foldl_cons, List.foldl_nil, hi, hd]
    rw [span, Nat.mod_mul, Nat.mul_comm, Nat.add_comm]

/-- A signed 32-bit number as four octets. -/
def ofInt32 (v : Int32) : Bytes := bigEndian 4 v.toUInt32.toNat

/-- The signed 32-bit number written in exactly four octets. -/
def toInt32? (b : Bytes) : Option Int32 :=
  if b.length = 4 then some (UInt32.ofNat (ofBigEndian b)).toInt32 else none

/-- A signed 64-bit number as eight octets. -/
def ofInt64 (v : Int64) : Bytes := bigEndian 8 v.toUInt64.toNat

/-- The signed 64-bit number written in exactly eight octets. -/
def toInt64? (b : Bytes) : Option Int64 :=
  if b.length = 8 then some (UInt64.ofNat (ofBigEndian b)).toInt64 else none

theorem toInt32?_ofInt32 (v : Int32) : toInt32? (ofInt32 v) = some v := by
  have h : v.toUInt32.toNat % span 4 = v.toUInt32.toNat :=
    Nat.mod_eq_of_lt v.toUInt32.toNat_lt
  rw [ofInt32, toInt32?, if_pos (length_bigEndian 4 _), ofBigEndian_bigEndian, h,
    UInt32.ofNat_toNat, Int32.toInt32_toUInt32]

theorem toInt64?_ofInt64 (v : Int64) : toInt64? (ofInt64 v) = some v := by
  have h : v.toUInt64.toNat % span 8 = v.toUInt64.toNat :=
    Nat.mod_eq_of_lt v.toUInt64.toNat_lt
  rw [ofInt64, toInt64?, if_pos (length_bigEndian 8 _), ofBigEndian_bigEndian, h,
    UInt64.ofNat_toNat, Int64.toInt64_toUInt64]

/-! ## §3. Hexadecimal text. -/

/-- One hexadecimal digit, in lower case. -/
def hexDigit (n : Nat) : Char := Nat.digitChar n

/-- Two lower-case hexadecimal digits per octet. -/
def toHex (b : Bytes) : String :=
  String.ofList (b.flatMap fun d => [hexDigit (d.toNat / 16), hexDigit (d.toNat % 16)])

/-- The value of a hexadecimal digit of either case. -/
def hexValue? (c : Char) : Option Nat :=
  if '0' ≤ c ∧ c ≤ '9' then some (c.toNat - '0'.toNat)
  else if 'a' ≤ c ∧ c ≤ 'f' then some (c.toNat - 'a'.toNat + 10)
  else if 'A' ≤ c ∧ c ≤ 'F' then some (c.toNat - 'A'.toNat + 10)
  else none

/-- The octets that an even number of hexadecimal digits spells. -/
def ofHex? (s : String) : Option Bytes := go s.toList
where
  go : List Char → Option Bytes
    | [] => some []
    | [_] => none
    | a :: b :: rest => do
        let hi ← hexValue? a
        let lo ← hexValue? b
        let tail ← go rest
        return UInt8.ofNat (hi * 16 + lo) :: tail

end Bytes

end Redelivery
