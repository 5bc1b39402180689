import Mathlib.Data.List.Basic
import Mathlib.Data.List.TakeWhile
import Mathlib.Data.Int.Order.Basic
import Mathlib.Algebra.Group.Int.Defs
import Mathlib.Algebra.Group.Nat.Defs

/-!
# Bytes, machine integers and bounded reads

A block of memory is the list of its bytes. A read names an offset which need
not be valid: `none` is an access outside the block, so a reader that returns a
value touched nothing else.
-/

namespace SocketMessage.Lib

/-- One eight-bit cell of memory. Read as a `char` it is signed: `BitVec.toInt`. -/
abbrev Byte := BitVec 8

/-- A 32-bit two's-complement integer as it is stored. -/
abbrev CInt := BitVec 32

/-- What 32-bit arithmetic keeps of an exact result. -/
def int32 (value : Int) : Int := value.bmod (2 ^ 32)

/-- Results in range are exact. -/
theorem int32_eq_self {value : Int} (lower : -2 ^ 31 ≤ value) (upper : value < 2 ^ 31) :
    int32 value = value := by
  unfold int32
  apply Int.bmod_eq_of_le <;> omega

/-- A result one period above the range is kept as the value one period below. -/
theorem int32_eq_sub {value : Int} (lower : 2 ^ 31 ≤ value) (upper : value < 2 ^ 32 + 2 ^ 31) :
    int32 value = value - 2 ^ 32 := by
  have shifted : int32 value = int32 (value - 2 ^ 32) := by
    have cancel := Int.sub_mul_bmod_self_right value 1 (2 ^ 32)
    rw [Int.one_mul] at cancel
    exact cancel.symm
  rw [shifted]
  apply int32_eq_self <;> omega

/-- Storing a small size in an `int` loses nothing. -/
theorem toInt_ofNat_of_lt {value : Nat} (bounded : value < 2 ^ 31) :
    (BitVec.ofNat 32 value).toInt = value := by
  rw [BitVec.toInt_ofNat']
  apply Int.bmod_eq_of_le <;> omega

/-- A byte sequence of exactly `count` bytes. -/
abbrev SizedBytes (count : Nat) := {bytes : List Byte // bytes.length = count}

namespace SizedBytes

/-- Nothing but zeros. -/
def zeros (count : Nat) : SizedBytes count := ⟨List.replicate count 0, List.length_replicate⟩

/-- The length carried by every sized sequence. -/
@[simp] theorem length {count : Nat} (bytes : SizedBytes count) : bytes.1.length = count :=
  bytes.2

/-- Concatenation adds the sizes. -/
def append {first second : Nat} (left : SizedBytes first) (right : SizedBytes second) :
    SizedBytes (first + second) :=
  ⟨left.1 ++ right.1, by simp⟩

@[simp] theorem append_val {first second : Nat} (left : SizedBytes first)
    (right : SizedBytes second) : (left.append right).1 = left.1 ++ right.1 := rfl

/-- The leading part of a concatenation. -/
def left {first second : Nat} (bytes : SizedBytes (first + second)) : SizedBytes first :=
  ⟨bytes.1.take first, by simp⟩

/-- The trailing part of a concatenation. -/
def right {first second : Nat} (bytes : SizedBytes (first + second)) : SizedBytes second :=
  ⟨bytes.1.drop first, by simp⟩

@[simp] theorem left_append {first second : Nat} (leading : SizedBytes first)
    (trailing : SizedBytes second) : (leading.append trailing).left = leading :=
  Subtype.ext (List.take_left' leading.2)

@[simp] theorem right_append {first second : Nat} (leading : SizedBytes first)
    (trailing : SizedBytes second) : (leading.append trailing).right = trailing :=
  Subtype.ext (List.drop_left' leading.2)

/-- Replace the leading `written` bytes. -/
def overwrite {count written : Nat} (bytes : SizedBytes count) (source : SizedBytes written)
    (inside : written ≤ count) : SizedBytes count :=
  ⟨source.1 ++ bytes.1.drop written, by
    rw [List.length_append, List.length_drop, source.2, bytes.2]
    omega⟩

@[simp] theorem overwrite_val {count written : Nat} (bytes : SizedBytes count)
    (source : SizedBytes written) (inside : written ≤ count) :
    (bytes.overwrite source inside).1 = source.1 ++ bytes.1.drop written := rfl

/-- Replacing everything leaves nothing of what was there. -/
@[simp] theorem overwrite_all {count : Nat} (bytes source : SizedBytes count)
    (inside : count ≤ count) : bytes.overwrite source inside = source := by
  apply Subtype.ext
  simp [overwrite, List.drop_eq_nil_of_le (Nat.le_of_eq bytes.2)]

end SizedBytes

/-- The four bytes of an `int`, least significant first. -/
def encodeInt (value : CInt) : SizedBytes 4 :=
  ⟨[value.extractLsb' 0 8, value.extractLsb' 8 8, value.extractLsb' 16 8, value.extractLsb' 24 8],
    rfl⟩

/-- The `int` stored in four bytes. -/
def decodeInt (bytes : SizedBytes 4) : CInt :=
  bytes.1.getD 3 0 ++ bytes.1.getD 2 0 ++ bytes.1.getD 1 0 ++ bytes.1.getD 0 0

/-- An `int` survives being stored and loaded. -/
@[simp] theorem decodeInt_encodeInt (value : CInt) : decodeInt (encodeInt value) = value := by
  apply BitVec.eq_of_getLsbD_eq
  intro index bound
  simp only [decodeInt, encodeInt, List.getD_cons_zero, List.getD_cons_succ,
    BitVec.getLsbD_append, BitVec.getLsbD_extractLsb']
  by_cases first : index < 8
  · simp [first]
  by_cases second : index - 8 < 8
  · have position : 8 + (index - 8) = index := by omega
    simp [first, second, position]
  by_cases third : index - 8 - 8 < 8
  · have position : 16 + (index - 8 - 8) = index := by omega
    simp [first, second, third, position]
  · have fourth : index - 8 - 8 - 8 < 8 := by omega
    have position : 24 + (index - 8 - 8 - 8) = index := by omega
    simp [first, second, third, fourth, position]

/-- The low byte of a small non-negative `int`. -/
theorem encodeInt_low_byte (value : Nat) :
    (encodeInt (BitVec.ofNat 32 value)).1.getD 0 0 = BitVec.ofNat 8 value := by
  apply BitVec.eq_of_toNat_eq
  simp [encodeInt, BitVec.extractLsb'_toNat]

/-- Copy `count` bytes out of a block. -/
def readBytes (data : List Byte) (offset : Int) (count : Nat) : Option (SizedBytes count) :=
  if inside : 0 ≤ offset ∧ offset.toNat + count ≤ data.length then
    some ⟨(data.drop offset.toNat).take count, by
      rw [List.length_take, List.length_drop]
      omega⟩
  else none

/-- Read one byte of a block. -/
def readByte (data : List Byte) (offset : Int) : Option Byte :=
  if 0 ≤ offset then data[offset.toNat]? else none

/-- Load an `int` from a block. -/
def readInt (data : List Byte) (offset : Int) : Option CInt :=
  (readBytes data offset 4).map decodeInt

/-- The bytes from an offset up to the first NUL, which must lie in the block. -/
def readCString (data : List Byte) (offset : Int) : Option (List Byte) :=
  if 0 ≤ offset ∧ 0 ∈ data.drop offset.toNat then
    some ((data.drop offset.toNat).takeWhile (· ≠ 0))
  else none

/-- A NUL follows the offset inside the block. -/
def Terminated (data : List Byte) (offset : Int) : Prop :=
  0 ≤ offset ∧ 0 ∈ data.drop offset.toNat

instance (data : List Byte) (offset : Int) : Decidable (Terminated data offset) :=
  inferInstanceAs (Decidable (_ ∧ _))

/-- A copy succeeds exactly on a range inside the block. -/
theorem readBytes_isSome_iff {data : List Byte} {offset : Int} {count : Nat} :
    (readBytes data offset count).isSome ↔ 0 ≤ offset ∧ offset + count ≤ data.length := by
  unfold readBytes
  split
  · simp only [Option.isSome_some, true_iff]
    omega
  · simp only [Option.isSome_none, Bool.false_eq_true, false_iff]
    omega

/-- What a successful copy delivers. -/
theorem readBytes_eq_some {data : List Byte} {offset : Int} {count : Nat} {bytes : SizedBytes count}
    (read : readBytes data offset count = some bytes) :
    0 ≤ offset ∧ offset + count ≤ data.length ∧
      bytes.1 = (data.drop offset.toNat).take count := by
  unfold readBytes at read
  split at read
  · obtain rfl := Option.some.inj read
    refine ⟨?_, ?_, rfl⟩ <;> omega
  · cases read

/-- Copying out what stands between two known parts. -/
theorem readBytes_append {count : Nat} (before : List Byte) (bytes : SizedBytes count)
    (after : List Byte) :
    readBytes (before ++ (bytes.1 ++ after)) before.length count = some bytes := by
  have inside : 0 ≤ (before.length : Int) ∧
      (before.length : Int).toNat + count ≤ (before ++ (bytes.1 ++ after)).length := by
    simp only [List.length_append, SizedBytes.length]
    omega
  unfold readBytes
  rw [dif_pos inside]
  apply congrArg some
  apply Subtype.ext
  simp [List.take_append_of_le_length (Nat.le_of_eq bytes.2.symm),
    List.take_of_length_le (Nat.le_of_eq bytes.2)]

/-- Loading an `int` that stands between two known parts. -/
theorem readInt_append (before : List Byte) (value : CInt) (after : List Byte) :
    readInt (before ++ ((encodeInt value).1 ++ after)) before.length = some value := by
  simp [readInt, readBytes_append]

/-- An `int` can be loaded exactly where four bytes stand. -/
theorem readInt_isSome_iff {data : List Byte} {offset : Int} :
    (readInt data offset).isSome ↔ 0 ≤ offset ∧ offset + 4 ≤ data.length := by
  rw [readInt, Option.isSome_map, readBytes_isSome_iff]
  simp

/-- One byte can be read exactly inside the block. -/
theorem readByte_isSome_iff {data : List Byte} {offset : Int} :
    (readByte data offset).isSome ↔ 0 ≤ offset ∧ offset < data.length := by
  unfold readByte
  split
  · simp only [isSome_getElem?, true_and, *]
    omega
  · simp only [Option.isSome_none, Bool.false_eq_true, false_iff]
    omega

/-- Reading the first byte after a known part. -/
theorem readByte_append (before : List Byte) (byte : Byte) (after : List Byte) :
    readByte (before ++ byte :: after) before.length = some byte := by
  simp [readByte]

/-- A C string can be read exactly where one is terminated inside the block. -/
theorem readCString_isSome_iff {data : List Byte} {offset : Int} :
    (readCString data offset).isSome ↔ Terminated data offset := by
  unfold readCString Terminated
  by_cases terminated : 0 ≤ offset ∧ 0 ∈ data.drop offset.toNat
  · exact ⟨fun _ => terminated, fun _ => by rw [if_pos terminated]; rfl⟩
  · rw [if_neg terminated]
    exact ⟨fun read => absurd read (by simp), fun present => absurd present terminated⟩

/-- The string is part of the block. -/
theorem length_readCString_le {data text : List Byte} {offset : Int}
    (read : readCString data offset = some text) : text.length ≤ data.length := by
  unfold readCString at read
  split at read
  · obtain rfl := Option.some.inj read
    have first := (@List.takeWhile_prefix _ (data.drop offset.toNat) (· ≠ 0)).length_le
    rw [List.length_drop] at first
    omega
  · cases read

/-- The C string that starts after a known part: what stands there up to its
first NUL. -/
theorem readCString_append (before text after : List Byte) :
    readCString (before ++ (text ++ 0 :: after)) before.length =
      some (text.takeWhile (· ≠ 0)) := by
  have terminated : 0 ≤ (before.length : Int) ∧
      0 ∈ (before ++ (text ++ 0 :: after)).drop (before.length : Int).toNat := by
    simp
  unfold readCString
  rw [if_pos terminated]
  simp only [Int.toNat_natCast, List.drop_left, Option.some.injEq]
  induction text with
  | nil => simp
  | cons head tail inductionHypothesis =>
      rw [List.cons_append, List.takeWhile_cons, List.takeWhile_cons,
        inductionHypothesis (by simp)]

/-- Text without a NUL is its own C string. -/
theorem takeWhile_ne_zero {text : List Byte} (noNul : 0 ∉ text) :
    text.takeWhile (· ≠ 0) = text := by
  rw [List.takeWhile_eq_self_iff]
  intro byte member
  simp only [ne_eq, decide_not, Bool.not_eq_eq_eq_not, Bool.not_true, decide_eq_false_iff_not]
  rintro rfl
  exact noNul member

end SocketMessage.Lib
