import SocketMessage.Lib.Printf

/-!
# Numbers read by `std::stoi`

`std::stoi` skips blanks, takes a sign and as many digits as there are, and throws when
there is no digit or when the number is no `int`. What `%d` writes is read back; an empty
text is not a number. `at` of a vector throws beyond its end.
-/

namespace SocketMessage.Lib

/-- An exception of the standard library. -/
inductive StdException where
  | invalidArgument
  | outOfRange
deriving DecidableEq, Repr

/-- A blank in the C locale. -/
def isBlank (byte : Byte) : Bool := byte = 32 || (9 ≤ byte.toNat && byte.toNat ≤ 13)

/-- A decimal digit. -/
def isDigit (byte : Byte) : Bool := 48 ≤ byte.toNat && byte.toNat ≤ 57

/-- The number that digits stand for. -/
def digitsValue (digits : List Byte) : Nat :=
  digits.foldl (fun value digit => 10 * value + (digit.toNat - 48)) 0

/-- The sign and what follows it. -/
def splitSign : List Byte → Bool × List Byte
  | byte :: rest => if byte = 45 then (true, rest) else if byte = 43 then (false, rest)
      else (false, byte :: rest)
  | [] => (false, [])

/-- `std::stoi`. -/
def stoi (text : List Byte) : Except StdException CInt :=
  let (negative, text) := splitSign (text.dropWhile isBlank)
  let digits := text.takeWhile isDigit
  if digits = [] then .error .invalidArgument
  else
    let value : Int := if negative then -(digitsValue digits : Int) else digitsValue digits
    if -2 ^ 31 ≤ value ∧ value < 2 ^ 31 then .ok (BitVec.ofInt 32 value)
    else .error .outOfRange

/-- `at` of a vector. -/
def elementAt {α : Type} (elements : List α) (index : Nat) : Except StdException α :=
  match elements[index]? with
  | some element => .ok element
  | none => .error .outOfRange

/-- An empty text makes `std::stoi` throw. -/
theorem stoi_nil : stoi [] = .error .invalidArgument := rfl

/-- The byte of a digit. -/
theorem toNat_ascii_of_isDigit {char : Char} (digit : char.isDigit) :
    (ascii char).toNat = char.toNat ∧ 48 ≤ char.toNat ∧ char.toNat ≤ 57 := by
  have bounds : 48 ≤ char.toNat ∧ char.toNat ≤ 57 := by
    simpa [Char.isDigit, UInt32.le_iff_toNat_le] using digit
  refine ⟨?_, bounds⟩
  rw [ascii, BitVec.toNat_ofNat]
  omega

/-- Digits stand for the number whose digits they are. -/
theorem digitsValue_toDigits (value : Nat) :
    digitsValue ((Nat.toDigits 10 value).map ascii) = value := by
  have same : ∀ (chars : List Char) (start : Nat), (∀ char ∈ chars, char.isDigit) →
      (chars.map ascii).foldl (fun value digit => 10 * value + (digit.toNat - 48)) start =
        Nat.ofDigitChars 10 chars start := by
    intro chars
    induction chars with
    | nil => intro start _; rfl
    | cons char rest ih =>
      intro start digits
      obtain ⟨digit, others⟩ := List.forall_mem_cons.mp digits
      rw [List.map_cons, List.foldl_cons, Nat.ofDigitChars_cons, ih _ others,
        (toNat_ascii_of_isDigit digit).1]
      rfl
  have digits : ∀ char ∈ Nat.toDigits 10 value, char.isDigit := fun char member =>
    Nat.isDigit_of_mem_toDigits (by decide) (by decide) member
  rw [digitsValue, same _ 0 digits, Nat.ofDigitChars_ten_toDigits]

/-- Where the digits are split off, they are all taken. -/
theorem takeWhile_toDigits (value : Nat) :
    ((Nat.toDigits 10 value).map ascii).takeWhile isDigit = (Nat.toDigits 10 value).map ascii := by
  rw [List.takeWhile_eq_self_iff]
  intro byte member
  obtain ⟨char, inside, rfl⟩ := List.mem_map.mp member
  obtain ⟨same, lower, upper⟩ := toNat_ascii_of_isDigit
    (Nat.isDigit_of_mem_toDigits (by decide) (by decide) inside)
  simp [isDigit, same, lower, upper]

/-- A number does not start with a blank or a sign. -/
theorem splitSign_toDigits (value : Nat) :
    splitSign (((Nat.toDigits 10 value).map ascii).dropWhile isBlank) =
      (false, (Nat.toDigits 10 value).map ascii) := by
  obtain ⟨char, rest, digits⟩ := List.exists_cons_of_ne_nil (@Nat.toDigits_ne_nil value 10)
  have digit : char.isDigit := Nat.isDigit_of_mem_toDigits (by decide) (by decide)
    (digits ▸ List.mem_cons_self)
  obtain ⟨same, lower, upper⟩ := toNat_ascii_of_isDigit digit
  have different : ∀ byte : Byte, byte.toNat < 48 → ascii char ≠ byte := by
    rintro _ small rfl
    omega
  have notSpace : ascii char ≠ 32#8 := different 32 (by decide)
  have notBlank : isBlank (ascii char) = false := by
    simp [isBlank, notSpace, same]
    omega
  rw [digits, List.map_cons, List.dropWhile_cons_of_neg (by simp [notBlank]), splitSign,
    if_neg (different 45 (by decide)), if_neg (different 43 (by decide))]

/-- What `%d` writes is a sign and digits. -/
theorem decimal_eq (value : CInt) :
    decimal value =
      if 0 ≤ value.toInt then (Nat.toDigits 10 value.toInt.toNat).map ascii
      else 45 :: (Nat.toDigits 10 (-value.toInt).toNat).map ascii := by
  rw [decimal, Int.toString_eq_repr, Int.repr_eq_if]
  split
  · rw [Nat.toList_repr]
  · rw [String.toList_append, List.map_append, Nat.toList_repr]
    rfl

/-- A NUL is not among it. -/
theorem zero_notMem_decimal (value : CInt) : 0 ∉ decimal value := by
  have digits : ∀ number, 0 ∉ (Nat.toDigits 10 number).map ascii := by
    intro number member
    obtain ⟨char, inside, nul⟩ := List.mem_map.mp member
    obtain ⟨same, lower, _⟩ := toNat_ascii_of_isDigit
      (Nat.isDigit_of_mem_toDigits (by decide) (by decide) inside)
    rw [nul] at same
    have zero : (0 : Byte).toNat = 0 := rfl
    omega
  rw [decimal_eq]
  split
  · exact digits _
  · exact fun member => digits _ ((List.mem_cons.mp member).resolve_left (by decide))

/-- What `%d` writes is read back. -/
theorem stoi_decimal (value : CInt) : stoi (decimal value) = .ok value := by
  have lower := BitVec.le_toInt value
  have upper := @BitVec.toInt_lt _ value
  have written : ∀ number, (Nat.toDigits 10 number).map ascii ≠ [] := fun number empty =>
    Nat.toDigits_ne_nil (List.map_eq_nil_iff.mp empty)
  rw [decimal_eq]
  split
  · next nonnegative =>
    have whole : ((value.toInt.toNat : Nat) : Int) = value.toInt := Int.toNat_of_nonneg nonnegative
    simp only [stoi, splitSign_toDigits, takeWhile_toDigits, if_neg (written _),
      digitsValue_toDigits, whole, Bool.false_eq_true, if_false]
    rw [if_pos ⟨by omega, by omega⟩, BitVec.ofInt_toInt]
  · next negative =>
    have whole : -(((-value.toInt).toNat : Nat) : Int) = value.toInt := by omega
    have sign : splitSign ((45 :: (Nat.toDigits 10 (-value.toInt).toNat).map ascii).dropWhile
        isBlank) = (true, (Nat.toDigits 10 (-value.toInt).toNat).map ascii) := rfl
    simp only [stoi, sign, takeWhile_toDigits, if_neg (written _), digitsValue_toDigits,
      whole, if_true]
    rw [if_pos ⟨by omega, by omega⟩, BitVec.ofInt_toInt]

end SocketMessage.Lib
