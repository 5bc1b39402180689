import SocketMessage.Lib.Bytes

/-!
# Text written by `sprintf`

The conversions `%d` and `%s`, and how long what they write can get. `sprintf` does not
know the size of the buffer it writes to.
-/

namespace SocketMessage.Lib

/-- An argument: an `int` for `%d`, a C string for `%s`. -/
inductive PrintfArg where
  | d (value : CInt)
  | s (text : List Byte)
deriving DecidableEq, Repr

/-- The byte of an ASCII character. -/
def ascii (char : Char) : Byte := BitVec.ofNat 8 char.toNat

/-- What `%d` writes. -/
def decimal (value : CInt) : List Byte := (toString value.toInt).toList.map ascii

/-- What a format and its arguments write, without the NUL. -/
def sprintf : List Char → List PrintfArg → List Byte
  | '%' :: 'd' :: format, .d value :: args => decimal value ++ sprintf format args
  | '%' :: 's' :: format, .s text :: args => text ++ sprintf format args
  | char :: format, args => ascii char :: sprintf format args
  | [], _ => []

/-- The conversions of a format. -/
def conversions : List Char → List Char
  | '%' :: 'd' :: format => 'd' :: conversions format
  | '%' :: 's' :: format => 's' :: conversions format
  | _ :: format => conversions format
  | [] => []

/-- How many characters of a format are not part of a conversion. -/
def literals : List Char → Nat
  | '%' :: 'd' :: format => literals format
  | '%' :: 's' :: format => literals format
  | _ :: format => literals format + 1
  | [] => 0

/-- A format has these conversions, and so many characters of its own. -/
def Shape (format expected : List Char) (own : Nat) : Prop :=
  conversions format = expected ∧ literals format = own

instance (format expected : List Char) (own : Nat) : Decidable (Shape format expected own) :=
  inferInstanceAs (Decidable (_ ∧ _))

/-- What is known of a format's characters is known of the format as it is written. -/
theorem Shape.ofLiteral {chars expected : List Char} {own : Nat}
    (shape : Shape chars expected own) : Shape (String.ofList chars).toList expected own := by
  rwa [String.toList_ofList]

/-- The conversion an argument is for. -/
def PrintfArg.conversion : PrintfArg → Char
  | .d _ => 'd'
  | .s _ => 's'

/-- How many characters the arguments take. -/
def widths : List PrintfArg → Nat
  | .d value :: args => (decimal value).length + widths args
  | .s text :: args => text.length + widths args
  | [] => 0

/-- A `char` array of this size, and the text `sprintf` writes there. -/
structure Printed where
  size : Nat
  text : List Byte
deriving DecidableEq, Repr

/-- The text and its NUL stay in the array. -/
def Printed.Fits (self : Printed) : Prop := self.text.length + 1 ≤ self.size

instance (self : Printed) : Decidable self.Fits := inferInstanceAs (Decidable (_ ≤ _))

/-- A number that is not negative takes at most ten digits. -/
theorem length_decimal_le_ten {value : CInt} (nonnegative : 0 ≤ value.toInt) :
    (decimal value).length ≤ 10 := by
  have upper := @BitVec.toInt_lt _ value
  rw [decimal, List.length_map, Int.toString_eq_repr, Int.repr_eq_if, if_pos nonnegative,
    String.length_toList, Nat.length_repr_le_iff (by decide)]
  omega

/-- Any number takes at most eleven characters. -/
theorem length_decimal_le (value : CInt) : (decimal value).length ≤ 11 := by
  by_cases nonnegative : 0 ≤ value.toInt
  · exact Nat.le_succ_of_le (length_decimal_le_ten nonnegative)
  · have lower := BitVec.le_toInt value
    have digits : (-value.toInt).toNat.repr.length ≤ 10 := by
      rw [Nat.length_repr_le_iff (by decide)]
      omega
    rw [decimal, List.length_map, Int.toString_eq_repr, Int.repr_eq_if, if_neg nonnegative,
      String.length_toList, String.length_append]
    have sign : "-".length = 1 := rfl
    omega

/-- With an argument for each conversion, the text is as long as the format's own characters
and the arguments together. -/
theorem length_sprintf {format : List Char} {args : List PrintfArg} {own : Nat}
    (shape : Shape format (args.map PrintfArg.conversion) own) :
    (sprintf format args).length = own + widths args := by
  obtain ⟨matched, rfl⟩ := shape
  fun_induction sprintf format args with
  | case1 format value args ih =>
    simp only [conversions, List.map_cons, List.cons.injEq] at matched
    simp only [literals, List.length_append, ih matched.2, widths]
    omega
  | case2 format text args ih =>
    simp only [conversions, List.map_cons, List.cons.injEq] at matched
    simp only [literals, List.length_append, ih matched.2, widths]
    omega
  | case3 char format args notNumber notText ih =>
    -- Such a character is not part of a conversion: its argument would have been printed.
    have plainNumber : ∀ tail, char = '%' → format = 'd' :: tail → False := by
      rintro tail rfl rfl
      obtain ⟨arg, rest, rfl, number, -⟩ := List.map_eq_cons_iff.mp matched.symm
      cases arg with
      | d value => exact notNumber _ _ _ rfl rfl rfl
      | s text => cases number
    have plainText : ∀ tail, char = '%' → format = 's' :: tail → False := by
      rintro tail rfl rfl
      obtain ⟨arg, rest, rfl, text, -⟩ := List.map_eq_cons_iff.mp matched.symm
      cases arg with
      | d value => cases text
      | s text => exact notText _ _ _ rfl rfl rfl
    rw [conversions.eq_3 _ _ plainNumber plainText] at matched
    rw [List.length_cons, literals.eq_3 _ _ plainNumber plainText, ih matched]
    omega
  | case4 args =>
    cases args with
    | nil => rfl
    | cons arg args => cases matched

end SocketMessage.Lib
