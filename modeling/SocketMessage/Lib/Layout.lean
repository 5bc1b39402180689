import Mathlib.Data.List.Count
import SocketMessage.Lib.Sequence

/-!
# Exact layouts

What an encoder owes its reader beyond the bytes themselves: every place of the block
written once (`WritesOnce`), each element found from the size of the one before it
(`hop`), and encodings that tell where they end (`SelfDelimiting`).
-/

namespace SocketMessage.Lib

/-! ## Writing every byte once -/

/-- A copy writes the byte at a place. -/
def Copy.Covers (copy : Copy) (place : Int) : Prop :=
  copy.offset ≤ place ∧ place < copy.offset + copy.bytes.length

instance (copy : Copy) (place : Int) : Decidable (copy.Covers place) :=
  inferInstanceAs (Decidable (_ ∧ _))

/-- Each byte of a block of this size is written by one copy, and no other place is. -/
def WritesOnce (size : Int) (copies : List Copy) : Prop :=
  ∀ place, copies.countP (fun copy => copy.Covers place) =
    if 0 ≤ place ∧ place < size then 1 else 0

/-- Contiguous copies write the places from their start on, each one once. -/
theorem countP_covers_contiguous {offset : Int} {copies : List Copy}
    (contiguous : Contiguous offset copies) (place : Int) :
    copies.countP (fun copy => copy.Covers place) =
      if offset ≤ place ∧ place < offset + (copies.flatMap Copy.bytes).length then 1 else 0 := by
  induction copies generalizing offset with
  | nil => simp
  | cons copy rest inductionHypothesis =>
      obtain ⟨start, contiguousRest⟩ := contiguous
      have others := inductionHypothesis contiguousRest
      rw [List.countP_cons, others]
      simp only [Copy.Covers, start, List.flatMap_cons, List.length_append, Int.natCast_add,
        decide_eq_true_eq]
      split <;> split <;> split <;> omega

/-- Contiguous copies of the right total size write the block exactly. -/
theorem writesOnce_of_contiguous {size : Int} {copies : List Copy} (contiguous : Contiguous 0 copies)
    (exact_size : size = (copies.flatMap Copy.bytes).length) : WritesOnce size copies := by
  intro place
  rw [countP_covers_contiguous contiguous place, exact_size, Int.zero_add]

/-! ## Hopping from element to element -/

/-- Hop over some elements: at each place ask how long the element is, take it, go on
behind it. The elements, and where the next one would be. -/
def hop (stride : List Byte → Int → Option Nat) (data : List Byte) :
    Nat → Int → Option (List (List Byte) × Int)
  | 0, offset => some ([], offset)
  | count + 1, offset => do
      let length ← stride data offset
      let element ← readBytes data offset length
      let (rest, final) ← hop stride data count (offset + length)
      return (element.1 :: rest, final)

/-- When the stride at each element is its own length, hopping finds the elements and
ends behind the last one. -/
theorem hop_flatMap {α : Type} {stride : List Byte → Int → Option Nat} {image : α → List Byte}
    {elements : List α} {before after : List Byte}
    (strides : ∀ element ∈ elements, ∀ before after : List Byte,
      stride (before ++ (image element ++ after)) before.length = some (image element).length) :
    hop stride (before ++ (elements.flatMap image ++ after)) elements.length before.length =
      some (elements.map image, (before.length : Int) + (elements.flatMap image).length) := by
  induction elements generalizing before with
  | nil => simp [hop]
  | cons element rest inductionHypothesis =>
      have found := strides element List.mem_cons_self before (rest.flatMap image ++ after)
      have taken := @readBytes_append _ before ⟨image element, rfl⟩ (rest.flatMap image ++ after)
      have others := @inductionHypothesis (before ++ image element)
        fun other member => strides other (List.mem_cons_of_mem _ member)
      simp only [List.length_append, Int.natCast_add, List.append_assoc] at others
      simp only [List.flatMap_cons, List.append_assoc, List.length_cons, hop, found, taken, others,
        Option.bind_eq_bind, Option.bind_some, Option.pure_def, List.map_cons, List.length_append,
        Int.natCast_add, Int.add_assoc]

/-! ## Encodings that tell where they end -/

/-- Whatever follows, the bytes of one valid value are not the beginning of another
one's. -/
def SelfDelimiting {α : Type} (valid : α → Prop) (image : α → List Byte) : Prop :=
  ∀ left right, valid left → valid right → ∀ leftRest rightRest,
    image left ++ leftRest = image right ++ rightRest → left = right

namespace SelfDelimiting

variable {α : Type} {valid : α → Prop} {image : α → List Byte}

/-- The bytes alone determine the value. -/
theorem injective (delimiting : SelfDelimiting valid image) {left right : α}
    (leftValid : valid left) (rightValid : valid right) (same : image left = image right) :
    left = right :=
  delimiting left right leftValid rightValid [] [] (by rw [same])

/-- Sequences of one length are determined by the concatenated bytes. -/
theorem flatMap (delimiting : SelfDelimiting valid image) {left right : List α}
    (leftValid : ∀ element ∈ left, valid element) (rightValid : ∀ element ∈ right, valid element)
    (sameLength : left.length = right.length) {leftRest rightRest : List Byte}
    (same : left.flatMap image ++ leftRest = right.flatMap image ++ rightRest) : left = right := by
  induction left generalizing right with
  | nil => exact (List.eq_nil_of_length_eq_zero sameLength.symm).symm
  | cons element others inductionHypothesis =>
      cases right with
      | nil => cases sameLength
      | cons element' others' =>
          simp only [List.flatMap_cons, List.append_assoc] at same
          obtain rfl := delimiting element element' (leftValid element List.mem_cons_self)
            (rightValid element' List.mem_cons_self) _ _ same
          have sameOthers := inductionHypothesis
            (fun other member => leftValid other (List.mem_cons_of_mem _ member))
            (fun other member => rightValid other (List.mem_cons_of_mem _ member))
            (Nat.succ.inj sameLength) (List.append_cancel_left same)
          rw [sameOthers]

end SelfDelimiting

/-- Values of one size that can be read back from their bytes are self-delimiting. -/
theorem selfDelimiting_of_sized {α : Type} {size : Nat} {image : α → SizedBytes size}
    (readable : Function.Injective image) :
    SelfDelimiting (fun _ => True) fun value => (image value).1 := by
  intro left right _ _ leftRest rightRest same
  have sameLength : (image left).1.length = (image right).1.length := by simp
  exact readable (Subtype.ext (List.append_inj same sameLength).1)

/-- What a count or length stored in an `int` says, as long as it fits. -/
theorem encodeInt_ofNat_inj {left right : Nat} (leftBounded : left < 2 ^ 32)
    (rightBounded : right < 2 ^ 32)
    (same : (encodeInt (BitVec.ofNat 32 left)).1 = (encodeInt (BitVec.ofNat 32 right)).1) :
    left = right := by
  have sameInt := congrArg decodeInt (Subtype.ext same)
  rw [decodeInt_encodeInt, decodeInt_encodeInt] at sameInt
  have sameNat := congrArg BitVec.toNat sameInt
  rwa [BitVec.toNat_ofNat, BitVec.toNat_ofNat, Nat.mod_eq_of_lt leftBounded,
    Nat.mod_eq_of_lt rightBounded] at sameNat

end SocketMessage.Lib
