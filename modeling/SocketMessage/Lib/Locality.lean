import SocketMessage.Lib.Bytes

/-!
# Which part of a block a read depends on

A block stands between other bytes. A read that stays in it finds what it finds in
the block alone; a string without a NUL in the block goes on behind it.
-/

namespace SocketMessage.Lib

variable {before block after : List Byte} {offset : Int}

/-- What stands from a place of the inner block on. -/
theorem drop_within (start : 0 ≤ offset) (inside : offset ≤ block.length) :
    (before ++ (block ++ after)).drop (before.length + offset).toNat =
      block.drop offset.toNat ++ after := by
  have place : (before.length + offset).toNat = before.length + offset.toNat := by omega
  have within : offset.toNat ≤ block.length := by omega
  rw [place, List.drop_append, List.drop_eq_nil_of_le (Nat.le_add_right _ _),
    Nat.add_sub_cancel_left, List.nil_append, List.drop_append_of_le_length within]

/-- A byte of the inner block. -/
theorem readByte_within (start : 0 ≤ offset) (inside : offset < block.length) :
    readByte (before ++ (block ++ after)) (before.length + offset) = readByte block offset := by
  have place : (before.length + offset).toNat = before.length + offset.toNat := by omega
  have within : offset.toNat < block.length := by omega
  rw [readByte, readByte, if_pos (by omega), if_pos start, place,
    List.getElem?_append_right (Nat.le_add_right _ _), Nat.add_sub_cancel_left,
    List.getElem?_append_left within]

/-- Bytes of the inner block. -/
theorem readBytes_within {count : Nat} (start : 0 ≤ offset)
    (inside : offset + count ≤ block.length) :
    readBytes (before ++ (block ++ after)) (before.length + offset) count =
      readBytes block offset count := by
  have outer : 0 ≤ before.length + offset ∧
      (before.length + offset).toNat + count ≤ (before ++ (block ++ after)).length := by
    simp only [List.length_append]
    omega
  have inner : 0 ≤ offset ∧ offset.toNat + count ≤ block.length := by omega
  rw [readBytes, readBytes, dif_pos outer, dif_pos inner]
  apply congrArg some
  apply Subtype.ext
  simp only [drop_within start (by omega : offset ≤ block.length)]
  exact List.take_append_of_le_length (by rw [List.length_drop]; omega)

/-- An `int` of the inner block. -/
theorem readInt_within (start : 0 ≤ offset) (inside : offset + 4 ≤ block.length) :
    readInt (before ++ (block ++ after)) (before.length + offset) = readInt block offset :=
  congrArg (Option.map decodeInt) (readBytes_within start inside)

/-- A string is what precedes the first NUL of what follows it. -/
theorem readCString_of_drop {data rest : List Byte} (start : 0 ≤ offset)
    (found : data.drop offset.toNat = rest) :
    readCString data offset = if 0 ∈ rest then some (rest.takeWhile (· ≠ 0)) else none := by
  simp [readCString, start, found]

/-- Behind a NUL nothing matters. -/
theorem takeWhile_append_of_mem {leading trailing : List Byte} (nul : 0 ∈ leading) :
    (leading ++ trailing).takeWhile (· ≠ 0) = leading.takeWhile (· ≠ 0) := by
  induction leading with
  | nil => cases nul
  | cons head tail inductionHypothesis =>
      rw [List.cons_append, List.takeWhile_cons, List.takeWhile_cons]
      by_cases zero : head = 0
      · simp [zero]
      · rw [inductionHypothesis ((List.mem_cons.mp nul).resolve_left fun same => zero same.symm)]

/-- A string that ends in the inner block. -/
theorem readCString_within (terminated : Terminated block offset) :
    readCString (before ++ (block ++ after)) (before.length + offset) =
      readCString block offset := by
  obtain ⟨start, nul⟩ := terminated
  have inside : offset ≤ block.length := by
    rw [← Int.toNat_of_nonneg start]
    by_contra beyond
    rw [List.drop_eq_nil_of_le (by omega)] at nul
    cases nul
  rw [readCString_of_drop (by omega) (drop_within start inside), readCString_of_drop start rfl,
    if_pos nul, if_pos (List.mem_append_left _ nul), takeWhile_append_of_mem nul]

/-- A string that does not end in the inner block goes on behind it. -/
theorem readCString_beyond (start : 0 ≤ offset) (inside : offset ≤ block.length)
    (unterminated : 0 ∉ block.drop offset.toNat) :
    readCString (before ++ (block ++ after)) (before.length + offset) =
      (readCString after 0).map (block.drop offset.toNat ++ ·) := by
  rw [readCString_of_drop (by omega) (drop_within start inside),
    readCString_of_drop (Int.le_refl 0) rfl]
  simp only [Int.toNat_zero, List.drop_zero, List.mem_append, unterminated, false_or]
  split
  · have plain := takeWhile_ne_zero unterminated
    rw [List.takeWhile_append, plain]
    simp
  · rfl

/-- A string behind a known part. -/
theorem readCString_behind (start : 0 ≤ offset) :
    readCString (before ++ after) (before.length + offset) = readCString after offset := by
  have place : (before.length + offset).toNat = before.length + offset.toNat := by omega
  rw [readCString_of_drop start rfl, readCString_of_drop (by omega) (by
    rw [place, List.drop_append, List.drop_eq_nil_of_le (Nat.le_add_right _ _),
      Nat.add_sub_cancel_left, List.nil_append])]

/-- The first byte of a string is the one that stands there, if any. -/
theorem head?_readCString {data text : List Byte} {byte : Byte}
    (read : readCString data offset = some text) (found : readByte data offset = some byte) :
    text.head? = if byte = 0 then none else some byte := by
  obtain ⟨start, nul⟩ := readCString_isSome_iff.mp (by rw [read]; rfl)
  rw [readByte, if_pos start] at found
  have inside : offset.toNat < data.length := (List.getElem?_eq_some_iff.mp found).1
  rw [readCString_of_drop start rfl, if_pos nul, List.drop_eq_getElem_cons inside] at read
  obtain rfl := Option.some.inj read
  rw [List.getElem?_eq_getElem inside, Option.some.injEq] at found
  rw [found, List.takeWhile_cons]
  by_cases zero : byte = 0
  · rw [if_neg (by simp [zero]), if_pos zero, List.head?_nil]
  · rw [if_pos (decide_eq_true zero), if_neg zero, List.head?_cons]

end SocketMessage.Lib
