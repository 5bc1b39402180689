import Mathlib.Data.List.Basic

/-!
# Blocks that are filled at the end and emptied at the front

A block of fixed size and how much of it is in use. `append` writes behind what is in
use, `discard` moves the rest to the front, `clear` drops it all; what these do to the
content is all a user of the block needs.
-/

namespace SocketMessage.Lib

universe u

/-- A block of memory whose first `used` cells are in use. -/
structure FixedBuffer (α : Type u) (capacity : Nat) where
  memory : List α
  used : Nat
  sized : memory.length = capacity
  inside : used ≤ capacity

namespace FixedBuffer

variable {α : Type u} {capacity : Nat}

/-- A block of which nothing is in use yet. -/
def fresh (memory : List α) (sized : memory.length = capacity) : FixedBuffer α capacity :=
  ⟨memory, 0, sized, Nat.zero_le _⟩

/-- What is in use. -/
def content (buffer : FixedBuffer α capacity) : List α := buffer.memory.take buffer.used

@[simp] theorem length_content (buffer : FixedBuffer α capacity) :
    buffer.content.length = buffer.used := by
  rw [content, List.length_take, buffer.sized]
  exact Nat.min_eq_left buffer.inside

/-- The content is empty exactly when nothing is in use. -/
theorem content_eq_nil_iff (buffer : FixedBuffer α capacity) :
    buffer.content = [] ↔ buffer.used = 0 := by
  rw [← List.length_eq_zero_iff, length_content]

/-- Copy behind the content. -/
def append (buffer : FixedBuffer α capacity) (chunk : List α)
    (fits : buffer.used + chunk.length ≤ capacity) : FixedBuffer α capacity where
  memory := buffer.memory.take buffer.used ++ chunk ++ buffer.memory.drop (buffer.used + chunk.length)
  used := buffer.used + chunk.length
  sized := by
    have bound := buffer.inside
    have size := buffer.sized
    simp only [List.length_append, List.length_take, List.length_drop]
    omega
  inside := fits

@[simp] theorem content_append (buffer : FixedBuffer α capacity) (chunk : List α)
    (fits : buffer.used + chunk.length ≤ capacity) :
    (buffer.append chunk fits).content = buffer.content ++ chunk := by
  have size : buffer.used + chunk.length = (buffer.memory.take buffer.used ++ chunk).length := by
    rw [List.length_append, ← content, length_content]
  simp only [content, append]
  rw [size]
  exact List.take_left' rfl

/-- Move what is behind the first so many cells to the front. -/
def discard (buffer : FixedBuffer α capacity) (count : Nat) (held : count ≤ buffer.used) :
    FixedBuffer α capacity where
  memory := (buffer.memory.drop count).take (buffer.used - count) ++
    buffer.memory.drop (buffer.used - count)
  used := buffer.used - count
  sized := by
    have bound := buffer.inside
    have size := buffer.sized
    simp only [List.length_append, List.length_take, List.length_drop]
    omega
  inside := by
    have bound := buffer.inside
    omega

@[simp] theorem content_discard (buffer : FixedBuffer α capacity) (count : Nat)
    (held : count ≤ buffer.used) :
    (buffer.discard count held).content = buffer.content.drop count := by
  have size : buffer.used - count =
      ((buffer.memory.drop count).take (buffer.used - count)).length := by
    have bound := buffer.inside
    have whole := buffer.sized
    simp only [List.length_take, List.length_drop]
    omega
  simp only [content, discard]
  rw [List.take_left' size.symm, List.drop_take]

/-- Forget the content. -/
def clear (buffer : FixedBuffer α capacity) : FixedBuffer α capacity :=
  { buffer with used := 0, inside := Nat.zero_le _ }

@[simp] theorem content_clear (buffer : FixedBuffer α capacity) : buffer.clear.content = [] := rfl

end FixedBuffer

end SocketMessage.Lib
