import Mathlib.Data.List.Range
import SocketMessage.Memory.MemoryPool

/-!
# Arenas

Where blocks lie and what their heads say, and that the constructor leaves an arena cut into
blocks that way, the first pointing to the second and so on to the last.
-/

namespace SocketMessage.Memory

open SocketMessage.Lib

/-! ## Where blocks lie -/

/-- The blocks lie apart, not at the null address and within the address space, and the head
of each says whose it is and whether it is of an arena. -/
structure LaidOut (memory : ByteMemory) (blocks : Set Block) : Prop where
  apart : ∀ left ∈ blocks, ∀ right ∈ blocks, left ≠ right → left.Apart right
  notNull : ∀ block ∈ blocks, block.address ≠ 0
  bounded : ∀ block ∈ blocks, block.stop ≤ 2 ^ 64
  poolOf : ∀ block ∈ blocks, poolOf memory block.address = block.owner
  isBlock : ∀ block ∈ blocks, isBlock memory block.address = block.isBlock

namespace LaidOut

variable {memory other : ByteMemory} {blocks more : Set Block} {left right : Block}

/-- Fewer blocks lie as they did. -/
theorem mono (laid : LaidOut memory blocks) (fewer : more ⊆ blocks) : LaidOut memory more where
  apart left isLeft right isRight := laid.apart left (fewer isLeft) right (fewer isRight)
  notNull block member := laid.notNull block (fewer member)
  bounded block member := laid.bounded block (fewer member)
  poolOf block member := laid.poolOf block (fewer member)
  isBlock block member := laid.isBlock block (fewer member)

/-- Only the two fields of the heads matter. -/
theorem congr (laid : LaidOut memory blocks) (fields : ∀ block ∈ blocks,
      Memory.poolOf other block.address = Memory.poolOf memory block.address ∧
        Memory.isBlock other block.address = Memory.isBlock memory block.address) :
    LaidOut other blocks where
  apart := laid.apart
  notNull := laid.notNull
  bounded := laid.bounded
  poolOf block member := (fields block member).1.trans (laid.poolOf block member)
  isBlock block member := (fields block member).2.trans (laid.isBlock block member)

theorem of_sameHead (laid : LaidOut memory blocks)
    (heads : ∀ block ∈ blocks, SameHead memory other block.address) : LaidOut other blocks :=
  laid.congr fun block member => ⟨(heads block member).poolOf, (heads block member).isBlock⟩

/-- Blocks beside blocks, all apart. -/
theorem union (old : LaidOut memory blocks) (new : LaidOut memory more)
    (apart : ∀ left ∈ blocks, ∀ right ∈ more, left.Apart right) :
    LaidOut memory (blocks ∪ more) where
  apart left isLeft right isRight different := by
    rcases isLeft with isOld | isNew <;> rcases isRight with isOld' | isNew'
    · exact old.apart left isOld right isOld' different
    · exact apart left isOld right isNew'
    · exact (apart right isOld' left isNew).symm
    · exact new.apart left isNew right isNew' different
  notNull block member := member.elim (old.notNull block) (new.notNull block)
  bounded block member := member.elim (old.bounded block) (new.bounded block)
  poolOf block member := member.elim (old.poolOf block) (new.poolOf block)
  isBlock block member := member.elim (old.isBlock block) (new.isBlock block)

/-- There is only one block at an address. -/
theorem eq_of_address (laid : LaidOut memory blocks) (isLeft : left ∈ blocks)
    (isRight : right ∈ blocks) (same : left.address = right.address) : left = right := by
  have sized : headSize = 24 := rfl
  by_contra different
  have apart := laid.apart left isLeft right isRight different
  unfold Block.Apart Block.stop at apart
  omega

/-- The pointer says which block. -/
theorem eq_of_ptr (laid : LaidOut memory blocks) (isLeft : left ∈ blocks)
    (isRight : right ∈ blocks) (same : left.ptr = right.ptr) : left = right :=
  laid.eq_of_address isLeft isRight (Nat.add_right_cancel same)

/-- A block of `malloc`, once its head is written. -/
theorem of_writeHead {address size this : Nat} (notNull : address ≠ 0)
    (bounded : address + headSize + size ≤ 2 ^ 64) (fits : this < 2 ^ 64) :
    LaidOut (writeHead memory address 0 this false) {⟨address, size, this, false⟩} where
  apart := by
    rintro left rfl right rfl different
    exact absurd rfl different
  notNull := by
    rintro block rfl
    exact notNull
  bounded := by
    rintro block rfl
    exact bounded
  poolOf := by
    rintro block rfl
    exact poolOf_writeHead fits
  isBlock := by
    rintro block rfl
    exact isBlock_writeHead

end LaidOut

/-- Outside of a block nothing has changed, so the heads of the blocks apart from it have
not. -/
theorem head_apart {memory other : ByteMemory} {start stop : Nat} {block : Block}
    (outside : ∀ target, target < start ∨ stop ≤ target → other target = memory target)
    (apart : stop ≤ block.address ∨ block.stop ≤ start) :
    SameHead memory other block.address := by
  refine head_congr fun target above below => outside target ?_
  unfold Block.stop at apart
  omega

/-! ## Arenas -/

theorem MemoryPool.mem_blocks_iff {self : MemoryPool} {this : Nat} {block : Block} :
    block ∈ self.blocks this ↔ ∃ index < self.count,
      (⟨self.pMemory + self.blockAllSize * index, self.blockMaxSize, this, true⟩ : Block) =
        block := by
  simp [MemoryPool.blocks]

/-- What the blocks of an arena have in common. -/
theorem MemoryPool.of_mem_blocks {self : MemoryPool} {this : Nat} {block : Block}
    (member : block ∈ self.blocks this) :
    block.size = self.blockMaxSize ∧ block.owner = this ∧ block.isBlock = true := by
  obtain ⟨index, _, rfl⟩ := mem_blocks_iff.mp member
  exact ⟨rfl, rfl, rfl⟩

/-- The blocks of an arena are all different, as none is smaller than its head. -/
theorem MemoryPool.nodup_blocks (self : MemoryPool) (this : Nat) : (self.blocks this).Nodup := by
  refine List.Nodup.map_on ?_ List.nodup_range
  intro left _ right _ same
  have addresses := congrArg Block.address same
  have positive : 0 < self.blockAllSize := Nat.succ_pos _
  exact Nat.eq_of_mul_eq_mul_left positive (Nat.add_left_cancel addresses)

/-! ## The constructor -/

section Constructor

variable {memory : ByteMemory} {this pMemory blockAllSize count : Nat}

/-- A block ends before the blocks of higher index. -/
theorem block_le {index later : Nat} (before : index < later) :
    pMemory + blockAllSize * index + blockAllSize ≤ pMemory + blockAllSize * later := by
  have product := Nat.mul_le_mul_left blockAllSize (Nat.succ_le_of_lt before)
  rw [Nat.mul_succ] at product
  omega

/-- The loop writes within the arena. -/
theorem constructBlocks_of_outside (large : headSize ≤ blockAllSize) {target : Nat}
    (outside : target < pMemory ∨ pMemory + blockAllSize * count ≤ target) :
    constructBlocks this pMemory blockAllSize count memory target = memory target := by
  induction count with
  | zero => rfl
  | succ count inductionHypothesis =>
      rw [Nat.mul_succ] at outside
      rw [constructBlocks, writeHead_of_outside (by omega)]
      exact inductionHypothesis (by omega)

/-- The head of a block is left as it is by the rest of the loop. -/
theorem constructBlocks_head (large : headSize ≤ blockAllSize) {index : Nat}
    (before : index < count) :
    SameHead (constructBlocks this pMemory blockAllSize (index + 1) memory)
      (constructBlocks this pMemory blockAllSize count memory)
      (pMemory + blockAllSize * index) := by
  induction count, before using Nat.le_induction with
  | base => exact ⟨rfl, rfl, rfl⟩
  | succ count before inductionHypothesis =>
      refine inductionHypothesis.trans (head_congr fun target above below => ?_)
      have apart := @block_le pMemory blockAllSize _ _ before
      exact writeHead_of_outside (Or.inl (by omega))

/-- The null pointer is written into the last head only. -/
theorem constructArena_head (large : headSize ≤ blockAllSize) {index : Nat}
    (before : index + 1 < count) :
    SameHead (constructBlocks this pMemory blockAllSize (index + 1) memory)
      (constructArena this pMemory blockAllSize count memory)
      (pMemory + blockAllSize * index) := by
  have inLoop : index < count := by omega
  refine (constructBlocks_head large inLoop).trans (head_congr fun target above below => ?_)
  have apart := @block_le pMemory blockAllSize index (count - 1) (by omega)
  exact ByteMemory.write_of_outside (Or.inl (by omega))

/-- Nothing but the arena is written. -/
theorem constructArena_of_outside (large : headSize ≤ blockAllSize) (some : 1 ≤ count)
    {target : Nat} (outside : target < pMemory ∨ pMemory + blockAllSize * count ≤ target) :
    constructArena this pMemory blockAllSize count memory target = memory target := by
  have sized : headSize = 24 := rfl
  have last := @block_le pMemory blockAllSize (count - 1) count (by omega)
  have start := Nat.le_add_right pMemory (blockAllSize * (count - 1))
  unfold constructArena
  rw [ByteMemory.write_of_outside (by omega)]
  exact constructBlocks_of_outside large outside

/-- Every head names the pool, and is of the arena. -/
theorem constructArena_fields (large : headSize ≤ blockAllSize) (fits : this < 2 ^ 64)
    {index : Nat} (before : index < count) :
    poolOf (constructArena this pMemory blockAllSize count memory)
        (pMemory + blockAllSize * index) = this ∧
      isBlock (constructArena this pMemory blockAllSize count memory)
        (pMemory + blockAllSize * index) = true := by
  have named : poolOf (constructBlocks this pMemory blockAllSize (index + 1) memory)
      (pMemory + blockAllSize * index) = this := poolOf_writeHead fits
  have flagged : isBlock (constructBlocks this pMemory blockAllSize (index + 1) memory)
      (pMemory + blockAllSize * index) = true := isBlock_writeHead
  rcases Nat.lt_or_ge (index + 1) count with inner | isLast
  · have head := @constructArena_head memory this pMemory _ _ large _ inner
    exact ⟨head.poolOf.trans named, head.isBlock.trans flagged⟩
  · obtain rfl : count = index + 1 := by omega
    exact ⟨(poolOf_write_next _).trans named, (isBlock_write_next _).trans flagged⟩

/-- The blocks are listed in the order in which they lie. -/
theorem constructArena_chain (large : headSize ≤ blockAllSize) (notNull : pMemory ≠ 0)
    (bounded : pMemory + blockAllSize * (count + 1) ≤ 2 ^ 64) :
    Chain (next (constructArena this pMemory blockAllSize (count + 1) memory)) pMemory
      ((List.range (count + 1)).map fun index => pMemory + blockAllSize * index) := by
  rw [List.range_eq_range']
  refine @Chain.ofRow _ (fun index => pMemory + blockAllSize * index) count 0 ?_ ?_ ?_
  · intro index _
    omega
  · intro index before
    have head := @constructArena_head memory this pMemory _ (count + 1) large index (by omega)
    have fits : pMemory + blockAllSize * index + blockAllSize < 2 ^ 64 := by
      have inside := @block_le pMemory blockAllSize (index + 1) (count + 1) (by omega)
      have sized : headSize = 24 := rfl
      rw [Nat.mul_succ] at inside
      omega
    rw [head.next, constructBlocks, next_writeHead fits, Nat.mul_succ, Nat.add_assoc]
  · rw [Nat.zero_add]
    exact ByteMemory.read_write_of_lt (Nat.pow_pos (by decide))

end Constructor

namespace MemoryPool

variable {self : MemoryPool} {memory : ByteMemory} {this : Nat}

/-- A block of the arena lies within it. -/
theorem within_of_mem_blocks {block : Block} (member : block ∈ self.blocks this) :
    self.pMemory ≤ block.address ∧
      block.stop ≤ self.pMemory + self.blockAllSize * self.count := by
  obtain ⟨index, before, rfl⟩ := mem_blocks_iff.mp member
  have inside := @block_le self.pMemory self.blockAllSize index self.count before
  refine ⟨Nat.le_add_right _ _, ?_⟩
  show self.pMemory + self.blockAllSize * index + headSize + self.blockMaxSize ≤ _
  unfold blockAllSize at inside ⊢
  omega

/-- The constructor lays out the blocks of the arena. -/
theorem laidOut_constructArena (fits : this < 2 ^ 64) (notNull : self.pMemory ≠ 0)
    (bounded : self.pMemory + self.blockAllSize * self.count ≤ 2 ^ 64) :
    LaidOut (constructArena this self.pMemory self.blockAllSize self.count memory)
      { block | block ∈ self.blocks this } where
  apart left isLeft right isRight different := by
    obtain ⟨index, _, rfl⟩ := mem_blocks_iff.mp isLeft
    obtain ⟨other, _, rfl⟩ := mem_blocks_iff.mp isRight
    unfold Block.Apart Block.stop
    rcases Nat.lt_trichotomy index other with before | rfl | behind
    · have inside := @block_le self.pMemory self.blockAllSize _ _ before
      unfold blockAllSize at inside ⊢
      exact Or.inl (by simp only; omega)
    · exact absurd rfl different
    · have inside := @block_le self.pMemory self.blockAllSize _ _ behind
      unfold blockAllSize at inside ⊢
      exact Or.inr (by simp only; omega)
  notNull block member := by
    have inside := within_of_mem_blocks member
    omega
  bounded block member := (within_of_mem_blocks member).2.trans bounded
  poolOf block member := by
    obtain ⟨index, before, rfl⟩ := mem_blocks_iff.mp member
    exact (constructArena_fields (Nat.le_add_left _ _) fits before).1
  isBlock block member := by
    obtain ⟨index, before, rfl⟩ := mem_blocks_iff.mp member
    exact (constructArena_fields (Nat.le_add_left _ _) fits before).2

end MemoryPool

end SocketMessage.Memory
