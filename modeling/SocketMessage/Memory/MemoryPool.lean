import Mathlib.Data.Set.Basic
import SocketMessage.Lib.ByteMemory

/-!
# The memory pools

`MemoryPool` cuts one arena into blocks, each behind a `MemoryPoolHead`, and threads those
that are free through their heads; when none is free, or none fits, a block is asked of
`malloc` and gets the same head. The memory is modelled byte by byte, with whatever the
callers write into their payloads; the fields of the pool objects are kept beside it.

Recorded beside the code's own data are the blocks that callers have, and how many blocks
each arena was cut into.
-/

namespace SocketMessage.Memory

open SocketMessage.Lib

/-! ## Heads -/

/-- `sizeof(MemoryPoolHead)`. -/
abbrev headSize : Nat := 24

/-- `Next` of the head at an address. -/
def next (memory : ByteMemory) (block : Nat) : Nat := memory.read block 8

/-- `Pool` of the head at an address. -/
def poolOf (memory : ByteMemory) (block : Nat) : Nat := memory.read (block + 8) 8

/-- `IsBlock` of the head at an address. -/
def isBlock (memory : ByteMemory) (block : Nat) : Bool := memory (block + 16) ≠ 0

/-- The three assignments to a head. -/
def writeHead (memory : ByteMemory) (block next pool : Nat) (isBlock : Bool) : ByteMemory :=
  ((memory.write block 8 next).write (block + 8) 8 pool).store (block + 16)
    (if isBlock then 1 else 0)

/-- The head at an address reads the same in another memory. -/
structure SameHead (memory other : ByteMemory) (block : Nat) : Prop where
  next : next other block = next memory block
  poolOf : poolOf other block = poolOf memory block
  isBlock : isBlock other block = isBlock memory block

theorem SameHead.trans {memory other last : ByteMemory} {block : Nat}
    (first : SameHead memory other block) (second : SameHead other last block) :
    SameHead memory last block :=
  ⟨second.next.trans first.next, second.poolOf.trans first.poolOf,
    second.isBlock.trans first.isBlock⟩

section Heads

variable {memory : ByteMemory} {block successor pool : Nat} {flag : Bool}

/-- Nothing but the head is written. -/
theorem writeHead_of_outside {target : Nat} (outside : target < block ∨ block + headSize ≤ target) :
    writeHead memory block successor pool flag target = memory target := by
  have sized : headSize = 24 := rfl
  unfold writeHead
  rw [ByteMemory.store_of_ne (by omega), ByteMemory.write_of_outside (by omega),
    ByteMemory.write_of_outside (by omega)]

theorem next_writeHead (fits : successor < 2 ^ 64) :
    next (writeHead memory block successor pool flag) block = successor := by
  have same : next (writeHead memory block successor pool flag) block =
      (memory.write block 8 successor).read block 8 := by
    refine ByteMemory.read_congr fun target above below => ?_
    unfold writeHead
    rw [ByteMemory.store_of_ne (by omega), ByteMemory.write_of_outside (by omega)]
  rw [same, ByteMemory.read_write_of_lt fits]

theorem poolOf_writeHead (fits : pool < 2 ^ 64) :
    poolOf (writeHead memory block successor pool flag) block = pool := by
  have same : poolOf (writeHead memory block successor pool flag) block =
      ((memory.write block 8 successor).write (block + 8) 8 pool).read (block + 8) 8 := by
    refine ByteMemory.read_congr fun target above below => ?_
    exact ByteMemory.store_of_ne (by omega)
  rw [same, ByteMemory.read_write_of_lt fits]

theorem isBlock_writeHead : isBlock (writeHead memory block successor pool flag) block = flag := by
  have stored : writeHead memory block successor pool flag (block + 16) = if flag then 1 else 0 :=
    Function.update_self ..
  unfold isBlock
  rw [stored]
  cases flag <;> decide

/-- A new `Next` leaves the rest of the head. -/
theorem poolOf_write_next (value : Nat) :
    poolOf (memory.write block 8 value) block = poolOf memory block :=
  ByteMemory.read_write_of_disjoint (Or.inr (Nat.le_refl _))

theorem isBlock_write_next (value : Nat) :
    isBlock (memory.write block 8 value) block = isBlock memory block := by
  unfold isBlock
  rw [ByteMemory.write_of_outside (by omega)]

/-- What a head holds depends on its bytes. -/
theorem head_congr {other : ByteMemory} (same : ∀ target, block ≤ target →
    target < block + headSize → other target = memory target) :
    SameHead memory other block := by
  have sized : headSize = 24 := rfl
  refine ⟨ByteMemory.read_congr fun target above below => same target above (by omega),
    ByteMemory.read_congr fun target above below => same target (by omega) (by omega), ?_⟩
  unfold isBlock
  rw [same (block + 16) (by omega) (by omega)]

end Heads

/-! ## Pools and blocks -/

/-- A block: where its head is, how large its payload, which pool it belongs to, and whether
it is of the pool's arena. -/
structure Block where
  address : Nat
  size : Nat
  owner : Nat
  isBlock : Bool
deriving DecidableEq, Repr

/-- The pointer to the payload. -/
def Block.ptr (self : Block) : Nat := self.address + headSize

/-- The address behind the payload. -/
def Block.stop (self : Block) : Nat := self.address + headSize + self.size

/-- No byte is of both blocks, heads included. -/
def Block.Apart (self other : Block) : Prop := self.stop ≤ other.address ∨ other.stop ≤ self.address

/-- The fields of `MemoryPool`, and how many blocks the arena was cut into. -/
structure MemoryPool where
  pMemory : Nat
  pHead : Nat
  blockMaxSize : Nat
  count : Nat
deriving DecidableEq, Repr

/-- One block of the arena with its head. -/
def MemoryPool.blockAllSize (self : MemoryPool) : Nat := self.blockMaxSize + headSize

/-- The blocks of the arena of the pool at an address. -/
def MemoryPool.blocks (self : MemoryPool) (this : Nat) : List Block :=
  (List.range self.count).map fun index =>
    ⟨self.pMemory + self.blockAllSize * index, self.blockMaxSize, this, true⟩

/-- The memory, the pools by the addresses of their objects, and the blocks the callers
have. -/
structure HeapState where
  memory : ByteMemory
  pools : Nat → Option MemoryPool
  live : List Block

/-- The loop of the constructor. -/
def constructBlocks (this pMemory blockAllSize : Nat) : Nat → ByteMemory → ByteMemory
  | 0, memory => memory
  | index + 1, memory =>
      let pBlock := pMemory + blockAllSize * index
      writeHead (constructBlocks this pMemory blockAllSize index memory) pBlock
        (pBlock + blockAllSize) this true

/-- The loop of the constructor, and the null pointer in the last block. -/
def constructArena (this pMemory blockAllSize count : Nat) (memory : ByteMemory) : ByteMemory :=
  let lastBlock := pMemory + blockAllSize * (count - 1)
  (constructBlocks this pMemory blockAllSize count memory).write lastBlock 8 0

/-- What is asked of `malloc` for a payload: the sum is an `int`, and becomes a `size_t`. -/
def mallocSize (size : Nat) : Nat := (int32 (size + headSize) % 2 ^ 64).toNat

/-- What is asked of `malloc` for a positive `int`. -/
theorem mallocSize_eq {payload : Nat} (bounded : payload < 2 ^ 31) : mallocSize payload =
    if payload + headSize < 2 ^ 31 then payload + headSize
    else 2 ^ 64 - 2 ^ 32 + payload + headSize := by
  have sized : headSize = 24 := rfl
  unfold mallocSize
  split_ifs with inRange
  · rw [int32_eq_self (by omega) (by omega)]
    omega
  · rw [int32_eq_sub (by omega) (by omega)]
    omega

/-- Enough is asked of `malloc`, also where the sum wraps. -/
theorem le_mallocSize {payload : Nat} (bounded : payload < 2 ^ 31) :
    payload + headSize ≤ mallocSize payload := by
  rw [mallocSize_eq bounded]
  split_ifs <;> omega

/-- What `malloc` returns in a moment for each size: null, or where the block is and how
large. -/
abbrev Malloc := Nat → Option (Nat × Nat)

namespace HeapState

/-- The constructor, with what `malloc` returned for the arena. -/
def construct (state : HeapState) (this maxSize count pMemory : Nat) : HeapState :=
  if maxSize = 0 ∧ count = 0 then
    { state with pools := Function.update state.pools this (some ⟨0, 0, 0, 0⟩) }
  else
    let pool : MemoryPool := ⟨pMemory, pMemory, maxSize, count⟩
    { state with
      memory := constructArena this pMemory pool.blockAllSize count state.memory
      pools := Function.update state.pools this (some pool) }

/-- `AllocMemory(size)`. There is no state after it when `malloc` returned null, since then
the head is written all the same. -/
def allocSize (state : HeapState) (this size : Nat) (malloc : Malloc) : Option HeapState :=
  match malloc (mallocSize size) with
  | none => none
  | some (newBlock, given) =>
      some { state with
        memory := writeHead state.memory newBlock 0 this false
        live := state.live ++ [⟨newBlock, given - headSize, this, false⟩] }

/-- `AllocMemory()`. -/
def allocMemory (state : HeapState) (this : Nat) (malloc : Malloc) : Option HeapState := do
  let pool ← state.pools this
  if pool.pHead ≠ 0 then
    let retBlock := pool.pHead
    some { state with
      pools := Function.update state.pools this
        (some { pool with pHead := next state.memory retBlock })
      live := state.live ++ [⟨retBlock, pool.blockMaxSize, this, true⟩] }
  else state.allocSize this pool.blockMaxSize malloc

/-- The caller has no longer the block of a pointer. -/
def drop (state : HeapState) (ptr : Nat) : HeapState :=
  { state with live := state.live.filter fun block => block.ptr ≠ ptr }

/-- `MemoryPool::FreeMemory`. -/
def freeMemory (state : HeapState) (this ptr : Nat) : Option HeapState := do
  let pool ← state.pools this
  let oldBlock := ptr - headSize
  if isBlock state.memory oldBlock then
    some { state.drop ptr with
      memory := state.memory.write oldBlock 8 pool.pHead
      pools := Function.update state.pools this (some { pool with pHead := oldBlock }) }
  else some (state.drop ptr)

/-- The blocks of the arena of the pool at an address, if one is there. -/
def arena (state : HeapState) (this : Nat) : List Block :=
  match state.pools this with
  | none => []
  | some pool => pool.blocks this

/-- The blocks of all arenas, and those of `malloc` that callers have. -/
def blocks (state : HeapState) : Set Block :=
  { block | block ∈ state.arena block.owner ∨ block ∈ state.live ∧ block.isBlock = false }

/-- What `malloc` may return: not null, within the address space, apart from all blocks. -/
def Grants (state : HeapState) (address size : Nat) : Prop :=
  address ≠ 0 ∧ address + size ≤ 2 ^ 64 ∧
    ∀ block ∈ state.blocks, address + size ≤ block.address ∨ block.stop ≤ address

/-- `malloc` returns null or a block that is large enough. -/
def Offers (state : HeapState) (malloc : Malloc) : Prop :=
  ∀ size address given, malloc size = some (address, given) →
    size ≤ given ∧ state.Grants address given

end HeapState

end SocketMessage.Memory
