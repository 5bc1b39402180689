import SocketMessage.Lib.Transition
import SocketMessage.Memory.MemoryPool

/-!
# The manager of the pools

`MemoryMgr` has a pool for each of nine block sizes, and one without an arena for whatever
is larger. An allocation goes by its size; what is freed goes to the pool that its head
names.
-/

namespace SocketMessage.Memory

open SocketMessage.Lib

/-- The pools of `MemoryMgr`, by the addresses of their objects. -/
structure MemoryMgr where
  memoryPool8 : Nat
  memoryPool16 : Nat
  memoryPool32 : Nat
  memoryPool64 : Nat
  memoryPool128 : Nat
  memoryPool256 : Nat
  memoryPool512 : Nat
  memoryPool1024 : Nat
  memoryPool2048 : Nat
  memoryPoolOther : Nat
deriving DecidableEq, Repr

/-- One `new MemoryPool(maxSize, count)`, and where. -/
structure PoolEntry where
  address : Nat
  maxSize : Nat
  count : Nat
deriving DecidableEq, Repr

namespace MemoryMgr

/-- The pools with an arena, as the constructor initialises them. -/
def sized (self : MemoryMgr) : List PoolEntry :=
  [⟨self.memoryPool8, 8, 2048⟩, ⟨self.memoryPool16, 16, 2048⟩,
    ⟨self.memoryPool32, 32, 102400⟩, ⟨self.memoryPool64, 64, 2048⟩,
    ⟨self.memoryPool128, 128, 1024⟩, ⟨self.memoryPool256, 256, 2048⟩,
    ⟨self.memoryPool512, 512, 1024⟩, ⟨self.memoryPool1024, 1024, 1024⟩,
    ⟨self.memoryPool2048, 2048, 1024⟩]

/-- The one for what is larger. -/
def other (self : MemoryMgr) : PoolEntry := ⟨self.memoryPoolOther, 0, 0⟩

/-- The ten of them. -/
def entries (self : MemoryMgr) : List PoolEntry := self.sized ++ [self.other]

/-- The constructor, with the arenas that `malloc` returned. -/
def construct (self : MemoryMgr) (state : HeapState) (arena : PoolEntry → Nat) : HeapState :=
  self.entries.foldl (fun state entry =>
    state.construct entry.address entry.maxSize entry.count (arena entry)) state

/-- The ten pools are there, with the sizes that the constructor gives them. -/
def Constructed (self : MemoryMgr) (state : HeapState) : Prop :=
  ∀ entry ∈ self.entries, ∃ pool, state.pools entry.address = some pool ∧
    pool.blockMaxSize = entry.maxSize ∧ pool.count = entry.count

/-- `MemoryMgr::AllocMemory`. -/
def allocMemory (self : MemoryMgr) (state : HeapState) (size : Int) (malloc : Malloc) :
    Option HeapState :=
  if size ≤ 8 then state.allocMemory self.memoryPool8 malloc
  else if size ≤ 16 then state.allocMemory self.memoryPool16 malloc
  else if size ≤ 32 then state.allocMemory self.memoryPool32 malloc
  else if size ≤ 64 then state.allocMemory self.memoryPool64 malloc
  else if size ≤ 128 then state.allocMemory self.memoryPool128 malloc
  else if size ≤ 256 then state.allocMemory self.memoryPool256 malloc
  else if size ≤ 512 then state.allocMemory self.memoryPool512 malloc
  else if size ≤ 1024 then state.allocMemory self.memoryPool1024 malloc
  else if size ≤ 2048 then state.allocMemory self.memoryPool2048 malloc
  else state.allocSize self.memoryPoolOther size.toNat malloc

/-- `MemoryMgr::FreeMemory`: the head says which pool. -/
def freeMemory (state : HeapState) (ptr : Nat) : Option HeapState :=
  state.freeMemory (poolOf state.memory (ptr - headSize)) ptr

/-- The first pool whose blocks are large enough. -/
def entryFor (self : MemoryMgr) (size : Int) : Option PoolEntry :=
  self.sized.find? fun entry => size ≤ entry.maxSize

/-- One pool more, of these sizes. -/
theorem pools_construct (state : HeapState) (this maxSize count pMemory : Nat) :
    ∃ pool : MemoryPool, pool.blockMaxSize = maxSize ∧ pool.count = count ∧
      (state.construct this maxSize count pMemory).pools =
        Function.update state.pools this (some pool) := by
  unfold HeapState.construct
  by_cases nothing : maxSize = 0 ∧ count = 0
  · obtain ⟨rfl, rfl⟩ := nothing
    exact ⟨_, rfl, rfl, rfl⟩
  · rw [if_neg nothing]
    exact ⟨_, rfl, rfl, rfl⟩

/-- Pools constructed at different addresses are all there. -/
theorem pools_foldl {arena : PoolEntry → Nat} {entries : List PoolEntry}
    (different : (entries.map PoolEntry.address).Nodup) (state : HeapState) :
    let after := entries.foldl (fun state entry =>
      state.construct entry.address entry.maxSize entry.count (arena entry)) state
    (∀ entry ∈ entries, ∃ pool, after.pools entry.address = some pool ∧
      pool.blockMaxSize = entry.maxSize ∧ pool.count = entry.count) ∧
    ∀ this, this ∉ entries.map PoolEntry.address → after.pools this = state.pools this := by
  induction entries generalizing state with
  | nil => exact ⟨fun _ member => absurd member List.not_mem_nil, fun _ _ => rfl⟩
  | cons first rest inductionHypothesis =>
      obtain ⟨isOther, different⟩ := List.nodup_cons.mp different
      obtain ⟨pool, blockSize, count, pools⟩ :=
        pools_construct state first.address first.maxSize first.count (arena first)
      obtain ⟨present, unchanged⟩ := inductionHypothesis different
        (state.construct first.address first.maxSize first.count (arena first))
      refine ⟨?_, fun this absent => ?_⟩
      · rintro entry (_ | ⟨_, inRest⟩)
        · refine ⟨pool, (unchanged _ isOther).trans ?_, blockSize, count⟩
          rw [pools, Function.update_self]
        · exact present entry inRest
      · obtain ⟨notFirst, notRest⟩ := List.ne_and_not_mem_of_not_mem_cons absent
        refine (unchanged this notRest).trans ?_
        rw [pools, Function.update_of_ne notFirst]

/-- What the constructor leaves. -/
theorem constructed_construct {self : MemoryMgr} {state : HeapState} {arena : PoolEntry → Nat}
    (different : (self.entries.map PoolEntry.address).Nodup) :
    self.Constructed (self.construct state arena) :=
  (pools_foldl different state).1

/-- The pool that is found is one of the manager's, with blocks that are large enough. -/
theorem of_entryFor {self : MemoryMgr} {size : Int} {entry : PoolEntry}
    (chosen : self.entryFor size = some entry) : entry ∈ self.sized ∧ size ≤ entry.maxSize := by
  unfold entryFor at chosen
  have fits := List.find?_some chosen
  exact ⟨List.mem_of_find?_eq_some chosen, of_decide_eq_true fits⟩

/-- A pool is found first, or among those after it. -/
theorem elim_find?_cons {Result : Type} {fits : PoolEntry → Bool} {entry : PoolEntry}
    {rest : List PoolEntry} (missing : Result) (found : PoolEntry → Result) :
    ((entry :: rest).find? fits).elim missing found =
      if fits entry then found entry else (rest.find? fits).elim missing found := by
  rw [List.find?_cons]
  cases fits entry <;> rfl

/-- The comparisons find the first pool whose blocks are large enough. -/
theorem allocMemory_eq (self : MemoryMgr) (state : HeapState) (size : Int) (malloc : Malloc) :
    self.allocMemory state size malloc = (self.entryFor size).elim
      (state.allocSize self.other.address size.toNat malloc)
      fun entry => state.allocMemory entry.address malloc := by
  unfold allocMemory entryFor sized
  simp only [elim_find?_cons, decide_eq_true_eq]
  rfl

end MemoryMgr

/-! ## Calls -/

/-- What happens: a pool is constructed; a pool's `AllocMemory()` or `AllocMemory(size)`, or
its `FreeMemory`; `AllocMemory` or `FreeMemory` of the manager; somebody writes a byte. -/
inductive HeapEvent where
  | construct (this maxSize count pMemory : Nat)
  | allocMemory (this : Nat) (malloc : Malloc)
  | allocSize (this size : Nat) (malloc : Malloc)
  | freeMemory (this ptr : Nat)
  | mgrAllocMemory (mgr : MemoryMgr) (size : Int) (malloc : Malloc)
  | mgrFreeMemory (ptr : Nat)
  | store (address : Nat) (byte : Byte)

namespace HeapState

/-- One step. -/
def step (state : HeapState) : HeapEvent → Option HeapState
  | .construct this maxSize count pMemory => some (state.construct this maxSize count pMemory)
  | .allocMemory this malloc => state.allocMemory this malloc
  | .allocSize this size malloc => state.allocSize this size malloc
  | .freeMemory this ptr => state.freeMemory this ptr
  | .mgrAllocMemory mgr size malloc => mgr.allocMemory state size malloc
  | .mgrFreeMemory ptr => MemoryMgr.freeMemory state ptr
  | .store address byte => some { state with memory := state.memory.store address byte }

/-- What the callers and `malloc` keep to: a pool is constructed once, at an address, with an
arena that fits in an `int` and is granted; a pool's `AllocMemory(size)` is called with an
`int` that is not below the size of the pool's blocks; the manager is used when its pools
have been constructed; what is freed is a caller's, and was taken from that pool; and bytes
are written into a caller's payload or where no block is. -/
def Permits (state : HeapState) : HeapEvent → Prop
  | .construct this maxSize count pMemory =>
      state.pools this = none ∧ this < 2 ^ 64 ∧ (maxSize = 0 ∧ count = 0 ∨
        1 ≤ count ∧ (maxSize + headSize) * count < 2 ^ 31 ∧
          state.Grants pMemory ((maxSize + headSize) * count))
  | .allocMemory _ malloc => state.Offers malloc
  | .allocSize this size malloc => state.Offers malloc ∧ size < 2 ^ 31 ∧
      ∃ pool, state.pools this = some pool ∧ pool.blockMaxSize ≤ size
  | .freeMemory this ptr => ∃ block ∈ state.live, block.ptr = ptr ∧ block.owner = this
  | .mgrAllocMemory mgr size malloc => state.Offers malloc ∧ size < 2 ^ 31 ∧ mgr.Constructed state
  | .mgrFreeMemory ptr => ∃ block ∈ state.live, block.ptr = ptr
  | .store address _ => ∀ block ∈ state.blocks,
      (address < block.address ∨ block.stop ≤ address) ∨ block ∈ state.live ∧ block.ptr ≤ address

end HeapState

/-- Any memory without pools, and what callers do with pools. -/
def heapSystem : LabelledSystem HeapState HeapEvent where
  Initial state := (∀ this, state.pools this = none) ∧ state.live = []
  Step state event next := state.Permits event ∧ state.step event = some next

end SocketMessage.Memory
