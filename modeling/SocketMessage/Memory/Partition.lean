import Mathlib.Data.List.Perm.Basic
import SocketMessage.Memory.Arena
import SocketMessage.Memory.MemoryMgr

/-!
# Every block is free or a caller's

The blocks of all arenas and those of `malloc` lie apart, each with its head; and the
blocks of an arena are those that are met from `m_pHead` and those the callers have. Each
call of a pool moves one block from one side to the other.
-/

namespace SocketMessage.Memory

open SocketMessage.Lib

namespace HeapState

variable {state after : HeapState} {this : Nat} {pool changed : MemoryPool} {block : Block}

theorem arena_of_pool (found : state.pools this = some pool) :
    state.arena this = pool.blocks this := by
  unfold arena
  rw [found]

/-- A block of an arena. -/
theorem mem_blocks_of_arena (found : state.pools this = some pool)
    (member : block ∈ pool.blocks this) : block ∈ state.blocks := by
  obtain ⟨_, rfl, _⟩ := MemoryPool.of_mem_blocks member
  exact Or.inl (arena_of_pool found ▸ member)

theorem arena_congr (pools : after.pools = state.pools) (this : Nat) :
    after.arena this = state.arena this := by
  unfold arena
  rw [pools]

/-- A pool that is changed has the same arena. -/
theorem arena_update (found : state.pools this = some pool)
    (pools : after.pools = Function.update state.pools this (some changed))
    (same : changed.blocks this = pool.blocks this) (other : Nat) :
    after.arena other = state.arena other := by
  rcases eq_or_ne other this with rfl | different
  · rw [arena_of_pool found, ← same]
    refine arena_of_pool ?_
    rw [pools, Function.update_self]
  · unfold arena
    rw [pools, Function.update_of_ne different]

/-- A block that a caller still has is still a block. -/
theorem mem_blocks_of_live (arena : after.arena block.owner = state.arena block.owner)
    (member : block ∈ state.blocks) (isLive : block ∈ after.live) : block ∈ after.blocks := by
  rcases member with member | ⟨_, flag⟩
  · exact Or.inl (arena ▸ member)
  · exact Or.inr ⟨isLive, flag⟩

/-! ## The invariant -/

/-- The blocks of an arena that callers have. -/
def taken (state : HeapState) (this : Nat) : List Block :=
  state.live.filter fun block => block.owner = this ∧ block.isBlock

/-- The list from `m_pHead` on and the blocks that callers have are the arena. -/
def Chained (state : HeapState) (this : Nat) (pool : MemoryPool) : Prop :=
  ∃ free : List Block, Chain (next state.memory) pool.pHead (free.map Block.address) ∧
    (free ++ state.taken this).Perm (pool.blocks this)

/-- What holds between the calls. -/
structure Partitioned (state : HeapState) : Prop where
  laid : LaidOut state.memory state.blocks
  live : ∀ block ∈ state.live, block ∈ state.blocks
  sizes : ∀ block ∈ state.live, ∃ pool, state.pools block.owner = some pool ∧
    pool.blockMaxSize ≤ block.size
  nodup : state.live.Nodup
  bounds : ∀ this pool, state.pools this = some pool →
    this < 2 ^ 64 ∧ pool.blockMaxSize + headSize < 2 ^ 31
  chained : ∀ this pool, state.pools this = some pool → state.Chained this pool

theorem mem_taken_iff : block ∈ state.taken this ↔
    block ∈ state.live ∧ block.owner = this ∧ block.isBlock = true := by
  simp [taken]

/-- A caller has a block less. -/
theorem taken_erase (live : after.live = state.live.erase block) (this : Nat) :
    after.taken this = (state.taken this).erase block := by
  rw [taken, live, taken, List.erase_filter]

/-- A free block is not a caller's. -/
theorem not_mem_live_of_free {free : List Block}
    (perm : (free ++ state.taken this).Perm (pool.blocks this)) (isFree : block ∈ free) :
    block ∉ state.live := by
  intro live
  have apart := List.nodup_append.mp (perm.nodup_iff.mpr (pool.nodup_blocks this))
  obtain ⟨_, owner, flag⟩ := MemoryPool.of_mem_blocks
    (perm.subset (List.mem_append_left _ isFree))
  exact apart.2.2 block isFree block (mem_taken_iff.mpr ⟨live, owner, flag⟩) rfl

/-- The list stays while the heads of the free blocks do. -/
theorem Chained.congr (chained : state.Chained this pool)
    (taken : after.taken this = state.taken this)
    (same : ∀ block ∈ pool.blocks this, block ∉ state.live →
      next after.memory block.address = next state.memory block.address) :
    after.Chained this pool := by
  obtain ⟨free, chain, perm⟩ := chained
  refine ⟨free, chain.congr fun address member => ?_, taken ▸ perm⟩
  obtain ⟨block, isFree, rfl⟩ := List.mem_map.mp member
  exact same block (perm.subset (List.mem_append_left _ isFree)) (not_mem_live_of_free perm isFree)

namespace Partitioned

/-- The first block of the list lies within the address space. -/
theorem pHead_lt (kept : state.Partitioned) (found : state.pools this = some pool) :
    pool.pHead < 2 ^ 64 := by
  obtain ⟨free, chain, perm⟩ := kept.chained this pool found
  rcases eq_or_ne pool.pHead 0 with isNull | notNull
  · rw [isNull]
    exact Nat.pow_pos (by decide)
  · have sized : headSize = 24 := rfl
    obtain ⟨addresses, isFirst, _⟩ := chain.uncons notNull
    obtain ⟨first, rest, rfl, address, _⟩ := List.map_eq_cons_iff.mp isFirst
    have bounded := kept.laid.bounded first
      (mem_blocks_of_arena found (perm.subset List.mem_cons_self))
    unfold Block.stop at bounded
    omega

/-- What a byte written by a caller leaves: all heads. -/
theorem store {address : Nat} {byte : Byte} (kept : state.Partitioned)
    (allowed : state.Permits (.store address byte)) :
    ({ state with memory := state.memory.store address byte } : HeapState).Partitioned := by
  have sized : headSize = 24 := rfl
  have heads : ∀ block ∈ state.blocks,
      SameHead state.memory (state.memory.store address byte) block.address := by
    intro block member
    refine head_congr fun target above below => ByteMemory.store_of_ne ?_
    have outside := allowed block member
    unfold Block.stop Block.ptr at outside
    omega
  exact {
    laid := kept.laid.of_sameHead heads
    live := kept.live
    sizes := kept.sizes
    nodup := kept.nodup
    bounds := kept.bounds
    chained := fun this pool found => (kept.chained this pool found).congr rfl
      fun block member _ => (heads block (mem_blocks_of_arena found member)).next }

/-- A pool has a new head. The callers have blocks they had, or blocks of its arena; the
other pools see no change of theirs. -/
theorem of_head {head : Nat} (kept : state.Partitioned) (found : state.pools this = some pool)
    (pools : after.pools = Function.update state.pools this (some { pool with pHead := head }))
    (live : ∀ block ∈ after.live, block ∈ state.live ∨ block ∈ pool.blocks this)
    (nodup : after.live.Nodup)
    (fields : ∀ block ∈ state.blocks,
      poolOf after.memory block.address = poolOf state.memory block.address ∧
        isBlock after.memory block.address = isBlock state.memory block.address)
    (chained : after.Chained this { pool with pHead := head })
    (others : ∀ other ≠ this, after.taken other = state.taken other ∧
      ∀ pool, state.pools other = some pool → ∀ block ∈ pool.blocks other, block ∉ state.live →
        next after.memory block.address = next state.memory block.address) :
    after.Partitioned := by
  have arena := arena_update found pools rfl
  have isThis : after.pools this = some { pool with pHead := head } := by
    rw [pools, Function.update_self]
  have isOther : ∀ other ≠ this, after.pools other = state.pools other := fun other different => by
    rw [pools, Function.update_of_ne different]
  have fewer : after.blocks ⊆ state.blocks := by
    rintro block (member | ⟨isLive, flag⟩)
    · exact Or.inl (arena _ ▸ member)
    · rcases live block isLive with wasLive | inArena
      · exact Or.inr ⟨wasLive, flag⟩
      · exact mem_blocks_of_arena found inArena
  exact {
    laid := (kept.laid.congr fields).mono fewer
    live := fun block isLive => by
      rcases live block isLive with wasLive | inArena
      · exact mem_blocks_of_live (arena _) (kept.live block wasLive) isLive
      · exact mem_blocks_of_arena isThis inArena
    sizes := fun block isLive => by
      rcases live block isLive with wasLive | inArena
      · obtain ⟨pool', found', size⟩ := kept.sizes block wasLive
        rcases eq_or_ne block.owner this with owned | different
        · rw [owned, found] at found'
          cases found'
          exact ⟨{ pool with pHead := head }, owned ▸ isThis, size⟩
        · exact ⟨pool', (isOther _ different).trans found', size⟩
      · obtain ⟨size, owned, _⟩ := MemoryPool.of_mem_blocks inArena
        exact ⟨{ pool with pHead := head }, owned ▸ isThis, size.ge⟩
    nodup := nodup
    bounds := fun other pool' found' => by
      rcases eq_or_ne other this with rfl | different
      · cases isThis.symm.trans found'
        exact kept.bounds other pool found
      · exact kept.bounds other pool' (isOther _ different ▸ found')
    chained := fun other pool' found' => by
      rcases eq_or_ne other this with rfl | different
      · cases isThis.symm.trans found'
        exact chained
      · rw [isOther _ different] at found'
        exact (kept.chained other pool' found').congr (others other different).1
          ((others other different).2 pool' found') }

/-- The first block of the list becomes a caller's. -/
theorem take (kept : state.Partitioned) (found : state.pools this = some pool)
    (notNull : pool.pHead ≠ 0) (memory : after.memory = state.memory)
    (pools : after.pools = Function.update state.pools this
      (some { pool with pHead := next state.memory pool.pHead }))
    (live : after.live = state.live ++ [⟨pool.pHead, pool.blockMaxSize, this, true⟩]) :
    after.Partitioned := by
  obtain ⟨free, chain, perm⟩ := kept.chained this pool found
  obtain ⟨addresses, isFirst, later⟩ := chain.uncons notNull
  obtain ⟨first, rest, rfl, address, rfl⟩ := List.map_eq_cons_iff.mp isFirst
  have inArena : first ∈ pool.blocks this := perm.subset (List.mem_cons_self ..)
  have same : first = ⟨pool.pHead, pool.blockMaxSize, this, true⟩ := by
    obtain ⟨size, owner, flag⟩ := MemoryPool.of_mem_blocks inArena
    rw [← address, ← size, ← owner, ← flag]
  have notLive : first ∉ state.live := not_mem_live_of_free perm List.mem_cons_self
  rw [← same] at live
  generalize next state.memory pool.pHead = head at pools later
  have moved : after.taken this = state.taken this ++ [first] := by
    simp [taken, live, same]
  have elsewhere : ∀ other ≠ this, after.taken other = state.taken other := by
    intro other different
    simp [taken, live, same, different.symm]
  have chained : after.Chained this { pool with pHead := head } := by
    refine ⟨rest, by rw [memory]; exact later, List.Perm.trans ?_ perm⟩
    rw [moved, ← List.append_assoc, List.cons_append]
    exact List.perm_append_singleton first _
  refine kept.of_head found pools ?_ ?_ ?_ chained fun other different =>
    ⟨elsewhere other different, fun _ _ _ _ _ => by rw [memory]⟩
  · intro block isLive
    rw [live, List.mem_append, List.mem_singleton] at isLive
    rcases isLive with wasLive | rfl
    · exact Or.inl wasLive
    · exact Or.inr inArena
  · rw [live]
    exact kept.nodup.append (List.nodup_singleton _) (List.disjoint_singleton.mpr notLive)
  · intro _ _
    rw [memory]
    exact ⟨rfl, rfl⟩

/-- A caller's block of the arena becomes the first of the list. -/
theorem giveBack (kept : state.Partitioned) (found : state.pools this = some pool)
    (taken : block ∈ state.taken this)
    (memory : after.memory = state.memory.write block.address 8 pool.pHead)
    (pools : after.pools = Function.update state.pools this
      (some { pool with pHead := block.address }))
    (live : after.live = state.live.erase block) : after.Partitioned := by
  obtain ⟨isLive, owned, flag⟩ := mem_taken_iff.mp taken
  obtain ⟨free, chain, perm⟩ := kept.chained this pool found
  have inArena : block ∈ pool.blocks this := perm.subset (List.mem_append_right _ taken)
  have member := kept.live block isLive
  have sized : headSize = 24 := rfl
  have heads : ∀ other ∈ state.blocks, other ≠ block →
      SameHead state.memory after.memory other.address := by
    intro other isOther different
    rw [memory]
    refine head_apart (fun target outside => ByteMemory.write_of_outside outside) ?_
    have apart := kept.laid.apart block member other isOther different.symm
    unfold Block.Apart Block.stop at apart
    unfold Block.stop
    omega
  have written : next after.memory block.address = pool.pHead := by
    rw [memory]
    exact ByteMemory.read_write_of_lt (kept.pHead_lt found)
  have elsewhere : ∀ other ≠ this, after.taken other = state.taken other := by
    intro other different
    rw [taken_erase live]
    exact List.erase_of_not_mem fun found =>
      different ((mem_taken_iff.mp found).2.1.symm.trans owned)
  have chained : after.Chained this { pool with pHead := block.address } := by
    refine ⟨block :: free, .cons (kept.laid.notNull block member) ?_, ?_⟩
    · rw [written]
      refine chain.congr fun address inList => ?_
      obtain ⟨other, isFree, rfl⟩ := List.mem_map.mp inList
      have isOther := mem_blocks_of_arena found (perm.subset (List.mem_append_left _ isFree))
      refine (heads other isOther ?_).next
      rintro rfl
      exact not_mem_live_of_free perm isFree isLive
    · rw [taken_erase live]
      exact (List.perm_middle.symm.trans
        ((List.perm_cons_erase taken).symm.append_left free)).trans perm
  refine kept.of_head found pools ?_ ?_ ?_ chained fun other different =>
    ⟨elsewhere other different, ?_⟩
  · intro other isOther
    exact Or.inl (List.mem_of_mem_erase (live ▸ isOther))
  · rw [live]
    exact kept.nodup.erase block
  · intro other isOther
    rcases eq_or_ne other block with rfl | different
    · rw [memory]
      exact ⟨poolOf_write_next _, isBlock_write_next _⟩
    · exact ⟨(heads other isOther different).poolOf, (heads other isOther different).isBlock⟩
  · intro pool' found' other inOther notLive
    refine (heads other (mem_blocks_of_arena found' inOther) ?_).next
    rintro rfl
    exact notLive isLive

/-- `malloc` has a block back. -/
theorem release (kept : state.Partitioned) (flag : block.isBlock = false)
    (memory : after.memory = state.memory) (pools : after.pools = state.pools)
    (live : after.live = state.live.erase block) : after.Partitioned := by
  have arena := arena_congr pools
  have wasLive : ∀ other ∈ after.live, other ∈ state.live := fun other isLive =>
    List.mem_of_mem_erase (live ▸ isLive)
  have fewer : after.blocks ⊆ state.blocks := by
    rintro other (member | ⟨isLive, flag⟩)
    · exact Or.inl (arena _ ▸ member)
    · exact Or.inr ⟨wasLive other isLive, flag⟩
  exact {
    laid := memory ▸ kept.laid.mono fewer
    live := fun other isLive =>
      mem_blocks_of_live (arena _) (kept.live other (wasLive other isLive)) isLive
    sizes := fun other isLive => pools ▸ kept.sizes other (wasLive other isLive)
    nodup := live ▸ kept.nodup.erase block
    bounds := pools ▸ kept.bounds
    chained := fun this pool found => by
      refine (kept.chained this pool (pools ▸ found)).congr ?_ fun _ _ _ => by rw [memory]
      rw [taken_erase live]
      refine List.erase_of_not_mem fun found => ?_
      rw [(mem_taken_iff.mp found).2.2] at flag
      exact Bool.noConfusion flag }

/-- `malloc` has granted a block, and its head is written. -/
theorem grant {size address given : Nat} (kept : state.Partitioned)
    (found : state.pools this = some pool) (large : pool.blockMaxSize ≤ size)
    (enough : size + headSize ≤ given) (granted : state.Grants address given)
    (memory : after.memory = writeHead state.memory address 0 this false)
    (pools : after.pools = state.pools)
    (live : after.live = state.live ++ [⟨address, given - headSize, this, false⟩]) :
    after.Partitioned := by
  have sized : headSize = 24 := rfl
  obtain ⟨payload, rfl⟩ := Nat.exists_eq_add_of_le' ((Nat.le_add_left _ _).trans enough)
  rw [Nat.add_sub_cancel] at live
  obtain ⟨notNull, bounded, apart⟩ := granted
  have new : LaidOut after.memory {⟨address, payload, this, false⟩} := by
    rw [memory]
    exact .of_writeHead notNull (by omega) (kept.bounds this pool found).1
  have heads : ∀ other ∈ state.blocks, SameHead state.memory after.memory other.address := by
    intro other member
    rw [memory]
    refine head_apart (fun target outside => writeHead_of_outside outside) ?_
    have isApart := apart other member
    omega
  have beside : ∀ left ∈ state.blocks,
      ∀ right ∈ ({⟨address, payload, this, false⟩} : Set Block), left.Apart right := by
    rintro left member right rfl
    have isApart := apart left member
    show left.stop ≤ address ∨ address + headSize + payload ≤ left.address
    omega
  have arena := arena_congr pools
  have more : after.blocks ⊆ state.blocks ∪ {⟨address, payload, this, false⟩} := by
    rintro other (member | ⟨isLive, flag⟩)
    · exact Or.inl (Or.inl (arena _ ▸ member))
    · rw [live, List.mem_append, List.mem_singleton] at isLive
      exact isLive.imp_left fun wasLive => Or.inr ⟨wasLive, flag⟩
  have notLive : ⟨address, payload, this, false⟩ ∉ state.live := by
    intro isLive
    have isApart : address + (payload + headSize) ≤ address ∨
        address + headSize + payload ≤ address := apart _ (kept.live _ isLive)
    omega
  exact {
    laid := ((kept.laid.of_sameHead heads).union new beside).mono more
    live := fun other isLive => by
      rcases List.mem_append.mp (live ▸ isLive) with wasLive | isLast
      · exact mem_blocks_of_live (arena _) (kept.live other wasLive) isLive
      · rw [List.mem_singleton.mp isLast] at isLive ⊢
        exact Or.inr ⟨isLive, rfl⟩
    sizes := fun other isLive => by
      rw [pools]
      rcases List.mem_append.mp (live ▸ isLive) with wasLive | isLast
      · exact kept.sizes other wasLive
      · rw [List.mem_singleton.mp isLast]
        exact ⟨pool, found, large.trans (Nat.le_of_add_le_add_right enough)⟩
    nodup := by
      rw [live]
      exact kept.nodup.append (List.nodup_singleton _) (List.disjoint_singleton.mpr notLive)
    bounds := pools ▸ kept.bounds
    chained := fun other pool' found' => by
      rw [pools] at found'
      refine (kept.chained other pool' found').congr ?_ fun inner member _ =>
        (heads inner (mem_blocks_of_arena found' member)).next
      simp [taken, live] }

/-- A pool is constructed, and all blocks of its arena are free. -/
theorem addPool (kept : state.Partitioned) (fresh : state.pools this = none)
    (fits : this < 2 ^ 64 ∧ pool.blockMaxSize + headSize < 2 ^ 31)
    (heads : ∀ block ∈ state.blocks, SameHead state.memory after.memory block.address)
    (pools : after.pools = Function.update state.pools this (some pool))
    (live : after.live = state.live)
    (new : LaidOut after.memory { block | block ∈ pool.blocks this })
    (apart : ∀ left ∈ state.blocks, ∀ right ∈ pool.blocks this, left.Apart right)
    (chain : Chain (next after.memory) pool.pHead ((pool.blocks this).map Block.address)) :
    after.Partitioned := by
  have isThis : after.pools this = some pool := by
    rw [pools, Function.update_self]
  have isOther : ∀ other ≠ this, after.pools other = state.pools other := fun other different => by
    rw [pools, Function.update_of_ne different]
  have arena : ∀ other ≠ this, after.arena other = state.arena other := fun other different => by
    unfold HeapState.arena
    rw [isOther other different]
  have otherOwner : ∀ block ∈ state.live, block.owner ≠ this := by
    intro block isLive same
    obtain ⟨_, found, _⟩ := kept.sizes block isLive
    rw [same, fresh] at found
    cases found
  have more : after.blocks ⊆ state.blocks ∪ { block | block ∈ pool.blocks this } := by
    rintro block (member | ⟨isLive, flag⟩)
    · rcases eq_or_ne block.owner this with same | different
      · rw [same, arena_of_pool isThis] at member
        exact Or.inr member
      · rw [arena _ different] at member
        exact Or.inl (Or.inl member)
    · exact Or.inl (Or.inr ⟨live ▸ isLive, flag⟩)
  have old := kept.laid.of_sameHead heads
  have none : state.taken this = [] :=
    List.filter_eq_nil_iff.mpr fun block isLive => by
      have different := otherOwner block isLive
      simp [different]
  have sameTaken : ∀ other, after.taken other = state.taken other := fun other => by
    unfold HeapState.taken
    rw [live]
  exact {
    laid := (old.union new apart).mono more
    live := fun block isLive => by
      have wasLive : block ∈ state.live := live ▸ isLive
      exact mem_blocks_of_live (arena _ (otherOwner block wasLive)) (kept.live block wasLive) isLive
    sizes := fun block isLive => by
      rw [live] at isLive
      rw [isOther _ (otherOwner block isLive)]
      exact kept.sizes block isLive
    nodup := live ▸ kept.nodup
    bounds := fun other pool' found => by
      rcases eq_or_ne other this with rfl | different
      · cases isThis.symm.trans found
        exact fits
      · exact kept.bounds other pool' (isOther other different ▸ found)
    chained := fun other pool' found => by
      rcases eq_or_ne other this with rfl | different
      · cases isThis.symm.trans found
        refine ⟨pool.blocks other, chain, ?_⟩
        rw [sameTaken, none, List.append_nil]
      · rw [isOther other different] at found
        exact (kept.chained other pool' found).congr (sameTaken other) fun block member _ =>
          (heads block (mem_blocks_of_arena found member)).next }

/-- The constructor cuts an arena that has been granted. -/
theorem construct {maxSize count pMemory : Nat} (kept : state.Partitioned)
    (allowed : state.Permits (.construct this maxSize count pMemory)) :
    (state.construct this maxSize count pMemory).Partitioned := by
  obtain ⟨fresh, fits, arena⟩ := allowed
  unfold HeapState.construct
  by_cases nothing : maxSize = 0 ∧ count = 0
  · rw [if_pos nothing]
    refine kept.addPool fresh ⟨fits, by decide⟩ (fun _ _ => ⟨rfl, rfl, rfl⟩) rfl rfl ?_ ?_ .nil
    · constructor <;> intro block member <;> cases member
    · intro _ _ right member
      cases member
  · rw [if_neg nothing]
    obtain ⟨one, inInt, notNull, bounded, apart⟩ := arena.resolve_left nothing
    have large : headSize ≤ maxSize + headSize := Nat.le_add_left _ _
    have new := @MemoryPool.laidOut_constructArena ⟨pMemory, pMemory, maxSize, count⟩ state.memory
      this fits notNull (by rw [MemoryPool.blockAllSize]; exact bounded)
    have inInt' := (Nat.le_mul_of_pos_right (maxSize + headSize) one).trans_lt inInt
    refine kept.addPool fresh ⟨fits, inInt'⟩ (fun block member => ?_) rfl rfl new
      (fun left member right isNew => ?_) ?_
    · exact head_apart (fun target outside => constructArena_of_outside large one outside)
        (apart block member)
    · obtain ⟨above, below⟩ := MemoryPool.within_of_mem_blocks isNew
      exact (apart left member).symm.imp (fun before => before.trans above) below.trans
    · obtain ⟨count, rfl⟩ := Nat.exists_eq_add_of_le' one
      have chain := @constructArena_chain state.memory this _ _ count large notNull bounded
      rw [MemoryPool.blocks, List.map_map]
      exact chain

end Partitioned

end HeapState

end SocketMessage.Memory
