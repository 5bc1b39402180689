import SocketMessage.Memory.Partition

/-!
# What the calls do

In a state that is partitioned, `AllocMemory` adds one block to those of the callers, and
`FreeMemory` takes it back to the pool that it came from. Since every call leaves a state
that is partitioned, this is so in every run.
-/

namespace SocketMessage.Memory

open SocketMessage.Lib

namespace HeapState

variable {state after : HeapState} {this size ptr : Nat} {pool : MemoryPool} {block : Block}
  {malloc : Malloc}

/-- A caller has one more block: of which pool, of which kind and how large at least. -/
def Gains (state after : HeapState) (this : Nat) (isBlock : Bool) (size : Nat) : Prop :=
  ∃ block, after.live = state.live ++ [block] ∧ block.owner = this ∧ block.isBlock = isBlock ∧
    size ≤ block.size

/-- A caller's block is its pool's again: the first of the list, or back with `malloc`. -/
def Returns (state after : HeapState) (block : Block) : Prop :=
  ∃ pool, state.pools block.owner = some pool ∧ after.live = state.live.erase block ∧
    after.pools = if block.isBlock then
      Function.update state.pools block.owner (some { pool with pHead := block.address })
    else state.pools

namespace Partitioned

/-- `AllocMemory(size)` gains a block of `malloc`. -/
theorem allocSize (kept : state.Partitioned) (offers : state.Offers malloc)
    (found : state.pools this = some pool) (large : pool.blockMaxSize ≤ size)
    (bounded : size < 2 ^ 31) (stepped : state.allocSize this size malloc = some after) :
    after.Partitioned ∧ state.Gains after this false size := by
  unfold HeapState.allocSize at stepped
  cases answer : malloc (mallocSize size) with
  | none =>
      rw [answer] at stepped
      cases stepped
  | some block =>
      obtain ⟨address, given⟩ := block
      rw [answer] at stepped
      obtain rfl := Option.some.inj stepped
      obtain ⟨enough, granted⟩ := offers _ _ _ answer
      have payload := (le_mallocSize bounded).trans enough
      exact ⟨kept.grant found large payload granted rfl rfl rfl,
        _, rfl, rfl, rfl, Nat.le_sub_of_add_le payload⟩

/-- `AllocMemory()` gains a block of the arena, or one of `malloc` when none is free. -/
theorem allocMemory (kept : state.Partitioned) (offers : state.Offers malloc)
    (found : state.pools this = some pool) (stepped : state.allocMemory this malloc = some after) :
    after.Partitioned ∧ state.Gains after this (pool.pHead ≠ 0) pool.blockMaxSize := by
  unfold HeapState.allocMemory at stepped
  rw [found, Option.bind_eq_bind, Option.bind_some] at stepped
  by_cases notNull : pool.pHead ≠ 0
  · rw [if_pos notNull] at stepped
    obtain rfl := Option.some.inj stepped
    exact ⟨kept.take found notNull rfl rfl rfl,
      _, rfl, rfl, (decide_eq_true notNull).symm, Nat.le_refl _⟩
  · rw [if_neg notNull] at stepped
    rw [decide_eq_false notNull]
    have bounded := (kept.bounds this pool found).2
    exact kept.allocSize offers found (Nat.le_refl _) (by omega) stepped

/-- The manager gains a block of one of its pools that is large enough. -/
theorem mgrAllocMemory {mgr : MemoryMgr} {size : Int} (kept : state.Partitioned)
    (offers : state.Offers malloc) (bounded : size < 2 ^ 31) (constructed : mgr.Constructed state)
    (stepped : mgr.allocMemory state size malloc = some after) :
    after.Partitioned ∧ ∃ entry ∈ mgr.entries, ∃ pool,
      state.pools entry.address = some pool ∧
        state.Gains after entry.address (pool.pHead ≠ 0) size.toNat := by
  rw [mgr.allocMemory_eq] at stepped
  cases chosen : mgr.entryFor size with
  | some entry =>
      rw [chosen] at stepped
      obtain ⟨isSized, fits⟩ := MemoryMgr.of_entryFor chosen
      have member : entry ∈ mgr.entries := List.mem_append_left _ isSized
      obtain ⟨pool, found, blockSize, _⟩ := constructed entry member
      obtain ⟨keptAfter, block, live, owner, flag, large⟩ := kept.allocMemory offers found stepped
      exact ⟨keptAfter, entry, member, pool, found, block, live, owner, flag, by omega⟩
  | none =>
      rw [chosen] at stepped
      have member : mgr.other ∈ mgr.entries :=
        List.mem_append_right _ (List.mem_singleton_self _)
      obtain ⟨pool, found, blockSize, count⟩ := constructed mgr.other member
      have isNull : pool.pHead = 0 := by
        obtain ⟨free, chain, perm⟩ := kept.chained _ pool found
        have noBlocks : pool.blocks mgr.other.address = [] := by
          rw [MemoryPool.blocks, count]
          rfl
        rw [noBlocks] at perm
        have noFree := (List.append_eq_nil_iff.mp perm.eq_nil).1
        exact chain.eq_nil_iff.mp (congrArg _ noFree)
      have zero : pool.blockMaxSize = 0 := blockSize
      have gained := kept.allocSize offers found (by omega) (by omega) stepped
      have noneFree : decide (pool.pHead ≠ 0) = false := decide_eq_false (not_not.mpr isNull)
      exact ⟨gained.1, mgr.other, member, pool, found, noneFree ▸ gained.2⟩

/-- The pointer says which block the caller no longer has. -/
theorem live_drop (kept : state.Partitioned) (isLive : block ∈ state.live) :
    (state.drop block.ptr).live = state.live.erase block := by
  rw [kept.nodup.erase_eq_filter]
  refine List.filter_congr fun other isOther => ?_
  have same : other.ptr = block.ptr ↔ other = block :=
    ⟨kept.laid.eq_of_ptr (kept.live other isOther) (kept.live block isLive), congrArg _⟩
  rw [bne, Bool.beq_eq_decide_eq, decide_not, decide_eq_decide.mpr same]

/-- `FreeMemory` succeeds, and the pool has the block back. -/
theorem freeMemory (kept : state.Partitioned) (isLive : block ∈ state.live) :
    ∃ after, state.freeMemory block.owner block.ptr = some after ∧ after.Partitioned ∧
      state.Returns after block := by
  have member := kept.live block isLive
  obtain ⟨pool, found, _⟩ := kept.sizes block isLive
  have address : block.ptr - headSize = block.address := Nat.add_sub_cancel ..
  unfold HeapState.freeMemory
  rw [found, Option.bind_eq_bind, Option.bind_some]
  simp only [address]
  rw [kept.laid.isBlock block member]
  cases flag : block.isBlock with
  | true =>
      refine ⟨_, if_pos rfl, kept.giveBack found (mem_taken_iff.mpr ⟨isLive, rfl, flag⟩) rfl rfl
        (kept.live_drop isLive), pool, found, kept.live_drop isLive, ?_⟩
      rw [if_pos flag]
  | false =>
      refine ⟨_, if_neg Bool.false_ne_true, kept.release flag rfl rfl (kept.live_drop isLive),
        pool, found, kept.live_drop isLive, ?_⟩
      rw [if_neg (by simp [flag])]
      rfl

/-- The head of a block says to which pool it returns. -/
theorem mgrFreeMemory (kept : state.Partitioned) (isLive : block ∈ state.live) :
    MemoryMgr.freeMemory state block.ptr = state.freeMemory block.owner block.ptr := by
  unfold MemoryMgr.freeMemory
  rw [Block.ptr, Nat.add_sub_cancel, kept.laid.poolOf block (kept.live block isLive)]

/-- Every call leaves a state that is partitioned. -/
theorem step {event : HeapEvent} (kept : state.Partitioned)
    (transition : heapSystem.Step state event after) : after.Partitioned := by
  obtain ⟨allowed, stepped⟩ := transition
  cases event with
  | construct this maxSize count pMemory =>
      obtain rfl := Option.some.inj stepped
      exact kept.construct allowed
  | allocMemory this malloc =>
      cases found : state.pools this with
      | none =>
          have failed : state.allocMemory this malloc = none := by
            rw [HeapState.allocMemory, found]
            rfl
          cases failed.symm.trans stepped
      | some pool => exact (kept.allocMemory allowed found stepped).1
  | allocSize this size malloc =>
      obtain ⟨offers, bounded, pool, found, large⟩ := allowed
      exact (kept.allocSize offers found large bounded stepped).1
  | freeMemory this ptr =>
      obtain ⟨block, isLive, rfl, rfl⟩ := allowed
      obtain ⟨_, freed, keptAfter, _⟩ := kept.freeMemory isLive
      obtain rfl := Option.some.inj (freed.symm.trans stepped)
      exact keptAfter
  | mgrAllocMemory mgr size malloc =>
      obtain ⟨offers, bounded, constructed⟩ := allowed
      exact (kept.mgrAllocMemory offers bounded constructed stepped).1
  | mgrFreeMemory ptr =>
      obtain ⟨block, isLive, rfl⟩ := allowed
      obtain ⟨_, freed, keptAfter, _⟩ := kept.freeMemory isLive
      obtain rfl := Option.some.inj ((kept.mgrFreeMemory isLive).trans freed |>.symm.trans stepped)
      exact keptAfter
  | store address byte =>
      obtain rfl := Option.some.inj stepped
      exact kept.store allowed

end Partitioned

/-! ## Every run -/

/-- What is so of the blocks, between the calls. -/
structure Accounted (state : HeapState) : Prop where
  /-- The list from `m_pHead` ends, has no block twice, and is, together with the blocks of
  the arena that callers have, the arena. -/
  arenas : ∀ this pool, state.pools this = some pool → ∃ free : List Block,
    Chain (next state.memory) pool.pHead (free.map Block.address) ∧
      (free.map Block.address).Nodup ∧
      (free ++ state.taken this).Perm (pool.blocks this) ∧ (pool.blocks this).Nodup
  /-- No byte is in two payloads. -/
  payloads : state.live.Pairwise fun left right => left.stop ≤ right.ptr ∨ right.stop ≤ left.ptr
  /-- No payload is smaller than the blocks of its pool. -/
  sizes : ∀ block ∈ state.live, ∃ pool, state.pools block.owner = some pool ∧
    pool.blockMaxSize ≤ block.size
  /-- No block of `malloc` is on any list. -/
  fallback : ∀ block ∈ state.live, block.isBlock = false → ∀ this pool nodes,
    state.pools this = some pool → Chain (next state.memory) pool.pHead nodes →
      block.address ∉ nodes

/-- What the calls that may come next do. -/
structure Served (state : HeapState) : Prop where
  /-- A pool's `AllocMemory()` yields a block of `malloc` exactly when the list is empty. -/
  alloc : ∀ this pool malloc after, state.pools this = some pool →
    heapSystem.Step state (.allocMemory this malloc) after →
      state.Gains after this (pool.pHead ≠ 0) pool.blockMaxSize
  /-- So does the manager's `AllocMemory`, for one of its pools. -/
  mgrAlloc : ∀ (mgr : MemoryMgr) size malloc after,
    heapSystem.Step state (.mgrAllocMemory mgr size malloc) after →
      ∃ entry ∈ mgr.entries, ∃ pool, state.pools entry.address = some pool ∧
        state.Gains after entry.address (pool.pHead ≠ 0) size.toNat
  /-- `FreeMemory` of the manager, as that of the pool, gives the pool the block back. -/
  free : ∀ block ∈ state.live, ∃ after,
    heapSystem.Step state (.mgrFreeMemory block.ptr) after ∧
      heapSystem.Step state (.freeMemory block.owner block.ptr) after ∧ state.Returns after block

namespace Partitioned

theorem accounted (kept : state.Partitioned) : state.Accounted where
  arenas this pool found := by
    obtain ⟨free, chain, perm⟩ := kept.chained this pool found
    exact ⟨free, chain, chain.nodup, perm, pool.nodup_blocks this⟩
  payloads := by
    refine kept.nodup.imp_of_mem fun isLeft isRight different => ?_
    have apart := kept.laid.apart _ (kept.live _ isLeft) _ (kept.live _ isRight) different
    exact apart.imp (fun before => before.trans (Nat.le_add_right _ _))
      fun behind => behind.trans (Nat.le_add_right _ _)
  sizes := kept.sizes
  fallback block isLive flag this pool nodes found isChain member := by
    obtain ⟨free, chain, perm⟩ := kept.chained this pool found
    rw [isChain.unique chain] at member
    obtain ⟨other, isFree, address⟩ := List.mem_map.mp member
    have inArena := perm.subset (List.mem_append_left _ isFree)
    obtain rfl := kept.laid.eq_of_address (mem_blocks_of_arena found inArena)
      (kept.live block isLive) address
    exact not_mem_live_of_free perm isFree isLive

theorem served (kept : state.Partitioned) : state.Served where
  alloc this pool malloc after found transition :=
    (kept.allocMemory transition.1 found transition.2).2
  mgrAlloc mgr size malloc after transition := by
    obtain ⟨⟨offers, bounded, constructed⟩, stepped⟩ := transition
    exact (kept.mgrAllocMemory offers bounded constructed stepped).2
  free block isLive := by
    obtain ⟨after, freed, _, returns⟩ := kept.freeMemory isLive
    exact ⟨after, ⟨⟨block, isLive, rfl⟩, (kept.mgrFreeMemory isLive).trans freed⟩,
      ⟨⟨block, isLive, rfl, rfl⟩, freed⟩, returns⟩

end Partitioned

/-- What is so without pools. -/
theorem partitioned_of_initial (initial : heapSystem.Initial state) : state.Partitioned := by
  obtain ⟨noPools, noneLive⟩ := initial
  have notLive : ∀ block, block ∉ state.live := fun block => noneLive ▸ List.not_mem_nil
  have noBlock : ∀ block, block ∉ state.blocks := by
    rintro block (member | ⟨isLive, _⟩)
    · unfold arena at member
      rw [noPools] at member
      cases member
    · exact notLive block isLive
  have noPool : ∀ this pool, state.pools this ≠ some pool := fun this pool found => by
    rw [noPools] at found
    cases found
  exact {
    laid := by constructor <;> exact fun block member => absurd member (noBlock block)
    live := fun block isLive => absurd isLive (notLive block)
    sizes := fun block isLive => absurd isLive (notLive block)
    nodup := noneLive ▸ List.nodup_nil
    bounds := fun this pool found => absurd found (noPool this pool)
    chained := fun this pool found => absurd found (noPool this pool) }

/-- In every run the blocks are accounted for, and the calls do what they should. -/
theorem memory_partitioned (reachable : heapSystem.Reachable state) :
    state.Accounted ∧ state.Served := by
  obtain ⟨_, run⟩ := reachable
  have kept : state.Partitioned :=
    run.invariant (fun _ => partitioned_of_initial) fun _ _ _ kept transition _ =>
      kept.step transition
  exact ⟨kept.accounted, kept.served⟩

/-- A pool of two blocks. -/
def twoFree : HeapState :=
  HeapState.construct ⟨fun _ => 0, fun _ => none, []⟩ 8 8 2 4096

/-- One of them is a caller's. -/
theorem oneTaken_served : ∃ state, heapSystem.Reachable state ∧
    state.live = [⟨4096, 8, 8, true⟩] ∧ state.Accounted ∧ state.Served := by
  have first : (⟨fun _ => 0, fun _ => none, []⟩ : HeapState).Permits (.construct 8 8 2 4096) := by
    refine ⟨rfl, by decide, Or.inr ⟨by decide, by decide, by decide, by decide, ?_⟩⟩
    rintro block (member | ⟨isLive, _⟩)
    · cases member
    · cases isLive
  have second : twoFree.Permits (.allocMemory 8 fun _ => none) := by
    intro size address given answer
    cases answer
  have start : heapSystem.Initial ⟨fun _ => 0, fun _ => none, []⟩ := ⟨fun _ => rfl, rfl⟩
  have constructed : heapSystem.Runs (fun _ _ _ => True) _ twoFree :=
    (LabelledSystem.Runs.initial start).step ⟨first, rfl⟩ trivial
  have reachable : heapSystem.Runs (fun _ _ _ => True) _ _ :=
    constructed.step ⟨second, rfl⟩ trivial
  exact ⟨_, ⟨_, reachable⟩, rfl, memory_partitioned ⟨_, reachable⟩⟩

end HeapState

end SocketMessage.Memory
