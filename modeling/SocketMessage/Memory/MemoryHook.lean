import SocketMessage.Memory.MemoryMgr

/-!
# The hooked operator new

`operator new` passes its `size_t` on as an `int`, by which the manager chooses the pool, and
the size of a block of `malloc` is an `int` again before it becomes a `size_t`. A request
is served when the payload has as many bytes as were asked for; there is no payload when
`malloc` returns null, as the head is written all the same.
-/

namespace SocketMessage.Memory

open SocketMessage.Lib

namespace MemoryMgr

variable {self : MemoryMgr} {state after : HeapState} {malloc : Malloc} {refuses : Nat → Bool}
  {size : BitVec 64}

/-- `operator new` and `operator new[]`. -/
def operatorNew (self : MemoryMgr) (state : HeapState) (size : BitVec 64) (malloc : Malloc) :
    Option HeapState :=
  self.allocMemory state (int32 size.toNat) malloc

/-- A block with a payload that is large enough is returned, and no null block is written. -/
def Serves (self : MemoryMgr) (state : HeapState) (size : BitVec 64) (malloc : Malloc) : Prop :=
  ∃ after block, self.operatorNew state size malloc = some after ∧
    after.live = state.live ++ [block] ∧ size.toNat ≤ block.size

/-- `malloc` returns null for the sizes that it refuses, else at least what it is asked for. -/
def Answers (refuses : Nat → Bool) (malloc : Malloc) : Prop :=
  ∀ size, if refuses size then malloc size = none
    else ∃ address given, malloc size = some (address, given) ∧ size ≤ given

/-! ## What is asked for, and what the request becomes -/

/-- The pool for a size has a free block. -/
def HasFree (self : MemoryMgr) (state : HeapState) (size : Int) : Prop :=
  ∃ entry pool, self.entryFor size = some entry ∧ state.pools entry.address = some pool ∧
    pool.pHead ≠ 0

/-- The payload that is asked for: a block of a pool, or as much as the `int` says. -/
def payloadFor (self : MemoryMgr) (size : Int) : Nat :=
  (self.entryFor size).elim size.toNat PoolEntry.maxSize

/-- What the call asks `malloc` for, if it does. -/
def requested (self : MemoryMgr) (size : BitVec 64) : Nat :=
  mallocSize (self.payloadFor (int32 size.toNat))

/-- Which requests keep their size: those that fit in an `int`, and those that become an
`int` so large that the sum with the head wraps to a request of nearly the address space. -/
def KeepsSize (size : BitVec 64) : Prop :=
  size.toNat < 2 ^ 31 ∨
    2 ^ 31 - headSize ≤ size.toNat % 2 ^ 32 ∧ size.toNat % 2 ^ 32 < 2 ^ 31

/-- No pool has larger blocks. -/
theorem maxSize_le {entry : PoolEntry} (member : entry ∈ self.sized) : entry.maxSize ≤ 2048 := by
  unfold sized at member
  simp only [List.mem_cons, List.not_mem_nil, or_false] at member
  rcases member with rfl | rfl | rfl | rfl | rfl | rfl | rfl | rfl | rfl <;> simp only <;> omega

/-- What no pool is for is larger than all their blocks. -/
theorem lt_of_entryFor_eq_none {size : Int} (chosen : self.entryFor size = none) :
    2048 < size := by
  have large := List.find?_eq_none.mp chosen ⟨self.memoryPool2048, 2048, 1024⟩ (by simp [sized])
  simpa using large

/-- What the `size_t` becomes. -/
theorem int32_toNat (size : BitVec 64) : int32 size.toNat =
    if size.toNat % 2 ^ 32 < 2 ^ 31 then ((size.toNat % 2 ^ 32 : Nat) : Int)
    else ((size.toNat % 2 ^ 32 : Nat) : Int) - 2 ^ 32 := by
  unfold int32
  rw [Int.bmod_def]
  split_ifs <;> omega

/-- The payload that is asked for fits in an `int`, as what it is chosen for does. -/
theorem payloadFor_lt (size : BitVec 64) : self.payloadFor (int32 size.toNat) < 2 ^ 31 := by
  have converted := int32_toNat size
  unfold payloadFor
  cases chosen : self.entryFor (int32 size.toNat) with
  | some entry =>
      have small := maxSize_le (of_entryFor chosen).1
      rw [Option.elim_some]
      omega
  | none =>
      rw [Option.elim_none]
      split_ifs at converted <;> omega

/-- What is asked for is enough exactly when the request keeps its size. -/
theorem le_requested_iff : size.toNat + headSize ≤ self.requested size ↔ KeepsSize size := by
  have sized : headSize = 24 := rfl
  have bounded := size.isLt
  have converted := int32_toNat size
  unfold requested
  rw [mallocSize_eq (payloadFor_lt size)]
  unfold KeepsSize payloadFor
  cases chosen : self.entryFor (int32 size.toNat) with
  | some entry =>
      obtain ⟨member, fits⟩ := of_entryFor chosen
      have small := maxSize_le member
      rw [Option.elim_some, if_pos (by omega)]
      split_ifs at converted <;> omega
  | none =>
      have large := lt_of_entryFor_eq_none chosen
      rw [Option.elim_none]
      split_ifs at converted ⊢ <;> omega

/-! ## What is returned -/

/-- A free block is as large as those of its pool, whatever `malloc` answers. -/
theorem serves_iff_of_hasFree (constructed : self.Constructed state)
    (free : self.HasFree state (int32 size.toNat)) :
    self.Serves state size malloc ↔ KeepsSize size := by
  obtain ⟨entry, pool, chosen, found, notNull⟩ := free
  obtain ⟨member, _⟩ := of_entryFor chosen
  obtain ⟨pool', found', blockSize, _⟩ :=
    constructed entry (List.mem_append_left _ member)
  cases found.symm.trans found'
  have stepped : ∃ after, self.operatorNew state size malloc = some after ∧
      after.live = state.live ++ [⟨pool.pHead, pool.blockMaxSize, entry.address, true⟩] := by
    unfold operatorNew
    rw [allocMemory_eq, chosen, Option.elim_some]
    unfold HeapState.allocMemory
    rw [found, Option.bind_eq_bind, Option.bind_some, if_pos notNull]
    exact ⟨_, rfl, rfl⟩
  have enough : size.toNat ≤ entry.maxSize ↔ KeepsSize size := by
    have small := maxSize_le member
    have sized : headSize = 24 := rfl
    rw [← @le_requested_iff self size, requested, payloadFor, chosen, Option.elim_some,
      mallocSize_eq (by omega), if_pos (by omega)]
    omega
  rw [← enough, ← blockSize]
  obtain ⟨after, isAfter, live⟩ := stepped
  constructor
  · rintro ⟨other, block, isOther, live', large⟩
    cases isAfter.symm.trans isOther
    cases List.append_cancel_left (live.symm.trans live')
    exact large
  · exact fun large => ⟨after, _, isAfter, live, large⟩

/-- Without a free block it is `AllocMemory(size)` of some pool. -/
theorem operatorNew_eq_allocSize (constructed : self.Constructed state)
    (noneFree : ¬self.HasFree state (int32 size.toNat)) :
    ∃ this, self.operatorNew state size malloc =
      state.allocSize this (self.payloadFor (int32 size.toNat)) malloc := by
  unfold operatorNew payloadFor
  rw [allocMemory_eq]
  cases chosen : self.entryFor (int32 size.toNat) with
  | some entry =>
      obtain ⟨pool, found, blockSize, _⟩ :=
        constructed entry (List.mem_append_left _ (of_entryFor chosen).1)
      have isNull : ¬pool.pHead ≠ 0 := fun notNull =>
        noneFree ⟨entry, pool, chosen, found, notNull⟩
      refine ⟨entry.address, ?_⟩
      rw [Option.elim_some, Option.elim_some, ← blockSize, HeapState.allocMemory, found,
        Option.bind_eq_bind, Option.bind_some, if_neg isNull]
  | none =>
      refine ⟨self.other.address, ?_⟩
      rw [Option.elim_none, Option.elim_none]

/-- Then the request is served when `malloc` returns a block that is large enough. -/
theorem serves_iff_of_not_hasFree (constructed : self.Constructed state)
    (noneFree : ¬self.HasFree state (int32 size.toNat)) :
    self.Serves state size malloc ↔
      ∃ address given, malloc (self.requested size) = some (address, given) ∧
        size.toNat ≤ given - headSize := by
  obtain ⟨this, routed⟩ := @operatorNew_eq_allocSize self state malloc size constructed noneFree
  unfold Serves
  rw [routed]
  unfold HeapState.allocSize
  rw [← requested]
  cases malloc (self.requested size) with
  | none =>
      constructor
      · rintro ⟨_, _, stepped, _⟩
        cases stepped
      · rintro ⟨_, _, answer, _⟩
        cases answer
  | some block =>
      obtain ⟨address, given⟩ := block
      constructor
      · rintro ⟨after, block, stepped, live, large⟩
        obtain rfl := Option.some.inj stepped
        cases List.append_cancel_left live
        exact ⟨address, given, rfl, large⟩
      · rintro ⟨_, _, answer, large⟩
        cases answer
        exact ⟨_, _, rfl, rfl, large⟩

/-- An answer with exactly what is asked for. -/
theorem answers_exactly (refuses : Nat → Bool) :
    Answers refuses fun size => if refuses size then none else some (0, size) := by
  intro size
  by_cases refused : refuses size
  · rw [if_pos refused]
    exact if_pos refused
  · rw [if_neg refused]
    exact ⟨0, size, if_neg refused, Nat.le_refl _⟩

/-- A request is served, whatever `malloc` answers, exactly when it keeps its size and
`malloc` does not refuse it where there is no free block. -/
theorem operatorNew_serves_iff (constructed : self.Constructed state) (size : BitVec 64)
    (refuses : Nat → Bool) :
    (∀ malloc, Answers refuses malloc → self.Serves state size malloc) ↔
      KeepsSize size ∧
        (self.HasFree state (int32 size.toNat) ∨ refuses (self.requested size) = false) := by
  have sized : headSize = 24 := rfl
  have head : headSize ≤ self.requested size :=
    (Nat.le_add_left _ _).trans (le_mallocSize (payloadFor_lt size))
  by_cases free : self.HasFree state (int32 size.toNat)
  · constructor
    · intro served
      exact ⟨(serves_iff_of_hasFree constructed free).mp (served _ (answers_exactly refuses)),
        Or.inl free⟩
    · rintro ⟨keeps, _⟩ malloc _
      exact (serves_iff_of_hasFree constructed free).mpr keeps
  · constructor
    · intro served
      obtain ⟨address, given, answer, large⟩ :=
        (serves_iff_of_not_hasFree constructed free).mp (served _ (answers_exactly refuses))
      obtain ⟨notRefused, exactly⟩ := Option.ite_none_left_eq_some.mp answer
      cases exactly
      exact ⟨(@le_requested_iff self size).mp (by omega), Or.inr (Bool.eq_false_iff.mpr notRefused)⟩
    · rintro ⟨keeps, isFree | notRefused⟩ malloc answers
      · exact absurd isFree free
      · have answer := answers (self.requested size)
        rw [notRefused, if_neg Bool.false_ne_true] at answer
        obtain ⟨address, given, answer, enough⟩ := answer
        have large := (@le_requested_iff self size).mpr keeps
        exact (serves_iff_of_not_hasFree constructed free).mpr
          ⟨address, given, answer, by omega⟩

/-- The ten pools, constructed. -/
def tenPools : MemoryMgr := ⟨64, 128, 192, 256, 320, 384, 448, 512, 576, 640⟩

def tenConstructed : HeapState :=
  tenPools.construct ⟨fun _ => 0, fun _ => none, []⟩ fun entry => 2 ^ 18 * entry.address

/-- A request of a hundred bytes is served as long as `malloc` does not refuse. -/
theorem hundred_served : tenPools.Constructed tenConstructed ∧
    ∀ malloc, Answers (fun _ => false) malloc → tenPools.Serves tenConstructed 100 malloc :=
  ⟨constructed_construct (by decide),
    (operatorNew_serves_iff (constructed_construct (by decide)) 100 fun _ => false).mpr
      ⟨Or.inl (by decide), Or.inr rfl⟩⟩

/-- A request of four gigabytes becomes one of no bytes, and gets a block of eight. -/
theorem fourGigabytes_not_served : ¬∀ malloc, Answers (fun _ => false) malloc →
    tenPools.Serves tenConstructed (BitVec.ofNat 64 (2 ^ 32)) malloc := by
  intro served
  have constructed : tenPools.Constructed tenConstructed := constructed_construct (by decide)
  have free : tenPools.HasFree tenConstructed (int32 (BitVec.ofNat 64 (2 ^ 32)).toNat) :=
    ⟨⟨64, 8, 2048⟩, ⟨2 ^ 24, 2 ^ 24, 8, 2048⟩, by decide, rfl, by decide⟩
  have keeps := (serves_iff_of_hasFree constructed free).mp (served _ (answers_exactly _))
  unfold KeepsSize at keeps
  exact absurd keeps (by decide)

end MemoryMgr

end SocketMessage.Memory
