import SocketMessage.Lib.Bytes

/-!
# Cutting a buffer into packages

A frame is a `SocketHead`, the four-byte `PackageCount`, followed by that many
bytes. `Client4ReadCallback` on the server and `ClientReadPackageCallback` on the
client run the same loop over the read buffer, in `int` arithmetic. `new char[n]`
throws for a negative `n`; a `memcpy` beyond the buffer ends the model's run.

The read-package callback is the one `MainControl` and the SDK install, which takes
the bytes over and returns.
-/

namespace SocketMessage.Frame

open SocketMessage.Lib

/-- `SocketHead::SocketHeadSize`. -/
abbrev socketHeadSize : Int := 4

/-- How a run of the loop ended. `running` is a run cut off by the model's bound. -/
inductive LoopExit where
  | returned (offset : Int)
  | threw
  | outside
  | running
deriving DecidableEq, Repr

/-- A package handed to the callback: where in the buffer it came from, its bytes. -/
structure Delivery where
  start : Int
  bytes : List Byte
deriving DecidableEq, Repr

/-- What a run of the loop did: sizes passed to `new`, packages delivered, its end. -/
structure LoopRun where
  allocations : List Int
  deliveries : List Delivery
  exit : LoopExit
deriving DecidableEq, Repr

/-- A run that does nothing more. -/
def LoopRun.ending (exit : LoopExit) : LoopRun := ⟨[], [], exit⟩

/-- A run whose first pass delivered a package. -/
def LoopRun.delivering (packageCount : Int) (delivery : Delivery) (rest : LoopRun) : LoopRun :=
  ⟨packageCount :: rest.allocations, delivery :: rest.deliveries, rest.exit⟩

/-- The `while` loop both callbacks run, from an offset on, for at most so many passes. -/
def packageLoop (data : List Byte) : Nat → Int → LoopRun
  | 0, _ => .ending .running
  | passes + 1, offset =>
      if (data.length : Int) > int32 (socketHeadSize + offset) then
        match readInt data offset with
        | none => .ending .outside
        | some head =>
            let packageCount := head.toInt
            if data.length < int32 (int32 (offset + socketHeadSize) + packageCount) then
              .ending (.returned offset)
            else if packageCount < 0 then
              ⟨[packageCount], [], .threw⟩
            else
              match readBytes data (socketHeadSize + offset) packageCount.toNat with
              | none => ⟨[packageCount], [], .outside⟩
              | some package =>
                  .delivering packageCount ⟨socketHeadSize + offset, package.1⟩
                    (packageLoop data passes
                      (int32 (offset + int32 (socketHeadSize + packageCount))))
      else .ending (.returned offset)

/-- `SocketControl::ClientReadPackageCallback` on the client. -/
def clientReadPackageCallback (data : List Byte) : LoopRun := packageLoop data (data.length + 1) 0

/-- The counters of received data, `unsigned long long`. -/
structure RecvStatistics where
  recvPackageCount : Nat
  recvByteCount : Nat
deriving DecidableEq, Repr

/-- The counters after one more package. -/
def RecvStatistics.count (statistics : RecvStatistics) (delivery : Delivery) : RecvStatistics where
  recvPackageCount := (statistics.recvPackageCount + 1) % 2 ^ 64
  recvByteCount := (statistics.recvByteCount + socketHeadSize.toNat + delivery.bytes.length) % 2 ^ 64

/-- `SocketControl::Client4ReadCallback` on the server: the same loop, each
delivery counted. -/
def client4ReadCallback (statistics : RecvStatistics) (data : List Byte) :
    LoopRun × RecvStatistics :=
  let run := packageLoop data (data.length + 1) 0
  (run, run.deliveries.foldl RecvStatistics.count statistics)

/-! ## One pass -/

section Pass

variable {data : List Byte} {passes : Nat} {offset : Nat}

/-- With no room for more than a head the loop is done. -/
theorem packageLoop_of_short (short : data.length ≤ 4 + offset) (small : data.length < 2 ^ 30)
    (inside : offset ≤ data.length) :
    packageLoop data (passes + 1) offset = .ending (.returned offset) := by
  have headSize : socketHeadSize = 4 := rfl
  have room : int32 (socketHeadSize + offset) = 4 + offset := by
    apply int32_eq_self <;> omega
  rw [packageLoop, if_neg (by omega)]

/-- Otherwise there is a head to read. -/
theorem exists_head (long : 4 + offset < data.length) :
    ∃ head, readInt data offset = some head := by
  apply Option.isSome_iff_exists.mp
  rw [readInt_isSome_iff]
  omega

/-- What a pass does with the head it has read. -/
theorem packageLoop_of_head (long : 4 + offset < data.length) (small : data.length < 2 ^ 30)
    {head : CInt} (read : readInt data offset = some head) :
    packageLoop data (passes + 1) offset =
      if data.length < int32 (offset + 4 + head.toInt) then .ending (.returned offset)
      else if head.toInt < 0 then ⟨[head.toInt], [], .threw⟩
      else if offset + 4 + head.toInt ≤ data.length then
        .delivering head.toInt
          ⟨(offset + 4 : Nat), (data.drop (offset + 4)).take head.toInt.toNat⟩
          (packageLoop data passes (offset + 4 + head.toInt.toNat : Nat))
      else ⟨[head.toInt], [], .outside⟩ := by
  have headSize : socketHeadSize = 4 := rfl
  have room : int32 (socketHeadSize + offset) = 4 + offset := by
    apply int32_eq_self <;> omega
  have start : int32 (offset + socketHeadSize) = offset + 4 := by
    apply int32_eq_self <;> omega
  rw [packageLoop, if_pos (by omega), read]
  simp only [start]
  split
  · rfl
  split
  · rfl
  next nonnegative =>
    have place : socketHeadSize + (offset : Int) = (offset + 4 : Nat) := by omega
    split
    · next outside =>
      have beyond : ¬ (offset + 4 + head.toInt ≤ data.length) := by
        intro within
        have some_bytes := (@readBytes_isSome_iff data (socketHeadSize + offset)
          head.toInt.toNat).mpr (by omega)
        rw [outside] at some_bytes
        cases some_bytes
      rw [if_neg beyond]
    · next package copied =>
      obtain ⟨_, within, content⟩ := readBytes_eq_some copied
      have next : int32 (offset + int32 (socketHeadSize + head.toInt)) =
          (offset + 4 + head.toInt.toNat : Nat) := by
        have step : int32 (socketHeadSize + head.toInt) = 4 + head.toInt := by
          apply int32_eq_self <;> omega
        rw [step, int32_eq_self (by omega) (by omega)]
        omega
      rw [if_pos (by omega), next, content, place]
      rfl

end Pass

/-! ## Arbitrary bytes -/

/-- Where a delivered package ends in the buffer. -/
def Delivery.finish (delivery : Delivery) : Int := delivery.start + delivery.bytes.length

/-- From a place in the buffer on, a run asked for no negative size, delivered
packages from inside the buffer that do not overlap, and returned an offset in it. -/
structure LoopRun.Safe (run : LoopRun) (size : Nat) (first : Int) : Prop where
  allocations : ∀ count ∈ run.allocations, 0 ≤ count
  inside : ∀ delivery ∈ run.deliveries, first ≤ delivery.start ∧ delivery.finish ≤ size
  disjoint : run.deliveries.Pairwise fun left right => left.finish ≤ right.start
  returned : ∃ offset, run.exit = .returned offset ∧ 0 ≤ offset ∧ offset ≤ size

/-- Every head met on the way from frame to frame announces a size that is not
negative and whose frame would end below 2^31. -/
inductive HeadsFit (data : List Byte) : Nat → Prop where
  | short {offset} (few : data.length ≤ 4 + offset) : HeadsFit data offset
  | unfinished {offset head} (long : 4 + offset < data.length)
      (read : readInt data offset = some head) (missing : data.length < offset + 4 + head.toInt)
      (representable : offset + 4 + head.toInt < 2 ^ 31) : HeadsFit data offset
  | whole {offset head} (long : 4 + offset < data.length)
      (read : readInt data offset = some head) (nonnegative : 0 ≤ head.toInt)
      (present : offset + 4 + head.toInt ≤ data.length)
      (rest : HeadsFit data (offset + 4 + head.toInt.toNat)) : HeadsFit data offset

/-- The run that stops where it stands is safe. -/
theorem LoopRun.safe_returned {size offset : Nat} (inside : offset ≤ size) :
    (LoopRun.ending (.returned offset)).Safe size offset where
  allocations := by simp [LoopRun.ending]
  inside := by simp [LoopRun.ending]
  disjoint := List.Pairwise.nil
  returned := ⟨offset, rfl, by omega, by omega⟩

/-- Delivering a whole frame is as safe as the rest of the run. -/
theorem LoopRun.safe_delivering_iff {size offset : Nat} {count : Int} {bytes : List Byte}
    {rest : LoopRun} (nonnegative : 0 ≤ count) (exact_size : (bytes.length : Int) = count)
    (present : offset + 4 + count ≤ size) :
    (LoopRun.delivering count ⟨(offset + 4 : Nat), bytes⟩ rest).Safe size offset ↔
      rest.Safe size (offset + 4 + count.toNat : Nat) := by
  have finish : Delivery.finish ⟨(offset + 4 : Nat), bytes⟩ = (offset + 4 + count.toNat : Nat) := by
    simp only [Delivery.finish]
    omega
  constructor
  · rintro ⟨allocations, inside, disjoint, returned⟩
    obtain ⟨later, disjointRest⟩ := List.pairwise_cons.mp disjoint
    refine ⟨(List.forall_mem_cons.mp allocations).2, fun delivery member => ?_, disjointRest,
      returned⟩
    rw [← finish]
    exact ⟨later delivery member, ((List.forall_mem_cons.mp inside).2 delivery member).2⟩
  · rintro ⟨allocations, inside, disjoint, returned⟩
    refine ⟨?_, ?_, ?_, returned⟩
    · exact List.forall_mem_cons.mpr ⟨nonnegative, allocations⟩
    · refine List.forall_mem_cons.mpr ⟨?_, fun delivery member => ?_⟩
      · rw [finish]
        simp only
        omega
      · have bounds := inside delivery member
        omega
    · refine List.pairwise_cons.mpr ⟨fun delivery member => ?_, disjoint⟩
      rw [finish]
      exact (inside delivery member).1

/-- Up to 2^30 bytes, a run from an offset on is safe exactly when the heads fit. -/
theorem packageLoop_safe_iff {data : List Byte} {passes offset : Nat}
    (small : data.length < 2 ^ 30) (inside : offset ≤ data.length)
    (enough : data.length - offset < passes) :
    (packageLoop data passes offset).Safe data.length offset ↔ HeadsFit data offset := by
  induction passes generalizing offset with
  | zero => omega
  | succ passes inductionHypothesis =>
      by_cases short : data.length ≤ 4 + offset
      · rw [packageLoop_of_short short small inside]
        exact ⟨fun _ => .short short, fun _ => LoopRun.safe_returned inside⟩
      have long : 4 + offset < data.length := by omega
      obtain ⟨head, read⟩ := exists_head long
      have lower := BitVec.le_toInt head
      have upper := @BitVec.toInt_lt _ head
      have same : ∀ {other}, readInt data offset = some other → other = head := fun readOther =>
        Option.some.inj (readOther.symm.trans read)
      rw [packageLoop_of_head long small read]
      by_cases wrapped : 2 ^ 31 ≤ offset + 4 + head.toInt
      · -- The sum wraps to a negative number: the break is missed.
        have negative : int32 (offset + 4 + head.toInt) = offset + 4 + head.toInt - 2 ^ 32 :=
          int32_eq_sub wrapped (by omega)
        rw [negative, if_neg (by omega), if_neg (by omega), if_neg (by omega)]
        constructor
        · rintro ⟨_, _, _, ⟨_, ended, _⟩⟩
          cases ended
        · rintro (few | ⟨_, readOther, missing, representable⟩ | ⟨_, readOther, _, present⟩)
          · omega
          · obtain rfl := same readOther
            omega
          · obtain rfl := same readOther
            omega
      have exact_sum : int32 (offset + 4 + head.toInt) = offset + 4 + head.toInt := by
        apply int32_eq_self <;> omega
      rw [exact_sum]
      by_cases missing : data.length < offset + 4 + head.toInt
      · rw [if_pos missing]
        exact ⟨fun _ => .unfinished long read missing (by omega),
          fun _ => LoopRun.safe_returned inside⟩
      rw [if_neg missing]
      by_cases negative : head.toInt < 0
      · rw [if_pos negative]
        constructor
        · rintro ⟨allocations, _⟩
          have nonnegative := allocations head.toInt (by simp)
          omega
        · rintro (few | ⟨_, readOther, unfinished, _⟩ | ⟨_, readOther, nonnegative, _⟩)
          · omega
          · obtain rfl := same readOther
            omega
          · obtain rfl := same readOther
            omega
      rw [if_neg negative, if_pos (by omega),
        LoopRun.safe_delivering_iff (by omega) (by simp; omega) (by omega),
        inductionHypothesis (by omega) (by omega)]
      constructor
      · exact fun rest => .whole long read (by omega) (by omega) rest
      · rintro (few | ⟨_, readOther, unfinished, _⟩ | ⟨_, readOther, _, _, rest⟩)
        · omega
        · obtain rfl := same readOther
          omega
        · obtain rfl := same readOther
          exact rest

/-- Both callbacks are safe on a buffer exactly when the heads in it fit. -/
theorem readCallbacks_safe_iff (data : List Byte) (bounded : data.length ≤ 100 * 1024) :
    (∀ statistics, (client4ReadCallback statistics data).1.Safe data.length 0 ↔
      HeadsFit data 0) ∧
    ((clientReadPackageCallback data).Safe data.length 0 ↔ HeadsFit data 0) := by
  have loop := @packageLoop_safe_iff data (data.length + 1) 0 (by omega) (by omega) (by omega)
  exact ⟨fun _ => loop, loop⟩

/-- One frame of one byte and half a head. -/
def oneAndAHalf : List Byte := [1, 0, 0, 0, 7, 9, 0]

theorem oneAndAHalf_safe :
    (clientReadPackageCallback oneAndAHalf).Safe 7 0 := by
  refine (readCallbacks_safe_iff oneAndAHalf (by decide)).2.mpr ?_
  exact .whole (by decide) (show readInt oneAndAHalf 0 = some 1 by decide) (by decide) (by decide)
    (.short (by decide))

/-- A head of -1 and one more byte. -/
def minusOne : List Byte := [255, 255, 255, 255, 0]

/-- Both callbacks ask for an array of -1 bytes. -/
theorem minusOne_not_safe :
    minusOne.length ≤ 100 * 1024 ∧
      ¬ (client4ReadCallback ⟨0, 0⟩ minusOne).1.Safe minusOne.length 0 ∧
      ¬ (clientReadPackageCallback minusOne).Safe minusOne.length 0 := by
  have run : packageLoop minusOne (minusOne.length + 1) 0 = ⟨[-1], [], .threw⟩ := by decide
  have refuted : ¬ LoopRun.Safe ⟨[-1], [], .threw⟩ minusOne.length 0 := by
    rintro ⟨allocations, _⟩
    exact absurd (allocations (-1) (by simp)) (by decide)
  refine ⟨by decide, ?_, ?_⟩
  · rw [client4ReadCallback, run]
    exact refuted
  · rw [clientReadPackageCallback, run]
    exact refuted

end SocketMessage.Frame
