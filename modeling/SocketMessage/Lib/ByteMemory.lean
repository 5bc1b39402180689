import Mathlib.Data.List.Nodup
import Mathlib.Logic.Function.Basic
import SocketMessage.Lib.Bytes

/-!
# Memory by bytes, and lists threaded through it

Numbers are stored in memory little-endian. A list whose nodes hold the address of the
next one is followed by a `next` function from addresses to addresses; it stays the same
list as long as the `next` of its own nodes does.
-/

namespace SocketMessage.Lib

/-- What each address holds. -/
abbrev ByteMemory := Nat → Byte

namespace ByteMemory

variable {memory other : ByteMemory} {address count value : Nat}

/-- The number in so many bytes, the lowest first. -/
def read (memory : ByteMemory) (address : Nat) : Nat → Nat
  | 0 => 0
  | count + 1 => (memory address).toNat + 256 * memory.read (address + 1) count

/-- Store a number in so many bytes, the lowest first. -/
def write (memory : ByteMemory) (address count value : Nat) : ByteMemory := fun target =>
  if address ≤ target ∧ target < address + count then
    BitVec.ofNat 8 (value / 256 ^ (target - address))
  else memory target

/-- Store one byte. -/
def store (memory : ByteMemory) (address : Nat) (byte : Byte) : ByteMemory :=
  Function.update memory address byte

/-- A read depends on the bytes it reads. -/
theorem read_congr (same : ∀ target, address ≤ target → target < address + count →
    memory target = other target) : memory.read address count = other.read address count := by
  induction count generalizing address with
  | zero => rfl
  | succ count inductionHypothesis =>
      have head := same address (Nat.le_refl _) (by omega)
      have tail := @inductionHypothesis (address + 1) fun target above below =>
        same target (by omega) (by omega)
      rw [read, read, head, tail]

/-- A write changes only the bytes it writes. -/
theorem write_of_outside {target : Nat} (outside : target < address ∨ address + count ≤ target) :
    memory.write address count value target = memory target := by
  unfold write
  rw [if_neg (by omega)]

/-- What has been written is read back, as far as it fits. -/
theorem read_write : (memory.write address count value).read address count = value % 256 ^ count := by
  induction count generalizing memory address value with
  | zero => simp [read, Nat.mod_one]
  | succ count inductionHypothesis =>
      have tail : (memory.write address (count + 1) value).read (address + 1) count =
          (memory.write (address + 1) count (value / 256)).read (address + 1) count := by
        refine read_congr fun target above below => ?_
        have deeper : target - address = target - (address + 1) + 1 := by omega
        unfold write
        rw [if_pos (by omega), if_pos (by omega), deeper, Nat.pow_succ', Nat.div_div_eq_div_mul]
      have head : (memory.write address (count + 1) value address).toNat = value % 256 := by
        unfold write
        rw [if_pos (by omega), Nat.sub_self, Nat.pow_zero, Nat.div_one, BitVec.toNat_ofNat]
      rw [read, head, tail, inductionHypothesis, Nat.pow_succ', Nat.mod_mul]

/-- A read elsewhere sees nothing of a write. -/
theorem read_write_of_disjoint {target width : Nat}
    (disjoint : target + width ≤ address ∨ address + count ≤ target) :
    (memory.write address count value).read target width = memory.read target width :=
  read_congr fun _ _ _ => write_of_outside (by omega)

/-- A number that fits is read back. -/
theorem read_write_of_lt (fits : value < 256 ^ count) :
    (memory.write address count value).read address count = value := by
  rw [read_write, Nat.mod_eq_of_lt fits]

theorem store_of_ne {target : Nat} {byte : Byte} (different : target ≠ address) :
    memory.store address byte target = memory target :=
  Function.update_of_ne different ..

end ByteMemory

/-! ## Lists threaded through memory -/

/-- The nodes met from a head, following `next` until the null address. -/
inductive Chain (next : Nat → Nat) : Nat → List Nat → Prop where
  | nil : Chain next 0 []
  | cons {node : Nat} {rest : List Nat} (notNull : node ≠ 0) (later : Chain next (next node) rest) :
      Chain next node (node :: rest)

namespace Chain

variable {next other : Nat → Nat} {head : Nat} {nodes : List Nat}

/-- The null address has no nodes, and only it. -/
theorem eq_nil_iff (chain : Chain next head nodes) : nodes = [] ↔ head = 0 := by
  cases chain with
  | nil => exact iff_of_true rfl rfl
  | cons notNull _ => exact iff_of_false (List.cons_ne_nil _ _) notNull

/-- There is only one list from a head. -/
theorem unique {left right : List Nat} (isLeft : Chain next head left)
    (isRight : Chain next head right) : left = right := by
  induction isLeft generalizing right with
  | nil => exact (isRight.eq_nil_iff.mpr rfl).symm
  | cons notNull _ inductionHypothesis =>
      cases isRight with
      | nil => exact absurd rfl notNull
      | cons _ later => exact congrArg _ (inductionHypothesis later)

/-- The list stays as long as the `next` of its nodes does. -/
theorem congr (chain : Chain next head nodes) (same : ∀ node ∈ nodes, other node = next node) :
    Chain other head nodes := by
  induction chain with
  | nil => exact .nil
  | cons notNull _ inductionHypothesis =>
      have headSame := same _ List.mem_cons_self
      refine .cons notNull ?_
      rw [headSame]
      exact inductionHypothesis fun node member => same node (List.mem_cons_of_mem _ member)

/-- The head is the first node, and what it points to is the rest. -/
theorem uncons (chain : Chain next head nodes) (notNull : head ≠ 0) :
    ∃ rest, nodes = head :: rest ∧ Chain next (next head) rest := by
  cases chain with
  | nil => exact absurd rfl notNull
  | cons _ later => exact ⟨_, rfl, later⟩

/-- The list from a node in the middle is what follows it. -/
theorem of_append {before after : List Nat} {node : Nat}
    (chain : Chain next head (before ++ node :: after)) : Chain next node (node :: after) := by
  induction before generalizing head with
  | nil =>
      cases chain with
      | cons notNull later => exact .cons notNull later
  | cons first before inductionHypothesis =>
      cases chain with
      | cons _ later => exact inductionHypothesis later

/-- Nodes that lie in a row, each pointing to the following one and the last to null. -/
theorem ofRow {node : Nat → Nat} {count : Nat} (start : Nat)
    (notNull : ∀ index ≤ start + count, node index ≠ 0)
    (later : ∀ index < start + count, next (node index) = node (index + 1))
    (last : next (node (start + count)) = 0) :
    Chain next (node start) ((List.range' start (count + 1)).map node) := by
  induction count generalizing start with
  | zero =>
      refine .cons (notNull start (Nat.le_refl _)) ?_
      have isNull : next (node start) = 0 := last
      rw [isNull]
      exact .nil
  | succ count inductionHypothesis =>
      have shifted : start + 1 + count = start + (count + 1) := by omega
      have rest := inductionHypothesis (start + 1) (shifted ▸ notNull) (shifted ▸ later)
        (shifted ▸ last)
      refine .cons (notNull start (Nat.le_add_right _ _)) ?_
      rw [later start (by omega)]
      exact rest

/-- A list that ends has no node twice: from a repeated node it would go on for ever. -/
theorem nodup (chain : Chain next head nodes) : nodes.Nodup := by
  induction chain with
  | nil => exact List.nodup_nil
  | @cons node rest notNull later inductionHypothesis =>
      refine List.nodup_cons.mpr ⟨fun member => ?_, inductionHypothesis⟩
      obtain ⟨before, after, rfl⟩ := List.append_of_mem member
      have same := later.of_append.unique (.cons notNull later)
      have lengths := congrArg List.length same
      simp only [List.length_cons, List.length_append] at lengths
      omega

end Chain

end SocketMessage.Lib
