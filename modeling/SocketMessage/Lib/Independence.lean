import SocketMessage.Lib.Bytes

/-!
# What a result owes to the memory it was built in

A builder fills memory that holds anything. Its result is independent of that memory
when two runs that start from different contents agree.
-/

namespace SocketMessage.Lib

variable {Memory Result : Type}

/-- Whatever the memory held, the result is the same. -/
def Independent (produce : Memory → Result) : Prop :=
  ∀ memory memory', produce memory = produce memory'

/-- A result that does not mention the memory. -/
theorem independent_of_const {produce : Memory → Result} {result : Result}
    (constant : ∀ memory, produce memory = result) : Independent produce :=
  fun memory memory' => (constant memory).trans (constant memory').symm

/-- What is made of an independent result is independent. -/
theorem Independent.comp {Other : Type} {produce : Memory → Result}
    (independent : Independent produce) (use : Result → Other) :
    Independent fun memory => use (produce memory) :=
  fun memory memory' => congrArg use (independent memory memory')

/-- A result that can be recovered from what is made of it is as independent as that. -/
theorem independent_comp_iff {Other : Type} {produce : Memory → Result} {use : Result → Other}
    (recover : ∀ memory memory', use (produce memory) = use (produce memory') →
      produce memory = produce memory') :
    Independent (fun memory => use (produce memory)) ↔ Independent produce :=
  ⟨fun independent memory memory' => recover memory memory' (independent memory memory'),
    fun independent => independent.comp use⟩

/-- Two results built in one memory. -/
theorem independent_prod_iff {Other : Type} {first : Memory → Result} {second : Memory → Other} :
    Independent (fun memory => (first memory, second memory)) ↔
      Independent first ∧ Independent second := by
  constructor
  · intro independent
    exact ⟨independent.comp Prod.fst, independent.comp Prod.snd⟩
  · rintro ⟨firstIndependent, secondIndependent⟩ memory memory'
    exact Prod.ext (firstIndependent memory memory') (secondIndependent memory memory')

/-- Part of the memory matters to a result exactly as the part matters. -/
theorem independent_part_iff {Part : Type} {part : Memory → Part} {produce : Part → Result}
    (reached : ∀ content, ∃ memory, part memory = content) :
    Independent (fun memory => produce (part memory)) ↔ Independent produce := by
  constructor
  · intro independent content content'
    obtain ⟨memory, rfl⟩ := reached content
    obtain ⟨memory', rfl⟩ := reached content'
    exact independent memory memory'
  · intro independent memory memory'
    exact independent (part memory) (part memory')

/-- A loop that builds each element in memory of its own. -/
theorem independent_mapIdx_iff {Element : Type} {produce : Memory → Element → Result}
    {elements : List Element} :
    Independent (fun memory : Nat → Memory =>
        elements.mapIdx fun index element => produce (memory index) element) ↔
      ∀ element ∈ elements, Independent fun memory => produce memory element := by
  constructor
  · intro independent element member memory memory'
    obtain ⟨index, inside, rfl⟩ := List.getElem_of_mem member
    have same := congrArg (·[index]?) (independent (fun _ => memory) fun _ => memory')
    simpa [List.getElem?_mapIdx, inside] using same
  · intro each memory memory'
    apply List.ext_getElem?
    intro index
    rw [List.getElem?_mapIdx, List.getElem?_mapIdx]
    cases found : elements[index]? with
    | none => rfl
    | some element =>
        exact congrArg some (each element (List.mem_of_getElem? found) _ _)

/-- A field that is written from its start on keeps what its memory held behind that. -/
theorem independent_overwrite_iff {count written : Nat} (source : SizedBytes written)
    (inside : written ≤ count) :
    Independent (fun memory : SizedBytes count => memory.overwrite source inside) ↔
      written = count := by
  constructor
  · intro independent
    by_contra short
    have same := congrArg Subtype.val (independent ⟨List.replicate count 0, List.length_replicate⟩
      ⟨List.replicate count 1, List.length_replicate⟩)
    simp only [SizedBytes.overwrite, List.append_cancel_left_eq, List.drop_replicate] at same
    have left : count - written = (count - written - 1) + 1 := by omega
    rw [left, List.replicate_succ, List.replicate_succ] at same
    exact absurd (List.cons.inj same).1 (by decide)
  · rintro rfl
    exact independent_of_const fun memory => memory.overwrite_all source inside

end SocketMessage.Lib
