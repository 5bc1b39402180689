import SocketMessage.Lib.Bytes

/-!
# Blocks filled by copies and counted sequences in them

An encoder allocates a block and copies pieces into it at running offsets; a
decoder walks a counted sequence, each element saying how far the next one is.
`fillBlock_contiguous` and `elementsLoop_append` connect the two;
`elementsLoop_isSome_iff` says when a walk over arbitrary bytes stays inside.
-/

namespace SocketMessage.Lib

/-- A list is read when each element is. -/
theorem mapM_eq_some_iff {α β : Type} {read : α → Option β} {elements : List α}
    {results : List β} :
    elements.mapM read = some results ↔ elements.map read = results.map some := by
  induction elements generalizing results with
  | nil => cases results <;> simp
  | cons element rest inductionHypothesis =>
      cases results with
      | nil =>
          simp only [List.mapM_cons, Option.bind_eq_bind, Option.bind_eq_some_iff]
          constructor
          · rintro ⟨_, _, _, _, built⟩
            cases built
          · intro same
            cases same
      | cons result others =>
          simp only [List.mapM_cons, Option.bind_eq_bind, Option.bind_eq_some_iff, List.map_cons,
            List.cons.injEq, ← inductionHypothesis]
          constructor
          · rintro ⟨_, headRead, _, restRead, built⟩
            simp only [Option.pure_def, Option.some.injEq, List.cons.injEq] at built
            obtain ⟨rfl, rfl⟩ := built
            exact ⟨headRead, restRead⟩
          · rintro ⟨headRead, restRead⟩
            exact ⟨_, headRead, _, restRead, rfl⟩

/-- Two calls, one after the other, return without an exception when both do. -/
theorem bind_eq_ok_iff {ε α β : Type} {first : Except ε α} {second : α → Except ε β} {result : β} :
    (first >>= second) = .ok result ↔ ∃ middle, first = .ok middle ∧ second middle = .ok result := by
  cases first with
  | error _ => exact iff_of_false nofun fun ⟨_, returned, _⟩ => nomatch returned
  | ok middle =>
    refine ⟨fun returned => ⟨middle, rfl, returned⟩, ?_⟩
    rintro ⟨_, same, returned⟩
    obtain rfl := Except.ok.inj same
    exact returned

/-- A list is read without an exception when each element is. -/
theorem mapM_eq_ok_iff {ε α β : Type} {read : α → Except ε β} {elements : List α}
    {results : List β} :
    elements.mapM read = .ok results ↔ elements.map read = results.map .ok := by
  induction elements generalizing results with
  | nil => cases results <;> simp [pure, Except.pure]
  | cons element rest inductionHypothesis =>
    rw [List.mapM_cons, List.map_cons]
    cases read element with
    | error _ => cases results <;> simp [bind, Except.bind]
    | ok first =>
      cases results with
      | nil => cases rest.mapM read <;> simp [bind, Except.bind, pure, Except.pure]
      | cons result others =>
        rw [List.map_cons, List.cons.injEq, ← inductionHypothesis]
        cases rest.mapM read <;> simp [bind, Except.bind, pure, Except.pure]

/-- Reading a list finishes exactly when reading each element does. -/
theorem mapM_finishes_iff {ε α β : Type} {read : α → Except ε β} {elements : List α} :
    (∃ results, elements.mapM read = .ok results) ↔
      ∀ element ∈ elements, ∃ result, read element = .ok result := by
  simp only [mapM_eq_ok_iff]
  induction elements with
  | nil => exact iff_of_true ⟨[], rfl⟩ nofun
  | cons element rest inductionHypothesis =>
    rw [List.forall_mem_cons, ← inductionHypothesis, List.map_cons]
    constructor
    · rintro ⟨results, same⟩
      obtain ⟨result, others, rfl, first, tail⟩ := List.map_eq_cons_iff.mp same.symm
      exact ⟨⟨result, first.symm⟩, others, tail.symm⟩
    · rintro ⟨⟨result, first⟩, others, tail⟩
      exact ⟨result :: others, by rw [first, tail, List.map_cons]⟩

/-- Forgetting what the exceptions are, a list is read as its elements are. -/
theorem toOption_mapM {ε α β : Type} (read : α → Except ε β) (elements : List α) :
    (elements.mapM read).toOption = (elements.map fun element => (read element).toOption).mapM id := by
  induction elements with
  | nil => rfl
  | cons element rest inductionHypothesis =>
    rw [List.mapM_cons, List.map_cons, List.mapM_cons, ← inductionHypothesis]
    cases read element with
    | error _ => rfl
    | ok _ => cases rest.mapM read <;> rfl

/-- A list can be read exactly when each element can. -/
theorem mapM_isSome_iff {α β : Type} {read : α → Option β} {elements : List α} :
    (elements.mapM read).isSome ↔ ∀ element ∈ elements, (read element).isSome := by
  induction elements with
  | nil => simp
  | cons element rest inductionHypothesis =>
      rw [List.forall_mem_cons, ← inductionHypothesis, List.mapM_cons]
      cases read element with
      | none => simp
      | some result => cases rest.mapM read <;> simp

/-- What is known about each element read is known about the list. -/
theorem map_eq_of_mapM {α β γ : Type} {read : α → Option β} {measure : β → γ} {expected : α → γ}
    {elements : List α} {results : List β}
    (each : ∀ element ∈ elements, ∀ result, read element = some result →
      measure result = expected element)
    (listRead : elements.mapM read = some results) :
    results.map measure = elements.map expected := by
  rw [mapM_eq_some_iff] at listRead
  induction elements generalizing results with
  | nil =>
      obtain rfl := List.map_eq_nil_iff.mp listRead.symm
      rfl
  | cons element rest inductionHypothesis =>
      cases results with
      | nil => cases listRead
      | cons result others =>
          simp only [List.map_cons, List.cons.injEq] at listRead
          rw [List.map_cons, List.map_cons, each element List.mem_cons_self result listRead.1,
            inductionHypothesis (fun other member => each other (List.mem_cons_of_mem _ member))
              listRead.2]

/-- An indexed loop that does not use the index. -/
theorem mapIdx_mapM_id {α β : Type} (build : α → Option β) (elements : List α) :
    (elements.mapIdx fun _ element => build element).mapM id = elements.mapM build := by
  have plain : elements.mapIdx (fun _ element => build element) = elements.map build := by
    apply List.ext_getElem?
    simp [List.getElem?_mapIdx]
  rw [plain, List.mapM_map]
  rfl

/-- An indexed loop whose passes all get through. -/
theorem mapIdx_mapM_of_some {α β : Type} {build : Nat → α → Option β} {result : Nat → α → β}
    {elements : List α}
    (through : ∀ element ∈ elements, ∀ index, build index element = some (result index element)) :
    (elements.mapIdx build).mapM id = some (elements.mapIdx result) := by
  rw [mapM_eq_some_iff, List.map_id_fun, id_eq]
  apply List.ext_getElem?
  intro index
  rw [List.getElem?_mapIdx, List.getElem?_map, List.getElem?_mapIdx]
  cases found : elements[index]? with
  | none => rfl
  | some element => exact congrArg some (through element (List.mem_of_getElem? found) index)

/-- A pass over the results of an indexed loop. -/
theorem map_mapIdx {α β γ : Type} (use : β → γ) (build : Nat → α → β) (elements : List α) :
    (elements.mapIdx build).map use =
      elements.mapIdx fun index element => use (build index element) := by
  apply List.ext_getElem?
  simp [List.getElem?_mapIdx, Function.comp_def]

/-- A `mapM` over a list built with its indices, where the results do not depend on them. -/
theorem mapM_mapIdx_of_some {α β γ : Type} {read : β → Option γ} {build : Nat → α → β}
    {result : α → γ} {elements : List α}
    (through : ∀ element ∈ elements, ∀ index, read (build index element) = some (result element)) :
    (elements.mapIdx build).mapM read = some (elements.map result) := by
  rw [mapM_eq_some_iff, map_mapIdx]
  apply List.ext_getElem?
  intro index
  rw [List.getElem?_mapIdx, List.map_map, List.getElem?_map]
  cases found : elements[index]? with
  | none => rfl
  | some element => simp [through element (List.mem_of_getElem? found)]

/-- One `memcpy` into a freshly allocated block. -/
structure Copy where
  offset : Int
  bytes : List Byte
deriving DecidableEq, Repr

/-- A block of uninitialized cells; a negative size is refused. -/
def newBlock (size : Int) : Option (List (Option Byte)) :=
  if 0 ≤ size then some (List.replicate size.toNat none) else none

/-- Perform one copy; `none` when it leaves the block. -/
def copyInto (cells : List (Option Byte)) (copy : Copy) : Option (List (Option Byte)) :=
  if 0 ≤ copy.offset ∧ copy.offset.toNat + copy.bytes.length ≤ cells.length then
    some (cells.take copy.offset.toNat ++ copy.bytes.map some ++
      cells.drop (copy.offset.toNat + copy.bytes.length))
  else none

/-- Allocate a block and perform the copies in order. The result is the block's
content; `none` also stands for a block with a cell no copy has written. -/
def fillBlock (size : Int) (copies : List Copy) : Option (List Byte) := do
  let cells ← newBlock size
  let cells ← copies.foldlM copyInto cells
  cells.mapM id

/-- Each copy starts where the one before it ends. -/
def Contiguous : Int → List Copy → Prop
  | _, [] => True
  | offset, copy :: rest => copy.offset = offset ∧ Contiguous (offset + copy.bytes.length) rest

/-- Contiguous copies extend what is already written by exactly their bytes. -/
theorem foldlM_copyInto_contiguous {copies : List Copy} {written : List Byte} (spare : Nat)
    (contiguous : Contiguous written.length copies) :
    copies.foldlM copyInto
        (written.map some ++ List.replicate ((copies.flatMap Copy.bytes).length + spare) none) =
      some ((written ++ copies.flatMap Copy.bytes).map some ++ List.replicate spare none) := by
  induction copies generalizing written with
  | nil => simp
  | cons copy rest inductionHypothesis =>
      obtain ⟨start, contiguousRest⟩ := contiguous
      have copied : copyInto (written.map some ++
            List.replicate (((copy :: rest).flatMap Copy.bytes).length + spare) none) copy =
          some ((written ++ copy.bytes).map some ++
            List.replicate ((rest.flatMap Copy.bytes).length + spare) none) := by
        have total : ((copy :: rest).flatMap Copy.bytes).length + spare =
            copy.bytes.length + ((rest.flatMap Copy.bytes).length + spare) := by
          rw [List.flatMap_cons, List.length_append, Nat.add_assoc]
        unfold copyInto
        rw [start, total, List.replicate_add, if_pos (by simp)]
        simp [List.drop_append]
      rw [List.foldlM_cons, copied]
      have continued := @inductionHypothesis (written ++ copy.bytes)
        (by simpa using contiguousRest)
      simpa [List.append_assoc] using continued

/-- A block of the right size filled by contiguous copies holds their bytes. -/
theorem fillBlock_contiguous {size : Int} {copies : List Copy}
    (contiguous : Contiguous 0 copies) (exact : size = (copies.flatMap Copy.bytes).length) :
    fillBlock size copies = some (copies.flatMap Copy.bytes) := by
  have filled := @foldlM_copyInto_contiguous copies [] 0
    (by simpa using contiguous)
  have allWritten : ∀ bytes : List Byte, (bytes.map some).mapM id = some bytes := by
    intro bytes
    induction bytes with
    | nil => rfl
    | cons byte rest inductionHypothesis => simp [inductionHypothesis]
  have allocated : newBlock size =
      some (List.replicate (copies.flatMap Copy.bytes).length none) := by
    rw [newBlock, exact, if_pos (Int.natCast_nonneg _), Int.toNat_natCast]
  simp only [List.map_nil, List.nil_append, Nat.add_zero, List.replicate_zero, List.append_nil]
    at filled
  unfold fillBlock
  rw [allocated, Option.bind_eq_bind, Option.bind_some, filled]
  exact allWritten _

/-- A copy into a block leaves its size. -/
theorem copyInto_inside {cells after : List (Option Byte)} {copy : Copy}
    (copied : copyInto cells copy = some after) :
    0 ≤ copy.offset ∧ copy.offset + copy.bytes.length ≤ cells.length ∧
      after.length = cells.length := by
  unfold copyInto at copied
  split at copied
  · next inside =>
    obtain rfl := Option.some.inj copied
    refine ⟨inside.1, by omega, ?_⟩
    simp only [List.length_append, List.length_take, List.length_map, List.length_drop]
    omega
  · cases copied

/-- Copies that all stay in the block. -/
theorem foldlM_copyInto_inside {copies : List Copy} {cells after : List (Option Byte)}
    (copied : copies.foldlM copyInto cells = some after) :
    after.length = cells.length ∧
      ∀ copy ∈ copies, 0 ≤ copy.offset ∧ copy.offset + copy.bytes.length ≤ cells.length := by
  induction copies generalizing cells with
  | nil =>
      obtain rfl := Option.some.inj copied
      simp
  | cons copy rest inductionHypothesis =>
      rw [List.foldlM_cons] at copied
      obtain ⟨next, first, others⟩ := Option.bind_eq_some_iff.mp copied
      obtain ⟨lower, upper, sameLength⟩ := copyInto_inside first
      obtain ⟨finalLength, inside⟩ := inductionHypothesis others
      rw [sameLength] at finalLength inside
      refine ⟨finalLength, ?_⟩
      rintro other (_ | ⟨_, later⟩)
      · exact ⟨lower, upper⟩
      · exact inside other later

/-- A filled block has the size asked for, and its copies lie in it. -/
theorem fillBlock_inside {size : Int} {copies : List Copy} {bytes : List Byte}
    (filled : fillBlock size copies = some bytes) :
    size = bytes.length ∧
      ∀ copy ∈ copies, 0 ≤ copy.offset ∧ copy.offset + copy.bytes.length ≤ bytes.length := by
  unfold fillBlock at filled
  obtain ⟨cells, allocated, rest⟩ := Option.bind_eq_some_iff.mp filled
  obtain ⟨written, copied, allWritten⟩ := Option.bind_eq_some_iff.mp rest
  unfold newBlock at allocated
  split at allocated
  · next nonnegative =>
    obtain rfl := Option.some.inj allocated
    obtain ⟨sameLength, inside⟩ := foldlM_copyInto_inside copied
    have length : bytes.length = written.length := by
      simpa using (congrArg List.length (mapM_eq_some_iff.mp allWritten)).symm
    rw [sameLength, List.length_replicate] at length
    rw [List.length_replicate, ← length] at inside
    exact ⟨by omega, inside⟩
  · cases allocated

/-- Contiguous copies that lie in a block fit in it one after another. -/
theorem contiguous_inside {copies : List Copy} {offset size : Int} (start : offset ≤ size)
    (contiguous : Contiguous offset copies)
    (inside : ∀ copy ∈ copies, 0 ≤ copy.offset ∧ copy.offset + copy.bytes.length ≤ size) :
    offset + (copies.flatMap Copy.bytes).length ≤ size := by
  induction copies generalizing offset with
  | nil => simpa using start
  | cons copy rest inductionHypothesis =>
      obtain ⟨place, contiguousRest⟩ := contiguous
      have first := (inside copy List.mem_cons_self).2
      have others := inductionHypothesis (by omega) contiguousRest
        fun other member => inside other (List.mem_cons_of_mem _ member)
      rw [List.flatMap_cons, List.length_append]
      omega

/-- A block that contiguous copies fill has exactly their size: a cell more would keep
what its memory held. -/
theorem eq_flatMap_of_fillBlock {size : Int} {copies : List Copy} {bytes : List Byte}
    (contiguous : Contiguous 0 copies) (filled : fillBlock size copies = some bytes) :
    bytes = copies.flatMap Copy.bytes := by
  obtain ⟨sameSize, inside⟩ := fillBlock_inside filled
  have fits := contiguous_inside (by omega) contiguous inside
  obtain ⟨spare, room⟩ : ∃ spare, bytes.length = (copies.flatMap Copy.bytes).length + spare :=
    ⟨bytes.length - (copies.flatMap Copy.bytes).length, by omega⟩
  have written := @foldlM_copyInto_contiguous copies [] spare (by simpa using contiguous)
  have allocated : newBlock size =
      some (List.replicate ((copies.flatMap Copy.bytes).length + spare) none) := by
    rw [newBlock, sameSize, if_pos (Int.natCast_nonneg _), Int.toNat_natCast, room]
  simp only [List.map_nil, List.nil_append] at written
  rw [fillBlock, allocated, Option.bind_eq_bind, Option.bind_some, written,
    Option.bind_some, mapM_eq_some_iff, List.map_id_fun, id_eq] at filled
  -- A cell left over is `none`, which the result has nowhere.
  cases spare with
  | zero =>
      rw [List.replicate_zero, List.append_nil] at filled
      exact ((List.map_inj_right fun _ _ => Option.some.inj).mp filled).symm
  | succ spare =>
      have leftOver : none ∈ bytes.map some := by
        rw [← filled]
        simp
      simp at leftOver

section Elements

variable {α β : Type}

/-- The copies of a loop that writes one element after another. -/
def elementCopies (image : α → List Byte) (advance : α → Int) : Int → List α → List Copy
  | _, [] => []
  | offset, element :: rest =>
      ⟨offset, image element⟩ :: elementCopies image advance (int32 (offset + advance element)) rest

/-- The bytes written by the loop. -/
@[simp] theorem flatMap_bytes_elementCopies (image : α → List Byte) (advance : α → Int)
    (offset : Int) (elements : List α) :
    (elementCopies image advance offset elements).flatMap Copy.bytes = elements.flatMap image := by
  induction elements generalizing offset with
  | nil => rfl
  | cons element rest inductionHypothesis => simp [elementCopies, inductionHypothesis]

/-- Advancing by each element's own size makes the copies contiguous, as long as
the offsets stay in range. -/
theorem elementCopies_contiguous {image : α → List Byte} {advance : α → Int} {offset : Int}
    {elements : List α} (start : 0 ≤ offset)
    (sized : ∀ element ∈ elements, advance element = (image element).length)
    (bounded : offset + (elements.flatMap image).length < 2 ^ 31) :
    Contiguous offset (elementCopies image advance offset elements) := by
  induction elements generalizing offset with
  | nil => trivial
  | cons element rest inductionHypothesis =>
      have size := sized element List.mem_cons_self
      simp only [List.flatMap_cons, List.length_append, Int.natCast_add] at bounded
      have next : int32 (offset + advance element) = offset + (image element).length := by
        rw [size]
        apply int32_eq_self <;> omega
      have contiguousRest : Contiguous (offset + (image element).length)
          (elementCopies image advance (offset + (image element).length) rest) := by
        apply inductionHypothesis
        · omega
        · exact fun other member => sized other (List.mem_cons_of_mem _ member)
        · omega
      rw [elementCopies, next]
      exact ⟨rfl, contiguousRest⟩

/-- Elements whose copies lie in a block of less than 2^31 bytes fit behind the start. -/
theorem elementCopies_inside {α : Type} {image : α → List Byte} {advance : α → Int}
    {elements : List α} {offset : Int} {size : Nat} (small : size < 2 ^ 31) (start : 0 ≤ offset)
    (before : offset ≤ size)
    (sized : ∀ element ∈ elements, advance element = (image element).length)
    (inside : ∀ copy ∈ elementCopies image advance offset elements,
      0 ≤ copy.offset ∧ copy.offset + copy.bytes.length ≤ size) :
    offset + (elements.flatMap image).length ≤ size := by
  induction elements generalizing offset with
  | nil => simpa using before
  | cons element rest inductionHypothesis =>
      have first := (inside _ List.mem_cons_self).2
      have size := sized element List.mem_cons_self
      dsimp only at first
      have next : int32 (offset + advance element) = offset + (image element).length := by
        rw [size]
        apply int32_eq_self <;> omega
      have others := @inductionHypothesis (offset + (image element).length) (by omega) (by omega)
        (fun other member => sized other (List.mem_cons_of_mem _ member))
        (fun copy member => inside copy (List.mem_cons_of_mem _ (next ▸ member)))
      simp only [List.flatMap_cons, List.length_append, Int.natCast_add]
      omega

/-- Decode a counted sequence: each element is followed by the next one
`advance` bytes further on. -/
def elementsLoop (decode : Int → Option α) (advance : α → Int) : Nat → Int → Option (List α)
  | 0, _ => some []
  | count + 1, offset => do
      let element ← decode offset
      let rest ← elementsLoop decode advance count (int32 (offset + advance element))
      return element :: rest

/-- The loop of one more element, taken apart. -/
theorem elementsLoop_succ_eq_some {decode : Int → Option α} {advance : α → Int} {count : Nat}
    {offset : Int} {elements : List α} :
    elementsLoop decode advance (count + 1) offset = some elements ↔
      ∃ element rest, decode offset = some element ∧
        elementsLoop decode advance count (int32 (offset + advance element)) = some rest ∧
        elements = element :: rest := by
  simp only [elementsLoop, Option.bind_eq_bind, Option.bind_eq_some_iff, Option.pure_def,
    Option.some.injEq]
  constructor
  · rintro ⟨element, decoded, rest, looped, rfl⟩
    exact ⟨element, rest, decoded, looped, rfl⟩
  · rintro ⟨element, rest, decoded, looped, rfl⟩
    exact ⟨element, decoded, rest, looped, rfl⟩

/-- Walking over the images of some elements decodes each of them. The walk's
offsets count from the end of `outer`; the count may stop short of the sequence. -/
theorem elementsLoop_append {decode : List Byte → Int → Option β} {image : α → List Byte}
    {view : α → β} {advance : β → Int} {outer before after : List Byte} {elements : List α}
    {count : Nat}
    (decodes : ∀ element ∈ elements, ∀ before after : List Byte,
      decode (before ++ (image element ++ after)) before.length = some (view element))
    (advances : ∀ element ∈ elements, advance (view element) = (image element).length)
    (enough : count ≤ elements.length)
    (bounded : before.length + (elements.flatMap image).length < 2 ^ 31) :
    elementsLoop
        (fun offset => decode (outer ++ (before ++ (elements.flatMap image ++ after)))
          (outer.length + offset))
        advance count before.length =
      some ((elements.take count).map view) := by
  induction count generalizing before elements with
  | zero => simp [elementsLoop]
  | succ count inductionHypothesis =>
      match elements with
      | [] => simp at enough
      | element :: rest =>
        have decoded := decodes element List.mem_cons_self (outer ++ before)
          (rest.flatMap image ++ after)
        have advanced := advances element List.mem_cons_self
        simp only [List.flatMap_cons, List.length_append, List.append_assoc,
          Int.natCast_add] at bounded decoded ⊢
        have next : int32 (before.length + advance (view element)) =
            (before ++ image element).length := by
          rw [advanced, List.length_append, Int.natCast_add]
          apply int32_eq_self <;> omega
        have continued := @inductionHypothesis (before ++ image element) rest
          (fun other member => decodes other (List.mem_cons_of_mem _ member))
          (fun other member => advances other (List.mem_cons_of_mem _ member))
          (by simpa using enough)
          (by simp only [List.length_append]; omega)
        simp only [List.append_assoc] at continued
        refine elementsLoop_succ_eq_some.mpr ⟨view element, _, decoded, ?_, rfl⟩
        rw [next]
        exact continued

/-- A counted sequence whose elements fit at every place the walk visits. -/
def ElementsFit (fits : Int → Prop) (hop : Int → Int) : Nat → Int → Prop
  | 0, _ => True
  | count + 1, offset => fits offset ∧ ElementsFit fits hop count (int32 (offset + hop offset))

/-- A walk stays inside the block exactly when the elements fit along its way. -/
theorem elementsLoop_isSome_iff {decode : Int → Option α} {advance : α → Int}
    {fits : Int → Prop} {hop : Int → Int} {count : Nat} {offset : Int}
    (decodable : ∀ offset, (decode offset).isSome ↔ fits offset)
    (advances : ∀ offset element, decode offset = some element → advance element = hop offset) :
    (elementsLoop decode advance count offset).isSome ↔ ElementsFit fits hop count offset := by
  induction count generalizing offset with
  | zero => simp [elementsLoop, ElementsFit]
  | succ count inductionHypothesis =>
      constructor
      · intro walked
        obtain ⟨elements, looped⟩ := Option.isSome_iff_exists.mp walked
        obtain ⟨element, rest, decoded, loopedRest, _⟩ := elementsLoop_succ_eq_some.mp looped
        refine ⟨(decodable offset).mp (by simp [decoded]), ?_⟩
        rw [← advances offset element decoded]
        exact inductionHypothesis.mp (by simp [loopedRest])
      · rintro ⟨fitsHere, fitsRest⟩
        obtain ⟨element, decoded⟩ := Option.isSome_iff_exists.mp ((decodable offset).mpr fitsHere)
        rw [← advances offset element decoded] at fitsRest
        obtain ⟨rest, loopedRest⟩ := Option.isSome_iff_exists.mp (inductionHypothesis.mpr fitsRest)
        have looped := elementsLoop_succ_eq_some.mpr ⟨element, rest, decoded, loopedRest, rfl⟩
        simp [looped]

/-- Elements of one size fit exactly when there is room for all of them. -/
theorem elementsFit_constant_iff {fits : Int → Prop} {step limit offset : Int} {count : Nat}
    (positive : 0 < step) (start : 0 ≤ offset) (bounded : offset + step * count < 2 ^ 31)
    (room : ∀ place, offset ≤ place → (fits place ↔ place + step ≤ limit)) :
    ElementsFit fits (fun _ => step) count offset ↔ count = 0 ∨ offset + step * count ≤ limit := by
  induction count generalizing offset with
  | zero => simp [ElementsFit]
  | succ count inductionHypothesis =>
      have grows : 0 ≤ step * count := Int.mul_nonneg (Int.le_of_lt positive) (Int.natCast_nonneg _)
      rw [Int.natCast_add, Int.natCast_one, Int.mul_add, Int.mul_one] at *
      have next : int32 (offset + step) = offset + step := by
        apply int32_eq_self <;> omega
      have rest := @inductionHypothesis (offset + step) (by omega) (by omega)
        (fun place after => room place (by omega))
      rw [ElementsFit, next, rest, room offset (Int.le_refl _)]
      constructor
      · rintro ⟨here, rfl | after⟩
        · simp [here]
        · omega
      · rintro (none | whole)
        · cases none
        · omega

end Elements

end SocketMessage.Lib
