import Mathlib.Order.Lattice
import Mathlib.Data.List.Pairwise
import Mathlib.Tactic.Tauto

/-!
# Key-ordered finite maps

Entries are kept strictly ascending by key, so a key occurs once and iteration
order is determined. `insert` keeps an existing entry; `eraseFirst` removes the
first entry, in key order, whose value matches.
-/

namespace SocketMessage.Lib

/-- A finite map as its entries in ascending key order. -/
structure OrderedMap (κ υ : Type) [LinearOrder κ] where
  entries : List (κ × υ)
  ascending : entries.Pairwise fun left right => left.1 < right.1

namespace OrderedMap

variable {κ υ : Type} [LinearOrder κ]

/-- The map without entries. -/
def empty : OrderedMap κ υ := ⟨[], List.Pairwise.nil⟩

/-- The value stored under a key. -/
def lookup (map : OrderedMap κ υ) (key : κ) : Option υ :=
  (map.entries.find? fun entry => entry.1 = key).map Prod.snd

/-- A key has at most one value. -/
theorem value_unique (map : OrderedMap κ υ) {key : κ} {left right : υ}
    (leftMember : (key, left) ∈ map.entries) (rightMember : (key, right) ∈ map.entries) :
    left = right := by
  by_contra different
  have entriesDiffer : (key, left) ≠ (key, right) := by simpa using different
  have apart : map.entries.Pairwise fun left right => left.1 ≠ right.1 :=
    map.ascending.imp fun less => ne_of_lt less
  have symmetric : Std.Symm fun left right : κ × υ => left.1 ≠ right.1 :=
    ⟨fun _ _ distinct => distinct.symm⟩
  exact apart.forall leftMember rightMember entriesDiffer rfl

/-- Lookup finds exactly the entries. -/
theorem lookup_eq_some_iff (map : OrderedMap κ υ) {key : κ} {value : υ} :
    map.lookup key = some value ↔ (key, value) ∈ map.entries := by
  constructor
  · intro found
    obtain ⟨⟨entryKey, entryValue⟩, foundEntry, rfl⟩ := Option.map_eq_some_iff.mp found
    have member := List.mem_of_find?_eq_some foundEntry
    have sameKey := List.find?_some foundEntry
    simp only [decide_eq_true_eq] at sameKey
    subst sameKey
    exact member
  · intro member
    cases found : map.entries.find? fun entry => entry.1 = key with
    | none =>
        have absent := List.find?_eq_none.mp found (key, value) member
        simp at absent
    | some entry =>
        have entryMember := List.mem_of_find?_eq_some found
        have sameKey := List.find?_some found
        simp only [decide_eq_true_eq] at sameKey
        obtain ⟨entryKey, entryValue⟩ := entry
        subst sameKey
        simp [lookup, found, map.value_unique entryMember member]

/-- A key without a value has no entry. -/
theorem lookup_eq_none_iff (map : OrderedMap κ υ) {key : κ} :
    map.lookup key = none ↔ ∀ value, (key, value) ∉ map.entries := by
  constructor
  · intro absent value member
    rw [map.lookup_eq_some_iff.mpr member] at absent
    cases absent
  · intro absent
    cases found : map.lookup key with
    | none => rfl
    | some value => exact absurd (map.lookup_eq_some_iff.mp found) (absent value)

/-- Put a new entry in its place among ascending entries; an entry already
stored under the key stays as it is. -/
def insertEntry (key : κ) (value : υ) : List (κ × υ) → List (κ × υ)
  | [] => [(key, value)]
  | (other, stored) :: rest =>
      if key < other then (key, value) :: (other, stored) :: rest
      else if key = other then (other, stored) :: rest
      else (other, stored) :: insertEntry key value rest

/-- What can stand among the entries after an insertion. -/
theorem mem_of_mem_insertEntry {key : κ} {value : υ} {entries : List (κ × υ)} {entry : κ × υ}
    (member : entry ∈ insertEntry key value entries) :
    entry = (key, value) ∨ entry ∈ entries := by
  induction entries with
  | nil => simpa [insertEntry] using member
  | cons head rest inductionHypothesis =>
      obtain ⟨other, stored⟩ := head
      unfold insertEntry at member
      split at member
      · simpa using member
      split at member
      · exact Or.inr member
      · rcases List.mem_cons.mp member with isHead | inRest
        · exact Or.inr (by simp [isHead])
        · exact (inductionHypothesis inRest).imp_right (List.mem_cons_of_mem _)

/-- Insertion removes no entry. -/
theorem mem_insertEntry_of_mem {key : κ} {value : υ} {entries : List (κ × υ)} {entry : κ × υ}
    (member : entry ∈ entries) : entry ∈ insertEntry key value entries := by
  induction entries with
  | nil => cases member
  | cons head rest inductionHypothesis =>
      obtain ⟨other, stored⟩ := head
      unfold insertEntry
      split
      · exact List.mem_cons_of_mem _ member
      split
      · exact member
      · rcases List.mem_cons.mp member with isHead | inRest
        · simp [isHead]
        · exact List.mem_cons_of_mem _ (inductionHypothesis inRest)

/-- After an insertion the key has an entry: the new one, or the one it had. -/
theorem key_mem_insertEntry (key : κ) (value : υ) (entries : List (κ × υ)) :
    (key, value) ∈ insertEntry key value entries ∨ ∃ stored, (key, stored) ∈ entries := by
  induction entries with
  | nil => simp [insertEntry]
  | cons head rest inductionHypothesis =>
      obtain ⟨other, stored⟩ := head
      unfold insertEntry
      split
      · simp
      split
      · next same => exact Or.inr ⟨stored, by simp [same]⟩
      · rcases inductionHypothesis with added | ⟨found, member⟩
        · exact Or.inl (List.mem_cons_of_mem _ added)
        · exact Or.inr ⟨found, List.mem_cons_of_mem _ member⟩

/-- Insertion keeps the entries ascending. -/
theorem ascending_insertEntry {key : κ} {value : υ} {entries : List (κ × υ)}
    (ascending : entries.Pairwise fun left right => left.1 < right.1) :
    (insertEntry key value entries).Pairwise fun left right => left.1 < right.1 := by
  induction entries with
  | nil => simp [insertEntry]
  | cons head rest inductionHypothesis =>
      obtain ⟨other, stored⟩ := head
      obtain ⟨headLess, restAscending⟩ := List.pairwise_cons.mp ascending
      unfold insertEntry
      split
      · next less =>
        refine List.pairwise_cons.mpr ⟨?_, ascending⟩
        intro entry member
        rcases List.mem_cons.mp member with rfl | inRest
        · exact less
        · exact lt_trans less (headLess entry inRest)
      split
      · exact ascending
      · next notLess different =>
        refine List.pairwise_cons.mpr ⟨?_, inductionHypothesis restAscending⟩
        intro entry member
        rcases mem_of_mem_insertEntry member with rfl | inRest
        · exact lt_of_le_of_ne (not_lt.mp notLess) (Ne.symm different)
        · exact headLess entry inRest

/-- Add an entry unless the key already has one. -/
def insert (map : OrderedMap κ υ) (key : κ) (value : υ) : OrderedMap κ υ :=
  ⟨insertEntry key value map.entries, ascending_insertEntry map.ascending⟩

/-- Insertion leaves a stored value, and every other key, alone. -/
theorem lookup_insert (map : OrderedMap κ υ) (key other : κ) (value : υ) :
    (map.insert key value).lookup other =
      if other = key ∧ map.lookup key = none then some value else map.lookup other := by
  split
  · next fresh =>
    obtain ⟨rfl, absent⟩ := fresh
    rw [lookup_eq_some_iff]
    rcases key_mem_insertEntry other value map.entries with added | ⟨stored, member⟩
    · exact added
    · exact absurd member (map.lookup_eq_none_iff.mp absent stored)
  · next notFresh =>
    have same : ∀ stored, (map.insert key value).lookup other = some stored ↔
        map.lookup other = some stored := by
      intro stored
      simp only [lookup_eq_some_iff]
      constructor
      · intro member
        rcases mem_of_mem_insertEntry member with isNew | old
        · obtain ⟨rfl, rfl⟩ := Prod.mk.inj isNew
          cases found : map.lookup other with
          | none => exact absurd ⟨rfl, found⟩ notFresh
          | some present =>
              have kept : (other, present) ∈ insertEntry other stored map.entries :=
                mem_insertEntry_of_mem (map.lookup_eq_some_iff.mp found)
              rw [(map.insert other stored).value_unique member kept]
              exact map.lookup_eq_some_iff.mp found
        · exact old
      · exact mem_insertEntry_of_mem
    cases found : map.lookup other with
    | some stored => exact (same stored).mpr found
    | none =>
        cases after : (map.insert key value).lookup other with
        | none => rfl
        | some stored =>
            rw [(same stored).mp after] at found
            cases found

/-- Remove the first entry, in key order, whose value matches. -/
def eraseFirst (map : OrderedMap κ υ) (matching : υ → Bool) : OrderedMap κ υ :=
  ⟨map.entries.eraseP fun entry => matching entry.2,
    map.ascending.sublist List.eraseP_sublist⟩

/-- Removal adds nothing. -/
theorem lookup_of_lookup_eraseFirst (map : OrderedMap κ υ) {matching : υ → Bool} {key : κ}
    {value : υ} (found : (map.eraseFirst matching).lookup key = some value) :
    map.lookup key = some value := by
  rw [lookup_eq_some_iff] at found ⊢
  exact List.mem_of_mem_eraseP found

/-- Removal keeps every entry whose value does not match. -/
theorem lookup_eraseFirst_of_not_matching (map : OrderedMap κ υ) {matching : υ → Bool} {key : κ}
    {value : υ} (found : map.lookup key = some value) (kept : matching value = false) :
    (map.eraseFirst matching).lookup key = some value := by
  rw [lookup_eq_some_iff] at found ⊢
  exact (List.mem_eraseP_of_neg (by simp [kept])).mpr found

/-- Of two matching entries removal leaves one. -/
theorem lookup_eraseFirst_of_two_matching (map : OrderedMap κ υ) {matching : υ → Bool}
    {left right : κ} {leftValue rightValue : υ} (different : left ≠ right)
    (leftFound : map.lookup left = some leftValue) (rightFound : map.lookup right = some rightValue)
    (leftMatch : matching leftValue) :
    (map.eraseFirst matching).lookup left = some leftValue ∨
      (map.eraseFirst matching).lookup right = some rightValue := by
  rw [lookup_eq_some_iff] at leftFound rightFound
  obtain ⟨removed, before, after, _, _, split, erased⟩ :=
    @List.exists_of_eraseP _ (fun entry => matching entry.2) _ _ leftFound leftMatch
  have kept : ∀ entry ∈ map.entries, entry = removed ∨ entry ∈ (map.eraseFirst matching).entries := by
    intro entry member
    simp only [split, List.mem_append, List.mem_cons] at member
    change entry = removed ∨ entry ∈ map.entries.eraseP _
    rw [erased, List.mem_append]
    tauto
  rw [lookup_eq_some_iff, lookup_eq_some_iff]
  rcases kept _ leftFound with leftRemoved | leftKept
  · rcases kept _ rightFound with rightRemoved | rightKept
    · have same := leftRemoved.trans rightRemoved.symm
      exact absurd (congrArg Prod.fst same) different
    · exact Or.inr rightKept
  · exact Or.inl leftKept

/-- When one key at most has a matching value, removal leaves no match. -/
theorem not_matching_of_lookup_eraseFirst (map : OrderedMap κ υ) {matching : υ → Bool}
    (single : ∀ left leftValue right rightValue, map.lookup left = some leftValue →
      map.lookup right = some rightValue → matching leftValue → matching rightValue →
      left = right)
    {key : κ} {value : υ} (found : (map.eraseFirst matching).lookup key = some value) :
    matching value = false := by
  cases isMatch : matching value with
  | false => rfl
  | true =>
      have member := (lookup_eq_some_iff _).mp found
      obtain ⟨removed, before, after, _, removedMatch, split, erased⟩ :=
        @List.exists_of_eraseP _ (fun entry => matching entry.2) _ _
          (List.mem_of_mem_eraseP member) isMatch
      have removedMember : removed ∈ map.entries := by simp [split]
      have sameKey : key = removed.1 :=
        single key value removed.1 removed.2 (map.lookup_of_lookup_eraseFirst found)
          (map.lookup_eq_some_iff.mpr removedMember) isMatch removedMatch
      have ascending := map.ascending
      rw [split] at ascending
      change (key, value) ∈ map.entries.eraseP _ at member
      rw [erased] at member
      -- The removed entry's key stood once, between the entries before and after it.
      obtain ⟨_, tailAscending, crossing⟩ := List.pairwise_append.mp ascending
      rcases List.mem_append.mp member with isBefore | isAfter
      · have less := crossing (key, value) isBefore removed List.mem_cons_self
        exact absurd sameKey (ne_of_lt less)
      · have less := (List.pairwise_cons.mp tailAscending).1 (key, value) isAfter
        exact absurd sameKey.symm (ne_of_lt less)

/-- Remove the entry of a key. -/
def erase (map : OrderedMap κ υ) (key : κ) : OrderedMap κ υ :=
  ⟨map.entries.filter fun entry => entry.1 ≠ key, map.ascending.filter _⟩

/-- Removal leaves every other key alone. -/
theorem lookup_erase_eq_some_iff (map : OrderedMap κ υ) {key other : κ} {value : υ} :
    (map.erase key).lookup other = some value ↔ other ≠ key ∧ map.lookup other = some value := by
  rw [lookup_eq_some_iff, lookup_eq_some_iff, erase, List.mem_filter, decide_eq_true_eq, and_comm]

/-- The first entry behind a position, of which `none` is the one before all keys. -/
def after (map : OrderedMap κ υ) (position : Option κ) : Option (κ × υ) :=
  map.entries.find? fun entry => position.all (· < entry.1)

/-- The entry that is next is one of the map, behind the position, and none is between. -/
theorem after_eq_some (map : OrderedMap κ υ) {position : Option κ} {key : κ} {value : υ}
    (found : map.after position = some (key, value)) :
    map.lookup key = some value ∧ position.all (· < key) ∧
      ∀ other stored, map.lookup other = some stored → position.all (· < other) → key ≤ other := by
  obtain ⟨behind, before, rest, entries, passed⟩ := List.find?_eq_some_iff_append.mp found
  refine ⟨map.lookup_eq_some_iff.mpr (by simp [entries]), behind, ?_⟩
  intro other stored isEntry later
  have member := map.lookup_eq_some_iff.mp isEntry
  have ascending := map.ascending
  rw [entries] at member ascending
  rcases List.mem_append.mp member with earlier | fromHere
  · have notLater := passed _ earlier
    simp only [later] at notLater
    cases notLater
  · rcases List.mem_cons.mp fromHere with same | behindIt
    · exact le_of_eq (congrArg Prod.fst same).symm
    · have less := (List.pairwise_cons.mp (List.pairwise_append.mp ascending).2.1).1 _ behindIt
      exact le_of_lt less

/-- When nothing is next, no entry is behind the position. -/
theorem after_eq_none (map : OrderedMap κ υ) {position : Option κ} {key : κ} {value : υ}
    (nothing : map.after position = none) (isEntry : map.lookup key = some value) :
    ¬ position.all (· < key) :=
  List.find?_eq_none.mp nothing _ (map.lookup_eq_some_iff.mp isEntry)

end OrderedMap

end SocketMessage.Lib
