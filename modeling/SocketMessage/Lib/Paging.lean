import Mathlib.Data.List.Basic

/-!
# Collecting pages until an empty one

A reader fetches page after page, each time from what it has so far, and stops at the
first empty page. `fetch` is told how often it has been asked; it may fail.
-/

namespace SocketMessage.Lib

variable {α : Type} {fetch : Nat → List α → Option (List α)}

/-- What has been received when an empty page comes back, in at most so many passes. -/
def collectPages (fetch : Nat → List α → Option (List α)) : Nat → Nat → List α → Option (List α)
  | 0, _, _ => none
  | passes + 1, asked, received => do
      let page ← fetch asked received
      if page = [] then return received
      else collectPages fetch passes (asked + 1) (received ++ page)

/-- The reader has everything once the next page is empty. -/
theorem collectPages_of_empty {asked passes : Nat} {received : List α}
    (empty : fetch asked received = some []) :
    collectPages fetch (passes + 1) asked received = some received := by
  simp [collectPages, empty]

/-- A page that is not empty is kept, and the next one fetched. -/
theorem collectPages_of_page {asked passes : Nat} {received page : List α}
    (fetched : fetch asked received = some page) (more : page ≠ []) :
    collectPages fetch (passes + 1) asked received =
      collectPages fetch passes (asked + 1) (received ++ page) := by
  simp [collectPages, fetched, more]

/-- Without a first page there is no result. -/
theorem collectPages_of_failed {asked passes : Nat} {received : List α}
    (failed : fetch asked received = none) : collectPages fetch passes asked received = none := by
  cases passes with
  | zero => rfl
  | succ passes => simp [collectPages, failed]

/-- A reader who ends has fetched a first page: an empty one, or one after which it went on. -/
theorem exists_page_of_collectPages {asked passes : Nat} {received result : List α}
    (collected : collectPages fetch passes asked received = some result) :
    ∃ page, fetch asked received = some page ∧ (page = [] → result = received) ∧
      (page ≠ [] → ∃ passes, collectPages fetch passes (asked + 1) (received ++ page) = some result) := by
  cases passes with
  | zero => cases collected
  | succ passes =>
      obtain ⟨page, fetched, ended⟩ := Option.bind_eq_some_iff.mp collected
      refine ⟨page, fetched, fun empty => ?_, fun more => ⟨passes, ?_⟩⟩
      · rw [if_pos empty] at ended
        exact (Option.some.inj ended).symm
      · rwa [if_neg more] at ended

/-- While what has been received stays within a set for which pages fail or are never
empty, the reader does not end. -/
theorem collectPages_eq_none {within : List α → Prop}
    (never : ∀ asked received page, within received → fetch asked received = some page →
      page ≠ [] ∧ within (received ++ page))
    {asked passes : Nat} {received : List α} (start : within received) :
    collectPages fetch passes asked received = none := by
  induction passes generalizing asked received with
  | zero => rfl
  | succ passes inductionHypothesis =>
      cases fetched : fetch asked received with
      | none => exact collectPages_of_failed fetched
      | some page =>
          obtain ⟨more, stays⟩ := never asked received page start fetched
          rw [collectPages_of_page fetched more]
          exact inductionHypothesis stays

end SocketMessage.Lib
