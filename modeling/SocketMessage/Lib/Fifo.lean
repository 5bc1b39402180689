import Mathlib.Data.List.Basic
import Mathlib.Logic.Relation

/-!
# First in, first out

What a reliable, ordered connection is for: items go in at one end and come out at the
other. `steps_iff` says what may have happened between two of its states.
-/

namespace SocketMessage.Lib

universe u

/-- The items that have come out, and those that are still inside. -/
structure Fifo (α : Type u) where
  delivered : List α
  waiting : List α

namespace Fifo

variable {α : Type u}

/-- An item goes in, or the one that has been inside longest comes out. -/
inductive Step : Fifo α → Fifo α → Prop where
  | put (delivered waiting : List α) (item : α) :
      Step ⟨delivered, waiting⟩ ⟨delivered, waiting ++ [item]⟩
  | take (delivered waiting : List α) (item : α) :
      Step ⟨delivered, item :: waiting⟩ ⟨delivered ++ [item], waiting⟩

/-- Any number of steps. -/
abbrev Steps : Fifo α → Fifo α → Prop := Relation.ReflTransGen Step

/-- All that has gone in. -/
def accepted (fifo : Fifo α) : List α := fifo.delivered ++ fifo.waiting

theorem steps_put (fifo : Fifo α) (items : List α) :
    Steps fifo ⟨fifo.delivered, fifo.waiting ++ items⟩ := by
  induction items generalizing fifo with
  | nil => rw [List.append_nil]
  | cons item items inductionHypothesis =>
      have rest := inductionHypothesis ⟨fifo.delivered, fifo.waiting ++ [item]⟩
      rw [List.append_assoc] at rest
      exact .head (.put fifo.delivered fifo.waiting item) rest

theorem steps_take (delivered taken waiting : List α) :
    Steps ⟨delivered, taken ++ waiting⟩ ⟨delivered ++ taken, waiting⟩ := by
  induction taken generalizing delivered with
  | nil =>
      rw [List.append_nil]
      exact .refl
  | cons item taken inductionHypothesis =>
      have rest := inductionHypothesis (delivered ++ [item])
      rw [List.append_assoc] at rest
      exact .head (.take delivered (taken ++ waiting) item) rest

/-- One state can follow another exactly when nothing that came out or went in is taken back. -/
theorem steps_iff {fifo next : Fifo α} :
    Steps fifo next ↔ fifo.delivered <+: next.delivered ∧ fifo.accepted <+: next.accepted := by
  constructor
  · intro steps
    induction steps with
    | refl => exact ⟨List.prefix_rfl, List.prefix_rfl⟩
    | tail _ step inductionHypothesis =>
        obtain ⟨came, went⟩ := inductionHypothesis
        cases step with
        | put delivered waiting item =>
            refine ⟨came, went.trans ⟨[item], ?_⟩⟩
            simp [accepted]
        | take delivered waiting item =>
            refine ⟨came.trans (List.prefix_append _ _), went.trans ?_⟩
            simp [accepted]
  · rintro ⟨⟨taken, came⟩, ⟨items, went⟩⟩
    obtain ⟨delivered, waiting⟩ := next
    obtain rfl : fifo.delivered ++ taken = delivered := came
    have inside : fifo.waiting ++ items = taken ++ waiting := by
      simp only [accepted, List.append_assoc] at went
      exact List.append_cancel_left went
    have puts := fifo.steps_put items
    rw [inside] at puts
    exact puts.trans (steps_take fifo.delivered taken waiting)

end Fifo

end SocketMessage.Lib
