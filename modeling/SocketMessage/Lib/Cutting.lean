import Mathlib.Data.List.Basic

/-!
# Cutting a stream piece by piece

A cutter finds the next piece at the front of a stream, or nothing yet. What it has found
does not change when more of the stream is there; so it makes no difference to the pieces
where the stream was interrupted (`cut_append`).
-/

namespace SocketMessage.Lib

universe u v

/-- A way to take the next piece off a stream, which does not look behind the piece. -/
structure Cutter (α : Type u) (β : Type v) where
  next : List α → Option (β × List α)
  shrinks : ∀ {stream piece rest}, next stream = some (piece, rest) → rest.length < stream.length
  stable : ∀ {stream piece rest} (more : List α), next stream = some (piece, rest) →
    next (stream ++ more) = some (piece, rest ++ more)

namespace Cutter

variable {α : Type u} {β : Type v} (cutter : Cutter α β)

/-- All pieces of a stream, and what is left. -/
def cut (stream : List α) : List β × List α :=
  match _found : cutter.next stream with
  | none => ([], stream)
  | some (piece, rest) => (piece :: (cut rest).1, (cut rest).2)
termination_by stream.length
decreasing_by all_goals exact cutter.shrinks _found

variable {cutter} {stream rest more : List α} {piece : β}

theorem cut_of_none (nothing : cutter.next stream = none) : cutter.cut stream = ([], stream) := by
  rw [cut]
  split
  · rfl
  · next found => rw [nothing] at found; cases found

theorem cut_of_some (found : cutter.next stream = some (piece, rest)) :
    cutter.cut stream = (piece :: (cutter.cut rest).1, (cutter.cut rest).2) := by
  rw [cut]
  split
  · next nothing => rw [nothing] at found; cases found
  · next otherPiece otherRest other =>
    obtain ⟨rfl, rfl⟩ := Prod.mk.inj (Option.some.inj (other.symm.trans found))
    rfl

/-- The induction a cutter goes through a stream by. -/
theorem cut_induction {property : List α → Prop}
    (stops : ∀ stream, cutter.next stream = none → property stream)
    (continues : ∀ stream piece rest, cutter.next stream = some (piece, rest) → property rest →
      property stream)
    (stream : List α) : property stream := by
  induction length : stream.length using Nat.strongRecOn generalizing stream with
  | _ _ inductionHypothesis =>
    cases found : cutter.next stream with
    | none => exact stops stream found
    | some result =>
      exact continues stream result.1 result.2 found
        (inductionHypothesis _ (length ▸ cutter.shrinks found) _ rfl)

variable (cutter)

/-- Nothing can be cut off what is left. -/
theorem next_rest (stream : List α) : cutter.next (cutter.cut stream).2 = none := by
  induction stream using cutter.cut_induction with
  | stops stream nothing => rwa [cut_of_none nothing]
  | continues stream piece rest found inductionHypothesis => rwa [cut_of_some found]

/-- A stream that comes in two parts is cut into the same pieces. -/
theorem cut_append (stream more : List α) :
    cutter.cut (stream ++ more) =
      ((cutter.cut stream).1 ++ (cutter.cut ((cutter.cut stream).2 ++ more)).1,
        (cutter.cut ((cutter.cut stream).2 ++ more)).2) := by
  induction stream using cutter.cut_induction with
  | stops stream nothing => rw [cut_of_none nothing, List.nil_append]
  | continues stream piece rest found inductionHypothesis =>
    rw [cut_of_some found, cut_of_some (cutter.stable more found), inductionHypothesis]
    rfl

end Cutter

end SocketMessage.Lib
