import Mathlib.Logic.Basic

/-!
# A mutex

Who is between locking and unlocking, and who the mutex says holds it. A thread locks only a
free mutex, so the two agree in every state if they agree in the first one.
-/

namespace SocketMessage.Lib

universe u

/-- Only the thread that holds the mutex is between locking and unlocking. -/
def Alone {Thread : Type u} (mutex : Option Thread) (holds : Thread → Prop) : Prop :=
  ∀ thread, holds thread → mutex = some thread

/-- What one thread does to the mutex: nothing, lock it, or unlock it. -/
def Locking {Thread : Type u} (thread : Thread) (mutex : Option Thread) (holds : Thread → Prop)
    (mutex' : Option Thread) (holds' : Thread → Prop) : Prop :=
  (mutex' = mutex ∧ (holds' thread → holds thread)) ∨
    (mutex = none ∧ mutex' = some thread) ∨ (holds thread ∧ ¬ holds' thread)

/-- A step of one thread keeps the others out. -/
theorem Alone.step {Thread : Type u} {mutex mutex' : Option Thread} {holds holds' : Thread → Prop}
    (alone : Alone mutex holds) {thread : Thread}
    (others : ∀ other, other ≠ thread → holds' other → holds other)
    (locking : Locking thread mutex holds mutex' holds') : Alone mutex' holds' := by
  intro other now
  by_cases same : other = thread
  · subst same
    rcases locking with ⟨kept, before⟩ | ⟨_, locked⟩ | ⟨_, left⟩
    · rw [kept]
      exact alone other (before now)
    · exact locked
    · exact absurd now left
  · have held := alone other (others other same now)
    rcases locking with ⟨kept, _⟩ | ⟨free, _⟩ | ⟨own, _⟩
    · rw [kept, held]
    · rw [free] at held
      cases held
    · rw [alone thread own] at held
      exact absurd (Option.some.inj held).symm same

end SocketMessage.Lib
