import SocketMessage.Lib.Transition

/-!
# Objects known by names that are used again

Objects live for a time, each under a name of its own, and are then gone for good; the
name may later go to another object. Some of the work that waits is addressed by a
name, some holds the object itself. A `Ledger` records who lives under which name, what
waits, and what the work already done has touched.

Two things can go wrong. Work addressed by a name may reach the name's next owner:
`runs_delivered` says that it does not as long as no name is given away for which work
is waiting. Work that holds an object may find it gone: `runs_exactlyRemoved` says that this
and every other harm of a removal is avoided as long as only objects that no other work
holds are removed.
-/

namespace SocketMessage.Lib

universe u v

/-- Objects, their names, and the work that concerns them. -/
structure Ledger (Object : Type u) (Name : Type v) where
  /-- The name of an object that lives. -/
  nameOf : Object → Option Name
  /-- The object has lived. -/
  known : Object → Prop
  /-- Work addressed by the name waits and is meant for the object. -/
  pending : Name → Object → Prop
  /-- Work done on the first object was meant for the second. -/
  delivered : Object → Object → Prop
  /-- Work that waits holds the object. -/
  held : Object → Prop
  /-- An object has been used after it had gone. -/
  misused : Prop
  /-- Who has been removed, in order. -/
  removed : List Object
  /-- Removing the first object had consequences for the second. -/
  affected : Object → Object → Prop

/-- A step as far as the environment and the choice of work decide it. -/
structure LedgerEvent (Object : Type u) (Name : Type v) where
  /-- The name may be given to a new object. -/
  opened : Name → Prop
  /-- The object may be removed. -/
  closing : Object → Prop
  /-- The object is held by work that this step does not carry out. -/
  others : Object → Prop

namespace Ledger

variable {Object : Type u} {Name : Type v}

/-- Nothing lives yet, nothing waits and nothing has happened. -/
structure Empty (ledger : Ledger Object Name) : Prop where
  nameOf : ∀ object, ledger.nameOf object = none
  pending : ∀ name object, ¬ ledger.pending name object
  delivered : ∀ object meant, ¬ ledger.delivered object meant
  held : ∀ object, ¬ ledger.held object
  misused : ¬ ledger.misused
  removed : ledger.removed = []
  affected : ∀ object other, ¬ ledger.affected object other

/-- What one step can do. Work is meant for who has its name when it starts to wait, or
for whom the work it came from was meant; a removal has consequences for who has the
removed object's name. -/
structure Step (before : Ledger Object Name) (event : LedgerEvent Object Name)
    (after : Ledger Object Name) : Prop where
  known : ∀ object, before.known object → after.known object
  names : ∀ object name, after.nameOf object = some name → before.nameOf object = some name ∨
    ¬ before.known object ∧ after.known object ∧ event.opened name ∧
      (∀ other, before.nameOf other ≠ some name) ∧
      ∀ other, after.nameOf other = some name → other = object
  stays : ∀ object name, before.nameOf object = some name →
    after.nameOf object = some name ∨ after.nameOf object = none ∧ event.closing object
  pending : ∀ name object, after.pending name object →
    before.pending name object ∨ before.nameOf object = some name
  delivered : ∀ object meant, after.delivered object meant → before.delivered object meant ∨
    ∃ name, before.nameOf object = some name ∧
      (before.pending name meant ∨ before.nameOf meant = some name)
  others : ∀ object, event.others object → before.held object
  held : ∀ object, after.held object →
    event.others object ∨ before.nameOf object ≠ none ∧ ¬ event.closing object
  misused : after.misused → before.misused ∨
    ∃ object, before.held object ∧ before.nameOf object = none
  removed : ∃ gone, after.removed = before.removed ++ gone ∧ gone.Nodup ∧
    ∀ object ∈ gone, before.nameOf object ≠ none ∧ after.nameOf object = none
  affected : ∀ object other, after.affected object other → before.affected object other ∨
    ∃ name, before.nameOf object = some name ∧ before.nameOf other = some name

/-- The ledgers of all components whose steps are such steps. -/
def system : LabelledSystem (Ledger Object Name) (LedgerEvent Object Name) where
  Initial := Empty
  Step := Step

variable {before after ledger : Ledger Object Name} {event : LedgerEvent Object Name}
  {events : List (LedgerEvent Object Name)}

/-- No two objects live under one name, and what lives is known. -/
structure WellNamed (ledger : Ledger Object Name) : Prop where
  distinct : ∀ object other name, ledger.nameOf object = some name →
    ledger.nameOf other = some name → object = other
  known : ∀ object name, ledger.nameOf object = some name → ledger.known object

/-- Without objects all names are in order. -/
theorem Empty.wellNamed (empty : ledger.Empty) : ledger.WellNamed where
  distinct object _ _ named := by simp [empty.nameOf object] at named
  known object _ named := by simp [empty.nameOf object] at named

/-- Steps keep the names in order. -/
theorem Step.wellNamed (step : before.Step event after) (holds : before.WellNamed) :
    after.WellNamed where
  distinct object other name named otherNamed := by
    rcases step.names object name named with old | ⟨_, _, _, _, only⟩
    · rcases step.names other name otherNamed with otherOld | ⟨_, _, _, _, only⟩
      · exact holds.distinct object other name old otherOld
      · exact only object named
    · exact (only other otherNamed).symm
  known object name named := by
    rcases step.names object name named with old | ⟨_, known, _⟩
    · exact step.known object (holds.known object name old)
    · exact known

/-! ## Work addressed by name -/

/-- No name is given away for which work waits. -/
def OpensUnaddressed (before : Ledger Object Name) (event : LedgerEvent Object Name)
    (_ : Ledger Object Name) : Prop :=
  ∀ name, event.opened name → ∀ object, ¬ before.pending name object

/-- Who lives under a name is whom the work waiting for it is meant for, and what was
done reached whom it was meant for. -/
structure Addressed (ledger : Ledger Object Name) : Prop where
  wellNamed : ledger.WellNamed
  pending : ∀ name meant, ledger.pending name meant →
    ∀ object, ledger.nameOf object = some name → object = meant
  delivered : ∀ object meant, ledger.delivered object meant → object = meant

/-- It is so in the beginning. -/
theorem Empty.addressed (empty : ledger.Empty) : ledger.Addressed where
  wellNamed := empty.wellNamed
  pending name meant waits := absurd waits (empty.pending name meant)
  delivered object meant done := absurd done (empty.delivered object meant)

/-- A step that gives away only names no work waits for keeps it so. -/
theorem Step.addressed (step : before.Step event after)
    (unaddressed : OpensUnaddressed before event after) (holds : before.Addressed) :
    after.Addressed where
  wellNamed := step.wellNamed holds.wellNamed
  pending name meant waits object named := by
    rcases step.names object name named with old | ⟨_, _, opened, unowned, _⟩
    · rcases step.pending name meant waits with waited | owner
      · exact holds.pending name meant waited object old
      · exact holds.wellNamed.distinct object meant name old owner
    · -- A new owner: nothing waited for the name and nobody had it.
      rcases step.pending name meant waits with waited | owner
      · exact absurd waited (unaddressed name opened meant)
      · exact absurd owner (unowned meant)
  delivered object meant done := by
    rcases step.delivered object meant done with before_done | ⟨name, named, waited | owner⟩
    · exact holds.delivered object meant before_done
    · exact holds.pending name meant waited object named
    · exact holds.wellNamed.distinct object meant name named owner

/-- In a run that never gives away a name for which work waits, all work reaches whom
it was meant for. -/
theorem runs_delivered (run : system.Runs OpensUnaddressed events ledger) {object meant : Object}
    (done : ledger.delivered object meant) : object = meant := by
  have addressed : ledger.Addressed := run.invariant (fun _ empty => Empty.addressed empty)
    fun _ _ _ holds step unaddressed => Step.addressed step unaddressed holds
  exact addressed.delivered object meant done

/-! ## Work that holds objects -/

/-- What is removed is held by no other work. -/
def ClosesUnheld (_ : Ledger Object Name) (event : LedgerEvent Object Name)
    (_ : Ledger Object Name) : Prop :=
  ∀ object, event.closing object → ¬ event.others object

/-- Held objects live, none was used when gone or removed twice, and a removal had no
consequences for others. -/
structure ExactlyRemoved (ledger : Ledger Object Name) : Prop where
  wellNamed : ledger.WellNamed
  held : ∀ object, ledger.held object → ledger.nameOf object ≠ none
  misused : ¬ ledger.misused
  gone : ∀ object ∈ ledger.removed, ledger.known object ∧ ledger.nameOf object = none
  once : ledger.removed.Nodup
  affected : ∀ object other, ledger.affected object other → object = other

/-- It is so in the beginning. -/
theorem Empty.exactlyRemoved (empty : ledger.Empty) : ledger.ExactlyRemoved where
  wellNamed := empty.wellNamed
  held object holds := absurd holds (empty.held object)
  misused := empty.misused
  gone := by simp [empty.removed]
  once := by simp [empty.removed]
  affected object other touched := absurd touched (empty.affected object other)

/-- An object that a step does not close lives on. -/
theorem Step.lives (step : before.Step event after) {object : Object}
    (lived : before.nameOf object ≠ none) (kept : ¬ event.closing object) :
    after.nameOf object ≠ none := by
  obtain ⟨name, named⟩ := Option.ne_none_iff_exists'.mp lived
  rcases step.stays object name named with still | ⟨_, closing⟩
  · simp [still]
  · exact absurd closing kept

/-- A step that closes only what no other work holds keeps it so. -/
theorem Step.exactlyRemoved (step : before.Step event after)
    (unheld : ClosesUnheld before event after) (holds : before.ExactlyRemoved) :
    after.ExactlyRemoved := by
  obtain ⟨gone, removed, goneOnce, goneNow⟩ := step.removed
  have knownGone : ∀ object ∈ gone, after.known object := by
    intro object member
    obtain ⟨name, named⟩ := Option.ne_none_iff_exists'.mp (goneNow object member).1
    exact step.known object (holds.wellNamed.known object name named)
  refine ⟨step.wellNamed holds.wellNamed, ?_, ?_, ?_, ?_, ?_⟩
  · intro object held
    rcases step.held object held with other | ⟨lived, kept⟩
    · have lived := holds.held object (step.others object other)
      exact step.lives lived fun closing => unheld object closing other
    · exact step.lives lived kept
  · intro misused
    rcases step.misused misused with misusedBefore | ⟨object, held, absent⟩
    · exact holds.misused misusedBefore
    · exact holds.held object held absent
  · intro object member
    rw [removed, List.mem_append] at member
    rcases member with old | new
    · obtain ⟨known, absent⟩ := holds.gone object old
      refine ⟨step.known object known, Option.eq_none_iff_forall_ne_some.mpr fun name named => ?_⟩
      -- An object that has gone does not come back.
      rcases step.names object name named with present | ⟨unknown, _⟩
      · simp [absent] at present
      · exact unknown known
    · exact ⟨knownGone object new, (goneNow object new).2⟩
  · rw [removed, List.nodup_append]
    refine ⟨holds.once, goneOnce, ?_⟩
    rintro object old _ new rfl
    exact (goneNow object new).1 (holds.gone object old).2
  · intro object other touched
    rcases step.affected object other touched with before_touched | ⟨name, named, otherNamed⟩
    · exact holds.affected object other before_touched
    · exact holds.wellNamed.distinct object other name named otherNamed

/-- In a run that removes only what no other work holds, no object is used when gone or
removed twice, and no removal has consequences for another object. -/
theorem runs_exactlyRemoved (run : system.Runs ClosesUnheld events ledger) :
    ledger.ExactlyRemoved :=
  run.invariant (fun _ empty => Empty.exactlyRemoved empty)
    fun _ _ _ holds step unheld => Step.exactlyRemoved step unheld holds

end Ledger

end SocketMessage.Lib
