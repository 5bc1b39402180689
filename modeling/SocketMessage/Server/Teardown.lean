import SocketMessage.Server.Delivery

/-!
# Connections are torn down exactly

`ClientSocketCloseAndDelete` erases its entry first and does nothing when there is
none. This keeps a live object from being torn down twice, but it has to read the fd
from the object: a read or write task that still holds the object uses it after its
deletion. Unless this happens, a teardown concerns its own connection only.
-/

namespace SocketMessage.Server

open SocketMessage.Lib SocketMessage.Frame SocketMessage.Wire

namespace ServerState

/-- No object has been used after its deletion, each was torn down at most once, and
each teardown erased its own entry and reported its own connection closed. -/
structure TornDownExactly (state : ServerState) : Prop where
  unused : state.fault ≠ some .usedDeleted
  once : (state.teardowns.map Teardown.connection).Nodup
  own : ∀ teardown ∈ state.teardowns, teardown.erased = teardown.connection ∧
    ∀ reported ∈ teardown.reported, reported = teardown.connection

end ServerState

/-- A connection is torn down only when no other read or write task and no fetched
event for reading or writing holds its object. -/
def ClosesUnheld (state : ServerState) (event : ServerEvent) (_ : ServerState) : Prop :=
  ∀ pointer ∈ event.closing state, pointer ∉ heldBy (event.remaining state) state.fetched

instance (state : ServerState) (event : ServerEvent) (next : ServerState) :
    Decidable (ClosesUnheld state event next) :=
  inferInstanceAs (Decidable (∀ pointer ∈ event.closing state,
    pointer ∉ heldBy (event.remaining state) state.fetched))

namespace ServerState

/-- As long as connections are torn down only when nothing else holds their objects,
they are torn down exactly. -/
theorem runs_tornDownExactly {events : List ServerEvent} {state : ServerState}
    (run : serverSystem.Runs ClosesUnheld events state) : state.TornDownExactly := by
  have unheld : ∀ state event next, ClosesUnheld state event next →
      Ledger.ClosesUnheld state.ledger (event.onLedger state) next.ledger :=
    fun _ _ _ closesUnheld pointer closing => closesUnheld pointer closing
  obtain ⟨onLedger, ledgerRun⟩ := runs_refine unheld run
  have removed := Ledger.runs_exactlyRemoved ledgerRun
  refine ⟨removed.misused, removed.once, fun teardown member => ⟨?_, fun reported among => ?_⟩⟩
  · exact (removed.affected _ _ ⟨teardown, member, rfl, .inl rfl⟩).symm
  · exact (removed.affected _ _ ⟨teardown, member, rfl, .inr among⟩).symm

/-- A client connects and leaves. -/
def leavingEvents : List ServerEvent := connectEvents ++ readEvents [.peerClosed]

/-- It is torn down once, and nobody else with it. -/
theorem leaving_tornDownExactly :
    ∃ state, serverSystem.Runs ClosesUnheld leavingEvents state ∧
      state.teardowns = [⟨0, 0, [0]⟩] ∧ state.TornDownExactly := by
  have followed : ∃ state, LabelledSystem.follow step ClosesUnheld start leavingEvents =
      some state ∧ state.teardowns = [⟨0, 0, [0]⟩] := ⟨_, rfl, rfl⟩
  obtain ⟨state, followed, teardowns⟩ := followed
  have run : serverSystem.Runs ClosesUnheld leavingEvents state :=
    LabelledSystem.runs_of_follow followed
  exact ⟨state, run, teardowns, runs_tornDownExactly run⟩

/-- A client has asked for its message list and sends on. While its answer is queued, a
read task for its object is queued too; sending the answer fails. -/
def failingEvents : List ServerEvent :=
  connectEvents ++ readEvents [.received (frame listRequest), .wouldBlock] ++
    [.handle 0 .zeroed .empty, .wait [.client 20 true false], .callback,
      .run 0 (.sends [.failed]), .run 0 (.recvs [.failed])]

/-- The send task deletes the object, which the read task uses. -/
theorem failing_usesDeleted :
    ∃ state, serverSystem.Runs (fun _ _ _ => True) failingEvents state ∧
      ¬ state.TornDownExactly := by
  have followed : ∃ state, LabelledSystem.follow step (fun _ _ _ => True) start failingEvents =
      some state ∧ state.fault = some .usedDeleted := ⟨_, rfl, rfl⟩
  obtain ⟨state, followed, fault⟩ := followed
  exact ⟨state, LabelledSystem.runs_of_follow followed, fun exactly => exactly.unused fault⟩

end ServerState

end SocketMessage.Server
