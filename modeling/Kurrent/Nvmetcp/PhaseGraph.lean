import Kurrent.Nvmetcp.Moves

namespace Kurrent
namespace Nvmetcp

open Library

/-!
# The graph of the phases

The phases of a session are documented as a path, with one detour through
authentication.  Responses follow it: each phase with a command of its own
has one successor, and the others refuse a response.  An ICResp does not.  It
is acted on in every phase, and takes the session to the Connect phase of the
socket it arrived on, whatever that session was doing.

So the session stays on the path exactly as long as no ICResp arrives but the
one it is waiting for.
-/

/-- The documented graph. -/
inductive Edge : Phase -> Phase -> Prop
  | icreq : Edge .icreq .connectAdmin
  | authRequired : Edge .connectAdmin .auth
  | connected : Edge .connectAdmin .propSet
  | authenticated : Edge .auth .propSet
  | enabled : Edge .propSet .identifyCtrl
  | controllerIdentified : Edge .identifyCtrl .identifyNs
  | namespaceIdentified : Edge .identifyNs .icreqIo
  | icreqIo : Edge .icreqIo .connectIo
  | established : Edge .connectIo .ready

/-- The phase that a history ends in. -/
def phaseOf : List Mark -> Phase
  | [] => .icreq
  | .advanced _ after :: _ => after
  | _ :: past => phaseOf past

/-- A phase is entered when the session is created, or from the phase the
session was in and along the graph. -/
def Graphed : Mark -> List Mark -> Prop
  | .advanced before after, past => past = [] ∨ (before = phaseOf past ∧ Edge before after)
  | _, _ => True

/-- An ICResp is the one the session is waiting for. -/
def Expected : Mark -> List Mark -> Prop
  | .icresp phase queue, _ => (phase = .icreq ∧ queue = .admin) ∨ (phase = .icreqIo ∧ queue = .io)
  | _, _ => True

/-- Responses keep to the graph. -/
theorem Advances.edge {before after : Phase} {status : Nat} (advances : Advances before status after) :
    Edge before after := by
  cases advances with
  | connected => exact .connected
  | authDemanded | authRequired => exact .authRequired
  | enabled => exact .enabled
  | controllerIdentified => exact .controllerIdentified
  | namespaceIdentified => exact .namespaceIdentified
  | established => exact .established

/-- The edges an ICResp can make. -/
theorem edge_icresp {phase : Phase} {queue : Queue} :
    Edge phase (if queue = .io then .connectIo else .connectAdmin) ↔
      (phase = .icreq ∧ queue = .admin) ∨ (phase = .icreqIo ∧ queue = .io) := by
  constructor
  · intro edge
    cases queue <;> cases edge
    · exact .inl ⟨rfl, rfl⟩
    · exact .inr ⟨rfl, rfl⟩
  · rintro (⟨rfl, rfl⟩ | ⟨rfl, rfl⟩)
    · exact .icreq
    · exact .icreqIo

section PhaseGraph

variable {T : Type}

/-- The history tells the phase, and every change of it was along the graph. -/
structure OnGraph (nvmetcp : Session T) : Prop where
  current : phaseOf nvmetcp.trace = nvmetcp.phase
  graphed : Always Graphed nvmetcp.trace

theorem OnGraph.enter {nvmetcp : Session T} (onGraph : OnGraph nvmetcp) {after : Phase}
    (edge : Edge nvmetcp.phase after) : OnGraph (nvmetcp.enter after) :=
  ⟨rfl, .cons (.inr ⟨onGraph.current.symm, edge⟩) onGraph.graphed⟩

theorem OnGraph.authTryComplete {nvmetcp : Session T} (onGraph : OnGraph nvmetcp)
    (phase : nvmetcp.phase = .auth) : OnGraph (authTryComplete nvmetcp) := by
  unfold Nvmetcp.authTryComplete
  split
  · exact onGraph.enter (phase ▸ .authenticated)
  · exact onGraph

theorem OnGraph.move {scope : Scope} {nvmetcp next : Session T} (move : Move scope nvmetcp next)
    (onGraph : OnGraph nvmetcp) (expected : Always Expected next.trace) : OnGraph next := by
  cases move with
  | quiet alike | record issue alike | shut closing alike =>
      refine ⟨?_, ?_⟩
      · rw [alike.trace, alike.phase]
        exact onGraph.current
      · rw [alike.trace]
        exact onGraph.graphed
  | note mark neutral reports =>
      cases neutral <;> exact ⟨onGraph.current, .cons trivial onGraph.graphed⟩
  | sent | response | announce => exact ⟨onGraph.current, .cons trivial onGraph.graphed⟩
  | authReceive nextStep phase receives => exact ⟨onGraph.current, .cons trivial onGraph.graphed⟩
  | success1 transaction hl message phase step valid =>
      apply OnGraph.authTryComplete
      · exact ⟨onGraph.current, .cons trivial onGraph.graphed⟩
      · exact phase
  | final phase waiting =>
      apply OnGraph.authTryComplete
      · exact ⟨onGraph.current, .cons trivial onGraph.graphed⟩
      · exact phase
  | finish phase both => exact onGraph.enter (phase ▸ .authenticated)
  | advance after cid status past answered advances => exact onGraph.enter advances.edge
  | opened cid status past answered advances =>
      have left := @OnGraph.enter T nvmetcp onGraph .icreqIo advances.edge
      exact ⟨left.current, left.graphed⟩
  | icresp queue =>
      apply OnGraph.enter
      · exact ⟨onGraph.current, .cons trivial onGraph.graphed⟩
      · exact edge_icresp.mpr expected.tail.head
  | _ => exact ⟨onGraph.current, onGraph.graphed⟩

/-- Conversely, an ICResp out of turn leaves the graph. -/
theorem expected_move {scope : Scope} {nvmetcp next : Session T} (move : Move scope nvmetcp next)
    (expected : Always Expected nvmetcp.trace) (graphed : Always Graphed next.trace) :
    Always Expected next.trace := by
  have completed : forall session : Session T, Always Expected session.trace ->
      Always Expected (authTryComplete session).trace := by
    intro session before
    unfold authTryComplete
    split
    · exact .cons trivial before
    · exact before
  cases move with
  | quiet alike | record issue alike | shut closing alike =>
      rw [alike.trace]
      exact expected
  | note mark neutral reports => cases neutral <;> exact .cons trivial expected
  | sent | response | announce | authReceive | finish | advance | opened => exact .cons trivial expected
  | success1 | final => exact completed _ (.cons trivial expected)
  | icresp queue =>
      rcases graphed.head with none | ⟨_, edge⟩
      · cases none
      · exact .cons trivial (.cons (edge_icresp.mp edge) expected)
  | _ => exact expected

/-- Every change of the phase is along the documented graph if and only if
every ICResp that is acted on is the one the session is waiting for. -/
theorem phases_on_graph_iff (env : Env T) (crypto : AuthCrypto) {state : T}
    {subsystemNqn hostNqn hostId : Bytes} {secret : Option Bytes} {first : Session T}
    (created : openSession env state subsystemNqn hostNqn hostId secret = some first)
    (events : List (Event T)) :
    OnGraph (run env crypto first events) ↔ Always Expected (run env crypto first events).trace := by
  rcases openSession_eq created with ⟨socket, opening⟩
  have sound : Sound first := opening ▸ opened_sound _ _ _ _ _
  have moves := moves_run env crypto sound events
  have grows := fun (before after : Session T) (move : Move anything before after) => move.grows
  have keepsExpected : forall before after : Session T, Move anything before after ->
      Always Expected before.trace -> Always Graphed after.trace -> Always Expected after.trace :=
    fun _ _ move expected graphed => expected_move move expected graphed
  have keepsOnGraph : forall before after : Session T, Move anything before after ->
      OnGraph before -> Always Expected after.trace -> OnGraph after :=
    fun _ _ move onGraph expected => onGraph.move move expected
  have baseExpected : Always Expected first.trace := by
    rw [opening]
    exact .cons trivial .nil
  have baseOnGraph : OnGraph first := by
    rw [opening]
    exact ⟨rfl, .cons (.inl rfl) .nil⟩
  constructor
  · intro onGraph
    exact invariant_of_steps _ grows keepsExpected moves baseExpected onGraph.graphed
  · intro expected
    exact invariant_of_steps _ grows keepsOnGraph moves baseOnGraph expected

instance expectedDecidable (mark : Mark) (past : List Mark) : Decidable (Expected mark past) :=
  match mark with
  | .icresp _ _ => instDecidableOr
  | .sent _ _ _ _ | .icreq _ | .announced _ _ _ | .header _ _ _ _ | .complete _ _ _ _ | .response _ _ _
  | .success1 _ _ _ _ | .advanced _ _ | .blockDone _ _ _ => .isTrue trivial

/-- A whole setup on the graph. -/
theorem ready_session_on_graph : readySession.phase = .ready ∧ OnGraph readySession := by
  have expected : Always Expected (run windowEnv sampleCrypto sampleSession readyEvents).trace := by
    decide +kernel
  have onGraph := (phases_on_graph_iff windowEnv sampleCrypto sample_opened readyEvents).mpr expected
  exact ⟨by decide +kernel, onGraph⟩

/-- A second ICResp on the admin socket takes a session back from its last
phase to the second. -/
theorem late_icresp_off_graph :
    ¬ OnGraph (run windowEnv sampleCrypto sampleSession (readyEvents ++ [.deliver .admin icrespPdu])) := by
  intro onGraph
  have graphed := onGraph.graphed
  generalize marks : (run windowEnv sampleCrypto sampleSession
    (readyEvents ++ [.deliver .admin icrespPdu])).trace = trace at graphed
  have front : trace.take 2 = [.complete .admin pduIcresp 0 none, .advanced .ready .connectAdmin] := by
    rw [← marks]
    decide +kernel
  have long : trace.drop 2 ≠ [] := by
    rw [← marks]
    decide +kernel
  rw [← List.take_append_drop 2 trace, front] at graphed
  rcases graphed.tail.head with none | ⟨_, edge⟩
  · exact long none
  · cases edge

end PhaseGraph
end Nvmetcp
end Kurrent
