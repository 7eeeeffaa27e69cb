/-
  `start`, `stop` and `acceptLoop`: a server with all its connections.

  `RpcServer` and `RpcStreamServer` have the same life cycle.  They differ in the coroutine that handles a
  connection and in the texts of two errors; `ConnClass` is what is left of these here.  The coroutines of
  the accept loops and of the connections go on one step at a time, in any order, and share `m_running`
  and `m_last_error`.  `m_runtime.stop()` ends coroutines wherever they are: they take no further step,
  which any coroutine is free to do anyway.

  * `Sockets` — a socket that was accepted is in one place: with the coroutine of a connection, or in
    the hands of an accept loop that has found no scheduler for it, or closed by that loop;
  * `ServerState.forall_conns` — what the steps of a connection preserve holds of every connection, since
    no other coroutine touches its state;
  * `Winding` — a server that has been stopped and is not started again takes on no new work: no
    coroutine reads `m_running` as true any more;
  * `ServerState.accepts_of_run` — nor does an accept loop accept, past the one connection that it was
    waiting for.
-/
import GalayRpc.Base
import GalayRpc.Lib.Run

namespace GalayRpc

variable {κ α β : Type}

/-! ## The state -/

/-- A socket's descriptor. -/
abbrev GHandle := Nat

/-- A server class, as far as its life cycle goes: the coroutine it starts for a connection, with the
    value of `m_running` that a step has loaded, and its view of `m_last_error`. -/
structure ConnClass (κ α β : Type) where
  handleConnection : β → κ
  step : κ → α → Option κ
  loads : α → Option Bool
  lastError : κ → Option RpcError
  withLastError : κ → Option RpcError → κ
  acceptLoopUnscheduled : String
  connectionUnscheduled : String

/-- Where an accept loop is: before its first statement, at the test of `m_running`, or at one of its
    awaits. -/
inductive AcceptPhase where
  | opening
  | testing
  | accepting
  | rejecting (handle : GHandle)
  | closing
  | ended
deriving DecidableEq, Repr

/-- A server's members, and its coroutines.  `starting` is how many calls of `start` have set `m_running`
    and not scheduled their accept loop; what was accepted, and what an accept loop has closed, is kept
    for the statements. -/
structure ServerState (κ : Type) where
  mRunning : Bool := false
  mLastError : Option RpcError := none
  starting : Nat := 0
  loops : List AcceptPhase := []
  conns : List (GHandle × κ) := []
  accepted : List GHandle := []
  rejected : List GHandle := []

/-- What becomes of the listener: the options, `bind` and `listen`. -/
structure ListenerSetup where
  reuseAddr : Except IOError Unit
  nonBlock : Except IOError Unit
  bind : Except IOError Unit
  listen : Except IOError Unit

/-- The first of them to fail. -/
def ListenerSetup.error (setup : ListenerSetup) : Option IOError :=
  match setup.reuseAddr with
  | .error e => some e
  | .ok _ =>
    match setup.nonBlock with
    | .error e => some e
    | .ok _ =>
      match setup.bind with
      | .error e => some e
      | .ok _ =>
        match setup.listen with
        | .error e => some e
        | .ok _ => none

/-- What an accept loop does next, and how it goes. -/
inductive AcceptEvent (β : Type) where
  | setup (results : ListenerSetup)
  | test
  | accept (result : Except IOError GHandle) (args : β) (scheduled : Bool)
  | close (result : Except IOError Unit)

inductive ServerStateAction (α β : Type) where
  | start
  | schedule (scheduled : Bool)
  | stop
  | acceptLoop (i : Nat) (event : AcceptEvent β)
  | connection (i : Nat) (action : α)

namespace ServerState

variable (K : ConnClass κ α β) (s : ServerState κ)

/-- `m_last_error = RpcError::from(...)`, where something has failed. -/
def report (result : Except IOError Unit) : ServerState κ :=
  match result with
  | .error e => { s with mLastError := some (.fromIOError e .internalError) }
  | .ok _ => s

/-- `start()`, up to the scheduling. -/
def start : ServerState κ := { s with mRunning := true, starting := s.starting + 1 }

/-- The rest of `start()`. -/
def schedule (scheduled : Bool) : ServerState κ :=
  let s := { s with starting := s.starting - 1 }
  if scheduled then { s with loops := s.loops ++ [.opening] }
  else
    { s with
      mLastError := some (.ofText .internalError K.acceptLoopUnscheduled)
      mRunning := false }

/-- `stop()`. -/
def stop : ServerState κ := { s with mRunning := false }

/-- `acceptLoop()`: the loop in place `i` takes a step. -/
def acceptLoop (i : Nat) (phase : AcceptPhase) (event : AcceptEvent β) : Option (ServerState κ) :=
  let goTo (s : ServerState κ) (phase : AcceptPhase) : ServerState κ :=
    { s with loops := s.loops.set i phase }
  match phase, event with
  | .opening, .setup results =>
    let s := { s with mLastError := none }
    match results.error with
    | some e => some (goTo (s.report (.error e)) .ended)
    | none => some (goTo s .testing)
  | .testing, .test => some (goTo s (if s.mRunning then .accepting else .closing))
  | .accepting, .accept (.error e) _ _ => some (goTo (s.report (.error e)) .testing)
  | .accepting, .accept (.ok handle) args scheduled =>
    let s := { s with accepted := s.accepted ++ [handle] }
    if scheduled then
      some (goTo { s with conns := s.conns ++ [(handle, K.handleConnection args)] } .testing)
    else
      some (goTo { s with mLastError := some (.ofText .internalError K.connectionUnscheduled) }
        (.rejecting handle))
  | .rejecting handle, .close result =>
    some (goTo { s.report result with rejected := s.rejected ++ [handle] } .testing)
  | .closing, .close result => some (goTo (s.report result) .ended)
  | _, _ => none

/-- The coroutine of a connection takes a step. -/
def connection (i : Nat) (handle : GHandle) (conn : κ) (action : α) : Option (ServerState κ) :=
  if ∀ running ∈ K.loads action, running = s.mRunning then
    (K.step (K.withLastError conn s.mLastError) action).map fun conn =>
      { s with conns := s.conns.set i (handle, conn), mLastError := K.lastError conn }
  else none

def step : ServerStateAction α β → Option (ServerState κ)
  | .start => some s.start
  | .schedule scheduled => if 0 < s.starting then some (s.schedule K scheduled) else none
  | .stop => some s.stop
  | .acceptLoop i event => s.loops[i]?.bind fun phase => s.acceptLoop K i phase event
  | .connection i action => s.conns[i]?.bind fun conn => s.connection K i conn.1 conn.2 action

end ServerState

/-! ## What a step does -/

/-- An accept loop before and behind a step, and whether it has loaded `m_running`. -/
inductive AcceptPhase.Moves (running : Bool) : AcceptPhase → AcceptPhase → Prop where
  | failed : Moves running .opening .ended
  | opened : Moves running .opening .testing
  | goesOn (h : running = true) : Moves running .testing .accepting
  | stops (h : running = false) : Moves running .testing .closing
  | retries : Moves running .accepting .testing
  | closed : Moves running .closing .ended

/-- A connection is accepted. -/
def AcceptEvent.isAccepted : AcceptEvent β → Bool
  | .accept (.ok _) _ _ => true
  | _ => false

namespace ServerState

/-- What a step changes, the last error apart. -/
inductive Stepped (K : ConnClass κ α β) (s s' : ServerState κ) : ServerStateAction α β → Prop where
  | start (hrunning : s'.mRunning = true) (hloops : s'.loops = s.loops) (hconns : s'.conns = s.conns)
      (haccepted : s'.accepted = s.accepted) (hrejected : s'.rejected = s.rejected) :
      Stepped K s s' .start
  | schedule {scheduled : Bool} (hrunning : s'.mRunning = true → s.mRunning = true)
      (hloops : s'.loops = s.loops ∨ s'.loops = s.loops ++ [.opening]) (hconns : s'.conns = s.conns)
      (haccepted : s'.accepted = s.accepted) (hrejected : s'.rejected = s.rejected) :
      Stepped K s s' (.schedule scheduled)
  | stop (hrunning : s'.mRunning = false) (hloops : s'.loops = s.loops) (hconns : s'.conns = s.conns)
      (haccepted : s'.accepted = s.accepted) (hrejected : s'.rejected = s.rejected) :
      Stepped K s s' .stop
  | moved {i : Nat} {event : AcceptEvent β} (phase phase' : AcceptPhase) (hi : s.loops[i]? = some phase)
      (hmoves : phase.Moves s.mRunning phase') (hrunning : s'.mRunning = s.mRunning)
      (hloops : s'.loops = s.loops.set i phase') (hconns : s'.conns = s.conns)
      (haccepted : s'.accepted = s.accepted) (hrejected : s'.rejected = s.rejected)
      (hevent : event.isAccepted = false) : Stepped K s s' (.acceptLoop i event)
  | accepted {i : Nat} (handle : GHandle) (args : β) (hi : s.loops[i]? = some .accepting)
      (hrunning : s'.mRunning = s.mRunning) (hloops : s'.loops = s.loops.set i .testing)
      (hconns : s'.conns = s.conns ++ [(handle, K.handleConnection args)])
      (haccepted : s'.accepted = s.accepted ++ [handle]) (hrejected : s'.rejected = s.rejected) :
      Stepped K s s' (.acceptLoop i (.accept (.ok handle) args true))
  | unscheduled {i : Nat} (handle : GHandle) (args : β) (hi : s.loops[i]? = some .accepting)
      (hrunning : s'.mRunning = s.mRunning) (hloops : s'.loops = s.loops.set i (.rejecting handle))
      (hconns : s'.conns = s.conns) (haccepted : s'.accepted = s.accepted ++ [handle])
      (hrejected : s'.rejected = s.rejected) :
      Stepped K s s' (.acceptLoop i (.accept (.ok handle) args false))
  | rejected {i : Nat} {event : AcceptEvent β} (handle : GHandle)
      (hi : s.loops[i]? = some (.rejecting handle)) (hrunning : s'.mRunning = s.mRunning)
      (hloops : s'.loops = s.loops.set i .testing) (hconns : s'.conns = s.conns)
      (haccepted : s'.accepted = s.accepted) (hrejected : s'.rejected = s.rejected ++ [handle])
      (hevent : event.isAccepted = false) : Stepped K s s' (.acceptLoop i event)
  | connection {i : Nat} {action : α} (handle : GHandle) (conn conn' : κ) (error : Option RpcError)
      (hi : s.conns[i]? = some (handle, conn))
      (hloads : ∀ running ∈ K.loads action, running = s.mRunning)
      (hstep : K.step (K.withLastError conn error) action = some conn')
      (hrunning : s'.mRunning = s.mRunning) (hloops : s'.loops = s.loops)
      (hconns : s'.conns = s.conns.set i (handle, conn')) (haccepted : s'.accepted = s.accepted)
      (hrejected : s'.rejected = s.rejected) : Stepped K s s' (.connection i action)

variable {K : ConnClass κ α β} {s s' : ServerState κ} {a : ServerStateAction α β}

theorem report_eq (s : ServerState κ) (result : Except IOError Unit) :
    (s.report result).mRunning = s.mRunning ∧ (s.report result).loops = s.loops ∧
      (s.report result).conns = s.conns ∧ (s.report result).accepted = s.accepted ∧
      (s.report result).rejected = s.rejected := by
  cases result with
  | error e => exact ⟨rfl, rfl, rfl, rfl, rfl⟩
  | ok _ => exact ⟨rfl, rfl, rfl, rfl, rfl⟩

theorem stepped_acceptLoop {i : Nat} {phase : AcceptPhase} {event : AcceptEvent β}
    (hi : s.loops[i]? = some phase) (h : s.acceptLoop K i phase event = some s') :
    Stepped K s s' (.acceptLoop i event) := by
  unfold acceptLoop at h
  split at h
  · -- the listener is set up, or the coroutine returns
    split at h
    · obtain rfl := Option.some.inj h
      exact .moved .opening .ended hi .failed rfl rfl rfl rfl rfl rfl
    · obtain rfl := Option.some.inj h
      exact .moved .opening .testing hi .opened rfl rfl rfl rfl rfl rfl
  · obtain rfl := Option.some.inj h
    refine .moved .testing _ hi ?_ rfl rfl rfl rfl rfl rfl
    cases hrunning : s.mRunning with
    | true => exact .goesOn rfl
    | false => exact .stops rfl
  · obtain rfl := Option.some.inj h
    exact .moved .accepting .testing hi .retries rfl rfl rfl rfl rfl rfl
  · rename_i handle args scheduled
    cases scheduled with
    | true =>
      obtain rfl := Option.some.inj h
      exact .accepted handle args hi rfl rfl rfl rfl rfl
    | false =>
      obtain rfl := Option.some.inj h
      exact .unscheduled handle args hi rfl rfl rfl rfl rfl
  · rename_i handle result
    obtain rfl := Option.some.inj h
    obtain ⟨hrunning, hloops, hconns, haccepted, -⟩ := report_eq s result
    exact .rejected handle hi hrunning (congrArg (List.set · i _) hloops) hconns haccepted rfl rfl
  · rename_i result
    obtain rfl := Option.some.inj h
    obtain ⟨hrunning, hloops, hconns, haccepted, hrejected⟩ := report_eq s result
    exact .moved .closing .ended hi .closed hrunning (congrArg (List.set · i _) hloops) hconns haccepted
      hrejected rfl
  · cases h

theorem stepped (h : s.step K a = some s') : Stepped K s s' a := by
  cases a with
  | start =>
    obtain rfl := Option.some.inj h
    exact .start rfl rfl rfl rfl rfl
  | schedule scheduled =>
    simp only [step, Option.ite_none_right_eq_some, Option.some.injEq] at h
    obtain ⟨-, rfl⟩ := h
    cases scheduled with
    | true => exact .schedule id (Or.inr rfl) rfl rfl rfl
    | false => exact .schedule nofun (Or.inl rfl) rfl rfl rfl
  | stop =>
    obtain rfl := Option.some.inj h
    exact .stop rfl rfl rfl rfl rfl
  | acceptLoop i event =>
    obtain ⟨phase, hi, hloop⟩ := Option.bind_eq_some_iff.mp h
    exact stepped_acceptLoop hi hloop
  | connection i action =>
    obtain ⟨⟨handle, conn⟩, hi, hconn⟩ := Option.bind_eq_some_iff.mp h
    simp only [connection, Option.ite_none_right_eq_some, Option.map_eq_some_iff] at hconn
    obtain ⟨hloads, conn', hstep, rfl⟩ := hconn
    exact .connection handle conn conn' _ hi hloads hstep rfl rfl rfl rfl rfl

/-! ## The connections -/

/-- **What the steps of a connection preserve holds of every connection.** -/
theorem forall_conns {P : κ → Prop} (hstart : ∀ args, P (K.handleConnection args))
    (hstep : ∀ conn error action conn', P conn → K.step (K.withLastError conn error) action = some conn' →
      P conn') (h : ∀ c ∈ s.conns, P c.2) (hs : s.step K a = some s') : ∀ c ∈ s'.conns, P c.2 := by
  cases stepped hs with
  | start _ _ hconns | schedule _ _ hconns | stop _ _ hconns | moved _ _ _ _ _ _ hconns
  | unscheduled _ _ _ _ _ hconns | rejected _ _ _ _ hconns =>
    rw [hconns]
    exact h
  | accepted handle args _ _ _ hconns =>
    rw [hconns]
    exact forall_mem_concat h (hstart args)
  | connection handle conn conn' error hi _ hconn _ _ hconns =>
    rw [hconns]
    intro c hc
    rcases List.mem_or_eq_of_mem_set hc with hc | rfl
    · exact h c hc
    · exact hstep conn error _ _ (h _ (List.mem_of_getElem? hi)) hconn

end ServerState

/-! ## The sockets -/

/-- The socket an accept loop is about to close. -/
def AcceptPhase.held : AcceptPhase → Option GHandle
  | .rejecting handle => some handle
  | _ => none

theorem AcceptPhase.Moves.held {running : Bool} {phase phase' : AcceptPhase}
    (h : phase.Moves running phase') : phase.held = none ∧ phase'.held = none := by
  cases h with
  | failed | opened | goesOn | stops | retries | closed => exact ⟨rfl, rfl⟩

/-- **Each accepted socket is in one place.** -/
def Sockets (s : ServerState κ) : Prop :=
  ∀ handle, s.accepted.count handle = (s.conns.map Prod.fst).count handle +
    (s.loops.filterMap AcceptPhase.held).count handle + s.rejected.count handle

namespace ServerState

variable {K : ConnClass κ α β} {s s' : ServerState κ} {a : ServerStateAction α β}

/-- What the accept loops hold, when one of them moves. -/
theorem held_set {i : Nat} {phase : AcceptPhase} (hi : s.loops[i]? = some phase)
    (phase' : AcceptPhase) (handle : GHandle) :
    ((s.loops.set i phase').filterMap AcceptPhase.held).count handle + phase.held.toList.count handle =
      (s.loops.filterMap AcceptPhase.held).count handle + phase'.held.toList.count handle := by
  obtain ⟨front, back, hloops, hset⟩ := split_of_getElem? hi
  have hcons : ∀ phase : AcceptPhase, ((front ++ phase :: back).filterMap AcceptPhase.held).count handle =
      (front.filterMap AcceptPhase.held).count handle + phase.held.toList.count handle +
        (back.filterMap AcceptPhase.held).count handle := by
    intro phase
    rw [List.filterMap_append, List.count_append, Nat.add_assoc]
    cases hheld : phase.held with
    | none =>
      rw [List.filterMap_cons_none hheld]
      simp
    | some h =>
      rw [List.filterMap_cons_some hheld, ← List.singleton_append, List.count_append]
      rfl
  rw [hset, hcons, hloops, hcons]
  omega

theorem Sockets.step (h : Sockets s) (hs : s.step K a = some s') : Sockets s' := by
  intro handle
  have hhandle := h handle
  cases stepped hs with
  | start _ hloops hconns haccepted hrejected | stop _ hloops hconns haccepted hrejected =>
    rw [hloops, hconns, haccepted, hrejected]
    exact hhandle
  | schedule _ hloops hconns haccepted hrejected =>
    rw [hconns, haccepted, hrejected]
    rcases hloops with hloops | hloops
    · rw [hloops]
      exact hhandle
    · rw [hloops, List.filterMap_append, List.count_append]
      exact hhandle
  | moved phase phase' hi hmoves _ hloops hconns haccepted hrejected =>
    have hset := held_set hi phase' handle
    rw [hmoves.held.1, hmoves.held.2] at hset
    rw [hloops, hconns, haccepted, hrejected]
    omega
  | accepted new args hi _ hloops hconns haccepted hrejected =>
    have hset := held_set hi .testing handle
    rw [hloops, hconns, haccepted, hrejected, List.map_append, List.count_append, List.count_append]
    simp only [AcceptPhase.held, Option.toList_none, List.count_nil, List.map_singleton] at hset ⊢
    omega
  | unscheduled new args hi _ hloops hconns haccepted hrejected =>
    have hset := held_set hi (.rejecting new) handle
    rw [hloops, hconns, haccepted, hrejected, List.count_append]
    simp only [AcceptPhase.held, Option.toList_none, Option.toList_some, List.count_nil] at hset
    omega
  | rejected new hi _ hloops hconns haccepted hrejected =>
    have hset := held_set hi .testing handle
    rw [hloops, hconns, haccepted, hrejected, List.count_append]
    simp only [AcceptPhase.held, Option.toList_none, Option.toList_some, List.count_nil] at hset
    omega
  | connection new conn conn' error hi _ _ _ hloops hconns haccepted hrejected =>
    obtain ⟨front, back, hsplit, hset⟩ := split_of_getElem? hi
    rw [hsplit] at hhandle
    rw [hloops, hconns, hset, haccepted, hrejected]
    simpa only [List.map_append, List.map_cons] using hhandle

/-! ## After `stop` -/

end ServerState

def AcceptPhase.isAccepting : AcceptPhase → Bool
  | .accepting => true
  | _ => false

/-- No call of `start`. -/
def ServerStateAction.NoStart : ServerStateAction α β → Prop
  | .start => False
  | _ => True

instance (a : ServerStateAction α β) : Decidable a.NoStart :=
  match a with
  | .start => .isFalse id
  | .schedule _ => .isTrue trivial
  | .stop => .isTrue trivial
  | .acceptLoop _ _ => .isTrue trivial
  | .connection _ _ => .isTrue trivial

/-- The accept loop in place `i` accepts a connection. -/
def ServerStateAction.acceptsAt (i : Nat) : ServerStateAction α β → Bool
  | .acceptLoop j event => decide (j = i) && event.isAccepted
  | _ => false

namespace ServerState

variable {K : ConnClass κ α β} {s s' s₀ : ServerState κ} {a : ServerStateAction α β} {work : κ → Nat}

/-- The work of the connection in place `i`. -/
def workOf (work : κ → Nat) (s : ServerState κ) (i : Nat) : Nat :=
  match s.conns[i]? with
  | some c => work c.2
  | none => 0

/-- The accept loops that are waiting for a connection. -/
def acceptingLoops (s : ServerState κ) : Nat := s.loops.countP AcceptPhase.isAccepting

/-- What the loop in place `i` can still accept once the server is stopped: one connection, if it is
    waiting for one. -/
def acceptsLeft (s : ServerState κ) (i : Nat) : Nat :=
  match s.loops[i]? with
  | some phase => phase.isAccepting.toNat
  | none => 0

/-- What is left to do, and what has been done, of a server that was stopped in `s₀`: a connection has
    been accepted only where a loop was waiting for one, each new connection was accepted, and none has
    more work. -/
structure Winding (work : κ → Nat) (s₀ s : ServerState κ) : Prop where
  stopped : s.mRunning = false
  accepted : s.accepted.length + s.acceptingLoops ≤ s₀.accepted.length + s₀.acceptingLoops
  conns : s.conns.length + s₀.accepted.length ≤ s₀.conns.length + s.accepted.length
  works : ∀ i, workOf work s i ≤ workOf work s₀ i

/-- The accept loops, when one of them moves. -/
theorem acceptingLoops_set {i : Nat} {phase : AcceptPhase} (hi : s.loops[i]? = some phase)
    (phase' : AcceptPhase) :
    (s.loops.set i phase').countP AcceptPhase.isAccepting + phase.isAccepting.toNat =
      s.acceptingLoops + phase'.isAccepting.toNat := by
  obtain ⟨front, back, hloops, hset⟩ := split_of_getElem? hi
  have hcons : ∀ phase : AcceptPhase, (front ++ phase :: back).countP AcceptPhase.isAccepting =
      front.countP AcceptPhase.isAccepting + phase.isAccepting.toNat +
        back.countP AcceptPhase.isAccepting := by
    intro phase
    rw [List.countP_append, List.countP_cons]
    cases phase.isAccepting with
    | true =>
      simp only [if_true, Bool.toNat_true]
      omega
    | false =>
      simp only [Bool.false_eq_true, if_false, Bool.toNat_false]
      omega
  rw [acceptingLoops, hset, hcons, hloops, hcons]
  omega

/-- One of the accept loops moves: what it can still accept is by its new phase, the others' is kept. -/
theorem acceptsLeft_set {i j : Nat} {phase phase' : AcceptPhase} (hi : s.loops[i]? = some phase)
    (hloops : s'.loops = s.loops.set i phase') :
    s'.acceptsLeft j = if i = j then phase'.isAccepting.toNat else s.acceptsLeft j := by
  rw [acceptsLeft, hloops, List.getElem?_set]
  by_cases hij : i = j
  · subst hij
    rw [if_pos rfl, if_pos (List.getElem?_eq_some_iff.mp hi).1, if_pos rfl]
  · rw [if_neg hij, if_neg hij, acceptsLeft]

/-- Once `m_running` is false, no loop goes on to wait for a connection. -/
theorem not_accepting_of_moves {phase phase' : AcceptPhase}
    (h : phase.Moves false phase') : phase'.isAccepting = false := by
  cases h with
  | goesOn h => cases h
  | failed | opened | stops | retries | closed => rfl

/-- Only `start` sets `m_running`. -/
theorem Stepped.stopped (h : Stepped K s s' a) (hnostart : a.NoStart) (hstopped : s.mRunning = false) :
    s'.mRunning = false := by
  cases h with
  | start => exact absurd hnostart id
  | schedule hrunning =>
    rw [← Bool.not_eq_true]
    intro htrue
    rw [hrunning htrue] at hstopped
    cases hstopped
  | stop hrunning => exact hrunning
  | moved _ _ _ _ hrunning | accepted _ _ _ hrunning | unscheduled _ _ _ hrunning
  | rejected _ _ hrunning | connection _ _ _ _ _ _ _ hrunning => exact hrunning.trans hstopped

/-- **One step of a stopped server takes an accept off the loop that makes it**, and lets no other loop
    wait for one. -/
theorem Stepped.acceptsLeft (h : Stepped K s s' a) (hnostart : a.NoStart) (hstopped : s.mRunning = false)
    (j : Nat) : s'.acceptsLeft j + (a.acceptsAt j).toNat ≤ s.acceptsLeft j := by
  have hsame : s'.loops = s.loops → s'.acceptsLeft j ≤ s.acceptsLeft j := by
    intro hloops
    rw [ServerState.acceptsLeft, hloops, ServerState.acceptsLeft]
  have hquiet : ∀ {i : Nat} {event : AcceptEvent β} {phase phase' : AcceptPhase},
      s.loops[i]? = some phase → s'.loops = s.loops.set i phase' → phase'.isAccepting = false →
        event.isAccepted = false → s'.acceptsLeft j +
          ((ServerStateAction.acceptLoop (α := α) i event).acceptsAt j).toNat ≤ s.acceptsLeft j := by
    intro i event phase phase' hi hloops hphase hevent
    rw [acceptsLeft_set hi hloops, ServerStateAction.acceptsAt, hevent, Bool.and_false, hphase]
    split
    · exact Nat.zero_le _
    · exact Nat.le_refl _
  have hspent : ∀ {i : Nat} {event : AcceptEvent β} {phase' : AcceptPhase},
      s.loops[i]? = some .accepting → s'.loops = s.loops.set i phase' → phase'.isAccepting = false →
        s'.acceptsLeft j +
          ((ServerStateAction.acceptLoop (α := α) i event).acceptsAt j).toNat ≤ s.acceptsLeft j := by
    intro i event phase' hi hloops hphase
    rw [acceptsLeft_set hi hloops, ServerStateAction.acceptsAt, hphase]
    by_cases hij : i = j
    · subst hij
      rw [if_pos rfl, ServerState.acceptsLeft, hi]
      show 0 + _ ≤ 1
      rw [Nat.zero_add]
      exact Bool.toNat_le _
    · rw [if_neg hij, decide_eq_false hij, Bool.false_and]
      exact Nat.le_refl _
  cases h with
  | start => exact absurd hnostart id
  | schedule _ hloops =>
    rcases hloops with hloops | hloops
    · exact hsame hloops
    · -- the new loop is at its first statement
      show s'.acceptsLeft j ≤ _
      rw [ServerState.acceptsLeft, hloops, ServerState.acceptsLeft]
      rcases Nat.lt_trichotomy j s.loops.length with hlt | rfl | hgt
      · rw [List.getElem?_append_left hlt]
      · rw [List.getElem?_concat_length]
        exact Nat.zero_le _
      · rw [List.getElem?_eq_none (by rw [List.length_append, List.length_singleton]; exact hgt)]
        exact Nat.zero_le _
  | stop _ hloops | connection _ _ _ _ _ _ _ _ hloops => exact hsame hloops
  | moved phase phase' hi hmoves _ hloops _ _ _ hevent =>
    rw [hstopped] at hmoves
    exact hquiet hi hloops (not_accepting_of_moves hmoves) hevent
  | rejected handle hi _ hloops _ _ _ hevent => exact hquiet hi hloops rfl hevent
  | accepted handle args hi _ hloops => exact hspent hi hloops rfl
  | unscheduled handle args hi _ hloops => exact hspent hi hloops rfl

/-- **What a stopped server accepts**: for each loop that is waiting one connection, for no other any. -/
theorem accepts_of_run (hstopped : s.mRunning = false) {actions : List (ServerStateAction α β)}
    (hrun : Run (ServerState.step K) (fun _ a => a.NoStart) s actions s') (j : Nat) :
    actions.countP (ServerStateAction.acceptsAt j) ≤ s.acceptsLeft j := by
  have hstep : ∀ (s : ServerState κ) (a : ServerStateAction α β) (s' : ServerState κ),
      s.mRunning = false → a.NoStart → s.step K a = some s' →
        s'.mRunning = false ∧ s'.acceptsLeft j + (a.acceptsAt j).toNat ≤ s.acceptsLeft j := by
    intro s a s' hs hnostart hstep
    have h := stepped hstep
    exact ⟨h.stopped hnostart hs, h.acceptsLeft hnostart hs j⟩
  have hbudget := hrun.countP_le (fun s => s.acceptsLeft j) (ServerStateAction.acceptsAt j) hstep hstopped
  omega

/-- **One step of a stopped server** adds no work: no coroutine loads `m_running` as true. -/
theorem Winding.step (hstart : ∀ args, work (K.handleConnection args) = 0)
    (hstep : ∀ conn error action conn', K.loads action ≠ some true →
      K.step (K.withLastError conn error) action = some conn' → work conn' ≤ work conn)
    (h : Winding work s₀ s) (hnostart : a.NoStart) (hs : s.step K a = some s') : Winding work s₀ s' := by
  obtain ⟨hstopped, haccepted₀, hconns₀, hworks⟩ := h
  have hstill := (stepped hs).stopped hnostart hstopped
  have hsame : s'.conns = s.conns → ∀ i, workOf work s' i ≤ workOf work s₀ i := by
    intro hconns i
    rw [workOf, hconns]
    exact hworks i
  cases stepped hs with
  | start => exact absurd hnostart id
  | schedule _ hloops hconns haccepted =>
    refine ⟨hstill, ?_, by rw [hconns, haccepted]; exact hconns₀, hsame hconns⟩
    rw [haccepted, acceptingLoops]
    rcases hloops with hloops | hloops
    · rw [hloops]
      exact haccepted₀
    · rw [hloops, List.countP_append]
      exact haccepted₀
  | stop _ hloops hconns haccepted =>
    refine ⟨hstill, ?_, by rw [hconns, haccepted]; exact hconns₀, hsame hconns⟩
    rw [haccepted, acceptingLoops, hloops]
    exact haccepted₀
  | moved phase phase' hi hmoves _ hloops hconns haccepted =>
    have hset := acceptingLoops_set hi phase'
    rw [hstopped] at hmoves
    rw [not_accepting_of_moves hmoves, Bool.toNat_false] at hset
    refine ⟨hstill, ?_, by rw [hconns, haccepted]; exact hconns₀, hsame hconns⟩
    rw [haccepted, acceptingLoops, hloops]
    omega
  | accepted handle args hi _ hloops hconns haccepted =>
    have hset := acceptingLoops_set hi .testing
    simp only [AcceptPhase.isAccepting, Bool.toNat_false, Bool.toNat_true] at hset
    refine ⟨hstill, ?_, ?_, ?_⟩
    · rw [haccepted, acceptingLoops, hloops, List.length_append, List.length_singleton]
      omega
    · rw [hconns, haccepted, List.length_append, List.length_append, List.length_singleton,
        List.length_singleton]
      omega
    · intro i
      have hi := hworks i
      rw [workOf] at hi ⊢
      rw [hconns]
      rcases Nat.lt_trichotomy i s.conns.length with hlt | rfl | hgt
      · rw [List.getElem?_append_left hlt]
        exact hi
      · rw [List.getElem?_concat_length]
        show work (K.handleConnection args) ≤ _
        rw [hstart]
        exact Nat.zero_le _
      · rw [List.getElem?_eq_none (by rw [List.length_append, List.length_singleton]; exact hgt)]
        exact Nat.zero_le _
  | unscheduled handle args hi _ hloops hconns haccepted =>
    have hset := acceptingLoops_set hi (.rejecting handle)
    simp only [AcceptPhase.isAccepting, Bool.toNat_false, Bool.toNat_true] at hset
    refine ⟨hstill, ?_, ?_, hsame hconns⟩
    · rw [haccepted, acceptingLoops, hloops, List.length_append, List.length_singleton]
      omega
    · rw [hconns, haccepted, List.length_append, List.length_singleton]
      omega
  | rejected handle hi _ hloops hconns haccepted =>
    have hset := acceptingLoops_set hi .testing
    simp only [AcceptPhase.isAccepting, Bool.toNat_false] at hset
    refine ⟨hstill, ?_, by rw [hconns, haccepted]; exact hconns₀, hsame hconns⟩
    rw [haccepted, acceptingLoops, hloops]
    omega
  | @connection j action handle conn conn' error hj hloads hconn _ hloops hconns haccepted =>
    refine ⟨hstill, ?_, ?_, ?_⟩
    · rw [haccepted, acceptingLoops, hloops]
      exact haccepted₀
    · rw [hconns, haccepted, List.length_set]
      exact hconns₀
    · intro i
      have hi := hworks i
      rw [workOf] at hi ⊢
      rw [hconns, List.getElem?_set]
      by_cases hij : j = i
      · subst hij
        rw [if_pos rfl, if_pos (List.getElem?_eq_some_iff.mp hj).1]
        rw [hj] at hi
        refine (hstep conn error action conn' ?_ hconn).trans hi
        intro htrue
        have := hloads true htrue
        rw [hstopped] at this
        cases this
      · rw [if_neg hij]
        exact hi

/-- **A stopped server takes on no work.** -/
theorem winding_of_run (work : κ → Nat) (hstart : ∀ args, work (K.handleConnection args) = 0)
    (hstep : ∀ conn error action conn', K.loads action ≠ some true →
      K.step (K.withLastError conn error) action = some conn' → work conn' ≤ work conn)
    (hstopped : s.mRunning = false) {actions : List (ServerStateAction α β)}
    (hrun : Run (ServerState.step K) (fun _ a => a.NoStart) s actions s') : Winding work s s' :=
  hrun.invariant (fun _ _ _ h hnostart hs => h.step hstart hstep hnostart hs)
    ⟨hstopped, Nat.le_refl _, Nat.le_refl _, fun _ => Nat.le_refl _⟩

theorem sockets_of_run {actions : List (ServerStateAction α β)}
    (hrun : Run (ServerState.step K) (fun _ _ => True) {} actions s) :
    s.accepted.Perm (s.conns.map Prod.fst ++ (s.loops.filterMap AcceptPhase.held ++ s.rejected)) := by
  have h : Sockets s :=
    hrun.invariant (fun _ _ _ h _ hs => Sockets.step h hs) (fun handle => rfl)
  rw [List.perm_iff_count]
  intro handle
  rw [List.count_append, List.count_append, ← Nat.add_assoc]
  exact h handle

theorem conns_of_run {P : κ → Prop} (hstart : ∀ args, P (K.handleConnection args))
    (hstep : ∀ conn error action conn', P conn → K.step (K.withLastError conn error) action = some conn' →
      P conn') {actions : List (ServerStateAction α β)}
    (hrun : Run (ServerState.step K) (fun _ _ => True) {} actions s) : ∀ c ∈ s.conns, P c.2 :=
  hrun.invariant (fun _ _ _ h _ hs => forall_conns hstart hstep h hs) (fun c hc => by cases hc)

end ServerState

end GalayRpc
