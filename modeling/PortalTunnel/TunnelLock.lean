import PortalTunnel.ProxyEngine

/-!
# Engine calls on one tunnel under the browser's executor

`Tunnel::send_request` and `Tunnel::receive_response` take the tunnel's `parking_lot::Mutex`
and keep its guard across the `.await` of `SecureConnection::write` or `read`.  In the browser
every engine call is a future on the one thread: a poll runs the future until an await is
pending, and `lock()` on a mutex that another future holds blocks the thread itself, so that no
future is polled again.

The model is a step system of tasks.  A task is an engine call with the lock sections it goes
through on its tunnel; a step spawns a call, or polls a task with the number of awaits that
complete during the poll.  Between polls a future holds its tunnel's mutex exactly when it is
suspended inside a lock section, so the mutex's state is read off the other tasks.
-/

namespace PortalTunnel

/-- A stretch of a call that holds its tunnel's mutex: the write of `send_request` or the read
of `receive_response`. -/
inductive Section
  | send
  | receive
deriving DecidableEq, Repr

/-- Where a call's future stands between two polls. -/
inductive Phase
  /-- Holding no lock, with the lock sections still to run. -/
  | outside (sections : List Section)
  /-- Holding the mutex, pending at the await of `current`. -/
  | suspended (current : Section) (rest : List Section)
  /-- Called `lock()` on a mutex another future holds: the thread is blocked. -/
  | blocked (current : Section) (rest : List Section)
  | finished
deriving DecidableEq, Repr

namespace Phase

def isSuspended : Phase → Bool
  | .suspended _ _ => true
  | _ => false

def isBlocked : Phase → Bool
  | .blocked _ _ => true
  | _ => false

def isFinished : Phase → Bool
  | .finished => true
  | _ => false

/-- A poll from outside any lock: lock the next section's mutex, and go on to the section after
it for each await that completes, until an await is pending (the guard is kept) or the mutex is
held by another future. -/
def enter (held : Bool) : List Section → Nat → Phase
  | [], _ => .finished
  | current :: rest, completes =>
      if held then .blocked current rest
      else match completes with
        | 0 => .suspended current rest
        | n + 1 => enter held rest n

/-- One poll of a future, `held` telling whether another future holds its tunnel's mutex. -/
def poll (held : Bool) (completes : Nat) : Phase → Phase
  | .outside sections => enter held sections completes
  | .suspended current rest =>
      match completes with
      | 0 => .suspended current rest
      | n + 1 => enter held rest n
  | phase => phase

end Phase

/-- An engine call as the executor runs it. -/
structure Task where
  tunnel : String
  phase : Phase
deriving DecidableEq, Repr

/-- The tunnel an engine call locks, when it gets that far: the one it created, or the one it
names. -/
def Operation.lockedTunnel : Operation → Option String
  | .handleHttpRequest _ _ _ _ io | .openWebSocket _ _ io | .connectTcp _ _ io => io.created.toOption
  | .sendWebSocketMessage tunnelId _ _ _ _ | .receiveWebSocketMessage tunnelId _
  | .closeWebSocket tunnelId _ _ _ => some tunnelId

/-- The lock sections of an engine call: `send_request` then `receive_response`, or one of
them. -/
def Operation.sections : Operation → List Section
  | .handleHttpRequest .. | .openWebSocket .. | .connectTcp .. => [.send, .receive]
  | .sendWebSocketMessage .. | .closeWebSocket .. => [.send]
  | .receiveWebSocketMessage .. => [.receive]

/-- The task of a new call; a call that creates no tunnel finishes without locking. -/
def Operation.task (operation : Operation) : Task :=
  match operation.lockedTunnel with
  | some tunnel => ⟨tunnel, .outside operation.sections⟩
  | none => ⟨"", .finished⟩

/-- The executor: the calls it has been given, by the order they were spawned in. -/
structure Executor where
  tasks : List Task
deriving DecidableEq, Repr

/-- A step of the executor. -/
inductive Event
  | spawn (operation : Operation)
  | poll (task completes : Nat)

namespace Executor

/-- Some task is blocked on a mutex, and with it the thread. -/
def stuck (self : Executor) : Bool := self.tasks.any (·.phase.isBlocked)

/-- Whether a task other than the `index`-th holds the mutex of `tunnel`. -/
def heldByOthers (self : Executor) (index : Nat) (tunnel : String) : Bool :=
  self.tasks.enum.any fun (other, task) =>
    other ≠ index ∧ task.tunnel = tunnel ∧ task.phase.isSuspended

/-- One step; once the thread is blocked nothing runs. -/
def step (self : Executor) : Event → Executor
  | .spawn operation => if self.stuck then self else ⟨self.tasks ++ [operation.task]⟩
  | .poll index completes =>
      if self.stuck then self else
        match self.tasks[index]? with
        | none => self
        | some task =>
            ⟨self.tasks.set index
              ⟨task.tunnel, task.phase.poll (self.heldByOthers index task.tunnel) completes⟩⟩

def run : Executor → List Event → Executor
  | self, [] => self
  | self, event :: events => run (self.step event) events

end Executor

/-! ## A blocked thread waits on a suspended holder -/

namespace Phase

theorem enter_not_held {sections : List Section} {completes : Nat} :
    (enter false sections completes).isBlocked = false := by
  induction sections generalizing completes with
  | nil => rfl
  | cons current rest ih =>
      cases completes
      · rfl
      · exact ih

/-- A poll blocks a future only at a mutex another future holds. -/
theorem poll_blocked {held : Bool} {completes : Nat} {phase : Phase}
    (blocks : (phase.poll held completes).isBlocked = true) : phase.isBlocked = true ∨ held = true := by
  cases held
  · cases phase with
    | outside sections => simp [poll, enter_not_held] at blocks
    | suspended current rest =>
        cases completes
        · cases blocks
        · simp [poll, enter_not_held] at blocks
    | blocked => exact .inl rfl
    | finished => simp [poll, isBlocked] at blocks
  · exact .inr rfl

theorem poll_finished {held : Bool} {completes : Nat} {phase : Phase}
    (finished : phase.isFinished = true) : phase.poll held completes = phase := by
  cases phase <;> simp_all [isFinished, poll]

end Phase

theorem Operation.task_not_blocked (operation : Operation) : operation.task.phase.isBlocked = false := by
  unfold Operation.task
  split <;> rfl

theorem Phase.not_finished_of_suspended {phase : Phase} (suspended : phase.isSuspended = true) :
    phase.isFinished = false := by
  cases phase <;> simp_all [Phase.isSuspended, Phase.isFinished]

theorem Operation.task_tunnel {operation : Operation} (unfinished : operation.task.phase.isFinished = false) :
    operation.lockedTunnel = some operation.task.tunnel := by
  unfold Operation.task at unfinished ⊢
  split
  · assumption
  · simp_all [Phase.isFinished]

namespace Executor

theorem heldByOthers_iff {self : Executor} {index : Nat} {tunnel : String} :
    self.heldByOthers index tunnel = true ↔
      ∃ other holder, other ≠ index ∧ self.tasks[other]? = some holder ∧ holder.tunnel = tunnel ∧
        holder.phase.isSuspended = true := by
  simp only [heldByOthers, List.any_eq_true, Prod.exists, List.mem_enum_iff_getElem?,
    decide_eq_true_eq]
  constructor
  · rintro ⟨other, holder, found, differs, rest⟩
    exact ⟨other, holder, differs, found, rest⟩
  · rintro ⟨other, holder, differs, found, rest⟩
    exact ⟨other, holder, found, differs, rest⟩

theorem stuck_eq_false_iff {self : Executor} :
    self.stuck = false ↔
      ∀ (position : Nat) (task : Task), self.tasks[position]? = some task → task.phase.isBlocked = false := by
  simp only [stuck, List.any_eq_false, Bool.not_eq_true]
  constructor
  · exact fun free _ task found => free task (List.getElem?_mem found)
  · intro free task mem
    obtain ⟨position, found⟩ := List.mem_iff_getElem?.mp mem
    exact free position task found

theorem not_blocked_of_not_stuck {self : Executor} (free : self.stuck = false) {index : Nat}
    {task : Task} (found : self.tasks[index]? = some task) : task.phase.isBlocked = false :=
  stuck_eq_false_iff.mp free index task found

theorem step_of_stuck {self : Executor} (stuck : self.stuck = true) (event : Event) :
    self.step event = self := by
  cases event <;> simp [step, stuck]

/-- Once the thread is blocked, no step changes anything. -/
theorem run_of_stuck {self : Executor} (stuck : self.stuck = true) (events : List Event) :
    self.run events = self := by
  induction events with
  | nil => rfl
  | cons event events ih => simpa only [run, step_of_stuck stuck event] using ih

/-! ### What one step leaves at each position -/

/-- A spawn keeps every task and adds the new call's task last. -/
theorem spawn_getElem? {self : Executor} (free : self.stuck = false) {operation : Operation}
    {position : Nat} {task : Task} (found : (self.step (.spawn operation)).tasks[position]? = some task) :
    self.tasks[position]? = some task ∨ (task = operation.task ∧ position = self.tasks.length) := by
  simp only [step, free, Bool.false_eq_true, if_false] at found
  rw [List.getElem?_append] at found
  split at found
  · exact .inl found
  · right
    cases gap : position - self.tasks.length <;> simp_all
    omega

theorem poll_absent {self : Executor} {index completes : Nat} (absent : self.tasks[index]? = none) :
    self.step (.poll index completes) = self := by
  cases self.stuck <;> simp [step, absent]

/-- A poll leaves every task but the polled one as it was. -/
theorem poll_getElem?_of_ne {self : Executor} {index completes position : Nat} (differs : position ≠ index) :
    (self.step (.poll index completes)).tasks[position]? = self.tasks[position]? := by
  simp only [step]
  split
  · rfl
  · split
    · rfl
    · exact List.getElem?_set_ne (Ne.symm differs)

/-- A poll replaces the polled task's phase by its polled phase, and keeps every other task. -/
theorem poll_getElem? {self : Executor} (free : self.stuck = false) {index completes : Nat} {old : Task}
    (polled : self.tasks[index]? = some old) {position : Nat} {task : Task}
    (found : (self.step (.poll index completes)).tasks[position]? = some task) :
    (position = index ∧
        task = ⟨old.tunnel, old.phase.poll (self.heldByOthers index old.tunnel) completes⟩) ∨
      (position ≠ index ∧ self.tasks[position]? = some task) := by
  by_cases same : position = index
  · subst same
    simp only [step, free, Bool.false_eq_true, if_false, polled,
      List.getElem?_set_self (List.getElem?_eq_some_iff.mp polled).1, Option.some.injEq] at found
    exact .inl ⟨rfl, found.symm⟩
  · exact .inr ⟨same, poll_getElem?_of_ne same ▸ found⟩

/-- A receive on tunnel "t" spawned and polled while no data has arrived, then a send on the
same tunnel spawned and polled. -/
def receiveThenSend : List Event :=
  [.spawn (.receiveWebSocketMessage "t" (.ok (.tcpClosed "t"))),
    .spawn (.sendWebSocketMessage "t" false [] (some "hi") (.ok ())), .poll 0 0, .poll 1 1]

/-- A receive waiting for data keeps the tunnel's mutex; a send on the same tunnel, polled next,
calls `lock()` on it and blocks the thread for good: no later event changes anything. -/
theorem receive_then_send_blocks :
    (Executor.run ⟨[]⟩ receiveThenSend).tasks =
        [⟨"t", .suspended .receive []⟩, ⟨"t", .blocked .send []⟩] ∧
      (Executor.run ⟨[]⟩ receiveThenSend).stuck = true ∧
      ∀ events, (Executor.run ⟨[]⟩ receiveThenSend).run events = Executor.run ⟨[]⟩ receiveThenSend := by
  have stuck : (Executor.run ⟨[]⟩ receiveThenSend).stuck = true := by decide
  exact ⟨by decide, stuck, run_of_stuck stuck⟩

/-! ## Calls made one after another on each tunnel never block -/

/-- No two unfinished calls use one tunnel. -/
def Exclusive (self : Executor) : Prop :=
  ∀ (first second : Nat) (one two : Task), first ≠ second →
    self.tasks[first]? = some one → self.tasks[second]? = some two →
    one.phase.isFinished = false → two.phase.isFinished = false → one.tunnel ≠ two.tunnel

/-- A call is spawned only on a tunnel no unfinished call uses. -/
def Allowed (self : Executor) : Event → Prop
  | .spawn operation => ∀ tunnel ∈ operation.lockedTunnel,
      ∀ task ∈ self.tasks, task.phase.isFinished = false → task.tunnel ≠ tunnel
  | .poll _ _ => True

instance (self : Executor) : (event : Event) → Decidable (self.Allowed event)
  | .spawn operation => inferInstanceAs (Decidable (∀ tunnel ∈ operation.lockedTunnel,
      ∀ task ∈ self.tasks, task.phase.isFinished = false → task.tunnel ≠ tunnel))
  | .poll _ _ => inferInstanceAs (Decidable True)

/-- Every step of a run is allowed in the state it is taken from. -/
def Disciplined : Executor → List Event → Prop
  | _, [] => True
  | self, event :: events => self.Allowed event ∧ Disciplined (self.step event) events

instance Disciplined.decidable : (self : Executor) → (events : List Event) →
    Decidable (Disciplined self events)
  | _, [] => isTrue trivial
  | self, event :: events =>
      haveI := Disciplined.decidable (self.step event) events
      inferInstanceAs (Decidable (self.Allowed event ∧ Disciplined (self.step event) events))

/-- An allowed spawn keeps every two unfinished calls on different tunnels, and blocks nothing. -/
theorem spawn_exclusive {self : Executor} {operation : Operation} (exclusive : self.Exclusive)
    (free : self.stuck = false) (allowed : self.Allowed (.spawn operation)) :
    (self.step (.spawn operation)).Exclusive ∧ (self.step (.spawn operation)).stuck = false := by
  have fresh : ∀ task ∈ self.tasks, task.phase.isFinished = false →
      operation.task.phase.isFinished = false → task.tunnel ≠ operation.task.tunnel :=
    fun task mem unfinished spawnedUnfinished =>
      allowed _ (Operation.task_tunnel spawnedUnfinished) task mem unfinished
  refine ⟨fun first second one two differs foundOne foundTwo unfinishedOne unfinishedTwo => ?_,
    stuck_eq_false_iff.mpr fun _ task found => ?_⟩
  · rcases spawn_getElem? free foundOne with oldOne | ⟨rfl, rfl⟩ <;>
      rcases spawn_getElem? free foundTwo with oldTwo | ⟨rfl, rfl⟩
    · exact exclusive first second one two differs oldOne oldTwo unfinishedOne unfinishedTwo
    · exact fresh one (List.getElem?_mem oldOne) unfinishedOne unfinishedTwo
    · exact Ne.symm (fresh two (List.getElem?_mem oldTwo) unfinishedTwo unfinishedOne)
    · exact absurd rfl differs
  · rcases spawn_getElem? free found with old | ⟨rfl, -⟩
    · exact not_blocked_of_not_stuck free old
    · exact Operation.task_not_blocked operation

/-- A poll from an exclusive state keeps it exclusive, and blocks nothing: the polled call's
tunnel is held by no other unfinished call. -/
theorem poll_exclusive {self : Executor} {index completes : Nat} (exclusive : self.Exclusive)
    (free : self.stuck = false) :
    (self.step (.poll index completes)).Exclusive ∧ (self.step (.poll index completes)).stuck = false := by
  cases polled : self.tasks[index]? with
  | none => rw [poll_absent polled]; exact ⟨exclusive, free⟩
  | some old =>
      have keepsFinished : (old.phase.poll (self.heldByOthers index old.tunnel) completes).isFinished =
          false → old.phase.isFinished = false := by
        intro unfinished
        cases finished : old.phase.isFinished
        · rfl
        · rwa [Phase.poll_finished finished, finished] at unfinished
      have notBlocked : (old.phase.poll (self.heldByOthers index old.tunnel) completes).isBlocked = false := by
        cases blocked : (old.phase.poll (self.heldByOthers index old.tunnel) completes).isBlocked
        · rfl
        rcases Phase.poll_blocked blocked with wasBlocked | held
        · simp [not_blocked_of_not_stuck free polled] at wasBlocked
        obtain ⟨other, holder, differs, foundHolder, tunnel, suspended⟩ := heldByOthers_iff.mp held
        cases finished : old.phase.isFinished
        · exact absurd tunnel.symm (exclusive index other old holder (Ne.symm differs) polled
            foundHolder finished (Phase.not_finished_of_suspended suspended))
        · rw [Phase.poll_finished finished] at blocked
          simp [not_blocked_of_not_stuck free polled] at blocked
      refine ⟨fun first second one two differs foundOne foundTwo unfinishedOne unfinishedTwo => ?_,
        stuck_eq_false_iff.mpr fun _ task found => ?_⟩
      · rcases poll_getElem? free polled foundOne with ⟨rfl, rfl⟩ | ⟨_, oldOne⟩ <;>
          rcases poll_getElem? free polled foundTwo with ⟨rfl, rfl⟩ | ⟨_, oldTwo⟩
        · exact absurd rfl differs
        · exact exclusive first second old two differs polled oldTwo (keepsFinished unfinishedOne)
            unfinishedTwo
        · exact exclusive first second one old differs oldOne polled unfinishedOne
            (keepsFinished unfinishedTwo)
        · exact exclusive first second one two differs oldOne oldTwo unfinishedOne unfinishedTwo
      · rcases poll_getElem? free polled found with ⟨-, rfl⟩ | ⟨-, stayed⟩
        · exact notBlocked
        · exact not_blocked_of_not_stuck free stayed

/-- Allowed steps from an exclusive state with no blocked task keep both. -/
theorem step_exclusive {self : Executor} {event : Event} (exclusive : self.Exclusive)
    (free : self.stuck = false) (allowed : self.Allowed event) :
    (self.step event).Exclusive ∧ (self.step event).stuck = false := by
  cases event with
  | spawn operation => exact spawn_exclusive exclusive free allowed
  | poll index completes => exact poll_exclusive exclusive free

/-- When the calls on each tunnel are made one after another, the thread is never blocked. -/
theorem run_never_stuck {events : List Event} {self : Executor} (exclusive : self.Exclusive)
    (free : self.stuck = false) (disciplined : Disciplined self events) :
    (self.run events).stuck = false := by
  induction events generalizing self with
  | nil => exact free
  | cons event events ih =>
      obtain ⟨exclusive', free'⟩ := step_exclusive exclusive free disciplined.1
      exact ih exclusive' free' disciplined.2

/-- A receive on "t" that completes before a send on "t" is spawned: the calls take turns and
the thread runs on. -/
theorem run_never_stuck_in_turn :
    Exclusive ⟨[]⟩ ∧ stuck ⟨[]⟩ = false ∧
      Disciplined ⟨[]⟩ [.spawn (.receiveWebSocketMessage "t" (.ok (.tcpClosed "t"))), .poll 0 1,
        .spawn (.sendWebSocketMessage "t" false [] (some "hi") (.ok ())), .poll 1 1] ∧
      (run ⟨[]⟩ [.spawn (.receiveWebSocketMessage "t" (.ok (.tcpClosed "t"))), .poll 0 1,
        .spawn (.sendWebSocketMessage "t" false [] (some "hi") (.ok ())), .poll 1 1]).stuck = false :=
  have exclusive : Exclusive ⟨[]⟩ := fun _ _ _ _ _ found => by simp at found
  have disciplined : Disciplined ⟨[]⟩ [.spawn (.receiveWebSocketMessage "t" (.ok (.tcpClosed "t"))),
      .poll 0 1, .spawn (.sendWebSocketMessage "t" false [] (some "hi") (.ok ())), .poll 1 1] := by
    decide
  ⟨exclusive, rfl, disciplined, run_never_stuck exclusive rfl disciplined⟩

end Executor

end PortalTunnel
