import HartLayer.Trap.Request

/-!
# Delivering traps

`dispatchWith` runs one trap through classification and the handler. While the handler runs, its
dispatcher refuses further traps; the mark that says so is taken back however the handler ends.
Handlers are scripts that may dispatch again, on their own dispatcher or on others, so the
meaning of a request depends on how dispatches nest. Every dispatch that calls a handler marks one
more dispatcher, so as many levels as there are dispatchers are enough, and `World.answer` answers a
request with that many.
-/

namespace HartLayer.World

variable {H κ α : Type} {n : Nat}

/-- Marks a dispatcher as busy during a computation. A dispatcher that is busy already refuses. -/
def guarded (s : SystemId n) (cause : Cause) (body : Run H n κ α) : Run H n κ α :=
  fun w =>
    if (w.dispatcher s).dispatching then (.error (.nestedTrap cause), w)
    else
      let clear (w' : World H n κ) := w'.onDispatcher s fun d => { d with dispatching := false }
      (body.ensuring clear).runFrom
        (w.onDispatcher s fun d => { d with dispatching := true })

/-- A busy dispatcher refuses, and nothing changes. -/
theorem guarded_of_dispatching {s : SystemId n} {w : World H n κ}
    (h : (w.dispatcher s).dispatching = true) (cause : Cause) (body : Run H n κ α) :
    (guarded s cause body).runFrom w = (.error (.nestedTrap cause), w) := by
  simp only [guarded, Attempt.runFrom, h, if_true]

/-- Reports an unknown trap and remembers it, unless the log is held. -/
def logUnknown (w : World H n κ) (s : SystemId n) (u : UnknownTrap) : World H n κ :=
  let w := w.log .error s!"Unknown Event: {u.cause.display}"
  if (w.dispatcher s).logHeld then
    w.log .error s!"Trap log busy, dropped entry for {u.cause.display}"
  else
    w.onDispatcher s fun d => { d with log := d.log.push u }

/-- The part of a dispatch before the handler: the trap is counted, logged if it is unknown, and
its context moved on. The call of the handler that is due goes into the journal. -/
def announce (w : World H n κ) (s : SystemId n) (h : HandlerId) (cause : Cause) (frame : Word) :
    Event × World H n κ :=
  let w := w.onDispatcher s fun d => { d with delivered := d.delivered + 1 }
  let trapped := w.context frame
  let c := classify cause trapped
  let w := if c.isUnrecognized then w.logUnknown s ⟨cause, trapped.mepc⟩ else w
  let w := w.setContext frame (c.apply trapped)
  (c.event, w.note (.handled ⟨s, h, c.event, frame, c.apply trapped⟩))

/-- Dispatches a trap: the frame to resume, chosen by the handler. Without a handler that is the
trapped frame itself, untouched. -/
def dispatchWith (call : HandlerId → Event → Word → Run H n κ (Option Word)) (s : SystemId n)
    (cause : Cause) (frame : Word) : Run H n κ Word := do
  match ((← get).dispatcher s).handler with
  | none => return frame
  | some h =>
    guarded s cause do
      let (event, w) := (← get).announce s h cause frame
      set w
      match ← call h event frame with
      | some next => return next
      | none => throw (.nullContext event)

/-- Without a handler the trapped frame is resumed, and nothing changes. -/
theorem dispatchWith_of_handler_none {s : SystemId n} {w : World H n κ}
    (h : (w.dispatcher s).handler = none)
    (call : HandlerId → Event → Word → Run H n κ (Option Word)) (cause : Cause) (frame : Word) :
    (dispatchWith call s cause frame).runFrom w = (.ok frame, w) := by
  rw [dispatchWith, Attempt.runFrom_bind]
  simp only [Attempt.runFrom_get, h, Attempt.runFrom_pure]

section Answer

variable [Hart H] (deliver : SystemId n → Cause → Word → Run H n κ Word)

/-- Dispatches the trap saved in a frame. -/
def handleWith (s : SystemId n) (frame : Word) : Run H n κ Word := do
  if frame = 0 then throw .noFrame
  deliver s ((← get).context frame).cause frame

/-- Takes a trap on the global hart, dispatches it, and returns to the frame that was chosen. -/
def simulateTrapWith (frame : Word) : Run H n κ Word := do
  if frame ≠ 0 then modify fun w => w.takeTrap .global frame
  let next ← handleWith deliver .global frame
  if next ≠ 0 then modify fun w => w.returnFromTrap .global next
  return next

/-- Yields to the global system with a frame of its own. -/
def yieldWith : Run H n κ Unit := do
  let pc := (← get).code.address .yieldNow
  withFrame (.calling yieldSentinel pc) fun frame => do
    let _ ← simulateTrapWith deliver frame

/-- Sets up a system and says so on the console. -/
def setUp (w : World H n κ) (s : SystemId n) (config : TrapConfig) (h : HandlerId)
    (vector : Word) : World H n κ :=
  (w.onSystem s fun t => t.init config h vector).log .info
    s!"CTE initialized: vector {w.code.render vector}, interrupts {config.interrupts.name}"

/-- Prepares a thread and stores its frame. -/
def newThread (policy : InterruptPolicy) (stack : Area) (entry arg : Word) : Run H n κ Word :=
  fun w =>
    match KernelThread.prepare (w.code.address .threadExit) stack entry arg policy with
    | .error e => (.error e, w)
    | .ok (base, c) => (.ok base, w.setContext base c)

/-- The answer to a request, given how traps are dispatched. -/
def answerWith : (r : Request n κ) → Run H n κ r.Answer
  | .context frame => return (← get).context frame
  | .setContext frame c => modify fun w => w.setContext frame c
  | .install s h => do
    let (old, d) := ((← get).dispatcher s).install h
    modify fun w => w.onDispatcher s fun _ => d
    return old
  | .init s config h vector => modify fun w => w.setUp s config h vector
  | .dispatch s cause frame => deliver s cause frame
  | .handle s frame => handleWith deliver s frame
  | .simulateTrap frame => simulateTrapWith deliver frame
  | .yieldNow => yieldWith deliver
  | .interruptsEnabled s => return ((← get).system s).interruptsEnabled
  | .setInterrupts s on => modify fun w => w.onSystem s fun t => t.setInterrupts on
  | .hartInterrupts s => return Hart.interruptsEnabled ((← get).system s).hart
  | .setHartInterrupts s on =>
    modify fun w => w.onSystem s fun t => { t with hart := Hart.setInterrupts on t.hart }
  | .vector s => return Hart.vector ((← get).system s).hart
  | .setVector s v =>
    modify fun w => w.onSystem s fun t => { t with hart := Hart.setVector v t.hart }
  | .config s => return ((← get).system s).config
  | .newThread s stack entry arg => do
    newThread ((← get).system s).policy stack entry arg
  | .newThreadUnder policy stack entry arg => newThread policy stack entry arg
  | .delivered s => return ((← get).dispatcher s).delivered
  | .unknownTraps s => return ((← get).dispatcher s).unknownTraps
  | .holdLog s held => modify fun w => w.onDispatcher s fun d => { d with logHeld := held }
  | .print text => modify fun w => w.print text
  | .printBytes bs => modify fun w => { w with console := w.console.putBytes bs }
  | .note e => modify fun w => w.note e
  | .kernel => return (← get).kernel
  | .setKernel k => modify fun w => { w with kernel := k }

end Answer

section Run

variable [Hart H] (handlers : Handlers n κ)

/-- Dispatches a trap, where dispatches that call handlers may nest `depth` deep behind it. -/
def deliver : Nat → SystemId n → Cause → Word → Run H n κ Word
  | 0 => dispatchWith fun _ _ _ => throw .nestingExhausted
  | depth + 1 =>
    dispatchWith fun h event frame =>
      (handlers h event frame).run (answerWith (deliver depth))

def answer (r : Request n κ) : Run H n κ r.Answer :=
  answerWith (deliver handlers (n + 1)) r

def exec (p : Script n κ α) : Run H n κ α :=
  p.run (answer handlers)

end Run

end HartLayer.World
