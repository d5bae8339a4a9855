import HartLayer.Bench.TrapRules

/-!
# Trying out the trap layer

Steps on trap systems and dispatchers with simulated harts, on frames in memory, and on handlers
that are made of rules.
-/

namespace HartLayer.Bench

/-- A step on the trap layer. Frames and systems are given by name; a missing frame is null. -/
inductive TrapStep where
  | newSystem (name : String) (bare : Bool)
  | newFrame (name : String) (c : Context)
  | newThread (name system : String) (stack : Area) (entry : CodeRef) (arg : Word)
  | newThreadUnder (name : String) (policy : InterruptPolicy) (stack : Area) (entry : CodeRef)
      (arg : Word)
  | init (system : String) (config : TrapConfig) (h : HandlerId) (vector : Word)
  | install (system : String) (h : HandlerId)
  | registry (hs : List HandlerId)
  | trap (system : String) (frame : Option String)
  | dispatch (system : String) (cause : Cause) (frame : String)
  | simulate (frame : Option String)
  /-- Enters the trap path of the global system. -/
  | bridge (frame : Option String)
  | yieldNow
  | setInterrupts (system : String) (on : Bool)
  | setHartInterrupts (system : String) (on : Bool)
  | setVector (system : String) (w : Word)
  | state (system : String)
  | logText (system : String)
  | logBack (system : String)
  | holdLog (system : String) (held : Bool)
  | takeTrap (system frame : String)
  | returnFromTrap (system frame : String)
  | hart (system : String)
  | enter (frame : String)
  | threadExit
  | onContext (frame : String) (s : ContextStep)
  | describe (frame : String)
  | compare (a b : String)
  | nullIsNone
  | enqueue (frame : String)

/-- Whether a step enters code that no fault may leave. -/
def TrapStep.noEscape : TrapStep → Bool
  | bridge _ | enter _ | threadExit => true
  | _ => false

/-- The words that a step can store in a frame or a vector. Frames may overlap, so a word that is
the status of one of them may be a register of another. -/
def TrapStep.words : TrapStep → List Word
  | newFrame _ c => c.words
  | newThread _ _ stack entry arg | newThreadUnder _ _ stack entry arg =>
    [stack.start, stack.stop, arg] ++ entry.words
  | init _ _ _ vector => [vector]
  | setVector _ w => [w]
  | onContext _ s => s.words
  | _ => []

structure HartView where
  config : TrapConfig
  interrupts : Bool
  hartInterrupts : Bool
  vector : Word

structure SystemView where
  handler : Option HandlerId
  delivered : Word
  unknown : Option (List UnknownTrap)
  hart : Option HartView

/-- The frame that a trap resumes, and the trapped one if it is another one. -/
structure Resumption where
  resumed : FrameName
  context : Context
  trapped : Option Context

inductive TrapReply where
  | nothing
  | flag (b : Bool)
  | text (s : Option String)
  | count (n : Nat)
  | state (v : SystemView)
  | context (c : Context)
  | thread (address : Word) (c : Context)
  | handler (h : Option HandlerId)
  | registry (before : Option HandlerId) (replaced : List (Option HandlerId))
      (after : Option HandlerId)
  | resumed (r : Resumption)
  | logBack (v : Option (Nat × Bool × Option String))
  | taken (c : Context) (hart : String)
  | onContext (r : ContextReply)
  | compared (sameFrame sameContext : Bool)

inductive TrapEvent where
  | handled (h : HandlerId) (e : Event) (frame : FrameName) (c : Context)
  | noted (seen : Observation)
  | entered (code : Symbol) (arg : Word)

/-- The outcome of a step, what it recorded, and what it printed. A fatal fault ends the bench. -/
structure TrapReport where
  result : Except Fault TrapReply
  fatal : Bool
  events : List TrapEvent
  output : Array UInt8

namespace TrapBench

variable {n : Nat}

abbrev State (n : Nat) := World SimulatedHart n (RuleState n)

abbrev Run (n : Nat) := Attempt (State n)

def script {α : Type} (p : RuleScript n α) : Run n α := World.exec (ruleHandlers n) p

def ask (r : Request n (RuleState n)) : Run n r.Answer := script (Script.ask r)

def system (name : String) : Run n (SystemName n) := do
  Attempt.ofExcept ((← get).kernel.system name)

def frame (name : String) : Run n Word := do
  Attempt.ofExcept ((← get).kernel.frame name)

def frameOrNull : Option String → Run n Word
  | none => return 0
  | some name => frame name

def view (s : SystemName n) : Run n SystemView := do
  let t := (← get).system s.id
  return {
    handler := t.dispatcher.handler
    delivered := t.dispatcher.delivered
    unknown := t.dispatcher.unknownTraps.map Ring.toList
    hart := if s.bare then none else
      some ⟨t.config, t.interruptsEnabled, Hart.interruptsEnabled t.hart, Hart.vector t.hart⟩ }

def shown (s : SystemName n) : Run n TrapReply := return .state (← view s)

/-- The reply that shows which frame a trap resumes. -/
def resumption (trapped resumed : Word) : Run n TrapReply := do
  let w ← get
  return .resumed ⟨w.kernel.nameOf resumed, w.context resumed,
    if trapped = resumed then none else some (w.context trapped)⟩

/-- The reply that shows a new thread, which is given a name. -/
def shownThread (name : String) (base : Word) : Run n TrapReply := do
  modify fun w => { w with kernel := w.kernel.nameFrame name base }
  return .thread base ((← get).context base)

/-- Where the frames lie that are not those of new threads. -/
def frameAddress (k : Nat) : Word := 0x80100000 + 0x200 * k.toUInt64

/-- The vector that initialisation sets: the trap path itself for the global system. -/
def vectorFor (s : SystemName n) (vector : Word) : CodeRef :=
  if s.id = .global then .symbol .trapBridge else .address vector

def resolve (r : CodeRef) : Run n Word := return (← get).code.resolve r

def perform : TrapStep → Run n TrapReply
  | .newSystem name bare => do
    let k := (← get).kernel
    if h : k.systemsMade + 1 < n + 1 then
      let s : SystemName n := ⟨⟨k.systemsMade + 1, h⟩, bare⟩
      modify fun w => { w with kernel := { k with
        systems := (name, s) :: k.systems
        systemsMade := k.systemsMade + 1 } }
      shown s
    else throw (.aborted "no more systems")
  | .newFrame name c => do
    let a := frameAddress (← get).kernel.framesMade
    modify fun w => { w.setContext a c with
      kernel := { w.kernel.nameFrame name a with framesMade := w.kernel.framesMade + 1 } }
    return .context ((← get).context a)
  | .newThread name sys stack entry arg => do
    let s ← system sys
    shownThread name (← ask (.newThread s.id stack (← resolve entry) arg))
  | .newThreadUnder name policy stack entry arg => do
    shownThread name (← ask (.newThreadUnder policy stack (← resolve entry) arg))
  | .init sys config h vector => do
    let s ← system sys
    ask (.init s.id config h (← resolve (vectorFor s vector)))
    return .flag true
  | .install sys h => do
    return .handler (← ask (.install (← system sys).id h))
  | .registry hs => do
    let (replaced, d) := (hs.mapM fun h (d : Dispatcher) => d.install h : StateM _ _).run .idle
    return .registry Dispatcher.idle.handler replaced d.handler
  | .trap sys f => do
    let a ← frameOrNull f
    resumption a (← ask (.handle (← system sys).id a))
  | .dispatch sys cause f => do
    let a ← frame f
    resumption a (← ask (.dispatch (← system sys).id cause a))
  | .simulate f => do
    let a ← frameOrNull f
    resumption a (← ask (.simulateTrap a))
  | .bridge f => do
    let a ← frameOrNull f
    resumption a (← ask (.handle .global a))
  | .yieldNow => do
    ask .yieldNow
    return .nothing
  | .setInterrupts sys on => do
    let s ← system sys
    ask (.setInterrupts s.id on)
    shown s
  | .setHartInterrupts sys on => do
    let s ← system sys
    ask (.setHartInterrupts s.id on)
    shown s
  | .setVector sys v => do
    let s ← system sys
    ask (.setVector s.id v)
    shown s
  | .state sys => do shown (← system sys)
  | .logText sys => do
    let log ← ask (.unknownTraps (← system sys).id)
    return .text (log.map (Ring.describe UnknownTrap.describe))
  | .logBack sys => do
    let log ← ask (.unknownTraps (← system sys).id)
    return .logBack (log.map fun l => (l.size, l.isEmpty, l.back?.map UnknownTrap.describe))
  | .holdLog sys held => do
    ask (.holdLog (← system sys).id held)
    return .nothing
  | .takeTrap sys f => do
    let s ← system sys
    let a ← frame f
    modify fun w => w.takeTrap s.id a
    let w ← get
    return .taken (w.context a) (w.system s.id).hart.describe
  | .returnFromTrap sys f => do
    let s ← system sys
    let a ← frame f
    modify fun w => w.returnFromTrap s.id a
    hartText s
  | .hart sys => do hartText (← system sys)
  | .enter f => do
    let a ← frame f
    script (Script.enter (threadCode (← get).code) a)
    return .context ((← get).context a)
  | .threadExit => throw .threadReturned
  | .onContext f s => do
    let a ← frame f
    return .onContext (← s.perform.onPart (fun (w : State n) => w.context a)
      fun c w => w.setContext a c)
  | .describe f => do
    let a ← frame f
    return .text (some s!"ContextRef({Word.hex a}) {((← get).context a).describe}")
  | .compare f g => do
    let a ← frame f
    let b ← frame g
    let w ← get
    return .compared (a = b) (w.context a = w.context b)
  | .nullIsNone => return .flag true
  | .enqueue f => do
    let a ← frame f
    modify fun w => { w with kernel := { w.kernel with queue := w.kernel.queue ++ [a] } }
    return .count (← get).kernel.queue.length
where
  hartText (s : SystemName n) : Run n TrapReply := do
    return .text (some ((← get).system s.id).hart.describe)

/-- An entry of the journal with the frame by its name. -/
def event (w : State n) : Entry n → TrapEvent
  | .handled i => .handled i.handler i.event (w.kernel.nameOf i.frame) i.context
  | .noted seen => .noted seen
  | .entered code arg => .entered code arg

/-- Performs a step and takes what it recorded and printed. -/
def report (s : TrapStep) (w : State n) : TrapReport × State n :=
  let (result, w) := (perform s).runFrom w
  let fatal := s.noEscape && !result.toBool
  (⟨result, fatal, w.journal.toList.map (event w), w.console.bytes⟩,
    { w with journal := #[], console := .empty })

/-- Performs steps up to the first fatal fault. -/
def reports : List TrapStep → State n → List TrapReport
  | [], _ => []
  | s :: rest, w =>
    let (r, w) := report s w
    if r.fatal then [r] else r :: reports rest w

/-- Where frames that live as long as a call are pushed. -/
def hostStack : Word := 0x7f0000000000

/-- A place for the code that is far from all words of rules and steps. -/
def codeFor (rules : List (List Rule)) (steps : List TrapStep) : CodeMap :=
  .avoiding (rules.flatten.flatMap (·.actions.flatMap Action.words) ++
    steps.flatMap TrapStep.words)

/-- Performs steps from start-up, with a system for every step that makes one. Gives the reports and
where the code is that their addresses may belong to. -/
def play (rules : List (List Rule)) (steps : List TrapStep) : CodeMap × List TrapReport :=
  let made := steps.countP fun s => match s with
    | .newSystem _ _ => true
    | _ => false
  let code := codeFor rules steps
  (code, reports steps (World.boot code .reset made hostStack (.start rules)))

end TrapBench

end HartLayer.Bench
