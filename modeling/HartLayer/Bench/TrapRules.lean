import HartLayer.Bench.Contexts
import HartLayer.Trap.Delivery

/-!
# Handlers made of rules

A handler can be given by rules: on a kind of event, perform some actions on the current frame. A
rule may be limited to a number of uses. The state of such handlers is the rules that are left, a
queue of frames that wait to run, and the names that frames and systems have been given.
-/

namespace HartLayer.Bench

inductive Action where
  | setReturnValue (w : Word)
  /-- The return value becomes argument `n`. -/
  | returnArg (n : Word)
  /-- The return value becomes the call number. -/
  | returnCallNumber
  | setPc (w : Word)
  | setRegister (i : Nat) (w : Word)
  | setStatus (w : Word)
  | setCause (w : Word)
  /-- Goes on with another frame. -/
  | switchTo (frame : String)
  | giveUp
  /-- Puts the frame at the end of the queue and goes on with the first one. -/
  | rotate
  | dispatch (system : String) (cause : Cause)
  | handle (system : String)
  | yieldNow
  | install (system : String) (h : HandlerId)
  | setInterrupts (system : String) (on : Bool)
  | note (system : String)
  | halt (code : Int)

/-- The words that an action can store in a frame. -/
def Action.words : Action → List Word
  | setReturnValue w | setPc w | setRegister _ w | setStatus w | setCause w => [w]
  | _ => []

/-- Actions on a kind of event, or on any event. -/
structure Rule where
  on : Option EventKind
  actions : List Action
  usesLeft : Option Nat

namespace Rule

def applies (r : Rule) (kind : EventKind) : Bool :=
  (r.on = none || r.on = some kind) && r.usesLeft ≠ some 0

def use (r : Rule) : Rule := { r with usesLeft := r.usesLeft.map (· - 1) }

/-- The actions of the first rule that applies, and the rules that are left. -/
def choose (kind : EventKind) : List Rule → List Action × List Rule
  | [] => ([], [])
  | r :: rest =>
    if r.applies kind then (r.actions, r.use :: rest)
    else
      let (actions, rest) := choose kind rest
      (actions, r :: rest)

end Rule

/-- A system by its name: which one it is, and whether it is a dispatcher without a hart. -/
structure SystemName (n : Nat) where
  id : SystemId n
  bare : Bool

/-- The state of handlers that are made of rules. The latest name of a frame comes first. -/
structure RuleState (n : Nat) where
  rules : List (List Rule)
  queue : List Word
  frames : List (String × Word)
  systems : List (String × SystemName n)
  framesMade : Nat
  systemsMade : Nat

/-- How a frame is named in a report. -/
inductive FrameName where
  | null
  | unnamed
  | named (name : String)
  deriving DecidableEq

/-- How the name of a frame is shown: a frame without a name as a question mark, null not at all. -/
def FrameName.text : FrameName → Option String
  | null => none
  | unnamed => some "?"
  | named name => some name

namespace RuleState

variable {n : Nat}

/-- The state at start-up, when only the global system has a name. -/
def start (rules : List (List Rule)) : RuleState n :=
  ⟨rules, [], [], [("g", ⟨.global, false⟩)], 0, 0⟩

def nameOf (k : RuleState n) (a : Word) : FrameName :=
  if a = 0 then .null
  else
    match k.frames.find? (·.2 = a) with
    | some (name, _) => .named name
    | none => .unnamed

def nameFrame (k : RuleState n) (name : String) (a : Word) : RuleState n :=
  { k with frames := (name, a) :: k.frames }

def frame (k : RuleState n) (name : String) : Except Fault Word :=
  match k.frames.lookup name with
  | some a => .ok a
  | none => .error (.aborted s!"no frame {name}")

def system (k : RuleState n) (name : String) : Except Fault (SystemName n) :=
  match k.systems.lookup name with
  | some s => .ok s
  | none => .error (.aborted s!"no system {name}")

/-- The queue with a frame at its end. Frames that are shown as a question mark do not wait. -/
def enqueue (k : RuleState n) (a : Word) : RuleState n :=
  if (k.nameOf a).text = some "?" then k else { k with queue := k.queue ++ [a] }

/-- Takes the rule that a handler uses on a kind of event. -/
def takeRule (k : RuleState n) (h : HandlerId) (kind : EventKind) : List Action × RuleState n :=
  let (actions, left) := Rule.choose kind (k.rules.getD h.index [])
  (actions, { k with rules := k.rules.set h.index left })

end RuleState

abbrev RuleScript (n : Nat) (α : Type) := Script n (RuleState n) α

namespace RuleScript

variable {n : Nat}

def ofExcept {α : Type} : Except Fault α → RuleScript n α
  | .ok a => .done a
  | .error e => .fail e

def system (name : String) : RuleScript n (SystemName n) := do
  ofExcept ((← Script.ask .kernel).system name)

/-- Changes the frame and stays with it. -/
def onFrame (frame : Word) (f : Context → Context) : RuleScript n (Option Word) := do
  Script.onContext frame f
  return some frame

def observe (s : SystemName n) : RuleScript n Observation := do
  let delivered ← Script.ask (.delivered s.id)
  let interrupts ← Script.ask (.interruptsEnabled s.id)
  let log ← Script.ask (.unknownTraps s.id)
  return ⟨delivered, if s.bare then none else some interrupts, log.map Ring.size⟩

end RuleScript

open RuleScript in
/-- Performs an action on the current frame. Gives the frame to go on with. -/
def Action.script {n : Nat} (frame : Word) : Action → RuleScript n (Option Word)
  | setReturnValue w => onFrame frame fun c => c.setReturnValue w
  | returnArg i => do
    let w ← ofExcept ((← Script.ask (.context frame)).arg i)
    onFrame frame fun c => c.setReturnValue w
  | returnCallNumber => onFrame frame fun c => c.setReturnValue c.callNumber
  | setPc w => onFrame frame fun c => { c with mepc := w }
  | setRegister i w => do
    let i ← ofExcept (register i)
    onFrame frame fun c => c.setRegister i w
  | setStatus w => onFrame frame fun c => { c with mstatus := w }
  | setCause w => onFrame frame fun c => { c with mcause := w }
  | switchTo name => return some (← ofExcept ((← Script.ask .kernel).frame name))
  | giveUp => return none
  | rotate => do
    let k := (← Script.ask .kernel).enqueue frame
    Script.ask (.setKernel { k with queue := k.queue.tail })
    return k.queue.head?
  | dispatch name cause => return some (← Script.ask (.dispatch (← system name).id cause frame))
  | handle name => return some (← Script.ask (.handle (← system name).id frame))
  | yieldNow => do
    Script.ask .yieldNow
    return some frame
  | install name h => do
    let _ ← Script.ask (.install (← system name).id h)
    return some frame
  | setInterrupts name on => do
    Script.ask (.setInterrupts (← system name).id on)
    return some frame
  | note name => do
    Script.ask (.note (.noted (← observe (← system name))))
    return some frame
  | halt code => .fail (.halted code)

/-- Performs actions, each on the frame that the one before goes on with. -/
def runActions {n : Nat} : List Action → Word → RuleScript n (Option Word)
  | [], frame => return some frame
  | a :: rest, frame => do
    match ← a.script frame with
    | none => return none
    | some next => runActions rest next

/-- The handlers that follow the rules in their state. -/
def ruleHandlers (n : Nat) : Handlers n (RuleState n) := fun h event frame => do
  let (actions, k) := (← Script.ask .kernel).takeRule h event.kind
  Script.ask (.setKernel k)
  runActions actions frame

/-- The code of the threads that can be entered: one remembers its argument, one also yields as
many times, one also stops the machine with it. A thread that enters the exit has
returned. -/
def threadCode {n : Nat} (code : CodeMap) (entry arg : Word) : RuleScript n Unit := do
  match code.symbolAt? entry with
  | some .entryLog => Script.ask (.note (.entered .entryLog arg))
  | some .entryYield => do
    Script.ask (.note (.entered .entryYield arg))
    yields arg.toNat
  | some .entryHalt => do
    Script.ask (.note (.entered .entryHalt arg))
    .fail (.halted arg.toUInt32.toInt32.toInt)
  | some .threadExit => .fail .threadReturned
  | _ => .fail (.aborted s!"no code at {Word.hex entry}")
where
  yields : Nat → RuleScript n Unit
    | 0 => .done ()
    | i + 1 => do
      Script.ask .yieldNow
      yields i

end HartLayer.Bench
