import HartLayer.Console
import HartLayer.Fault
import HartLayer.SelfTest

/-!
# Trying out the console, the test runner and the self tests

Steps whose main result is what they print.
-/

namespace HartLayer.Bench

/-- The outcome of a step and what it printed. -/
structure Printed (α : Type) where
  result : Except Fault α
  output : Array UInt8

/-- Performs steps one after the other, whatever their outcomes. What a step prints is taken from
the console behind it. -/
def playPrinting {S σ α : Type} (step : S → Attempt σ α) (console : σ → Console)
    (clear : σ → σ) (steps : List S) (start : σ) : List (Printed α) :=
  let played : StateM σ (List (Printed α)) := steps.mapM fun s st =>
    let (result, st) := Attempt.runFrom (step s) st
    (⟨result, (console st).bytes⟩, clear st)
  (played.run start).1

inductive ConsoleStep where
  | print (text : String)
  | println (text : String)
  | log (level : LogLevel) (text : String)
  /-- A text, a word in hexadecimal, and the length of the text in bytes. -/
  | format (text : String) (w : Word)
  | putByte (b : UInt8)
  | halt (code : Int)

def ConsoleStep.perform : ConsoleStep → Attempt Console Unit
  | print text => modify fun c => c.put text
  | println text => modify fun c => c.put (text ++ "\n")
  | log level text => modify fun c => c.put (level.line text)
  | format text w => modify fun c => c.put s!"{text} {Word.hex w} {text.utf8ByteSize}"
  | putByte b => modify fun c => c.putByte b
  | halt code => throw (.halted code)

def playConsole (steps : List ConsoleStep) : List (Printed Unit) :=
  playPrinting ConsoleStep.perform id (fun _ => .empty) steps .empty

instance : SelfTest.HasConsole Console where
  print text c := c.put text

/-- How a scripted case ends: with a verdict, or by giving up. -/
inductive CaseScript where
  | verdict (v : SelfTest.Verdict)
  | die

def CaseScript.case (name description : String) : CaseScript → SelfTest.Case Console
  | verdict v => ⟨name, description, pure v⟩
  | die => ⟨name, description, throw (.aborted "test case died")⟩

inductive RunnerStep where
  | case (c : SelfTest.Case Console)
  | suite (name : String) (cases : List (SelfTest.Case Console))
  | summary

open SelfTest in
/-- Performs a step on a test runner. Gives the tally. -/
def RunnerStep.perform (s : RunnerStep) : Attempt (Session Console) Tally := do
  match s with
  | case c => Session.runCase c
  | suite name cases => Session.runSuite name cases
  | summary => Session.printSummary
  return (← get).tally

/-- Performs steps on a test runner that has not run anything. -/
def playRunner (steps : List RunnerStep) : List (Printed SelfTest.Tally) :=
  playPrinting RunnerStep.perform (·.state) (fun s => { s with state := .empty }) steps
    ⟨.zero, .empty⟩

inductive SelfTestStep where
  | traps
  | heap
  | devices
  | summary
  | all

inductive SelfTestReply where
  | tally (t : SelfTest.Tally)
  | passed (b : Bool)

open SelfTest in
def SelfTestStep.perform (s : SelfTestStep) : Attempt (Session Rig) SelfTestReply := do
  match s with
  | traps => TrapSuite.run
  | heap => HeapSuite.run
  | devices => DeviceSuite.run
  | summary => Session.printSummary
  | all =>
    return .passed (← SelfTest.runAll.onPart Session.state fun rig s => { s with state := rig })
  return .tally (← get).tally

/-- Runs self tests on a rig without devices. -/
def playSelfTest (steps : List SelfTestStep) : List (Printed SelfTestReply) :=
  playPrinting SelfTestStep.perform (·.state.world.console)
    (fun s => { s with state.world.console := .empty }) steps ⟨.zero, .fresh none⟩

end HartLayer.Bench
