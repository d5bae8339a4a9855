import HartLayer.Console
import HartLayer.Fault

/-!
# Running test cases

A case ends with a verdict or with a fault. The tally counts the cases that were started and the
verdicts. A case is announced before it runs, and its verdict is printed afterwards; a fault leaves
the case counted as started and ends the suite.
-/

namespace HartLayer.SelfTest

inductive Verdict where
  | pass
  | fail
  | skip
  deriving DecidableEq, Repr

/-- States that have a console. -/
class HasConsole (σ : Type) where
  print : String → σ → σ

/-- A test case over states `σ`. -/
structure Case (σ : Type) where
  name : String
  description : String
  body : Attempt σ Verdict

/-- The cases started, and those that ended with each verdict. -/
structure Tally where
  total : Nat
  passed : Nat
  failed : Nat
  skipped : Nat
  deriving DecidableEq, Repr

namespace Tally

def zero : Tally := ⟨0, 0, 0, 0⟩

instance : Inhabited Tally := ⟨zero⟩

def start (t : Tally) : Tally := { t with total := t.total + 1 }

def count (t : Tally) : Verdict → Tally
  | .pass => { t with passed := t.passed + 1 }
  | .fail => { t with failed := t.failed + 1 }
  | .skip => { t with skipped := t.skipped + 1 }

/-- Whether there was a case and none failed. A skipped case is no failure. -/
def allPassed (t : Tally) : Bool := t.failed = 0 && 0 < t.total

def describe (t : Tally) : String :=
  s!"TestRunner \x7b total: {t.total}, passed: {t.passed}, failed: {t.failed}, " ++
    s!"skipped: {t.skipped} \x7d"

end Tally

def Verdict.line (v : Verdict) (name : String) : String :=
  match v with
  | .pass => LogLevel.info.line s!"  [PASS] {name}"
  | .fail => LogLevel.error.line s!"  [FAIL] {name}"
  | .skip => LogLevel.warn.line s!"  [SKIP] {name}"

/-- A state with a tally. -/
structure Session (σ : Type) where
  tally : Tally
  state : σ

namespace Session

variable {σ : Type} [HasConsole σ]

def print (text : String) : Attempt (Session σ) Unit :=
  modify fun s => { s with state := HasConsole.print text s.state }

def runCase (c : Case σ) : Attempt (Session σ) Unit := do
  modify fun s => { s with tally := s.tally.start }
  print s!"Running test: {c.name} - {c.description}\n"
  let v ← c.body.onPart Session.state fun t s => { s with state := t }
  modify fun s => { s with tally := s.tally.count v }
  print (v.line c.name)

def runCases : List (Case σ) → Attempt (Session σ) Unit
  | [] => pure ()
  | c :: rest => do
    runCase c
    runCases rest

/-- Runs a suite of cases between a first and a last line. -/
def runSuite (name : String) (cases : List (Case σ)) : Attempt (Session σ) Unit := do
  print s!"=== {name} Test Suite ===\n"
  runCases cases
  print s!"=== {name} Test Suite Complete ===\n"

/-- The lines that sum up a tally. -/
def summary (t : Tally) : String :=
  let failed := if 0 < t.failed then LogLevel.error else LogLevel.info
  "=== Test Summary ===\n" ++ s!"Total tests: {t.total}\n" ++
    LogLevel.info.line s!"Passed: {t.passed}" ++ failed.line s!"Failed: {t.failed}" ++
    (if 0 < t.skipped then LogLevel.warn.line s!"Skipped: {t.skipped}" else "") ++
    "==================\n"

def printSummary : Attempt (Session σ) Unit := do
  print (summary (← get).tally)

end Session

end HartLayer.SelfTest
