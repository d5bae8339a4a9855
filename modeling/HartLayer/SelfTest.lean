import HartLayer.SelfTest.DeviceSuite
import HartLayer.SelfTest.HeapSuite
import HartLayer.SelfTest.TrapSuite

/-!
# The self tests

The suites of the trap layer, the heap and the devices, and a run of all of them.
-/

namespace HartLayer.SelfTest

/-- Runs all suites with a tally of their own and prints the summary. Gives whether all passed. -/
def runAll : Attempt Rig Bool := fun rig =>
  let all : Attempt (Session Rig) Bool := do
    TrapSuite.run
    HeapSuite.run
    DeviceSuite.run
    Session.printSummary
    let passed := (← get).tally.allPassed
    Session.print (if passed then LogLevel.info.line "All test suites completed successfully!"
      else LogLevel.warn.line "Some tests failed")
    return passed
  let (r, s) := all.runFrom ⟨.zero, rig⟩
  (r, s.state)

end HartLayer.SelfTest
