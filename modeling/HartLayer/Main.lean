import HartLayer.Notice

/-!
# The program of hosted builds
-/

def main : IO UInt32 := do
  IO.print HartLayer.Notice.text
  return HartLayer.Notice.exitCode.toUInt32
