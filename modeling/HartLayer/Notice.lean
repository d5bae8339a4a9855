/-!
# The notice of hosted builds

The demo kernel needs the machine. Anywhere else its program says so and ends with success.
-/

namespace HartLayer.Notice

def exitCode : Nat := 0

def text : String := "nt_hal_demo only runs on the riscv64 NEMU machine\n"

end HartLayer.Notice
