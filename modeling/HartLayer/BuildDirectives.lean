/-!
# Build directives

What a build prints for the tool that runs it: the files whose change calls for a new build, and,
for the machine that the kernel image is made for, the arguments that select its memory layout.
-/

namespace HartLayer.BuildDirectives

def linkerScript : String := "src/linker.ld"

def linkArgument (arg : String) : String := "cargo:rustc-link-arg-bin=nt_hal_demo=" ++ arg

/-- Whether a target is the machine that the kernel image is made for. -/
def isKernelTarget (os arch : Option String) : Bool :=
  os = some "none" && arch = some "riscv64"

/-- The lines printed for a target; either part of it may be unknown. -/
def lines (os arch : Option String) : List String :=
  ["cargo:rerun-if-changed=build.rs", "cargo:rerun-if-changed=" ++ linkerScript] ++
    if isKernelTarget os arch then [linkArgument "-T", linkArgument linkerScript] else []

end HartLayer.BuildDirectives
