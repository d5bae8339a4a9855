import HartLayer.Classification

/-!
# Trying out contexts

Steps that read or change one context, each with its reply.
-/

namespace HartLayer.Bench

inductive ContextStep where
  | pc
  | sp
  | callNumber
  | arg (n : Word)
  | resumesWithInterrupts
  | cause
  | describe
  | describeLines
  | equals (other : Context)
  | setPc (w : Word)
  | setReturnValue (w : Word)
  | setRegister (i : Nat) (w : Word)
  | setCause (w : Word)
  | setStatus (w : Word)
  | reset
  | dump
  | advance (cause : Cause)

/-- The words that a step can store in a context. -/
def ContextStep.words : ContextStep → List Word
  | setPc w | setReturnValue w | setRegister _ w | setCause w | setStatus w => [w]
  | _ => []

inductive ContextReply where
  | word (w : Word)
  | flag (b : Bool)
  | cause (c : Cause)
  | text (s : String)
  | context (c : Context)
  | advanced (e : Event) (c : Context)

def register (i : Nat) : Except Fault (Fin 32) :=
  if h : i < 32 then .ok ⟨i, h⟩ else .error (.noSuchRegister i)

/-- A reply from a context that stays as it is. -/
private def look (r : ContextReply) : Attempt Context ContextReply := return r

/-- A change of the context, which is the reply. -/
private def change (f : Context → Context) : Attempt Context ContextReply := do
  modify f
  return .context (← get)

def ContextStep.perform (s : ContextStep) : Attempt Context ContextReply := do
  let c ← get
  match s with
  | pc => look (.word c.mepc)
  | sp => look (.word c.sp)
  | callNumber => look (.word c.callNumber)
  | arg n => return .word (← Attempt.ofExcept (c.arg n))
  | resumesWithInterrupts => look (.flag c.resumesWithInterrupts)
  | cause => look (.cause c.cause)
  | describe => look (.text c.describe)
  | describeLines => look (.text c.describeLines)
  | equals other => look (.flag (c = other))
  | setPc w => change fun c => { c with mepc := w }
  | setReturnValue w => change fun c => c.setReturnValue w
  | setRegister i w => do
    let i ← Attempt.ofExcept (register i)
    change fun c => c.setRegister i w
  | setCause w => change fun c => { c with mcause := w }
  | setStatus w => change fun c => { c with mstatus := w }
  | reset => change fun _ => .zeroed
  | dump => look (.context c)
  | advance k => do
    let (e, c) := classifyAndAdvance k c
    set c
    return .advanced e c

end HartLayer.Bench
