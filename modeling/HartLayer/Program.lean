/-!
# Programs as trees of requests

A `Program` is a finite tree: it ends with a value, ends with an error, or asks for something and
goes on with the answer. Which requests there are, and what answers they get, is a parameter, so
the device routines, the trap handlers and the kernels of this library are all such trees, and one
run function executes them over any state.
-/

namespace HartLayer

/-- A finite program over requests `Req`, whose answers have the types `Ans`. -/
inductive Program {Req : Type} (Ans : Req → Type) (ε α : Type) : Type where
  | done (a : α)
  | fail (e : ε)
  | ask (r : Req) (next : Ans r → Program Ans ε α)

namespace Program

variable {Req : Type} {Ans : Req → Type} {ε α β σ : Type}

/-- Runs one program and then the one that its value selects. -/
def andThen : Program Ans ε α → (α → Program Ans ε β) → Program Ans ε β
  | done a, f => f a
  | fail e, _ => fail e
  | ask r next, f => ask r fun x => andThen (next x) f

instance : Monad (Program Ans ε) where
  pure := done
  bind := andThen

/-- Asks for one thing and ends with its answer. -/
def request (r : Req) : Program Ans ε (Ans r) :=
  ask r done

/-- Executes a program over a state. The state is kept also when the program fails. -/
def run (answer : (r : Req) → ExceptT ε (StateM σ) (Ans r)) :
    Program Ans ε α → ExceptT ε (StateM σ) α
  | done a => pure a
  | fail e => throw e
  | ask r next => answer r >>= fun x => run answer (next x)

/-- Whether every request that a program can make, whatever the answers, has a property. -/
def Only (P : Req → Prop) : Program Ans ε α → Prop
  | done _ => True
  | fail _ => True
  | ask r next => P r ∧ ∀ x, Only P (next x)

@[simp] theorem done_andThen (a : α) (f : α → Program Ans ε β) :
    andThen (done a) f = f a := rfl

@[simp] theorem fail_andThen (e : ε) (f : α → Program Ans ε β) :
    andThen (fail e : Program Ans ε α) f = fail e := rfl

@[simp] theorem ask_andThen (r : Req) (next : Ans r → Program Ans ε α)
    (f : α → Program Ans ε β) :
    andThen (ask r next) f = ask r fun x => andThen (next x) f := rfl

@[simp] theorem pure_eq_done (a : α) : (pure a : Program Ans ε α) = done a := rfl

@[simp] theorem bind_eq_andThen (p : Program Ans ε α) (f : α → Program Ans ε β) :
    p >>= f = andThen p f := rfl

theorem andThen_assoc {γ : Type} (p : Program Ans ε α) (f : α → Program Ans ε β)
    (g : β → Program Ans ε γ) :
    andThen (andThen p f) g = andThen p fun a => andThen (f a) g := by
  induction p with
  | done a => rfl
  | fail e => rfl
  | ask r next ih => simp only [ask_andThen, ih]

section Run

variable (answer : (r : Req) → ExceptT ε (StateM σ) (Ans r))

@[simp] theorem run_done (a : α) :
    run answer (done a : Program Ans ε α) = pure a := rfl

@[simp] theorem run_fail (e : ε) :
    run answer (fail e : Program Ans ε α) = throw e := rfl

@[simp] theorem run_ask (r : Req) (next : Ans r → Program Ans ε α) :
    run answer (ask r next) = answer r >>= fun x => run answer (next x) := rfl

theorem run_andThen (p : Program Ans ε α) (f : α → Program Ans ε β) :
    run answer (andThen p f) = run answer p >>= fun a => run answer (f a) := by
  induction p with
  | done a => simp
  | fail e => rfl
  | ask r next ih => simp only [ask_andThen, run_ask, ih, bind_assoc]

end Run

end Program

end HartLayer
