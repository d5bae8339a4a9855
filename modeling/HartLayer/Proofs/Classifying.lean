import HartLayer.Classification

/-!
# The five kinds of traps

Every cause word, in whatever context the trap struck, is classified as exactly one of five kinds.
Five words are named by the table: three for calls, of which the call number says whether they
yield, and two for interrupts. All others are errors, also those that share the code of a named
cause but not its interrupt bit.

* `kindOf` : the kind, told from the cause word and the call number;
* `classify_eq` : all that the table makes of a cause;
* `partitions_classify` : when a trap is of which kind, and what follows from the kind.
-/

namespace HartLayer

/-- The cause words of environment calls, from each of the privilege modes. -/
def callWords : List Word := [8, 9, 11]

def timerWord : Word := 0x8000000000000007

def externalWord : Word := 0x800000000000000b

/-- The kind of a trap with a cause word and a call number. -/
def kindOf (bits number : Word) : EventKind :=
  if bits ∈ callWords then if number = yieldSentinel then .yield else .syscall
  else if bits = timerWord then .irqTimer
  else if bits = externalWord then .irqIoDev
  else .error

section KindOf

variable {bits number : Word}

theorem kindOf_eq_yield_iff :
    kindOf bits number = .yield ↔ bits ∈ callWords ∧ number = yieldSentinel := by
  grind [kindOf]

theorem kindOf_eq_syscall_iff :
    kindOf bits number = .syscall ↔ bits ∈ callWords ∧ number ≠ yieldSentinel := by
  grind [kindOf]

theorem kindOf_call_iff :
    kindOf bits number = .syscall ∨ kindOf bits number = .yield ↔ bits ∈ callWords := by
  grind [kindOf]

theorem kindOf_eq_irqTimer_iff : kindOf bits number = .irqTimer ↔ bits = timerWord := by
  have : timerWord ∉ callWords := by decide
  grind [kindOf]

theorem kindOf_eq_irqIoDev_iff : kindOf bits number = .irqIoDev ↔ bits = externalWord := by
  have : externalWord ∉ callWords := by decide
  have : timerWord ≠ externalWord := by decide
  grind [kindOf]

theorem kindOf_eq_error_iff : kindOf bits number = .error ↔
    bits ∉ callWords ∧ bits ≠ timerWord ∧ bits ≠ externalWord := by
  grind [kindOf]

end KindOf

theorem isInterrupt_of_call {c : Cause} (call : c.bits ∈ callWords) : c.isInterrupt = false := by
  simp only [callWords, List.mem_cons, List.not_mem_nil, or_false] at call
  rcases call with e | e | e <;> rw [Cause.isInterrupt, e] <;> decide

theorem code_of_call {c : Cause} (call : c.bits ∈ callWords) : c.code = c.bits := by
  simp only [callWords, List.mem_cons, List.not_mem_nil, or_false] at call
  rcases call with e | e | e <;> rw [Cause.code, e] <;> decide

/-- All that the table makes of a cause: the kind that its word stands for, and a step over the
instruction if that was a call. -/
theorem classify_eq (cause : Cause) (ctx : Context) :
    ∃ msg, classify cause ctx = ⟨⟨kindOf cause.bits ctx.callNumber, cause, msg⟩,
      if cause.bits ∈ callWords then callWidth else 0⟩ := by
  unfold classify
  cases found : causeTable.find? (·.cause = cause) with
  | none =>
    have unnamed : ∀ entry ∈ causeTable, cause.bits ≠ entry.cause.bits := by
      intro entry mem same
      exact List.find?_eq_none.mp found entry mem (decide_eq_true (congrArg Cause.mk same.symm))
    simp only [causeTable, List.forall_mem_cons] at unnamed
    obtain ⟨user, supervisor, machine, timer, external, -⟩ := unnamed
    have call : cause.bits ∉ callWords := by
      simp only [callWords, List.mem_cons, List.not_mem_nil, or_false, not_or]
      exact ⟨user, supervisor, machine⟩
    refine ⟨"unrecognized trap cause", ?_⟩
    rw [kindOf_eq_error_iff.mpr ⟨call, timer, external⟩, if_neg call]
  | some entry =>
    have named := List.mem_of_find?_eq_some found
    have same : entry.cause = cause := by simpa using List.find?_some found
    subst same
    simp only [causeTable, List.mem_cons, List.not_mem_nil, or_false] at named
    rcases named with rfl | rfl | rfl | rfl | rfl <;> exact ⟨_, rfl⟩

/-- Whether a trap is a synchronous call. -/
def Cause.isCall (c : Cause) : Bool :=
  c ∈ [ofException .userEnvCall, ofException .supervisorEnvCall, ofException .machineEnvCall]

theorem Cause.isCall_iff {c : Cause} : c.isCall = true ↔ c.bits ∈ callWords := by
  have word (e : Exception) : c = ofException e ↔ c.bits = e.code :=
    ⟨congrArg bits, congrArg mk⟩
  simp only [isCall, callWords, decide_eq_true_eq, List.mem_cons, List.not_mem_nil, or_false, word,
    Exception.code]

/-- A trapped context moves on by one instruction if the trap is a synchronous call. -/
theorem apply_classify (cause : Cause) (c : Context) :
    (classify cause c).apply c =
      { c with mepc := if cause.isCall then c.mepc + 4 else c.mepc } := by
  obtain ⟨msg, e⟩ := classify_eq cause c
  rw [e, Classification.apply, Context.advance]
  by_cases call : cause.bits ∈ callWords
  · rw [if_pos call, if_pos (Cause.isCall_iff.mpr call)]
    rfl
  · rw [if_neg call, if_neg (mt Cause.isCall_iff.mp call), UInt64.add_zero]

/-- The call number is all that is read of a context. -/
theorem classify_congr (cause : Cause) {ctx other : Context}
    (same : other.callNumber = ctx.callNumber) : classify cause other = classify cause ctx := by
  have kind : callKind other = callKind ctx := by rw [callKind, callKind, same]
  simp only [classify, kind]

/-- What is known of the classification of a trap with a cause that struck in a context. -/
structure Partitions (cause : Cause) (ctx : Context) (c : Classification) : Prop where
  yield_iff : c.event.kind = .yield ↔
    cause.bits ∈ callWords ∧ ctx.gpr.get Register.a7 = 0xffffffffffffffff
  syscall_iff : c.event.kind = .syscall ↔
    cause.bits ∈ callWords ∧ ctx.gpr.get Register.a7 ≠ 0xffffffffffffffff
  irqTimer_iff : c.event.kind = .irqTimer ↔ cause.bits = timerWord
  irqIoDev_iff : c.event.kind = .irqIoDev ↔ cause.bits = externalWord
  error_iff : c.event.kind = .error ↔
    cause.bits ∉ callWords ∧ cause.bits ≠ timerWord ∧ cause.bits ≠ externalWord
  /-- An interrupt with the code of a call is an error. -/
  interrupt_error : cause.isInterrupt = true → cause.code = 8 ∨ cause.code = 9 →
    c.event.kind = .error
  /-- So is an exception with the code of the timer. -/
  exception_error : cause.isInterrupt = false → cause.code = 7 → c.event.kind = .error
  /-- Calls are resumed behind the instruction, all else where it was trapped. -/
  pcAdvance_eq : c.pcAdvance = if c.event.kind = .syscall ∨ c.event.kind = .yield then 4 else 0
  isUnrecognized_iff : c.isUnrecognized = true ↔ c.event.kind = .error
  /-- The event has the cause that was given, not the one that is saved in the context. -/
  cause_eq : c.event.cause = cause
  /-- A context with the same call number gives the same, whatever else it holds, its own cause
  included. -/
  a7_only : ∀ other : Context, other.gpr.get Register.a7 = ctx.gpr.get Register.a7 →
    classify cause other = c
  advance_eq : classifyAndAdvance cause ctx = (c.event, c.apply ctx)
  /-- The resume address is all that changes in the context. -/
  apply_eq : c.apply ctx = { ctx with mepc := ctx.mepc + c.pcAdvance }

/-- Every cause word, in every context, is classified as one of the five kinds, as its partition
says. -/
theorem partitions_classify (cause : Cause) (ctx : Context) :
    Partitions cause ctx (classify cause ctx) := by
  obtain ⟨msg, e⟩ := classify_eq cause ctx
  rw [e]
  refine
    { yield_iff := kindOf_eq_yield_iff
      syscall_iff := kindOf_eq_syscall_iff
      irqTimer_iff := kindOf_eq_irqTimer_iff
      irqIoDev_iff := kindOf_eq_irqIoDev_iff
      error_iff := kindOf_eq_error_iff
      interrupt_error := fun interrupt code => ?_
      exception_error := fun exception code => ?_
      pcAdvance_eq := ?_
      isUnrecognized_iff := decide_eq_true_iff
      cause_eq := rfl
      a7_only := fun other same => (classify_congr cause same).trans e
      advance_eq := by rw [classifyAndAdvance, e]
      apply_eq := rfl }
  · refine kindOf_eq_error_iff.mpr ⟨fun call => ?_, fun timer => ?_, fun external => ?_⟩
    · rw [isInterrupt_of_call call] at interrupt
      cases interrupt
    · rw [Cause.code, timer] at code
      exact absurd code (by decide)
    · rw [Cause.code, external] at code
      exact absurd code (by decide)
  · refine kindOf_eq_error_iff.mpr ⟨fun call => ?_, fun timer => ?_, fun external => ?_⟩
    · rw [code_of_call call] at code
      rw [code] at call
      exact absurd call (by decide)
    · rw [Cause.isInterrupt, timer] at exception
      exact absurd exception (by decide)
    · rw [Cause.isInterrupt, external] at exception
      exact absurd exception (by decide)
  · simp only [kindOf_call_iff]
    rfl

end HartLayer
