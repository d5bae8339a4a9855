import HartLayer.Proofs.Delivery

/-!
# What a trap leaves in the log and on the console

A trap that the cause table does not name is reported on the console before its handler is called,
and goes into the log of its dispatcher unless the log is held.

* `isUnrecognized_classify` : which causes the table names;
* `system_opening_eq`, `console_opening` : the dispatcher and the console when a handler is called;
* `log_effect`, `logHeld_effect`, `console_effect` : what an act does to a log, to its lock and to
  the console;
* `logHeld_after`, `console_after` : the same for a list of acts.
-/

namespace HartLayer

variable {H κ : Type} {n : Nat}

/-- The causes that the table names: three calls and two interrupts. -/
def Cause.isKnown (c : Cause) : Bool :=
  c.bits ∈ ([8, 9, 11, 0x8000000000000007, 0x800000000000000b] : List Word)

theorem Cause.isKnown_iff {c : Cause} :
    c.isKnown = true ↔ c.bits ∈ callWords ∨ c.bits = timerWord ∨ c.bits = externalWord := by
  have table : c.isKnown = true ↔ c.bits ∈ callWords ++ [timerWord, externalWord] :=
    decide_eq_true_iff
  simp only [table, List.mem_append, List.mem_cons, List.not_mem_nil, or_false]

theorem isUnrecognized_classify (cause : Cause) (c : Context) :
    (classify cause c).isUnrecognized = !cause.isKnown := by
  obtain ⟨msg, e⟩ := classify_eq cause c
  have error : (classify cause c).isUnrecognized = true ↔
      kindOf cause.bits c.callNumber = .error := by
    rw [e]
    exact decide_eq_true_iff
  rw [Bool.eq_iff_iff, error, kindOf_eq_error_iff, Bool.not_eq_true', ← Bool.not_eq_true,
    Cause.isKnown_iff, not_or, not_or]

def Cause.unknownLine (c : Cause) : String :=
  LogLevel.error.line ("Unknown Event: " ++ Word.decimal c.bits)

/-- The line that reports that it did not get into the log. -/
def Cause.busyLine (c : Cause) : String :=
  LogLevel.error.line ("Trap log busy, dropped entry for " ++ Word.decimal c.bits)

/-- The lines that report a trap, with the log held or not. -/
def Cause.reports (c : Cause) (held : Bool) : List String :=
  if c.isKnown then [] else if held then [c.unknownLine, c.busyLine] else [c.unknownLine]

/-- The log with an unknown trap in it, unless the log is held. -/
def Dispatcher.remember (d : Dispatcher) (u : UnknownTrap) : TrapLog :=
  if d.logHeld then d.log else d.log.push u

namespace World

theorem system_logUnknown_eq (w : World H n κ) (s t : SystemId n) (u : UnknownTrap) :
    (w.logUnknown s u).system t =
      if s = t then
        { w.system t with
          dispatcher := { w.dispatcher t with log := (w.dispatcher t).remember u } }
      else w.system t := by
  dsimp only [logUnknown]
  split
  · next held =>
    have held' : (w.dispatcher s).logHeld = true := held
    by_cases e : s = t
    · subst e
      rw [if_pos rfl, Dispatcher.remember, if_pos held']
      rfl
    · rw [if_neg e]
      rfl
  · next free =>
    have free' : ¬(w.dispatcher s).logHeld = true := free
    rw [onDispatcher, system_onSystem]
    by_cases e : s = t
    · subst e
      rw [if_pos rfl, if_pos rfl, Dispatcher.remember, if_neg free']
      rfl
    · rw [if_neg e, if_neg e]
      rfl

theorem console_logUnknown (w : World H n κ) (s : SystemId n) {u : UnknownTrap}
    (unknown : u.cause.isKnown = false) :
    (w.logUnknown s u).console =
      (u.cause.reports (w.dispatcher s).logHeld).foldl Console.put w.console := by
  dsimp only [logUnknown]
  rw [Cause.reports, unknown, if_neg Bool.false_ne_true]
  split
  · next held =>
    have held' : (w.dispatcher s).logHeld = true := held
    rw [if_pos held']
    rfl
  · next free =>
    have free' : ¬(w.dispatcher s).logHeld = true := free
    rw [if_neg free']
    rfl

/-- The entry for the log that a trap makes, if its cause is unknown. -/
def unknown? (w : World H n κ) (a : Arrival n) : Option UnknownTrap :=
  if a.cause.isKnown then none else some ⟨a.cause, (w.context a.frame).mepc⟩

/-- The state with a trap marked and counted. -/
def counted (w : World H n κ) (s : SystemId n) : World H n κ :=
  (w.mark s).onDispatcher s fun d => { d with delivered := d.delivered + 1 }

/-- The state with a trap reported, if its cause is unknown. -/
def reported (w : World H n κ) (a : Arrival n) : World H n κ :=
  (w.unknown? a).elim w (w.logUnknown a.system)

/-- A handler is called when its trap is counted and reported, the trapped context is moved on, and
the call is in the journal. -/
theorem opening_snd_eq (w : World H n κ) (a : Arrival n) (h : HandlerId) :
    (w.opening a.system h a.cause a.frame).2 =
      (((w.counted a.system).reported a).setContext a.frame
        ((classify a.cause (w.context a.frame)).apply (w.context a.frame))).note
          (.handled (w.invocation a h)) := by
  have context : (w.counted a.system).context a.frame = w.context a.frame := rfl
  rw [invocation_eq, reported, unknown?, context]
  unfold opening announce
  dsimp only
  rw [← counted.eq_1, context, isUnrecognized_classify]
  cases a.cause.isKnown <;> rfl

theorem system_counted (w : World H n κ) (s t : SystemId n) :
    (w.counted s).system t =
      if s = t then
        { w.system t with
          dispatcher := { w.dispatcher t with
            dispatching := true
            delivered := (w.dispatcher t).delivered + 1 } }
      else w.system t := by
  rw [counted, onDispatcher, system_onSystem, mark, onDispatcher, system_onSystem]
  split <;> rfl

theorem system_reported (w : World H n κ) (a : Arrival n) (t : SystemId n) :
    (w.reported a).system t =
      if a.system = t then
        { w.system t with
          dispatcher := { w.dispatcher t with
            log := (w.unknown? a).elim (w.dispatcher t).log (w.dispatcher t).remember } }
      else w.system t := by
  rw [reported]
  cases w.unknown? a with
  | none => exact (ite_self _).symm
  | some u => exact system_logUnknown_eq w a.system t u

theorem console_reported (w : World H n κ) (a : Arrival n) :
    (w.reported a).console =
      (a.cause.reports (w.dispatcher a.system).logHeld).foldl Console.put w.console := by
  rw [reported, unknown?]
  cases known : a.cause.isKnown with
  | true => rw [Cause.reports, known, if_pos rfl]; rfl
  | false => exact console_logUnknown w a.system known

theorem system_opening_eq (w : World H n κ) (a : Arrival n) (h : HandlerId) (t : SystemId n) :
    (w.opening a.system h a.cause a.frame).2.system t =
      if a.system = t then
        { w.system t with
          dispatcher := { w.dispatcher t with
            dispatching := true
            delivered := (w.dispatcher t).delivered + 1
            log := (w.unknown? a).elim (w.dispatcher t).log (w.dispatcher t).remember } }
      else w.system t := by
  have counted := system_counted w a.system t
  rw [opening_snd_eq]
  show ((w.counted a.system).reported a).system t = _
  rw [system_reported, dispatcher, counted]
  split <;> rfl

theorem console_opening (w : World H n κ) (a : Arrival n) (h : HandlerId) :
    (w.opening a.system h a.cause a.frame).2.console =
      (a.cause.reports (w.dispatcher a.system).logHeld).foldl Console.put w.console := by
  have held : ((w.counted a.system).dispatcher a.system).logHeld =
      (w.dispatcher a.system).logHeld := by
    rw [dispatcher, system_counted, if_pos rfl]
  rw [opening_snd_eq, ← held]
  exact console_reported (w.counted a.system) a

/-- The call of a handler leaves the code, the stack and the kernel's own state alone. -/
theorem opening_snd_kept (w : World H n κ) (a : Arrival n) (h : HandlerId) :
    (w.opening a.system h a.cause a.frame).2.code = w.code ∧
      (w.opening a.system h a.cause a.frame).2.stack = w.stack ∧
      (w.opening a.system h a.cause a.frame).2.kernel = w.kernel := by
  have said (v : World H n κ) (text : String) : (v.log .error text).code = v.code ∧
      (v.log .error text).stack = v.stack ∧ (v.log .error text).kernel = v.kernel :=
    ⟨rfl, rfl, rfl⟩
  have logged (v : World H n κ) (u : UnknownTrap) :
      (v.logUnknown a.system u).code = v.code ∧ (v.logUnknown a.system u).stack = v.stack ∧
        (v.logUnknown a.system u).kernel = v.kernel := by
    obtain ⟨code, stack, kernel⟩ := said v s!"Unknown Event: {u.cause.display}"
    dsimp only [logUnknown]
    generalize v.log .error s!"Unknown Event: {u.cause.display}" = reported at code stack kernel ⊢
    rw [← code, ← stack, ← kernel]
    split
    · exact said reported _
    · exact ⟨rfl, rfl, rfl⟩
  have kept : ((w.counted a.system).reported a).code = w.code ∧
      ((w.counted a.system).reported a).stack = w.stack ∧
      ((w.counted a.system).reported a).kernel = w.kernel := by
    rw [reported]
    cases (w.counted a.system).unknown? a with
    | none => exact ⟨rfl, rfl, rfl⟩
    | some u => exact logged (w.counted a.system) u
  rw [opening_snd_eq]
  exact kept

end World

/-! ## Acts -/

def setUpLine (code : CodeMap) (config : TrapConfig) (vector : Word) : String :=
  LogLevel.info.line ("CTE initialized: vector " ++ code.render vector ++ ", interrupts " ++
    config.interrupts.name)

namespace Act

def holds? (s : SystemId n) : Act n κ → Option Bool
  | request r => r.holds? s
  | _ => none

/-- Whether the log of a system is held after a list of acts that begins with it free. -/
def held (s : SystemId n) (acts : List (Act n κ)) : Bool :=
  ((acts.filterMap (holds? s)).getLast?).getD false

/-- What an act adds to the log of a system. -/
def logs? (w : World H n κ) (s : SystemId n) : Act n κ → Option UnknownTrap
  | enter a _ =>
    if a.system = s ∧ (w.dispatcher s).logHeld = false then w.unknown? a else none
  | _ => none

/-- What an act writes to the console, piece by piece. -/
def writes (w : World H n κ) : Act n κ → List (Array UInt8)
  | request (.print text) => [text.toUTF8.data]
  | request (.printBytes bs) => [bs]
  | request (.init _ config _ vector) => [(setUpLine w.code config vector).toUTF8.data]
  | enter a _ =>
    (a.cause.reports (w.dispatcher a.system).logHeld).map fun line => line.toUTF8.data
  | _ => []

end Act

namespace World

variable [Hart H] {w : World H n κ} {calls : List (Invocation n)}

theorem logHeld_effect {x : Act n κ} (lawful : x.Lawful w calls) (s : SystemId n) :
    ((x.effect w).dispatcher s).logHeld = (x.holds? s).getD (w.dispatcher s).logHeld := by
  cases x with
  | request r => exact congrArg Dispatcher.logHeld (dispatcher_settle lawful w s)
  | enter a call =>
    rw [Act.effect, dispatcher, system_opening_eq]
    split <;> rfl
  | leave call _ _ =>
    rw [Act.effect, dispatcher, system_unmark]
    split <;> rfl
  | take frame => exact congrArg Dispatcher.logHeld (dispatcher_takeTrap w .global s frame)
  | resume frame => exact congrArg Dispatcher.logHeld (dispatcher_returnFromTrap w .global s frame)
  | _ => rfl

theorem log_effect {x : Act n κ} (lawful : x.Lawful w calls) (s : SystemId n) :
    ((x.effect w).dispatcher s).log =
      (x.logs? w s).elim (w.dispatcher s).log (w.dispatcher s).log.push := by
  cases x with
  | request r =>
    rw [Act.effect, dispatcher_settle lawful]
    rfl
  | enter a call =>
    rw [Act.effect, dispatcher, system_opening_eq, Act.logs?]
    by_cases e : a.system = s
    · rw [if_pos e]
      cases held : (w.dispatcher s).logHeld with
      | true =>
        rw [if_neg (by simp)]
        cases w.unknown? a with
        | none => rfl
        | some u => exact if_pos held
      | false =>
        rw [if_pos ⟨e, rfl⟩]
        cases w.unknown? a with
        | none => rfl
        | some u => exact if_neg (by rw [held]; exact Bool.false_ne_true)
    · rw [if_neg e, if_neg fun both => e both.1]
      rfl
  | leave call _ _ =>
    rw [Act.effect, dispatcher, system_unmark]
    split <;> rfl
  | take frame => exact congrArg Dispatcher.log (dispatcher_takeTrap w .global s frame)
  | resume frame => exact congrArg Dispatcher.log (dispatcher_returnFromTrap w .global s frame)
  | _ => rfl

omit [Hart H] in
theorem console_newThread (policy : InterruptPolicy) (stack : Area) (entry arg : Word)
    (w : World H n κ) : ((newThread policy stack entry arg).runFrom w).2.console = w.console := by
  rw [runFrom_newThread]
  split <;> rfl

theorem console_effect {x : Act n κ} (lawful : x.Lawful w calls) :
    (x.effect w).console = (x.writes w).foldl Console.putBytes w.console := by
  cases x with
  | request r =>
    cases r with
    | dispatch _ _ _ | handle _ _ | simulateTrap _ | yieldNow => cases lawful
    | newThread s stack entry arg => exact console_newThread _ stack entry arg w
    | newThreadUnder policy stack entry arg => exact console_newThread policy stack entry arg w
    | _ => rfl
  | enter a call =>
    rw [Act.effect, console_opening, Act.writes, List.foldl_map]
    rfl
  | _ => rfl

theorem logHeld_after {acts : List (Act n κ)} (lawful : LawfulFrom w calls acts)
    (s : SystemId n) :
    ((w.after acts).dispatcher s).logHeld =
      ((acts.filterMap (Act.holds? s)).getLast?).getD (w.dispatcher s).logHeld := by
  induction acts generalizing w calls with
  | nil => rfl
  | cons x acts ih =>
    rw [after_cons, ih lawful.2, logHeld_effect lawful.1, List.filterMap_cons]
    cases x.holds? s with
    | none => rfl
    | some held =>
      rw [List.getLast?_cons]
      cases (acts.filterMap (Act.holds? s)).getLast? <;> rfl

/-- What a list of acts writes to the console, piece by piece. -/
def written : World H n κ → List (Act n κ) → List (Array UInt8)
  | _, [] => []
  | w, x :: rest => x.writes w ++ written (x.effect w) rest

theorem console_after {acts : List (Act n κ)} (lawful : LawfulFrom w calls acts) :
    (w.after acts).console = (w.written acts).foldl Console.putBytes w.console := by
  induction acts generalizing w calls with
  | nil => rfl
  | cons x acts ih =>
    rw [after_cons, ih lawful.2, console_effect lawful.1, written, List.foldl_append]

end World

end HartLayer
