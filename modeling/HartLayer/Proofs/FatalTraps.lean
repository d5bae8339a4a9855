import HartLayer.Proofs.Suspension

/-!
# What a fatal trap leaves behind

A trap on the trap path is fatal if it has no frame, if its dispatcher is busy, or if its handler
fails or leaves nothing to resume. The state that it leaves is used further, so it has to be exact.

* Without a frame nothing changes. A trap that is refused changes nothing but what taking it
  changes (`MasksOnly`).
* When a handler fails, what it did stays, and around it what the dispatch did (`HandlerFailed`).
  While a dispatcher is busy, its count and its log stay as they are (`Trail.takesNone`), so they
  are told from the state in which the trap arrived.
-/

namespace HartLayer.World

variable {H κ α : Type} {n : Nat}

section Failed

variable [Hart H] {handlers : Handlers n κ}

theorem records_exec (handlers : Handlers n κ) (p : Script n κ α) (w : World H n κ) :
    Records handlers w
      (scriptActs (answer handlers)
        (requestActs (deliver handlers (n + 1)) (arrivalActs handlers (n + 1))) p w)
      (exec handlers p) :=
  records_scriptActs (keepsMarks_answerWith (keepsMarks_deliver handlers (n + 1)))
    (fun r v _ => records_answer handlers r v) p (idle_le w)

/-- From one state to another, a dispatcher has taken no trap. -/
structure TakesNone (s : SystemId n) (w v : World H n κ) : Prop where
  busy : v.busy s = w.busy s
  delivered : (v.dispatcher s).delivered = (w.dispatcher s).delivered
  log : (v.dispatcher s).log = (w.dispatcher s).log

omit [Hart H] in
theorem TakesNone.trans {s : SystemId n} {w v u : World H n κ} (first : TakesNone s w v)
    (second : TakesNone s v u) : TakesNone s w u :=
  ⟨second.busy.trans first.busy, second.delivered.trans first.delivered,
    second.log.trans first.log⟩

theorem takesNone_effect {w : World H n κ} {calls : List (Invocation n)} {x : Act n κ}
    {s : SystemId n} (lawful : x.Lawful w calls) (unmarked : x.marks? s = none) :
    TakesNone s w (x.effect w) := by
  have other : ∀ a call, x = .enter a call → a.system ≠ s := by
    rintro a call rfl e
    rw [Act.marks?, if_pos e] at unmarked
    cases unmarked
  have uncalled : x.calls s = false := by
    cases x with
    | enter a call =>
      rw [Act.calls, Act.invocation?, Option.any_some, lawful.called.1]
      exact decide_eq_false (other a call rfl)
    | _ => rfl
  have unlogged : x.logs? w s = none := by
    cases x with
    | enter a call => exact if_neg fun both => other a call rfl both.1
    | _ => rfl
  refine ⟨?_, ?_, ?_⟩
  · rw [busy_effect lawful, unmarked]
    rfl
  · rw [delivered_effect lawful, uncalled]
    exact UInt64.add_zero _
  · rw [log_effect lawful, unlogged]
    rfl

/-- A dispatcher that is busy takes no trap. -/
theorem Trail.takesNone {w : World H n κ} {acts : List (Act n κ)} {s : SystemId n}
    (trail : Trail handlers w acts) (marked : w.busy s = true) : TakesNone s w (w.after acts) := by
  induction trail with
  | nil w => exact ⟨rfl, rfl, rfl⟩
  | @step w x rest unbracketed lawful _ ih =>
    have unmarked : x.marks? s = none := by
      cases x <;> first | rfl | cases unbracketed
    have first := takesNone_effect lawful unmarked
    exact first.trans (ih (first.busy.trans marked))
  | @call w a call inside rest returned entered _ _ _ inner outer =>
    -- the call is on another system, as this one is busy
    have other : a.system ≠ s := by
      rintro rfl
      rw [entered.2.1] at marked
      cases marked
    have ended : (Act.leave call returned (verdict call.event returned) : Act n κ).Lawful
        ((Act.effect w (.enter a call)).after inside) [call] := ⟨rfl, rfl⟩
    have opened := takesNone_effect entered (s := s) (if_neg other)
    have ran := opened.trans (inner (opened.busy.trans marked))
    have closed := ran.trans (takesNone_effect ended (if_neg (entered.called.1 ▸ other)))
    rw [after_append, after_cons, after_cons]
    exact closed.trans (outer (closed.busy.trans marked))

/-- A trap arrives with a frame, and its handler `h` fails after the acts `inside`. What is left is
told from the state `v` in which the trap arrives. -/
structure HandlerFailed (handlers : Handlers n κ) (s : SystemId n) (F : Word) (v : World H n κ)
    (h : HandlerId) (inside : List (Act n κ)) (e : Fault) (left : World H n κ) : Prop where
  installed : (v.dispatcher s).handler = some h
  /-- The handler is called with its trap counted and its context moved on, and fails, or ends with
  nothing to resume. -/
  ran : ∃ returned,
    let begun := v.opening s h (v.context F).cause F
    (exec handlers (handlers h begun.1 F)).runFrom begun.2 = (returned, begun.2.after inside) ∧
      (returned = .error e ∨ returned = .ok none ∧ e = .nullContext begun.1)
  trail : Trail handlers (v.opening s h (v.context F).cause F).2 inside
  /-- Nothing follows what the handler did but that the mark of the dispatcher is taken back. -/
  left_eq : left = ((v.opening s h (v.context F).cause F).2.after inside).unmark s
  /-- The handler finds the harts and the configurations as they were. -/
  begun_eq : ∀ t, let begun := (v.opening s h (v.context F).cause F).2
    (begun.system t).hart = (v.system t).hart ∧ (begun.system t).config = (v.system t).config
  /-- They stay as it leaves them. -/
  kept_eq : ∀ t, let ended := (v.opening s h (v.context F).cause F).2.after inside
    (left.system t).hart = (ended.system t).hart ∧
      (left.system t).config = (ended.system t).config
  busy_eq : ∀ t, left.busy t = v.busy t
  delivered_eq : (left.dispatcher s).delivered = (v.dispatcher s).delivered + 1
  log_eq : (left.dispatcher s).log =
    if (v.context F).cause.isKnown = false ∧ (v.dispatcher s).logHeld = false then
      (v.dispatcher s).log.push ⟨(v.context F).cause, (v.context F).mepc⟩
    else (v.dispatcher s).log
  /-- The lock of the log is as it was, if the handler does not take or release it. -/
  logHeld_eq : (left.dispatcher s).logHeld =
    ((inside.filterMap (Act.holds? s)).getLast?).getD (v.dispatcher s).logHeld
  /-- The handler that the failing one installed last stays installed. -/
  handler_eq : (left.dispatcher s).handler = (Act.installed s inside).or (some h)
  /-- The resume address stays moved on, if the handler does not store in the frame. -/
  context_eq : (∀ a ∈ inside.filterMap Act.stores?, Frame.Apart a F) →
    left.context F = { v.context F with
      mepc := if (v.context F).cause.isCall then (v.context F).mepc + 4 else (v.context F).mepc }

omit [Hart H] in
theorem verdict_eq_error {event : Event} {returned : Except Fault (Option Word)} {e : Fault}
    (h : verdict event returned = .error e) :
    returned = .error e ∨ returned = .ok none ∧ e = .nullContext event := by
  cases returned with
  | error f =>
    cases h
    exact .inl rfl
  | ok next =>
    cases next with
    | none =>
      cases h
      exact .inr ⟨rfl, rfl⟩
    | some frame => cases h

omit [Hart H] in
theorem dispatcher_unmark (w : World H n κ) (s : SystemId n) :
    (w.unmark s).dispatcher s = { w.dispatcher s with dispatching := false } :=
  dispatcher_onDispatcher_self w s _

omit [Hart H] in
theorem dispatcher_opening (w : World H n κ) (a : Arrival n) (h : HandlerId) :
    (w.opening a.system h a.cause a.frame).2.dispatcher a.system =
      { w.dispatcher a.system with
        dispatching := true
        delivered := (w.dispatcher a.system).delivered + 1
        log := (w.unknown? a).elim (w.dispatcher a.system).log
          (w.dispatcher a.system).remember } := by
  rw [dispatcher, system_opening_eq, if_pos rfl]

theorem handlerFailed_of_trail {s : SystemId n} {F : Word} {v : World H n κ} {h : HandlerId}
    {inside : List (Act n κ)} {returned : Except Fault (Option Word)} {e : Fault}
    (installed : (v.dispatcher s).handler = some h) (idle : v.busy s = false)
    (trail : Trail handlers (v.opening s h (v.context F).cause F).2 inside)
    (runs : (exec handlers (handlers h (v.opening s h (v.context F).cause F).1 F)).runFrom
      (v.opening s h (v.context F).cause F).2 =
        (returned, (v.opening s h (v.context F).cause F).2.after inside))
    (failed : verdict (v.opening s h (v.context F).cause F).1 returned = .error e) :
    HandlerFailed handlers s F v h inside e
      (((v.opening s h (v.context F).cause F).2.after inside).unmark s) := by
  have begun := system_opening_eq v ⟨s, (v.context F).cause, F⟩ h
  have own := dispatcher_opening v ⟨s, (v.context F).cause, F⟩ h
  dsimp only at begun own
  have marked : (v.opening s h (v.context F).cause F).2.busy s = true := by
    rw [busy_opening, if_pos rfl]
  have none := trail.takesNone marked
  have lawful := trail.lawfulFrom []
  have ended := verdict_eq_error failed
  refine ⟨installed, ⟨returned, runs, ended⟩, trail, rfl, ?_, ?_, ?_, ?_, ?_, ?_, ?_, ?_⟩
  · intro t
    dsimp only
    rw [begun t]
    split <;> exact ⟨rfl, rfl⟩
  · intro t
    dsimp only
    rw [system_unmark]
    split <;> exact ⟨rfl, rfl⟩
  · intro t
    have kept : ((exec handlers (handlers h (v.opening s h (v.context F).cause F).1 F)).runFrom
        (v.opening s h (v.context F).cause F).2).2.busy t = _ :=
      keepsMarks_run (keepsMarks_answerWith (keepsMarks_deliver handlers (n + 1))) _ _ t
    rw [runs, busy_opening] at kept
    rw [busy_unmark]
    by_cases e : s = t
    · rw [if_pos e, ← e, idle]
    · rw [if_neg e, kept, if_neg e]
  · rw [dispatcher_unmark]
    dsimp only
    rw [none.delivered, own]
  · rw [dispatcher_unmark]
    dsimp only
    rw [none.log, own, unknown?]
    dsimp only
    cases (v.context F).cause.isKnown with
    | true => rfl
    | false =>
      rw [if_neg Bool.false_ne_true, Option.elim_some, Dispatcher.remember]
      cases (v.dispatcher s).logHeld <;> rfl
  · rw [dispatcher_unmark]
    dsimp only
    rw [logHeld_after lawful, own]
  · rw [dispatcher_unmark]
    dsimp only
    rw [handler_after lawful, own, ← installed]
  · intro apart
    have context := context_opening v s h (v.context F).cause F
    rw [apply_classify] at context
    exact (context_after_of_apart lawful apart).trans context

/-- A dispatch that fails where its dispatcher is idle fails because its handler does. -/
theorem handlerFailed_of_dispatch {s : SystemId n} {F : Word} {v left : World H n κ} {e : Fault}
    (idle : v.busy s = false)
    (ended : (answer handlers (.dispatch s (v.context F).cause F)).runFrom v = (.error e, left)) :
    ∃ h inside, HandlerFailed handlers s F v h inside e left := by
  cases installed : (v.dispatcher s).handler with
  | none =>
    have passed : (answer handlers (.dispatch s (v.context F).cause F)).runFrom v = (.ok F, v) :=
      runFrom_deliver_of_handler_none handlers (n + 1) installed _ F
    rw [passed] at ended
    cases ended
  | some h =>
    have dispatched : (answer handlers (.dispatch s (v.context F).cause F)).runFrom v = _ :=
      runFrom_dispatch_of_idle (a := ⟨s, (v.context F).cause, F⟩) installed idle
    rw [dispatched] at ended
    dsimp only at ended
    obtain ⟨failed, rfl⟩ := Prod.mk.inj ended
    obtain ⟨trail, reached⟩ := records_exec handlers
      (handlers h (v.opening s h (v.context F).cause F).1 F)
      (v.opening s h (v.context F).cause F).2
    have ran := handlerFailed_of_trail installed idle trail (Prod.ext rfl reached.symm) failed
    rw [reached] at ran
    exact ⟨h, _, ran⟩

end Failed

/-! ## Traps on the trap path -/

/-- From one state to another, a trap with a frame is taken on the global hart: the status of the
frame changes, and the hart is masked, and nothing else changes. -/
structure MasksOnly (F : Word) (v u : World SimulatedHart n κ) : Prop where
  frame : ChangesOnly F { v.context F with mstatus := Status.resuming v.interruptible } v u
  global_eq : u.system .global =
    { v.system .global with hart := { (v.system .global).hart with mie := false } }
  others : ∀ s, s ≠ .global → u.system s = v.system s
  rest : u = { v with memory := u.memory, systems := u.systems }

theorem masksOnly_takeTrap (v : World SimulatedHart n κ) (F : Word) :
    MasksOnly F v (v.takeTrap .global F) := by
  refine ⟨changesOnly_takeTrap v F, ?_, ?_, rfl⟩
  · rw [system_takeTrap, system_onSystem, if_pos rfl]
    rfl
  · intro s other
    rw [system_takeTrap, system_onSystem, if_neg (Ne.symm other)]

variable {handlers : Handlers n κ}

/-- What traps leave behind that end with a fault, in a state from which they are delivered. -/
structure FatalTraps (handlers : Handlers n κ) (v : World SimulatedHart n κ) : Prop where
  /-- Without a frame nothing changes, the enable bit of the hart included. -/
  noFrame : (∀ s, (answer handlers (.handle s 0)).runFrom v = (.error .noFrame, v)) ∧
    (answer handlers (.simulateTrap 0)).runFrom v = (.error .noFrame, v)
  /-- A refused trap changes nothing at its dispatcher. -/
  refused : ∀ {s F}, F ≠ 0 → (v.dispatcher s).handler ≠ none → v.busy s = true →
    (answer handlers (.handle s F)).runFrom v = (.error (.nestedTrap (v.context F).cause), v)
  /-- A simulated trap that is refused has been taken, and nothing else has changed. -/
  refused_simulated : ∀ {F}, F ≠ 0 → (v.dispatcher .global).handler ≠ none →
    v.busy .global = true →
    ∃ left, (answer handlers (.simulateTrap F)).runFrom v =
      (.error (.nestedTrap (v.context F).cause), left) ∧ MasksOnly F v left
  /-- Any other fault comes from the handler. -/
  failed : ∀ {s F e left}, F ≠ 0 → v.busy s = false →
    (answer handlers (.handle s F)).runFrom v = (.error e, left) →
    ∃ h inside, HandlerFailed handlers s F v h inside e left
  /-- Of a simulated trap it comes in the state in which the trap is taken, so the handler finds the
  hart masked, and nothing is restored from a frame behind it. -/
  failed_simulated : ∀ {F e left}, F ≠ 0 → v.busy .global = false →
    (answer handlers (.simulateTrap F)).runFrom v = (.error e, left) →
    ∃ u h inside, MasksOnly F v u ∧ HandlerFailed handlers .global F u h inside e left
  /-- Where no handler is installed, only a trap without a frame is fatal. -/
  passed : ∀ {s F}, F ≠ 0 → (v.dispatcher s).handler = none →
    (answer handlers (.handle s F)).runFrom v = (.ok F, v) ∧
      (s = .global → ((answer handlers (.simulateTrap F)).runFrom v).1 = .ok F)

/-- A simulated trap ends with a fault as its dispatch does, in the state in which that ends. -/
theorem answer_simulateTrap_eq_error {F : Word} {v left : World SimulatedHart n κ} {e : Fault}
    (frame : F ≠ 0) :
    (answer handlers (.simulateTrap F)).runFrom v = (.error e, left) ↔
      (answer handlers (.dispatch .global (v.context F).cause F)).runFrom
        (v.takeTrap .global F) = (.error e, left) := by
  have outcome := runFrom_answer_simulateTrap handlers F v
  have state := answer_simulateTrap_snd handlers frame v
  rw [if_neg frame] at outcome
  constructor
  · intro ended
    rw [ended] at outcome state
    dsimp only at outcome state
    rw [← outcome] at state
    exact Prod.ext outcome.symm state.symm
  · intro ended
    rw [ended] at outcome state
    exact Prod.ext outcome state

/-- In every state, what a fatal trap leaves behind is what taking it changes, what the dispatch did
before the handler was called, and what the handler did. -/
theorem fatalTraps_leave (handlers : Handlers n κ) (v : World SimulatedHart n κ) :
    FatalTraps handlers v := by
  refine ⟨⟨fun _ => rfl, rfl⟩, ?_, ?_, ?_, ?_, ?_⟩
  · intro s F frame present marked
    obtain ⟨h, installed⟩ := Option.ne_none_iff_exists'.mp present
    rw [runFrom_answer_handle, if_neg frame]
    exact runFrom_deliver_of_busy handlers (n + 1) installed marked _ F
  · intro F frame present marked
    obtain ⟨h, installed⟩ := Option.ne_none_iff_exists'.mp present
    have installed' : ((v.takeTrap .global F).dispatcher .global).handler = some h := by
      rw [dispatcher_takeTrap, installed]
    have marked' : (v.takeTrap .global F).busy .global = true := by
      rw [busy_takeTrap, marked]
    have refused := runFrom_deliver_of_busy handlers (n + 1) installed' marked'
      (v.context F).cause F
    exact ⟨_, (answer_simulateTrap_eq_error frame).mpr refused, masksOnly_takeTrap v F⟩
  · intro s F e left frame idle ended
    rw [runFrom_answer_handle, if_neg frame] at ended
    exact handlerFailed_of_dispatch idle ended
  · intro F e left frame idle ended
    have idle' : (v.takeTrap .global F).busy .global = false := by
      rw [busy_takeTrap, idle]
    rw [answer_simulateTrap_eq_error frame, ← cause_takeTrap v .global F] at ended
    obtain ⟨h, inside, failed⟩ := handlerFailed_of_dispatch idle' ended
    exact ⟨_, h, inside, masksOnly_takeTrap v F, failed⟩
  · intro s F frame missing
    refine ⟨?_, ?_⟩
    · rw [runFrom_answer_handle, if_neg frame]
      exact runFrom_deliver_of_handler_none handlers (n + 1) missing _ F
    · rintro rfl
      have missing' : ((v.takeTrap .global F).dispatcher .global).handler = none := by
        rw [dispatcher_takeTrap, missing]
      have passed := runFrom_deliver_of_handler_none handlers (n + 1) missing'
        (v.context F).cause F
      rw [runFrom_answer_simulateTrap, if_neg frame]
      exact congrArg Prod.fst passed

/-! ## Handlers that fail -/

/-- One handler leaves nothing to resume. Every other one switches interrupts on and stops. -/
def givesUp : Handlers 0 Unit := fun h _ _ =>
  if h = ⟨0⟩ then .done none
  else Program.ask (Request.setInterrupts .global true) fun _ => .fail (.halted 1)

/-- The code that runs first is about to yield, with interrupts on. -/
def beforeYield (h : HandlerId) : World SimulatedHart 0 Unit :=
  perform givesUp [.init .global .masking h 0, .setInterrupts .global true,
    .setContext mainFrame (.calling yieldSentinel 0x80000100)] atStart

/-- The yield is fatal with each handler. Its frame stays moved on, and interrupts stay off, or as
the handler has left them. -/
theorem fatalTraps_leave_givesUp :
    let yielded := fun h => (answer givesUp (.simulateTrap mainFrame)).runFrom (beforeYield h)
    let event : Event := ⟨.yield, .ofException .machineEnvCall, "environment call from M-mode"⟩
    (∃ u h inside, MasksOnly mainFrame (beforeYield ⟨0⟩) u ∧
      HandlerFailed givesUp .global mainFrame u h inside (.nullContext event) (yielded ⟨0⟩).2) ∧
    (∃ u h inside, MasksOnly mainFrame (beforeYield ⟨1⟩) u ∧
      HandlerFailed givesUp .global mainFrame u h inside (.halted 1) (yielded ⟨1⟩).2) ∧
    ((yielded ⟨0⟩).2.context mainFrame).mepc = 0x80000104 ∧
    (yielded ⟨0⟩).2.interruptible = false ∧ (yielded ⟨1⟩).2.interruptible = true := by
  intro yielded event
  have frame : mainFrame ≠ 0 := by decide
  have nothing : (yielded ⟨0⟩).1 = .error (.nullContext event) := by decide +kernel
  have stopped : (yielded ⟨1⟩).1 = .error (.halted 1) := by decide +kernel
  refine ⟨?_, ?_, by decide +kernel, by decide +kernel, by decide +kernel⟩
  · exact (fatalTraps_leave givesUp (beforeYield ⟨0⟩)).failed_simulated frame (by decide +kernel)
      (Prod.ext nothing rfl)
  · exact (fatalTraps_leave givesUp (beforeYield ⟨1⟩)).failed_simulated frame (by decide +kernel)
      (Prod.ext stopped rfl)

end HartLayer.World
