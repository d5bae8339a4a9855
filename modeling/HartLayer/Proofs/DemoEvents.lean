import HartLayer.Demo.Kernel
import HartLayer.Proofs.Suspension

/-!
# What the demo makes of an event

* How the scheduler parks a frame and takes another (`Scheduler.park`, `Scheduler.takeNext`), thread
  by thread.
* How the handler of the demo ends for each kind of event, and in which state (`exec_yield`,
  `exec_syscall`, `exec_error`, `exec_interrupt`).
* What a dispatch that calls it leaves (`Leaves`), and how it ends (`dispatch_yield`,
  `dispatch_syscall`, `dispatch_error`, `dispatch_interrupt`).
-/

namespace HartLayer

open World

namespace Demo

/-! ## The scheduler -/

namespace Scheduler

variable (s : Scheduler) (frame : Word)

@[simp] theorem switches_park : (s.park frame).switches = s.switches + 1 := by
  unfold park
  cases s.current <;> rfl

@[simp] theorem current_park : (s.park frame).current = s.current := by
  unfold park
  cases s.current <;> rfl

theorem threads_park (i : Fin 2) :
    (s.park frame).threads.get i = if s.current = some i then some frame else s.threads.get i := by
  unfold park
  cases s.current with
  | none => rfl
  | some j =>
    by_cases same : j = i
    · subst same
      rw [if_pos rfl]
      exact Vector.getElem_set_self j.isLt
    · rw [if_neg fun e => same (Option.some.inj e)]
      exact Vector.getElem_set_ne j.isLt i.isLt fun e => same (Fin.ext e)

theorem takeNext_fst : s.takeNext.1 = s.threads.get s.next := rfl

theorem threads_takeNext (i : Fin 2) :
    s.takeNext.2.threads.get i = if s.next = i then none else s.threads.get i := by
  unfold takeNext
  by_cases same : s.next = i
  · subst same
    rw [if_pos rfl]
    exact Vector.getElem_set_self s.next.isLt
  · rw [if_neg same]
    exact Vector.getElem_set_ne s.next.isLt i.isLt fun e => same (Fin.ext e)

theorem next_park : (s.park frame).next = s.next := by
  unfold next
  rw [current_park]

end Scheduler

/-! ## The handler -/

section Handler

variable {H : Type} [Hart H]

/-- The state with another scheduler. -/
def withScheduler (w : World H 0 (Board Scheduler)) (s : Scheduler) :
    World H 0 (Board Scheduler) :=
  { w with kernel := { w.kernel with kernel := s } }

variable {e : Event} {frame : Word} (w : World H 0 (Board Scheduler))

theorem exec_yield (kind : e.kind = .yield) :
    (exec kernel.handlers (onEvent e frame)).runFrom w =
      let s := w.kernel.kernel.park frame
      if s.isOver then
        (.error (.halted 0), (withScheduler w s).log .info
          s!"{toString maxSwitches} context switches done, halting")
      else (.ok s.takeNext.1, withScheduler w s.takeNext.2) := by
  have asked : (exec kernel.handlers (onEvent e frame)).runFrom w =
      (exec kernel.handlers
        (if (w.kernel.kernel.park frame).isOver then
          Script.log .info s!"{toString maxSwitches} context switches done, halting" >>=
            fun _ => .fail (.halted 0)
        else
          BoardScript.modify (fun _ => (w.kernel.kernel.park frame).takeNext.2) >>=
            fun _ => pure (w.kernel.kernel.park frame).takeNext.1)).runFrom
        (withScheduler w (w.kernel.kernel.park frame)) := by
    rw [onEvent, kind]
    rfl
  rw [asked]
  dsimp only
  split <;> rfl

theorem exec_syscall (kind : e.kind = .syscall) :
    (exec kernel.handlers (onEvent e frame)).runFrom w =
      let c := w.context frame
      (.ok (some frame),
        w.setContext frame (c.setReturnValue (w.kernel.kernel.answer c.callNumber))) := by
  rw [onEvent, kind]
  rfl

theorem exec_error (kind : e.kind = .error) :
    (exec kernel.handlers (onEvent e frame)).runFrom w =
      (.error (.halted 1), w.log .error
        s!"Unhandled trap: {e.display} at {Word.hex (w.context frame).mepc}") := by
  rw [onEvent, kind]
  rfl

theorem exec_interrupt (kind : e.kind = .irqTimer ∨ e.kind = .irqIoDev) :
    (exec kernel.handlers (onEvent e frame)).runFrom w =
      (.ok (some frame), w.log .warn s!"Spurious interrupt: {e.display}") := by
  rcases kind with kind | kind
  · rw [onEvent, kind]
    rfl
  · rw [onEvent, kind]
    rfl

end Handler

/-! ## Dispatches -/

section Dispatch

variable {H : Type} {v w u : World H 0 (Board Scheduler)} {h : HandlerId} {cause : Cause}
  {frame : Word} {s s' : Scheduler} {c c' : Context}

/-- From one state to another the scheduler and the context in a frame change. The rest of the
board, the handler, and all frames apart from that one are as they were. -/
structure Leaves (v : World H 0 (Board Scheduler)) (frame : Word) (s : Scheduler) (c : Context)
    (u : World H 0 (Board Scheduler)) : Prop where
  kernel : u.kernel = { v.kernel with kernel := s }
  context : u.context frame = c
  apart : ∀ {other}, Frame.Apart frame other → u.context other = v.context other
  handler : (u.dispatcher .global).handler = (v.dispatcher .global).handler

theorem Leaves.trans (first : Leaves v frame s c w) (second : Leaves w frame s' c' u) :
    Leaves v frame s' c' u where
  kernel := by
    rw [second.kernel, first.kernel]
  context := second.context
  apart far := (second.apart far).trans (first.apart far)
  handler := second.handler.trans first.handler

theorem leaves_opening :
    Leaves v frame v.kernel.kernel ((classify cause (v.context frame)).apply (v.context frame))
      (v.opening .global h cause frame).2 where
  kernel := (opening_snd_kept v ⟨.global, cause, frame⟩ h).2.2
  context := context_opening v .global h cause frame
  apart far := by
    rw [World.context, memory_opening]
    exact v.memory.context_setContext_apart _ far
  handler := by
    obtain ⟨log, opened⟩ := system_opening v .global .global h cause frame
    rw [dispatcher, opened, if_pos rfl]

theorem Leaves.unmark (left : Leaves v frame s c u) : Leaves v frame s c (u.unmark .global) where
  kernel := left.kernel
  context := left.context
  apart far := left.apart far
  handler := by
    rw [dispatcher, system_unmark, if_pos rfl]
    exact left.handler

theorem Leaves.log (left : Leaves v frame s c u) (level : LogLevel) (text : String) :
    Leaves v frame s c (u.log level text) where
  kernel := left.kernel
  context := left.context
  apart far := left.apart far
  handler := left.handler

theorem Leaves.schedule (left : Leaves v frame s c u) (s' : Scheduler) :
    Leaves v frame s' c (withScheduler u s') where
  kernel := by
    rw [withScheduler, left.kernel]
  context := left.context
  apart far := left.apart far
  handler := left.handler

variable [Hart H]

/-- The handler is called with the trapped context moved on, and the dispatch ends as it ended. -/
theorem dispatch_eq (installed : (v.dispatcher .global).handler = some h)
    (idle : v.busy .global = false) (cause : Cause) (frame : Word) :
    let trapped := v.context frame
    let event := (classify cause trapped).event
    ∃ w, Leaves v frame v.kernel.kernel ((classify cause trapped).apply trapped) w ∧
      (answer kernel.handlers (.dispatch .global cause frame)).runFrom v =
        let ended := (exec kernel.handlers (onEvent event frame)).runFrom w
        (verdict event ended.1, ended.2.unmark .global) := by
  have event : (v.opening .global h cause frame).1 = (classify cause (v.context frame)).event :=
    congrArg Invocation.event (invocation_eq v ⟨.global, cause, frame⟩ h)
  dsimp only
  rw [← event]
  exact ⟨_, leaves_opening, runFrom_dispatch_of_idle (a := ⟨.global, cause, frame⟩) installed idle⟩

variable (cause frame) (installed : (v.dispatcher .global).handler = some h)
  (idle : v.busy .global = false)
include installed idle

/-- A yield parks the trapped frame and ends with the frame of the next thread, or stops the machine
when all switches are done. -/
theorem dispatch_yield (kind : (classify cause (v.context frame)).event.kind = .yield) :
    let s := v.kernel.kernel.park frame
    let c := (classify cause (v.context frame)).apply (v.context frame)
    let ended := (answer kernel.handlers (.dispatch .global cause frame)).runFrom v
    if s.isOver then ended.1 = .error (.halted 0) ∧ Leaves v frame s c ended.2
    else ∀ next, s.takeNext.1 = some next →
      ended.1 = .ok next ∧ Leaves v frame s.takeNext.2 c ended.2 := by
  obtain ⟨w, opened, dispatched⟩ := dispatch_eq installed idle cause frame
  have scheduler : w.kernel.kernel = v.kernel.kernel := congrArg Board.kernel opened.kernel
  dsimp only at dispatched ⊢
  rw [dispatched, exec_yield w kind, scheduler]
  dsimp only
  split
  · exact ⟨rfl, ((opened.schedule _).log _ _).unmark⟩
  · rintro next found
    rw [found]
    exact ⟨rfl, (opened.schedule _).unmark⟩

/-- A call is answered in `a0`, and whoever made it goes on. -/
theorem dispatch_syscall (kind : (classify cause (v.context frame)).event.kind = .syscall) :
    let c := (classify cause (v.context frame)).apply (v.context frame)
    let ended := (answer kernel.handlers (.dispatch .global cause frame)).runFrom v
    ended.1 = .ok frame ∧
      Leaves v frame v.kernel.kernel
        (c.setReturnValue (v.kernel.kernel.answer c.callNumber)) ended.2 := by
  obtain ⟨w, opened, dispatched⟩ := dispatch_eq installed idle cause frame
  have scheduler : w.kernel.kernel = v.kernel.kernel := congrArg Board.kernel opened.kernel
  dsimp only at dispatched ⊢
  rw [dispatched, exec_syscall w kind, opened.context, scheduler]
  refine ⟨rfl, (opened.trans ?_).unmark⟩
  refine ⟨?_, World.context_setContext _ _ _, w.memory.context_setContext_apart _, rfl⟩
  exact congrArg (fun s => { w.kernel with kernel := s }) scheduler

/-- A trap that the demo knows nothing to do about stops the machine. -/
theorem dispatch_error (kind : (classify cause (v.context frame)).event.kind = .error) :
    let c := (classify cause (v.context frame)).apply (v.context frame)
    let ended := (answer kernel.handlers (.dispatch .global cause frame)).runFrom v
    ended.1 = .error (.halted 1) ∧ Leaves v frame v.kernel.kernel c ended.2 := by
  obtain ⟨w, opened, dispatched⟩ := dispatch_eq installed idle cause frame
  dsimp only at dispatched ⊢
  rw [dispatched, exec_error w kind]
  exact ⟨rfl, (opened.log _ _).unmark⟩

/-- An interrupt is reported, and whoever it struck goes on. -/
theorem dispatch_interrupt (kind : (classify cause (v.context frame)).event.kind = .irqTimer ∨
    (classify cause (v.context frame)).event.kind = .irqIoDev) :
    let c := (classify cause (v.context frame)).apply (v.context frame)
    let ended := (answer kernel.handlers (.dispatch .global cause frame)).runFrom v
    ended.1 = .ok frame ∧ Leaves v frame v.kernel.kernel c ended.2 := by
  obtain ⟨w, opened, dispatched⟩ := dispatch_eq installed idle cause frame
  dsimp only at dispatched ⊢
  rw [dispatched, exec_interrupt w kind]
  exact ⟨rfl, (opened.log _ _).unmark⟩

end Dispatch

end Demo

end HartLayer
