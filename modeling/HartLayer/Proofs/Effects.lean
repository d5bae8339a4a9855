import HartLayer.Proofs.History

/-!
# What acts do to the parts of the state

For every part of the state there is one lemma that says what it is after an act: the marks of
dispatchers (`busy_effect`), the handlers installed (`handler_effect`), the counts of traps
delivered (`delivered_effect`) and the journal (`journal_effect`). Most acts leave most parts
alone, and each lemma names the acts that do not.
-/

namespace HartLayer

variable {H κ : Type} {n : Nat}

namespace Act

def installs? (s : SystemId n) : Act n κ → Option HandlerId
  | request r => r.installs? s
  | _ => none

/-- How an act marks a dispatcher. -/
def marks? (s : SystemId n) : Act n κ → Option Bool
  | enter a _ => if a.system = s then some true else none
  | leave call _ _ => if call.system = s then some false else none
  | _ => none

def invocation? : Act n κ → Option (Invocation n)
  | enter _ call => some call
  | _ => none

/-- Whether a call on a system begins with an act. -/
def calls (s : SystemId n) (x : Act n κ) : Bool :=
  x.invocation?.any (·.system = s)

def record? : Act n κ → Option (Entry n)
  | enter _ call => some (.handled call)
  | request r => r.record?
  | _ => none

end Act

namespace World

/-! ## The state in which a handler is called, and the one in which its call has ended -/

theorem system_opening (w : World H n κ) (s t : SystemId n) (h : HandlerId) (cause : Cause)
    (frame : Word) :
    ∃ log, (w.opening s h cause frame).2.system t =
      if s = t then
        { w.system t with
          dispatcher := { w.dispatcher t with
            dispatching := true
            delivered := (w.dispatcher t).delivered + 1
            log := log } }
      else w.system t := by
  obtain ⟨log, announced⟩ := system_announce (w.mark s) s t h cause frame
  refine ⟨log, announced.trans ?_⟩
  rw [dispatcher, mark, onDispatcher, system_onSystem]
  split <;> rfl

theorem memory_logUnknown (w : World H n κ) (s : SystemId n) (u : UnknownTrap) :
    (w.logUnknown s u).memory = w.memory := by
  dsimp only [logUnknown]
  split <;> rfl

theorem journal_logUnknown (w : World H n κ) (s : SystemId n) (u : UnknownTrap) :
    (w.logUnknown s u).journal = w.journal := by
  dsimp only [logUnknown]
  split <;> rfl

/-- The state in which a handler is called: that in which the trap arrived, counted and logged, with
the trapped context moved on and the call in the journal. -/
theorem opening_snd (w : World H n κ) (s : SystemId n) (h : HandlerId) (cause : Cause)
    (frame : Word) :
    ∃ v : World H n κ, v.memory = w.memory ∧ v.journal = w.journal ∧
      (w.opening s h cause frame).2 =
        let c := (classify cause (w.context frame)).apply (w.context frame)
        (v.setContext frame c).note
          (.handled ⟨s, h, (classify cause (w.context frame)).event, frame, c⟩) := by
  unfold opening announce
  by_cases unknown : (classify cause (w.context frame)).isUnrecognized = true
  · refine ⟨_, ?_, ?_,
      congrArg (fun v : World H n κ => (v.setContext frame _).note _) (if_pos unknown)⟩
    · rw [memory_logUnknown]
      rfl
    · rw [journal_logUnknown]
      rfl
  · refine ⟨_, ?_, ?_,
      congrArg (fun v : World H n κ => (v.setContext frame _).note _) (if_neg unknown)⟩
    · rfl
    · rfl

/-- Before the handler is called, the trapped context is moved on, and nothing else is stored. -/
theorem memory_opening (w : World H n κ) (s : SystemId n) (h : HandlerId) (cause : Cause)
    (frame : Word) :
    (w.opening s h cause frame).2.memory =
      w.memory.setContext frame
        ((classify cause (w.context frame)).apply (w.context frame)) := by
  obtain ⟨v, memory, -, opened⟩ := opening_snd w s h cause frame
  rw [opened, ← memory]
  rfl

theorem context_opening (w : World H n κ) (s : SystemId n) (h : HandlerId) (cause : Cause)
    (frame : Word) :
    (w.opening s h cause frame).2.context frame =
      (classify cause (w.context frame)).apply (w.context frame) := by
  rw [context, memory_opening, Memory.context_setContext]

/-- A handler is called with the event of its trap and with the context moved on. -/
theorem invocation_eq (w : World H n κ) (a : Arrival n) (h : HandlerId) :
    w.invocation a h =
      ⟨a.system, h, (classify a.cause (w.context a.frame)).event, a.frame,
        (classify a.cause (w.context a.frame)).apply (w.context a.frame)⟩ := by
  rw [← context_opening w a.system h a.cause a.frame]
  rfl

theorem journal_opening (w : World H n κ) (a : Arrival n) (h : HandlerId) :
    (w.opening a.system h a.cause a.frame).2.journal =
      w.journal.push (.handled (w.invocation a h)) := by
  obtain ⟨v, -, journal, opened⟩ := opening_snd w a.system h a.cause a.frame
  rw [invocation_eq, opened, ← journal]
  rfl

theorem system_unmark (w : World H n κ) (s t : SystemId n) :
    (w.unmark s).system t =
      if s = t then
        { w.system t with dispatcher := { w.dispatcher t with dispatching := false } }
      else w.system t :=
  system_onSystem w s t _

/-! ## Acts -/

variable [Hart H] {w : World H n κ} {calls : List (Invocation n)}

theorem busy_effect {x : Act n κ} (lawful : x.Lawful w calls) (s : SystemId n) :
    (x.effect w).busy s = (x.marks? s).getD (w.busy s) := by
  cases x with
  | request r => exact busy_settle lawful w s
  | enter a call =>
    refine (busy_opening w a.system s call.handler a.cause a.frame).trans ?_
    rw [Act.marks?]
    split <;> rfl
  | leave call _ _ =>
    refine (busy_unmark w call.system s).trans ?_
    rw [Act.marks?]
    split <;> rfl
  | take frame => exact busy_takeTrap w .global s frame
  | resume frame => exact busy_returnFromTrap w .global s frame
  | _ => rfl

theorem dispatcher_takeTrap (w : World H n κ) (s t : SystemId n) (frame : Word) :
    (w.takeTrap s frame).dispatcher t = w.dispatcher t := by
  rw [dispatcher, system_takeTrap, system_onSystem]
  split <;> rfl

theorem dispatcher_returnFromTrap (w : World H n κ) (s t : SystemId n) (frame : Word) :
    (w.returnFromTrap s frame).dispatcher t = w.dispatcher t := by
  rw [dispatcher, returnFromTrap, system_onSystem]
  split <;> rfl

theorem handler_effect {x : Act n κ} (lawful : x.Lawful w calls) (s : SystemId n) :
    ((x.effect w).dispatcher s).handler = (x.installs? s).or (w.dispatcher s).handler := by
  cases x with
  | request r => exact congrArg Dispatcher.handler (dispatcher_settle lawful w s)
  | enter a call =>
    obtain ⟨log, opened⟩ := system_opening w a.system s call.handler a.cause a.frame
    rw [Act.effect, dispatcher, opened]
    split <;> rfl
  | leave call _ _ =>
    rw [Act.effect, dispatcher, system_unmark]
    split <;> rfl
  | take frame => exact congrArg Dispatcher.handler (dispatcher_takeTrap w .global s frame)
  | resume frame => exact congrArg Dispatcher.handler (dispatcher_returnFromTrap w .global s frame)
  | _ => rfl

theorem delivered_effect {x : Act n κ} (lawful : x.Lawful w calls) (s : SystemId n) :
    ((x.effect w).dispatcher s).delivered =
      (w.dispatcher s).delivered + if x.calls s then 1 else 0 := by
  cases x with
  | request r => rw [Act.effect, dispatcher_settle lawful]; exact (UInt64.add_zero _).symm
  | enter a call =>
    obtain ⟨log, opened⟩ := system_opening w a.system s call.handler a.cause a.frame
    obtain ⟨same, -⟩ := lawful.called
    rw [Act.effect, dispatcher, opened, Act.calls, Act.invocation?, Option.any_some, same]
    by_cases e : a.system = s
    · rw [if_pos e, if_pos (decide_eq_true e)]
    · rw [if_neg e, if_neg (by simpa using e)]
      exact (UInt64.add_zero _).symm
  | leave call _ _ =>
    rw [Act.effect, dispatcher, system_unmark]
    split <;> exact (UInt64.add_zero _).symm
  | take frame => rw [Act.effect, dispatcher_takeTrap]; exact (UInt64.add_zero _).symm
  | resume frame => rw [Act.effect, dispatcher_returnFromTrap]; exact (UInt64.add_zero _).symm
  | _ => exact (UInt64.add_zero _).symm

theorem journal_effect {x : Act n κ} (lawful : x.Lawful w calls) :
    (x.effect w).journal.toList = w.journal.toList ++ x.record?.toList := by
  cases x with
  | request r => exact journal_settle lawful w
  | enter a call =>
    rw [Act.effect, journal_opening, Act.record?, ← lawful.2.2]
    exact Array.toList_push
  | _ => exact (List.append_nil _).symm

end World

end HartLayer
