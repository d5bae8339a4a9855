import HartLayer.Proofs.Frames

/-!
# The enable bit that a frame brings back

A frame has a saved enable bit once its trap was taken or a thread was prepared in it
(`Act.saves?`), and the bit that counts is the one saved last (`World.savedIn`).

* As long as frames are apart and nobody writes the status of a saved frame, the frame keeps the
  bit that was saved last (`resumes_of_savedIn`), whatever else happens.
* So a return from a trap switches interrupts back to what they were when the frame that is
  resumed was trapped last (`interruptible_of_resumed`), and a simulated trap ends with such a return
  (`interruptible_of_answered`).
-/

namespace HartLayer

variable {H κ : Type} {n : Nat} [Hart H]

namespace World

/-- Whether interrupts are enabled on the hart of the global system. -/
def interruptible (w : World H n κ) : Bool := Hart.interruptsEnabled (w.system .global).hart

end World

namespace Act

/-- The enable bit that an act saves in a frame. -/
def saves? (w : World H n κ) (F : Word) : Act n κ → Option Bool
  | take a => if a = F then some w.interruptible else none
  | push a c => if a = F then some c.resumesWithInterrupts else none
  | request (.newThread s stack _ _) =>
    if KernelThread.frame? stack = some F then some (w.system s).policy.allowsInterrupts else none
  | request (.newThreadUnder policy stack _ _) =>
    if KernelThread.frame? stack = some F then some policy.allowsInterrupts else none
  | _ => none

end Act

namespace World

/-- The enable bit that was saved last in a frame during a list of acts. -/
def savedIn (F : Word) : World H n κ → List (Act n κ) → Option Bool
  | _, [] => none
  | w, x :: rest => (savedIn F (x.effect w) rest).or (x.saves? w F)

theorem savedIn_append (F : Word) (w : World H n κ) (first second : List (Act n κ)) :
    savedIn F w (first ++ second) =
      (savedIn F (w.after first) second).or (savedIn F w first) := by
  induction first generalizing w with
  | nil => exact (Option.or_none).symm
  | cons x first ih =>
    rw [List.cons_append, savedIn, ih, savedIn, Option.or_assoc]
    rfl

theorem savedIn_concat (F : Word) (w : World H n κ) (acts : List (Act n κ)) (x : Act n κ) :
    savedIn F w (acts ++ [x]) = (x.saves? (w.after acts) F).or (savedIn F w acts) :=
  savedIn_append F w acts [x]

/-- The frames in which acts store are the same or apart. -/
def FramesApart (t : List (Act n κ)) : Prop :=
  ∀ a ∈ t.filterMap Act.stores?, ∀ b ∈ t.filterMap Act.stores?, a = b ∨ Frame.Apart a b

-- given by hand, as a search may find the instance that goes through all words
instance (t : List (Act n κ)) : Decidable (FramesApart t) :=
  have : DecidablePred fun a => ∀ b ∈ t.filterMap Act.stores?, a = b ∨ Frame.Apart a b :=
    fun _ => List.decidableBAll _ _
  List.decidableBAll _ _

/-- Whether a context that is stored by request in a frame with a saved bit has the status that the
frame had. -/
def keepsStatusAt (w : World H n κ) (pre : List (Act n κ)) : Act n κ → Bool
  | .request (.setContext F c) =>
    (savedIn F w pre).isNone || c.mstatus == ((w.after pre).context F).mstatus
  | _ => true

/-- No request writes the status of a frame with a saved bit. -/
def KeepsStatus (w : World H n κ) (t : List (Act n κ)) : Prop :=
  ∀ p ∈ Act.moments t, w.keepsStatusAt p.1 p.2 = true

instance (w : World H n κ) (t : List (Act n κ)) : Decidable (KeepsStatus w t) :=
  List.decidableBAll _ _

omit [Hart H] in
theorem resumesWithInterrupts_of_mstatus {c : Context} {on : Bool}
    (h : c.mstatus = Status.resuming on) : c.resumesWithInterrupts = on := by
  rw [Context.resumesWithInterrupts, h]
  cases on <;> decide

omit [Hart H] in
theorem resumesWithInterrupts_congr {c d : Context} (h : c.mstatus = d.mstatus) :
    c.resumesWithInterrupts = d.resumesWithInterrupts := by
  rw [Context.resumesWithInterrupts, Context.resumesWithInterrupts, h]

variable {w : World H n κ} {calls : List (Invocation n)} {F : Word}

omit [Hart H] in
theorem resumes_newThread {policy : InterruptPolicy} {stack : Area}
    (frame : KernelThread.frame? stack = some F) (entry arg : Word) (w : World H n κ) :
    (((newThread policy stack entry arg).runFrom w).2.context F).resumesWithInterrupts =
      policy.allowsInterrupts := by
  rw [context_newThread frame]
  exact resumesWithInterrupts_of_mstatus rfl

/-- A bit that is saved is in the status of the frame. -/
theorem resumes_effect_of_saves? {x : Act n κ} {on : Bool} (saves : x.saves? w F = some on) :
    ((x.effect w).context F).resumesWithInterrupts = on := by
  cases x with
  | request r =>
    cases r with
    | newThread s stack entry arg =>
      obtain ⟨frame, e⟩ := Option.ite_none_right_eq_some.mp saves
      exact (resumes_newThread frame entry arg w).trans (Option.some.inj e)
    | newThreadUnder policy stack entry arg =>
      obtain ⟨frame, e⟩ := Option.ite_none_right_eq_some.mp saves
      exact (resumes_newThread frame entry arg w).trans (Option.some.inj e)
    | _ => cases saves
  | push a c =>
    obtain ⟨rfl, e⟩ := Option.ite_none_right_eq_some.mp saves
    rw [← Option.some.inj e]
    exact congrArg Context.resumesWithInterrupts (w.context_setContext a c)
  | take a =>
    obtain ⟨rfl, e⟩ := Option.ite_none_right_eq_some.mp saves
    rw [← Option.some.inj e, Act.effect, context_takeTrap]
    exact resumesWithInterrupts_of_mstatus rfl
  | _ => cases saves

/-- An act that saves a bit stores in the frame. -/
theorem stores?_of_saves? {x : Act n κ} {on : Bool} (saves : x.saves? w F = some on) :
    x.stores? = some F := by
  cases x with
  | request r =>
    cases r with
    | newThread s stack entry arg => exact (Option.ite_none_right_eq_some.mp saves).1
    | newThreadUnder policy stack entry arg => exact (Option.ite_none_right_eq_some.mp saves).1
    | _ => cases saves
  | push a c => exact congrArg some (Option.ite_none_right_eq_some.mp saves).1
  | take a => exact congrArg some (Option.ite_none_right_eq_some.mp saves).1
  | _ => cases saves

theorem mem_stores_of_savedIn {acts : List (Act n κ)} {on : Bool}
    (saved : savedIn F w acts = some on) : F ∈ acts.filterMap Act.stores? := by
  induction acts generalizing w with
  | nil => cases saved
  | cons x acts ih =>
    rw [savedIn, Option.or_eq_some_iff] at saved
    rw [List.mem_filterMap]
    rcases saved with later | ⟨-, now⟩
    · obtain ⟨y, hy, e⟩ := List.mem_filterMap.mp (ih later)
      exact ⟨y, List.mem_cons_of_mem x hy, e⟩
    · exact ⟨x, List.mem_cons_self, stores?_of_saves? now⟩

/-- An act that saves no bit in a frame leaves its bit alone, if it stores apart from the frame or
keeps the status. -/
theorem resumes_effect_of_saves?_none {x : Act n κ} (lawful : x.Lawful w calls)
    (saves : x.saves? w F = none)
    (apart : ∀ a, x.stores? = some a → a = F ∨ Frame.Apart a F)
    (kept : ∀ c, x = .request (.setContext F c) → c.mstatus = (w.context F).mstatus) :
    ((x.effect w).context F).resumesWithInterrupts = (w.context F).resumesWithInterrupts := by
  by_cases stores : x.stores? = some F
  · cases x with
    | request r =>
      cases r with
      | setContext a c =>
        obtain rfl : a = F := Option.some.inj stores
        refine resumesWithInterrupts_congr ?_
        rw [← kept c rfl]
        exact congrArg Context.mstatus (w.context_setContext a c)
      | newThread s stack entry arg =>
        have here : KernelThread.frame? stack = some F := stores
        rw [Act.saves?, if_pos here] at saves
        cases saves
      | newThreadUnder policy stack entry arg =>
        have here : KernelThread.frame? stack = some F := stores
        rw [Act.saves?, if_pos here] at saves
        cases saves
      | _ => cases stores
    | push a c =>
      rw [Act.saves?, if_pos (Option.some.inj stores)] at saves
      cases saves
    | take a =>
      rw [Act.saves?, if_pos (Option.some.inj stores)] at saves
      cases saves
    | enter a call =>
      obtain rfl : a.frame = F := Option.some.inj stores
      rw [Act.effect, context_opening]
      rfl
    | _ => cases stores
  · rw [context_effect_of_apart lawful fun a e => ?_]
    rcases apart a e with rfl | h
    · exact absurd e stores
    · exact h

/-- The bit that was saved last in a frame is the one that a return to the frame brings back. -/
theorem resumes_of_savedIn {t pre : List (Act n κ)} (lawful : LawfulFrom w calls t)
    (apart : FramesApart t) (kept : KeepsStatus w t) (hp : pre <+: t) {on : Bool}
    (saved : savedIn F w pre = some on) :
    ((w.after pre).context F).resumesWithInterrupts = on := by
  induction pre using List.reverseRecOn generalizing on with
  | nil => cases saved
  | append_singleton pre x ih =>
    obtain ⟨post, rfl⟩ := hp
    rw [List.append_assoc, List.singleton_append] at lawful apart kept ih
    rw [after_append, after_cons, after_nil]
    rw [savedIn_concat, Option.or_eq_some_iff] at saved
    rcases saved with now | ⟨none, before⟩
    · exact resumes_effect_of_saves? now
    · rw [← ih (List.prefix_append pre _) before]
      refine resumes_effect_of_saves?_none lawful.act none (fun a e => ?_) fun c e => ?_
      · refine apart a (List.mem_filterMap.mpr ⟨x, by simp, e⟩) F ?_
        rw [List.filterMap_append]
        exact List.mem_append_left _ (mem_stores_of_savedIn before)
      · have keeps := kept (pre, x) (Act.mem_moments.mpr ⟨post, rfl⟩)
        rw [e] at keeps
        simp only [keepsStatusAt, before, Option.isNone_some, Bool.false_or, beq_iff_eq] at keeps
        exact keeps

/-- The same for a list of acts in two parts: what counts in the second is what was saved last,
there or before. -/
theorem resumes_of_savedIn_after {first t pre : List (Act n κ)}
    (lawful : LawfulFrom w calls (first ++ t)) (apart : FramesApart (first ++ t))
    (kept : KeepsStatus w (first ++ t)) (hp : pre <+: t) {on : Bool}
    (saved : (savedIn F (w.after first) pre).or (savedIn F w first) = some on) :
    (((w.after first).after pre).context F).resumesWithInterrupts = on := by
  rw [← savedIn_append] at saved
  rw [← after_append]
  exact resumes_of_savedIn lawful apart kept ((List.prefix_append_right_inj first).mpr hp) saved

/-! ## Returning from traps -/

section Returns

variable {handlers : Handlers n κ} {w v left : World SimulatedHart n κ} {t pre : List (Act n κ)}
  {F next : Word} {on : Bool}

def during (handlers : Handlers n κ) (r : Request n κ) (v : World SimulatedHart n κ) :
    List (Act n κ) :=
  requestActs (deliver handlers (n + 1)) (arrivalActs handlers (n + 1)) r v

/-- What happens during the dispatch of a trap that was taken. -/
def duringDispatch (handlers : Handlers n κ) (F : Word) (v : World SimulatedHart n κ) :
    List (Act n κ) :=
  during handlers (.dispatch .global (v.context F).cause F) (v.takeTrap .global F)

theorem after_during (handlers : Handlers n κ) (r : Request n κ) (v : World SimulatedHart n κ) :
    v.after (during handlers r v) = ((answer handlers r).runFrom v).2 :=
  (records_answer handlers r v).2

theorem lawfulFrom_append_during (handlers : Handlers n κ) (lawful : LawfulFrom w [] pre)
    (r : Request n κ) :
    LawfulFrom w [] (pre ++ during handlers r (w.after pre)) :=
  lawfulFrom_append.mpr ⟨lawful, (records_answer handlers r (w.after pre)).1.lawfulFrom _⟩

theorem history_concat (handlers : Handlers n κ) (rs : List (Request n κ)) (r : Request n κ)
    (w : World SimulatedHart n κ) :
    history handlers (rs ++ [r]) w =
      history handlers rs w ++ during handlers r (perform handlers rs w) := by
  rw [history_append]
  exact congrArg _ (List.append_nil _)

/-- A trap with a frame is taken and dispatched, and only if that gives a frame is there a return
to it. -/
theorem during_simulateTrap (frame : F ≠ 0) :
    during handlers (.simulateTrap F) v =
      .take F :: duringDispatch handlers F v ++
        match ((deliver handlers (n + 1) .global (v.context F).cause F).runFrom
          (v.takeTrap .global F)).1 with
        | .ok next => if next = 0 then [] else [.resume next]
        | .error _ => [] := by
  rw [during, requestActs, simulateActs, if_neg frame]
  dsimp only
  rw [cause_takeTrap]
  rfl

theorem during_simulateTrap_of_ok (frame : F ≠ 0) (chosen : next ≠ 0)
    (ended : (answer handlers (.simulateTrap F)).runFrom v = (.ok next, left)) :
    during handlers (.simulateTrap F) v =
      .take F :: duringDispatch handlers F v ++ [.resume next] := by
  have dispatched := runFrom_answer_simulateTrap handlers F v
  rw [ended, if_neg frame] at dispatched
  have gave : ((deliver handlers (n + 1) .global (v.context F).cause F).runFrom
      (v.takeTrap .global F)).1 = .ok next := dispatched.symm
  rw [during_simulateTrap frame, gave]
  exact congrArg _ (if_neg chosen)

theorem interruptible_resume (w : World SimulatedHart n κ) (F : Word) :
    ((Act.resume F : Act n κ).effect w).interruptible = (w.context F).resumesWithInterrupts := by
  rw [interruptible, Act.effect, returnFromTrap, system_onSystem, if_pos rfl]
  rfl

/-- A return from a trap switches interrupts to what was saved last in the frame. -/
theorem interruptible_of_resumed (lawful : LawfulFrom w [] t) (apart : FramesApart t)
    (kept : KeepsStatus w t) (hp : pre <+: t) (saved : savedIn F w pre = some on) :
    (w.after (pre ++ [.resume F])).interruptible = on := by
  rw [after_append, after_cons, after_nil, interruptible_resume]
  exact resumes_of_savedIn lawful apart kept hp saved

/-- So does a simulated trap, which ends with such a return. -/
theorem interruptible_of_answered (lawful : LawfulFrom w [] t) (apart : FramesApart t)
    (kept : KeepsStatus w t) (hp : pre ++ during handlers (.simulateTrap F) (w.after pre) <+: t)
    (chosen : next ≠ 0)
    (ended : (answer handlers (.simulateTrap F)).runFrom (w.after pre) = (.ok next, left))
    (saved : savedIn next w (pre ++ during handlers (.simulateTrap F) (w.after pre)) = some on) :
    left.interruptible = on := by
  have frame : F ≠ 0 := by
    rintro rfl
    cases ended
  have happened := during_simulateTrap_of_ok frame chosen ended
  have reached := after_during handlers (.simulateTrap F) (w.after pre)
  rw [ended, ← after_append, happened, ← List.append_assoc] at reached
  rw [happened, ← List.append_assoc] at hp saved
  rw [savedIn_concat] at saved
  -- the return itself saves nothing
  have before : savedIn next w (pre ++ .take F :: duringDispatch handlers F (w.after pre)) =
      some on := Option.none_or.symm.trans saved
  rw [← show _ = left from reached]
  exact interruptible_of_resumed lawful apart kept
    ((List.prefix_append _ _).trans hp) before

end Returns

/-- What returns from traps bring back while requests are answered. -/
structure RestoresInterrupts (handlers : Handlers n κ) (w : World SimulatedHart n κ)
    (rs : List (Request n κ)) : Prop where
  /-- A simulated trap that ends with a frame leaves interrupts as they were when they were saved in
  it last. -/
  answered : ∀ {before after F next left on}, rs = before ++ .simulateTrap F :: after →
    next ≠ 0 →
    (answer handlers (.simulateTrap F)).runFrom (perform handlers before w) = (.ok next, left) →
    savedIn next w (history handlers (before ++ [.simulateTrap F]) w) = some on →
    left.interruptible = on
  /-- It is the same at every moment, also inside handlers. -/
  meanwhile : ∀ {pre F next left on}, pre <+: history handlers rs w → next ≠ 0 →
    (answer handlers (.simulateTrap F)).runFrom (w.after pre) = (.ok next, left) →
    let acts := pre ++ during handlers (.simulateTrap F) (w.after pre)
    FramesApart acts → KeepsStatus w acts → savedIn next w acts = some on →
    left.interruptible = on
  /-- It is the same with every other return, as that of a yield. -/
  resumed : ∀ {pre F post on}, history handlers rs w = pre ++ .resume F :: post →
    savedIn F w pre = some on → (w.after (pre ++ [.resume F])).interruptible = on

/-- As long as frames are apart and nobody writes a status that was saved, a simulated trap switches
interrupts back to what they were when the frame that it ends with was trapped last, or to what the
policy allowed when a thread was prepared in it. -/
theorem restoresInterrupts_history (handlers : Handlers n κ) (rs : List (Request n κ))
    (w : World SimulatedHart n κ) (apart : FramesApart (history handlers rs w))
    (kept : KeepsStatus w (history handlers rs w)) :
    RestoresInterrupts handlers w rs ∧
      w.after (history handlers rs w) = perform handlers rs w := by
  obtain ⟨trail, reached⟩ := trail_history handlers rs w
  have lawful := trail.lawfulFrom []
  refine ⟨⟨?answered, ?meanwhile, ?resumed⟩, reached⟩
  case answered =>
    rintro before after F next left on rfl chosen ended saved
    have upTo : before ++ [.simulateTrap F] <+: before ++ .simulateTrap F :: after :=
      ⟨after, List.append_assoc _ _ _⟩
    have hp := history_prefix_of_prefix handlers upTo w
    rw [history_concat, ← (trail_history handlers before w).2] at hp saved
    rw [← (trail_history handlers before w).2] at ended
    exact interruptible_of_answered lawful apart kept hp chosen ended saved
  case meanwhile =>
    intro pre F next left on hp chosen ended acts apart kept saved
    have whole := lawfulFrom_append_during handlers (lawful.upTo hp) (.simulateTrap F)
    exact interruptible_of_answered whole apart kept List.prefix_rfl chosen ended saved
  case resumed =>
    intro pre F post on split saved
    exact interruptible_of_resumed lawful apart kept ⟨_, split.symm⟩ saved

/-! ## A thread and the code that it interrupts -/

/-- A frame of the code that runs first. -/
def mainFrame : Word := 0x80120000

def threadStack : Area := ⟨0x80110000, 0x80111000⟩

/-- The frame in which the thread is prepared. -/
def threadFrame : Word := 0x80110ee0

/-- Every trap switches to the other of the two frames. -/
def switching : Handlers 0 Unit := fun _ _ frame =>
  .done (some (if frame = mainFrame then threadFrame else mainFrame))

/-- The code that runs first is trapped with interrupts on, and the thread with interrupts off. -/
def thereAndBack : List (Request 0 Unit) :=
  [.init .global .masking ⟨0⟩ 0, .setInterrupts .global true,
    .newThread .global threadStack 0x1000 7, .simulateTrap mainFrame,
    .setInterrupts .global false, .simulateTrap threadFrame]

def atStart : World SimulatedHart 0 Unit := boot .standard .reset 0 0x80130000 ()

/-- The trap of the thread ends with the frame of the code that it interrupts, which has interrupts
on again. -/
theorem restoresInterrupts_thereAndBack :
    let t := history switching thereAndBack atStart
    let thread := perform switching thereAndBack.dropLast atStart
    FramesApart t ∧ KeepsStatus atStart t ∧ mainFrame ≠ 0 ∧ thread.interruptible = false ∧
      ((answer switching (.simulateTrap threadFrame)).runFrom thread).1 = .ok mainFrame ∧
      (perform switching thereAndBack atStart).interruptible = true := by
  have apart : FramesApart (history switching thereAndBack atStart) := by decide +kernel
  have kept : KeepsStatus atStart (history switching thereAndBack atStart) := by decide +kernel
  have chosen : mainFrame ≠ 0 := by decide
  have ended : ((answer switching (.simulateTrap threadFrame)).runFrom
      (perform switching thereAndBack.dropLast atStart)).1 = .ok mainFrame := by decide +kernel
  have saved : savedIn mainFrame atStart (history switching thereAndBack atStart) =
      some true := by decide +kernel
  have restores := (restoresInterrupts_history switching thereAndBack atStart apart kept).1
  refine ⟨apart, kept, chosen, by decide +kernel, ended, ?_⟩
  exact restores.answered (show thereAndBack = thereAndBack.dropLast ++ _ :: [] from rfl) chosen
    (Prod.ext ended rfl) saved

end World

end HartLayer
