import HartLayer.Proofs.Reports
import HartLayer.Proofs.SavedStatus

/-!
# Suspended contexts are kept

Handlers are calm if they store in no frame and deliver no trap (`Handlers.Calm`). They may return
any frame, or none, or fail.

* With such handlers a request on the trap path changes one frame only, the one that it is handed
  (`changesOnly_dispatch`, `changesOnly_simulateTrap`), and in it the resume address and the status
  only (`World.suspended`). A yield changes the frame that it pushes (`context_yieldNow_of_apart`).
* So a context that is suspended is found as it was, however many other traps are handled before it
  is resumed (`context_perform_of_apart`).
-/

namespace HartLayer

variable {H κ α : Type} {n : Nat}

/-! ## Calm handlers -/

/-- A request that delivers no trap and stores no context. -/
def Request.Calm (r : Request n κ) : Prop :=
  r.deliversTrap = false ∧ (Act.request r).stores? = none

def Handlers.Calm (handlers : Handlers n κ) : Prop :=
  ∀ h event frame, (handlers h event frame).Only Request.Calm

/-- The frame that a request hands to the trap path. -/
def Request.traps? : Request n κ → Option Word
  | dispatch _ _ frame => some frame
  | handle _ frame | simulateTrap frame => if frame = 0 then none else some frame
  | _ => none

/-- The frame in which a request may store, where a yield would push its frame at `scratch`. -/
def Request.stores? (scratch : Word) : Request n κ → Option Word
  | yieldNow => some scratch
  | r => r.traps?.or (Act.request r).stores?

/-- Whether a request leaves a frame alone because it stores in others only. -/
def Request.LeavesOut (scratch F : Word) (r : Request n κ) : Prop :=
  ∀ a, r.stores? scratch = some a → Frame.Apart a F

theorem leavesOut_simulateTrap {scratch F G : Word} (apart : Frame.Apart G F) :
    (.simulateTrap G : Request n κ).LeavesOut scratch F := by
  have stored : (.simulateTrap G : Request n κ).stores? scratch =
      if G = 0 then none else some G := Option.or_none
  intro a stores
  rw [stored] at stores
  obtain ⟨-, e⟩ := Option.ite_none_left_eq_some.mp stores
  rw [← Option.some.inj e]
  exact apart

namespace World

section Settle

variable [Hart H] {r : Request n κ}

theorem stack_settle (quiet : r.deliversTrap = false) (w : World H n κ) :
    (w.settle r).stack = w.stack := by
  cases r with
  | dispatch _ _ _ | handle _ _ | simulateTrap _ | yieldNow => cases quiet
  | newThread s stack entry arg =>
    show ((newThread _ stack entry arg).runFrom w).2.stack = w.stack
    rw [runFrom_newThread]
    split <;> rfl
  | newThreadUnder policy stack entry arg =>
    show ((newThread policy stack entry arg).runFrom w).2.stack = w.stack
    rw [runFrom_newThread]
    split <;> rfl
  | _ => rfl

theorem memory_settle_of_calm (calm : r.Calm) (w : World H n κ) :
    (w.settle r).memory = w.memory := by
  have refused {stack : Area} (none : KernelThread.frame? stack = none) (policy : InterruptPolicy)
      (entry arg : Word) : ((newThread policy stack entry arg).runFrom w).2.memory = w.memory := by
    obtain ⟨e, refused⟩ :=
      KernelThread.prepare_of_frame?_none none (w.code.address .threadExit) entry arg policy
    rw [runFrom_newThread, refused]
  cases r with
  | dispatch _ _ _ | handle _ _ | simulateTrap _ | yieldNow => cases calm.1
  | setContext a c => cases calm.2
  | newThread s stack entry arg => exact refused calm.2 _ entry arg
  | newThreadUnder policy stack entry arg => exact refused calm.2 policy entry arg
  | _ => rfl

theorem answer_snd_of_quiet (handlers : Handlers n κ) (quiet : r.deliversTrap = false)
    (w : World H n κ) : ((answer handlers r).runFrom w).2 = w.settle r := by
  rw [answer, answerWith_of_quiet quiet _ fun _ _ _ => throw .nestingExhausted]
  rfl

/-- A script that asks for calm requests only leaves all frames and the stack alone. -/
theorem exec_of_calm (handlers : Handlers n κ) {p : Script n κ α} (calm : p.Only Request.Calm)
    (w : World H n κ) :
    ((exec handlers p).runFrom w).2.memory = w.memory ∧
      ((exec handlers p).runFrom w).2.stack = w.stack := by
  induction p generalizing w with
  | done a => exact ⟨rfl, rfl⟩
  | fail e => exact ⟨rfl, rfl⟩
  | ask r next ih =>
    have left := answer_snd_of_quiet handlers calm.1.1 w
    have memory := memory_settle_of_calm calm.1 w
    have stack := stack_settle calm.1.1 w
    rw [exec, Program.run_ask, Attempt.runFrom_bind, left, ← memory, ← stack]
    split
    · exact ih _ (calm.2 _) (w.settle r)
    · exact ⟨rfl, rfl⟩

end Settle

/-! ## What becomes of the frame that is handed over -/

/-- A context after its dispatch: one instruction further if a handler is installed and the trap is
a call. -/
def movedOn (w : World H n κ) (s : SystemId n) (cause : Cause) (c : Context) : Context :=
  { c with
    mepc := if (w.dispatcher s).handler.isSome ∧ cause.isCall = true then c.mepc + 4 else c.mepc }

/-- The context in a frame after a request that hands it to the trap path. -/
def suspended [Hart H] (w : World H n κ) (F : Word) : Request n κ → Context
  | .dispatch s cause _ => w.movedOn s cause (w.context F)
  | .handle s _ => w.movedOn s (w.context F).cause (w.context F)
  | .simulateTrap _ =>
    { w.movedOn .global (w.context F).cause (w.context F) with
      mstatus := Status.resuming w.interruptible }
  | _ => w.context F

/-- From one state to another a frame changes, and nothing in frames apart from it. -/
structure ChangesOnly (F : Word) (c : Context) (w v : World H n κ) : Prop where
  context : v.context F = c
  apart : ∀ {G}, Frame.Apart F G → v.context G = w.context G
  stack : v.stack = w.stack

theorem ChangesOnly.trans {F : Word} {c d : Context} {w v u : World H n κ}
    (first : ChangesOnly F c w v) (second : ChangesOnly F d v u) : ChangesOnly F d w u :=
  ⟨second.context, fun h => (second.apart h).trans (first.apart h),
    second.stack.trans first.stack⟩

variable [Hart H] {handlers : Handlers n κ} {w : World H n κ} {F : Word}

theorem changesOnly_dispatch (calm : handlers.Calm) {s : SystemId n} (idle : w.busy s = false)
    (cause : Cause) (F : Word) :
    ChangesOnly F (w.movedOn s cause (w.context F)) w
      ((answer handlers (.dispatch s cause F)).runFrom w).2 := by
  cases installed : (w.dispatcher s).handler with
  | none =>
    have stays : w.movedOn s cause (w.context F) = w.context F := by
      simp [movedOn, installed]
    have passed : (answer handlers (.dispatch s cause F)).runFrom w = (.ok F, w) :=
      runFrom_deliver_of_handler_none handlers (n + 1) installed cause F
    rw [passed, stays]
    exact ⟨rfl, fun _ => rfl, rfl⟩
  | some h =>
    have moved : (classify cause (w.context F)).apply (w.context F) =
        w.movedOn s cause (w.context F) := by
      rw [apply_classify, movedOn, installed]
      simp
    have dispatched : (answer handlers (.dispatch s cause F)).runFrom w = _ :=
      runFrom_dispatch_of_idle (a := ⟨s, cause, F⟩) installed idle
    obtain ⟨memory, stack⟩ := exec_of_calm handlers
      (calm h (w.opening s h cause F).1 F) (w.opening s h cause F).2
    -- the handler is calm, so it leaves the memory in which it is called
    rw [memory_opening, moved] at memory
    rw [(opening_snd_kept w ⟨s, cause, F⟩ h).2.1] at stack
    rw [dispatched]
    refine ⟨?_, fun {G} apart => ?_, stack⟩
    · show Memory.context (World.memory _) F = _
      exact (congrArg (Memory.context · F) memory).trans (w.memory.context_setContext F _)
    · exact (congrArg (Memory.context · G) memory).trans
        (w.memory.context_setContext_apart _ apart)

theorem changesOnly_takeTrap (w : World H n κ) (F : Word) :
    ChangesOnly F { w.context F with mstatus := Status.resuming w.interruptible } w
      (w.takeTrap .global F) :=
  ⟨context_takeTrap w .global F, w.memory.context_setStatus_apart _, rfl⟩

theorem changesOnly_returnTo (w : World H n κ) (F : Word) (chosen : Except Fault Word) :
    ChangesOnly F (w.context F) w (w.returnTo chosen) := by
  cases chosen with
  | error e => exact ⟨rfl, fun _ => rfl, rfl⟩
  | ok next =>
    rw [returnTo]
    split <;> exact ⟨rfl, fun _ => rfl, rfl⟩

theorem changesOnly_simulateTrap (calm : handlers.Calm) (idle : w.busy .global = false)
    (h : F ≠ 0) :
    ChangesOnly F (w.suspended F (.simulateTrap F : Request n κ)) w
      ((answer handlers (.simulateTrap F)).runFrom w).2 := by
  have taken := changesOnly_takeTrap w F
  have dispatched := changesOnly_dispatch calm ((busy_takeTrap w .global .global F).trans idle)
    (w.context F).cause F
  have moved : (w.takeTrap .global F).movedOn .global (w.context F).cause
      ((w.takeTrap .global F).context F) = w.suspended F (.simulateTrap F : Request n κ) := by
    rw [taken.context, movedOn, dispatcher_takeTrap]
    rfl
  rw [moved] at dispatched
  have both := taken.trans dispatched
  have returned := changesOnly_returnTo
    ((answer handlers (.dispatch .global (w.context F).cause F)).runFrom (w.takeTrap .global F)).2 F
    ((answer handlers (.dispatch .global (w.context F).cause F)).runFrom (w.takeTrap .global F)).1
  rw [both.context] at returned
  rw [answer_simulateTrap_snd handlers h]
  exact both.trans returned

theorem changesOnly_answer (calm : handlers.Calm) (idle : ∀ s, w.busy s = false)
    {r : Request n κ} (handed : r.traps? = some F) :
    ChangesOnly F (w.suspended F r) w ((answer handlers r).runFrom w).2 := by
  cases r with
  | dispatch s cause frame =>
    obtain rfl : frame = F := Option.some.inj handed
    exact changesOnly_dispatch calm (idle s) cause frame
  | handle s frame =>
    by_cases null : frame = 0
    · rw [Request.traps?, if_pos null] at handed
      cases handed
    · rw [Request.traps?, if_neg null] at handed
      obtain rfl : frame = F := Option.some.inj handed
      rw [runFrom_answer_handle, if_neg null]
      exact changesOnly_dispatch calm (idle s) (w.context frame).cause frame
  | simulateTrap frame =>
    by_cases null : frame = 0
    · rw [Request.traps?, if_pos null] at handed
      cases handed
    · rw [Request.traps?, if_neg null] at handed
      obtain rfl : frame = F := Option.some.inj handed
      exact changesOnly_simulateTrap calm (idle .global) null
  | _ => cases handed

theorem answer_yieldNow_snd (handlers : Handlers n κ) (w : World H n κ) :
    ((answer handlers .yieldNow).runFrom w).2 =
      { ((answer handlers (.simulateTrap w.yieldFrame)).runFrom
          (w.pushed w.yieldFrame w.yieldContext)).2 with stack := w.stack } :=
  congrArg Prod.snd (runFrom_yieldWith _ w)

theorem context_yieldNow_of_apart (calm : handlers.Calm) (idle : w.busy .global = false)
    (apart : Frame.Apart w.yieldFrame F) :
    ((answer handlers .yieldNow).runFrom w).2.context F = w.context F := by
  have pushed : (w.pushed w.yieldFrame w.yieldContext).context F = w.context F :=
    w.memory.context_setContext_apart _ apart
  have idle' : (w.pushed w.yieldFrame w.yieldContext).busy .global = false := idle
  rw [answer_yieldNow_snd, ← pushed]
  generalize w.pushed w.yieldFrame w.yieldContext = v at idle'
  by_cases null : w.yieldFrame = 0
  · have refused : (answer handlers (.simulateTrap 0)).runFrom v = (.error .noFrame, v) := rfl
    rw [null, refused]
    rfl
  · exact (changesOnly_simulateTrap calm idle' null).apart apart

/-- A request delivers no trap, or hands over a frame, or is a yield, or does nothing, because it
has no frame to hand over. -/
theorem answer_cases (handlers : Handlers n κ) (r : Request n κ) (w : World H n κ) :
    r.deliversTrap = false ∨ (∃ F, r.traps? = some F) ∨ r = .yieldNow ∨
      ((answer handlers r).runFrom w).2 = w := by
  cases r with
  | dispatch s cause frame => exact .inr (.inl ⟨frame, rfl⟩)
  | handle s frame =>
    by_cases null : frame = 0
    · subst null
      exact .inr (.inr (.inr rfl))
    · exact .inr (.inl ⟨frame, if_neg null⟩)
  | simulateTrap frame =>
    by_cases null : frame = 0
    · subst null
      exact .inr (.inr (.inr rfl))
    · exact .inr (.inl ⟨frame, if_neg null⟩)
  | yieldNow => exact .inr (.inr (.inl rfl))
  | _ => exact .inl rfl

theorem stack_answer (calm : handlers.Calm) (idle : ∀ s, w.busy s = false) (r : Request n κ) :
    ((answer handlers r).runFrom w).2.stack = w.stack := by
  obtain quiet | ⟨F, handed⟩ | rfl | nothing := answer_cases handlers r w
  · rw [answer_snd_of_quiet handlers quiet, stack_settle quiet]
  · exact (changesOnly_answer calm idle handed).stack
  · rw [answer_yieldNow_snd]
  · rw [nothing]

theorem context_answer_of_apart (calm : handlers.Calm) (idle : ∀ s, w.busy s = false)
    {r : Request n κ} (out : r.LeavesOut w.yieldFrame F) :
    ((answer handlers r).runFrom w).2.context F = w.context F := by
  obtain quiet | ⟨G, handed⟩ | rfl | nothing := answer_cases handlers r w
  · have stores : r.stores? w.yieldFrame = (Act.request r).stores? := by
      cases r <;> first | rfl | cases quiet
    have lawful : (Act.request r).Lawful w [] := quiet
    rw [answer_snd_of_quiet handlers quiet]
    exact context_effect_of_apart lawful fun a h => out a (stores.trans h)
  · have stores : r.stores? w.yieldFrame = some G := by
      cases r <;> first | exact congrArg (Option.or · none) handed | cases handed
    exact (changesOnly_answer calm idle handed).apart (out G stores)
  · exact context_yieldNow_of_apart calm (idle .global) (out _ rfl)
  · rw [nothing]

/-! ## Runs -/

theorem busy_answer (handlers : Handlers n κ) (r : Request n κ) (s : SystemId n) :
    ((answer handlers r).runFrom w).2.busy s = w.busy s :=
  keepsMarks_answerWith (keepsMarks_deliver handlers (n + 1)) r w s

theorem idle_perform (handlers : Handlers n κ) (rs : List (Request n κ))
    (idle : ∀ s, w.busy s = false) (s : SystemId n) : (perform handlers rs w).busy s = false := by
  induction rs generalizing w with
  | nil => exact idle s
  | cons r rs ih => exact ih fun t => (busy_answer handlers r t).trans (idle t)

theorem yieldFrame_answer (calm : handlers.Calm) (idle : ∀ s, w.busy s = false)
    (r : Request n κ) : ((answer handlers r).runFrom w).2.yieldFrame = w.yieldFrame :=
  congrArg (· - Frame.size.toUInt64) (stack_answer calm idle r)

/-- What every request of a run keeps is kept, where a yield would push its frame at the same
place all the time. -/
theorem perform_invariant {P : World H n κ → Prop} (calm : handlers.Calm)
    (idle : ∀ s, w.busy s = false) {rs : List (Request n κ)}
    (step : ∀ r ∈ rs, ∀ v : World H n κ, (∀ s, v.busy s = false) → v.yieldFrame = w.yieldFrame →
      P v → P ((answer handlers r).runFrom v).2)
    (start : P w) : P (perform handlers rs w) := by
  induction rs generalizing w with
  | nil => exact start
  | cons r rs ih =>
    have same := yieldFrame_answer calm idle r
    refine ih (fun s => (busy_answer handlers r s).trans (idle s)) ?_
      (step r List.mem_cons_self w idle rfl start)
    intro q hq v idle' place
    exact step q (List.mem_cons_of_mem r hq) v idle' (place.trans same)

theorem context_perform_of_apart (calm : handlers.Calm) (idle : ∀ s, w.busy s = false)
    {rs : List (Request n κ)} (out : ∀ r ∈ rs, r.LeavesOut w.yieldFrame F) :
    (perform handlers rs w).context F = w.context F := by
  refine perform_invariant (P := fun v => v.context F = w.context F) calm idle ?_ rfl
  intro r hr v idle' place kept
  rw [← kept]
  refine context_answer_of_apart calm idle' ?_
  rw [place]
  exact out r hr

theorem context_perform_of_traps (calm : handlers.Calm) (idle : ∀ s, w.busy s = false)
    {r : Request n κ} {rs : List (Request n κ)} (handed : r.traps? = some F)
    (out : ∀ q ∈ rs, q.LeavesOut w.yieldFrame F) :
    (perform handlers (r :: rs) w).context F = w.suspended F r := by
  have suspended := (changesOnly_answer calm idle handed).context
  rw [perform, ← suspended]
  refine context_perform_of_apart calm (fun s => (busy_answer handlers r s).trans (idle s)) ?_
  intro q hq
  rw [yieldFrame_answer calm idle]
  exact out q hq

theorem suspended_registers (w : World H n κ) (F : Word) (r : Request n κ) :
    (w.suspended F r).gpr = (w.context F).gpr ∧
      (w.suspended F r).mcause = (w.context F).mcause := by
  cases r <;> exact ⟨rfl, rfl⟩

/-- A frame that is trapped or left out, again and again, keeps its registers. -/
theorem registers_perform (calm : handlers.Calm) (idle : ∀ s, w.busy s = false)
    {rs : List (Request n κ)}
    (out : ∀ r ∈ rs, r.traps? = some F ∨ r.LeavesOut w.yieldFrame F) :
    ((perform handlers rs w).context F).gpr = (w.context F).gpr ∧
      ((perform handlers rs w).context F).mcause = (w.context F).mcause := by
  refine perform_invariant (P := fun v =>
    (v.context F).gpr = (w.context F).gpr ∧ (v.context F).mcause = (w.context F).mcause)
    calm idle ?_ ⟨rfl, rfl⟩
  rintro r hr v idle' place ⟨gpr, mcause⟩
  rw [← gpr, ← mcause]
  rcases out r hr with handed | apart
  · rw [(changesOnly_answer calm idle' handed).context]
    exact suspended_registers v F r
  · rw [← place] at apart
    rw [context_answer_of_apart calm idle' apart]
    exact ⟨rfl, rfl⟩

/-- What requests do to the contexts in frames, from a state on. -/
structure KeepsSuspended (handlers : Handlers n κ) (w : World H n κ) : Prop where
  /-- A frame that is apart from the one that a request is handed stays as it is. -/
  untouched : ∀ r F, r.LeavesOut w.yieldFrame F →
    ((answer handlers r).runFrom w).2.context F = w.context F
  /-- In the frame handed over, at most the resume address and the status change. -/
  handed : ∀ r F, r.traps? = some F →
    ((answer handlers r).runFrom w).2.context F = w.suspended F r
  /-- Without a frame nothing happens. -/
  null : (∀ s, (answer handlers (.handle s 0)).runFrom w = (.error .noFrame, w)) ∧
    (answer handlers (.simulateTrap 0)).runFrom w = (.error .noFrame, w)
  /-- However often a frame is trapped, and other frames are, its registers and its cause stay. -/
  registers : ∀ rs F, (∀ q ∈ rs, q.traps? = some F ∨ q.LeavesOut w.yieldFrame F) →
    let left := perform handlers rs w
    (left.context F).gpr = (w.context F).gpr ∧ (left.context F).mcause = (w.context F).mcause
  /-- A context that is suspended and left out of the requests that follow stays as it was
  suspended. -/
  kept : ∀ r F rs, r.traps? = some F → (∀ q ∈ rs, q.LeavesOut w.yieldFrame F) →
    (perform handlers (r :: rs) w).context F = w.suspended F r
  /-- So it resumes, when another trap returns to it in the end. -/
  resumed : ∀ r F rs G u, r.traps? = some F → (∀ q ∈ rs, q.LeavesOut w.yieldFrame F) →
    Frame.Apart G F →
    (answer handlers (.simulateTrap G)).runFrom (perform handlers (r :: rs) w) = (.ok F, u) →
    u.context F = w.suspended F r

/-- From start-up on, with handlers that store no context and deliver no trap, but may return any
frame, or none, or fail, a request changes no frame but the one that it is handed, and a suspended
context is kept until it is resumed. -/
theorem keepsSuspended_perform (handlers : Handlers n κ) (calm : handlers.Calm) (code : CodeMap)
    (hart : H) (stack : Word) (kernel : κ) (rs : List (Request n κ)) :
    KeepsSuspended handlers (perform handlers rs (boot code hart n stack kernel)) := by
  have start : ∀ s, (boot code hart n stack kernel).busy s = false := by
    intro s
    rw [busy, dispatcher_boot]
    rfl
  have idle := idle_perform handlers rs start
  generalize perform handlers rs (boot code hart n stack kernel) = w at idle
  refine ⟨?_, ?_, ⟨fun _ => rfl, rfl⟩, ?_, ?_, ?_⟩
  · intro r F out
    exact context_answer_of_apart calm idle out
  · intro r F handed
    exact (changesOnly_answer calm idle handed).context
  · intro rs F out
    exact registers_perform calm idle out
  · intro r F rs handed out
    exact context_perform_of_traps calm idle handed out
  · intro r F rs G u handed out apart ended
    -- the trap that returns to the frame leaves it out, too
    have out' : ∀ q ∈ rs ++ [.simulateTrap G], q.LeavesOut w.yieldFrame F := by
      intro q hq
      rcases List.mem_append.mp hq with hq | hq
      · exact out q hq
      · rw [List.mem_singleton.mp hq]
        exact leavesOut_simulateTrap apart
    have whole := context_perform_of_traps calm idle handed out'
    rw [← List.cons_append, perform_append, perform, ended] at whole
    exact whole

/-- A thread is prepared, and the code that runs first is about to make a call. -/
def beforeCall : List (Request 0 Unit) :=
  [.init .global .masking ⟨0⟩ 0, .setInterrupts .global true,
    .newThread .global threadStack 0x1000 7, .setContext mainFrame (.calling 1 0x80000100)]

/-- The call suspends the code until the thread is trapped, and the code resumes behind it. -/
theorem keepsSuspended_beforeCall :
    let w := perform switching beforeCall atStart
    switching.Calm ∧ (.simulateTrap threadFrame : Request 0 Unit).LeavesOut w.yieldFrame mainFrame ∧
      (perform switching [.simulateTrap mainFrame, .simulateTrap threadFrame] w).context mainFrame =
        { Context.calling 1 0x80000100 with
          mstatus := Status.mppMachine ||| Status.mpie
          mepc := 0x80000104 } := by
  have calm : switching.Calm := fun _ _ _ => trivial
  have out : (.simulateTrap threadFrame : Request 0 Unit).LeavesOut
      (perform switching beforeCall atStart).yieldFrame mainFrame :=
    leavesOut_simulateTrap (by decide)
  have keeps := keepsSuspended_perform switching calm .standard SimulatedHart.reset 0x80130000 ()
    beforeCall
  have kept := keeps.kept (.simulateTrap mainFrame) mainFrame [.simulateTrap threadFrame]
    (by decide) fun q hq => by
      rw [List.mem_singleton.mp hq]
      exact out
  exact ⟨calm, out, kept.trans (by decide +kernel)⟩

end World

end HartLayer
