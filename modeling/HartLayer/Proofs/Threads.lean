import HartLayer.Proofs.FatalTraps
import HartLayer.Proofs.ThreadFrames

/-!
# Threads that do not interfere

The frame of a new thread lies in its stack, wherever the stack begins and ends, so threads whose
stacks share no address have frames apart.

* As long as nothing is stored on its stack, the frame of a thread that has never run has what was
  stored when the thread was prepared (`Prepared.context_eq`).
* Entering such a frame is then calling the entry of its thread with its argument, at any moment
  and as often as it is done (`ThreadsKept`).
-/

namespace HartLayer

variable {H κ α : Type} {n : Nat}

/-! ## Threads that are prepared, and what spares their stacks -/

/-- A thread that has never run. -/
structure Thread where
  stack : Area
  entry : Word
  arg : Word
  policy : InterruptPolicy
  deriving DecidableEq, Repr

namespace Act

def prepares? (w : World H n κ) : Act n κ → Option Thread
  | request (.newThread s stack entry arg) =>
    some ⟨stack, entry, arg, (w.system s).config.interrupts⟩
  | request (.newThreadUnder policy stack entry arg) => some ⟨stack, entry, arg, policy⟩
  | _ => none

/-- Whether an act leaves an area alone: the frames in which it stores lie outside of it, and the
thread that it prepares has a stack apart from it. -/
def spares (x : Act n κ) (area : Area) : Bool :=
  match x with
  | request (.newThread _ stack _ _) | request (.newThreadUnder _ stack _ _) => area.Apart stack
  | request (.setContext F _) | push F _ | take F => area.Misses F
  | enter a _ => area.Misses a.frame
  | _ => true

theorem misses_of_spares {x : Act n κ} {area : Area} {F : Word} (spares : x.spares area = true)
    (stores : x.stores? = some F) : area.Misses F := by
  cases x with
  | request r =>
    cases r with
    | setContext a c =>
      cases stores
      simpa only [Act.spares, decide_eq_true_iff] using spares
    | newThread _ stack _ _ | newThreadUnder _ stack _ _ =>
      rw [Act.spares, decide_eq_true_iff] at spares
      exact (KernelThread.holds_of_frame? stores).misses spares
    | _ => cases stores
  | push _ _ | take _ | enter _ _ =>
    cases stores
    simpa only [Act.spares, decide_eq_true_iff] using spares
  | _ => cases stores

end Act

namespace World

variable [Hart H]

/-- In a list of acts a thread is prepared in a frame, and what comes then leaves its stack alone.
So the stacks of threads that are prepared later are apart from it. -/
def Prepared (w : World H n κ) (acts : List (Act n κ)) (p : Thread) (F : Word) : Prop :=
  KernelThread.frame? p.stack = some F ∧
    ∃ before x rest, acts = before ++ x :: rest ∧ x.prepares? (w.after before) = some p ∧
      ∀ y ∈ rest, y.spares p.stack = true

/-- The context in which a thread is prepared. -/
def initialContext (w : World H n κ) (p : Thread) (F : Word) : Context :=
  KernelThread.initialContext (w.code.address .threadExit) F p.entry p.arg p.policy

/-! ## The frame of a thread that has never run -/

section Kept

variable {w : World H n κ} {calls : List (Invocation n)} {acts : List (Act n κ)} {p : Thread}
  {F : Word}

theorem code_settle (r : Request n κ) (quiet : r.deliversTrap = false) (w : World H n κ) :
    (w.settle r).code = w.code := by
  have prepared (policy : InterruptPolicy) (stack : Area) (entry arg : Word) :
      ((newThread policy stack entry arg).runFrom w).2.code = w.code := by
    rw [runFrom_newThread]
    split <;> rfl
  cases r with
  | dispatch _ _ _ | handle _ _ | simulateTrap _ | yieldNow => cases quiet
  | newThread s stack entry arg => exact prepared _ stack entry arg
  | newThreadUnder policy stack entry arg => exact prepared policy stack entry arg
  | _ => rfl

theorem code_effect {x : Act n κ} (lawful : x.Lawful w calls) : (x.effect w).code = w.code := by
  cases x with
  | request r => exact code_settle r lawful w
  | enter a call => exact (opening_snd_kept w a call.handler).1
  | _ => rfl

theorem code_after (lawful : LawfulFrom w calls acts) : (w.after acts).code = w.code := by
  refine lawful.invariant (P := fun v _ => v.code = w.code) ?_ rfl
  intro v calls x allowed same
  exact (code_effect allowed).trans same

theorem effect_of_prepares? {x : Act n κ} (prepares : x.prepares? w = some p) :
    x.effect w = ((newThread p.policy p.stack p.entry p.arg).runFrom w).2 := by
  unfold Act.prepares? at prepares
  split at prepares <;> first | (cases prepares; rfl) | cases prepares

theorem context_effect_of_prepares? {x : Act n κ} (prepares : x.prepares? w = some p)
    (frame : KernelThread.frame? p.stack = some F) :
    (x.effect w).context F = w.initialContext p F := by
  rw [effect_of_prepares? prepares]
  exact context_newThread frame p.entry p.arg w

theorem context_after_of_spares (inside : p.stack.Holds F) (lawful : LawfulFrom w calls acts)
    (spared : ∀ y ∈ acts, y.spares p.stack = true) : (w.after acts).context F = w.context F := by
  refine context_after_of_apart lawful fun a mem => ?_
  obtain ⟨y, hy, stores⟩ := List.mem_filterMap.mp mem
  exact inside.apart (Act.misses_of_spares (spared y hy) stores)

theorem Prepared.context_eq (h : w.Prepared acts p F) (lawful : LawfulFrom w calls acts) :
    (w.after acts).context F = w.initialContext p F := by
  obtain ⟨frame, before, x, rest, rfl, prepares, spared⟩ := h
  obtain ⟨first, -, later⟩ := lawfulFrom_append.mp lawful
  rw [after_append, after_cons,
    context_after_of_spares (KernelThread.holds_of_frame? frame) later spared,
    context_effect_of_prepares? prepares frame, initialContext, code_after first]
  rfl

end Kept

/-! ## Lists of scripts -/

section Scripts

variable (handlers : Handlers n κ)

def scriptHistory (p : Script n κ α) (w : World H n κ) : List (Act n κ) :=
  scriptActs (answer handlers)
    (requestActs (deliver handlers (n + 1)) (arrivalActs handlers (n + 1))) p w

/-- The state after a list of scripts, each run also if the ones before failed. -/
def execAll : List (Script n κ Unit) → World H n κ → World H n κ
  | [], w => w
  | p :: ps, w => execAll ps ((exec handlers p).runFrom w).2

/-- What happens during a list of scripts. -/
def histories : List (Script n κ Unit) → World H n κ → List (Act n κ)
  | [], _ => []
  | p :: ps, w => scriptHistory handlers p w ++ histories ps ((exec handlers p).runFrom w).2

theorem trail_histories (ps : List (Script n κ Unit)) (w : World H n κ) :
    Trail handlers w (histories handlers ps w) ∧
      w.after (histories handlers ps w) = execAll handlers ps w := by
  induction ps generalizing w with
  | nil => exact ⟨.nil w, rfl⟩
  | cons p ps ih =>
    obtain ⟨first, reached⟩ := records_exec handlers p w
    obtain ⟨rest, ended⟩ := ih ((exec handlers p).runFrom w).2
    rw [histories, execAll, after_append, scriptHistory, reached]
    refine ⟨first.append ?_, ended⟩
    rw [reached]
    exact rest

theorem execAll_append (first second : List (Script n κ Unit)) (w : World H n κ) :
    execAll handlers (first ++ second) w = execAll handlers second (execAll handlers first w) := by
  induction first generalizing w with
  | nil => rfl
  | cons p first ih => exact ih _

end Scripts

/-! ## Entering threads -/

section Enter

variable {handlers : Handlers n κ} {w v : World H n κ} {p : Thread} {F : Word}

/-- A frame that has what was stored when its thread was prepared is read, and the entry of the
thread is called. -/
theorem enter_of_context (same : v.context F = w.initialContext p F)
    (code : Word → Word → Script n κ Unit) :
    (exec handlers (Script.enter code F)).runFrom v =
        (exec handlers (code p.entry p.arg)).runFrom v ∧
      scriptHistory handlers (Script.enter code F) v =
        .request (.context F) :: scriptHistory handlers (code p.entry p.arg) v := by
  have read : (exec handlers (Script.enter code F)).runFrom v =
      (exec handlers (code (v.context F).mepc (v.context F).a0)).runFrom v := rfl
  have acts : scriptHistory handlers (Script.enter code F) v =
      .request (.context F) ::
        scriptHistory handlers (code (v.context F).mepc (v.context F).a0) v := rfl
  rw [read, acts, same, initialContext, KernelThread.a0_initialContext]
  exact ⟨rfl, rfl⟩

theorem execAll_enter {code : Word → Word → Script n κ Unit} {threads : List (Thread × Word)}
    (kept : ∀ q ∈ threads, q.1.stack.Holds q.2 ∧ v.context q.2 = w.initialContext q.1 q.2)
    (spared : ∀ q ∈ threads, ∀ y ∈ histories handlers
      (threads.map fun q => Script.enter code q.2) v, y.spares q.1.stack = true) :
    execAll handlers (threads.map fun q => Script.enter code q.2) v =
      execAll handlers (threads.map fun q => code q.1.entry q.1.arg) v := by
  induction threads generalizing v with
  | nil => rfl
  | cons q threads ih =>
    obtain ⟨trail, reached⟩ := records_exec handlers (Script.enter code q.2) v
    rw [List.map_cons, List.map_cons, execAll, execAll,
      ← (enter_of_context (kept q List.mem_cons_self).2 code).1]
    refine ih (fun r mem => ?_) fun r mem y happened => ?_
    · obtain ⟨inside, same⟩ := kept r (List.mem_cons_of_mem q mem)
      refine ⟨inside, ?_⟩
      rw [← reached, context_after_of_spares inside (trail.lawfulFrom []) fun y happened => ?_,
        same]
      exact spared r (List.mem_cons_of_mem q mem) y (List.mem_append_left _ happened)
    · exact spared r (List.mem_cons_of_mem q mem) y (List.mem_append_right _ happened)

end Enter

/-- What holds of the threads that are prepared while a list of scripts runs. -/
structure ThreadsKept (handlers : Handlers n κ) (ps : List (Script n κ Unit)) (w : World H n κ) :
    Prop where
  /-- A stack of the least size is enough: the thread is prepared, with a frame in its stack. -/
  made : ∀ {before x rest p}, histories handlers ps w = before ++ x :: rest →
    x.prepares? (w.after before) = some p → KernelThread.minStackSize ≤ p.stack.size →
    ∃ F, p.stack.Holds F ∧ w.Prepared (before ++ [x]) p F ∧
      (newThread p.policy p.stack p.entry p.arg).runFrom (w.after before) =
        (.ok F, w.after (before ++ [x]))
  /-- Ever after, the frame has what was stored then. -/
  kept : ∀ {pre p F}, pre <+: histories handlers ps w → w.Prepared pre p F →
    (w.after pre).context F = w.initialContext p F
  /-- Ever after, entering the frame is calling the entry of the thread with its argument: the frame
  is read, and then nothing happens but what the entry does. -/
  entered : ∀ {pre p F}, pre <+: histories handlers ps w → w.Prepared pre p F →
    ∀ code : Word → Word → Script n κ Unit,
    (exec handlers (Script.enter code F)).runFrom (w.after pre) =
        (exec handlers (code p.entry p.arg)).runFrom (w.after pre) ∧
      scriptHistory handlers (Script.enter code F) (w.after pre) =
        .request (.context F) :: scriptHistory handlers (code p.entry p.arg) (w.after pre)
  /-- Frames that are entered one after the other, in any order and any number of times, call the
  entries of their threads in that order. -/
  resumed : ∀ (code : Word → Word → Script n κ Unit) (threads : List (Thread × Word)),
    (∀ q ∈ threads, w.Prepared (histories handlers ps w) q.1 q.2) →
    (∀ q ∈ threads, ∀ y ∈ histories handlers (threads.map fun q => Script.enter code q.2)
      (execAll handlers ps w), y.spares q.1.stack = true) →
    execAll handlers (ps ++ threads.map fun q => Script.enter code q.2) w =
      execAll handlers (ps ++ threads.map fun q => code q.1.entry q.1.arg) w

/-- Threads on stacks that share no address do not interfere, whatever scripts run, as long as
nobody stores on the stacks. -/
theorem threadsKept_histories (handlers : Handlers n κ) (ps : List (Script n κ Unit))
    (w : World H n κ) :
    ThreadsKept handlers ps w ∧ w.after (histories handlers ps w) = execAll handlers ps w := by
  obtain ⟨trail, reached⟩ := trail_histories handlers ps w
  have lawful := trail.lawfulFrom []
  have kept : ∀ {pre p F}, pre <+: histories handlers ps w → w.Prepared pre p F →
      (w.after pre).context F = w.initialContext p F :=
    fun hp prepared => prepared.context_eq (lawful.upTo hp)
  refine ⟨⟨?_, kept, fun hp prepared => enter_of_context (kept hp prepared), ?_⟩, reached⟩
  · intro before x rest p split prepares large
    obtain ⟨F, frame⟩ := KernelThread.frame?_of_minStackSize_le large
    refine ⟨F, KernelThread.holds_of_frame? frame,
      ⟨frame, before, x, [], rfl, prepares, by simp⟩, ?_⟩
    rw [after_append, after_cons, after_nil, effect_of_prepares? prepares, runFrom_newThread,
      KernelThread.prepare_of_frame?_some frame]
  · intro code threads prepared spared
    have frames : ∀ q ∈ threads, q.1.stack.Holds q.2 ∧
        (execAll handlers ps w).context q.2 = w.initialContext q.1 q.2 := by
      intro q mem
      rw [← reached]
      exact ⟨KernelThread.holds_of_frame? (prepared q mem).1,
        kept (List.prefix_refl _) (prepared q mem)⟩
    rw [execAll_append, execAll_append, execAll_enter frames spared]

/-! ## Two threads on stacks that touch -/

/-- A thread on a stack that neither begins nor ends at a multiple of 16. -/
def lowThread : Thread := ⟨⟨0x80110003, 0x80110803⟩, 0x1000, 7, .masking⟩

/-- A thread on the stack that begins where that one ends. -/
def highThread : Thread := ⟨⟨0x80110803, 0x80111000⟩, 0x2000, 8, .masking⟩

/-- Every trap ends with the frame of the low thread. -/
def handingOut : Handlers 0 (List (Word × Word)) := fun _ _ _ => .done (some 0x801106e0)

def recording (entry arg : Word) : Script 0 (List (Word × Word)) Unit :=
  Script.onKernel (· ++ [(entry, arg)])

def twoThreads : List (Script 0 (List (Word × Word)) Unit) :=
  let thread (p : Thread) : Script 0 (List (Word × Word)) Unit :=
    Program.ask (.newThread .global p.stack p.entry p.arg) fun _ => .done ()
  [Script.ask (.init .global .masking ⟨0⟩ 0), thread lowThread, thread highThread,
    Program.ask (.simulateTrap mainFrame) fun _ => .done ()]

def beforeThreads : World SimulatedHart 0 (List (Word × Word)) :=
  boot .standard .reset 0 0x80130000 []

theorem threadsKept_highLowHigh :
    let threads := [(highThread, threadFrame), (lowThread, 0x801106e0), (highThread, threadFrame)]
    let acts := histories handingOut twoThreads beforeThreads
    (∀ q ∈ threads, beforeThreads.Prepared acts q.1 q.2) ∧
      (execAll handingOut (twoThreads ++ threads.map fun q => Script.enter recording q.2)
        beforeThreads).kernel = [(0x2000, 8), (0x1000, 7), (0x2000, 8)] := by
  intro threads acts
  have low : beforeThreads.Prepared acts lowThread 0x801106e0 :=
    ⟨by decide +kernel, [.request (.init .global .masking ⟨0⟩ 0)], _, acts.drop 2, rfl, rfl,
      by decide +kernel⟩
  have high : beforeThreads.Prepared acts highThread threadFrame :=
    ⟨by decide +kernel, [.request (.init .global .masking ⟨0⟩ 0),
      .request (.newThread .global lowThread.stack lowThread.entry lowThread.arg)], _,
      acts.drop 3, rfl, rfl, by decide +kernel⟩
  have prepared : ∀ q ∈ threads, beforeThreads.Prepared acts q.1 q.2 := by
    simp [threads, low, high]
  refine ⟨prepared, ?_⟩
  rw [(threadsKept_histories handingOut twoThreads beforeThreads).1.resumed recording threads
    prepared (by decide +kernel)]
  decide +kernel

end World

end HartLayer
