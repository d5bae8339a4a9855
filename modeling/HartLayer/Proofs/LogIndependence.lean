import HartLayer.Proofs.SavedStatus
import HartLayer.Proofs.TrapLog

/-!
# The log never sways delivery

A kernel may hold the log of a system at any moment, also inside handlers. Compared with the run in
which nobody ever holds a log (`Handlers.withoutHolds`), everything else is the same.

* States that differ in logs, in their locks and in the console only are `SameButLogs`, and every
  act keeps that (`SameButLogs.effect`).
* Computations that take such states to such states, with the same outcome and the same acts, are
  `Mirrors` of each other. Dispatches, requests and scripts are, one lemma for each
  (`mirrors_dispatchWith`, `mirrors_answerWith`, `mirrors_run`), and so are traps at any depth
  (`mirrors_deliver`), and hence whole histories.
-/

namespace HartLayer

variable {H κ α : Type} {n : Nat}

/-! ## Runs in which no log is held -/

def Request.isHold : Request n κ → Bool
  | holdLog _ _ => true
  | _ => false

/-- The requests of a list that take or release no log. -/
def Request.withoutHolds (rs : List (Request n κ)) : List (Request n κ) :=
  rs.filter fun r => !r.isHold

def Request.readsLog : Request n κ → Bool
  | unknownTraps _ => true
  | _ => false

def Act.isHold : Act n κ → Bool
  | request r => r.isHold
  | _ => false

/-- The acts of a list that take or release no log. -/
def Act.withoutHolds (acts : List (Act n κ)) : List (Act n κ) := acts.filter fun x => !x.isHold

/-- The script without its requests to take or release a log. -/
def Script.withoutHolds : Script n κ α → Script n κ α
  | .done a => .done a
  | .fail e => .fail e
  | Program.ask (.holdLog _ _) next => withoutHolds (next ())
  | Program.ask r next => Program.ask r fun x => withoutHolds (next x)

/-- The handlers without their requests to take or release a log. -/
def Handlers.withoutHolds (handlers : Handlers n κ) : Handlers n κ := fun h event frame =>
  (handlers h event frame).withoutHolds

theorem Script.withoutHolds_ask {r : Request n κ} (other : r.isHold = false)
    (next : r.Answer → Script n κ α) :
    Script.withoutHolds (Program.ask r next) = Program.ask r fun x => withoutHolds (next x) := by
  cases r with
  | holdLog s held => cases other
  | _ => rfl

namespace Act

theorem withoutHolds_cons {x : Act n κ} (other : x.isHold = false) (acts : List (Act n κ)) :
    withoutHolds (x :: acts) = x :: withoutHolds acts :=
  List.filter_cons_of_pos (by rw [other]; rfl)

theorem withoutHolds_append (first second : List (Act n κ)) :
    withoutHolds (first ++ second) = withoutHolds first ++ withoutHolds second :=
  List.filter_append first second

theorem invocations_withoutHolds (acts : List (Act n κ)) :
    invocations (withoutHolds acts) = invocations acts := by
  rw [invocations, withoutHolds, List.filterMap_filter]
  refine List.filterMap_congr fun x _ => ?_
  cases x <;> simp [isHold, invocation?]

theorem held_of_withoutHolds {acts pre : List (Act n κ)} (hp : pre <+: withoutHolds acts)
    (s : SystemId n) : held s pre = false := by
  have none : pre.filterMap (holds? s) = [] := by
    rw [List.filterMap_eq_nil_iff]
    intro x mem
    have other := (List.mem_filter.mp (hp.subset mem)).2
    cases x with
    | request r =>
      cases r with
      | holdLog _ _ => cases other
      | _ => rfl
    | _ => rfl
  rw [held, none]
  rfl

end Act

/-! ## States that differ in their logs only -/

/-- A trap system with an empty log that is free. -/
def TrapSystem.withoutLog (t : TrapSystem H) : TrapSystem H :=
  { t with dispatcher := { t.dispatcher with log := .empty, logHeld := false } }

namespace World

/-- States that differ in logs, in their locks and in the console only. -/
structure SameButLogs (w v : World H n κ) : Prop where
  code : v.code = w.code
  memory : v.memory = w.memory
  stack : v.stack = w.stack
  journal : v.journal = w.journal
  kernel : v.kernel = w.kernel
  system : ∀ s, (v.system s).withoutLog = (w.system s).withoutLog

namespace SameButLogs

variable {u v w : World H n κ}

theorem refl (w : World H n κ) : SameButLogs w w := ⟨rfl, rfl, rfl, rfl, rfl, fun _ => rfl⟩

theorem symm (h : SameButLogs w v) : SameButLogs v w :=
  ⟨h.code.symm, h.memory.symm, h.stack.symm, h.journal.symm, h.kernel.symm,
    fun s => (h.system s).symm⟩

theorem trans (first : SameButLogs w v) (second : SameButLogs v u) : SameButLogs w u :=
  ⟨second.code.trans first.code, second.memory.trans first.memory,
    second.stack.trans first.stack, second.journal.trans first.journal,
    second.kernel.trans first.kernel, fun s => (second.system s).trans (first.system s)⟩

theorem hart (h : SameButLogs w v) (s : SystemId n) : (v.system s).hart = (w.system s).hart := by
  have same := congrArg TrapSystem.hart (h.system s)
  exact same

theorem config (h : SameButLogs w v) (s : SystemId n) :
    (v.system s).config = (w.system s).config := by
  have same := congrArg TrapSystem.config (h.system s)
  exact same

theorem handler (h : SameButLogs w v) (s : SystemId n) :
    (v.dispatcher s).handler = (w.dispatcher s).handler := by
  have same := congrArg (fun t => t.dispatcher.handler) (h.system s)
  exact same

theorem busy (h : SameButLogs w v) (s : SystemId n) : v.busy s = w.busy s := by
  have same := congrArg (fun t => t.dispatcher.dispatching) (h.system s)
  exact same

theorem delivered (h : SameButLogs w v) (s : SystemId n) :
    (v.dispatcher s).delivered = (w.dispatcher s).delivered := by
  have same := congrArg (fun t => t.dispatcher.delivered) (h.system s)
  exact same

theorem context (h : SameButLogs w v) (frame : Word) : v.context frame = w.context frame := by
  rw [World.context, World.context, h.memory]

theorem onSystem (h : SameButLogs w v) (s : SystemId n) {f g : TrapSystem H → TrapSystem H}
    (same : (g (v.system s)).withoutLog = (f (w.system s)).withoutLog) :
    SameButLogs (w.onSystem s f) (v.onSystem s g) := by
  refine { h with system := fun t => ?_ }
  rw [system_onSystem, system_onSystem]
  by_cases e : s = t
  · subst e
    rw [if_pos rfl, if_pos rfl]
    exact same
  · rw [if_neg e, if_neg e]
    exact h.system t

theorem print (w : World H n κ) (text : String) : SameButLogs w (w.print text) :=
  { refl w with }

/-- A change that does not look at the log. -/
theorem change (h : SameButLogs w v) (s : SystemId n) (f : TrapSystem H → TrapSystem H)
    (blind : ∀ t, (f t).withoutLog = f t.withoutLog) :
    SameButLogs (w.onSystem s f) (v.onSystem s f) :=
  h.onSystem s (by rw [blind, blind, h.system])

theorem onLog (w : World H n κ) (s : SystemId n) (log : Dispatcher → TrapLog)
    (held : Dispatcher → Bool) :
    SameButLogs w (w.onDispatcher s fun d => { d with log := log d, logHeld := held d }) := by
  refine { refl w with system := fun t => ?_ }
  rw [onDispatcher, system_onSystem]
  split <;> rfl

theorem setContext (h : SameButLogs w v) (frame : Word) (c : Context) :
    SameButLogs (w.setContext frame c) (v.setContext frame c) :=
  { h with memory := congrArg (·.setContext frame c) h.memory }

theorem note (h : SameButLogs w v) (e : Entry n) : SameButLogs (w.note e) (v.note e) :=
  { h with journal := congrArg (·.push e) h.journal }

theorem counted (h : SameButLogs w v) (s : SystemId n) :
    SameButLogs (w.counted s) (v.counted s) := by
  refine { h with system := fun t => ?_ }
  rw [system_counted, system_counted]
  split
  · have same := congrArg (fun u => { u with
      dispatcher := { u.dispatcher with
        dispatching := true
        delivered := u.dispatcher.delivered + 1 } }) (h.system t)
    exact same
  · exact h.system t

theorem reported (w : World H n κ) (a : Arrival n) : SameButLogs w (w.reported a) := by
  rw [World.reported]
  cases w.unknown? a with
  | none => exact refl w
  | some u =>
    show SameButLogs w (w.logUnknown a.system u)
    dsimp only [logUnknown]
    split
    · exact (print w _).trans (print _ _)
    · exact (print w _).trans (onLog _ a.system (fun d => d.log.push u) fun d => d.logHeld)

theorem invocation (h : SameButLogs w v) (a : Arrival n) (handler : HandlerId) :
    v.invocation a handler = w.invocation a handler := by
  rw [invocation_eq, invocation_eq, h.context]

theorem opening (h : SameButLogs w v) (a : Arrival n) (handler : HandlerId) :
    SameButLogs (w.opening a.system handler a.cause a.frame).2
      (v.opening a.system handler a.cause a.frame).2 := by
  rw [opening_snd_eq, opening_snd_eq, h.invocation, h.context]
  refine SameButLogs.note (SameButLogs.setContext ?_ _ _) _
  exact (reported _ a).symm.trans ((h.counted a.system).trans (reported _ a))

theorem unmark (h : SameButLogs w v) (s : SystemId n) :
    SameButLogs (w.unmark s) (v.unmark s) :=
  h.change s (fun u => { u with dispatcher := { u.dispatcher with dispatching := false } })
    fun _ => rfl

theorem stack_eq (h : SameButLogs w v) (frame : Word) :
    SameButLogs { w with stack := frame } { v with stack := frame } :=
  { h with stack := rfl }

theorem yieldFrame (h : SameButLogs w v) : v.yieldFrame = w.yieldFrame :=
  congrArg (· - Frame.size.toUInt64) h.stack

theorem yieldContext (h : SameButLogs w v) : v.yieldContext = w.yieldContext := by
  rw [World.yieldContext, World.yieldContext, h.code]

theorem pushed (h : SameButLogs w v) (frame : Word) (c : Context) :
    SameButLogs (w.pushed frame c) (v.pushed frame c) :=
  (h.setContext frame c).stack_eq frame

variable [Hart H]

theorem takeTrap (h : SameButLogs w v) (s : SystemId n) (frame : Word) :
    SameButLogs (w.takeTrap s frame) (v.takeTrap s frame) := by
  have taken : SameButLogs
      (w.onSystem s fun u => { u with hart := (Hart.takeTrap (w.system s).hart).2 })
      (v.onSystem s fun u => { u with hart := (Hart.takeTrap (v.system s).hart).2 }) := by
    refine h.onSystem s ?_
    rw [h.hart]
    exact congrArg (fun u => { u with hart := (Hart.takeTrap (w.system s).hart).2 }) (h.system s)
  refine { taken with memory := ?_ }
  show v.memory.setStatus frame (Hart.takeTrap (v.system s).hart).1 = _
  rw [h.memory, h.hart]
  rfl

theorem returnFromTrap (h : SameButLogs w v) (s : SystemId n) (frame : Word) :
    SameButLogs (w.returnFromTrap s frame) (v.returnFromTrap s frame) := by
  refine h.onSystem s ?_
  rw [h.context]
  exact congrArg (fun u => { u with hart := Hart.returnFromTrap u.hart (w.context frame) })
    (h.system s)

omit [Hart H] in
theorem newThread (h : SameButLogs w v) (policy : InterruptPolicy) (stack : Area)
    (entry arg : Word) :
    ((World.newThread policy stack entry arg).runFrom v).1 =
      ((World.newThread policy stack entry arg).runFrom w).1 ∧
    SameButLogs ((World.newThread policy stack entry arg).runFrom w).2
      ((World.newThread policy stack entry arg).runFrom v).2 := by
  rw [runFrom_newThread, runFrom_newThread, h.code]
  cases KernelThread.prepare (w.code.address .threadExit) stack entry arg policy with
  | error e => exact ⟨rfl, h⟩
  | ok frame => exact ⟨rfl, h.setContext frame.1 frame.2⟩

theorem settle {r : Request n κ} (quiet : r.deliversTrap = false) (other : r.isHold = false)
    (h : SameButLogs w v) : SameButLogs (w.settle r) (v.settle r) := by
  cases r with
  | dispatch _ _ _ | handle _ _ | simulateTrap _ | yieldNow => cases quiet
  | holdLog _ _ => cases other
  | setContext frame c => exact h.setContext frame c
  | install s handler =>
    have same := congrArg (fun u => { u with dispatcher := (u.dispatcher.install handler).2 })
      (h.system s)
    exact h.onSystem s (f := fun u => { u with dispatcher := ((w.dispatcher s).install handler).2 })
      (g := fun u => { u with dispatcher := ((v.dispatcher s).install handler).2 }) same
  | init s config handler vector =>
    have chosen : SameButLogs (w.onSystem s fun u => u.init config handler vector)
        (v.onSystem s fun u => u.init config handler vector) := h.change s _ fun _ => rfl
    exact { chosen with }
  | setInterrupts s on => exact h.change s (fun u => u.setInterrupts on) fun _ => rfl
  | setHartInterrupts s on =>
    exact h.change s (fun u => { u with hart := Hart.setInterrupts on u.hart }) fun _ => rfl
  | setVector s target =>
    exact h.change s (fun u => { u with hart := Hart.setVector target u.hart }) fun _ => rfl
  | newThread s stack entry arg =>
    have policy : (v.system s).policy = (w.system s).policy :=
      congrArg TrapConfig.interrupts (h.config s)
    have prepared := (h.newThread (w.system s).policy stack entry arg).2
    show SameButLogs ((World.newThread (w.system s).policy stack entry arg).runFrom w).2
      ((World.newThread (v.system s).policy stack entry arg).runFrom v).2
    rw [policy]
    exact prepared
  | newThreadUnder policy stack entry arg => exact (h.newThread policy stack entry arg).2
  | note e => exact h.note e
  | setKernel k => exact { h with kernel := rfl }
  | _ => exact { h with }

theorem hold {r : Request n κ} (hold : r.isHold = true) (w : World H n κ) :
    SameButLogs w (w.settle r) := by
  cases r with
  | holdLog s held => exact onLog w s (fun d => d.log) fun _ => held
  | _ => cases hold

theorem answer {r : Request n κ} (quiet : r.deliversTrap = false) (blind : r.readsLog = false)
    (h : SameButLogs w v) (deliver : SystemId n → Cause → Word → Run H n κ Word) :
    ((answerWith deliver r).runFrom v).1 = ((answerWith deliver r).runFrom w).1 := by
  cases r with
  | dispatch _ _ _ | handle _ _ | simulateTrap _ | yieldNow => cases quiet
  | unknownTraps _ => cases blind
  | context frame => exact congrArg Except.ok (h.context frame)
  | install s _ => exact congrArg Except.ok (h.handler s)
  | interruptsEnabled s =>
    exact congrArg (fun u => Except.ok u.interruptsEnabled) (h.system s)
  | hartInterrupts s => exact congrArg (fun u => Except.ok (Hart.interruptsEnabled u)) (h.hart s)
  | vector s => exact congrArg (fun u => Except.ok (Hart.vector u)) (h.hart s)
  | config s => exact congrArg Except.ok (h.config s)
  | newThread s stack entry arg =>
    have policy : (v.system s).policy = (w.system s).policy :=
      congrArg TrapConfig.interrupts (h.config s)
    have prepared := (h.newThread (w.system s).policy stack entry arg).1
    show ((World.newThread (v.system s).policy stack entry arg).runFrom v).1 =
      ((World.newThread (w.system s).policy stack entry arg).runFrom w).1
    rw [policy]
    exact prepared
  | newThreadUnder policy stack entry arg => exact (h.newThread policy stack entry arg).1
  | delivered s => exact congrArg Except.ok (h.delivered s)
  | kernel => exact congrArg Except.ok h.kernel
  | _ => rfl

/-! ### Acts -/

variable {calls : List (Invocation n)} {x : Act n κ}

theorem effect (lawful : x.Lawful w calls) (other : x.isHold = false) (h : SameButLogs w v) :
    SameButLogs (x.effect w) (x.effect v) := by
  cases x with
  | request r => exact h.settle lawful other
  | push frame c => exact h.pushed frame c
  | pop stack => exact h.stack_eq stack
  | take frame => exact h.takeTrap .global frame
  | enter a call => exact h.opening a call.handler
  | leave call _ _ => exact h.unmark call.system
  | resume frame => exact h.returnFromTrap .global frame
  | noFrame | pass _ | refuse _ => exact h

theorem after {acts : List (Act n κ)} (lawful : LawfulFrom w calls acts) (h : SameButLogs w v) :
    SameButLogs (w.after acts) (v.after (Act.withoutHolds acts)) := by
  induction acts generalizing w v calls with
  | nil => exact h
  | cons x acts ih =>
    cases other : x.isHold with
    | false =>
      rw [Act.withoutHolds_cons other]
      exact ih lawful.2 (h.effect lawful.1 other)
    | true =>
      have dropped : Act.withoutHolds (x :: acts) = Act.withoutHolds acts :=
        List.filter_cons_of_neg (by rw [other]; decide)
      have same : SameButLogs w (x.effect w) := by
        cases x with
        | request r => exact hold other w
        | _ => cases other
      rw [dropped]
      exact ih lawful.2 (same.symm.trans h)

end SameButLogs

/-! ## Computations that differ in what they do with logs -/

/-- A computation with its acts, and one that does the same apart from taking and releasing logs.
Whatever is in the logs, both end the same, in states that differ in logs only. -/
def Mirrors (x y : Run H n κ α) (xs ys : World H n κ → List (Act n κ)) : Prop :=
  ∀ w v, SameButLogs w v →
    (y.runFrom v).1 = (x.runFrom w).1 ∧ SameButLogs (x.runFrom w).2 (y.runFrom v).2 ∧
      ys v = Act.withoutHolds (xs w)

theorem mirrors_dispatchWith {first second : HandlerId → Event → Word → Run H n κ (Option Word)}
    {inside inside' : HandlerId → Event → Word → World H n κ → List (Act n κ)}
    (mirrors : ∀ h event frame, Mirrors (first h event frame) (second h event frame)
      (inside h event frame) (inside' h event frame)) (a : Arrival n) :
    Mirrors (dispatchWith first a.system a.cause a.frame)
      (dispatchWith second a.system a.cause a.frame)
      (dispatchActs first inside a) (dispatchActs second inside' a) := by
  intro w v h
  unfold dispatchActs
  have same := h.handler a.system
  cases installed : (w.dispatcher a.system).handler with
  | none =>
    rw [installed] at same
    rw [dispatchWith_of_handler_none installed, dispatchWith_of_handler_none same, same]
    exact ⟨rfl, h, rfl⟩
  | some k =>
    rw [installed] at same
    rw [same]
    dsimp only
    cases marked : w.busy a.system with
    | true =>
      have marked' : v.busy a.system = true := (h.busy a.system).trans marked
      rw [dispatchWith_of_busy installed marked, dispatchWith_of_busy same marked', marked']
      exact ⟨rfl, h, rfl⟩
    | false =>
      have idle : v.busy a.system = false := (h.busy a.system).trans marked
      have called := h.invocation a k
      have event : (v.opening a.system k a.cause a.frame).1 =
          (w.opening a.system k a.cause a.frame).1 := congrArg Invocation.event called
      obtain ⟨ended, left, acts⟩ :=
        mirrors k (w.opening a.system k a.cause a.frame).1 a.frame _ _ (h.opening a k)
      rw [dispatchWith_of_idle installed marked, dispatchWith_of_idle same idle, idle, called,
        event, ended, acts]
      refine ⟨rfl, left.unmark a.system, ?_⟩
      rw [if_neg Bool.false_ne_true, if_neg Bool.false_ne_true, Act.withoutHolds_append,
        Act.withoutHolds_cons rfl]
      rfl

section Requests

variable [Hart H] {first second : SystemId n → Cause → Word → Run H n κ Word}
  {acts acts' : Arrival n → World H n κ → List (Act n κ)}
  (mirrors : ∀ a : Arrival n, Mirrors (first a.system a.cause a.frame)
    (second a.system a.cause a.frame) (acts a) (acts' a))

include mirrors

theorem mirrors_simulateTrapWith (frame : Word) :
    Mirrors (simulateTrapWith first frame) (simulateTrapWith second frame)
      (simulateActs first acts frame) (simulateActs second acts' frame) := by
  intro w v h
  by_cases null : frame = 0
  · subst null
    exact ⟨rfl, h, rfl⟩
  · have taken := h.takeTrap .global frame
    rw [runFrom_simulateTrapWith first w null, runFrom_simulateTrapWith second v null,
      simulateActs, simulateActs, if_neg null, if_neg null]
    dsimp only
    rw [taken.context]
    generalize ((w.takeTrap .global frame).context frame).cause = cause
    obtain ⟨ended, left, inside⟩ := mirrors ⟨.global, cause, frame⟩ _ _ taken
    dsimp only at ended left inside
    rw [inside]
    generalize (first .global cause frame).runFrom (w.takeTrap .global frame) = r at ended left ⊢
    generalize (second .global cause frame).runFrom (v.takeTrap .global frame) = r' at ended left ⊢
    obtain ⟨e | next, u⟩ := r
    · obtain ⟨_, u'⟩ := r'
      subst ended
      refine ⟨rfl, left, ?_⟩
      rw [Act.withoutHolds_append, Act.withoutHolds_cons rfl]
      rfl
    · obtain ⟨_, u'⟩ := r'
      subst ended
      dsimp only
      rw [Act.withoutHolds_append, Act.withoutHolds_cons rfl]
      by_cases none : next = 0
      · rw [if_pos none, if_pos none, if_pos none]
        exact ⟨rfl, left, rfl⟩
      · rw [if_neg none, if_neg none, if_neg none]
        exact ⟨rfl, left.returnFromTrap .global next, rfl⟩

theorem mirrors_answerWith {r : Request n κ} (other : r.isHold = false)
    (blind : r.readsLog = false) :
    Mirrors (answerWith first r) (answerWith second r) (requestActs first acts r)
      (requestActs second acts' r) := by
  intro w v h
  by_cases quiet : r.deliversTrap = false
  · rw [requestActs_of_quiet quiet, requestActs_of_quiet quiet,
      answerWith_of_quiet quiet second first]
    refine ⟨h.answer quiet blind first, ?_, ?_⟩
    · rw [answerWith_of_quiet quiet first fun _ _ _ => throw .nestingExhausted]
      exact h.settle quiet other
    · exact (Act.withoutHolds_cons (x := .request r) other []).symm
  · cases r with
    | dispatch s cause frame => exact mirrors ⟨s, cause, frame⟩ w v h
    | handle s frame =>
      by_cases null : frame = 0
      · subst null
        exact ⟨rfl, h, rfl⟩
      · show ((handleWith second s frame).runFrom v).1 = ((handleWith first s frame).runFrom w).1 ∧
          SameButLogs ((handleWith first s frame).runFrom w).2
            ((handleWith second s frame).runFrom v).2 ∧
          (if frame = 0 then _ else _) = Act.withoutHolds (if frame = 0 then _ else _)
        rw [runFrom_handleWith first w s null, runFrom_handleWith second v s null, if_neg null,
          if_neg null, h.context]
        exact mirrors ⟨s, (w.context frame).cause, frame⟩ w v h
    | simulateTrap frame => exact mirrors_simulateTrapWith mirrors frame w v h
    | yieldNow =>
      have pushed := h.pushed w.yieldFrame w.yieldContext
      obtain ⟨ended, left, inside⟩ := mirrors_simulateTrapWith mirrors w.yieldFrame _ _ pushed
      show ((yieldWith second).runFrom v).1 = ((yieldWith first).runFrom w).1 ∧
        SameButLogs ((yieldWith first).runFrom w).2 ((yieldWith second).runFrom v).2 ∧
        .push v.yieldFrame v.yieldContext ::
          simulateActs second acts' v.yieldFrame (v.pushed v.yieldFrame v.yieldContext) ++
            [.pop v.stack] =
        Act.withoutHolds (.push w.yieldFrame w.yieldContext ::
          simulateActs first acts w.yieldFrame (w.pushed w.yieldFrame w.yieldContext) ++
            [.pop w.stack])
      rw [runFrom_yieldWith, runFrom_yieldWith, h.yieldFrame, h.yieldContext, inside, h.stack]
      dsimp only
      rw [ended]
      refine ⟨rfl, left.stack_eq w.stack, ?_⟩
      rw [Act.withoutHolds_append, Act.withoutHolds_cons rfl]
      rfl
    | _ => exact absurd rfl quiet

theorem mirrors_run {p : Script n κ α} (blind : p.Only fun r => r.readsLog = false) :
    Mirrors (p.run (answerWith first)) (p.withoutHolds.run (answerWith second))
      (scriptActs (answerWith first) (requestActs first acts) p)
      (scriptActs (answerWith second) (requestActs second acts') p.withoutHolds) := by
  induction p with
  | done a => exact fun w v h => ⟨rfl, h, rfl⟩
  | fail e => exact fun w v h => ⟨rfl, h, rfl⟩
  | ask r next ih =>
    intro w v h
    cases other : r.isHold with
    | true =>
      cases r with
      | holdLog s held =>
        -- only the first script makes the request, and only a lock tells the states apart then
        have held : SameButLogs (w.settle (.holdLog s held)) v :=
          (SameButLogs.hold rfl w).symm.trans h
        exact ih () (blind.2 ()) _ v held
      | _ => cases other
    | false =>
      obtain ⟨ended, left, inside⟩ := mirrors_answerWith mirrors other blind.1 w v h
      rw [Script.withoutHolds_ask other, Program.run_ask, Program.run_ask, Attempt.runFrom_bind,
        Attempt.runFrom_bind, scriptActs, scriptActs, inside]
      generalize (answerWith first r).runFrom w = q at ended left ⊢
      generalize (answerWith second r).runFrom v = q' at ended left ⊢
      obtain ⟨e | x, u⟩ := q
      · obtain ⟨_, u'⟩ := q'
        subst ended
        dsimp only
        rw [Act.withoutHolds_append]
        exact ⟨rfl, left, rfl⟩
      · obtain ⟨_, u'⟩ := q'
        subst ended
        obtain ⟨ended', left', after⟩ := ih x (blind.2 x) u u' left
        dsimp only
        rw [after, Act.withoutHolds_append]
        exact ⟨ended', left', rfl⟩

end Requests

section History

variable [Hart H] {handlers : Handlers n κ}
  (blind : ∀ h event frame, (handlers h event frame).Only fun r => r.readsLog = false)

include blind

theorem mirrors_deliver (depth : Nat) (a : Arrival n) :
    Mirrors (H := H) (deliver handlers depth a.system a.cause a.frame)
      (deliver handlers.withoutHolds depth a.system a.cause a.frame)
      (arrivalActs handlers depth a) (arrivalActs handlers.withoutHolds depth a) := by
  induction depth generalizing a with
  | zero =>
    have exhausted : Mirrors (throw .nestingExhausted : Run H n κ (Option Word))
        (throw .nestingExhausted) (fun _ => []) fun _ => [] := fun w v h => ⟨rfl, h, rfl⟩
    exact mirrors_dispatchWith (fun _ _ _ => exhausted) a
  | succ depth ih =>
    exact mirrors_dispatchWith (fun h event frame => mirrors_run ih (blind h event frame)) a

theorem requestActs_withoutHolds {r : Request n κ} (other : r.isHold = false) {w v : World H n κ}
    (h : SameButLogs w v) :
    requestActs (deliver handlers.withoutHolds (n + 1)) (arrivalActs handlers.withoutHolds (n + 1))
        r v =
      Act.withoutHolds (requestActs (deliver handlers (n + 1)) (arrivalActs handlers (n + 1)) r w) ∧
    SameButLogs ((answer handlers r).runFrom w).2
      ((answer handlers.withoutHolds r).runFrom v).2 := by
  -- a request that reads a log is answered differently, but its answer goes nowhere
  cases reads : r.readsLog with
  | true =>
    cases r with
    | unknownTraps s => exact ⟨rfl, h⟩
    | _ => cases reads
  | false =>
    obtain ⟨-, left, inside⟩ := mirrors_answerWith (mirrors_deliver blind (n + 1)) other reads w v h
    exact ⟨inside, left⟩

theorem history_withoutHolds (rs : List (Request n κ)) {w v : World H n κ}
    (h : SameButLogs w v) :
    history handlers.withoutHolds (Request.withoutHolds rs) v =
        Act.withoutHolds (history handlers rs w) ∧
      SameButLogs (perform handlers rs w)
        (perform handlers.withoutHolds (Request.withoutHolds rs) v) := by
  induction rs generalizing w v with
  | nil => exact ⟨rfl, h⟩
  | cons r rs ih =>
    cases other : r.isHold with
    | true =>
      have dropped : Request.withoutHolds (r :: rs) = Request.withoutHolds rs :=
        List.filter_cons_of_neg (by rw [other]; decide)
      cases r with
      | holdLog s held =>
        have same := (SameButLogs.hold (r := .holdLog s held) rfl w).symm.trans h
        rw [dropped]
        exact ih same
      | _ => cases other
    | false =>
      have kept : Request.withoutHolds (r :: rs) = r :: Request.withoutHolds rs :=
        List.filter_cons_of_pos (by rw [other]; rfl)
      obtain ⟨inside, left⟩ := requestActs_withoutHolds blind other h
      obtain ⟨after, ended⟩ := ih left
      rw [kept, history, history, Act.withoutHolds_append, inside, after]
      exact ⟨rfl, ended⟩

end History

/-! ## Runs with and without held logs -/

/-- What holding logs changes in a run: what is in the logs and on the console, and nothing else. -/
structure LogIndependent [Hart H] (handlers : Handlers n κ) (rs : List (Request n κ))
    (w : World H n κ) : Prop where
  /-- In the run that this one is compared with, no log is ever held. -/
  never_held : ∀ {pre}, pre <+: history handlers.withoutHolds (Request.withoutHolds rs) w →
    ∀ s, ((w.after pre).dispatcher s).logHeld = false
  /-- The same happens in it: the same traps are refused or taken, handlers are called with the same
  and end the same, and the same frames are resumed. -/
  acts_eq : history handlers.withoutHolds (Request.withoutHolds rs) w =
    Act.withoutHolds (history handlers rs w)
  invocations_eq :
    Act.invocations (history handlers.withoutHolds (Request.withoutHolds rs) w) =
      Act.invocations (history handlers rs w)
  /-- At every moment the two states have the same in their frames, and the same but for the logs in
  their dispatchers. -/
  same : ∀ {pre}, pre <+: history handlers rs w →
    SameButLogs (w.after pre) (w.after (Act.withoutHolds pre))
  /-- Requests end the same, with a value or with a fault, unless they ask for the log. -/
  outcomes : ∀ {before r rest}, rs = before ++ r :: rest → r.isHold = false →
    r.readsLog = false →
    ((answer handlers.withoutHolds r).runFrom
      (perform handlers.withoutHolds (Request.withoutHolds before) w)).1 =
        ((answer handlers r).runFrom (perform handlers before w)).1
  /-- A dispatch comes to its end, also while the log is held. -/
  ends : ∀ {pre post a call}, history handlers rs w = pre ++ .enter a call :: post →
    ∃ inside returned rest,
      post = inside ++ .leave call returned (verdict call.event returned) :: rest ∧
      ((answer handlers (.dispatch a.system a.cause a.frame)).runFrom (w.after pre)).1 =
        verdict call.event returned
  /-- The log has the newest of the traps that came while it was free. -/
  log_eq : ∀ {pre}, pre <+: history handlers rs w → ∀ s,
    let seen := w.remembered s pre
    ((w.after pre).dispatcher s).log.toList = seen.drop (seen.length - 32)
  /-- Each trap that came while it was held is reported as dropped, and no other trap is. -/
  prints : ∀ {pre post a call}, history handlers rs w = pre ++ .enter a call :: post →
    (w.after (pre ++ [.enter a call])).console =
      (a.cause.reports (Act.held a.system pre)).foldl Console.put (w.after pre).console

variable [Hart H] {handlers : Handlers n κ} {w : World H n κ} {rs : List (Request n κ)}

theorem Fresh.logIndependent (fresh : Fresh w)
    (blind : ∀ h event frame, (handlers h event frame).Only fun r => r.readsLog = false) :
    LogIndependent handlers rs w := by
  have acts := (history_withoutHolds blind rs (.refl w)).1
  have trail := (trail_history handlers rs w).1
  have lawful : LawfulFrom w [] (history handlers rs w) := trail.lawfulFrom []
  refine ⟨?_, acts, ?_, ?_, ?_, ?_, ?_, ?_⟩
  · intro pre hp s
    have other := (trail_history handlers.withoutHolds (Request.withoutHolds rs) w).1.lawfulFrom []
    obtain ⟨post, e⟩ := hp
    rw [← e] at other
    rw [fresh.held_after other.before]
    exact Act.held_of_withoutHolds ⟨post, e.trans acts⟩ s
  · rw [acts, Act.invocations_withoutHolds]
  · rintro pre ⟨post, e⟩
    rw [← e] at lawful
    exact .after lawful.before (.refl w)
  · rintro before r rest rfl other reads
    have reached := (history_withoutHolds blind before (.refl w)).2
    exact (mirrors_answerWith (mirrors_deliver blind (n + 1)) other reads _ _ reached).1
  · intro pre post a call split
    obtain ⟨inside, returned, rest, rfl, -, runs⟩ := trail.call_of_split split
    rw [split] at lawful
    rw [after_append] at runs
    exact ⟨inside, returned, rest, rfl,
      congrArg Prod.fst (runFrom_dispatch_of_enter lawful.act runs)⟩
  · rintro pre ⟨post, e⟩ s
    rw [← e] at lawful
    exact Ring.toList_eq_of_holds (fresh.holds_after lawful.before s)
  · intro pre post a call split
    rw [split] at lawful
    rw [after_append, after_cons, after_nil, ← fresh.held_after lawful.before]
    exact console_opening (w.after pre) a call.handler

/-- A handler that takes the log and does not give it back. -/
def holding : Handlers 0 Unit := fun _ _ frame =>
  Program.ask (.holdLog .global true) fun _ => .done (some frame)

/-- Two traps with unknown causes. -/
def twoUnknown : List (Request 0 Unit) :=
  [.init .global .standard ⟨0⟩ 0, .dispatch .global ⟨2⟩ mainFrame, .dispatch .global ⟨5⟩ mainFrame]

end World

end HartLayer
