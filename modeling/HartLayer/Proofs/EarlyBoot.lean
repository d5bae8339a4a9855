import HartLayer.Proofs.InterruptAnswers
import HartLayer.Proofs.TrapLog

/-!
# Before the first handler is installed

A kernel that boots takes traps before it has a handler for them. Each returns to the frame that it
was given, and nothing tells afterwards that it was taken.

* `Booting` : what holds until a handler is installed. Every request of early boot keeps it
  (`Booting.answer`), so it holds throughout (`Booting.perform`);
* `Fresh.firstCall` : the first trap behind the installation is the first that is counted and the
  first call of its handler;
* `earlyBoot_perform` : what traps do in early boot, what becomes of frames, and what the first trap
  finds.
-/

namespace HartLayer

variable {H κ : Type} {n : Nat}

namespace Request

/-- Whether a request belongs to early boot: it installs no handler, leaves the log alone and prints
nothing. -/
def isEarly : Request n κ → Bool
  | install _ _ | init _ _ _ _ | holdLog _ _ | print _ | printBytes _ => false
  | _ => true

end Request

/-- Handlers that do nothing. Before one is installed it does not matter which there are. -/
def Handlers.silent : Handlers n κ := fun _ _ _ => .done none

theorem Handlers.calm_silent : (Handlers.silent : Handlers n κ).Calm := fun _ _ _ => trivial

theorem Context.setStatus_self (c : Context) : c = { c with mstatus := c.mstatus } := rfl

namespace World

/-! ## States of early boot -/

section Early

variable {handlers : Handlers n κ} {w : World SimulatedHart n κ} {r : Request n κ}
  {rs : List (Request n κ)} {F : Word}

/-- Where no handler is installed, a request on the trap path changes memory only. -/
theorem Fresh.answer_snd (fresh : Fresh w) (handlers : Handlers n κ)
    (traps : r.deliversTrap = true) :
    ∃ m, ((answer handlers r).runFrom w).2 = { w with memory := m } := by
  have global := fresh.bare .global
  cases r with
  | dispatch s cause F => exact ⟨w.memory, by rw [dispatch_of_bare (fresh.bare s)]⟩
  | handle s F =>
    by_cases null : F = 0
    · exact ⟨w.memory, by rw [runFrom_answer_handle, if_pos null]⟩
    · exact ⟨w.memory, by rw [handle_of_bare (fresh.bare s) handlers null]⟩
  | simulateTrap F =>
    by_cases null : F = 0
    · exact ⟨w.memory, by rw [null, simulateTrap_null]⟩
    · exact ⟨_, congrArg Prod.snd (simulateTrap_of_bare global handlers null)⟩
  | yieldNow =>
    by_cases null : w.yieldFrame = 0
    · have refused (v : World SimulatedHart n κ) :
          ((answer handlers (.simulateTrap w.yieldFrame)).runFrom v).2 = v := by
        rw [null, simulateTrap_null]
      rw [answer_yieldNow_snd, refused]
      exact ⟨w.memory.setContext w.yieldFrame w.yieldContext, rfl⟩
    · exact ⟨_, congrArg Prod.snd (yieldNow_of_bare global handlers null)⟩
  | _ => cases traps

/-- Where no handler is installed, it does not matter what handlers would do. -/
theorem Fresh.answer_congr (fresh : Fresh w) (handlers others : Handlers n κ) (r : Request n κ) :
    (answer handlers r).runFrom w = (answer others r).runFrom w := by
  have simulated (v : World SimulatedHart n κ) (bare : (v.dispatcher .global).handler = none)
      (F : Word) : (World.answer handlers (.simulateTrap F)).runFrom v =
        (World.answer others (.simulateTrap F)).runFrom v := by
    by_cases null : F = 0
    · rw [null, simulateTrap_null, simulateTrap_null]
    · rw [simulateTrap_of_bare bare handlers null, simulateTrap_of_bare bare others null]
  cases quiet : r.deliversTrap with
  | false => rw [answer, answer, answerWith_of_quiet quiet]
  | true =>
    cases r with
    | dispatch s cause F =>
      rw [dispatch_of_bare (fresh.bare s), dispatch_of_bare (fresh.bare s)]
    | handle s F =>
      rw [runFrom_answer_handle, runFrom_answer_handle, dispatch_of_bare (fresh.bare s),
        dispatch_of_bare (fresh.bare s)]
    | simulateTrap F => exact simulated w (fresh.bare .global) F
    | yieldNow =>
      have same := simulated (w.pushed w.yieldFrame w.yieldContext) (fresh.bare .global)
        w.yieldFrame
      refine Prod.ext ?_ ?_
      · rw [runFrom_answer_yieldNow, runFrom_answer_yieldNow, same]
      · rw [answer_yieldNow_snd, answer_yieldNow_snd, same]
    | _ => cases quiet

/-- A state of early boot: all dispatchers are as at start-up, and nothing was printed. -/
structure Booting (w : World H n κ) : Prop where
  fresh : Fresh w
  blank : w.console = .empty

theorem booting_boot (code : CodeMap) (hart : H) (stack : Word) (kernel : κ) :
    Booting (boot code hart n stack kernel) :=
  ⟨dispatcher_boot code hart stack kernel, rfl⟩

theorem Booting.answer (h : Booting w) (handlers : Handlers n κ) (early : r.isEarly = true) :
    Booting ((World.answer handlers r).runFrom w).2 := by
  cases traps : r.deliversTrap with
  | true =>
    obtain ⟨m, changed⟩ := h.fresh.answer_snd handlers traps
    rw [changed]
    exact ⟨h.fresh, h.blank⟩
  | false =>
    have lawful : (Act.request r).Lawful w [] := traps
    have installs (s : SystemId n) : r.installs? s = none := by
      cases r <;> first | rfl | cases early
    have holds (s : SystemId n) : r.holds? s = none := by
      cases r <;> first | rfl | cases early
    have writes : (Act.request r).writes w = [] := by
      cases r <;> first | (cases early; done) | simp only [Act.writes]
    rw [answer_snd_of_quiet handlers traps]
    refine ⟨fun s => ?_, ?_⟩
    · rw [dispatcher_settle traps, installs, holds, h.fresh s]
      rfl
    · have wrote := console_effect lawful
      rw [writes, h.blank] at wrote
      exact wrote

theorem Booting.perform (h : Booting w) (handlers : Handlers n κ)
    (early : ∀ r ∈ rs, r.isEarly = true) : Booting (World.perform handlers rs w) := by
  induction rs generalizing w with
  | nil => exact h
  | cons r rs ih =>
    exact ih (h.answer handlers (early r List.mem_cons_self)) fun q hq =>
      early q (List.mem_cons_of_mem r hq)

/-! ## Frames in early boot -/

theorem Fresh.unmarked (fresh : Fresh w) (s : SystemId n) : w.busy s = false :=
  congrArg Dispatcher.dispatching (fresh s)

theorem Fresh.movedOn (fresh : Fresh w) (s : SystemId n) (cause : Cause) (c : Context) :
    w.movedOn s cause c = c := by
  simp [World.movedOn, fresh.bare s]

theorem Fresh.suspended_of_ne (fresh : Fresh w) (F : Word) (other : ∀ G, r ≠ .simulateTrap G) :
    w.suspended F r = w.context F := by
  cases r with
  | dispatch s cause _ => exact fresh.movedOn s cause (w.context F)
  | handle s _ => exact fresh.movedOn s _ (w.context F)
  | simulateTrap G => exact absurd rfl (other G)
  | _ => rfl

theorem Fresh.suspended_simulateTrap (fresh : Fresh w) (F G : Word) :
    w.suspended F (.simulateTrap G : Request n κ) =
      { w.context F with mstatus := Status.resuming w.interruptible } := by
  rw [World.suspended, fresh.movedOn]

/-- What a request of early boot leaves of a context in a frame that it is handed or leaves out. -/
theorem Fresh.context_answer (fresh : Fresh w) (handlers : Handlers n κ)
    (out : r.traps? = some F ∨ r.LeavesOut w.yieldFrame F) :
    let v := ((answer handlers r).runFrom w).2
    v.context F = { w.context F with mstatus := (v.context F).mstatus } ∧
      (r ≠ .simulateTrap F → v.context F = w.context F) := by
  intro v
  have stored : v = ((answer Handlers.silent r).runFrom w).2 :=
    congrArg Prod.snd (fresh.answer_congr handlers _ r)
  rw [stored]
  rcases out with handed | apart
  · rw [(changesOnly_answer Handlers.calm_silent fresh.unmarked handed).context]
    by_cases simulated : ∃ G, r = .simulateTrap G
    · obtain ⟨G, rfl⟩ := simulated
      obtain ⟨-, e⟩ := Option.ite_none_left_eq_some.mp handed
      rw [fresh.suspended_simulateTrap]
      exact ⟨rfl, fun other => absurd (congrArg _ (Option.some.inj e)) other⟩
    · rw [fresh.suspended_of_ne F fun G e => simulated ⟨G, e⟩]
      exact ⟨Context.setStatus_self _, fun _ => rfl⟩
  · rw [context_answer_of_apart Handlers.calm_silent fresh.unmarked apart]
    exact ⟨Context.setStatus_self _, fun _ => rfl⟩

theorem Fresh.yieldFrame_answer (fresh : Fresh w) (handlers : Handlers n κ) (r : Request n κ) :
    ((answer handlers r).runFrom w).2.yieldFrame = w.yieldFrame := by
  rw [fresh.answer_congr handlers Handlers.silent]
  exact World.yieldFrame_answer Handlers.calm_silent fresh.unmarked r

theorem Booting.context_perform (h : Booting w) (handlers : Handlers n κ)
    (early : ∀ r ∈ rs, r.isEarly = true)
    (out : ∀ r ∈ rs, r.traps? = some F ∨ r.LeavesOut w.yieldFrame F) :
    let v := World.perform handlers rs w
    v.context F = { w.context F with mstatus := (v.context F).mstatus } ∧
      ((∀ r ∈ rs, r ≠ .simulateTrap F) → v.context F = w.context F) := by
  induction rs generalizing w with
  | nil => exact ⟨Context.setStatus_self _, fun _ => rfl⟩
  | cons r rs ih =>
    obtain ⟨first, same⟩ := h.fresh.context_answer handlers (out r List.mem_cons_self)
    have place := h.fresh.yieldFrame_answer handlers r
    obtain ⟨rest, same'⟩ := ih (h.answer handlers (early r List.mem_cons_self))
      (fun q hq => early q (List.mem_cons_of_mem r hq)) fun q hq => by
        rw [place]
        exact out q (List.mem_cons_of_mem r hq)
    refine ⟨?_, fun never => ?_⟩
    · refine rest.trans ?_
      rw [first]
      rfl
    · refine (same' fun q hq => never q (List.mem_cons_of_mem r hq)).trans ?_
      exact same (never r List.mem_cons_self)

end Early

end World

/-! ## The first delivery -/

/-- The trap that reaches a dispatcher by a request. -/
def Request.arrival? (w : World H n κ) : Request n κ → Option (Arrival n)
  | dispatch s cause F => some ⟨s, cause, F⟩
  | handle s F => if F = 0 then none else some ⟨s, (w.context F).cause, F⟩
  | simulateTrap F => if F = 0 then none else some ⟨.global, (w.context F).cause, F⟩
  | yieldNow =>
    if w.yieldFrame = 0 then none else some ⟨.global, w.yieldContext.cause, w.yieldFrame⟩
  | _ => none

theorem Act.invocations_append (first second : List (Act n κ)) :
    invocations (first ++ second) = invocations first ++ invocations second :=
  List.filterMap_append

namespace World

section Arrivals

/-- The state in which the trap of a request reaches its dispatcher. -/
def arriving [Hart H] (w : World H n κ) : Request n κ → World H n κ
  | .simulateTrap F => w.takeTrap .global F
  | .yieldNow => (w.pushed w.yieldFrame w.yieldContext).takeTrap .global w.yieldFrame
  | _ => w

variable {handlers : Handlers n κ} {w v : World SimulatedHart n κ} {r : Request n κ}
  {a : Arrival n} {acts : List (Act n κ)} {s : SystemId n}

theorem context_pushed (w : World H n κ) (F : Word) (c : Context) : (w.pushed F c).context F = c :=
  w.memory.context_setContext F c

theorem dispatcher_arriving (v : World SimulatedHart n κ) (r : Request n κ) (s : SystemId n) :
    (v.arriving r).dispatcher s = v.dispatcher s := by
  cases r with
  | simulateTrap F => exact dispatcher_takeTrap v .global s F
  | yieldNow => exact dispatcher_takeTrap (v.pushed v.yieldFrame v.yieldContext) .global s _
  | _ => rfl

theorem during_yieldNow (handlers : Handlers n κ) (v : World SimulatedHart n κ) :
    during handlers .yieldNow v =
      .push v.yieldFrame v.yieldContext ::
        during handlers (.simulateTrap v.yieldFrame) (v.pushed v.yieldFrame v.yieldContext) ++
          [.pop v.stack] := rfl

theorem exists_during_simulateTrap (handlers : Handlers n κ) (v : World SimulatedHart n κ)
    {F : Word} (frame : F ≠ 0) :
    ∃ after, during handlers (.simulateTrap F) v =
        .take F :: duringDispatch handlers F v ++ after ∧ Act.invocations after = [] := by
  refine ⟨_, during_simulateTrap frame, ?_⟩
  split
  · split <;> rfl
  · rfl

/-- No handler is called before the trap of a request reaches its dispatcher, and none when the
dispatch has ended. -/
theorem during_of_arrival (handlers : Handlers n κ) (arrives : r.arrival? v = some a) :
    ∃ before after,
      during handlers r v = before ++ arrivalActs handlers (n + 1) a (v.arriving r) ++ after ∧
      Act.invocations before = [] ∧ Act.invocations after = [] := by
  cases r with
  | dispatch s cause F =>
    obtain rfl := Option.some.inj arrives
    exact ⟨[], [], (List.append_nil _).symm, rfl, rfl⟩
  | handle s F =>
    obtain ⟨frame, e⟩ := Option.ite_none_left_eq_some.mp arrives
    obtain rfl := Option.some.inj e
    exact ⟨[], [], (if_neg frame).trans (List.append_nil _).symm, rfl, rfl⟩
  | simulateTrap F =>
    obtain ⟨frame, e⟩ := Option.ite_none_left_eq_some.mp arrives
    obtain rfl := Option.some.inj e
    obtain ⟨after, happened, uncalled⟩ := exists_during_simulateTrap handlers v frame
    exact ⟨[.take F], after, happened, rfl, uncalled⟩
  | yieldNow =>
    obtain ⟨frame, e⟩ := Option.ite_none_left_eq_some.mp arrives
    obtain rfl := Option.some.inj e
    have cause : ((v.pushed v.yieldFrame v.yieldContext).context v.yieldFrame).cause =
        v.yieldContext.cause := by rw [context_pushed]
    obtain ⟨after, happened, uncalled⟩ := exists_during_simulateTrap handlers
      (v.pushed v.yieldFrame v.yieldContext) frame
    rw [duringDispatch, cause] at happened
    refine ⟨[.push v.yieldFrame v.yieldContext, .take v.yieldFrame], after ++ [.pop v.stack],
      ?_, rfl, ?_⟩
    · rw [during_yieldNow, happened]
      exact congrArg (_ :: ·) (List.append_assoc _ _ _)
    · rw [Act.invocations_append, uncalled]
      rfl
  | _ => cases arrives

theorem invocations_during_of_none (handlers : Handlers n κ) (arrives : r.arrival? v = none) :
    Act.invocations (during handlers r v) = [] := by
  have null {F : Word} {a : Arrival n} (e : (if F = 0 then none else some a) = none) : F = 0 := by
    by_contra frame
    rw [if_neg frame] at e
    cases e
  have refused {F : Word} (u : World SimulatedHart n κ) (zero : F = 0) :
      during handlers (.simulateTrap F) u = [.noFrame] := if_pos zero
  cases r with
  | dispatch s cause F => cases arrives
  | handle s F =>
    have acts : during handlers (.handle s F) v = [.noFrame] := if_pos (null arrives)
    rw [acts]
    rfl
  | simulateTrap F =>
    rw [refused v (null arrives)]
    rfl
  | yieldNow =>
    rw [during_yieldNow, refused _ (null arrives)]
    rfl
  | _ => rfl

/-- A dispatcher that is busy calls no handler. -/
theorem Trail.uncalled (trail : Trail handlers w acts) (marked : w.busy s = true) :
    ∀ call ∈ Act.invocations acts, call.system ≠ s := by
  induction trail with
  | nil w => exact fun _ mem => absurd mem List.not_mem_nil
  | @step w x rest unbracketed lawful _ ih =>
    have unmarked : x.marks? s = none := by
      cases x <;> first | rfl | cases unbracketed
    have uncalled : x.invocation? = none := by
      cases x <;> first | rfl | cases unbracketed
    have kept := (takesNone_effect lawful unmarked).busy
    rw [Act.invocations, List.filterMap_cons, uncalled]
    exact ih (kept.trans marked)
  | @call w a call inside rest returned entered inner _ _ ihInner ihOuter =>
    -- the call is on another system, as this one is busy
    have other : a.system ≠ s := by
      rintro rfl
      rw [entered.2.1] at marked
      cases marked
    have opened := (takesNone_effect entered (s := s) (if_neg other)).busy.trans marked
    have ran := (inner.takesNone opened).busy.trans opened
    have ended : ((World.after ((Act.enter a call).effect w) inside).unmark call.system).busy s =
        true := by
      rw [busy_unmark, if_neg (entered.called.1 ▸ other)]
      exact ran
    intro c mem
    rw [Act.invocations_append, List.mem_append] at mem
    rcases mem with within | behind
    · rcases List.mem_cons.mp within with rfl | within
      · exact entered.called.1 ▸ other
      · exact ihInner opened c within
    · exact ihOuter ended c behind

theorem dispatchActs_of_idle {call : HandlerId → Event → Word → Run SimulatedHart n κ (Option Word)}
    {inside : HandlerId → Event → Word → World SimulatedHart n κ → List (Act n κ)} {h : HandlerId}
    (installed : (v.dispatcher a.system).handler = some h) (idle : v.busy a.system = false) :
    let opened : Event × World SimulatedHart n κ := v.opening a.system h a.cause a.frame
    dispatchActs call inside a v =
      .enter a (v.invocation a h) :: inside h opened.1 a.frame opened.2 ++
        [.leave (v.invocation a h) ((call h opened.1 a.frame).runFrom opened.2).1
          ((dispatchWith call a.system a.cause a.frame).runFrom v).1] := by
  rw [dispatchActs, installed]
  exact if_neg (by rw [idle]; exact Bool.false_ne_true)

theorem arrivalActs_of_idle {h : HandlerId} (handlers : Handlers n κ)
    (installed : (v.dispatcher a.system).handler = some h) (idle : v.busy a.system = false) :
    ∃ inside returned result, arrivalActs handlers (n + 1) a v =
        .enter a (v.invocation a h) :: inside ++ [.leave (v.invocation a h) returned result] ∧
      ∀ call ∈ Act.invocations inside, call.system ≠ a.system := by
  have fewer := idle_opening_lt idle h a.cause a.frame
  have all := idle_le v
  have keeps : ∀ r : Request n κ,
      KeepsMarks (H := SimulatedHart) (answerWith (deliver handlers n) r) :=
    keepsMarks_answerWith (keepsMarks_deliver handlers n)
  have enough : (v.opening a.system h a.cause a.frame).2.idle ≤ n := by omega
  obtain ⟨trail, -⟩ := records_scriptActs keeps
    (fun r _ enough => records_requestActs (fun b _ enough => records_arrivalActs handlers b enough)
      r enough)
    (handlers h (v.opening a.system h a.cause a.frame).1 a.frame) enough
  have marked : (v.opening a.system h a.cause a.frame).2.busy a.system = true := by
    rw [busy_opening, if_pos rfl]
  exact ⟨_, _, _, dispatchActs_of_idle installed idle, trail.uncalled marked⟩

theorem log_after_of_uncalled {calls : List (Invocation n)} (lawful : LawfulFrom w calls acts)
    (uncalled : Act.invocations acts = []) (s : SystemId n) :
    ((w.after acts).dispatcher s).log = (w.dispatcher s).log := by
  induction acts generalizing w calls with
  | nil => rfl
  | cons x acts ih =>
    have here : x.invocation? = none := by
      cases e : x.invocation? with
      | none => rfl
      | some call =>
        rw [Act.invocations, List.filterMap_cons, e] at uncalled
        cases uncalled
    have unlogged : x.logs? w s = none := by
      cases x <;> first | rfl | cases here
    rw [Act.invocations, List.filterMap_cons, here] at uncalled
    rw [after_cons, ih lawful.2 uncalled, log_effect lawful.1, unlogged]
    rfl

end Arrivals

/-- In a list of acts a trap is the first for which a handler is called, and the only one on its
system. -/
structure FirstCall (w : World SimulatedHart n κ) (t before after : List (Act n κ)) (a : Arrival n)
    (h : HandlerId) (call : Invocation n) : Prop where
  split : t = before ++ .enter a call :: after
  /-- The handler is called with the event of the trap and with the context that it struck. -/
  call_eq : call =
    let c := (w.after before).context a.frame
    { system := a.system
      handler := h
      event := (classify a.cause c).event
      frame := a.frame
      context := { c with mepc := if a.cause.isCall then c.mepc + 4 else c.mepc } }
  first : Act.invocations before = []
  only : ∀ other ∈ Act.invocations after, other.system ≠ a.system
  uncounted : ((w.after before).dispatcher a.system).delivered = 0
  /-- The handler finds its own trap counted, and in the log no other one. -/
  counted : ((w.after (before ++ [.enter a call])).dispatcher a.system).delivered = 1
  log_eq : ((w.after (before ++ [.enter a call])).dispatcher a.system).log =
    if a.cause.isKnown = false ∧ ((w.after before).dispatcher a.system).logHeld = false then
      Ring.empty.push ⟨a.cause, ((w.after before).context a.frame).mepc⟩
    else .empty
  delivered : ((w.after t).dispatcher a.system).delivered = 1

section First

variable {handlers : Handlers n κ} {w : World SimulatedHart n κ} {rs qs : List (Request n κ)}
  {r : Request n κ} {a : Arrival n} {h : HandlerId}

theorem Fresh.invocations_during (fresh : Fresh w) (handlers : Handlers n κ) (r : Request n κ) :
    Act.invocations (during handlers r w) = [] := by
  cases arrives : r.arrival? w with
  | none => exact invocations_during_of_none handlers arrives
  | some a =>
    obtain ⟨before, after, happened, uncalled, uncalled'⟩ := during_of_arrival handlers arrives
    have bare : ((w.arriving r).dispatcher a.system).handler = none := by
      rw [dispatcher_arriving, fresh.bare]
    have passed : arrivalActs handlers (n + 1) a (w.arriving r) = [.pass a] := by
      rw [arrivalActs, dispatchActs, bare]
    rw [happened, passed, Act.invocations_append, Act.invocations_append, uncalled, uncalled']
    rfl

theorem Booting.uncalled (h : Booting w) (handlers : Handlers n κ)
    (early : ∀ r ∈ rs, r.isEarly = true) : Act.invocations (history handlers rs w) = [] := by
  induction rs generalizing w with
  | nil => rfl
  | cons r rs ih =>
    have rest := ih (h.answer handlers (early r List.mem_cons_self)) fun q hq =>
      early q (List.mem_cons_of_mem r hq)
    rw [history, Act.invocations_append, rest, List.append_nil]
    exact h.fresh.invocations_during handlers r

theorem invocations_history_of_quiet (handlers : Handlers n κ)
    (quiet : ∀ q ∈ qs, q.deliversTrap = false) : Act.invocations (history handlers qs w) = [] := by
  induction qs generalizing w with
  | nil => rfl
  | cons q qs ih =>
    rw [history, requestActs_of_quiet (quiet q List.mem_cons_self), Act.invocations_append,
      ih fun r hr => quiet r (List.mem_cons_of_mem q hr)]
    rfl

theorem Fresh.firstCall_of_split {before after : List (Act n κ)} {call : Invocation n}
    (fresh : Fresh w) (lawful : LawfulFrom w [] (before ++ .enter a call :: after))
    (first : Act.invocations before = [])
    (only : ∀ other ∈ Act.invocations after, other.system ≠ a.system) :
    FirstCall w (before ++ .enter a call :: after) before after a call.handler call := by
  have same : call.system = a.system := lawful.act.called.1
  have called := lawful.act.2.2
  have upTo : LawfulFrom w [] (before ++ [.enter a call]) :=
    lawful.upTo ⟨after, List.append_assoc _ _ _⟩
  have count (acts : List (Act n κ)) (k : Nat) (lawful : LawfulFrom w [] acts)
      (number : (Act.invocations acts).countP (·.system = a.system) = k) :
      ((w.after acts).dispatcher a.system).delivered = UInt64.ofNat k := by
    rw [delivered_after lawful, number, fresh a.system]
    exact UInt64.zero_add _
  refine ⟨rfl, ?_, first, only, ?_, ?_, ?_, ?_⟩
  · rw [invocation_eq, apply_classify] at called
    exact called
  · exact count before 0 lawful.before (by rw [first]; rfl)
  · refine count _ 1 upTo ?_
    rw [Act.invocations_append, first]
    simp [Act.invocations, Act.invocation?, same]
  · rw [after_append, after_cons, after_nil, log_effect lawful.act, Act.logs?,
      log_after_of_uncalled lawful.before first, fresh a.system, unknown?]
    cases a.cause.isKnown <;> cases ((w.after before).dispatcher a.system).logHeld <;>
      simp [Dispatcher.idle]
  · refine count _ 1 lawful ?_
    have none : (Act.invocations after).countP (·.system = a.system) = 0 := by
      rw [List.countP_eq_zero]
      intro other mem
      simpa using only other mem
    rw [Act.invocations_append, first, List.nil_append]
    show List.countP _ (call :: Act.invocations after) = 1
    rw [List.countP_cons, none, if_pos (decide_eq_true same)]

theorem Fresh.firstCall (fresh : Fresh w) (uncalled : Act.invocations (history handlers qs w) = [])
    (arrives : r.arrival? (perform handlers qs w) = some a)
    (installed : ((perform handlers qs w).dispatcher a.system).handler = some h) :
    ∃ before call after, FirstCall w (history handlers (qs ++ [r]) w) before after a h call := by
  have lawful := (trail_history handlers (qs ++ [r]) w).1.lawfulFrom []
  have idle := idle_perform handlers qs fresh.unmarked a.system
  rw [history_concat] at lawful ⊢
  generalize perform handlers qs w = v at arrives installed idle lawful ⊢
  generalize history handlers qs w = past at uncalled lawful ⊢
  obtain ⟨taking, returning, happened, none, none'⟩ := during_of_arrival handlers arrives
  have bridge := dispatcher_arriving v r a.system
  obtain ⟨inside, returned, result, called, elsewhere⟩ := arrivalActs_of_idle
    (v := v.arriving r) handlers (by rw [bridge, installed])
    ((congrArg Dispatcher.dispatching bridge).trans idle)
  have before : Act.invocations (past ++ taking) = [] := by
    rw [Act.invocations_append, uncalled, none]
    rfl
  have whole : past ++ during handlers r v = past ++ taking ++
      .enter a ((v.arriving r).invocation a h) ::
        (inside ++ .leave ((v.arriving r).invocation a h) returned result :: returning) := by
    rw [happened, called]
    simp
  rw [whole] at lawful ⊢
  refine ⟨_, _, _, fresh.firstCall_of_split lawful before fun other mem => ?_⟩
  have after : Act.invocations
      (inside ++ .leave ((v.arriving r).invocation a h) returned result :: returning) =
        Act.invocations inside := by
    rw [Act.invocations_append]
    show _ ++ Act.invocations returning = _
    rw [none', List.append_nil]
  rw [after] at mem
  exact elsewhere other mem

end First

/-- What a trap does in a state in which no handler is installed and none was called. -/
structure PassesTraps (handlers : Handlers n κ) (v : World SimulatedHart n κ) : Prop where
  dispatched : ∀ s cause F, (answer handlers (.dispatch s cause F)).runFrom v = (.ok F, v)
  handled : ∀ s F, F ≠ 0 → (answer handlers (.handle s F)).runFrom v = (.ok F, v)
  /-- A simulated trap saves the enable bit in the status of its frame, and nothing else changes. -/
  simulated : ∀ F, F ≠ 0 → ∃ u, (answer handlers (.simulateTrap F)).runFrom v = (.ok F, u) ∧
    ChangesOnly F { v.context F with mstatus := Status.resuming v.interruptible } v u ∧
    u.interruptible = v.interruptible ∧ u = { v with memory := u.memory }
  /-- A yield comes back. It stores in the frame that it pushes and drops. -/
  yielded : v.yieldFrame ≠ 0 → ∃ u, (answer handlers .yieldNow).runFrom v = (.ok (), u) ∧
    (∀ G, Frame.Apart v.yieldFrame G → u.context G = v.context G) ∧
    u.interruptible = v.interruptible ∧ u = { v with memory := u.memory }
  uncounted : ∀ s, (answer handlers (.delivered s)).runFrom v = (.ok 0, v)
  unlogged : ∀ s, (answer handlers (.unknownTraps s)).runFrom v = (.ok (some .empty), v)
  unprinted : v.console = .empty

/-- What holds while requests of early boot are made, and of the first trap behind them. -/
structure EarlyBoot (handlers : Handlers n κ) (w : World SimulatedHart n κ)
    (rs : List (Request n κ)) : Prop where
  passes : ∀ {pre}, pre <+: rs → PassesTraps handlers (perform handlers pre w)
  /-- A frame that is trapped or left out, again and again, keeps all but its status, and that, too,
  if its traps are not simulated ones. -/
  kept : ∀ {pre qs F}, rs = pre ++ qs →
    let v := perform handlers pre w
    let u := perform handlers rs w
    (∀ q ∈ qs, q.traps? = some F ∨ q.LeavesOut v.yieldFrame F) →
    u.context F = { v.context F with mstatus := (u.context F).mstatus } ∧
      ((∀ q ∈ qs, q ≠ .simulateTrap F) → u.context F = v.context F)
  /-- When a handler has been installed, the first trap is delivered to it as the first ever. -/
  first : ∀ {qs r a h}, (∀ q ∈ qs, q.deliversTrap = false) →
    let v := perform handlers (rs ++ qs) w
    r.arrival? v = some a → (v.dispatcher a.system).handler = some h →
    let left := perform handlers (rs ++ qs ++ [r]) w
    (∃ before call after,
      FirstCall w (history handlers (rs ++ qs ++ [r]) w) before after a h call) ∧
      (answer handlers (.delivered a.system)).runFrom left = (.ok 1, left)

theorem passesTraps_of_booting {v : World SimulatedHart n κ} (booting : Booting v)
    (handlers : Handlers n κ) : PassesTraps handlers v := by
  obtain ⟨fresh, blank⟩ := booting
  refine ⟨?_, ?_, ?_, ?_, ?_, ?_, blank⟩
  · intro s cause F
    exact dispatch_of_bare (fresh.bare s) handlers cause F
  · intro s F frame
    exact handle_of_bare (fresh.bare s) handlers frame
  · intro F frame
    have changed := changesOnly_statusSaved v F
    exact ⟨_, simulateTrap_of_bare (fresh.bare .global) handlers frame, changed, rfl, rfl⟩
  · intro frame
    refine ⟨_, yieldNow_of_bare (fresh.bare .global) handlers frame, ?_, rfl, rfl⟩
    intro G apart
    refine ((changesOnly_statusSaved (v.setContext v.yieldFrame v.yieldContext) _).apart
      apart).trans ?_
    exact v.memory.context_setContext_apart _ apart
  · intro s
    refine Prod.ext (congrArg Except.ok ?_) rfl
    exact congrArg Dispatcher.delivered (fresh s)
  · intro s
    refine Prod.ext (congrArg Except.ok ?_) rfl
    exact congrArg Dispatcher.unknownTraps (fresh s)

/-- From start-up until a handler is installed, traps of any cause with any frame pass through
without a trace, and the first trap behind the installation is delivered as the first ever. -/
theorem earlyBoot_perform (handlers : Handlers n κ) (code : CodeMap) (hart : SimulatedHart)
    (stack : Word) (kernel : κ) {rs : List (Request n κ)} (early : ∀ r ∈ rs, r.isEarly = true) :
    EarlyBoot handlers (boot code hart n stack kernel) rs := by
  have start : Booting (boot code hart n stack kernel) := booting_boot code hart stack kernel
  generalize boot code hart n stack kernel = w at start
  refine ⟨?_, ?_, ?_⟩
  · rintro pre ⟨post, rfl⟩
    refine passesTraps_of_booting (start.perform handlers fun r hr => ?_) handlers
    exact early r (List.mem_append_left post hr)
  · rintro pre qs F rfl v u out
    have booting : Booting v := start.perform handlers fun r hr =>
      early r (List.mem_append_left qs hr)
    have reached : u = perform handlers qs v := perform_append handlers pre qs w
    rw [reached]
    exact booting.context_perform handlers (fun q hq => early q (List.mem_append_right pre hq)) out
  · intro qs r a h quiet v arrives installed left
    have uncalled : Act.invocations (history handlers (rs ++ qs) w) = [] := by
      rw [history_append, Act.invocations_append, start.uncalled handlers early,
        invocations_history_of_quiet handlers quiet]
      rfl
    obtain ⟨before, call, after, firstCall⟩ := start.fresh.firstCall uncalled arrives installed
    refine ⟨⟨before, call, after, firstCall⟩, Prod.ext (congrArg Except.ok ?_) rfl⟩
    have counted := firstCall.delivered
    rw [(trail_history handlers (rs ++ qs ++ [r]) w).2] at counted
    exact counted

/-- A kernel that boots with interrupts on: calls, a yield, a timer interrupt, and a trap that the
cause table does not name. -/
def bootTraps : List (Request 0 Unit) :=
  [.setInterrupts .global true, .setContext mainFrame (.calling yieldSentinel 0x80000100),
    .handle .global mainFrame, .newThread .global threadStack 0x1000 7, .simulateTrap mainFrame,
    .yieldNow, .dispatch .global ⟨0x8000000000000007⟩ mainFrame, .dispatch .global ⟨63⟩ threadFrame]

/-- Interrupts are still on behind these traps, and the first trap behind the installation is
counted as one. -/
theorem earlyBoot_bootTraps :
    let rs := bootTraps
    let qs : List (Request 0 Unit) := [.init .global .masking ⟨0⟩ 0]
    let r : Request 0 Unit := .handle .global mainFrame
    (∀ q ∈ rs, q.isEarly = true) ∧ (∀ q ∈ qs, q.deliversTrap = false) ∧
      ((answer switching (.delivered .global)).runFrom
        (perform switching (rs ++ qs ++ [r]) atStart)).1 = .ok 1 ∧
      (perform switching rs atStart).interruptible = true := by
  intro rs qs r
  have early : ∀ q ∈ rs, q.isEarly = true := by decide
  have quiet : ∀ q ∈ qs, q.deliversTrap = false := by decide
  have boots := earlyBoot_perform switching .standard SimulatedHart.reset 0x80130000 () early
  obtain ⟨-, counted⟩ := boots.first (r := r)
    (a := ⟨.global, .ofException .machineEnvCall, mainFrame⟩) (h := ⟨0⟩) quiet (by decide +kernel)
    (by decide +kernel)
  refine ⟨early, quiet, ?_, by decide +kernel⟩
  exact congrArg Prod.fst counted

end World

end HartLayer
