import Mathlib.Data.Nat.Bitwise
import HartLayer.Proofs.InterruptAnswers

/-!
# Harts that cannot be told apart

The layer works on a hart by four operations. A map of harts that goes along with them (`Hart.Hom`)
goes along with everything: what runs from a state runs the same from the state with mapped harts
(`World.Follows`), answer by answer and act by act.

* A native hart is mapped to the simulated one with its vector and with bit 3 of its status
  (`NativeHart.simulated`, `hom_simulated`).
* What an operation on a hart keeps, every act keeps (`kept_after`). Of the status of a native hart
  that is every bit but bit 3.
-/

namespace HartLayer

variable {H H' κ α : Type} {n : Nat}

/-- A map of harts that goes along with what is done to them. -/
structure Hart.Hom [Hart H] [Hart H'] (f : H → H') : Prop where
  vector : ∀ h, Hart.vector (f h) = Hart.vector h
  setVector : ∀ v h, Hart.setVector v (f h) = f (Hart.setVector v h)
  interruptsEnabled : ∀ h, Hart.interruptsEnabled (f h) = Hart.interruptsEnabled h
  setInterrupts : ∀ on h, Hart.setInterrupts on (f h) = f (Hart.setInterrupts on h)

def TrapSystem.withHart (f : H → H') (t : TrapSystem H) : TrapSystem H' :=
  ⟨t.dispatcher, f t.hart, t.config⟩

namespace World

def withHarts (f : H → H') (w : World H n κ) : World H' n κ where
  code := w.code
  memory := w.memory
  systems := w.systems.map (TrapSystem.withHart f)
  stack := w.stack
  console := w.console
  journal := w.journal
  kernel := w.kernel

section Parts

variable {f : H → H'} (w : World H n κ) (s : SystemId n)

theorem system_withHarts : (w.withHarts f).system s = (w.system s).withHart f :=
  Vector.getElem_map _ _

theorem dispatcher_withHarts : (w.withHarts f).dispatcher s = w.dispatcher s := by
  rw [dispatcher, system_withHarts]
  rfl

theorem busy_withHarts : (w.withHarts f).busy s = w.busy s := by
  rw [busy, dispatcher_withHarts]
  rfl

theorem onSystem_withHarts {g : TrapSystem H → TrapSystem H} {g' : TrapSystem H' → TrapSystem H'}
    (along : ∀ t, g' (t.withHart f) = (g t).withHart f) :
    (w.withHarts f).onSystem s g' = (w.onSystem s g).withHarts f := by
  have mapped : (w.withHarts f).systems[s] = w.systems[s].withHart f := system_withHarts w s
  have systems : (w.systems.map (TrapSystem.withHart f)).set s (g' (w.systems[s].withHart f)) =
      (w.systems.set s (g w.systems[s])).map (TrapSystem.withHart f) := by
    rw [along, Vector.map_set]
  rw [onSystem, mapped]
  exact congrArg (fun v => { w.withHarts f with systems := v }) systems

theorem onDispatcher_withHarts (g : Dispatcher → Dispatcher) :
    (w.withHarts f).onDispatcher s g = (w.onDispatcher s g).withHarts f :=
  onSystem_withHarts w s fun _ => rfl

theorem unmark_withHarts : (w.withHarts f).unmark s = (w.unmark s).withHarts f :=
  onDispatcher_withHarts w s _

theorem logUnknown_withHarts (u : UnknownTrap) :
    (w.withHarts f).logUnknown s u = (w.logUnknown s u).withHarts f := by
  have reported (text : String) :
      (w.withHarts f).log .error text = (w.log .error text).withHarts f := rfl
  dsimp only [logUnknown]
  rw [reported, dispatcher_withHarts]
  split
  · rfl
  · exact onDispatcher_withHarts _ s _

theorem opening_withHarts (h : HandlerId) (cause : Cause) (frame : Word) :
    (w.withHarts f).opening s h cause frame =
      ((w.opening s h cause frame).1, (w.opening s h cause frame).2.withHarts f) := by
  have counted : ((w.withHarts f).mark s).onDispatcher s
      (fun d => { d with delivered := d.delivered + 1 }) =
        ((w.mark s).onDispatcher s fun d => { d with delivered := d.delivered + 1 }).withHarts f := by
    rw [mark, onDispatcher_withHarts, onDispatcher_withHarts]
    rfl
  unfold opening announce
  dsimp only
  rw [counted]
  generalize (w.mark s).onDispatcher s (fun d => { d with delivered := d.delivered + 1 }) = v
  have trapped : (v.withHarts f).context frame = v.context frame := rfl
  rw [trapped, logUnknown_withHarts]
  split <;> rfl

theorem invocation_withHarts (a : Arrival n) (h : HandlerId) :
    (w.withHarts f).invocation a h = w.invocation a h := by
  rw [invocation, opening_withHarts]
  rfl

theorem newThread_withHarts (policy : InterruptPolicy) (stack : Area) (entry arg : Word) :
    (newThread policy stack entry arg).runFrom (w.withHarts f) =
      (((newThread policy stack entry arg).runFrom w).1,
        ((newThread policy stack entry arg).runFrom w).2.withHarts f) := by
  have code : (w.withHarts f).code = w.code := rfl
  rw [runFrom_newThread, runFrom_newThread, code]
  cases KernelThread.prepare (w.code.address .threadExit) stack entry arg policy <;> rfl

end Parts

section Harts

variable [Hart H] [Hart H'] {f : H → H'} (hom : Hart.Hom f) (w : World H n κ) (s : SystemId n)

include hom

theorem takeTrap_withHarts (frame : Word) :
    (w.withHarts f).takeTrap s frame = (w.takeTrap s frame).withHarts f := by
  have taken (h : H) : Hart.takeTrap (f h) = ((Hart.takeTrap h).1, f (Hart.takeTrap h).2) := by
    rw [Hart.takeTrap, Hart.takeTrap, hom.interruptsEnabled, hom.setInterrupts]
  have masked : (w.withHarts f).onSystem s
      (fun t => { t with hart := f (Hart.takeTrap (w.system s).hart).2 }) =
        (w.onSystem s fun t => { t with hart := (Hart.takeTrap (w.system s).hart).2 }).withHarts f :=
    onSystem_withHarts w s fun _ => rfl
  dsimp only [takeTrap]
  rw [system_withHarts, TrapSystem.withHart, taken, masked]
  rfl

theorem returnFromTrap_withHarts (frame : Word) :
    (w.withHarts f).returnFromTrap s frame = (w.returnFromTrap s frame).withHarts f :=
  onSystem_withHarts w s fun t =>
    congrArg (TrapSystem.mk t.dispatcher · t.config) (hom.setInterrupts _ t.hart)

theorem init_withHarts (config : TrapConfig) (h : HandlerId) (v : Word) :
    (w.withHarts f).onSystem s (fun t => t.init config h v) =
      (w.onSystem s fun t => t.init config h v).withHarts f := by
  refine onSystem_withHarts w s fun t => ?_
  simp only [TrapSystem.init, TrapSystem.withHart, hom.setVector, hom.setInterrupts]
  split <;> rfl

end Harts

/-! ## Runs -/

/-- A computation with its acts that goes along with another one: from the state with mapped harts it
ends the same, in the state with mapped harts, and the same happens. -/
def Follows (f : H → H') (x : Run H n κ α) (y : Run H' n κ α) (xs : World H n κ → List (Act n κ))
    (ys : World H' n κ → List (Act n κ)) : Prop :=
  ∀ w, y.runFrom (w.withHarts f) = ((x.runFrom w).1, (x.runFrom w).2.withHarts f) ∧
    ys (w.withHarts f) = xs w

section Follows

variable {f : H → H'}

theorem follows_dispatchWith {call : HandlerId → Event → Word → Run H n κ (Option Word)}
    {call' : HandlerId → Event → Word → Run H' n κ (Option Word)}
    {inside : HandlerId → Event → Word → World H n κ → List (Act n κ)}
    {inside' : HandlerId → Event → Word → World H' n κ → List (Act n κ)}
    (follows : ∀ h event frame, Follows f (call h event frame) (call' h event frame)
      (inside h event frame) (inside' h event frame)) (a : Arrival n) :
    Follows f (dispatchWith call a.system a.cause a.frame)
      (dispatchWith call' a.system a.cause a.frame)
      (dispatchActs call inside a) (dispatchActs call' inside' a) := by
  intro w
  have same : ((w.withHarts f).dispatcher a.system).handler = (w.dispatcher a.system).handler :=
    congrArg Dispatcher.handler (dispatcher_withHarts w a.system)
  have marks : (w.withHarts f).busy a.system = w.busy a.system := busy_withHarts w a.system
  unfold dispatchActs
  rw [same, marks]
  cases installed : (w.dispatcher a.system).handler with
  | none =>
    have installed' := same.trans installed
    rw [dispatchWith_of_handler_none installed, dispatchWith_of_handler_none installed']
    exact ⟨rfl, rfl⟩
  | some k =>
    have installed' := same.trans installed
    dsimp only
    cases marked : w.busy a.system with
    | true =>
      have marked' := marks.trans marked
      rw [dispatchWith_of_busy installed marked, dispatchWith_of_busy installed' marked',
        if_pos rfl, if_pos rfl]
      exact ⟨rfl, rfl⟩
    | false =>
      have idle := marks.trans marked
      obtain ⟨ran, acts⟩ := follows k (w.opening a.system k a.cause a.frame).1 a.frame
        (w.opening a.system k a.cause a.frame).2
      rw [dispatchWith_of_idle installed marked, dispatchWith_of_idle installed' idle,
        if_neg Bool.false_ne_true, if_neg Bool.false_ne_true, opening_withHarts,
        invocation_withHarts]
      dsimp only
      rw [ran, acts]
      dsimp only
      rw [unmark_withHarts]
      exact ⟨rfl, rfl⟩

variable [Hart H] [Hart H'] (hom : Hart.Hom f)

section Requests

variable {first : SystemId n → Cause → Word → Run H n κ Word}
  {second : SystemId n → Cause → Word → Run H' n κ Word}
  {acts : Arrival n → World H n κ → List (Act n κ)}
  {acts' : Arrival n → World H' n κ → List (Act n κ)}

include hom

theorem follows_quiet {r : Request n κ} (quiet : r.deliversTrap = false) (w : World H n κ) :
    (answerWith second r).runFrom (w.withHarts f) =
      (((answerWith first r).runFrom w).1, ((answerWith first r).runFrom w).2.withHarts f) := by
  cases r with
  | dispatch _ _ _ | handle _ _ | simulateTrap _ | yieldNow => cases quiet
  | install s h =>
    show (Except.ok ((w.withHarts f).dispatcher s).handler, (w.withHarts f).onDispatcher s fun _ =>
      (((w.withHarts f).dispatcher s).install h).2) = _
    rw [dispatcher_withHarts, onDispatcher_withHarts]
    rfl
  | init s config h v =>
    show (Except.ok (), (w.withHarts f).setUp s config h v) = _
    rw [setUp, init_withHarts hom]
    rfl
  | setInterrupts s on =>
    refine congrArg (Prod.mk (Except.ok ())) (onSystem_withHarts w s fun t => ?_)
    exact congrArg (TrapSystem.mk t.dispatcher · t.config) (hom.setInterrupts _ t.hart)
  | setHartInterrupts s on =>
    refine congrArg (Prod.mk (Except.ok ())) (onSystem_withHarts w s fun t => ?_)
    exact congrArg (TrapSystem.mk t.dispatcher · t.config) (hom.setInterrupts on t.hart)
  | setVector s v =>
    refine congrArg (Prod.mk (Except.ok ())) (onSystem_withHarts w s fun t => ?_)
    exact congrArg (TrapSystem.mk t.dispatcher · t.config) (hom.setVector v t.hart)
  | interruptsEnabled s =>
    show (Except.ok ((w.withHarts f).system s).interruptsEnabled, w.withHarts f) = _
    rw [system_withHarts, TrapSystem.interruptsEnabled, TrapSystem.withHart, hom.interruptsEnabled]
    rfl
  | hartInterrupts s =>
    show (Except.ok (Hart.interruptsEnabled ((w.withHarts f).system s).hart), w.withHarts f) = _
    rw [system_withHarts, TrapSystem.withHart, hom.interruptsEnabled]
    rfl
  | vector s =>
    show (Except.ok (Hart.vector ((w.withHarts f).system s).hart), w.withHarts f) = _
    rw [system_withHarts, TrapSystem.withHart, hom.vector]
    rfl
  | config s =>
    show (Except.ok ((w.withHarts f).system s).config, w.withHarts f) = _
    rw [system_withHarts]
    rfl
  | newThread s stack entry arg =>
    show (newThread ((w.withHarts f).system s).policy stack entry arg).runFrom (w.withHarts f) = _
    rw [system_withHarts]
    exact newThread_withHarts w _ stack entry arg
  | newThreadUnder policy stack entry arg => exact newThread_withHarts w policy stack entry arg
  | delivered s =>
    show (Except.ok ((w.withHarts f).dispatcher s).delivered, w.withHarts f) = _
    rw [dispatcher_withHarts]
    rfl
  | unknownTraps s =>
    show (Except.ok ((w.withHarts f).dispatcher s).unknownTraps, w.withHarts f) = _
    rw [dispatcher_withHarts]
    rfl
  | holdLog s held =>
    exact congrArg (Prod.mk (Except.ok ())) (onDispatcher_withHarts w s _)
  | _ => rfl

variable (follows : ∀ a : Arrival n, Follows f (first a.system a.cause a.frame)
  (second a.system a.cause a.frame) (acts a) (acts' a))

include follows

theorem follows_simulateTrapWith (frame : Word) :
    Follows f (simulateTrapWith first frame) (simulateTrapWith second frame)
      (simulateActs first acts frame) (simulateActs second acts' frame) := by
  intro w
  by_cases null : frame = 0
  · subst null
    exact ⟨rfl, rfl⟩
  · have taken := takeTrap_withHarts hom w .global frame
    have read : ((w.takeTrap .global frame).withHarts f).context frame =
        (w.takeTrap .global frame).context frame := rfl
    rw [runFrom_simulateTrapWith first w null, runFrom_simulateTrapWith second _ null,
      simulateActs, simulateActs, if_neg null, if_neg null]
    dsimp only
    rw [taken, read]
    generalize ((w.takeTrap .global frame).context frame).cause = cause
    obtain ⟨ran, inside⟩ := follows ⟨.global, cause, frame⟩ (w.takeTrap .global frame)
    dsimp only at ran inside
    rw [ran, inside]
    generalize (first .global cause frame).runFrom (w.takeTrap .global frame) = r
    obtain ⟨e | next, u⟩ := r
    · exact ⟨rfl, rfl⟩
    · dsimp only
      rw [returnFromTrap_withHarts hom]
      split <;> exact ⟨rfl, rfl⟩

theorem follows_answerWith (r : Request n κ) :
    Follows f (answerWith first r) (answerWith second r) (requestActs first acts r)
      (requestActs second acts' r) := by
  intro w
  by_cases quiet : r.deliversTrap = false
  · rw [requestActs_of_quiet quiet, requestActs_of_quiet quiet]
    exact ⟨follows_quiet hom quiet w, rfl⟩
  · cases r with
    | dispatch s cause frame => exact follows ⟨s, cause, frame⟩ w
    | handle s frame =>
      by_cases null : frame = 0
      · subst null
        exact ⟨rfl, rfl⟩
      · obtain ⟨ran, inside⟩ := follows ⟨s, (w.context frame).cause, frame⟩ w
        refine ⟨?_, ?_⟩
        · exact (runFrom_handleWith second _ s null).trans
            (ran.trans (by rw [← runFrom_handleWith first w s null]; rfl))
        · exact (if_neg null).trans (inside.trans (if_neg null).symm)
    | simulateTrap frame => exact follows_simulateTrapWith hom follows frame w
    | yieldNow =>
      obtain ⟨ran, inside⟩ :=
        follows_simulateTrapWith hom follows w.yieldFrame (w.pushed w.yieldFrame w.yieldContext)
      have pushed : (w.withHarts f).pushed (w.withHarts f).yieldFrame (w.withHarts f).yieldContext =
          (w.pushed w.yieldFrame w.yieldContext).withHarts f := rfl
      have frame : (w.withHarts f).yieldFrame = w.yieldFrame := rfl
      refine ⟨?_, ?_⟩
      · show (yieldWith second).runFrom (w.withHarts f) =
          (((yieldWith first).runFrom w).1, ((yieldWith first).runFrom w).2.withHarts f)
        rw [runFrom_yieldWith, runFrom_yieldWith, pushed, frame]
        dsimp only
        rw [ran]
        rfl
      · rw [requestActs, requestActs, pushed, frame, inside]
        rfl
    | _ => exact absurd rfl quiet

theorem follows_run (p : Script n κ α) :
    Follows f (p.run (answerWith first)) (p.run (answerWith second))
      (scriptActs (answerWith first) (requestActs first acts) p)
      (scriptActs (answerWith second) (requestActs second acts') p) := by
  induction p with
  | done a => exact fun w => ⟨rfl, rfl⟩
  | fail e => exact fun w => ⟨rfl, rfl⟩
  | ask r next ih =>
    intro w
    obtain ⟨ran, inside⟩ := follows_answerWith hom follows r w
    rw [Program.run_ask, Program.run_ask, Attempt.runFrom_bind, Attempt.runFrom_bind, scriptActs,
      scriptActs, ran, inside]
    generalize (answerWith first r).runFrom w = q
    obtain ⟨e | x, u⟩ := q
    · exact ⟨rfl, rfl⟩
    · obtain ⟨ran', after⟩ := ih x u
      dsimp only
      rw [ran', after]
      exact ⟨rfl, rfl⟩

end Requests

section History

variable (handlers : Handlers n κ)

include hom

theorem follows_deliver (depth : Nat) (a : Arrival n) :
    Follows f (deliver handlers depth a.system a.cause a.frame)
      (deliver handlers depth a.system a.cause a.frame)
      (arrivalActs handlers depth a) (arrivalActs handlers depth a) := by
  induction depth generalizing a with
  | zero => exact follows_dispatchWith (fun _ _ _ _ => ⟨rfl, rfl⟩) a
  | succ depth ih =>
    exact follows_dispatchWith (fun h event frame => follows_run hom ih (handlers h event frame)) a

theorem follows_answer (r : Request n κ) :
    Follows f (answer handlers r) (answer handlers r)
      (requestActs (deliver handlers (n + 1)) (arrivalActs handlers (n + 1)) r)
      (requestActs (deliver handlers (n + 1)) (arrivalActs handlers (n + 1)) r) :=
  follows_answerWith hom (follows_deliver hom handlers (n + 1)) r

theorem history_withHarts (rs : List (Request n κ)) (w : World H n κ) :
    history handlers rs (w.withHarts f) = history handlers rs w ∧
      perform handlers rs (w.withHarts f) = (perform handlers rs w).withHarts f := by
  induction rs generalizing w with
  | nil => exact ⟨rfl, rfl⟩
  | cons r rs ih =>
    obtain ⟨ran, inside⟩ := follows_answer hom handlers r w
    obtain ⟨rest, ended⟩ := ih ((answer handlers r).runFrom w).2
    rw [history, history, perform, perform, ran, inside]
    dsimp only
    rw [rest, ended]
    exact ⟨rfl, rfl⟩

theorem effect_withHarts (x : Act n κ) (w : World H n κ) :
    x.effect (w.withHarts f) = (x.effect w).withHarts f := by
  cases x with
  | request r =>
    have none : ∀ a : Arrival n, Follows f (throw .nestingExhausted : Run H n κ Word)
        (throw .nestingExhausted) (fun _ => []) fun _ => [] := fun _ _ => ⟨rfl, rfl⟩
    exact congrArg Prod.snd (follows_answerWith hom none r w).1
  | take frame => exact takeTrap_withHarts hom w .global frame
  | resume frame => exact returnFromTrap_withHarts hom w .global frame
  | enter a call =>
    exact congrArg Prod.snd (opening_withHarts w a.system call.handler a.cause a.frame)
  | leave call _ _ => exact unmark_withHarts w call.system
  | _ => rfl

theorem after_withHarts (acts : List (Act n κ)) (w : World H n κ) :
    (w.withHarts f).after acts = (w.after acts).withHarts f := by
  induction acts generalizing w with
  | nil => rfl
  | cons x acts ih => rw [after_cons, after_cons, effect_withHarts hom, ih]

end History

end Follows

end World

/-! ## What the operations on harts keep -/

/-- A property of harts that the operations on them keep. -/
structure Hart.Keeps [Hart H] (P : H → Prop) : Prop where
  setVector : ∀ {h} v, P h → P (Hart.setVector v h)
  setInterrupts : ∀ {h} on, P h → P (Hart.setInterrupts on h)

section Keeps

variable [Hart H] {P : H → Prop} (keeps : Hart.Keeps P)

include keeps

theorem Hart.Keeps.onSystem (r : Request n κ) (t : SystemId n) {u : TrapSystem H} (h : P u.hart) :
    P (r.onSystem t u).hart := by
  have vectored (v : Word) := keeps.setVector v h
  cases r with
  | init s config handler v =>
    rw [Request.onSystem]
    split
    · show P (if config.interrupts.allowsInterrupts then Hart.setVector v u.hart
        else Hart.setInterrupts false (Hart.setVector v u.hart))
      split
      · exact vectored v
      · exact keeps.setInterrupts false (vectored v)
    · exact h
  | setInterrupts s on | setHartInterrupts s on =>
    rw [Request.onSystem]
    split
    · exact keeps.setInterrupts _ h
    · exact h
  | setVector s v =>
    rw [Request.onSystem]
    split
    · exact vectored v
    · exact h
  | install s _ | holdLog s _ =>
    rw [Request.onSystem]
    split <;> exact h
  | _ => exact h

theorem World.kept_effect {w : World H n κ} {calls : List (Invocation n)} {x : Act n κ}
    (lawful : x.Lawful w calls) (start : ∀ s, P (w.system s).hart) (s : SystemId n) :
    P ((x.effect w).system s).hart := by
  rw [(settings_effect lawful s).1]
  cases x with
  | request r => exact keeps.onSystem r s (start s)
  | take F =>
    rw [settings]
    split
    · exact keeps.setInterrupts false (start .global)
    · exact start s
  | resume F =>
    rw [settings]
    split
    · exact keeps.setInterrupts _ (start s)
    · exact start s
  | _ => exact start s

theorem World.kept_after {w : World H n κ} {calls : List (Invocation n)} {acts : List (Act n κ)}
    (lawful : LawfulFrom w calls acts) (start : ∀ s, P (w.system s).hart) (s : SystemId n) :
    P ((w.after acts).system s).hart :=
  lawful.invariant (P := fun v _ => ∀ s, P (v.system s).hart)
    (fun _ _ _ allowed kept => kept_effect keeps allowed kept) start s

end Keeps

/-! ## Native and simulated harts -/

theorem bit_mie (i : Nat) : Status.mie.bit i = decide (3 = i) :=
  Nat.testBit_two_pow (n := 3) (m := i)

theorem and_mie_ne_zero (w : Word) : (w &&& Status.mie != 0) = w.bit 3 := by
  have mask : (w &&& Status.mie).toNat = (w.bit 3).toNat * 2 ^ 3 := by
    rw [UInt64.toNat_and]
    exact Nat.and_two_pow w.toNat 3
  cases set : w.bit 3 with
  | false =>
    have zero : w &&& Status.mie = 0 := UInt64.toNat_inj.mp (by rw [mask, set]; rfl)
    rw [zero]
    rfl
  | true =>
    have eight : w &&& Status.mie = Status.mie := UInt64.toNat_inj.mp (by rw [mask, set]; rfl)
    rw [eight]
    rfl

namespace NativeHart

/-- The simulated hart with the vector of a native one and with bit 3 of its status. -/
def simulated (h : NativeHart) : SimulatedHart := ⟨h.mtvec, h.mstatus.bit 3⟩

theorem bit_setInterrupts (on : Bool) (h : NativeHart) (i : Nat) :
    (Hart.setInterrupts on h).mstatus.bit i = if i = 3 then on else h.mstatus.bit i := by
  cases on with
  | true =>
    show (h.mstatus ||| Status.mie).bit i = _
    rw [Word.bit_or, bit_mie]
    by_cases enable : i = 3 <;> simp [enable, eq_comm]
  | false =>
    show (h.mstatus &&& ~~~Status.mie).bit i = _
    rw [Word.bit_and_not, bit_mie]
    by_cases enable : i = 3 <;> simp [enable, eq_comm]

theorem hom_simulated : Hart.Hom simulated where
  vector _ := rfl
  setVector _ _ := rfl
  interruptsEnabled h := (and_mie_ne_zero h.mstatus).symm
  setInterrupts on h :=
    congrArg (SimulatedHart.mk h.mtvec) (bit_setInterrupts on h 3).symm

theorem keeps_other_bits (mstatus : Word) :
    Hart.Keeps fun h : NativeHart => ∀ i ≠ 3, h.mstatus.bit i = mstatus.bit i where
  setVector _ h := h
  setInterrupts on h i other := by rw [bit_setInterrupts, if_neg other, h i other]

end NativeHart

namespace World

/-- What tells a system over a native hart from one over a simulated hart: the other bits of the
status, which nothing touches. -/
structure Interchangeable (handlers : Handlers n κ) (rs : List (Request n κ)) (mstatus : Word)
    (w : World NativeHart n κ) (v : World SimulatedHart n κ) : Prop where
  /-- The same happens: traps are taken, refused or passed on, handlers are called with the same and
  end the same, with a frame or with a fault, and the same frames are resumed. -/
  history_eq : history handlers rs v = history handlers rs w
  /-- At every moment, also inside handlers, every request is answered the same, or fails the
  same. -/
  answer_eq : ∀ {pre}, pre <+: history handlers rs w → ∀ r,
    ((answer handlers r).runFrom (v.after pre)).1 = ((answer handlers r).runFrom (w.after pre)).1
  /-- So are the requests that are made. -/
  outcome_eq : ∀ {before r rest}, rs = before ++ r :: rest →
    ((answer handlers r).runFrom (perform handlers before v)).1 =
      ((answer handlers r).runFrom (perform handlers before w)).1
  /-- At every moment the states are the same but for the harts. -/
  state_eq : ∀ {pre}, pre <+: history handlers rs w →
    v.after pre = (w.after pre).withHarts NativeHart.simulated
  /-- Of the status only bit 3 changes. -/
  bit_eq : ∀ {pre}, pre <+: history handlers rs w → ∀ s, ∀ i ≠ 3,
    ((w.after pre).system s).hart.mstatus.bit i = mstatus.bit i

/-- A system over a native hart whose interrupts are off and one over a simulated hart cannot be told
apart. -/
theorem interchangeable_boot (handlers : Handlers n κ) (code : CodeMap) (stack : Word) (kernel : κ)
    (rs : List (Request n κ)) {mstatus : Word} (off : mstatus.bit 3 = false) :
    let w := boot code (⟨0, mstatus⟩ : NativeHart) n stack kernel
    let v := boot code SimulatedHart.reset n stack kernel
    Interchangeable handlers rs mstatus w v ∧
      w.after (history handlers rs w) = perform handlers rs w ∧
      v.after (history handlers rs v) = perform handlers rs v := by
  intro w v
  have fresh (s : SystemId n) : w.system s = .fresh ⟨0, mstatus⟩ := by
    simp [w, system, boot]
  have booted : v = w.withHarts NativeHart.simulated := by
    have reset : NativeHart.simulated ⟨0, mstatus⟩ = .reset :=
      congrArg (SimulatedHart.mk 0) off
    simp [v, w, boot, withHarts, TrapSystem.withHart, TrapSystem.fresh, reset]
  have hom := NativeHart.hom_simulated
  obtain ⟨trail, reached⟩ := trail_history handlers rs w
  refine ⟨⟨?_, ?_, ?_, ?_, ?_⟩, reached, (trail_history handlers rs v).2⟩
  · rw [booted, (history_withHarts hom handlers rs w).1]
  · intro pre _ r
    rw [booted, after_withHarts hom, (follows_answer hom handlers r _).1]
  · intro before r rest _
    rw [booted, (history_withHarts hom handlers before w).2, (follows_answer hom handlers r _).1]
  · intro pre _
    rw [booted, after_withHarts hom]
  · intro pre hp s
    have lawful := (trail.lawfulFrom []).upTo hp
    refine kept_after (NativeHart.keeps_other_bits mstatus) lawful (fun t => ?_) s
    rw [fresh]
    exact fun _ _ => rfl

def switchingOn : Handlers 0 Unit := fun _ _ frame =>
  Program.ask (.setInterrupts .global true) fun _ => .done (some frame)

theorem interchangeable_switchingOn :
    let rs := [.init .global .masking ⟨0⟩ 0x80000000, .handle .global mainFrame,
      .interruptsEnabled .global]
    let w := boot .standard (⟨0, 0xa00001800⟩ : NativeHart) 0 0x80130000 ()
    let v := boot .standard SimulatedHart.reset 0 0x80130000 ()
    Word.bit 0xa00001800 3 = false ∧ Interchangeable switchingOn rs 0xa00001800 w v ∧
      ((perform switchingOn rs w).system .global).hart = ⟨0x80000000, 0xa00001808⟩ ∧
      ((perform switchingOn rs v).system .global).hart = ⟨0x80000000, true⟩ := by
  intro rs w v
  have off : Word.bit 0xa00001800 3 = false := by decide
  exact ⟨off, (interchangeable_boot switchingOn .standard 0x80130000 () rs off).1,
    by decide +kernel, by decide +kernel⟩

end World

end HartLayer
