import HartLayer.Proofs.FatalTraps

/-!
# Whether interrupts are enabled

The answer of the global system to the question whether interrupts are enabled can be told from
what has happened so far.

* Which policy is in force is told by the configuration that was chosen last (`config_after`).
* The enable bit of the hart is what the last act left that touches it (`World.switches?`): requests
  to switch it, the setting up with a policy that keeps it off, the taking of a trap, and the return
  from one (`interruptible_after`).
* Both are told at every moment, also inside handlers and behind traps that failed.
* A trap that no handler takes leaves the hart as it was, and all else but the status of its frame
  (`simulateTrap_of_bare`, `yieldNow_of_bare`).
-/

namespace HartLayer

variable {κ : Type} {n : Nat}

namespace Act

def configures? : Act n κ → Option TrapConfig
  | request (.init s config _ _) => if s = .global then some config else none
  | _ => none

/-- The policy that is in force in the global system after a list of acts from start-up on. -/
def policy (acts : List (Act n κ)) : InterruptPolicy :=
  ((acts.filterMap configures?).getLast?.getD .standard).interrupts

end Act

namespace World

/-- What an act leaves the enable bit of the global hart at, if it touches it. The acts before it
tell the policy. -/
def switches? (w : World SimulatedHart n κ) (pre : List (Act n κ)) : Act n κ → Option Bool
  | .request (.setInterrupts s on) =>
    if s = .global then some ((Act.policy pre).allowsInterrupts && on) else none
  | .request (.setHartInterrupts s on) => if s = .global then some on else none
  | .request (.init s config _ _) =>
    if s = .global ∧ config.interrupts = .alwaysDisabled then some false else none
  | .take _ => some false
  | .resume F => some ((w.after pre).context F).resumesWithInterrupts
  | _ => none

/-- What the acts of a list leave the enable bit of the global hart at, one after the other. -/
def switchings (w : World SimulatedHart n κ) (acts : List (Act n κ)) : List Bool :=
  (Act.moments acts).filterMap fun p => w.switches? p.1 p.2

theorem switchings_concat (w : World SimulatedHart n κ) (acts : List (Act n κ)) (x : Act n κ) :
    w.switchings (acts ++ [x]) = w.switchings acts ++ (w.switches? acts x).toList := by
  rw [switchings, Act.moments_concat, List.filterMap_append, ← switchings]
  cases h : w.switches? acts x <;> simp [h]

/-! ## Harts and configurations -/

section Settings

variable {H : Type} [Hart H] {w : World H n κ} {calls : List (Invocation n)}

/-- What an act does to the hart and the configuration of a system. -/
def settings (w : World H n κ) (s : SystemId n) : Act n κ → TrapSystem H
  | .request r => r.onSystem s (w.system s)
  | .take _ =>
    if .global = s then { w.system s with hart := (Hart.takeTrap (w.system .global).hart).2 }
    else w.system s
  | .resume F =>
    if .global = s then
      { w.system s with hart := Hart.returnFromTrap (w.system s).hart (w.context F) }
    else w.system s
  | _ => w.system s

theorem settings_effect {x : Act n κ} (lawful : x.Lawful w calls) (s : SystemId n) :
    ((x.effect w).system s).hart = (w.settings s x).hart ∧
      ((x.effect w).system s).config = (w.settings s x).config := by
  cases x with
  | request r =>
    rw [Act.effect, system_settle lawful]
    exact ⟨rfl, rfl⟩
  | enter a call =>
    rw [Act.effect, system_opening_eq]
    split <;> exact ⟨rfl, rfl⟩
  | leave call _ _ =>
    rw [Act.effect, system_unmark]
    split <;> exact ⟨rfl, rfl⟩
  | take F =>
    rw [Act.effect, system_takeTrap, system_onSystem]
    exact ⟨rfl, rfl⟩
  | resume F =>
    rw [Act.effect, returnFromTrap, system_onSystem]
    exact ⟨rfl, rfl⟩
  | _ => exact ⟨rfl, rfl⟩

theorem config_effect {x : Act n κ} (lawful : x.Lawful w calls) :
    ((x.effect w).system .global).config = x.configures?.getD (w.system .global).config := by
  rw [(settings_effect lawful .global).2]
  cases x with
  | request r =>
    cases r with
    | init s config h vector =>
      rw [settings, Request.onSystem, Act.configures?]
      split <;> rfl
    | install s _ | setInterrupts s _ | setHartInterrupts s _ | setVector s _ | holdLog s _ =>
      rw [settings, Request.onSystem]
      split <;> rfl
    | _ => rfl
  | _ => rfl

theorem config_after {acts : List (Act n κ)} (lawful : LawfulFrom w calls acts) :
    ((w.after acts).system .global).config =
      (acts.filterMap Act.configures?).getLast?.getD (w.system .global).config := by
  induction acts using List.reverseRecOn with
  | nil => rfl
  | append_singleton acts x ih =>
    rw [after_append, after_cons, after_nil, config_effect lawful.act, ih lawful.before,
      List.filterMap_append]
    cases h : x.configures? <;> simp [h]

end Settings

/-! ## The enable bit -/

section Bit

variable {w : World SimulatedHart n κ} {calls : List (Invocation n)} {acts : List (Act n κ)}

theorem policy_after (lawful : LawfulFrom w calls acts)
    (start : (w.system .global).config = .standard) :
    ((w.after acts).system .global).policy = Act.policy acts := by
  rw [TrapSystem.policy, config_after lawful, start]
  rfl

theorem interruptible_concat {x : Act n κ} (lawful : x.Lawful (w.after acts) calls)
    (policy : ((w.after acts).system .global).policy = Act.policy acts) :
    (w.after (acts ++ [x])).interruptible =
      (w.switches? acts x).getD (w.after acts).interruptible := by
  rw [after_append, after_cons, after_nil, interruptible, (settings_effect lawful .global).1]
  cases x with
  | request r =>
    cases r with
    | init s config h vector =>
      rw [settings, Request.onSystem, switches?]
      by_cases e : s = .global
      · obtain ⟨_ | _⟩ := config
        · rw [if_pos e, if_neg fun both => absurd both.2 (by decide)]
          rfl
        · rw [if_pos e, if_pos ⟨e, rfl⟩]
          rfl
      · rw [if_neg e, if_neg fun both => e both.1]
        rfl
    | setInterrupts s on =>
      rw [settings, Request.onSystem, switches?, ← policy]
      split <;> rfl
    | setHartInterrupts s on =>
      rw [settings, Request.onSystem, switches?]
      split <;> rfl
    | install s _ | setVector s _ | holdLog s _ =>
      rw [settings, Request.onSystem]
      split <;> rfl
    | _ => rfl
  | take F => rfl
  | resume F => rfl
  | _ => rfl

theorem interruptible_after (lawful : LawfulFrom w calls acts)
    (start : (w.system .global).config = .standard) (off : w.interruptible = false) :
    (w.after acts).interruptible = (w.switchings acts).getLast?.getD false := by
  induction acts using List.reverseRecOn with
  | nil => exact off
  | append_singleton acts x ih =>
    rw [interruptible_concat lawful.act (policy_after lawful.before start), ih lawful.before,
      switchings_concat]
    cases h : w.switches? acts x <;> simp

end Bit

/-! ## Traps -/

section Traps

variable {handlers : Handlers n κ} {v left : World SimulatedHart n κ} {F : Word} {e : Fault}

theorem during_simulateTrap_of_error (frame : F ≠ 0)
    (ended : (answer handlers (.simulateTrap F)).runFrom v = (.error e, left)) :
    during handlers (.simulateTrap F) v = .take F :: duringDispatch handlers F v := by
  rw [answer_simulateTrap_eq_error frame] at ended
  have failed : (deliver handlers (n + 1) .global (v.context F).cause F).runFrom
      (v.takeTrap .global F) = (.error e, left) := ended
  rw [during_simulateTrap frame, failed]
  exact List.append_nil _

end Traps

/-! ## Traps that no handler takes -/

section Bare

variable {H : Type}

theorem onSystem_onSystem (w : World H n κ) (s : SystemId n) (f g : TrapSystem H → TrapSystem H) :
    (w.onSystem s f).onSystem s g = w.onSystem s fun t => g (f t) := by
  simp [onSystem]

theorem onSystem_self (w : World H n κ) (s : SystemId n) {f : TrapSystem H → TrapSystem H}
    (same : f (w.system s) = w.system s) : w.onSystem s f = w := by
  have same' : f w.systems[s] = w.systems[s] := same
  have systems : w.systems.set s (f w.systems[s]) = w.systems := by
    rw [same']
    exact Vector.set_getElem_self _
  rw [onSystem, systems]

theorem dispatch_of_bare [Hart H] {w : World H n κ} {s : SystemId n}
    (bare : (w.dispatcher s).handler = none) (handlers : Handlers n κ) (cause : Cause) (F : Word) :
    (answer handlers (.dispatch s cause F)).runFrom w = (.ok F, w) :=
  runFrom_deliver_of_handler_none handlers (n + 1) bare cause F

theorem handle_of_bare [Hart H] {w : World H n κ} {s : SystemId n}
    (bare : (w.dispatcher s).handler = none) (handlers : Handlers n κ) {F : Word} (frame : F ≠ 0) :
    (answer handlers (.handle s F)).runFrom w = (.ok F, w) := by
  rw [runFrom_answer_handle, if_neg frame]
  exact dispatch_of_bare bare handlers _ F

theorem simulateTrap_null [Hart H] (handlers : Handlers n κ) (w : World H n κ) :
    (answer handlers (.simulateTrap 0)).runFrom w = (.error .noFrame, w) := rfl

/-- The state with the enable bit of the global hart saved in a frame. -/
def statusSaved (w : World SimulatedHart n κ) (F : Word) : World SimulatedHart n κ :=
  { w with memory := w.memory.setStatus F (Status.resuming w.interruptible) }

variable {w : World SimulatedHart n κ} {F : Word}

theorem changesOnly_statusSaved (w : World SimulatedHart n κ) (F : Word) :
    ChangesOnly F { w.context F with mstatus := Status.resuming w.interruptible } w
      (w.statusSaved F) :=
  ⟨w.memory.context_setStatus F _, w.memory.context_setStatus_apart _, rfl⟩

/-- The return to the frame whose trap was taken switches the hart back to what it was. -/
theorem returnFromTrap_takeTrap (w : World SimulatedHart n κ) (F : Word) :
    (w.takeTrap .global F).returnFromTrap .global F = w.statusSaved F := by
  have saved : ((w.takeTrap .global F).context F).resumesWithInterrupts = w.interruptible := by
    rw [context_takeTrap]
    exact resumesWithInterrupts_of_mstatus rfl
  have taken : w.takeTrap .global F = (w.statusSaved F).onSystem .global fun t =>
      { t with hart := (Hart.takeTrap (w.system .global).hart).2 } := rfl
  simp only [returnFromTrap, Hart.returnFromTrap, saved]
  rw [taken, onSystem_onSystem]
  exact onSystem_self _ .global rfl

theorem simulateTrap_of_bare (bare : (w.dispatcher .global).handler = none)
    (handlers : Handlers n κ) (frame : F ≠ 0) :
    (answer handlers (.simulateTrap F)).runFrom w = (.ok F, w.statusSaved F) := by
  have bare' : ((w.takeTrap .global F).dispatcher .global).handler = none := by
    rw [dispatcher_takeTrap, bare]
  have passed := dispatch_of_bare bare' handlers (w.context F).cause F
  refine Prod.ext ?_ ?_
  · rw [runFrom_answer_simulateTrap, if_neg frame, passed]
  · rw [answer_simulateTrap_snd handlers frame, passed]
    exact (if_neg frame).trans (returnFromTrap_takeTrap w F)

theorem yieldNow_of_bare (bare : (w.dispatcher .global).handler = none) (handlers : Handlers n κ)
    (frame : w.yieldFrame ≠ 0) :
    (answer handlers .yieldNow).runFrom w =
      (.ok (), (w.setContext w.yieldFrame w.yieldContext).statusSaved w.yieldFrame) := by
  have passed := simulateTrap_of_bare (w := w.pushed w.yieldFrame w.yieldContext) bare handlers
    frame
  have bit : (w.pushed w.yieldFrame w.yieldContext).interruptible = w.interruptible := rfl
  have bit' : (w.setContext w.yieldFrame w.yieldContext).interruptible = w.interruptible := rfl
  rw [statusSaved, bit] at passed
  rw [statusSaved, bit']
  refine Prod.ext ?_ ?_
  · rw [runFrom_answer_yieldNow, passed]
    rfl
  · rw [answer_yieldNow_snd, passed]
    rfl

end Bare

/-! ## The answer -/

section Answer

variable {w v : World SimulatedHart n κ} {handlers : Handlers n κ}

/-- Where no handler is installed, a simulated trap leaves the enable bit as it was. -/
theorem interruptible_simulateTrap_of_bare (bare : (v.dispatcher .global).handler = none)
    (F : Word) :
    ((answer handlers (.simulateTrap F)).runFrom v).2.interruptible = v.interruptible := by
  by_cases null : F = 0
  · rw [null, simulateTrap_null]
  · rw [simulateTrap_of_bare bare handlers null]
    rfl

theorem interruptible_yieldNow_of_bare (bare : (v.dispatcher .global).handler = none) :
    ((answer handlers .yieldNow).runFrom v).2.interruptible = v.interruptible := by
  have bare' : ((v.pushed v.yieldFrame v.yieldContext).dispatcher .global).handler = none := bare
  have kept : ((answer handlers (.simulateTrap v.yieldFrame)).runFrom
      (v.pushed v.yieldFrame v.yieldContext)).2.interruptible =
        (v.pushed v.yieldFrame v.yieldContext).interruptible :=
    interruptible_simulateTrap_of_bare bare' v.yieldFrame
  rw [answer_yieldNow_snd]
  generalize (answer handlers (.simulateTrap v.yieldFrame)).runFrom
    (v.pushed v.yieldFrame v.yieldContext) = r at kept ⊢
  exact kept

theorem observes_setInterrupts (masking : (v.system .global).policy = .masking) (on : Bool) :
    ∃ u, (answer handlers (.setInterrupts .global on)).runFrom v = (.ok (), u) ∧
      (answer handlers (.interruptsEnabled .global)).runFrom u = (.ok on, u) ∧
      (answer handlers (.setInterrupts .global on)).runFrom u = (.ok (), u) := by
  refine ⟨v.onSystem .global fun u => u.setInterrupts on, rfl, ?_, ?_⟩
  · refine Prod.ext (congrArg Except.ok ?_) rfl
    rw [system_onSystem_self]
    show ((v.system .global).policy.allowsInterrupts &&
      ((v.system .global).policy.allowsInterrupts && on)) = on
    rw [masking]
    rfl
  · refine Prod.ext rfl ?_
    exact (onSystem_onSystem v .global _ fun u => u.setInterrupts on).trans rfl

theorem completes_simulateTrap {F next : Word} {left : World SimulatedHart n κ} (frame : F ≠ 0)
    (chosen : next ≠ 0) (ended : (answer handlers (.simulateTrap F)).runFrom v = (.ok next, left)) :
    during handlers (.simulateTrap F) v =
        .take F :: duringDispatch handlers F v ++ [.resume next] ∧
      left.interruptible = (left.context next).resumesWithInterrupts := by
  have happened := during_simulateTrap_of_ok frame chosen ended
  have reached := after_during handlers (.simulateTrap F) v
  rw [ended, happened, after_append] at reached
  dsimp only at reached
  rw [← reached]
  exact ⟨happened, interruptible_resume _ next⟩

theorem fails_simulateTrap {pre : List (Act n κ)} {F : Word} {e : Fault}
    {left : World SimulatedHart n κ} (lawful : LawfulFrom w [] pre) (frame : F ≠ 0)
    (ended : (answer handlers (.simulateTrap F)).runFrom (w.after pre) = (.error e, left)) :
    let inside := duringDispatch handlers F (w.after pre)
    during handlers (.simulateTrap F) (w.after pre) = .take F :: inside ∧
      LawfulFrom w [] (pre ++ .take F :: inside) ∧ w.after (pre ++ .take F :: inside) = left := by
  have happened := during_simulateTrap_of_error frame ended
  have whole := lawfulFrom_append_during handlers lawful (.simulateTrap F)
  have reached := after_during handlers (.simulateTrap F) (w.after pre)
  rw [ended, ← after_append, happened] at reached
  rw [happened] at whole
  exact ⟨happened, whole, reached⟩

/-- Whether interrupts are enabled, and what switches them, during a list of acts. -/
structure AnswersInterrupts (handlers : Handlers n κ) (w : World SimulatedHart n κ)
    (t : List (Act n κ)) : Prop where
  /-- At every moment the bit of the hart is what was left last by what touches it; off at first. -/
  bit_eq : ∀ {pre}, pre <+: t →
    (w.after pre).interruptible = (w.switchings pre).getLast?.getD false
  /-- Interrupts are said to be enabled exactly if the policy in force lets them be and the bit was
  left on. -/
  enabled_iff : ∀ {pre}, pre <+: t → ∃ on,
    (answer handlers (.interruptsEnabled .global)).runFrom (w.after pre) = (.ok on, w.after pre) ∧
      (on = true ↔ Act.policy pre = .masking ∧ (w.switchings pre).getLast? = some true)
  /-- Where the policy lets them be, what they are switched to is what is said, and switching them
  again changes nothing. -/
  observed : ∀ {pre}, pre <+: t → Act.policy pre = .masking → ∀ on, ∃ v,
    (answer handlers (.setInterrupts .global on)).runFrom (w.after pre) = (.ok (), v) ∧
      (answer handlers (.interruptsEnabled .global)).runFrom v = (.ok on, v) ∧
      (answer handlers (.setInterrupts .global on)).runFrom v = (.ok (), v)
  /-- A handler that is called for a trap that was taken finds them off. -/
  masked : ∀ {pre post F a call}, t = pre ++ .take F :: .enter a call :: post →
    let begun := w.after (pre ++ [.take F, .enter a call])
    begun.interruptible = false ∧
      (answer handlers (.interruptsEnabled .global)).runFrom begun = (.ok false, begun)
  /-- A trap that is completed ends with the return to a frame, and brings back its bit. -/
  completed : ∀ {pre F next left}, pre <+: t → F ≠ 0 → next ≠ 0 →
    (answer handlers (.simulateTrap F)).runFrom (w.after pre) = (.ok next, left) →
    during handlers (.simulateTrap F) (w.after pre) =
      .take F :: duringDispatch handlers F (w.after pre) ++ [.resume next] ∧
    left.interruptible = (left.context next).resumesWithInterrupts
  /-- A trap that fails ends without a return, and the bit is what was left since it was taken. -/
  failed : ∀ {pre F e left}, pre <+: t → F ≠ 0 →
    (answer handlers (.simulateTrap F)).runFrom (w.after pre) = (.error e, left) →
    let inside := duringDispatch handlers F (w.after pre)
    during handlers (.simulateTrap F) (w.after pre) = .take F :: inside ∧
    left.interruptible = (w.switchings (pre ++ .take F :: inside)).getLast?.getD false
  /-- Where no handler is installed, a trap leaves the bit as it was. -/
  passed : ∀ {pre}, pre <+: t → Act.installed .global pre = none →
    (∀ F, ((answer handlers (.simulateTrap F)).runFrom (w.after pre)).2.interruptible =
      (w.after pre).interruptible) ∧
    ((answer handlers .yieldNow).runFrom (w.after pre)).2.interruptible =
      (w.after pre).interruptible

theorem answersInterrupts_of_trail {t : List (Act n κ)} (trail : Trail handlers w t)
    (start : (w.system .global).config = .standard) (off : w.interruptible = false)
    (bare : (w.dispatcher .global).handler = none) : AnswersInterrupts handlers w t := by
  have before : ∀ {pre}, pre <+: t → LawfulFrom w [] pre := (trail.lawfulFrom []).upTo
  have bit : ∀ {pre}, pre <+: t →
      (w.after pre).interruptible = (w.switchings pre).getLast?.getD false :=
    fun hp => interruptible_after (before hp) start off
  have said (v : World SimulatedHart n κ) :
      (v.system .global).interruptsEnabled =
        ((v.system .global).policy.allowsInterrupts && v.interruptible) := rfl
  refine ⟨bit, ?enabled, ?observed, ?masked, ?completed, ?failed, ?passed⟩
  case enabled =>
    intro pre hp
    refine ⟨_, rfl, ?_⟩
    rw [said, policy_after (before hp) start, bit hp]
    cases Act.policy pre with
    | masking =>
      rw [show InterruptPolicy.masking.allowsInterrupts = true from rfl, Bool.true_and,
        Option.getD_eq_iff]
      simp
    | alwaysDisabled => exact ⟨(nomatch ·), (nomatch ·.1)⟩
  case observed =>
    intro pre hp masking
    exact observes_setInterrupts ((policy_after (before hp) start).trans masking)
  case masked =>
    rintro pre post F a call rfl
    have hp : pre ++ [.take F, .enter a call] <+: pre ++ .take F :: .enter a call :: post :=
      ⟨post, by simp⟩
    have off : (w.after (pre ++ [.take F, .enter a call])).interruptible = false := by
      rw [bit hp, show pre ++ [.take F, .enter a call] = (pre ++ [.take F]) ++ [.enter a call] by
        simp, switchings_concat, switchings_concat]
      simp [switches?]
    refine ⟨off, Prod.ext (congrArg Except.ok ?_) rfl⟩
    rw [said, off, Bool.and_false]
  case completed => exact fun _ frame chosen ended => completes_simulateTrap frame chosen ended
  case failed =>
    intro pre F e left hp frame ended
    obtain ⟨happened, lawful, reached⟩ := fails_simulateTrap (before hp) frame ended
    -- the acts of the trap go on from those before it, so the bit is told from both
    refine ⟨happened, ?_⟩
    rw [← reached]
    exact interruptible_after lawful start off
  case passed =>
    intro pre hp none
    have bare' : ((w.after pre).dispatcher .global).handler = Option.none := by
      rw [handler_after (before hp), none, bare]
      rfl
    exact ⟨interruptible_simulateTrap_of_bare bare', interruptible_yieldNow_of_bare bare'⟩

/-- From start-up on, and with whatever handlers, interrupts are said to be enabled exactly if the
policy in force lets them be and what touched the bit last left it on. -/
theorem answersInterrupts_history (handlers : Handlers n κ) (code : CodeMap) (stack : Word)
    (kernel : κ) (rs : List (Request n κ)) :
    let w := boot code SimulatedHart.reset n stack kernel
    AnswersInterrupts handlers w (history handlers rs w) ∧
      w.after (history handlers rs w) = perform handlers rs w := by
  intro w
  obtain ⟨trail, reached⟩ := trail_history handlers rs w
  have fresh : w.system .global = .fresh .reset := by
    simp [w, system, boot]
  refine ⟨answersInterrupts_of_trail trail ?_ ?_ ?_, reached⟩
  · rw [fresh]
    rfl
  · rw [interruptible, fresh]
    rfl
  · rw [dispatcher, fresh]
    rfl

end Answer

end World

end HartLayer
