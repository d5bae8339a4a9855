import HartLayer.Proofs.SavedStatus

/-!
# Interrupts under a policy that keeps them off

The policy `alwaysDisabled` is meant to keep interrupts off. It does so for all calls that switch
interrupts, and for every frame that is saved under it. A return from a trap does not ask the
policy, though: it brings back the bit of the frame that is resumed.

* What happens in a kernel that keeps to the global system leaves interrupts off as long as no
  frame is resumed that was saved with interrupts on (`Quiet.effect`).
* So interrupts stay off exactly if no frame that was saved with interrupts on before the policy
  came into force is resumed before it is saved again. A thread that was prepared under the other
  policy is such a frame.
-/

namespace HartLayer

variable {κ : Type} {n : Nat}

namespace Act

/-- An act of a kernel that keeps to the global system: the system is not set up again, its hart is
left to the layer, and threads are prepared under its policy. -/
def keepsPolicy : Act n κ → Bool
  | request (.init s _ _ _) => s ≠ .global
  | request (.setHartInterrupts s _) => s ≠ .global
  | request (.newThread s _ _ _) => s = .global
  | request (.newThreadUnder _ _ _ _) => false
  | _ => true

def resumes? : Act n κ → Option Word
  | resume F => some F
  | _ => none

/-- Each return from a trap: the acts before it, and the frame that is resumed. -/
def resumptions (acts : List (Act n κ)) : List (List (Act n κ) × Word) :=
  (moments acts).filterMap fun p => p.2.resumes?.map (p.1, ·)

theorem mem_resumptions {acts pre : List (Act n κ)} {F : Word} :
    (pre, F) ∈ resumptions acts ↔ ∃ post, acts = pre ++ .resume F :: post := by
  rw [resumptions, List.mem_filterMap, ← mem_moments]
  constructor
  · rintro ⟨⟨pre', x⟩, mem, e⟩
    cases x with
    | resume G =>
      cases e
      exact mem
    | _ => cases e
  · intro mem
    exact ⟨(pre, .resume F), mem, rfl⟩

end Act

namespace World

/-- The policy of the global system keeps interrupts off, and they are off. -/
structure Quiet (w : World SimulatedHart n κ) : Prop where
  policy : (w.system .global).policy = .alwaysDisabled
  off : w.interruptible = false

variable {w v : World SimulatedHart n κ} {calls : List (Invocation n)}

theorem Quiet.congr (h : Quiet w) (hart : (v.system .global).hart = (w.system .global).hart)
    (config : (v.system .global).config = (w.system .global).config) : Quiet v where
  policy := (congrArg TrapConfig.interrupts config).trans h.policy
  off := (congrArg Hart.interruptsEnabled hart).trans h.off

theorem Quiet.settle {r : Request n κ} (h : Quiet w) (quiet : r.deliversTrap = false)
    (keeps : (Act.request r).keepsPolicy = true) : Quiet (w.settle r) := by
  have system := system_settle quiet w .global
  cases r with
  | dispatch _ _ _ | handle _ _ | simulateTrap _ | yieldNow => cases quiet
  | init s config handler vector | setHartInterrupts s on =>
    have other : s ≠ .global := of_decide_eq_true keeps
    rw [Request.onSystem, if_neg other] at system
    exact h.congr (by rw [system]) (by rw [system])
  | setInterrupts s on =>
    rw [Request.onSystem] at system
    split at system
    · refine ⟨?_, ?_⟩
      · rw [system]
        exact h.policy
      · rw [interruptible, system]
        show ((w.system .global).policy.allowsInterrupts && on) = false
        rw [h.policy]
        rfl
    · exact h.congr (by rw [system]) (by rw [system])
  | setVector s vector =>
    rw [Request.onSystem] at system
    split at system
    · refine ⟨?_, ?_⟩
      · rw [system]
        exact h.policy
      · rw [interruptible, system]
        exact h.off
    · exact h.congr (by rw [system]) (by rw [system])
  | install s handler | holdLog s held =>
    rw [Request.onSystem] at system
    split at system <;> exact h.congr (by rw [system]) (by rw [system])
  | _ => exact h.congr (by rw [system]; rfl) (by rw [system]; rfl)

/-- What leaves interrupts off: all but the return to a frame that was saved with interrupts on. -/
theorem Quiet.effect {x : Act n κ} (h : Quiet w) (lawful : x.Lawful w calls)
    (keeps : x.keepsPolicy = true)
    (resumes : ∀ F, x = .resume F → (w.context F).resumesWithInterrupts = false) :
    Quiet (x.effect w) := by
  cases x with
  | request r => exact h.settle lawful keeps
  | enter a call =>
    obtain ⟨log, opened⟩ := system_opening w a.system .global call.handler a.cause a.frame
    have same : ((Act.enter a call : Act n κ).effect w).system .global = _ := opened
    split at same <;> exact h.congr (by rw [same]) (by rw [same])
  | leave call _ _ =>
    have same : ((w.unmark call.system).system .global) = _ := system_unmark w call.system .global
    split at same <;> exact h.congr (by rw [Act.effect, same]) (by rw [Act.effect, same])
  | take F =>
    have taken := system_takeTrap w .global .global F
    rw [system_onSystem, if_pos rfl] at taken
    refine ⟨?_, ?_⟩
    · rw [Act.effect, taken]
      exact h.policy
    · rw [Act.effect, interruptible, taken]
      rfl
  | resume F =>
    refine ⟨?_, ?_⟩
    · rw [Act.effect, returnFromTrap, system_onSystem, if_pos rfl]
      exact h.policy
    · rw [interruptible_resume]
      exact resumes F rfl
  | _ => exact h.congr rfl rfl

/-- What is saved while interrupts are off brings them back off. -/
theorem Quiet.saves {x : Act n κ} (h : Quiet w) (lawful : x.Lawful w calls)
    (keeps : x.keepsPolicy = true) {F : Word} {on : Bool} (saves : x.saves? w F = some on) :
    on = false := by
  cases x with
  | request r =>
    cases r with
    | newThread s stack entry arg =>
      obtain ⟨-, e⟩ := Option.ite_none_right_eq_some.mp saves
      obtain rfl : s = .global := of_decide_eq_true keeps
      rw [← Option.some.inj e, h.policy]
      rfl
    | newThreadUnder policy stack entry arg => cases keeps
    | _ => cases saves
  | push a c =>
    obtain ⟨-, e⟩ := Option.ite_none_right_eq_some.mp saves
    rw [← Option.some.inj e, lawful.2]
    exact resumesWithInterrupts_of_mstatus rfl
  | take a =>
    obtain ⟨-, e⟩ := Option.ite_none_right_eq_some.mp saves
    rw [← Option.some.inj e]
    exact h.off
  | _ => cases saves

/-- Interrupts stay off for as long as the frames that are resumed bring them back off. -/
theorem Quiet.run {t pre : List (Act n κ)} (h : Quiet w) (lawful : LawfulFrom w calls t)
    (keeps : ∀ x ∈ t, x.keepsPolicy = true)
    (resumes : ∀ pre F post, t = pre ++ .resume F :: post →
      (∀ G on, savedIn G w pre = some on → on = false) →
      ((w.after pre).context F).resumesWithInterrupts = false)
    (hp : pre <+: t) :
    Quiet (w.after pre) ∧ ∀ F on, savedIn F w pre = some on → on = false := by
  induction pre using List.reverseRecOn with
  | nil => exact ⟨h, fun F on saved => nomatch saved⟩
  | append_singleton pre x ih =>
    obtain ⟨post, rfl⟩ := hp
    rw [List.append_assoc, List.singleton_append] at lawful keeps resumes ih
    obtain ⟨quiet, saved⟩ := ih (List.prefix_append pre _)
    have keepsHere := keeps x (by simp)
    constructor
    · rw [after_append]
      refine quiet.effect lawful.act keepsHere fun F e => ?_
      subst e
      exact resumes pre F post rfl saved
    · intro F on later
      rw [savedIn_concat, Option.or_eq_some_iff] at later
      rcases later with now | ⟨-, before⟩
      · exact quiet.saves lawful.act keepsHere now
      · exact saved F on before

theorem quiet_init (handlers : Handlers n κ) (rs : List (Request n κ)) (h : HandlerId)
    (vector : Word) (w : World SimulatedHart n κ) :
    Quiet (perform handlers (rs ++ [.init .global .inert h vector]) w) := by
  rw [perform_append]
  generalize perform handlers rs w = v
  have system : (v.setUp .global .inert h vector).system .global =
      (v.system .global).init .inert h vector := by
    show ((v.onSystem .global fun t => t.init .inert h vector).system .global) = _
    rw [system_onSystem, if_pos rfl]
  refine ⟨?_, ?_⟩
  · show ((v.setUp .global .inert h vector).system .global).policy = _
    rw [system]
    rfl
  · show Hart.interruptsEnabled ((v.setUp .global .inert h vector).system .global).hart = _
    rw [system]
    rfl

/-- Under the policy that keeps interrupts off they stay off exactly if no frame that was saved with
interrupts on before the policy came into force is resumed before it is saved again. -/
theorem stays_off_iff (handlers : Handlers n κ) (before rs : List (Request n κ)) (h : HandlerId)
    (vector : Word) (w : World SimulatedHart n κ) :
    let setUp := before ++ [.init .global .inert h vector]
    let u := perform handlers setUp w
    let first := history handlers setUp w
    let t := history handlers rs u
    FramesApart (first ++ t) → KeepsStatus w (first ++ t) → (∀ x ∈ t, x.keepsPolicy = true) →
    (∀ p ∈ Act.resumptions t, savedIn p.2 w (first ++ p.1) ≠ none) →
    ((∀ pre, pre <+: t → (u.after pre).interruptible = false) ↔
      ∀ p ∈ Act.resumptions t, savedIn p.2 w first = some true → savedIn p.2 u p.1 ≠ none) ∧
      u.after t = perform handlers rs u := by
  intro setUp u first t apart kept keeps resumed
  obtain ⟨trailFirst, reached⟩ := trail_history handlers setUp w
  obtain ⟨trail, ended⟩ : Trail handlers u t ∧ u.after t = perform handlers rs u :=
    trail_history handlers rs u
  have whole : LawfulFrom w [] (first ++ t) := by
    refine (trailFirst.append ?_).lawfulFrom []
    rw [reached]
    exact trail
  -- what a frame brings back is what was saved in it last, before or after the policy
  have brings : ∀ {pre post F on}, t = pre ++ .resume F :: post →
      (savedIn F u pre).or (savedIn F w first) = some on →
      ((u.after pre).context F).resumesWithInterrupts = on := by
    intro pre post F on split saved
    have brought := resumes_of_savedIn_after whole apart kept ⟨_, split.symm⟩
      (show (savedIn F (w.after first) pre).or _ = some on by rw [reached]; exact saved)
    rwa [reached] at brought
  refine ⟨?_, ended⟩
  constructor
  · rintro off ⟨pre, F⟩ mem stale again
    obtain ⟨post, split⟩ := Act.mem_resumptions.mp mem
    have brought := brings split (by rw [again, Option.none_or]; exact stale)
    have off' := off (pre ++ [.resume F]) ⟨post, by rw [split, List.append_assoc]; rfl⟩
    rw [after_append, after_cons, after_nil, interruptible_resume, brought] at off'
    cases off'
  · intro fresh pre hp
    have quiet : Quiet u := quiet_init handlers before h vector w
    refine (quiet.run (trail.lawfulFrom []) keeps ?_ hp).1.off
    intro pre F post split saved
    have mem : (pre, F) ∈ Act.resumptions t := Act.mem_resumptions.mpr ⟨post, split⟩
    cases again : savedIn F u pre with
    | some on =>
      rw [saved F on again] at again
      exact brings split (by rw [again]; rfl)
    | none =>
      obtain ⟨on, stored⟩ := Option.ne_none_iff_exists'.mp (resumed _ mem)
      rw [savedIn_append, reached, again, Option.none_or] at stored
      have off : on = false := by
        by_contra isOn
        rw [Bool.not_eq_false] at isOn
        subst isOn
        exact fresh _ mem stored again
      subst off
      exact brings split (by rw [again, Option.none_or]; exact stored)

/-! ## A thread from before the policy -/

/-- Every trap switches to the thread. -/
def toThread : Handlers 0 Unit := fun _ _ _ => .done (some threadFrame)

/-- A thread is prepared while interrupts may be on. -/
def prepareFirst : List (Request 0 Unit) :=
  [.init .global .masking ⟨0⟩ 0, .newThread .global threadStack 0x1000 7]

/-- A yield that switches to the thread. -/
def yieldToThread : List (Request 0 Unit) :=
  [.setContext mainFrame (.calling yieldSentinel 0x80000100), .simulateTrap mainFrame]

/-- The thread runs with interrupts on, although the policy keeps them off. -/
theorem stale_thread_switches_on :
    let setUp := prepareFirst ++ [.init .global .inert ⟨0⟩ 0]
    let u := perform toThread setUp atStart
    let first := history toThread setUp atStart
    let t := history toThread yieldToThread u
    FramesApart (first ++ t) ∧ KeepsStatus atStart (first ++ t) ∧
    (∀ x ∈ t, x.keepsPolicy = true) ∧
    (∀ p ∈ Act.resumptions t, savedIn p.2 atStart (first ++ p.1) ≠ none) ∧
    (perform toThread yieldToThread u).interruptible = true := by
  decide +kernel

/-- A thread that is prepared after the policy came into force leaves interrupts off. -/
theorem stays_off_prepared_last :
    let u := perform toThread [.init .global .inert ⟨0⟩ 0] atStart
    let rs := .newThread .global threadStack 0x1000 7 :: yieldToThread
    (∀ pre, pre <+: history toThread rs u → (u.after pre).interruptible = false) ∧
      (perform toThread rs u).interruptible = false := by
  intro u rs
  obtain ⟨stays, ended⟩ := stays_off_iff toThread [] rs ⟨0⟩ 0 atStart (by decide +kernel)
    (by decide +kernel) (by decide +kernel) (by decide +kernel)
  have off := stays.mpr (by decide +kernel)
  refine ⟨off, ?_⟩
  rw [← show _ = perform toThread rs u from ended]
  exact off _ List.prefix_rfl

end World

end HartLayer
