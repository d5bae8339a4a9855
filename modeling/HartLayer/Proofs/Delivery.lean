import HartLayer.Proofs.Classifying
import HartLayer.Proofs.Reentrancy

/-!
# Every trap that is due is delivered once

Which calls of handlers are due can be told from the acts before a trap and the context that it
strikes (`World.due`): the handler installed last is called, unless a call on the same system is in
progress.

* The calls that a history makes are those that are due, in order (`DeliversOnce.calls_eq`).
* Each handler is given what is due and runs on from there, and its dispatch ends with what it
  returned (`DeliversOnce.returns`).
* The count of a dispatcher is the number of its calls, and the journal has them all
  (`DeliversOnce.delivered_eq`, `DeliversOnce.journal_eq`).
-/

namespace HartLayer

variable {H κ : Type} {n : Nat}

/-- The last of what a function finds in a list, or else what was there before. -/
theorem getLast?_filterMap_cons {α β : Type} (f : α → Option β) (x : α) (l : List α)
    (before : Option β) :
    ((x :: l).filterMap f).getLast?.or before = (l.filterMap f).getLast?.or ((f x).or before) := by
  rw [List.filterMap_cons]
  cases f x with
  | none => rfl
  | some b =>
    rw [List.getLast?_cons]
    cases (l.filterMap f).getLast? <;> rfl

/-- What a function finds in a list of acts can be told act by act, from the acts before. -/
theorem filterMap_eq_filterMap_moments {β : Type} {f : Act n κ → Option β}
    {g : List (Act n κ) → Act n κ → Option β} {acts : List (Act n κ)}
    (h : ∀ pre x post, acts = pre ++ x :: post → f x = g pre x) :
    acts.filterMap f = (Act.moments acts).filterMap fun p => g p.1 p.2 := by
  induction acts generalizing g with
  | nil => rfl
  | cons x acts ih =>
    have rest := ih (g := fun pre y => g (x :: pre) y) fun pre y post e =>
      h (x :: pre) y post (congrArg (x :: ·) e)
    rw [Act.moments_cons, List.filterMap_cons, List.filterMap_cons, h [] x acts rfl,
      List.filterMap_map, rest]
    rfl

namespace Act

/-- The handler that was installed last in a system. -/
def installed (s : SystemId n) (acts : List (Act n κ)) : Option HandlerId :=
  (acts.filterMap (installs? s)).getLast?

def invocations (acts : List (Act n κ)) : List (Invocation n) := acts.filterMap invocation?

end Act

namespace World

variable [Hart H]

/-- The call that is due when a trap arrives after a list of acts. -/
def due (w : World H n κ) (pre : List (Act n κ)) (a : Arrival n) : Option (Invocation n) :=
  if ∃ call ∈ Act.inProgress pre, call.system = a.system then none
  else
    (Act.installed a.system pre).map fun h =>
      let trapped := (w.after pre).context a.frame
      { system := a.system
        handler := h
        event := (classify a.cause trapped).event
        frame := a.frame
        context :=
          { trapped with mepc := if a.cause.isCall then trapped.mepc + 4 else trapped.mepc } }

/-- The call that is due at an act. -/
def due? (w : World H n κ) (pre : List (Act n κ)) (x : Act n κ) : Option (Invocation n) :=
  x.arrival?.bind (w.due pre)

/-- The calls that are due during a list of acts, in order. -/
def dueCalls (w : World H n κ) (acts : List (Act n κ)) : List (Invocation n) :=
  (Act.moments acts).filterMap fun p => w.due? p.1 p.2

variable {w : World H n κ} {calls : List (Invocation n)} {acts : List (Act n κ)}

theorem handler_after (lawful : LawfulFrom w calls acts) (s : SystemId n) :
    ((w.after acts).dispatcher s).handler =
      (Act.installed s acts).or (w.dispatcher s).handler := by
  induction acts generalizing w calls with
  | nil => rfl
  | cons x acts ih =>
    rw [after_cons, ih lawful.2, handler_effect lawful.1, Act.installed, Act.installed,
      getLast?_filterMap_cons]

theorem delivered_after (lawful : LawfulFrom w calls acts) (s : SystemId n) :
    ((w.after acts).dispatcher s).delivered =
      (w.dispatcher s).delivered +
        UInt64.ofNat ((Act.invocations acts).countP (·.system = s)) := by
  induction acts generalizing w calls with
  | nil => exact (UInt64.add_zero _).symm
  | cons x acts ih =>
    rw [after_cons, ih lawful.2, delivered_effect lawful.1, Act.invocations, Act.invocations,
      List.filterMap_cons, Act.calls]
    cases x.invocation? with
    | none => exact congrArg (· + _) (UInt64.add_zero _)
    | some call =>
      rw [List.countP_cons, UInt64.ofNat_add, UInt64.add_assoc, UInt64.add_comm (UInt64.ofNat _)]
      simp only [Option.any_some]
      split <;> rfl

theorem journal_after (lawful : LawfulFrom w calls acts) :
    (w.after acts).journal.toList = w.journal.toList ++ acts.filterMap Act.record? := by
  induction acts generalizing w calls with
  | nil => exact (List.append_nil _).symm
  | cons x acts ih =>
    rw [after_cons, ih lawful.2, journal_effect lawful.1, List.filterMap_cons, List.append_assoc]
    cases x.record? <;> rfl

/-! ## The calls of a history -/

/-- The calls of handlers in a history, what they are given and what they return. -/
structure DeliversOnce (handlers : Handlers n κ) (w : World H n κ) (t : List (Act n κ)) :
    Prop where
  /-- The calls made are those that are due. -/
  calls_eq : Act.invocations t = dueCalls w t
  /-- A handler finds in its frame the context that it is called with, and what it does follows.
  The dispatch then ends with what the handler returned. -/
  returns : ∀ {pre post a call}, t = pre ++ .enter a call :: post →
    ∃ inside returned rest,
      let begun := pre ++ [.enter a call]
      let result := verdict call.event returned
      post = inside ++ .leave call returned result :: rest ∧
      (w.after begun).context call.frame = call.context ∧
      (exec handlers (handlers call.handler call.event call.frame)).runFrom (w.after begun) =
        (returned, w.after (begun ++ inside)) ∧
      ((answer handlers (.dispatch a.system a.cause a.frame)).runFrom (w.after pre)).1 = result
  delivered_eq : ∀ {pre}, pre <+: t → ∀ s, ((w.after pre).dispatcher s).delivered =
    UInt64.ofNat ((Act.invocations pre).countP (·.system = s))
  journal_eq : (w.after t).journal.toList = t.filterMap Act.record?
  /-- What a dispatch ends with goes to the trap path. -/
  handled : ∀ s frame (v : World H n κ), (answer handlers (.handle s frame)).runFrom v =
    if frame = 0 then (.error .noFrame, v)
    else (answer handlers (.dispatch s (v.context frame).cause frame)).runFrom v
  simulated : ∀ frame (v : World H n κ), ((answer handlers (.simulateTrap frame)).runFrom v).1 =
    if frame = 0 then .error .noFrame
    else
      ((answer handlers (.dispatch .global (v.context frame).cause frame)).runFrom
        (v.takeTrap .global frame)).1
  yielded : ∀ v : World H n κ, ((answer handlers .yieldNow).runFrom v).1 =
    ((answer handlers (.simulateTrap v.yieldFrame)).runFrom
      (v.pushed v.yieldFrame v.yieldContext)).1.map fun _ => ()

theorem invocation?_eq_due {pre post : List (Act n κ)} {x : Act n κ} (fresh : InStep w [])
    (bare : ∀ s, (w.dispatcher s).handler = none) (lawful : LawfulFrom w [] (pre ++ x :: post)) :
    x.invocation? = w.due? pre x := by
  have inStep : InStep (w.after pre) (Act.inProgress pre) :=
    lawful.before.invariant (fun _ _ _ => InStep.effect) fresh
  have installed : ∀ s, Act.installed s pre = ((w.after pre).dispatcher s).handler := by
    intro s
    rw [handler_after lawful.before, bare, Option.or_none]
  cases x with
  | pass a =>
    have missing : ((w.after pre).dispatcher a.system).handler = none := lawful.act
    rw [due?, Act.arrival?, Option.bind_some, due, installed, missing]
    split <;> rfl
  | refuse a =>
    have busy := (inStep.busy_iff a.system).mp lawful.act.2
    rw [due?, Act.arrival?, Option.bind_some, due, if_pos busy]
    rfl
  | enter a call =>
    obtain ⟨present, idle, called⟩ := lawful.act
    have free : ¬∃ c ∈ Act.inProgress pre, c.system = a.system := by
      rw [← inStep.busy_iff, idle]
      exact Bool.false_ne_true
    rw [due?, Act.arrival?, Option.bind_some, due, if_neg free, installed, present, Option.map_some]
    rw [invocation_eq, apply_classify] at called
    exact congrArg some called
  | _ => rfl

section Trail

variable {handlers : Handlers n κ}

theorem deliversOnce_of_trail {w : World H n κ} {t : List (Act n κ)} (trail : Trail handlers w t)
    (fresh : InStep w []) (bare : ∀ s, (w.dispatcher s).handler = none)
    (counts : ∀ s, (w.dispatcher s).delivered = 0) (blank : w.journal = #[]) :
    DeliversOnce handlers w t := by
  have lawful : LawfulFrom w [] t := trail.lawfulFrom []
  refine ⟨?_, ?_, ?_, ?_, ?_, ?_, ?_⟩
  · refine filterMap_eq_filterMap_moments ?_
    rintro pre x post rfl
    exact invocation?_eq_due fresh bare lawful
  · intro pre post a call split
    obtain ⟨inside, returned, rest, rfl, inner, runs⟩ := trail.call_of_split split
    subst split
    refine ⟨inside, returned, rest, rfl, ?_, ?_, ?_⟩
    · obtain ⟨-, -, frame, context⟩ := lawful.act.called
      rw [after_append, frame, context]
      rfl
    · simpa using runs
    · rw [after_append] at runs
      exact congrArg Prod.fst (runFrom_dispatch_of_enter lawful.act runs)
  · rintro pre ⟨post, rfl⟩ s
    rw [delivered_after lawful.before, counts]
    exact UInt64.zero_add _
  · rw [journal_after lawful, blank]
    rfl
  · exact runFrom_answer_handle handlers
  · exact runFrom_answer_simulateTrap handlers
  · exact runFrom_answer_yieldNow handlers

end Trail

/-- From start-up on, and with whatever handlers, every trap that is due is delivered once: the
handler installed when it arrives is called with its event and its context, the dispatch ends with
what the handler returns, and the call is counted. -/
theorem deliversOnce_history (handlers : Handlers n κ) (code : CodeMap) (hart : H) (stack : Word)
    (kernel : κ) (rs : List (Request n κ)) :
    let w := boot code hart n stack kernel
    DeliversOnce handlers w (history handlers rs w) ∧
      w.after (history handlers rs w) = perform handlers rs w := by
  intro w
  obtain ⟨trail, reached⟩ := trail_history handlers rs w
  have fresh : ∀ s, w.dispatcher s = .idle := by
    intro s
    simp [w, dispatcher, system, boot, TrapSystem.fresh]
  refine ⟨deliversOnce_of_trail trail (inStep_boot code hart stack kernel) ?_ ?_ rfl, reached⟩
  · intro s
    rw [fresh]
    rfl
  · intro s
    rw [fresh]
    rfl

end World

end HartLayer
