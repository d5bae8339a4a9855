import HartLayer.Proofs.Effects

/-!
# A dispatcher that is handling a trap refuses the next

* A dispatcher is marked as busy exactly if a call of it is in progress, and it has one call in
  progress at most (`InStep`). Every lawful act keeps that (`InStep.effect`).
* So a trap is refused exactly if it arrives at a dispatcher with a call in progress, and when the
  outermost call has ended, however it ended, no dispatcher is marked (`Exclusive`). That holds of
  every history from start-up on.
-/

namespace HartLayer.World

variable {H κ : Type} {n : Nat}

/-! ## Marks and calls in progress -/

/-- The marks of dispatchers are in step with the calls in progress. -/
structure InStep (w : World H n κ) (calls : List (Invocation n)) : Prop where
  busy_iff : ∀ s, w.busy s = true ↔ ∃ call ∈ calls, call.system = s
  once : (calls.map Invocation.system).Nodup
  installed : ∀ call ∈ calls, (w.dispatcher call.system).handler ≠ none

theorem dispatcher_boot (code : CodeMap) (hart : H) (stack : Word) (kernel : κ) (s : SystemId n) :
    (boot code hart n stack kernel).dispatcher s = .idle := by
  simp [dispatcher, system, boot, TrapSystem.fresh]

theorem inStep_boot (code : CodeMap) (hart : H) (stack : Word) (kernel : κ) :
    InStep (boot code hart n stack kernel) [] where
  busy_iff s := by simp [busy, dispatcher, system, boot, TrapSystem.fresh, Dispatcher.idle]
  once := List.nodup_nil
  installed _ h := absurd h List.not_mem_nil

variable [Hart H] {w : World H n κ} {calls : List (Invocation n)}

/-- A handler stays installed, or another one takes its place. -/
theorem handler_effect_ne_none {x : Act n κ} (lawful : x.Lawful w calls) {s : SystemId n}
    (h : (w.dispatcher s).handler ≠ none) : ((x.effect w).dispatcher s).handler ≠ none := by
  rw [handler_effect lawful]
  intro e
  exact h (Option.or_eq_none_iff.mp e).2

theorem InStep.enter {a : Arrival n} {call : Invocation n} (h : InStep w calls)
    (lawful : (Act.enter a call : Act n κ).Lawful w calls) :
    InStep ((Act.enter a call : Act n κ).effect w) (call :: calls) := by
  obtain ⟨same, -⟩ := lawful.called
  have idle : ∀ c ∈ calls, c.system ≠ call.system := by
    intro c hc e
    have marked := (h.busy_iff call.system).mpr ⟨c, hc, e⟩
    rw [same, lawful.2.1] at marked
    cases marked
  refine ⟨fun s => ?_, ?_, ?_⟩
  · rw [busy_effect lawful, Act.marks?, ← same]
    by_cases e : call.system = s
    · rw [if_pos e]
      exact ⟨fun _ => ⟨call, List.mem_cons_self, e⟩, fun _ => rfl⟩
    · rw [if_neg e, Option.getD_none, h.busy_iff]
      simp [e]
  · rw [List.map_cons, List.nodup_cons]
    refine ⟨?_, h.once⟩
    intro mem
    obtain ⟨c, hc, e⟩ := List.mem_map.mp mem
    exact idle c hc e
  · intro c hc
    refine handler_effect_ne_none lawful ?_
    rcases List.mem_cons.mp hc with rfl | hc
    · rw [same, lawful.1]
      exact Option.some_ne_none _
    · exact h.installed c hc

theorem InStep.leave {call : Invocation n} {returned : Except Fault (Option Word)}
    {result : Except Fault Word} (h : InStep w calls)
    (lawful : (Act.leave call returned result : Act n κ).Lawful w calls) :
    InStep ((Act.leave call returned result : Act n κ).effect w) calls.tail := by
  obtain ⟨rest, rfl⟩ : ∃ rest, calls = call :: rest := by
    obtain ⟨rest, e⟩ := List.head?_eq_some_iff.mp lawful.1
    exact ⟨rest, e⟩
  have once := h.once
  rw [List.map_cons, List.nodup_cons] at once
  refine ⟨fun s => ?_, once.2, fun c hc => ?_⟩
  · rw [busy_effect lawful, Act.marks?, List.tail_cons]
    by_cases e : call.system = s
    · subst e
      rw [if_pos rfl, Option.getD_some]
      constructor
      · intro marked
        cases marked
      · rintro ⟨c, hc, e⟩
        exact absurd (List.mem_map.mpr ⟨c, hc, e⟩) once.1
    · rw [if_neg e, Option.getD_none, h.busy_iff]
      simp [e]
  · exact handler_effect_ne_none lawful (h.installed c (List.mem_cons_of_mem _ hc))

theorem InStep.effect {x : Act n κ} (lawful : x.Lawful w calls) (h : InStep w calls) :
    InStep (x.effect w) (x.onCalls calls) := by
  by_cases bracket : x.isBracket = false
  · rw [Act.onCalls_of_not_isBracket bracket]
    refine ⟨fun s => ?_, h.once, fun c hc => ?_⟩
    · have unmarked : x.marks? s = none := by
        cases x <;> first | rfl | cases bracket
      rw [busy_effect lawful, unmarked, Option.getD_none, h.busy_iff]
    · exact handler_effect_ne_none lawful (h.installed c hc)
  · cases x with
    | enter a call => exact h.enter lawful
    | leave call returned result => exact h.leave lawful
    | _ => exact absurd rfl bracket

/-! ## Dispatches -/

section Dispatch

variable {handlers : Handlers n κ} {a : Arrival n}

/-- A dispatch that calls a handler ends as the handler ended. -/
theorem runFrom_dispatch_of_idle {h : HandlerId}
    (installed : (w.dispatcher a.system).handler = some h) (idle : w.busy a.system = false) :
    (answer handlers (.dispatch a.system a.cause a.frame)).runFrom w =
      let opened := w.opening a.system h a.cause a.frame
      let ended := (exec handlers (handlers h opened.1 a.frame)).runFrom opened.2
      (verdict opened.1 ended.1, ended.2.unmark a.system) := by
  rw [answer, answerWith, deliver_eq_dispatchWith_exec]
  exact dispatchWith_of_idle installed idle _ a.cause a.frame

theorem runFrom_dispatch_of_enter {call : Invocation n} {returned : Except Fault (Option Word)}
    {v : World H n κ} (lawful : (Act.enter a call : Act n κ).Lawful w calls)
    (runs : (exec handlers (handlers call.handler call.event call.frame)).runFrom
      ((Act.enter a call : Act n κ).effect w) = (returned, v)) :
    (answer handlers (.dispatch a.system a.cause a.frame)).runFrom w =
      (verdict call.event returned, v.unmark call.system) := by
  obtain ⟨system, event, frame, -⟩ := lawful.called
  obtain ⟨installed, idle, -⟩ := lawful
  rw [event, frame, Act.effect] at runs
  rw [runFrom_dispatch_of_idle installed idle]
  dsimp only
  rw [runs, event, system]

end Dispatch

/-! ## Refusals in a history -/

/-- Dispatchers take one trap at a time, and all that is left of a call when it has ended is what
its handler did. -/
structure Exclusive (handlers : Handlers n κ) (w : World H n κ) (t : List (Act n κ)) : Prop where
  /-- A trap is refused exactly if a call of its dispatcher is in progress. -/
  refused_iff : ∀ {pre post x a}, t = pre ++ x :: post → x.arrival? = some a →
    (x = .refuse a ↔ ∃ call ∈ Act.inProgress pre, call.system = a.system)
  /-- At no moment would a trap be taken by a dispatcher with a call in progress. -/
  refuses : ∀ {pre}, pre <+: t → ∀ a : Arrival n,
    (∃ call ∈ Act.inProgress pre, call.system = a.system) →
    (answer handlers (.dispatch a.system a.cause a.frame)).runFrom (w.after pre) =
      (.error (.nestedTrap a.cause), w.after pre)
  /-- At no moment would one be refused by another dispatcher: where a handler is installed, it is
  called, and the dispatch ends as the handler ends. -/
  accepts : ∀ {pre}, pre <+: t → ∀ a : Arrival n,
    (¬∃ call ∈ Act.inProgress pre, call.system = a.system) →
    (answer handlers (.dispatch a.system a.cause a.frame)).runFrom (w.after pre) =
      match ((w.after pre).dispatcher a.system).handler with
      | none => (.ok a.frame, w.after pre)
      | some h =>
        let opened := (w.after pre).opening a.system h a.cause a.frame
        let ended := (exec handlers (handlers h opened.1 a.frame)).runFrom opened.2
        (verdict opened.1 ended.1, ended.2.unmark a.system)
  /-- A call comes to its end, as its handler ended, and the calls in progress are then those that
  were in progress when it began. -/
  ends : ∀ {pre post a call}, t = pre ++ .enter a call :: post →
    ∃ inside returned rest,
      let result := verdict call.event returned
      let whole := pre ++ .enter a call :: inside ++ [.leave call returned result]
      t = whole ++ rest ∧
      (answer handlers (.dispatch a.system a.cause a.frame)).runFrom (w.after pre) =
        (result, w.after whole) ∧
      Act.inProgress (pre ++ .enter a call :: inside) = call :: Act.inProgress pre ∧
      Act.inProgress whole = Act.inProgress pre
  /-- The marks are those of the calls in progress. -/
  busy_iff : ∀ {pre}, pre <+: t → ∀ s,
    ((w.after pre).busy s = true ↔ ∃ call ∈ Act.inProgress pre, call.system = s)
  none_left : Act.inProgress t = []

omit [Hart H] in
theorem InStep.refuses_iff {x : Act n κ} {a : Arrival n} (h : InStep w calls)
    (lawful : x.Lawful w calls) (arrives : x.arrival? = some a) :
    x = .refuse a ↔ ∃ call ∈ calls, call.system = a.system := by
  cases x with
  | pass b =>
    obtain rfl : b = a := Option.some.inj arrives
    constructor
    · intro e
      cases e
    · rintro ⟨call, hc, e⟩
      have installed := h.installed call hc
      rw [e] at installed
      exact absurd lawful installed
  | refuse b =>
    obtain rfl : b = a := Option.some.inj arrives
    exact ⟨fun _ => (h.busy_iff b.system).mp lawful.2, fun _ => rfl⟩
  | enter b call =>
    obtain rfl : b = a := Option.some.inj arrives
    constructor
    · intro e
      cases e
    · intro hc
      have marked := (h.busy_iff b.system).mpr hc
      rw [lawful.2.1] at marked
      cases marked
  | _ => cases arrives

theorem exclusive_of_trail {handlers : Handlers n κ} {w : World H n κ} {t : List (Act n κ)}
    (trail : Trail handlers w t) (start : InStep w []) : Exclusive handlers w t := by
  have lawful : LawfulFrom w [] t := trail.lawfulFrom []
  have inStep : ∀ {pre}, pre <+: t → InStep (w.after pre) (Act.inProgress pre) := by
    rintro pre ⟨post, rfl⟩
    exact lawful.before.invariant (fun _ _ _ => InStep.effect) start
  refine ⟨?_, ?_, ?_, ?_, fun hp => (inStep hp).busy_iff, trail.callsAfter []⟩
  · rintro pre post x a rfl arrives
    exact (inStep (List.prefix_append _ _)).refuses_iff lawful.act arrives
  · intro pre hp a inProgress
    have marked := ((inStep hp).busy_iff a.system).mpr inProgress
    obtain ⟨call, hc, e⟩ := inProgress
    have set := (inStep hp).installed call hc
    rw [e] at set
    obtain ⟨h, installed⟩ := Option.ne_none_iff_exists'.mp set
    exact runFrom_deliver_of_busy handlers (n + 1) installed marked a.cause a.frame
  · intro pre hp a free
    rw [← (inStep hp).busy_iff, Bool.not_eq_true] at free
    cases installed : ((w.after pre).dispatcher a.system).handler with
    | none => exact runFrom_deliver_of_handler_none handlers (n + 1) installed a.cause a.frame
    | some h => exact runFrom_dispatch_of_idle installed free
  · intro pre post a call split
    obtain ⟨inside, returned, rest, rfl, inner, runs⟩ := trail.call_of_split split
    subst split
    rw [after_append] at runs
    have dispatched := runFrom_dispatch_of_enter lawful.act runs
    have opened : Act.inProgress (pre ++ .enter a call :: inside) = call :: Act.inProgress pre := by
      rw [Act.inProgress, Act.callsAfter_append, Act.callsAfter_cons, inner.callsAfter]
      rfl
    refine ⟨inside, returned, rest, by simp, ?_, opened, ?_⟩
    · rw [dispatched, after_append _ (pre ++ .enter a call :: inside)]
      rfl
    · rw [Act.inProgress, Act.callsAfter_append, ← Act.inProgress, opened]
      rfl

/-- From start-up on, and with whatever handlers, a trap is refused exactly if its dispatcher is
handling another one. A call that has ended, however it ended, refuses none, so when no call is
in progress no dispatcher is marked. -/
theorem exclusive_history (handlers : Handlers n κ) (code : CodeMap) (hart : H) (stack : Word)
    (kernel : κ) (rs : List (Request n κ)) :
    let w := boot code hart n stack kernel
    Exclusive handlers w (history handlers rs w) ∧
      w.after (history handlers rs w) = perform handlers rs w ∧
      ∀ s, (perform handlers rs w).busy s = false := by
  intro w
  obtain ⟨trail, reached⟩ := trail_history handlers rs w
  have exclusive := exclusive_of_trail trail (inStep_boot code hart stack kernel)
  refine ⟨exclusive, reached, fun s => ?_⟩
  rw [← reached, ← Bool.not_eq_true, exclusive.busy_iff (List.prefix_refl _), exclusive.none_left]
  rintro ⟨call, hc, -⟩
  exact absurd hc List.not_mem_nil

end HartLayer.World
