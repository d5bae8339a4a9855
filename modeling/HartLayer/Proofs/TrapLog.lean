import HartLayer.Proofs.Reports
import HartLayer.Ring.History

/-!
# The log of a dispatcher is its recent history

Which traps belong into the log can be told from the acts before each trap and the context that it
strikes (`World.logDue?`), as `World.due` tells which calls are due.

* The log is what a ring keeps of these traps (`log_after`).
* So a copy of the log that is taken while the log is free, also inside a handler, lists the newest
  32 of them, and taking it changes nothing (`RecentHistory.copies`).
* Inside the handler of such a trap its entry is the newest one (`RecentHistory.newest`).
-/

namespace HartLayer

variable {H κ : Type} {n : Nat}

namespace World

variable [Hart H]

/-! ## The entries that are due -/

/-- The entry that an act is due to make in the log of a system, told from the acts before it: a
trap arrives and is taken, its cause is unknown, and the log is free. -/
def logDue? (w : World H n κ) (s : SystemId n) (pre : List (Act n κ)) (x : Act n κ) :
    Option UnknownTrap :=
  x.arrival?.bind fun a =>
    if a.system = s ∧ (w.due pre a).isSome ∧ Act.held s pre = false then (w.after pre).unknown? a
    else none

/-- The traps that belong into the log of a system, in order. -/
def remembered (w : World H n κ) (s : SystemId n) (acts : List (Act n κ)) : List UnknownTrap :=
  (Act.moments acts).filterMap fun p => w.logDue? s p.1 p.2

theorem remembered_concat (w : World H n κ) (s : SystemId n) (acts : List (Act n κ))
    (x : Act n κ) :
    w.remembered s (acts ++ [x]) = w.remembered s acts ++ (w.logDue? s acts x).toList := by
  rw [remembered, Act.moments_concat, List.filterMap_append, List.filterMap_cons,
    List.filterMap_nil]
  cases w.logDue? s acts x <;> rfl

/-- While a call of a system is in progress, no trap gets into its log. -/
theorem logDue?_of_inProgress (w : World H n κ) {s : SystemId n} {pre : List (Act n κ)}
    (inProgress : ∃ call ∈ Act.inProgress pre, call.system = s) (x : Act n κ) :
    w.logDue? s pre x = none := by
  rw [logDue?]
  cases x.arrival? with
  | none => rfl
  | some a =>
    refine if_neg ?_
    rintro ⟨rfl, due, -⟩
    rw [World.due, if_pos inProgress] at due
    cases due

variable {w : World H n κ}

/-- A state from which histories are told: all dispatchers are as at start-up. -/
def Fresh (w : World H n κ) : Prop := ∀ s, w.dispatcher s = .idle

namespace Fresh

omit [Hart H] in
theorem inStep (fresh : Fresh w) : InStep w [] where
  busy_iff s := by simp [busy, fresh s, Dispatcher.idle]
  once := List.nodup_nil
  installed _ h := absurd h List.not_mem_nil

omit [Hart H] in
theorem bare (fresh : Fresh w) (s : SystemId n) : (w.dispatcher s).handler = none := by
  rw [fresh s]
  rfl

variable (fresh : Fresh w) {acts pre post : List (Act n κ)}

include fresh

theorem held_after (lawful : LawfulFrom w [] acts) (s : SystemId n) :
    ((w.after acts).dispatcher s).logHeld = Act.held s acts := by
  rw [logHeld_after lawful, fresh s]
  rfl

/-- The entry that an act makes is the one that is due. -/
theorem logs?_eq {x : Act n κ} (lawful : LawfulFrom w [] (pre ++ x :: post)) (s : SystemId n) :
    x.logs? (w.after pre) s = w.logDue? s pre x := by
  have held := fresh.held_after lawful.before s
  have called := invocation?_eq_due fresh.inStep fresh.bare lawful
  cases x with
  | enter a call =>
    have due : w.due pre a = some call := called.symm
    rw [Act.logs?, logDue?, Act.arrival?, Option.bind_some, due, held]
    simp only [Option.isSome_some, true_and]
  | pass a | refuse a =>
    have due : w.due pre a = none := called.symm
    rw [logDue?, Act.arrival?, Option.bind_some, due, if_neg (by simp)]
    rfl
  | _ => rfl

theorem log_after (lawful : LawfulFrom w [] acts) (s : SystemId n) :
    ((w.after acts).dispatcher s).log = (w.remembered s acts).foldl Ring.push .empty := by
  induction acts using List.reverseRecOn with
  | nil => exact congrArg Dispatcher.log (fresh s)
  | append_singleton pre x ih =>
    rw [after_append, after_cons, after_nil, log_effect lawful.act, fresh.logs?_eq lawful,
      ih lawful.before, remembered_concat, List.foldl_append]
    cases w.logDue? s pre x <;> rfl

theorem holds_after (lawful : LawfulFrom w [] acts) (s : SystemId n) :
    let seen := w.remembered s acts
    ((w.after acts).dispatcher s).log.Holds (seen.drop (seen.length - 32)) := by
  rw [fresh.log_after lawful]
  exact Ring.holds_ofList (by decide) _

theorem copy_after (lawful : LawfulFrom w [] acts) {s : SystemId n}
    (free : Act.held s acts = false) :
    let seen := w.remembered s acts
    ∃ log : TrapLog, ((w.after acts).dispatcher s).unknownTraps = some log ∧
      log.Holds (seen.drop (seen.length - 32)) := by
  have held := fresh.held_after lawful s
  refine ⟨_, ?_, Ring.holds_ofList_toList (fresh.holds_after lawful s)⟩
  rw [Dispatcher.unknownTraps, held, free, if_neg Bool.false_ne_true]

theorem remembered_enter {a : Arrival n} {call : Invocation n}
    (lawful : LawfulFrom w [] (pre ++ .enter a call :: post))
    (unknown : a.cause.isKnown = false) (free : Act.held a.system pre = false) :
    w.remembered a.system (pre ++ [.enter a call]) =
      w.remembered a.system pre ++ [⟨a.cause, ((w.after pre).context a.frame).mepc⟩] := by
  have held := fresh.held_after lawful.before a.system
  rw [remembered_concat, ← fresh.logs?_eq lawful, Act.logs?, if_pos ⟨rfl, held.trans free⟩,
    unknown?, unknown]
  rfl

end Fresh

/-! ## Copies of the log -/

/-- The log of each system is the recent history of the traps that belong into it. -/
structure RecentHistory (handlers : Handlers n κ) (w : World H n κ) (t : List (Act n κ)) :
    Prop where
  /-- A copy that is taken while the log is free lists the newest entries, the oldest of them first,
  and nothing else happens. -/
  copies : ∀ {pre}, pre <+: t → ∀ s, Act.held s pre = false →
    let seen := w.remembered s pre
    ∃ log : TrapLog,
      (answer handlers (.unknownTraps s)).runFrom (w.after pre) = (.ok (some log), w.after pre) ∧
      log.toList = seen.drop (seen.length - 32) ∧ log.size = min 32 seen.length ∧
      log.back? = seen.getLast?
  /-- From the call of its handler to the end of the call, the entry of a trap is the newest. -/
  newest : ∀ {pre post a call}, t = pre ++ .enter a call :: post → a.cause.isKnown = false →
    Act.held a.system pre = false →
    ∃ inside returned rest,
      post = inside ++ .leave call returned (verdict call.event returned) :: rest ∧
      ∀ begun, begun <+: inside → w.remembered a.system (pre ++ .enter a call :: begun) =
        w.remembered a.system pre ++ [⟨a.cause, ((w.after pre).context a.frame).mepc⟩]
  /-- One line is printed for such a trap, before its handler is called. -/
  prints : ∀ {pre post a call}, t = pre ++ .enter a call :: post → a.cause.isKnown = false →
    Act.held a.system pre = false →
    (w.after (pre ++ [.enter a call])).console = (w.after pre).console.put a.cause.unknownLine
  /-- The console has what the acts wrote. -/
  console_eq : (w.after t).console = (w.written t).foldl Console.putBytes w.console

variable {handlers : Handlers n κ} {t : List (Act n κ)}

/-- While a call is in progress, its system remembers no further trap. -/
theorem remembered_of_inside {pre inside begun : List (Act n κ)} {a : Arrival n}
    {call : Invocation n} (same : call.system = a.system)
    (inner : Trail handlers (w.after (pre ++ [.enter a call])) inside) (hp : begun <+: inside) :
    w.remembered a.system (pre ++ .enter a call :: begun) =
      w.remembered a.system (pre ++ [.enter a call]) := by
  induction begun using List.reverseRecOn with
  | nil => rfl
  | append_singleton begun x ih =>
    have before : begun <+: inside := (List.prefix_append begun [x]).trans hp
    obtain ⟨more, calls⟩ := inner.callsAfter_of_prefix before (call :: Act.inProgress pre)
    have inProgress : ∃ c ∈ Act.inProgress (pre ++ .enter a call :: begun),
        c.system = a.system := by
      refine ⟨call, ?_, same⟩
      rw [Act.inProgress, Act.callsAfter_append, Act.callsAfter_cons]
      exact calls ▸ List.mem_append_right more List.mem_cons_self
    have e : pre ++ .enter a call :: (begun ++ [x]) = (pre ++ .enter a call :: begun) ++ [x] := by
      simp
    rw [e, remembered_concat, logDue?_of_inProgress w inProgress, ih before]
    exact List.append_nil _

theorem recentHistory_of_trail (trail : Trail handlers w t) (fresh : Fresh w) :
    RecentHistory handlers w t := by
  have lawful : LawfulFrom w [] t := trail.lawfulFrom []
  refine ⟨?_, ?_, ?_, console_after lawful⟩
  · rintro pre ⟨post, rfl⟩ s free
    dsimp only
    obtain ⟨log, copied, holds⟩ := fresh.copy_after lawful.before free
    refine ⟨log, congrArg (fun copy => (Except.ok copy, w.after pre)) copied,
      Ring.toList_eq_of_holds holds, ?_, ?_⟩
    · rw [Ring.size_eq_of_holds holds, List.length_drop]
      omega
    · rw [Ring.back?_eq_of_holds holds, List.getLast?_drop]
      cases w.remembered s pre with
      | nil => rfl
      | cons u seen => exact if_neg (by rw [List.length_cons]; omega)
  · intro pre post a call split unknown free
    obtain ⟨inside, returned, rest, rfl, inner, -⟩ := trail.call_of_split split
    subst split
    refine ⟨inside, returned, rest, rfl, fun begun hp => ?_⟩
    rw [remembered_of_inside lawful.act.called.1 inner hp,
      fresh.remembered_enter lawful unknown free]
  · intro pre post a call split unknown free
    subst split
    have held := fresh.held_after lawful.before a.system
    rw [after_append, after_cons, after_nil, console_effect lawful.act, Act.writes, held, free,
      Cause.reports, unknown]
    rfl

end World

end HartLayer
