import Mathlib.Data.Fintype.Card
import HartLayer.Proofs.Requests

/-!
# Dispatches nest as deep as the handlers make them

`deliver` bounds how deep dispatches nest, and `World.answer` allows as many levels as there are
dispatchers. Here that bound is shown to be none at all:

* a dispatch, a request and a script leave the mark of every dispatcher as it was
  (`keepsMarks_deliver`), and each level that calls a handler marks one more dispatcher;
* so two depths that reach the number of idle dispatchers give the same (`runFrom_deliver_congr`);
* so a dispatch is the dispatch whose handlers run without a bound (`deliver_eq_dispatchWith_exec`).
-/

namespace HartLayer.World

variable {H κ α : Type} {n : Nat}

/-- Whether a dispatcher is handling a trap. -/
def busy (w : World H n κ) (s : SystemId n) : Bool := (w.dispatcher s).dispatching

def mark (w : World H n κ) (s : SystemId n) : World H n κ :=
  w.onDispatcher s fun d => { d with dispatching := true }

def unmark (w : World H n κ) (s : SystemId n) : World H n κ :=
  w.onDispatcher s fun d => { d with dispatching := false }

/-- The event that a handler is told, and the state in which it is called. -/
def opening (w : World H n κ) (s : SystemId n) (h : HandlerId) (cause : Cause) (frame : Word) :
    Event × World H n κ :=
  (w.mark s).announce s h cause frame

/-- What a dispatch makes of the way its handler ended. -/
def verdict (event : Event) : Except Fault (Option Word) → Except Fault Word
  | .ok (some next) => .ok next
  | .ok none => .error (.nullContext event)
  | .error e => .error e

/-! ## One dispatch -/

section Dispatch

variable {s : SystemId n} {w : World H n κ} {h : HandlerId}

theorem dispatchWith_of_busy (installed : (w.dispatcher s).handler = some h)
    (marked : w.busy s = true) (call : HandlerId → Event → Word → Run H n κ (Option Word))
    (cause : Cause) (frame : Word) :
    (dispatchWith call s cause frame).runFrom w = (.error (.nestedTrap cause), w) := by
  rw [dispatchWith, Attempt.runFrom_bind]
  simp only [Attempt.runFrom_get, installed]
  exact guarded_of_dispatching marked cause _

theorem dispatchWith_of_idle (installed : (w.dispatcher s).handler = some h)
    (idle : w.busy s = false) (call : HandlerId → Event → Word → Run H n κ (Option Word))
    (cause : Cause) (frame : Word) :
    (dispatchWith call s cause frame).runFrom w =
      (verdict (w.opening s h cause frame).1
        ((call h (w.opening s h cause frame).1 frame).runFrom (w.opening s h cause frame).2).1,
      ((call h (w.opening s h cause frame).1 frame).runFrom
        (w.opening s h cause frame).2).2.unmark s) := by
  have unmarked : (w.dispatcher s).dispatching = false := idle
  rw [dispatchWith, Attempt.runFrom_bind]
  simp only [Attempt.runFrom_get, installed]
  rw [Attempt.runFrom, guarded, if_neg (by rw [unmarked]; exact Bool.false_ne_true)]
  simp only [Attempt.runFrom_ensuring, Attempt.runFrom_bind, Attempt.runFrom_get,
    Attempt.runFrom_set]
  simp only [← mark.eq_1, ← opening.eq_1]
  generalize (call h (w.opening s h cause frame).1 frame).runFrom (w.opening s h cause frame).2 = r
  obtain ⟨_ | _ | next, v⟩ := r <;> rfl

end Dispatch

/-! ## The requests that deliver a trap -/

section Requests

variable (deliver : SystemId n → Cause → Word → Run H n κ Word) (w : World H n κ)

theorem runFrom_handleWith (s : SystemId n) {frame : Word} (h : frame ≠ 0) :
    (handleWith deliver s frame).runFrom w =
      (deliver s (w.context frame).cause frame).runFrom w := by
  rw [handleWith, if_neg h]
  rfl

variable [Hart H]

theorem runFrom_simulateTrapWith_null :
    (simulateTrapWith deliver 0).runFrom w = (.error .noFrame, w) := rfl

/-- A simulated trap is the dispatch of its frame between taking the trap and returning to the
frame that was chosen. -/
theorem runFrom_simulateTrapWith {frame : Word} (h : frame ≠ 0) :
    (simulateTrapWith deliver frame).runFrom w =
      let v := w.takeTrap .global frame
      match (deliver .global (v.context frame).cause frame).runFrom v with
      | (.ok next, u) => (.ok next, if next = 0 then u else u.returnFromTrap .global next)
      | (.error e, u) => (.error e, u) := by
  rw [simulateTrapWith, if_pos h]
  simp only [Attempt.runFrom_bind, Attempt.runFrom_modify, runFrom_handleWith _ _ _ h]
  generalize (deliver .global _ frame).runFrom (w.takeTrap .global frame) = r
  obtain ⟨e | next, u⟩ := r
  · rfl
  · by_cases hn : next = 0
    · simp only [hn, ne_eq, not_true_eq_false, if_false, if_true]
      rfl
    · simp only [hn, ne_eq, not_false_eq_true, if_false, if_true]
      rfl

/-- The frame that a yield pushes. -/
def yieldFrame (w : World H n κ) : Word := w.stack - Frame.size.toUInt64

/-- The context that a yield pushes. -/
def yieldContext (w : World H n κ) : Context :=
  .calling yieldSentinel (w.code.address .yieldNow)

def pushed (w : World H n κ) (frame : Word) (c : Context) : World H n κ :=
  { w.setContext frame c with stack := frame }

/-- A yield is a simulated trap with a frame of its own. -/
theorem runFrom_yieldWith :
    (yieldWith deliver).runFrom w =
      let v := w.pushed w.yieldFrame w.yieldContext
      let r := (simulateTrapWith deliver w.yieldFrame).runFrom v
      (r.1.map fun _ => (), { r.2 with stack := w.stack }) := by
  rw [yieldWith, Attempt.runFrom_bind]
  simp only [Attempt.runFrom_get]
  rw [Attempt.runFrom, withFrame]
  simp only [Attempt.runFrom_ensuring, Attempt.runFrom_bind, ← yieldFrame.eq_1, ← yieldContext.eq_1,
    ← pushed.eq_1]
  generalize (simulateTrapWith deliver w.yieldFrame).runFrom
    (w.pushed w.yieldFrame w.yieldContext) = r
  obtain ⟨_ | next, v⟩ := r <;> rfl

end Requests

/-! ## Marks -/

theorem busy_mark (w : World H n κ) (s t : SystemId n) :
    (w.mark s).busy t = if s = t then true else w.busy t := by
  by_cases h : s = t
  · subst h
    rw [if_pos rfl, busy, mark, dispatcher_onDispatcher_self]
  · rw [if_neg h, busy, mark, dispatcher_onDispatcher_of_ne w h, busy]

theorem busy_unmark (w : World H n κ) (s t : SystemId n) :
    (w.unmark s).busy t = if s = t then false else w.busy t := by
  by_cases h : s = t
  · subst h
    rw [if_pos rfl, busy, unmark, dispatcher_onDispatcher_self]
  · rw [if_neg h, busy, unmark, dispatcher_onDispatcher_of_ne w h, busy]

/-- A change of a system that leaves its mark alone leaves all marks alone. -/
theorem busy_onSystem (w : World H n κ) (s t : SystemId n) {f : TrapSystem H → TrapSystem H}
    (h : (f (w.system t)).dispatcher.dispatching = (w.system t).dispatcher.dispatching) :
    (w.onSystem s f).busy t = w.busy t := by
  unfold busy dispatcher
  rw [system_onSystem]
  split
  · exact h
  · rfl

theorem system_logUnknown (w : World H n κ) (s t : SystemId n) (u : UnknownTrap) :
    ∃ log, (w.logUnknown s u).system t =
      if s = t then { w.system t with dispatcher := { w.dispatcher t with log := log } }
      else w.system t := by
  dsimp only [logUnknown]
  split
  · refine ⟨(w.dispatcher t).log, ?_⟩
    split <;> rfl
  · refine ⟨(w.dispatcher t).log.push u, ?_⟩
    rw [onDispatcher, system_onSystem]
    rfl

/-- What becomes of a trap system when a trap is announced: the trap is counted, and perhaps
logged. -/
theorem system_announce (w : World H n κ) (s t : SystemId n) (h : HandlerId) (cause : Cause)
    (frame : Word) :
    ∃ log, (w.announce s h cause frame).2.system t =
      if s = t then
        { w.system t with
          dispatcher := { w.dispatcher t with
            delivered := (w.dispatcher t).delivered + 1
            log := log } }
      else w.system t := by
  have counted := system_onSystem w s t fun u =>
    { u with dispatcher := { u.dispatcher with delivered := u.dispatcher.delivered + 1 } }
  unfold announce
  rw [onDispatcher]
  generalize w.onSystem s _ = v at counted ⊢
  by_cases unknown : (classify cause (v.context frame)).isUnrecognized = true
  · simp only [if_pos unknown]
    obtain ⟨log, logged⟩ := system_logUnknown v s t ⟨cause, (v.context frame).mepc⟩
    refine ⟨log, logged.trans ?_⟩
    rw [dispatcher, counted]
    split <;> rfl
  · simp only [if_neg unknown]
    refine ⟨(w.dispatcher t).log, counted.trans ?_⟩
    split <;> rfl

theorem busy_announce (w : World H n κ) (s t : SystemId n) (h : HandlerId) (cause : Cause)
    (frame : Word) : (w.announce s h cause frame).2.busy t = w.busy t := by
  obtain ⟨log, announced⟩ := system_announce w s t h cause frame
  rw [busy, dispatcher, announced]
  split <;> rfl

theorem busy_opening (w : World H n κ) (s t : SystemId n) (h : HandlerId) (cause : Cause)
    (frame : Word) :
    (w.opening s h cause frame).2.busy t = if s = t then true else w.busy t := by
  rw [opening, busy_announce, busy_mark]

/-- A computation after which every dispatcher is marked as before, also if it fails. -/
def KeepsMarks (x : Run H n κ α) : Prop :=
  ∀ w s, (x.runFrom w).2.busy s = w.busy s

theorem keepsMarks_dispatchWith {call : HandlerId → Event → Word → Run H n κ (Option Word)}
    (keeps : ∀ h event frame, KeepsMarks (call h event frame)) (s : SystemId n) (cause : Cause)
    (frame : Word) : KeepsMarks (dispatchWith call s cause frame) := by
  intro w t
  cases installed : (w.dispatcher s).handler with
  | none => rw [dispatchWith_of_handler_none installed]
  | some h =>
    cases marked : w.busy s with
    | true => rw [dispatchWith_of_busy installed marked]
    | false =>
      rw [dispatchWith_of_idle installed marked]
      simp only [busy_unmark, keeps _ _ _ _ t, busy_opening]
      by_cases e : s = t
      · subst e
        rw [if_pos rfl, marked]
      · rw [if_neg e, if_neg e]

section Keeps

variable [Hart H]

theorem system_takeTrap (w : World H n κ) (s t : SystemId n) (frame : Word) :
    (w.takeTrap s frame).system t =
      (w.onSystem s fun u => { u with hart := (Hart.takeTrap (w.system s).hart).2 }).system t := rfl

theorem cause_takeTrap (w : World H n κ) (s : SystemId n) (frame : Word) :
    ((w.takeTrap s frame).context frame).cause = (w.context frame).cause := by
  rw [context_takeTrap]
  rfl

theorem busy_takeTrap (w : World H n κ) (s t : SystemId n) (frame : Word) :
    (w.takeTrap s frame).busy t = w.busy t := by
  rw [busy, dispatcher, system_takeTrap]
  exact busy_onSystem w s t rfl

theorem busy_returnFromTrap (w : World H n κ) (s t : SystemId n) (frame : Word) :
    (w.returnFromTrap s frame).busy t = w.busy t := by
  unfold returnFromTrap
  exact busy_onSystem w s t rfl

theorem keepsMarks_simulateTrapWith {deliver : SystemId n → Cause → Word → Run H n κ Word}
    (keeps : ∀ s cause frame, KeepsMarks (deliver s cause frame)) (frame : Word) :
    KeepsMarks (simulateTrapWith deliver frame) := by
  intro w t
  by_cases h : frame = 0
  · rw [h, runFrom_simulateTrapWith_null]
  · rw [runFrom_simulateTrapWith deliver w h, ← busy_takeTrap w .global t frame]
    generalize w.takeTrap .global frame = v
    have kept := keeps .global (v.context frame).cause frame v t
    dsimp only
    generalize (deliver .global (v.context frame).cause frame).runFrom v = r at kept ⊢
    obtain ⟨e | next, u⟩ := r
    · exact kept
    · by_cases hn : next = 0
      · simp only [hn, if_true]
        exact kept
      · simp only [hn, if_false]
        exact (busy_returnFromTrap u .global t next).trans kept

theorem busy_settle {r : Request n κ} (quiet : r.deliversTrap = false) (w : World H n κ)
    (s : SystemId n) : (w.settle r).busy s = w.busy s := by
  rw [busy, dispatcher_settle quiet]
  rfl

theorem keepsMarks_answerWith {deliver : SystemId n → Cause → Word → Run H n κ Word}
    (keeps : ∀ s cause frame, KeepsMarks (deliver s cause frame)) (r : Request n κ) :
    KeepsMarks (answerWith deliver r) := by
  intro w t
  by_cases quiet : r.deliversTrap = false
  · rw [answerWith_of_quiet quiet deliver fun _ _ _ => throw .nestingExhausted]
    exact busy_settle quiet w t
  · cases r with
    | dispatch s cause frame => exact keeps s cause frame w t
    | handle s frame =>
      by_cases h : frame = 0
      · subst h
        rfl
      · show ((handleWith deliver s frame).runFrom w).2.busy t = w.busy t
        rw [runFrom_handleWith deliver w s h, keeps s _ frame]
    | simulateTrap frame => exact keepsMarks_simulateTrapWith keeps frame w t
    | yieldNow =>
      show ((yieldWith deliver).runFrom w).2.busy t = w.busy t
      rw [runFrom_yieldWith]
      exact keepsMarks_simulateTrapWith keeps _ (w.pushed _ _) t
    | _ => exact absurd rfl quiet

omit [Hart H] in
theorem keepsMarks_run {answer : (r : Request n κ) → Run H n κ r.Answer}
    (keeps : ∀ r, KeepsMarks (answer r)) (p : Script n κ α) : KeepsMarks (p.run answer) := by
  intro w t
  induction p generalizing w with
  | done a => rfl
  | fail e => rfl
  | ask r next ih =>
    rw [Program.run_ask, Attempt.runFrom_bind, ← keeps r w t]
    split
    · exact ih _ _
    · rfl

/-- Every dispatcher is marked after a dispatch as it was before, however deep dispatches may
nest and however this one ends. -/
theorem keepsMarks_deliver (handlers : Handlers n κ) (depth : Nat) (s : SystemId n) (cause : Cause)
    (frame : Word) : KeepsMarks (H := H) (deliver handlers depth s cause frame) := by
  induction depth generalizing s cause frame with
  | zero => exact keepsMarks_dispatchWith (fun _ _ _ _ _ => rfl) s cause frame
  | succ depth ih =>
    exact keepsMarks_dispatchWith
      (fun h event frame => keepsMarks_run (keepsMarks_answerWith ih) (handlers h event frame))
      s cause frame

end Keeps

/-! ## Enough levels -/

/-- The number of dispatchers that are handling no trap. -/
def idle (w : World H n κ) : Nat :=
  (Finset.univ.filter fun s => w.busy s = false).card

theorem idle_le (w : World H n κ) : w.idle ≤ n + 1 := by
  have h := Finset.card_filter_le Finset.univ fun s => w.busy s = false
  rwa [Finset.card_univ, Fintype.card_fin] at h

theorem idle_congr {w v : World H n κ} (h : ∀ s, v.busy s = w.busy s) : v.idle = w.idle := by
  unfold idle
  simp only [h]

theorem idle_opening_lt {w : World H n κ} {s : SystemId n} (unmarked : w.busy s = false)
    (h : HandlerId) (cause : Cause) (frame : Word) :
    (w.opening s h cause frame).2.idle < w.idle := by
  refine Finset.card_lt_card ?_
  rw [Finset.ssubset_iff_of_subset]
  · refine ⟨s, by simp [unmarked], ?_⟩
    simp [busy_opening]
  · intro t ht
    rw [Finset.mem_filter, busy_opening] at ht
    rw [Finset.mem_filter]
    refine ⟨ht.1, ?_⟩
    by_cases e : s = t
    · rw [if_pos e] at ht
      exact absurd ht.2 (by decide)
    · rw [if_neg e] at ht
      exact ht.2

section Depth

variable [Hart H]

theorem answerWith_congr {first second : SystemId n → Cause → Word → Run H n κ Word} {depth : Nat}
    (agree : ∀ s cause frame (w : World H n κ), w.idle ≤ depth →
      (first s cause frame).runFrom w = (second s cause frame).runFrom w)
    (r : Request n κ) {w : World H n κ} (enough : w.idle ≤ depth) :
    (answerWith first r).runFrom w = (answerWith second r).runFrom w := by
  have simulate : ∀ (frame : Word) (v : World H n κ), v.idle ≤ depth →
      (simulateTrapWith first frame).runFrom v = (simulateTrapWith second frame).runFrom v := by
    intro frame v hv
    by_cases h : frame = 0
    · subst h
      rfl
    · have taken : (v.takeTrap .global frame).idle ≤ depth := by
        rwa [idle_congr fun s => busy_takeTrap v .global s frame]
      rw [runFrom_simulateTrapWith first v h, runFrom_simulateTrapWith second v h]
      dsimp only
      rw [agree _ _ _ _ taken]
  cases r with
  | dispatch s cause frame => exact agree s cause frame w enough
  | handle s frame =>
    by_cases h : frame = 0
    · subst h
      rfl
    · show (handleWith first s frame).runFrom w = (handleWith second s frame).runFrom w
      rw [runFrom_handleWith first w s h, runFrom_handleWith second w s h, agree _ _ _ _ enough]
  | simulateTrap frame => exact simulate frame w enough
  | yieldNow =>
    show (yieldWith first).runFrom w = (yieldWith second).runFrom w
    have same := simulate w.yieldFrame (w.pushed w.yieldFrame w.yieldContext) enough
    rw [runFrom_yieldWith, runFrom_yieldWith]
    dsimp only
    rw [same]
  | _ => rfl

omit [Hart H] in
theorem run_congr {first second : (r : Request n κ) → Run H n κ r.Answer} {depth : Nat}
    (keeps : ∀ r, KeepsMarks (first r))
    (agree : ∀ r (w : World H n κ), w.idle ≤ depth → (first r).runFrom w = (second r).runFrom w)
    (p : Script n κ α) {w : World H n κ} (enough : w.idle ≤ depth) :
    Attempt.runFrom (p.run first) w = Attempt.runFrom (p.run second) w := by
  induction p generalizing w with
  | done a => rfl
  | fail e => rfl
  | ask r next ih =>
    have after : ((first r).runFrom w).2.idle ≤ depth := by
      rwa [idle_congr (keeps r w)]
    rw [Program.run_ask, Program.run_ask, Attempt.runFrom_bind, Attempt.runFrom_bind,
      ← agree r w enough]
    split
    · exact ih _ after
    · rfl

theorem runFrom_deliver_of_handler_none (handlers : Handlers n κ) (depth : Nat) {s : SystemId n}
    {w : World H n κ} (h : (w.dispatcher s).handler = none) (cause : Cause) (frame : Word) :
    (deliver handlers depth s cause frame).runFrom w = (.ok frame, w) := by
  cases depth <;> exact dispatchWith_of_handler_none h _ cause frame

theorem runFrom_deliver_of_busy (handlers : Handlers n κ) (depth : Nat) {s : SystemId n}
    {w : World H n κ} {h : HandlerId} (installed : (w.dispatcher s).handler = some h)
    (marked : w.busy s = true) (cause : Cause) (frame : Word) :
    (deliver handlers depth s cause frame).runFrom w = (.error (.nestedTrap cause), w) := by
  cases depth <;> exact dispatchWith_of_busy installed marked _ cause frame

/-- Two depths that reach the number of idle dispatchers give the same. -/
theorem runFrom_deliver_congr (handlers : Handlers n κ) {first second : Nat} {w : World H n κ}
    (enough : w.idle ≤ first) (enough' : w.idle ≤ second) (s : SystemId n) (cause : Cause)
    (frame : Word) :
    (deliver handlers first s cause frame).runFrom w =
      (deliver handlers second s cause frame).runFrom w := by
  -- a level that calls a handler marks an idle dispatcher, so the levels behind it are enough for
  -- the dispatchers that are left
  induction first generalizing second w s cause frame with
  | zero =>
    cases installed : (w.dispatcher s).handler with
    | none => simp only [runFrom_deliver_of_handler_none handlers _ installed]
    | some h =>
      cases marked : w.busy s with
      | true => simp only [runFrom_deliver_of_busy handlers _ installed marked]
      | false =>
        have := idle_opening_lt marked h cause frame
        omega
  | succ first ih =>
    cases installed : (w.dispatcher s).handler with
    | none => simp only [runFrom_deliver_of_handler_none handlers _ installed]
    | some h =>
      cases marked : w.busy s with
      | true => simp only [runFrom_deliver_of_busy handlers _ installed marked]
      | false =>
        have fewer := idle_opening_lt marked h cause frame
        obtain ⟨second, rfl⟩ : ∃ m, second = m + 1 := ⟨second - 1, by omega⟩
        have agree : ∀ r (v : World H n κ), v.idle ≤ min first second →
            (answerWith (deliver handlers first) r).runFrom v =
              (answerWith (deliver handlers second) r).runFrom v :=
          fun r v hv => answerWith_congr
            (fun s cause frame u hu => ih (le_trans hu (min_le_left _ _))
              (le_trans hu (min_le_right _ _)) s cause frame) r hv
        rw [deliver, deliver, dispatchWith_of_idle installed marked,
          dispatchWith_of_idle installed marked,
          run_congr (fun r => keepsMarks_answerWith (keepsMarks_deliver handlers first) r) agree _
            (by omega)]

/-- A dispatch is the dispatch whose handlers run without a bound on how deep they nest. -/
theorem deliver_eq_dispatchWith_exec (handlers : Handlers n κ) (s : SystemId n) (cause : Cause)
    (frame : Word) :
    deliver (H := H) handlers (n + 1) s cause frame =
      dispatchWith (fun h event frame => exec handlers (handlers h event frame)) s cause frame := by
  funext w
  have enough : w.idle ≤ n + 2 := Nat.le_succ_of_le (idle_le w)
  exact runFrom_deliver_congr handlers (idle_le w) enough s cause frame

/-! ## The trap path -/

/-- A trap is handled as it is dispatched, with the cause that its frame holds. -/
theorem runFrom_answer_handle (handlers : Handlers n κ) (s : SystemId n) (frame : Word)
    (w : World H n κ) :
    (answer handlers (.handle s frame)).runFrom w =
      if frame = 0 then (.error .noFrame, w)
      else (answer handlers (.dispatch s (w.context frame).cause frame)).runFrom w := by
  by_cases h : frame = 0
  · subst h
    rfl
  · rw [if_neg h]
    exact runFrom_handleWith _ w s h

/-- A simulated trap ends as its dispatch does, in the state in which the trap is taken. -/
theorem runFrom_answer_simulateTrap (handlers : Handlers n κ) (frame : Word) (w : World H n κ) :
    ((answer handlers (.simulateTrap frame)).runFrom w).1 =
      if frame = 0 then .error .noFrame
      else
        ((answer handlers (.dispatch .global (w.context frame).cause frame)).runFrom
          (w.takeTrap .global frame)).1 := by
  by_cases h : frame = 0
  · subst h
    rfl
  · rw [if_neg h]
    show ((simulateTrapWith _ frame).runFrom w).1 = _
    rw [runFrom_simulateTrapWith _ w h, ← cause_takeTrap w .global frame]
    show _ = ((deliver handlers (n + 1) .global _ frame).runFrom (w.takeTrap .global frame)).1
    dsimp only
    generalize (deliver handlers (n + 1) .global _ frame).runFrom (w.takeTrap .global frame) = r
    obtain ⟨e | next, u⟩ := r <;> rfl

/-- The state after the return to the frame that was chosen, if one was. -/
def returnTo (w : World H n κ) : Except Fault Word → World H n κ
  | .ok next => if next = 0 then w else w.returnFromTrap .global next
  | .error _ => w

/-- After a simulated trap there has been a return to the frame that its dispatch chose. -/
theorem answer_simulateTrap_snd (handlers : Handlers n κ) {frame : Word} (h : frame ≠ 0)
    (w : World H n κ) :
    ((answer handlers (.simulateTrap frame)).runFrom w).2 =
      let dispatched := (answer handlers (.dispatch .global (w.context frame).cause frame)).runFrom
        (w.takeTrap .global frame)
      dispatched.2.returnTo dispatched.1 := by
  show ((simulateTrapWith _ frame).runFrom w).2 = _
  rw [runFrom_simulateTrapWith _ w h, ← cause_takeTrap w .global frame]
  generalize w.takeTrap .global frame = v
  show _ = ((deliver handlers (n + 1) .global (v.context frame).cause frame).runFrom v).2.returnTo
    ((deliver handlers (n + 1) .global (v.context frame).cause frame).runFrom v).1
  dsimp only
  generalize (deliver handlers (n + 1) .global _ frame).runFrom v = r
  obtain ⟨e | next, u⟩ := r <;> rfl

/-- A yield ends as the simulated trap of its frame does. -/
theorem runFrom_answer_yieldNow (handlers : Handlers n κ) (w : World H n κ) :
    ((answer handlers .yieldNow).runFrom w).1 =
      ((answer handlers (.simulateTrap w.yieldFrame)).runFrom
        (w.pushed w.yieldFrame w.yieldContext)).1.map fun _ => () := by
  show ((yieldWith _).runFrom w).1 = _
  rw [runFrom_yieldWith]
  rfl

end Depth

end HartLayer.World
