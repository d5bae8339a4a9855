import Mathlib.Data.Fintype.Option
import HartLayer.Proofs.DemoEvents

/-!
# The threads of the demo take turns

Boot code and two threads share a hart. Whoever runs does what it likes until it traps, as long as
it leaves the scheduler, the dispatcher and the frames of the others alone (`Raises`). When the trap
is handled, the frame that it ended with is resumed (`Reached`).

* Where everybody's context is saved can be told from the traps so far (`frameOf`, `parked`), and so
  can whose turn it is (`running`).
* The scheduler has the frames of the threads that wait, and these are as they were saved
  (`Turns`). That is kept by code that runs (`Turns.meanwhile`), by traps that are no yields
  (`Turns.stays`) and by yields (`Turns.switches`), so it holds whenever somebody runs
  (`Reached.turns`).
* So each trap is handled in turn (`handledInTurn_of_reached`).
-/

namespace HartLayer

theorem Frame.Apart.ne {a b : Word} (apart : Frame.Apart a b) : a ≠ b := by
  rintro rfl
  have bounds := apart.bounds
  rw [UInt64.sub_self] at bounds
  exact absurd bounds.1 (by decide)

theorem Frame.Apart.symm {a b : Word} (apart : Frame.Apart a b) : Frame.Apart b a :=
  And.symm apart

namespace Demo

open World

variable {H : Type}

/-! ## Histories of traps -/

/-- One of the threads, or else the boot code. -/
abbrev Party := Option (Fin 2)

/-- A trap: who ran, why the hart trapped, and where it saved what. -/
structure Trap where
  party : Party
  cause : Cause
  frame : Word
  context : Context

namespace Trap

def event (t : Trap) : Event := (classify t.cause t.context).event

/-- The trapped context as the handler finds it. -/
def saved (t : Trap) : Context := (classify t.cause t.context).apply t.context

/-- What the trap ends with and leaves, handled in a state. -/
def handled [Hart H] (t : Trap) (v : World H 0 (Board Scheduler)) :
    Except Fault Word × World H 0 (Board Scheduler) :=
  (answer kernel.handlers (.dispatch .global t.cause t.frame)).runFrom v

end Trap

def yields (past : List Trap) : Nat := past.countP (·.event.kind = .yield)

/-- The thread that a yield hands the hart to, after so many others. -/
def turn (k : Nat) : Fin 2 := ⟨k % 2, Nat.mod_lt k Nat.two_pos⟩

/-- Who runs after so many yields. -/
def running : Nat → Party
  | 0 => none
  | k + 1 => some (turn k)

theorem running_ne_turn (k : Nat) : running k ≠ some (turn k) := by
  cases k with
  | zero => exact fun e => nomatch e
  | succ k =>
    intro e
    have same : k % 2 = (k + 1) % 2 := congrArg Fin.val (Option.some.inj e)
    omega

theorem next_of_current {s : Scheduler} {k : Nat} (current : s.current = running k) :
    s.next = turn k := by
  unfold Scheduler.next
  rw [current]
  cases k with
  | zero => rfl
  | succ k => exact Fin.ext (Nat.mod_add_mod k 2 1)

section Saved

variable (made : Fin 2 → Word) (w₀ : World H 0 (Board Scheduler)) (past : List Trap)

/-- The frame in which the context of a party was saved last. The traps begin with the newest, and
threads begin with the frames that they were made with. -/
def frameOf (q : Party) : Option Word :=
  ((past.find? (·.party = q)).map Trap.frame).or (q.map made)

/-- The frame that a thread yielded with last, and the context saved in it. -/
def parked (i : Fin 2) : Word × Context :=
  match past.find? fun t => t.party = some i ∧ t.event.kind = .yield with
  | some t => (t.frame, t.saved)
  | none => (made i, w₀.context (made i))

variable {past} (t : Trap)

theorem yields_cons :
    yields (t :: past) = yields past + if t.event.kind = .yield then 1 else 0 := by
  simp only [yields, List.countP_cons, decide_eq_true_eq]

theorem frameOf_cons (q : Party) :
    frameOf made (t :: past) q = if t.party = q then some t.frame else frameOf made past q := by
  unfold frameOf
  rw [List.find?_cons]
  by_cases same : t.party = q
  · simp only [same, decide_true, if_true, Option.map_some, Option.some_or]
  · simp only [same, decide_false, if_false]

theorem parked_cons (i : Fin 2) :
    parked made w₀ (t :: past) i =
      if t.party = some i ∧ t.event.kind = .yield then (t.frame, t.saved)
      else parked made w₀ past i := by
  unfold parked
  rw [List.find?_cons]
  by_cases same : t.party = some i ∧ t.event.kind = .yield
  · simp only [same, and_self, decide_true, if_true]
  · simp only [same, decide_false, if_false]

end Saved

/-- Code of a party runs from one state to another, in which it traps. It leaves alone what is not
its own, and its trap is saved apart from the frames of the others. -/
structure Raises (made : Fin 2 → Word) (past : List Trap) (w : World H 0 (Board Scheduler))
    (p : Party) (v : World H 0 (Board Scheduler)) (t : Trap) : Prop where
  party : t.party = p
  context : t.context = v.context t.frame
  scheduler : v.kernel.kernel = w.kernel.kernel
  handler : (v.dispatcher .global).handler = (w.dispatcher .global).handler
  idle : v.busy .global = w.busy .global
  kept : ∀ q F, q ≠ p → frameOf made past q = some F → v.context F = w.context F
  apart : ∀ q F, q ≠ p → frameOf made past q = some F → Frame.Apart t.frame F

/-- The state in which the boot code has made two threads. -/
structure Starts (made : Fin 2 → Word) (w₀ : World H 0 (Board Scheduler)) : Prop where
  scheduler : w₀.kernel.kernel = Scheduler.initial.withThreads (made 0) (made 1)
  installed : (w₀.dispatcher .global).handler = some handler
  idle : w₀.busy .global = false
  apart : Frame.Apart (made 0) (made 1)

/-- The states in which somebody runs, after the traps so far: the boot code at the start, and then
whoever has the frame that the handling of the last trap ended with. -/
inductive Reached [Hart H] (made : Fin 2 → Word) (w₀ : World H 0 (Board Scheduler)) :
    List Trap → World H 0 (Board Scheduler) → Party → Prop where
  | start : Reached made w₀ [] w₀ none
  | resumed {past : List Trap} {w v : World H 0 (Board Scheduler)} {p q : Party} {t : Trap}
      {next : Word} (before : Reached made w₀ past w p) (raised : Raises made past w p v t)
      (ended : (t.handled v).1 = .ok next) (owner : frameOf made (t :: past) q = some next) :
      Reached made w₀ (t :: past) (t.handled v).2 q

/-! ## Whose turn it is -/

/-- The scheduler is in step with the traps so far, and the frames of the threads that wait are as
they were saved. -/
structure Turns (made : Fin 2 → Word) (w₀ : World H 0 (Board Scheduler)) (past : List Trap)
    (w : World H 0 (Board Scheduler)) (p : Party) : Prop where
  limit : yields past ≤ maxSwitches
  running_eq : p = running (yields past)
  current_eq : w.kernel.kernel.current = p
  switches_eq : w.kernel.kernel.switches = yields past
  threads_eq : ∀ i, w.kernel.kernel.threads.get i =
    if p = some i then none else some (parked made w₀ past i).1
  waits : ∀ i, p ≠ some i → frameOf made past (some i) = some (parked made w₀ past i).1
  kept : ∀ i, p ≠ some i → w.context (parked made w₀ past i).1 = (parked made w₀ past i).2
  apart : ∀ {q q' F F'}, q ≠ q' → q ≠ p → q' ≠ p → frameOf made past q = some F →
    frameOf made past q' = some F' → Frame.Apart F F'
  installed : (w.dispatcher .global).handler = some handler
  idle : w.busy .global = false

variable {made : Fin 2 → Word} {w₀ w v u : World H 0 (Board Scheduler)} {past : List Trap}
  {p : Party} {t : Trap}

theorem Starts.turns (starts : Starts made w₀) : Turns made w₀ [] w₀ none where
  limit := Nat.zero_le _
  running_eq := rfl
  current_eq := by
    rw [starts.scheduler]
    rfl
  switches_eq := by
    rw [starts.scheduler]
    rfl
  threads_eq i := by
    rw [starts.scheduler]
    match i with
    | 0 => rfl
    | 1 => rfl
  waits _ _ := rfl
  kept _ _ := rfl
  apart {q q' F F'} ne hq hq' mem mem' := by
    match q, q' with
    | none, _ => exact absurd rfl hq
    | _, none => exact absurd rfl hq'
    | some 0, some 0 | some 1, some 1 => exact absurd rfl ne
    | some 0, some 1 =>
      cases mem
      cases mem'
      exact starts.apart
    | some 1, some 0 =>
      cases mem
      cases mem'
      exact starts.apart.symm
  installed := starts.installed
  idle := starts.idle

theorem Turns.waiting (turns : Turns made w₀ past w p) : p ≠ some (turn (yields past)) := by
  rw [turns.running_eq]
  exact running_ne_turn _

theorem Turns.next_park (turns : Turns made w₀ past w p) (frame : Word) :
    (w.kernel.kernel.park frame).next = turn (yields past) := by
  rw [Scheduler.next_park]
  exact next_of_current (turns.current_eq.trans turns.running_eq)

theorem Turns.meanwhile (turns : Turns made w₀ past w p) (raised : Raises made past w p v t) :
    Turns made w₀ past v p where
  limit := turns.limit
  running_eq := turns.running_eq
  current_eq := by
    rw [raised.scheduler]
    exact turns.current_eq
  switches_eq := by
    rw [raised.scheduler]
    exact turns.switches_eq
  threads_eq := by
    rw [raised.scheduler]
    exact turns.threads_eq
  waits := turns.waits
  kept i waiting :=
    (raised.kept _ _ (Ne.symm waiting) (turns.waits i waiting)).trans (turns.kept i waiting)
  apart := turns.apart
  installed := raised.handler.trans turns.installed
  idle := raised.idle.trans turns.idle

theorem Raises.here (raised : Raises made past w p v t) : Raises made past v p v t :=
  ⟨raised.party, raised.context, rfl, rfl, rfl, fun _ _ _ _ => rfl, raised.apart⟩

/-- After a trap, nobody's frame shares a byte with that of another. -/
theorem Turns.apart_cons (turns : Turns made w₀ past w p) (raised : Raises made past w p v t)
    {q q' : Party} {F F' : Word} (ne : q ≠ q') (mem : frameOf made (t :: past) q = some F)
    (mem' : frameOf made (t :: past) q' = some F') : Frame.Apart F F' := by
  rw [frameOf_cons, raised.party] at mem mem'
  split at mem
  · next here =>
    subst here
    rw [if_neg ne] at mem'
    rw [← Option.some.inj mem]
    exact raised.apart q' F' (Ne.symm ne) mem'
  · next there =>
    split at mem'
    · next here =>
      rw [← Option.some.inj mem']
      exact (raised.apart q F (Ne.symm there) mem).symm
    · next there' => exact turns.apart ne (Ne.symm there) (Ne.symm there') mem mem'

theorem Turns.owner_unique (turns : Turns made w₀ past w p) (raised : Raises made past w p v t)
    {q q' : Party} {F : Word} (mem : frameOf made (t :: past) q = some F)
    (mem' : frameOf made (t :: past) q' = some F) : q = q' := by
  by_contra ne
  exact (turns.apart_cons raised ne mem mem').ne rfl

theorem Turns.stays {c : Context} (turns : Turns made w₀ past v p)
    (raised : Raises made past v p v t) (kind : t.event.kind ≠ .yield)
    (left : Leaves v t.frame v.kernel.kernel c u) (idle : u.busy .global = false) :
    Turns made w₀ (t :: past) u p := by
  have count : yields (t :: past) = yields past := by
    rw [yields_cons, if_neg kind, Nat.add_zero]
  have same (i : Fin 2) : parked made w₀ (t :: past) i = parked made w₀ past i := by
    rw [parked_cons, if_neg fun both => kind both.2]
  have scheduler : u.kernel.kernel = v.kernel.kernel := congrArg Board.kernel left.kernel
  have waits : ∀ i, p ≠ some i →
      frameOf made (t :: past) (some i) = some (parked made w₀ past i).1 := by
    intro i waiting
    rw [frameOf_cons, raised.party, if_neg waiting]
    exact turns.waits i waiting
  refine ⟨?_, ?_, ?_, ?_, ?_, ?_, ?_, ?_, left.handler.trans turns.installed, idle⟩
  · rw [count]
    exact turns.limit
  · rw [count]
    exact turns.running_eq
  · rw [scheduler]
    exact turns.current_eq
  · rw [scheduler, count]
    exact turns.switches_eq
  · intro i
    rw [scheduler, same]
    exact turns.threads_eq i
  · intro i waiting
    rw [same]
    exact waits i waiting
  · -- the handler stores in the trapped frame only
    intro i waiting
    rw [same]
    have far := raised.apart _ _ (Ne.symm waiting) (turns.waits i waiting)
    exact (left.apart far).trans (turns.kept i waiting)
  · intro q q' F F' ne _ _
    exact turns.apart_cons raised ne

theorem Turns.switches (turns : Turns made w₀ past v p) (raised : Raises made past v p v t)
    (kind : t.event.kind = .yield) (more : yields past < maxSwitches)
    (left : Leaves v t.frame (v.kernel.kernel.park t.frame).takeNext.2 t.saved u)
    (idle : u.busy .global = false) :
    Turns made w₀ (t :: past) u (some (turn (yields past))) := by
  have count : yields (t :: past) = yields past + 1 := by
    rw [yields_cons, if_pos kind]
  have scheduler : u.kernel.kernel = (v.kernel.kernel.park t.frame).takeNext.2 :=
    congrArg Board.kernel left.kernel
  have parks (i : Fin 2) : parked made w₀ (t :: past) i =
      if p = some i then (t.frame, t.saved) else parked made w₀ past i := by
    rw [parked_cons, raised.party]
    simp only [kind, and_true]
  refine ⟨?_, ?_, ?_, ?_, ?_, ?_, ?_, ?_, left.handler.trans turns.installed, idle⟩
  · rw [count]
    exact more
  · rw [count]
    rfl
  · rw [scheduler, ← turns.next_park t.frame]
    rfl
  · rw [scheduler, count, ← turns.switches_eq]
    exact Scheduler.switches_park _ _
  · -- whoever yields is parked in its own slot, and the next thread leaves its slot empty
    intro i
    rw [scheduler, Scheduler.threads_takeNext, Scheduler.threads_park, turns.next_park, parks,
      turns.current_eq, turns.threads_eq]
    simp only [Option.some.injEq]
    split
    · rfl
    · split <;> rfl
  · intro i _
    rw [frameOf_cons, raised.party, parks]
    by_cases trapped : p = some i
    · rw [if_pos trapped, if_pos trapped]
    · rw [if_neg trapped, if_neg trapped]
      exact turns.waits i trapped
  · intro i _
    rw [parks]
    by_cases trapped : p = some i
    · rw [if_pos trapped]
      exact left.context
    · rw [if_neg trapped]
      have far := raised.apart _ _ (Ne.symm trapped) (turns.waits i trapped)
      exact (left.apart far).trans (turns.kept i trapped)
  · intro q q' F F' ne _ _
    exact turns.apart_cons raised ne

/-! ## The trap of whoever runs -/

section Handled

variable [Hart H]

/-- The ways in which a trap is handled: the next thread goes on, or whoever trapped does, or the
machine stops. Nothing is stored but in the frame of the trap. -/
inductive Handling (made : Fin 2 → Word) (w₀ : World H 0 (Board Scheduler)) (past : List Trap)
    (v : World H 0 (Board Scheduler)) (t : Trap) : Prop where
  | switch (kind : t.event.kind = .yield) (more : yields past < maxSwitches)
      (ended : (t.handled v).1 = .ok (parked made w₀ past (turn (yields past))).1)
      (left : Leaves v t.frame (v.kernel.kernel.park t.frame).takeNext.2 t.saved (t.handled v).2)
  | stay {c : Context} (kind : t.event.kind ≠ .yield) (ended : (t.handled v).1 = .ok t.frame)
      (left : Leaves v t.frame v.kernel.kernel c (t.handled v).2)
  | stop {status : Int} {s : Scheduler} (ended : (t.handled v).1 = .error (.halted status))
      (left : Leaves v t.frame s t.saved (t.handled v).2)

theorem busy_handled (t : Trap) (v : World H 0 (Board Scheduler)) :
    (t.handled v).2.busy .global = v.busy .global :=
  busy_answer kernel.handlers (.dispatch .global t.cause t.frame) .global

variable (turns : Turns made w₀ past v p) (raised : Raises made past v p v t)
include turns raised

theorem handled_yield (kind : t.event.kind = .yield) (more : yields past < maxSwitches) :
    (t.handled v).1 = .ok (parked made w₀ past (turn (yields past))).1 ∧
      Leaves v t.frame (v.kernel.kernel.park t.frame).takeNext.2 t.saved (t.handled v).2 := by
  have yielded := dispatch_yield t.cause t.frame turns.installed turns.idle
  rw [← raised.context] at yielded
  have goesOn : (v.kernel.kernel.park t.frame).isOver = false := by
    rw [Scheduler.isOver, Scheduler.switches_park, turns.switches_eq, decide_eq_false_iff_not]
    omega
  have found : (v.kernel.kernel.park t.frame).takeNext.1 =
      some (parked made w₀ past (turn (yields past))).1 := by
    rw [Scheduler.takeNext_fst, Scheduler.threads_park, turns.next_park, turns.current_eq,
      turns.threads_eq, if_neg turns.waiting, if_neg turns.waiting]
  have ended := yielded kind
  dsimp only at ended
  rw [goesOn] at ended
  exact ended _ found

theorem handled_yield_last (kind : t.event.kind = .yield) (last : yields past = maxSwitches) :
    (t.handled v).1 = .error (.halted 0) ∧
      Leaves v t.frame (v.kernel.kernel.park t.frame) t.saved (t.handled v).2 := by
  have yielded := dispatch_yield t.cause t.frame turns.installed turns.idle
  rw [← raised.context] at yielded
  have finished : (v.kernel.kernel.park t.frame).isOver = true := by
    rw [Scheduler.isOver, Scheduler.switches_park, turns.switches_eq, decide_eq_true_iff]
    omega
  have ended := yielded kind
  dsimp only at ended
  rw [finished] at ended
  exact ended

theorem handled_syscall (kind : t.event.kind = .syscall) :
    (t.handled v).1 = .ok t.frame ∧
      Leaves v t.frame v.kernel.kernel
        (t.saved.setReturnValue (v.kernel.kernel.answer t.saved.callNumber)) (t.handled v).2 := by
  have called := dispatch_syscall t.cause t.frame turns.installed turns.idle
  rw [← raised.context] at called
  exact called kind

theorem handled_error (kind : t.event.kind = .error) :
    (t.handled v).1 = .error (.halted 1) ∧
      Leaves v t.frame v.kernel.kernel t.saved (t.handled v).2 := by
  have failed := dispatch_error t.cause t.frame turns.installed turns.idle
  rw [← raised.context] at failed
  exact failed kind

theorem handled_interrupt (kind : t.event.kind = .irqTimer ∨ t.event.kind = .irqIoDev) :
    (t.handled v).1 = .ok t.frame ∧
      Leaves v t.frame v.kernel.kernel t.saved (t.handled v).2 := by
  have struck := dispatch_interrupt t.cause t.frame turns.installed turns.idle
  rw [← raised.context] at struck
  exact struck kind

theorem handling : Handling made w₀ past v t := by
  cases kind : t.event.kind with
  | yield =>
    rcases Nat.lt_or_eq_of_le turns.limit with more | last
    · obtain ⟨ended, left⟩ := handled_yield turns raised kind more
      exact .switch kind more ended left
    · obtain ⟨ended, left⟩ := handled_yield_last turns raised kind last
      exact .stop ended left
  | syscall =>
    obtain ⟨ended, left⟩ := handled_syscall turns raised kind
    exact .stay (by rw [kind]; decide) ended left
  | error =>
    obtain ⟨ended, left⟩ := handled_error turns raised kind
    exact .stop ended left
  | irqTimer =>
    obtain ⟨ended, left⟩ := handled_interrupt turns raised (.inl kind)
    exact .stay (by rw [kind]; decide) ended left
  | irqIoDev =>
    obtain ⟨ended, left⟩ := handled_interrupt turns raised (.inr kind)
    exact .stay (by rw [kind]; decide) ended left

/-- After a trap that is handled, whoever's turn it is has the frame to resume, and all is in step
again. -/
theorem goesOn {next : Word} (result : (t.handled v).1 = .ok next) :
    let q := running (yields (t :: past))
    frameOf made (t :: past) q = some next ∧ Turns made w₀ (t :: past) (t.handled v).2 q := by
  have idle := (busy_handled t v).trans turns.idle
  cases handling turns raised with
  | switch kind more ended left =>
    obtain rfl := Except.ok.inj (ended.symm.trans result)
    have count : yields (t :: past) = yields past + 1 := by
      rw [yields_cons, if_pos kind]
    rw [count]
    refine ⟨?_, turns.switches raised kind more left idle⟩
    rw [frameOf_cons, raised.party, running, if_neg turns.waiting]
    exact turns.waits _ turns.waiting
  | stay kind ended left =>
    obtain rfl : t.frame = next := Except.ok.inj (ended.symm.trans result)
    have same : running (yields (t :: past)) = p := by
      rw [yields_cons, if_neg kind]
      exact turns.running_eq.symm
    dsimp only
    rw [same]
    refine ⟨?_, turns.stays raised kind left idle⟩
    rw [frameOf_cons, if_pos raised.party]
  | stop ended left =>
    rw [ended] at result
    cases result

end Handled

/-! ## Traps in turn -/

variable [Hart H]

theorem Reached.turns (starts : Starts made w₀) (reached : Reached made w₀ past w p) :
    Turns made w₀ past w p := by
  induction reached with
  | start => exact starts.turns
  | @resumed past w v p q t next _ raised ended owner ih =>
    have before := ih.meanwhile raised
    obtain ⟨frame, after⟩ := goesOn before raised.here ended
    rw [before.owner_unique raised.here owner frame]
    exact after

/-- How a trap of whoever runs is handled, after other traps. -/
structure HandledInTurn (made : Fin 2 → Word) (w₀ : World H 0 (Board Scheduler))
    (past : List Trap) (p : Party) (v : World H 0 (Board Scheduler)) (t : Trap) : Prop where
  /-- The boot code runs until the first yield. Then the threads take turns. -/
  running : p = running (yields past) ∧ yields past ≤ maxSwitches
  /-- A yield ends with the frame that the next thread yielded with last, or was made with, and
  with all registers saved there. -/
  switches : t.event.kind = .yield → yields past < maxSwitches →
    let next := parked made w₀ past (turn (yields past))
    (t.handled v).1 = .ok next.1 ∧ (t.handled v).2.context next.1 = next.2
  /-- The yield that is one too many stops the machine. -/
  stops : t.event.kind = .yield → yields past = maxSwitches →
    (t.handled v).1 = .error (.halted 0)
  /-- A call writes its answer to `a0`, and whoever made it goes on. -/
  answers : t.event.kind = .syscall →
    (t.handled v).1 = .ok t.frame ∧ (t.handled v).2.kernel = v.kernel ∧
      (t.handled v).2.context t.frame = t.saved.setReturnValue
        (if t.saved.callNumber = whoAmI then p.elim noAnswer (·.val.toUInt64) else noAnswer)
  /-- Whoever an interrupt struck goes on. -/
  passes : t.event.kind = .irqTimer ∨ t.event.kind = .irqIoDev →
    (t.handled v).1 = .ok t.frame ∧ (t.handled v).2.kernel = v.kernel ∧
      (t.handled v).2.context t.frame = t.saved
  /-- Any other trap stops the machine. -/
  fails : t.event.kind = .error → (t.handled v).1 = .error (.halted 1)
  /-- The frame to resume is that of whoever's turn it is, and of nobody else. -/
  owner : ∀ next, (t.handled v).1 = .ok next →
    ∀ q, frameOf made (t :: past) q = some next ↔ q = Demo.running (yields (t :: past))
  /-- The boot code is not resumed once it has yielded. -/
  boot : 0 < yields (t :: past) → ∀ next, (t.handled v).1 = .ok next →
    frameOf made (t :: past) none ≠ some next
  /-- The handler always has a frame to resume, or it stops the machine. -/
  resumes : (∃ next, (t.handled v).1 = .ok next) ∨
    ∃ status, (t.handled v).1 = .error (.halted status)
  /-- Frames apart from the trapped one, so those of the others, stay as they were. -/
  kept : ∀ F, Frame.Apart t.frame F → (t.handled v).2.context F = v.context F

omit [Hart H] in
/-- A party that stores the context of its trap, and nothing else, leaves the others alone. -/
theorem raises_setContext {F : Word} (cause : Cause) (c : Context)
    (apart : ∀ q, q ≠ p → (frameOf made past q).all (Frame.Apart F ·)) :
    Raises made past w p (w.setContext F c) ⟨p, cause, F, c⟩ := by
  have far : ∀ q G, q ≠ p → frameOf made past q = some G → Frame.Apart F G := by
    intro q G other mem
    have all := apart q other
    rwa [mem, Option.all_some, decide_eq_true_iff] at all
  refine ⟨rfl, (w.context_setContext F c).symm, rfl, rfl, rfl, fun q G other mem => ?_, far⟩
  exact w.memory.context_setContext_apart c (far q G other mem)

/-- The frames of the threads, at the ends of their stacks. -/
def threadFrames (i : Fin 2) : Word :=
  (MemoryMap.threadStack i.val.toUInt64).stop - Frame.size.toUInt64

def threadsMade : World NativeHart 0 (Board Scheduler) :=
  let thread (slot tag : Word) : Request 0 (Board Scheduler) :=
    .newThread .global (MemoryMap.threadStack slot) MemoryMap.threadEntry tag
  let requests := [.init .global .standard handler MemoryMap.trapEntry, thread 0 0xa, thread 1 0xb]
  let scheduler := Scheduler.initial.withThreads (threadFrames ⟨0, Nat.two_pos⟩)
    (threadFrames ⟨1, Nat.one_lt_two⟩)
  let board := Board.atBoot [] [] scheduler
  perform kernel.handlers requests (World.boot .standard NativeHart.reset 0 MemoryMap.ramEnd board)

/-- A yield of a party, saved in a frame, with something in `a0`. -/
def yieldOf (p : Party) (frame arg : Word) : Trap :=
  ⟨p, .ofException .machineEnvCall, frame, callContext yieldSentinel arg⟩

end Demo

end HartLayer
