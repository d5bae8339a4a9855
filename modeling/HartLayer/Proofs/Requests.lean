import HartLayer.Trap.Delivery

/-!
# Requests that deliver no trap

Most requests read or change a part of the state and are done. Here is what they do to the parts:

* `system_settle` : to the trap systems, as one function of the request (`Request.onSystem`);
* `dispatcher_settle` : to the dispatchers, where only the handler and the log can change;
* `journal_settle` : to the journal.
-/

namespace HartLayer

variable {H κ : Type} {n : Nat}

def Request.deliversTrap : Request n κ → Bool
  | dispatch _ _ _ | handle _ _ | simulateTrap _ | yieldNow => true
  | _ => false

/-- What a request does that delivers no trap to one of the systems. -/
def Request.onSystem [Hart H] (t : SystemId n) (u : TrapSystem H) : Request n κ → TrapSystem H
  | .install s h => if s = t then { u with dispatcher := (u.dispatcher.install h).2 } else u
  | .init s chosen h target => if s = t then u.init chosen h target else u
  | .setInterrupts s on => if s = t then u.setInterrupts on else u
  | .setHartInterrupts s on => if s = t then { u with hart := Hart.setInterrupts on u.hart } else u
  | .setVector s v => if s = t then { u with hart := Hart.setVector v u.hart } else u
  | .holdLog s held =>
    if s = t then { u with dispatcher := { u.dispatcher with logHeld := held } } else u
  | _ => u

def Request.installs? (s : SystemId n) : Request n κ → Option HandlerId
  | install t h => if t = s then some h else none
  | init t _ h _ => if t = s then some h else none
  | _ => none

def Request.holds? (s : SystemId n) : Request n κ → Option Bool
  | holdLog t held => if t = s then some held else none
  | _ => none

def Request.record? : Request n κ → Option (Entry n)
  | note e => some e
  | _ => none

namespace World

theorem system_onSystem (w : World H n κ) (s t : SystemId n) (f : TrapSystem H → TrapSystem H) :
    (w.onSystem s f).system t = if s = t then f (w.system t) else w.system t := by
  by_cases e : s = t
  · subst e
    rw [if_pos rfl, system_onSystem_self]
  · rw [if_neg e, system_onSystem_of_ne w e]

theorem runFrom_newThread (policy : InterruptPolicy) (stack : Area) (entry arg : Word)
    (w : World H n κ) :
    (newThread policy stack entry arg).runFrom w =
      match KernelThread.prepare (w.code.address .threadExit) stack entry arg policy with
      | .error e => (.error e, w)
      | .ok (base, c) => (.ok base, w.setContext base c) := rfl

theorem system_newThread (policy : InterruptPolicy) (stack : Area) (entry arg : Word)
    (w : World H n κ) (t : SystemId n) :
    ((newThread policy stack entry arg).runFrom w).2.system t = w.system t := by
  rw [runFrom_newThread]
  split <;> rfl

theorem journal_newThread (policy : InterruptPolicy) (stack : Area) (entry arg : Word)
    (w : World H n κ) : ((newThread policy stack entry arg).runFrom w).2.journal = w.journal := by
  rw [runFrom_newThread]
  split <;> rfl

variable [Hart H] {r : Request n κ}

/-- What a request does that delivers no trap. -/
def settle (w : World H n κ) (r : Request n κ) : World H n κ :=
  ((answerWith (fun _ _ _ => throw .nestingExhausted) r).runFrom w).2

theorem answerWith_of_quiet (quiet : r.deliversTrap = false)
    (first second : SystemId n → Cause → Word → Run H n κ Word) :
    answerWith first r = answerWith second r := by
  cases r with
  | dispatch _ _ _ | handle _ _ | simulateTrap _ | yieldNow => cases quiet
  | _ => rfl

theorem system_settle (quiet : r.deliversTrap = false) (w : World H n κ) (t : SystemId n) :
    (w.settle r).system t = r.onSystem t (w.system t) := by
  cases r with
  | dispatch _ _ _ | handle _ _ | simulateTrap _ | yieldNow => cases quiet
  | install s h =>
    refine (system_onSystem w s t _).trans ?_
    by_cases e : s = t
    · subst e
      rfl
    · rw [if_neg e, Request.onSystem, if_neg e]
  | init s config h vector => exact system_onSystem w s t fun u => u.init config h vector
  | setInterrupts s on => exact system_onSystem w s t _
  | setHartInterrupts s on => exact system_onSystem w s t _
  | setVector s v => exact system_onSystem w s t _
  | holdLog s held => exact system_onSystem w s t _
  | newThread s stack entry arg => exact system_newThread _ stack entry arg w t
  | newThreadUnder policy stack entry arg => exact system_newThread policy stack entry arg w t
  | _ => rfl

theorem dispatcher_settle (quiet : r.deliversTrap = false) (w : World H n κ) (s : SystemId n) :
    (w.settle r).dispatcher s =
      { w.dispatcher s with
        handler := (r.installs? s).or (w.dispatcher s).handler
        logHeld := (r.holds? s).getD (w.dispatcher s).logHeld } := by
  rw [dispatcher, system_settle quiet]
  cases r with
  | install t h | init t config h vector =>
    rw [Request.onSystem, Request.installs?]
    split <;> rfl
  | holdLog t held =>
    rw [Request.onSystem, Request.holds?]
    split <;> rfl
  | setInterrupts t on | setHartInterrupts t on | setVector t v =>
    rw [Request.onSystem]
    split <;> rfl
  | _ => rfl

theorem journal_settle (quiet : r.deliversTrap = false) (w : World H n κ) :
    (w.settle r).journal.toList = w.journal.toList ++ r.record?.toList := by
  cases r with
  | dispatch _ _ _ | handle _ _ | simulateTrap _ | yieldNow => cases quiet
  | note e => exact Array.toList_push
  | newThread s stack entry arg =>
    have kept := journal_newThread (w.system s).policy stack entry arg w
    exact (congrArg Array.toList kept).trans (List.append_nil _).symm
  | newThreadUnder policy stack entry arg =>
    have kept := journal_newThread policy stack entry arg w
    exact (congrArg Array.toList kept).trans (List.append_nil _).symm
  | _ => exact (List.append_nil _).symm

end World

end HartLayer
