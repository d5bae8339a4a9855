import Mathlib.Data.Nat.Bitwise
import HartLayer.Device.Bus
import HartLayer.Device.Keyboard
import HartLayer.Proofs.Ports

/-!
# Polling takes every key once

An event tells the status that it stands for (`status_ofStatus`). A poll reads the status word once
and acknowledges what it finds, unless that is zero, at whatever port (`runFrom_poll`). At a port whose
status word delivers one status with each read (`Delivers`), a row of polls therefore takes every
status that is pending, in order, and no key behind the last one (`polls_eq`).

* `Bus.delivers_port` : such a port is the scripted bus with the statuses and a zero in its queue;
* `takesEveryKey_polls` : what is known of a row of polls.
-/

namespace HartLayer

namespace Keyboard

/-! ## Statuses and events -/

/-- The status that an event stands for: the key code, with the bit of a press for a key that went
down. -/
def KeyEvent.status (e : KeyEvent) : UInt32 :=
  if e.keydown then e.keycode ||| keydownMask else e.keycode

theorem and_keydownMask (status : UInt32) :
    status &&& keydownMask = 0 ∨ status &&& keydownMask = keydownMask := by
  have mask : keydownMask.toNat = 2 ^ 15 := rfl
  rw [← UInt32.toNat_inj, ← UInt32.toNat_inj, UInt32.toNat_and, mask, Nat.and_two_pow]
  cases status.toNat.testBit 15 <;> simp

theorem and_not_or_and (w m : UInt32) : (w &&& ~~~m) ||| (w &&& m) = w := by
  apply UInt32.eq_of_toBitVec_eq
  ext i hi
  simp only [UInt32.toBitVec_or, UInt32.toBitVec_and, UInt32.toBitVec_not, BitVec.getElem_or,
    BitVec.getElem_and, BitVec.getElem_not]
  cases w.toBitVec[i] <;> cases m.toBitVec[i] <;> rfl

theorem status_ofStatus (status : UInt32) : (KeyEvent.ofStatus status).status = status := by
  have parts := and_not_or_and status keydownMask
  unfold KeyEvent.ofStatus KeyEvent.status
  rcases and_keydownMask status with up | down
  · simpa [up] using parts
  · have pressed : keydownMask ≠ 0 := by decide
    rw [down] at parts
    simpa [down, pressed] using parts

theorem KeyEvent.isNone_iff (e : KeyEvent) : e.isNone = true ↔ e = ⟨false, 0⟩ := by
  obtain ⟨keydown, keycode⟩ := e
  cases keydown <;> simp [KeyEvent.isNone]

theorem isNone_ofStatus_iff (status : UInt32) :
    (KeyEvent.ofStatus status).isNone = true ↔ status = 0 := by
  rw [KeyEvent.isNone_iff]
  constructor
  · intro none
    rw [← status_ofStatus status, none]
    rfl
  · rintro rfl
    rfl

/-! ## One poll -/

/-- How a poll ends that finds a status, and the accesses that it makes. -/
def polled (status : UInt32) : Except Fault KeyEvent × List Access :=
  (.ok (.ofStatus status),
    .read32 DeviceMap.keyboard :: if status = 0 then [] else [.write32 acknowledge 1])

/-- The status that a poll has taken, if it found a key. -/
def taken? (poll : Except Fault KeyEvent × List Access) : Option UInt32 :=
  match poll.1 with
  | .ok e => if e.isNone then none else some e.status
  | .error _ => none

theorem taken?_polled (status : UInt32) :
    taken? (polled status) = if status = 0 then none else some status := by
  simp [taken?, polled, isNone_ofStatus_iff, status_ofStatus]

variable {σ : Type} {port : (a : Access) → StateM σ a.Answer} {pending : σ → List UInt32 → Prop}
  {s : σ} {statuses : List UInt32}

theorem poll_eq : poll = .ask (.read32 DeviceMap.keyboard) fun status : UInt32 =>
    if status = 0 then .done (.ofStatus status)
    else .ask (.write32 acknowledge 1) fun _ => .done (.ofStatus status) := by
  unfold poll
  refine congrArg (Program.ask (Access.read32 DeviceMap.keyboard)) (funext fun status => ?_)
  by_cases zero : status = 0 <;> simp [zero, Routine.access, Program.request]

/-- Whatever the port, a poll is one read, and an acknowledgement if that finds a status. -/
theorem runFrom_poll (port : (a : Access) → StateM σ a.Answer) (s : σ) :
    Attempt.runFrom (poll.run (Routine.watched port)) (s, []) =
      let found := port (.read32 DeviceMap.keyboard) s
      ((polled found.1).1,
        if found.1 = 0 then found.2 else (port (.write32 acknowledge 1) found.2).2,
        (polled found.1).2) := by
  rw [poll_eq, Routine.runFrom_ask]
  unfold polled
  dsimp only
  split <;> rfl

/-! ## Polls in a row -/

/-- The status word of a port delivers the statuses that are pending, one with each read, and zero
behind the last one. To acknowledge one leaves the others as they are. -/
structure Delivers (port : (a : Access) → StateM σ a.Answer) (pending : σ → List UInt32 → Prop) :
    Prop where
  status : ∀ s statuses, pending s statuses →
    (port (.read32 DeviceMap.keyboard) s).1 = statuses.headD 0
  read : ∀ s statuses, pending s statuses →
    pending (port (.read32 DeviceMap.keyboard) s).2 statuses.tail
  acknowledged : ∀ s statuses, pending s statuses →
    pending (port (.write32 acknowledge 1) s).2 statuses

/-- A number of polls one after the other: how each of them ends, and the accesses that it makes. -/
def polls (port : (a : Access) → StateM σ a.Answer) :
    Nat → σ → List (Except Fault KeyEvent × List Access)
  | 0, _ => []
  | n + 1, s => Routine.sees port poll s :: polls port n (Routine.leaves port poll s)

theorem Delivers.sees_poll (delivers : Delivers port pending) (here : pending s statuses) :
    Routine.sees port poll s = polled (statuses.headD 0) := by
  rw [Routine.sees, runFrom_poll, ← delivers.status s statuses here]

theorem Delivers.leaves_poll (delivers : Delivers port pending) (here : pending s statuses) :
    pending (Routine.leaves port poll s) statuses.tail := by
  have behind := delivers.read s statuses here
  rw [Routine.leaves, runFrom_poll]
  dsimp only
  split
  · exact behind
  · exact delivers.acknowledged _ _ behind

/-- Poll `k` finds status `k`. -/
theorem polls_eq (delivers : Delivers port pending) (here : pending s statuses) (n : Nat) :
    polls port n s = (List.range n).map fun k => polled (statuses.getD k 0) := by
  induction n generalizing s statuses with
  | zero => rfl
  | succ n ih =>
    have tail (k : Nat) : statuses.tail.getD k 0 = statuses.getD (k + 1) 0 := by
      cases statuses <;> rfl
    have head : statuses.headD 0 = statuses.getD 0 0 := by cases statuses <;> rfl
    rw [polls, delivers.sees_poll here, ih (delivers.leaves_poll here), List.range_succ_eq_map,
      List.map_cons, List.map_map, head]
    simp only [Function.comp_def, tail, Nat.succ_eq_add_one]

/-- The statuses that polls have taken are those that were pending, up to their number. -/
theorem filterMap_polls (delivers : Delivers port pending) (here : pending s statuses)
    (keys : ∀ status ∈ statuses, status ≠ 0) (n : Nat) :
    (polls port n s).filterMap taken? = statuses.take n := by
  induction n generalizing s statuses with
  | zero => rfl
  | succ n ih =>
    have behind := delivers.leaves_poll here
    rw [polls, delivers.sees_poll here, List.filterMap_cons, taken?_polled]
    cases statuses with
    | nil => simpa using ih behind keys
    | cons status statuses =>
      obtain ⟨key, keys⟩ := List.forall_mem_cons.mp keys
      simp [key, ih behind keys]

/-- What polling comes to at a port in whose status word these statuses are pending. -/
structure TakesEveryKey (port : (a : Access) → StateM σ a.Answer) (start : σ)
    (statuses : List UInt32) : Prop where
  length_eq : ∀ n, (polls port n start).length = n
  /-- Poll `k` gives the event of status `k`. The port sees one read of the status word and one
  acknowledgement. -/
  key : ∀ n k (_ : k < n) (pending : k < statuses.length), (polls port n start)[k]? =
    some (.ok (.ofStatus statuses[k]), [.read32 DeviceMap.keyboard, .write32 acknowledge 1])
  /-- Behind the last status there is no key. The port sees one read. -/
  none : ∀ n k, k < n → statuses.length ≤ k → (polls port n start)[k]? =
    some (.ok ⟨false, 0⟩, [.read32 DeviceMap.keyboard])
  /-- Nothing is lost, nothing is found twice, and nothing is made up. -/
  taken_eq : ∀ n, (polls port n start).filterMap taken? = statuses.take n
  /-- The status can be told from the event, whatever its bits are. -/
  status_eq : ∀ status : UInt32, (KeyEvent.ofStatus status).status = status
  isNone_iff : ∀ status : UInt32, (KeyEvent.ofStatus status).isNone = true ↔ status = 0

/-- Wherever a status word delivers statuses other than zero one by one, polling takes every one of
them once, in order, and then finds no key. -/
theorem takesEveryKey_polls (delivers : Delivers port pending) (start : σ)
    (here : pending start statuses) (keys : ∀ status ∈ statuses, status ≠ 0) :
    TakesEveryKey port start statuses := by
  have found (n k : Nat) (h : k < n) :
      (polls port n start)[k]? = some (polled (statuses.getD k 0)) := by
    rw [polls_eq delivers here, List.getElem?_map, List.getElem?_range h]
    rfl
  refine ⟨fun n => ?_, fun n k h inside => ?_, fun n k h behind => ?_,
    filterMap_polls delivers here keys, status_ofStatus, isNone_ofStatus_iff⟩
  · rw [polls_eq delivers here, List.length_map, List.length_range]
  · have status : statuses.getD k 0 = statuses[k] := List.getD_eq_getElem _ _ inside
    rw [found n k h, status, polled, if_neg (keys _ (List.getElem_mem inside))]
  · rw [found n k h, List.getD_eq_default _ _ behind]
    rfl

end Keyboard

/-! ## The keyboard of the scripted bus -/

namespace Bus

theorem isSome_answer (a : Access) (b : Bus) :
    ((answer a).runFrom b).1.toOption.isSome = true := by
  cases a <;> rfl

/-- The bus as a port, since every access to it has an answer. -/
def port (a : Access) : StateM Bus a.Answer := fun b =>
  (((answer a).runFrom b).1.toOption.get (isSome_answer a b), ((answer a).runFrom b).2)

/-- The statuses are in the queue of the status word, with a zero behind them. -/
def Presents (b : Bus) (statuses : List UInt32) : Prop :=
  b.queue DeviceMap.keyboard = statuses.map UInt32.toUInt64 ++ [0]

theorem queue_pop (b : Bus) (a : Word) : (b.pop a).queue a = shift (b.queue a) := by
  obtain ⟨queues, accesses⟩ := b
  simp only [pop, queue]
  induction queues with
  | nil => rfl
  | cons entry queues ih =>
    obtain ⟨k, q⟩ := entry
    by_cases same : k = a
    · simp [same]
    · have other : (a == k) = false := by simpa using fun e : a = k => same e.symm
      simpa [List.lookup_cons, same, other] using ih

theorem delivers_port : Keyboard.Delivers port Presents where
  status b statuses here := by
    show (b.peek DeviceMap.keyboard).toUInt32 = _
    rw [peek, here]
    cases statuses <;> simp
  read b statuses here := by
    show (b.pop DeviceMap.keyboard).queue DeviceMap.keyboard = _
    rw [queue_pop, here]
    match statuses with
    | [] => rfl
    | [_] => rfl
    | _ :: _ :: _ => rfl
  acknowledged _ _ here := here

end Bus

theorem Keyboard.takesEveryKey_threeKeys :
    let statuses : List UInt32 := [0x802b, 0x8000, 0x1802b]
    let bus := Bus.ofQueues [(DeviceMap.keyboard, [0x802b, 0x8000, 0x1802b, 0])]
    Delivers Bus.port Bus.Presents ∧ bus.Presents statuses ∧ (∀ status ∈ statuses, status ≠ 0) ∧
      TakesEveryKey Bus.port bus statuses := by
  have keys : ∀ status ∈ ([0x802b, 0x8000, 0x1802b] : List UInt32), status ≠ 0 := by simp
  exact ⟨Bus.delivers_port, rfl, keys, takesEveryKey_polls Bus.delivers_port _ rfl keys⟩

end HartLayer
