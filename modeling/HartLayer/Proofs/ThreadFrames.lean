import Mathlib.Order.Bounds.Defs
import HartLayer.Proofs.Frames

/-!
# Where the frame of a new thread is stored, and what is stored

* `Area.Holds`, `Area.Misses` : frames that lie in an area, and frames that lie outside. They are
  apart (`Area.Holds.apart`);
* `frameBase?_eq_filter`, `size_eq_getD` : the two differences that are taken are checked ones, so
  none of them wraps;
* `frameBase?_eq_some_iff`, `noRoom_iff` : the place of the frame in the numbers of the stack. The
  frame lies in the stack (`holds_of_frame?`), and a stack of the least size has room for it
  (`frame?_of_minStackSize_le`);
* `gpr_initialContext` : the registers of a new thread;
* `preparesThread_newThread` : which stacks are enough for a thread, which of the two refusals the
  others get, and all that is stored for a thread.
-/

namespace HartLayer

variable {H κ : Type} {n : Nat}

/-! ## Areas and frames -/

namespace Area

def Apart (a b : Area) : Prop := ∀ x, a.contains x = true → b.contains x = false

/-- A frame whose bytes all lie in an area. -/
def Holds (a : Area) (F : Word) : Prop :=
  ∀ i < Frame.size, a.contains (F + i.toUInt64) = true

/-- A frame none of whose bytes lies in an area. -/
def Misses (a : Area) (F : Word) : Prop :=
  ∀ i < Frame.size, a.contains (F + i.toUInt64) = false

instance (a : Area) (F : Word) : Decidable (a.Holds F) := Nat.decidableBallLT _ _

instance (a : Area) (F : Word) : Decidable (a.Misses F) := Nat.decidableBallLT _ _

theorem size_eq_getD (a : Area) : a.size = (Word.sub? a.stop a.start).getD 0 := by
  unfold size Word.sub?
  by_cases inverted : a.stop < a.start
  · rw [if_pos inverted, if_neg (UInt64.not_le.mpr inverted)]
    rfl
  · rw [if_neg inverted, if_pos (UInt64.not_lt.mp inverted)]
    rfl

theorem contains_iff {a : Area} {x : Word} :
    a.contains x = true ↔ a.start.toNat ≤ x.toNat ∧ x.toNat < a.stop.toNat := by
  simp [contains, UInt64.le_iff_toNat_le, UInt64.lt_iff_toNat_lt]

theorem apart_iff {a b : Area} :
    a.Apart b ↔
      a.stop ≤ a.start ∨ b.stop ≤ b.start ∨ a.stop ≤ b.start ∨ b.stop ≤ a.start := by
  simp only [Apart, ← Bool.not_eq_true, contains_iff, UInt64.le_iff_toNat_le]
  constructor
  · intro none
    by_contra meet
    -- the later one of the two starts lies in both
    rcases Nat.le_total a.start.toNat b.start.toNat with h | h
    · exact none b.start ⟨h, by omega⟩ ⟨le_refl _, by omega⟩
    · exact none a.start ⟨le_refl _, by omega⟩ ⟨h, by omega⟩
  · intro order x inside
    omega

instance (a b : Area) : Decidable (a.Apart b) := decidable_of_iff _ apart_iff.symm

variable {a b : Area} {F G : Word}

theorem Holds.misses (inside : b.Holds F) (apart : a.Apart b) : a.Misses F := by
  intro i hi
  by_contra both
  have outside := apart _ (Bool.not_eq_false _ ▸ both)
  rw [inside i hi] at outside
  cases outside

theorem Holds.apart (inside : a.Holds F) (outside : a.Misses G) : Frame.Apart G F := by
  have first := inside 0 (by decide)
  have other := outside 0 (by decide)
  have reach (x y : Word) : y + (x - y).toNat.toUInt64 = x := by
    rw [show (x - y).toNat.toUInt64 = x - y from UInt64.ofNat_toNat, UInt64.add_comm,
      UInt64.sub_add_cancel]
  constructor
  · by_contra near
    have here := outside (F - G).toNat (by omega)
    rw [reach, ← UInt64.add_zero F] at here
    exact absurd (first.symm.trans here) (by decide)
  · by_contra near
    have here := inside (G - F).toNat (by omega)
    rw [reach, ← UInt64.add_zero G] at here
    exact absurd (other.symm.trans here) (by decide)

end Area

/-- Addresses outside of a frame that does not wrap around, below it or behind it. -/
theorem Frame.size_le_of_outside {F x : Word} (fits : F.toNat + 288 ≤ UInt64.size)
    (outside : x.toNat < F.toNat ∨ F.toNat + 288 ≤ x.toNat) : Frame.size ≤ (x - F).toNat := by
  have size : Frame.size = 288 := rfl
  have hx := x.toNat_lt
  simp only [UInt64.toNat_sub, UInt64.size] at *
  omega

/-! ## The place of the frame -/

/-- Without its low four bits a word is the multiple of 16 below it. -/
theorem Word.toNat_and_not_fifteen (w : Word) : (w &&& ~~~15).toNat = w.toNat / 16 * 16 := by
  have shifted : w.toNat / 16 * 16 = (w.toNat >>> 4) <<< 4 := by
    rw [Nat.shiftLeft_eq, Nat.shiftRight_eq_div_pow]
  have low (i : Nat) : Word.bit 15 i = decide (i < 4) := Nat.testBit_two_pow_sub_one 4 i
  rw [shifted]
  refine Nat.eq_of_testBit_eq fun i => ?_
  rw [← Word.bit, Word.bit_and_not, low, Nat.testBit_shiftLeft, Nat.testBit_shiftRight, Word.bit]
  by_cases small : i < 4
  · simp [small]
  · rw [show 4 + (i - 4) = i by omega]
    simp [small, Nat.le_of_not_lt small]

namespace KernelThread

variable {stack : Area} {F : Word}

theorem toNat_stackTop (stack : Area) :
    (stackTop stack).toNat = stack.stop.toNat / 16 * 16 := Word.toNat_and_not_fifteen stack.stop

/-- Whether a stack has no room for a frame: its aligned top is too low, or the frame would begin
below the stack or at address zero. -/
def NoRoom (stack : Area) : Prop :=
  let top := stack.stop.toNat / 16 * 16
  top < 288 ∨ top - 288 < stack.start.toNat ∨ top - 288 = 0

instance (stack : Area) : Decidable (NoRoom stack) := by
  unfold NoRoom
  infer_instance

theorem frameBase?_eq_filter (stack : Area) :
    frameBase? stack = (Word.sub? (stackTop stack) 288).filter fun base =>
      decide (stack.start ≤ base ∧ base ≠ 0) := by
  have size : Frame.size.toUInt64 = 288 := rfl
  unfold frameBase? Word.sub?
  rw [size]
  by_cases fits : 288 ≤ stackTop stack
  · simp only [fits, true_and, if_true, Option.filter_some, decide_eq_true_iff]
  · simp only [fits, false_and, if_false, Option.filter_none]

theorem frameBase?_eq_some_iff :
    frameBase? stack = some F ↔
      F.toNat + 288 = stack.stop.toNat / 16 * 16 ∧ stack.start.toNat ≤ F.toNat ∧ F ≠ 0 := by
  rw [frameBase?_eq_filter, Option.filter_eq_some_iff, Word.sub?_eq_some_iff, toNat_stackTop,
    decide_eq_true_iff, UInt64.le_iff_toNat_le]
  rfl

theorem noRoom_iff : NoRoom stack ↔ frameBase? stack = none := by
  have limit := stack.stop.toNat_lt
  unfold NoRoom
  rw [Option.eq_none_iff_forall_ne_some]
  constructor
  · intro noRoom F e
    obtain ⟨stop, start, positive⟩ := frameBase?_eq_some_iff.mp e
    have : F.toNat ≠ 0 := fun zero => positive (UInt64.toNat_inj.mp zero)
    omega
  · intro none
    by_contra room
    -- the frame right below the top would do
    obtain ⟨F, place⟩ : ∃ F : Word, F.toNat = stack.stop.toNat / 16 * 16 - 288 := by
      refine ⟨_, Word.toNat_toUInt64 ?_⟩
      simp only [UInt64.size]
      omega
    refine none F (frameBase?_eq_some_iff.mpr ⟨by omega, by omega, ?_⟩)
    rintro rfl
    rw [UInt64.toNat_zero] at place
    omega

/-- The frame ends at the highest multiple of 16 in the stack. -/
theorem isGreatest_of_frameBase? (base : frameBase? stack = some F) :
    IsGreatest {b : Nat | 16 ∣ b ∧ b + 288 ≤ stack.stop.toNat} F.toNat := by
  obtain ⟨top, -, -⟩ := frameBase?_eq_some_iff.mp base
  constructor
  · show 16 ∣ F.toNat ∧ F.toNat + 288 ≤ stack.stop.toNat
    omega
  · rintro b ⟨aligned, fits⟩
    omega

theorem size_lt_iff : stack.size < minStackSize ↔ stack.stop.toNat - stack.start.toNat < 352 := by
  rw [UInt64.lt_iff_toNat_lt, stack.toNat_size]
  rfl

theorem NoRoom.size_lt (noRoom : NoRoom stack) : stack.stop.toNat - stack.start.toNat < 352 := by
  unfold NoRoom at noRoom
  omega

theorem exists_frameBase? (large : 352 ≤ stack.stop.toNat - stack.start.toNat) :
    ∃ F, frameBase? stack = some F := by
  cases base : frameBase? stack with
  | none => exact absurd (noRoom_iff.mpr base).size_lt (Nat.not_lt.mpr large)
  | some F => exact ⟨F, rfl⟩

theorem frame?_eq_some_iff :
    frame? stack = some F ↔
      352 ≤ stack.stop.toNat - stack.start.toNat ∧ frameBase? stack = some F := by
  rw [frame?, Option.ite_none_left_eq_some, size_lt_iff, Nat.not_lt]

theorem frame?_of_minStackSize_le (large : minStackSize ≤ stack.size) :
    ∃ F, frame? stack = some F := by
  have number : 352 ≤ stack.stop.toNat - stack.start.toNat :=
    Nat.not_lt.mp (mt size_lt_iff.mpr (UInt64.not_lt.mpr large))
  obtain ⟨F, base⟩ := exists_frameBase? number
  exact ⟨F, frame?_eq_some_iff.mpr ⟨number, base⟩⟩

theorem holds_of_frameBase? (base : frameBase? stack = some F) : stack.Holds F := by
  obtain ⟨stop, start, -⟩ := frameBase?_eq_some_iff.mp base
  have limit := stack.stop.toNat_lt
  intro i hi
  have small : i < 288 := hi
  have offset : (F + i.toUInt64).toNat = F.toNat + i := by
    rw [UInt64.toNat_add, Word.toNat_toUInt64 (by simp only [UInt64.size]; omega)]
    omega
  rw [Area.contains_iff, offset]
  omega

theorem holds_of_frame? (h : frame? stack = some F) : stack.Holds F :=
  holds_of_frameBase? (frame?_eq_some_iff.mp h).2

theorem left_of_frameBase? (base : frameBase? stack = some F)
    (large : 352 ≤ stack.stop.toNat - stack.start.toNat) : stack.start.toNat + 49 ≤ F.toNat := by
  obtain ⟨top, -, -⟩ := frameBase?_eq_some_iff.mp base
  omega

/-! ## The registers -/

theorem gpr_initialContext (exit base entry arg : Word) (policy : InterruptPolicy) (i : Fin 32) :
    (initialContext exit base entry arg policy).gpr.get i =
      if i = Register.ra then exit else if i = Register.sp then base
      else if i = Register.a0 then arg else 0 := by
  change (initialContext exit base entry arg policy).gpr[i] = _
  simp only [initialContext, Context.setRegister, Context.zeroed, Fin.getElem_fin,
    Vector.getElem_set, Vector.getElem_replicate, Register.ra, Register.sp, Register.a0,
    Fin.ext_iff]
  grind

/-! ## The two refusals -/

theorem message_noRoomForFrame (stack : Area) : (Fault.noRoomForFrame stack).message =
    "stack area " ++ stack.describe ++ " cannot hold a register frame" := rfl

theorem message_stackTooSmall (size : Word) : (Fault.stackTooSmall size minStackSize).message =
    "kernel stack of " ++ Word.decimal size ++ " bytes is below the 352 byte minimum" := by
  have least : " bytes is below the " ++ (Word.decimal minStackSize ++ " byte minimum") =
      " bytes is below the 352 byte minimum" := by decide +kernel
  rw [← least, ← String.append_assoc, ← String.append_assoc]
  rfl

end KernelThread

/-! ## Preparing a thread -/

namespace World

open KernelThread

/-- What is stored for a thread whose stack is large enough. -/
structure MakesThread (policy : InterruptPolicy) (stack : Area) (entry arg : Word)
    (w v : World H n κ) (F : Word) : Prop where
  place : IsGreatest {b : Nat | 16 ∣ b ∧ b + 288 ≤ stack.stop.toNat} F.toNat
  inside : stack.Holds F
  left : stack.start.toNat + 49 ≤ F.toNat
  sp : (v.context F).sp = F
  gpr : ∀ i : Fin 32, (v.context F).gpr[i] =
    if i = Register.ra then w.code.address .threadExit else if i = Register.sp then F
    else if i = Register.a0 then arg else 0
  mepc : (v.context F).mepc = entry
  mcause : (v.context F).mcause = 0
  mstatus : (v.context F).mstatus =
    if policy = .masking then Status.mppMachine ||| Status.mpie else Status.mppMachine
  byte : ∀ x : Word, x.toNat < F.toNat ∨ F.toNat + 288 ≤ x.toNat →
    v.memory.byte x = w.memory.byte x
  rest : v = { w with memory := v.memory }

/-- What preparing a thread comes to, for any stack. -/
structure PreparesThread (policy : InterruptPolicy) (stack : Area) (entry arg : Word)
    (w : World H n κ) (outcome : Except Fault Word × World H n κ) : Prop where
  enough : (∃ F v, outcome = (.ok F, v)) ↔ 352 ≤ stack.stop.toNat - stack.start.toNat
  made : ∀ {F v}, outcome = (.ok F, v) → MakesThread policy stack entry arg w v F
  noRoom : outcome = (.error (.noRoomForFrame stack), w) ↔ NoRoom stack
  tooSmall : outcome = (.error (.stackTooSmall stack.size minStackSize), w) ↔
    ¬NoRoom stack ∧ stack.stop.toNat - stack.start.toNat < 352
  wording : (Fault.noRoomForFrame stack).message =
      "stack area " ++ stack.describe ++ " cannot hold a register frame" ∧
    (Fault.stackTooSmall stack.size minStackSize).message =
      "kernel stack of " ++ Word.decimal stack.size ++ " bytes is below the 352 byte minimum"
  /-- The place of the frame and the size of the stack are differences that are checked. -/
  checked : frameBase? stack = (Word.sub? (stackTop stack) 288).filter (fun base =>
      decide (stack.start ≤ base ∧ base ≠ 0)) ∧
    stack.size = (Word.sub? stack.stop stack.start).getD 0

variable {policy : InterruptPolicy} {stack : Area} {entry arg F : Word}

theorem makesThread_setContext (w : World H n κ) (base : frameBase? stack = some F)
    (large : 352 ≤ stack.stop.toNat - stack.start.toNat) :
    MakesThread policy stack entry arg w
      (w.setContext F
        (KernelThread.initialContext (w.code.address .threadExit) F entry arg policy)) F := by
  have stored := w.context_setContext F
    (KernelThread.initialContext (w.code.address .threadExit) F entry arg policy)
  constructor
  case place => exact isGreatest_of_frameBase? base
  case inside => exact holds_of_frameBase? base
  case left => exact left_of_frameBase? base large
  case sp => rw [stored, sp_initialContext]
  case gpr =>
    intro i
    rw [stored]
    exact gpr_initialContext ..
  case mepc => rw [stored]; rfl
  case mcause => rw [stored]; rfl
  case mstatus =>
    rw [stored]
    cases policy <;> rfl
  case byte =>
    intro x outside
    have fits : F.toNat + 288 ≤ stack.stop.toNat := (isGreatest_of_frameBase? base).1.2
    have limit := stack.stop.toNat_lt
    have far := Frame.size_le_of_outside (by simp only [UInt64.size]; omega) outside
    refine (w.memory.byte_setContext F _ x).trans (if_neg ?_)
    exact Nat.not_lt.mpr (Nat.le_trans (by decide) far)
  case rest => rfl

theorem newThread_cases (policy : InterruptPolicy) (stack : Area) (entry arg : Word)
    (w : World H n κ) :
    (NoRoom stack ∧ (newThread policy stack entry arg).runFrom w =
        (.error (.noRoomForFrame stack), w)) ∨
      (¬NoRoom stack ∧ stack.stop.toNat - stack.start.toNat < 352 ∧
        (newThread policy stack entry arg).runFrom w =
          (.error (.stackTooSmall stack.size minStackSize), w)) ∨
      ∃ F, frameBase? stack = some F ∧ 352 ≤ stack.stop.toNat - stack.start.toNat ∧
        (newThread policy stack entry arg).runFrom w = (.ok F, w.setContext F
          (KernelThread.initialContext (w.code.address .threadExit) F entry arg policy)) := by
  rw [runFrom_newThread, prepare]
  cases base : frameBase? stack with
  | none => exact .inl ⟨noRoom_iff.mpr base, rfl⟩
  | some F =>
    refine .inr ?_
    by_cases small : stack.size < minStackSize
    · have room : ¬NoRoom stack := by
        rw [noRoom_iff, base]
        exact Option.some_ne_none F
      refine .inl ⟨room, size_lt_iff.mp small, ?_⟩
      simp only [if_pos small]
    · refine .inr ⟨F, rfl, Nat.not_lt.mp (size_lt_iff.not.mp small), ?_⟩
      simp only [if_neg small]

/-- A stack of 352 bytes is enough for a thread wherever it begins and ends, and no smaller one is.
A stack that is not enough is refused and nothing is stored. -/
theorem preparesThread_newThread (policy : InterruptPolicy) (stack : Area) (entry arg : Word)
    (w : World H n κ) :
    PreparesThread policy stack entry arg w ((newThread policy stack entry arg).runFrom w) := by
  have wording := And.intro (message_noRoomForFrame stack) (message_stackTooSmall stack.size)
  have checked := And.intro (frameBase?_eq_filter stack) stack.size_eq_getD
  rcases newThread_cases policy stack entry arg w with
    ⟨noRoom, outcome⟩ | ⟨room, small, outcome⟩ | ⟨F, base, large, outcome⟩
  · have small := noRoom.size_lt
    rw [outcome]
    refine ⟨?_, ?_, ?_, ?_, wording, checked⟩
    · simp [Nat.not_le.mpr small]
    · simp
    · simp [noRoom]
    · simp [noRoom]
  · rw [outcome]
    refine ⟨?_, ?_, ?_, ?_, wording, checked⟩
    · simp [Nat.not_le.mpr small]
    · simp
    · simp [room]
    · simp [room, small]
  · have room : ¬NoRoom stack := by
      rw [noRoom_iff, base]
      exact Option.some_ne_none F
    rw [outcome]
    refine ⟨?_, ?_, ?_, ?_, wording, checked⟩
    · simp [large]
    · rintro G v e
      cases e
      exact makesThread_setContext w base large
    · simp [room]
    · simp [Nat.not_lt.mpr large]

-- Both ends ragged: of 352 bytes, 15 lie behind the frame and 49 before it.
example : KernelThread.frame? ⟨0x100af, 0x1020f⟩ = some 0x100e0 := by decide

end World

end HartLayer
