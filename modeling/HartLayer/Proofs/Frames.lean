import HartLayer.Proofs.Effects

/-!
# The frames that acts store

* Two frames are apart if they share no byte (`Frame.Apart`). A frame keeps its context when a
  context or a status is stored in a frame apart from it (`context_setContext_apart`,
  `context_setStatus_apart`).
* An act stores in one frame at most (`Act.stores?`), and frames apart from that one keep their
  contexts (`context_effect_of_apart`, `context_after_of_apart`).
-/

namespace HartLayer

/-- Offsets of two addresses that are moved on, as long as none of them wraps. -/
theorem Word.toNat_add_sub_add (a b : Word) {i j : Nat} (hj : j ≤ (b - a).toNat)
    (hi : (b - a).toNat + i < UInt64.size) :
    (b + i.toUInt64 - (a + j.toUInt64)).toNat = (b - a).toNat + i - j := by
  have hb := b.toNat_lt
  have ha := a.toNat_lt
  have hd := (b - a).toNat_lt
  have full : UInt64.size = 2 ^ 64 := rfl
  have ei : i.toUInt64.toNat = i := toNat_toUInt64 (by omega)
  have ej : j.toUInt64.toNat = j := toNat_toUInt64 (by omega)
  simp only [UInt64.toNat_sub, UInt64.toNat_add, ei, ej, UInt64.size] at *
  omega

/-! ## Frames apart -/

/-- Two frames that share no byte. -/
def Frame.Apart (a b : Word) : Prop :=
  Frame.size ≤ (b - a).toNat ∧ Frame.size ≤ (a - b).toNat

instance (a b : Word) : Decidable (Frame.Apart a b) := by
  unfold Frame.Apart
  infer_instance

namespace Frame

/-- How far two frames apart are from each other, both ways around. -/
theorem Apart.bounds {a b : Word} (h : Apart a b) :
    288 ≤ (b - a).toNat ∧ (b - a).toNat + 288 ≤ UInt64.size := by
  obtain ⟨behind, before⟩ := h
  have size : Frame.size = 288 := rfl
  have hb := b.toNat_lt
  have ha := a.toNat_lt
  simp only [UInt64.toNat_sub, UInt64.size] at *
  omega

end Frame

namespace Memory

variable {a b : Word}

theorem context_setContext_apart (m : Memory) (c : Context) (h : Frame.Apart a b) :
    (m.setContext a c).context b = m.context b := by
  obtain ⟨behind, before⟩ := h.bounds
  refine context_setContext_of_apart m c fun i hi => ?_
  have small : i < 280 := hi
  have moved := Word.toNat_add_sub_add a b (Nat.zero_le _) (i := i) (by omega)
  have start : a + (0 : Nat).toUInt64 = a := UInt64.add_zero a
  rw [start] at moved
  rw [moved]
  show 280 ≤ _
  omega

theorem context_setStatus_apart (m : Memory) (w : Word) (h : Frame.Apart a b) :
    (m.setStatus a w).context b = m.context b := by
  obtain ⟨behind, before⟩ := h.bounds
  have read (i : Nat) (hi : i < 35) :
      (m.setStatus a w).word (b + (8 * i).toUInt64) = m.word (b + (8 * i).toUInt64) := by
    have status : Frame.statusAt = 264 := rfl
    have moved := Word.toNat_add_sub_add a b (i := 8 * i) (j := 264) (by omega) (by omega)
    refine word_setWord_of_apart m w ?_ ?_ <;> rw [status, moved] <;> omega
  have regs (i : Fin 32) : (m.setStatus a w).word (b + (8 * i.val).toUInt64) =
      m.word (b + (8 * i.val).toUInt64) := read i.val (by omega)
  have cause : (m.setStatus a w).word (b + Frame.causeAt.toUInt64) =
      m.word (b + Frame.causeAt.toUInt64) := read 32 (by decide)
  have stored : (m.setStatus a w).word (b + Frame.statusAt.toUInt64) =
      m.word (b + Frame.statusAt.toUInt64) := read 33 (by decide)
  have resume : (m.setStatus a w).word (b + Frame.resumeAt.toUInt64) =
      m.word (b + Frame.resumeAt.toUInt64) := read 34 (by decide)
  simp only [context, regs, cause, stored, resume]

end Memory

/-! ## Where acts store -/

variable {H κ : Type} {n : Nat}

/-- Where the frame of a new thread is stored, if its stack is large enough. -/
def KernelThread.frame? (stack : Area) : Option Word :=
  if stack.size < minStackSize then none else frameBase? stack

theorem KernelThread.prepare_of_frame?_none {stack : Area} (h : frame? stack = none)
    (exit entry arg : Word) (policy : InterruptPolicy) :
    ∃ e, prepare exit stack entry arg policy = .error e := by
  unfold frame? at h
  unfold prepare
  cases base : frameBase? stack with
  | none => exact ⟨_, rfl⟩
  | some a =>
    have small : stack.size < minStackSize := by
      by_contra large
      rw [if_neg large, base] at h
      cases h
    exact ⟨_, if_pos small⟩

theorem KernelThread.prepare_of_frame?_some {stack : Area} {a : Word} (h : frame? stack = some a)
    (exit entry arg : Word) (policy : InterruptPolicy) :
    prepare exit stack entry arg policy = .ok (a, initialContext exit a entry arg policy) := by
  unfold frame? at h
  unfold prepare
  by_cases small : stack.size < minStackSize
  · rw [if_pos small] at h
    cases h
  · rw [if_neg small] at h
    rw [h]
    exact if_neg small

theorem KernelThread.sp_initialContext (exit base entry arg : Word) (policy : InterruptPolicy) :
    (initialContext exit base entry arg policy).sp = base := by
  simp [initialContext, Context.sp, Context.setRegister, Register.sp, Register.a0]

theorem KernelThread.a0_initialContext (exit base entry arg : Word) (policy : InterruptPolicy) :
    (initialContext exit base entry arg policy).a0 = arg := by
  simp [initialContext, Context.a0, Context.setRegister]

namespace Act

/-- The frame in which an act stores. -/
def stores? : Act n κ → Option Word
  | request (.setContext a _) => some a
  | request (.newThread _ stack _ _) => KernelThread.frame? stack
  | request (.newThreadUnder _ stack _ _) => KernelThread.frame? stack
  | push a _ => some a
  | take a => some a
  | enter a _ => some a.frame
  | _ => none

end Act

namespace World

theorem context_newThread_of_apart {policy : InterruptPolicy} {stack : Area} {F : Word}
    (apart : ∀ a, KernelThread.frame? stack = some a → Frame.Apart a F) (entry arg : Word)
    (w : World H n κ) :
    ((newThread policy stack entry arg).runFrom w).2.context F = w.context F := by
  rw [runFrom_newThread]
  cases frame : KernelThread.frame? stack with
  | none =>
    obtain ⟨e, refused⟩ :=
      KernelThread.prepare_of_frame?_none frame (w.code.address .threadExit) entry arg policy
    rw [refused]
  | some a =>
    rw [KernelThread.prepare_of_frame?_some frame]
    exact w.memory.context_setContext_apart _ (apart a frame)

theorem context_newThread {policy : InterruptPolicy} {stack : Area} {F : Word}
    (frame : KernelThread.frame? stack = some F) (entry arg : Word) (w : World H n κ) :
    ((newThread policy stack entry arg).runFrom w).2.context F =
      KernelThread.initialContext (w.code.address .threadExit) F entry arg policy := by
  rw [runFrom_newThread, KernelThread.prepare_of_frame?_some frame]
  exact w.context_setContext F _

variable [Hart H] {w : World H n κ} {calls : List (Invocation n)}

theorem context_effect_of_apart {x : Act n κ} (lawful : x.Lawful w calls) {F : Word}
    (apart : ∀ a, x.stores? = some a → Frame.Apart a F) :
    (x.effect w).context F = w.context F := by
  cases x with
  | request r =>
    cases r with
    | dispatch _ _ _ | handle _ _ | simulateTrap _ | yieldNow => cases lawful
    | setContext a c => exact w.memory.context_setContext_apart c (apart a rfl)
    | newThread s stack entry arg => exact context_newThread_of_apart apart entry arg w
    | newThreadUnder policy stack entry arg => exact context_newThread_of_apart apart entry arg w
    | _ => rfl
  | push a c => exact w.memory.context_setContext_apart c (apart a rfl)
  | take a => exact w.memory.context_setStatus_apart _ (apart a rfl)
  | enter a call =>
    rw [Act.effect, context, memory_opening]
    exact w.memory.context_setContext_apart _ (apart a.frame rfl)
  | _ => rfl

theorem context_after_of_apart {acts : List (Act n κ)} (lawful : LawfulFrom w calls acts) {F : Word}
    (apart : ∀ a ∈ acts.filterMap Act.stores?, Frame.Apart a F) :
    (w.after acts).context F = w.context F := by
  induction acts generalizing w calls with
  | nil => rfl
  | cons x acts ih =>
    have rest : ∀ a ∈ acts.filterMap Act.stores?, Frame.Apart a F := by
      intro a mem
      obtain ⟨y, hy, e⟩ := List.mem_filterMap.mp mem
      exact apart a (List.mem_filterMap.mpr ⟨y, List.mem_cons_of_mem x hy, e⟩)
    rw [after_cons, ih lawful.2 rest]
    refine context_effect_of_apart lawful.1 fun a e => ?_
    exact apart a (List.mem_filterMap.mpr ⟨x, List.mem_cons_self, e⟩)

end World

end HartLayer
