import Mathlib.Algebra.Group.Nat.Defs
import HartLayer.Proofs.Classifying

/-!
# Where a context resumes after many traps

Traps that strike one context one after the other move its resume address on by one instruction for
each call among them, and change nothing else, so each of them is classified as if it were the first.
Addresses wrap: a context is back where it started after `2 ^ 62` calls, and not before.

* `classifyAll` : traps that strike one context, and `calls`, how many of them are calls;
* `classifyAll_eq` : what they make of the context, and their events;
* `resumes_again_iff` : when a resume address comes again;
* `movesByCalls_classifyAll` : all of this, for any context and any traps.
-/

namespace HartLayer

/-- The events of traps that strike one context one after the other, and the context behind them. -/
def classifyAll : List Cause → Context → List Event × Context
  | [], ctx => ([], ctx)
  | cause :: causes, ctx =>
    let (event, moved) := classifyAndAdvance cause ctx
    let (events, last) := classifyAll causes moved
    (event :: events, last)

/-- How many traps are calls. -/
def calls (causes : List Cause) : Nat := causes.countP Cause.isCall

/-- The context after a number of calls. -/
def Context.afterCalls (ctx : Context) (s : Nat) : Context :=
  { ctx with mepc := ctx.mepc + (4 * s).toUInt64 }

theorem calls_append (pre mid : List Cause) : calls (pre ++ mid) = calls pre + calls mid :=
  List.countP_append

namespace Context

theorem afterCalls_zero (ctx : Context) : ctx.afterCalls 0 = ctx := by
  have same : ctx.mepc + (4 * 0).toUInt64 = ctx.mepc := UInt64.add_zero _
  rw [afterCalls, same]

theorem afterCalls_afterCalls (ctx : Context) (s t : Nat) :
    (ctx.afterCalls s).afterCalls t = ctx.afterCalls (s + t) := by
  unfold afterCalls
  dsimp only
  rw [Word.add_toUInt64_add, Nat.mul_add]

theorem toNat_mepc_afterCalls (ctx : Context) (s : Nat) :
    (ctx.afterCalls s).mepc.toNat = (ctx.mepc.toNat + 4 * s) % 2 ^ 64 := by
  simp [afterCalls, Nat.toUInt64]

end Context

theorem snd_classifyAndAdvance (cause : Cause) (ctx : Context) :
    (classifyAndAdvance cause ctx).2 = ctx.afterCalls (calls [cause]) := by
  unfold classifyAndAdvance
  rw [apply_classify]
  cases call : cause.isCall with
  | false => simp [calls, call, Context.afterCalls_zero]
  | true => simp [calls, call, Context.afterCalls]

theorem classify_afterCalls (cause : Cause) (ctx : Context) (s : Nat) :
    classify cause (ctx.afterCalls s) = classify cause ctx :=
  classify_congr cause rfl

/-- Each call moves the context on, and each trap is classified as if it were the first. -/
theorem classifyAll_eq (causes : List Cause) (ctx : Context) :
    classifyAll causes ctx =
      (causes.map fun cause => (classify cause ctx).event, ctx.afterCalls (calls causes)) := by
  induction causes generalizing ctx with
  | nil =>
    rw [classifyAll, calls, List.countP_nil, ctx.afterCalls_zero]
    rfl
  | cons cause causes ih =>
    have moved := snd_classifyAndAdvance cause ctx
    have sum : calls [cause] + calls causes = calls (cause :: causes) :=
      (calls_append [cause] causes).symm
    unfold classifyAll
    simp only [moved, ih, classify_afterCalls, Context.afterCalls_afterCalls, sum]
    rfl

/-- The resume address comes again after every `2 ^ 62` calls. -/
theorem resumes_again_iff (ctx : Context) (s t : Nat) :
    (ctx.afterCalls (s + t)).mepc = (ctx.afterCalls s).mepc ↔ 2 ^ 62 ∣ t := by
  have bound := ctx.mepc.toNat_lt
  rw [← UInt64.toNat_inj, Context.toNat_mepc_afterCalls, Context.toNat_mepc_afterCalls]
  omega

/-- What is known of a context after traps with these causes. -/
structure MovesByCalls (ctx : Context) (causes : List Cause) : Prop where
  /-- The resume address is moved on, and nothing else is changed. -/
  context_eq : (classifyAll causes ctx).2 =
    { ctx with mepc := ctx.mepc + (4 * calls causes).toUInt64 }
  toNat_mepc : (classifyAll causes ctx).2.mepc.toNat =
    (ctx.mepc.toNat + 4 * calls causes) % 2 ^ 64
  /-- Every trap is classified as if it had struck the context at first. -/
  events_eq : (classifyAll causes ctx).1 = causes.map fun cause => (classify cause ctx).event
  /-- The context is back where it started after every `2 ^ 62` calls. -/
  mepc_eq_iff : (classifyAll causes ctx).2.mepc = ctx.mepc ↔ 2 ^ 62 ∣ calls causes
  /-- In the course of fewer calls, no resume address comes again behind a call. -/
  never_twice : calls causes < 2 ^ 62 → ∀ pre mid, pre ++ mid <+: causes →
    ((classifyAll (pre ++ mid) ctx).2.mepc = (classifyAll pre ctx).2.mepc ↔ calls mid = 0)

/-- Whatever the context and the traps that strike it, its resume address moves on with the calls
among them. -/
theorem movesByCalls_classifyAll (ctx : Context) (causes : List Cause) :
    MovesByCalls ctx causes := by
  refine ⟨?_, ?_, ?_, ?_, ?_⟩
  · rw [classifyAll_eq]
    rfl
  · rw [classifyAll_eq, Context.toNat_mepc_afterCalls]
  · rw [classifyAll_eq]
  · have again := resumes_again_iff ctx 0 (calls causes)
    rw [Nat.zero_add, ctx.afterCalls_zero] at again
    rwa [classifyAll_eq]
  · intro few pre mid ⟨post, split⟩
    have total : calls causes = calls pre + calls mid + calls post := by
      rw [← split, calls_append, calls_append]
    rw [classifyAll_eq, classifyAll_eq, calls_append, resumes_again_iff]
    constructor
    · intro multiple
      exact Nat.eq_zero_of_dvd_of_lt multiple (by omega)
    · intro none
      rw [none]
      exact Nat.dvd_zero _

end HartLayer
