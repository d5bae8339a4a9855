import HartLayer.Proofs.Threads
import HartLayer.SelfTest

/-!
# How the cases of the self tests end

The cases use trap systems, a recorder and a heap that keep what earlier runs left in them.
`Rested` says what every case can rely on, whatever ran before, and how it leaves things:

* the system under test is not handling a trap, and the other one has no handler;
* the heap has no area yet, or all of its area is free again;
* there are no devices, and the global system is as it was.

From such a state each case on traps and on the heap passes, and each case on devices is skipped
(`TrapSuite.ends_of_mem`, `HeapSuite.frees_of_mem`, `DeviceSuite.skips_of_mem`).
-/

namespace HartLayer.SelfTest

open World Rig

variable {α β : Type}

/-! ## What the cases rely on -/

/-- The systems as the cases find and leave them, with a given global system. -/
structure Free (g : TrapSystem SimulatedHart) (w : World SimulatedHart 2 Recorder) : Prop where
  global : w.system .global = g
  idle : w.busy tested = false
  bare : (w.dispatcher bare).handler = none

def allFree : Heap := some (.ofArea HeapSuite.area)

/-- The state in which the cases find and leave things, with a given global system. -/
structure Rested (g : TrapSystem SimulatedHart) (r : Rig) : Prop where
  world : Free g r.world
  heap : r.heap = .unset ∨ r.heap = allFree
  devices : r.devices = none

/-- A case ends with a verdict, from whatever state it finds, and leaves one like it. -/
def Ends (c : Case Rig) (v : Verdict) : Prop :=
  ∀ g r, Rested g r → ∃ r', c.body.runFrom r = (.ok v, r') ∧ Rested g r'

variable {g : TrapSystem SimulatedHart} {w : World SimulatedHart 2 Recorder} {r : Rig}

/-! ## Scripts -/

/-- A script on the trap systems ends with a value and in a state that a property tells. -/
def Gives (p : Script 2 Recorder α) (w : World SimulatedHart 2 Recorder)
    (Q : α → World SimulatedHart 2 Recorder → Prop) : Prop :=
  ∃ a w', (exec recordingHandler p).runFrom w = (.ok a, w') ∧ Q a w'

theorem Gives.bind {p : Script 2 Recorder α} {f : α → Script 2 Recorder β}
    {Q : α → World SimulatedHart 2 Recorder → Prop}
    {R : β → World SimulatedHart 2 Recorder → Prop} (first : Gives p w Q)
    (next : ∀ a w', Q a w' → Gives (f a) w' R) : Gives (p >>= f) w R := by
  obtain ⟨a, w', ran, known⟩ := first
  obtain ⟨b, w'', ran', known'⟩ := next a w' known
  refine ⟨b, w'', ?_, known'⟩
  rw [Program.bind_eq_andThen, exec, Program.run_andThen, Attempt.runFrom_bind]
  rw [exec] at ran ran'
  rw [ran]
  exact ran'

theorem gives_pure {a : α} {Q : α → World SimulatedHart 2 Recorder → Prop} (h : Q a w) :
    Gives (pure a) w Q := ⟨a, w, rfl, h⟩

theorem runFrom_exec_ask (q : Request 2 Recorder) (w : World SimulatedHart 2 Recorder) :
    (exec recordingHandler (Script.ask q)).runFrom w = (answer recordingHandler q).runFrom w := by
  rw [exec, Script.ask, Program.request, Program.run_ask]
  exact congrArg (Attempt.runFrom · w) (bind_pure (answer recordingHandler q))

theorem gives_ask {q : Request 2 Recorder} {a : q.Answer} (quiet : q.deliversTrap = false)
    (answered : ((answer recordingHandler q).runFrom w).1 = .ok a) :
    Gives (Script.ask q) w fun b w' => b = a ∧ w' = w.settle q := by
  refine ⟨a, w.settle q, ?_, rfl, rfl⟩
  rw [runFrom_exec_ask]
  refine Prod.ext answered ?_
  rw [answer, answerWith_of_quiet quiet _ fun _ _ _ => throw .nestingExhausted]
  rfl

theorem gives_onKernel (f : Recorder → Recorder) :
    Gives (Script.onKernel f) w fun _ w' => w' = { w with kernel := f w.kernel } :=
  ⟨(), _, rfl, rfl⟩

theorem Free.withKernel (free : Free g w) (k : Recorder) : Free g { w with kernel := k } :=
  { free with }

/-- A request that delivers no trap and changes no system but the one under test. -/
theorem Free.settle {q : Request 2 Recorder} (free : Free g w) (quiet : q.deliversTrap = false)
    (away : ∀ s, s ≠ tested → ∀ u : TrapSystem SimulatedHart, q.onSystem s u = u) :
    Free g (w.settle q) where
  global := by rw [system_settle quiet, away .global (by decide), free.global]
  idle := by rw [busy_settle quiet, free.idle]
  bare := by
    rw [dispatcher, system_settle quiet, away Rig.bare (by decide)]
    exact free.bare

/-- A call and its kind, as the recording handler remembers them. -/
def Recorder.saw (kind : EventKind) (k : Recorder) : Recorder :=
  { k with calls := k.calls + 1, kinds := (k.kinds ++ [kind]).take 8 }

/-- A trap on the system under test: the handler records it and resumes the trapped frame. -/
theorem gives_handle {h : HandlerId} {F : Word} (free : Free g w)
    (installed : (w.dispatcher tested).handler = some h) (frame : F ≠ 0) :
    Gives (Script.ask (.handle tested F)) w fun next w' =>
      next = F ∧ Free g w' ∧ (w'.dispatcher tested).handler = some h ∧
        w'.kernel = w.kernel.saw (classify (w.context F).cause (w.context F)).event.kind := by
  -- what the handler is called with and in which state, with the call then left opaque
  have event := congrArg Invocation.event (invocation_eq w ⟨tested, (w.context F).cause, F⟩ h)
  have kernel := (opening_snd_kept w ⟨tested, (w.context F).cause, F⟩ h).2.2
  have systems (s : SystemId 2) := system_opening w tested s h (w.context F).cause F
  have ran : (answer recordingHandler (.dispatch tested (w.context F).cause F)).runFrom w = _ :=
    runFrom_dispatch_of_idle (a := ⟨tested, (w.context F).cause, F⟩) installed free.idle
  rw [invocation] at event
  dsimp only at event kernel ran
  generalize w.opening tested h (w.context F).cause F = opened at event kernel systems ran
  have asked : (exec recordingHandler (Script.ask (.handle tested F))).runFrom w =
      (.ok F, World.unmark { opened.2 with kernel := opened.2.kernel.saw opened.1.kind } tested) := by
    rw [runFrom_exec_ask, runFrom_answer_handle, if_neg frame]
    exact ran
  have left (s : SystemId 2) : (World.unmark { opened.2 with
      kernel := opened.2.kernel.saw opened.1.kind } tested).system s =
        if tested = s then
          { opened.2.system s with
            dispatcher := { (opened.2.system s).dispatcher with dispatching := false } }
        else opened.2.system s := system_unmark _ tested s
  have others (s : SystemId 2) (ne : tested ≠ s) : opened.2.system s = w.system s := by
    obtain ⟨log, same⟩ := systems s
    rw [same, if_neg ne]
  refine ⟨F, _, asked, rfl, ⟨?_, ?_, ?_⟩, ?_, ?_⟩
  · rw [left, if_neg (by decide), others .global (by decide), free.global]
  · rw [busy, dispatcher, left, if_pos rfl]
  · rw [dispatcher, left, if_neg (by decide), others Rig.bare (by decide)]
    exact free.bare
  · obtain ⟨log, same⟩ := systems tested
    rw [dispatcher, left, if_pos rfl, same, if_pos rfl]
    exact installed
  · show opened.2.kernel.saw opened.1.kind = _
    rw [kernel, event]

/-- Without a handler the trapped frame comes back, and nothing changes. -/
theorem gives_handle_bare {F : Word} (free : Free g w) (frame : F ≠ 0) :
    Gives (Script.ask (.handle bare F)) w fun next w' => next = F ∧ w' = w := by
  refine ⟨F, w, ?_, rfl, rfl⟩
  rw [runFrom_exec_ask, runFrom_answer_handle, if_neg frame]
  exact runFrom_deliver_of_handler_none recordingHandler 3 free.bare _ F

/-! ## Bodies of cases -/

/-- A body goes on from a state with a value, in a state that a property tells. -/
def Check.Goes (c : Check α) (r : Rig) (Q : α → Rig → Prop) : Prop :=
  ∃ a r', c.run.runFrom r = (.ok (.ok a), r') ∧ Q a r'

namespace Check

theorem Goes.bind {c : Check α} {f : α → Check β} {Q : α → Rig → Prop} {R : β → Rig → Prop}
    (first : c.Goes r Q) (next : ∀ a r', Q a r' → (f a).Goes r' R) : (c >>= f).Goes r R := by
  obtain ⟨a, r', ran, known⟩ := first
  obtain ⟨b, r'', ran', known'⟩ := next a r' known
  refine ⟨b, r'', ?_, known'⟩
  rw [ExceptT.run_bind, Attempt.runFrom_bind, ran]
  exact ran'

theorem goes_pure {a : α} {Q : α → Rig → Prop} (h : Q a r) : (pure a : Check α).Goes r Q :=
  ⟨a, r, rfl, h⟩

theorem goes_require {cond : Bool} {message : String} {Q : Unit → Rig → Prop}
    (holds : cond = true) (h : Q () r) : (require cond message).Goes r Q := by
  subst holds
  exact ⟨(), r, rfl, h⟩

theorem goes_require_bind {cond : Bool} {message : String} {f : Unit → Check β}
    {Q : β → Rig → Prop} (holds : cond = true) (next : (f ()).Goes r Q) :
    (require cond message >>= f).Goes r Q := by
  subst holds
  exact next

theorem goes_script {p : Script 2 Recorder α} {Q : α → Rig → Prop}
    (gives : Gives p r.world fun a w => Q a { r with world := w }) :
    (Check.script p).Goes r Q := by
  obtain ⟨a, w, ran, known⟩ := gives
  refine ⟨a, { r with world := w }, ?_, known⟩
  have part : Attempt.runFrom (Rig.script p) r = (.ok a, { r with world := w }) := by
    rw [Rig.script, Attempt.runFrom_onPart, ran]
  rw [Check.script, ExceptT.run_lift, map_eq_pure_bind, Attempt.runFrom_bind, part]
  rfl

/-- A loop goes on as long as its body does, with what is known of the items behind it. -/
theorem goes_forIn {xs : List β} {body : β → PUnit → Check (ForInStep PUnit)}
    {I : List β → Rig → Prop} {Q : PUnit → Rig → Prop}
    (step : ∀ pre x post r, xs = pre ++ x :: post → I pre r →
      (body x ⟨⟩).Goes r fun s r' => s = .yield ⟨⟩ ∧ I (pre ++ [x]) r')
    (ends : ∀ r, I xs r → Q ⟨⟩ r) (start : I [] r) :
    (forIn xs PUnit.unit body : Check PUnit).Goes r Q := by
  suffices h : ∀ pre post, xs = pre ++ post → ∀ r, I pre r →
      (forIn post PUnit.unit body : Check PUnit).Goes r fun _ => I xs by
    obtain ⟨a, r', ran, known⟩ := h [] xs rfl r start
    exact ⟨a, r', ran, ends r' known⟩
  intro pre post
  induction post generalizing pre with
  | nil =>
    intro split r known
    rw [List.append_nil] at split
    subst split
    exact goes_pure known
  | cons x post ih =>
    intro split r known
    rw [List.forIn_cons]
    refine (step pre x post r split known).bind ?_
    rintro s r' ⟨rfl, known'⟩
    exact ih (pre ++ [x]) (by rw [split, List.append_assoc]; rfl) r' known'

end Check

/-- A body that comes to its end passes. -/
theorem ends_pass {name description : String} {body : Check Unit}
    (goes : ∀ g r, Rested g r → body.Goes r fun _ r' => Rested g r') :
    Ends (check name description body) .pass := by
  intro g r rested
  obtain ⟨⟨⟩, r', ran, rested'⟩ := goes g r rested
  refine ⟨r', ?_, rested'⟩
  show Attempt.runFrom (Check.verdict body) r = _
  rw [Check.verdict, Attempt.runFrom_bind, ran]
  rfl

theorem Rested.withWorld (rested : Rested g r) (free : Free g w) :
    Rested g { r with world := w } := ⟨free, rested.heap, rested.devices⟩

/-! ## Cases on traps -/

namespace TrapSuite

theorem ends_passthroughWithoutHandler : Ends passthroughWithoutHandler .pass := by
  refine ends_pass fun g r rested => ?_
  have frame : frameAt 0 ≠ 0 := by decide
  refine (Check.goes_script (Q := fun p r' =>
    p = (frameAt 0, Context.calling 5 0x100) ∧ Rested g r') ?_).bind ?_
  · refine (gives_ask rfl rfl).bind ?_
    rintro _ w ⟨-, rfl⟩
    have free := rested.world.settle (q := .setContext (frameAt 0) (.calling 5 0x100)) rfl
      fun _ _ _ => rfl
    refine (gives_handle_bare free frame).bind ?_
    rintro _ w ⟨rfl, rfl⟩
    refine (gives_ask rfl rfl).bind ?_
    rintro c w ⟨rfl, rfl⟩
    refine gives_pure ⟨Prod.ext rfl ?_, rested.withWorld (free.settle rfl fun _ _ _ => rfl)⟩
    exact r.world.context_setContext (frameAt 0) _
  · rintro _ r' ⟨rfl, rested'⟩
    exact Check.goes_require_bind (by decide) (Check.goes_require (by decide) rested')

/-- The traps that the handler is shown, with their numbers. -/
def numbered : List (Nat × Context × EventKind) := (List.range traps.length).zip traps

/-- The state after some of the traps: the handler has recorded them, in order. -/
structure Shown (g : TrapSystem SimulatedHart) (done : List (Nat × Context × EventKind)) (r : Rig) :
    Prop where
  rested : Rested g r
  installed : (r.world.dispatcher tested).handler = some ⟨0⟩
  calls : r.world.kernel.calls = done.length
  kinds : r.world.kernel.kinds = done.map (·.2.2)

theorem Shown.goes {done : List (Nat × Context × EventKind)} {i : Nat} {c : Context}
    {kind : EventKind} (shown : Shown g done r) (mem : (i, c, kind) ∈ numbered)
    (few : done.length < 8) :
    (Check.script do
      Script.ask (.setContext (frameAt i) c)
      Script.ask (.handle tested (frameAt i))).Goes r
        fun out r' => out = frameAt i ∧ Shown g (done ++ [(i, c, kind)]) r' := by
  have known : ∀ x ∈ numbered,
      frameAt x.1 ≠ 0 ∧ (classify x.2.1.cause x.2.1).event.kind = x.2.2 := by decide
  obtain ⟨frame, event⟩ := known _ mem
  refine Check.goes_script ((gives_ask rfl rfl).bind ?_)
  rintro _ w ⟨-, rfl⟩
  have free := shown.rested.world.settle (q := .setContext (frameAt i) c) rfl fun _ _ _ => rfl
  obtain ⟨out, w, ran, rfl, free', installed, kernel⟩ := gives_handle free shown.installed frame
  have trapped : (r.world.settle (.setContext (frameAt i) c)).context (frameAt i) = c :=
    r.world.context_setContext (frameAt i) c
  rw [trapped, event] at kernel
  refine ⟨_, w, ran, rfl, shown.rested.withWorld free', installed, ?_, ?_⟩
  · rw [kernel, List.length_append]
    exact congrArg (· + 1) shown.calls
  · have kinds : w.kernel.kinds = (r.world.kernel.kinds ++ [kind]).take 8 :=
      congrArg Recorder.kinds kernel
    have short : (done.map (·.2.2) ++ [kind]).length ≤ 8 := by
      simp only [List.length_append, List.length_map, List.length_singleton]
      omega
    rw [kinds, shown.kinds, List.take_of_length_le short, List.map_append]
    rfl

theorem goes_installed (rested : Rested g r) :
    (Check.script do
      Script.onKernel fun k => { k with calls := 0, kinds := [] }
      Script.ask (.init tested .masking ⟨0⟩ 0)).Goes r fun _ => Shown g [] := by
  refine Check.goes_script ((gives_onKernel _).bind ?_)
  rintro _ w rfl
  have free := (rested.world.withKernel { r.world.kernel with calls := 0, kinds := [] }).settle
    (q := .init tested .masking ⟨0⟩ 0) rfl fun s other u => if_neg other.symm
  obtain ⟨_, w, ran, -, rfl⟩ := gives_ask (q := .init tested .masking ⟨0⟩ 0) (a := ())
    (w := { r.world with kernel := { r.world.kernel with calls := 0, kinds := [] } }) rfl rfl
  refine ⟨_, _, ran, rested.withWorld free, ?_, rfl, rfl⟩
  rw [dispatcher_settle rfl]
  rfl

theorem ends_handlerSeesEveryTrap : Ends handlerSeesEveryTrap .pass := by
  refine ends_pass fun g r rested => ?_
  refine (goes_installed rested).bind fun _ r shown => ?_
  -- every trap is recorded behind those before it
  refine (Check.goes_forIn (I := Shown g) (Q := fun _ => Shown g numbered)
    ?_ (fun _ => id) shown).bind fun _ r shown => ?_
  · rintro done ⟨i, c, kind⟩ rest r split shown
    have few : done.length < 8 := by
      have length : numbered.length = 5 := rfl
      rw [split, List.length_append, List.length_cons] at length
      omega
    have mem : (i, c, kind) ∈ numbered := by
      rw [split]
      simp
    refine (shown.goes mem few).bind ?_
    rintro _ r ⟨rfl, shown⟩
    exact Check.goes_require_bind (decide_eq_true rfl) (Check.goes_pure ⟨rfl, shown⟩)
  refine (Check.goes_script (Q := fun seen r => seen = r.world.kernel ∧ Shown g numbered r)
    ⟨_, _, rfl, rfl, shown⟩).bind ?_
  rintro seen r ⟨rfl, shown⟩
  refine Check.goes_require_bind (decide_eq_true shown.calls) ?_
  -- the second loop only compares, so it keeps the state
  refine (Check.goes_forIn (I := fun _ => Rested g) (Q := fun _ => Rested g) ?_
    (fun _ => id) shown.rested).bind fun _ _ rested => Check.goes_pure rested
  rintro done ⟨i, c, kind⟩ rest r' split rested
  have mem : (i, c, kind) ∈ numbered := by
    rw [numbered, split]
    simp
  have all : ∀ x ∈ numbered, (numbered.map (·.2.2))[x.1]? = some x.2.2 := by decide
  have got : r.world.kernel.kinds[i]? = some kind := by
    rw [shown.kinds]
    exact all _ mem
  exact Check.goes_require_bind (decide_eq_true got) (Check.goes_pure ⟨rfl, rested⟩)

def threadFrame : Word := 0x7c0000000ee0

def testThread (w : World SimulatedHart 2 Recorder) : Thread :=
  ⟨threadStack, threadEntry, 0xfeed, (w.system tested).config.interrupts⟩

def threadContext (w : World SimulatedHart 2 Recorder) : Context :=
  w.initialContext (testThread w) threadFrame

theorem runFrom_answer_newThread (s : SystemId 2) (stack : Area) (entry arg : Word)
    (w : World SimulatedHart 2 Recorder) :
    (answer recordingHandler (.newThread s stack entry arg)).runFrom w =
      (newThread (w.system s).policy stack entry arg).runFrom w := rfl

theorem gives_newThread (free : Free g w) :
    Gives (do
      let frame ← Script.ask (.newThread tested threadStack threadEntry 0xfeed)
      return (frame, ← Script.ask (.context frame))) w fun p w' =>
        p = (threadFrame, threadContext w) ∧ Free g w' ∧
          w'.context threadFrame = threadContext w := by
  have frame : KernelThread.frame? threadStack = some threadFrame := by decide
  have made : ((answer recordingHandler (.newThread tested threadStack threadEntry 0xfeed)).runFrom
      w).1 = .ok threadFrame := by
    rw [runFrom_answer_newThread, runFrom_newThread, KernelThread.prepare_of_frame?_some frame]
  have stored := context_effect_of_prepares? (w := w) (p := testThread w)
    (x := .request (.newThread tested threadStack threadEntry 0xfeed)) rfl frame
  have free' := free.settle (q := .newThread tested threadStack threadEntry 0xfeed) rfl
    fun _ _ _ => rfl
  refine (gives_ask (q := .newThread tested threadStack threadEntry 0xfeed) rfl made).bind ?_
  rintro _ v ⟨rfl, rfl⟩
  rw [Act.effect] at stored
  generalize w.settle (.newThread tested threadStack threadEntry 0xfeed) = v at stored free'
  refine ⟨(threadFrame, v.context threadFrame), v, rfl, ?_, free', stored⟩
  rw [stored, threadContext]

theorem ends_kcontextEntry : Ends kcontextEntry .pass := by
  refine ends_pass fun g r rested => ?_
  have sp : (threadContext r.world).sp = threadFrame := KernelThread.sp_initialContext _ _ _ _ _
  have a0 : (threadContext r.world).a0 = 0xfeed := KernelThread.a0_initialContext _ _ _ _ _
  obtain ⟨p, w, ran, made, free, stored⟩ := gives_newThread rested.world
  refine (Check.goes_script (Q := fun p r' => p = (threadFrame, threadContext r.world) ∧
    Rested g r' ∧ r'.world.context threadFrame = threadContext r.world)
      ⟨p, w, ran, made, rested.withWorld free, stored⟩).bind ?_
  rintro _ r' ⟨rfl, rested, stored⟩
  refine Check.goes_require_bind (by rw [sp]; decide) ?_
  refine Check.goes_require_bind (decide_eq_true a0) ?_
  refine (Check.goes_script (Q := fun seen r' => seen.entryArg = 0xfeed ∧ Rested g r') ?_).bind ?_
  · refine (gives_onKernel _).bind ?_
    rintro _ w rfl
    refine ⟨_, _, rfl, ?_, rested.withWorld ((rested.world.withKernel _))⟩
    show (r'.world.context threadFrame).a0 = 0xfeed
    rw [stored, a0]
  · rintro seen r' ⟨arg, rested⟩
    exact Check.goes_require (decide_eq_true arg) rested

theorem goes_init (rested : Rested g r) (config : TrapConfig) :
    (Check.script (Script.ask (.init tested config ⟨0⟩ 0))).Goes r fun _ r' =>
      Rested g r' ∧ (r'.world.system tested).config = config := by
  obtain ⟨_, w, ran, -, rfl⟩ := gives_ask (q := .init tested config ⟨0⟩ 0) (a := ())
    (w := r.world) rfl rfl
  have free := rested.world.settle (q := .init tested config ⟨0⟩ 0) rfl
    fun s other u => if_neg other.symm
  refine Check.goes_script ⟨_, _, ran, rested.withWorld free, ?_⟩
  rw [system_settle rfl, Request.onSystem, if_pos rfl]
  rfl

theorem goes_switched (rested : Rested g r) (on : Bool) :
    (switched on).Goes r fun enabled r' =>
      enabled = ((r.world.system tested).config.interrupts.allowsInterrupts && on) ∧ Rested g r' ∧
        (r'.world.system tested).config = (r.world.system tested).config := by
  obtain ⟨_, v, ran, -, rfl⟩ := gives_ask (q := .setInterrupts tested on) (a := ()) (w := r.world)
    rfl rfl
  have free := rested.world.settle (q := .setInterrupts tested on) rfl
    fun s other u => if_neg other.symm
  have system : (r.world.settle (.setInterrupts tested on)).system tested =
      (r.world.system tested).setInterrupts on := by
    rw [system_settle rfl, Request.onSystem, if_pos rfl]
  generalize r.world.settle (.setInterrupts tested on) = u at ran free system
  refine Check.goes_script (Gives.bind (Q := fun _ v => v = u) ⟨_, _, ran, rfl⟩ ?_)
  rintro _ v rfl
  refine ⟨(v.system tested).interruptsEnabled, v, rfl, ?_, rested.withWorld free, ?_⟩
  · rw [system]
    cases allows : (r.world.system tested).config.interrupts.allowsInterrupts <;>
      simp [TrapSystem.interruptsEnabled, TrapSystem.setInterrupts, TrapSystem.policy, allows,
        Hart.interruptsEnabled, Hart.setInterrupts]
  · show (v.system tested).config = _
    rw [system]
    rfl

theorem ends_interruptControl : Ends interruptControl .pass := by
  refine ends_pass fun g r rested => ?_
  refine (goes_init rested .masking).bind ?_
  rintro _ r ⟨rested, masking⟩
  refine (goes_switched rested true).bind ?_
  rintro _ r' ⟨rfl, rested, same⟩
  rw [masking] at same
  refine Check.goes_require_bind (by rw [masking]; rfl) ?_
  refine (goes_switched rested true).bind ?_
  rintro _ r'' ⟨rfl, rested, same'⟩
  rw [same] at same'
  refine Check.goes_require_bind (by rw [same]; rfl) ?_
  refine (goes_switched rested false).bind ?_
  rintro _ r ⟨rfl, rested, -⟩
  refine Check.goes_require_bind (by rw [same']; rfl) ?_
  refine (goes_init rested .inert).bind ?_
  rintro _ r ⟨rested, inert⟩
  refine (goes_switched rested true).bind ?_
  rintro _ r ⟨rfl, rested, -⟩
  exact Check.goes_require (by rw [inert]; rfl) rested

theorem ends_of_mem {c : Case Rig} (mem : c ∈ cases) : Ends c .pass := by
  have steady {c : Case Rig} (steady : ∀ r, c.body.runFrom r = (.ok .pass, r)) : Ends c .pass :=
    fun _ r rested => ⟨r, steady r, rested⟩
  simp only [cases, List.mem_cons, List.not_mem_nil, or_false] at mem
  rcases mem with rfl | rfl | rfl | rfl | rfl | rfl | rfl
  · exact steady fun _ => rfl
  · exact steady fun _ => rfl
  · exact steady fun _ => rfl
  · exact ends_passthroughWithoutHandler
  · exact ends_handlerSeesEveryTrap
  · exact ends_kcontextEntry
  · exact ends_interruptControl

end TrapSuite

/-! ## Cases on the heap and on devices -/

namespace HeapSuite

/-- A case leaves all of the area free, whether it finds the heap with its area or without it. -/
def Frees (c : Case Rig) : Prop :=
  ∀ w d heap, heap = .unset ∨ heap = allFree →
    c.body.runFrom ⟨w, heap, d⟩ = (.ok .pass, ⟨w, allFree, d⟩)

-- the cases work on the heap alone, so they are run
set_option maxRecDepth 4000 in
theorem frees_variousSizes : Frees variousSizes := by
  rintro w d _ (rfl | rfl) <;> rfl

theorem frees_of_mem {c : Case Rig} (mem : c ∈ cases) : Frees c := by
  simp only [cases, List.mem_cons, List.not_mem_nil, or_false] at mem
  rcases mem with rfl | rfl | rfl | rfl
  · rintro w d _ (rfl | rfl) <;> rfl
  · exact frees_variousSizes
  · rintro w d _ (rfl | rfl) <;> rfl
  · rintro w d _ (rfl | rfl) <;> rfl

end HeapSuite

namespace DeviceSuite

theorem skips_of_mem {c : Case Rig} (mem : c ∈ cases) (none : r.devices = none) :
    c.body.runFrom r = (.ok .skip, r) := by
  obtain ⟨w, heap, devices⟩ := r
  subst none
  simp only [cases, List.mem_cons, List.not_mem_nil, or_false] at mem
  rcases mem with rfl | rfl | rfl | rfl | rfl <;> rfl

end DeviceSuite

end HartLayer.SelfTest
