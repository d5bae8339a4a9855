import HartLayer.Proofs.SelfTestCases
import HartLayer.Proofs.TestAccounts

/-!
# The self tests can be run again

* A session counts the cases of a suite by the verdicts that they end with (`counts_runCases`).
* Whatever was run before, and whatever the kernel did meanwhile, the cases find what they rely on
  (`Reached.rested`).
* So every suite, and a run of all of them, always ends like the first time, and never touches the
  global system (`reruns_reached`).
-/

namespace HartLayer.SelfTest

open World Rig

/-- A part of a session counts cases: from states with one property it leads to states with another
one, and the tally becomes a function of what it was. -/
def Counts (x : Attempt (Session Rig) Unit) (P Q : Rig → Prop) (f : Tally → Tally) : Prop :=
  ∀ t r, P r → ∃ r', x.runFrom ⟨t, r⟩ = (.ok (), ⟨f t, r'⟩) ∧ Q r'

/-- A property that printing keeps. -/
def Printable (P : Rig → Prop) : Prop := ∀ text r, P r → P (HasConsole.print text r)

def Tally.add (v : Verdict) (t : Tally) : Tally := t.start.count v

variable {P Q R : Rig → Prop} {g : TrapSystem SimulatedHart} {v : Verdict} {f k : Tally → Tally}

/-! ## Sessions -/

/-- After a part that counts cases a session goes on with the tally and in the state it left. -/
theorem Counts.goesOn {β : Type} {x : Attempt (Session Rig) Unit} (counts : Counts x P Q f)
    {r : Rig} (h : P r) (t : Tally) : ∃ r', (∀ y : Attempt (Session Rig) β,
      (x >>= fun _ => y).runFrom ⟨t, r⟩ = y.runFrom ⟨f t, r'⟩) ∧ Q r' := by
  obtain ⟨r', ran, known⟩ := counts t r h
  refine ⟨r', fun y => ?_, known⟩
  rw [Attempt.runFrom_bind, ran]

theorem Counts.andThen {x y : Attempt (Session Rig) Unit} (first : Counts x P Q f)
    (second : Counts y Q R k) : Counts (x >>= fun _ => y) P R (k ∘ f) := by
  intro t r h
  obtain ⟨r', ran, known⟩ := first.goesOn h t
  obtain ⟨r'', ran', known'⟩ := second (f t) r' known
  exact ⟨r'', (ran y).trans ran', known'⟩

theorem Counts.weaken {x : Attempt (Session Rig) Unit} (counts : Counts x P Q f)
    (weaker : ∀ r, Q r → R r) : Counts x P R f := by
  intro t r h
  obtain ⟨r', ran, known⟩ := counts t r h
  exact ⟨r', ran, weaker r' known⟩

theorem counts_print (printable : Printable P) (text : String) :
    Counts (Session.print text) P P id :=
  fun _ r h => ⟨_, rfl, printable text r h⟩

theorem counts_runCase {c : Case Rig} (before : Printable P) (after : Printable Q)
    (ends : ∀ r, P r → ∃ r', c.body.runFrom r = (.ok v, r') ∧ Q r') :
    Counts (Session.runCase c) P Q (Tally.add v) := by
  intro t r h
  obtain ⟨r', ran, known⟩ := ends _ (before c.header r h)
  refine ⟨HasConsole.print (v.line c.name) r', ?_, after _ _ known⟩
  rw [runFrom_runCase, ran]
  rfl

/-- Cases that all end with one verdict are counted one by one. -/
theorem counts_runCases (printable : Printable P) {cases : List (Case Rig)}
    (ends : ∀ c ∈ cases, ∀ r, P r → ∃ r', c.body.runFrom r = (.ok v, r') ∧ P r') :
    Counts (Session.runCases cases) P P (Tally.add v)^[cases.length] := by
  induction cases with
  | nil => exact fun _ r h => ⟨r, rfl, h⟩
  | cons c rest ih =>
    exact (counts_runCase printable printable (ends c List.mem_cons_self)).andThen
      (ih fun d mem => ends d (List.mem_cons_of_mem c mem))

theorem counts_runSuite {name : String} {cases : List (Case Rig)} (before : Printable P)
    (after : Printable Q) (counts : Counts (Session.runCases cases) P Q f) :
    Counts (Session.runSuite name cases) P Q f :=
  (counts_print before _).andThen (k := f) (counts.andThen (k := id) (counts_print after _))

/-! ## Suites -/

/-- The state in which the cases on the heap leave things. -/
def Cleared (g : TrapSystem SimulatedHart) (r : Rig) : Prop := Rested g r ∧ r.heap = allFree

theorem printable_rested : Printable (Rested g) := fun _ _ rested =>
  ⟨{ rested.world with }, rested.heap, rested.devices⟩

theorem printable_cleared : Printable (Cleared g) := fun text r cleared =>
  ⟨printable_rested text r cleared.1, cleared.2⟩

theorem TrapSuite.counts_run :
    Counts TrapSuite.run (Rested g) (Rested g) (Tally.add .pass)^[TrapSuite.cases.length] :=
  (counts_print printable_rested _).andThen (k := (Tally.add .pass)^[TrapSuite.cases.length])
    (counts_runSuite printable_rested printable_rested
      (counts_runCases printable_rested fun _ mem => ends_of_mem mem g))

theorem HeapSuite.leaves_cleared {c : Case Rig} (mem : c ∈ HeapSuite.cases) {r : Rig}
    (rested : Rested g r) : ∃ r', c.body.runFrom r = (.ok .pass, r') ∧ Cleared g r' :=
  ⟨_, frees_of_mem mem r.world r.devices r.heap rested.heap,
    ⟨rested.world, .inr rfl, rested.devices⟩, rfl⟩

/-- The first case gives the heap its area, unless it has one; the others find it there. -/
theorem HeapSuite.counts_run :
    Counts HeapSuite.run (Rested g) (Cleared g) (Tally.add .pass)^[HeapSuite.cases.length] := by
  have rest : Counts (Session.runCases HeapSuite.cases.tail) (Cleared g) (Cleared g)
      (Tally.add .pass)^[3] :=
    counts_runCases printable_cleared fun _ mem _ cleared =>
      leaves_cleared (List.mem_of_mem_tail mem) cleared.1
  exact counts_runSuite printable_rested printable_cleared
    ((counts_runCase printable_rested printable_cleared fun _ rested =>
      leaves_cleared List.mem_cons_self rested).andThen rest)

theorem DeviceSuite.counts_run (printable : Printable P) (bare : ∀ r, P r → r.devices = none) :
    Counts DeviceSuite.run P P (Tally.add .skip)^[DeviceSuite.cases.length] :=
  counts_runSuite printable printable
    (counts_runCases printable fun _ mem r h => ⟨r, skips_of_mem mem (bare r h), h⟩)

theorem runFrom_runAll {r : Rig} (rested : Rested g r) :
    ∃ r', runAll.runFrom r = (.ok true, r') ∧ Cleared g r' := by
  obtain ⟨r₁, traps, rested⟩ := TrapSuite.counts_run.goesOn rested .zero
  obtain ⟨r₂, heap, cleared⟩ := HeapSuite.counts_run.goesOn rested _
  obtain ⟨r₃, devices, cleared⟩ := (DeviceSuite.counts_run (P := Cleared g) printable_cleared
    fun _ cleared => cleared.1.devices).goesOn cleared _
  refine ⟨_, ?_, printable_cleared (LogLevel.info.line "All test suites completed successfully!") _
    (printable_cleared (Session.summary ⟨16, 11, 0, 5⟩) r₃ cleared)⟩
  rw [Attempt.runFrom, runAll]
  dsimp only
  rw [traps, heap, devices]
  rfl

/-! ## Runs in any order -/

def suites : List (Attempt (Session Rig) Unit) := [TrapSuite.run, HeapSuite.run, DeviceSuite.run]

/-- The states between runs of the self tests, of single suites with any tally and of all of them.
Meanwhile the kernel works with whatever is not set aside for the tests. -/
inductive Reached : Rig → Prop
  | fresh : Reached (.fresh none)
  | meanwhile {r : Rig} (w : World SimulatedHart 2 Recorder) (before : Reached r)
      (aside : w.system tested = r.world.system tested)
      (aside' : w.system bare = r.world.system bare) : Reached { r with world := w }
  | suite {r : Rig} (x : Attempt (Session Rig) Unit) (mem : x ∈ suites) (t : Tally)
      (before : Reached r) : Reached (x.runFrom ⟨t, r⟩).2.state
  | all {r : Rig} (before : Reached r) : Reached (runAll.runFrom r).2

theorem rested_fresh : Rested ((Rig.fresh none).world.system .global) (.fresh none) :=
  ⟨⟨rfl, rfl, rfl⟩, .inl rfl, rfl⟩

theorem Rested.meanwhile {r : Rig} (rested : Rested g r) {w : World SimulatedHart 2 Recorder}
    (aside : w.system tested = r.world.system tested)
    (aside' : w.system bare = r.world.system bare) :
    Rested (w.system .global) { r with world := w } := by
  refine ⟨⟨rfl, ?_, ?_⟩, rested.heap, rested.devices⟩
  · rw [busy, dispatcher, aside]
    exact rested.world.idle
  · rw [dispatcher, aside']
    exact rested.world.bare

theorem rested_suite {x : Attempt (Session Rig) Unit} (mem : x ∈ suites) {r : Rig}
    (rested : Rested g r) (t : Tally) : Rested g (x.runFrom ⟨t, r⟩).2.state := by
  have ends : ∃ f, Counts x (Rested g) (Rested g) f := by
    simp only [suites, List.mem_cons, List.not_mem_nil, or_false] at mem
    rcases mem with rfl | rfl | rfl
    · exact ⟨_, TrapSuite.counts_run⟩
    · exact ⟨_, HeapSuite.counts_run.weaken fun _ cleared => cleared.1⟩
    · exact ⟨_, DeviceSuite.counts_run printable_rested fun _ rested => rested.devices⟩
  obtain ⟨f, counts⟩ := ends
  obtain ⟨r', ran, rested'⟩ := counts t r rested
  rw [ran]
  exact rested'

theorem Reached.rested {r : Rig} (reached : Reached r) : Rested (r.world.system .global) r := by
  suffices h : ∃ g, Rested g r by
    obtain ⟨g, rested⟩ := h
    exact rested.world.global ▸ rested
  induction reached with
  | fresh => exact ⟨_, rested_fresh⟩
  | meanwhile w before aside aside' ih =>
    obtain ⟨g, rested⟩ := ih
    exact ⟨_, rested.meanwhile aside aside'⟩
  | suite x mem t before ih =>
    obtain ⟨g, rested⟩ := ih
    exact ⟨g, rested_suite mem rested t⟩
  | all before ih =>
    obtain ⟨g, rested⟩ := ih
    obtain ⟨r', ran, cleared⟩ := runFrom_runAll rested
    rw [ran]
    exact ⟨g, cleared.1⟩

/-- The self tests end in this state as they should, and leave the global system as it is. -/
structure Reruns (r : Rig) : Prop where
  /-- Every case on traps and on the heap passes, every case on devices is skipped. -/
  verdicts : ∀ c, (c ∈ TrapSuite.cases ++ HeapSuite.cases → (c.body.runFrom r).1 = .ok .pass) ∧
    (c ∈ DeviceSuite.cases → (c.body.runFrom r).1 = .ok .skip)
  traps : ∀ t, ∃ r', TrapSuite.run.runFrom ⟨t, r⟩ =
      (.ok (), ⟨{ t with total := t.total + 7, passed := t.passed + 7 }, r'⟩) ∧
    r'.world.system .global = r.world.system .global
  /-- No byte of the heap stays in use. -/
  heap : ∀ t, ∃ r', HeapSuite.run.runFrom ⟨t, r⟩ =
      (.ok (), ⟨{ t with total := t.total + 4, passed := t.passed + 4 }, r'⟩) ∧
    r'.world.system .global = r.world.system .global ∧
      r'.heap.usage = some (HeapSuite.arenaSize, 0, HeapSuite.arenaSize)
  devices : ∀ t, ∃ r', DeviceSuite.run.runFrom ⟨t, r⟩ =
      (.ok (), ⟨{ t with total := t.total + 5, skipped := t.skipped + 5 }, r'⟩) ∧
    r'.world.system .global = r.world.system .global
  all : ∃ r', runAll.runFrom r = (.ok true, r') ∧
    r'.world.system .global = r.world.system .global ∧
      r'.heap.usage = some (HeapSuite.arenaSize, 0, HeapSuite.arenaSize)

theorem Cleared.usage {r : Rig} (cleared : Cleared g r) :
    r.heap.usage = some (HeapSuite.arenaSize, 0, HeapSuite.arenaSize) := by
  rw [cleared.2]
  rfl

/-- Whatever ran before, the self tests end like the first time. -/
theorem reruns_reached {r : Rig} (reached : Reached r) : Reruns r where
  verdicts c := by
    refine ⟨fun mem => ?_, fun mem => ?_⟩
    · rcases List.mem_append.mp mem with mem | mem
      · obtain ⟨r', ran, -⟩ := TrapSuite.ends_of_mem mem _ r reached.rested
        rw [ran]
      · obtain ⟨r', ran, -⟩ := HeapSuite.leaves_cleared mem reached.rested
        rw [ran]
    · rw [DeviceSuite.skips_of_mem mem reached.rested.devices]
  traps t := by
    obtain ⟨r', ran, rested⟩ := TrapSuite.counts_run t r reached.rested
    exact ⟨r', ran, rested.world.global⟩
  heap t := by
    obtain ⟨r', ran, cleared⟩ := HeapSuite.counts_run t r reached.rested
    exact ⟨r', ran, cleared.1.world.global, cleared.usage⟩
  devices t := by
    obtain ⟨r', ran, rested⟩ := DeviceSuite.counts_run (P := Rested (r.world.system .global))
      printable_rested (fun _ rested => rested.devices) t r reached.rested
    exact ⟨r', ran, rested.world.global⟩
  all := by
    obtain ⟨r', ran, cleared⟩ := runFrom_runAll reached.rested
    exact ⟨r', ran, cleared.1.world.global, cleared.usage⟩

/-- After a run of all tests the kernel sets up the global system and is called for a fault. -/
def inUse : Rig :=
  let r := (runAll.runFrom (.fresh none)).2
  let w := r.world.settle (.init .global .masking ⟨0⟩ 0)
  { r with world := (w.opening .global ⟨0⟩ (.ofException .loadFault) 0x1000).2 }

theorem reruns_inUse : Reached inUse ∧ Reruns inUse := by
  have aside (s : SystemId 2) (other : SystemId.global ≠ s) :
      inUse.world.system s = (runAll.runFrom (.fresh none)).2.world.system s := by
    obtain ⟨log, same⟩ := system_opening (World.settle (runAll.runFrom (.fresh none)).2.world
      (.init .global .masking ⟨0⟩ 0)) .global s ⟨0⟩ (.ofException .loadFault) 0x1000
    rw [if_neg other, system_settle rfl] at same
    exact same.trans (if_neg other)
  have reached : Reached inUse :=
    .meanwhile _ (.all .fresh) (aside tested (by decide)) (aside Rig.bare (by decide))
  exact ⟨reached, reruns_reached reached⟩

end HartLayer.SelfTest
