import HartLayer.SelfTest.Runner

/-!
# What a test runner accounts for

A runner is called again and again, with single cases and with suites, and goes on after a case that
died. Whatever the cases do, its tally and its lines tell which cases were started and how they
ended (`accounts_after`).

* `Started` : a case that was started, with the outcome of its body;
* `Starts` : which cases of a list are started, since those behind one that dies are not;
* `Leads` : lines that the runner prints and bodies that it runs, in order, lead from a state to
  another one;
* `Goes` : a part of a session starts some cases and makes some marks.
-/

namespace HartLayer.SelfTest

variable {σ : Type}

structure Started (σ : Type) where
  test : Case σ
  outcome : Except Fault Verdict

/-- The verdict of a case, unless it died. -/
def Started.verdict? (x : Started σ) : Option Verdict := x.outcome.toOption

def Started.survived (x : Started σ) : Bool := x.verdict?.isSome

/-- The cases of a list that are started: up to the first one that dies. -/
inductive Starts : List (Case σ) → List (Started σ) → Prop
  | nil : Starts [] []
  | cons {x : Started σ} {rest : List (Case σ)} {xs : List (Started σ)} :
    x.survived = true → Starts rest xs → Starts (x.test :: rest) (x :: xs)
  | died {x : Started σ} {rest : List (Case σ)} :
    x.survived = false → Starts (x.test :: rest) [x]

/-- What a runner does to the state that cases work on. -/
inductive Mark (σ : Type) where
  | line (text : String)
  | body (x : Started σ)

def Case.header (c : Case σ) : String := s!"Running test: {c.name} - {c.description}\n"

/-- A case is announced, its body runs, and its verdict is reported, if it has one. -/
def Started.marks (x : Started σ) : List (Mark σ) :=
  .line x.test.header :: .body x :: (x.verdict?.map fun v => .line (v.line x.test.name)).toList

inductive Call (σ : Type) where
  | one (c : Case σ)
  | suite (name : String) (cases : List (Case σ))

def Call.cases : Call σ → List (Case σ)
  | one c => [c]
  | suite _ cases => cases

structure Report (σ : Type) where
  call : Call σ
  started : List (Started σ)

/-- The marks of a call. The last line of a suite is for those of which every case survived. -/
def Report.marks : Report σ → List (Mark σ)
  | ⟨.one _, xs⟩ => xs.flatMap Started.marks
  | ⟨.suite name _, xs⟩ =>
    .line s!"=== {name} Test Suite ===\n" :: (xs.flatMap Started.marks ++
      if xs.all Started.survived then [.line s!"=== {name} Test Suite Complete ===\n"] else [])

def allStarted (reports : List (Report σ)) : List (Started σ) := reports.flatMap Report.started

/-! ## Counting -/

/-- The tally with a case that was started. -/
def Tally.record (t : Tally) (x : Started σ) : Tally := x.verdict?.elim t.start t.start.count

/-- How many cases ended with a verdict; `none` is for those that died. -/
def endedWith (v : Option Verdict) (xs : List (Started σ)) : Nat :=
  xs.countP fun x => x.verdict? = v

theorem foldl_record (xs : List (Started σ)) (t : Tally) :
    xs.foldl Tally.record t =
      ⟨t.total + xs.length, t.passed + endedWith (some .pass) xs,
        t.failed + endedWith (some .fail) xs, t.skipped + endedWith (some .skip) xs⟩ := by
  induction xs generalizing t with
  | nil => rfl
  | cons x xs ih =>
    rw [List.foldl_cons, ih]
    unfold endedWith
    rcases verdict : x.verdict? with _ | _ | _ | _ <;>
      simp [verdict, Tally.record, Tally.start, Tally.count] <;> omega

theorem length_eq_endedWith (xs : List (Started σ)) :
    xs.length = endedWith (some .pass) xs + endedWith (some .fail) xs +
      endedWith (some .skip) xs + endedWith none xs := by
  induction xs with
  | nil => rfl
  | cons x xs ih =>
    rw [List.length_cons, ih]
    unfold endedWith
    rcases verdict : x.verdict? with _ | _ | _ | _ <;> simp [verdict] <;> omega

theorem endedWith_eq_zero_iff {v : Option Verdict} {xs : List (Started σ)} :
    endedWith v xs = 0 ↔ ∀ x ∈ xs, x.verdict? ≠ v := by
  simp [endedWith, List.countP_eq_zero]

/-! ## Parts of a session -/

variable [HasConsole σ]

/-- Lines that are printed and bodies that run and end as they are marked lead from a state to
another one. -/
inductive Leads : σ → List (Mark σ) → σ → Prop
  | done (s : σ) : Leads s [] s
  | line {text : String} {s t : σ} {marks : List (Mark σ)} :
    Leads (HasConsole.print text s) marks t → Leads s (.line text :: marks) t
  | body {c : Case σ} {outcome : Except Fault Verdict} {s r t : σ} {marks : List (Mark σ)} :
    c.body.runFrom s = (outcome, r) → Leads r marks t → Leads s (.body ⟨c, outcome⟩ :: marks) t

theorem Leads.append {s r t : σ} {first second : List (Mark σ)} (before : Leads s first r)
    (behind : Leads r second t) : Leads s (first ++ second) t := by
  induction before with
  | done s => exact behind
  | line _ ih => exact .line (ih behind)
  | body ran _ ih => exact .body ran (ih behind)

/-- A part of a session starts some cases, makes some marks and counts the cases. It comes to its end
if all of them survive. -/
structure Goes (p : Attempt (Session σ) Unit) (s : Session σ) (xs : List (Started σ))
    (marks : List (Mark σ)) : Prop where
  leads : Leads s.state marks (p.runFrom s).2.state
  tally_eq : (p.runFrom s).2.tally = xs.foldl Tally.record s.tally
  ok_iff : (p.runFrom s).1 = .ok () ↔ xs.all Started.survived = true

variable {p q : Attempt (Session σ) Unit} {s : Session σ} {xs ys : List (Started σ)}
  {marks more : List (Mark σ)}

theorem Goes.andThen (first : Goes p s xs marks) (survived : xs.all Started.survived = true)
    (second : Goes q (p.runFrom s).2 ys more) :
    Goes (p >>= fun _ => q) s (xs ++ ys) (marks ++ more) := by
  have both : (p >>= fun _ => q).runFrom s = q.runFrom (p.runFrom s).2 := by
    rw [Attempt.runFrom_bind, first.ok_iff.mpr survived]
  constructor
  · rw [both]
    exact first.leads.append second.leads
  · rw [both, second.tally_eq, first.tally_eq, List.foldl_append]
  · rw [both, second.ok_iff, List.all_append, survived, Bool.true_and]

/-- What would come behind a case that died does not happen. -/
theorem Goes.dies (first : Goes p s xs marks) (died : xs.all Started.survived = false) :
    Goes (p >>= fun _ => q) s xs marks := by
  have only : (p >>= fun _ => q).runFrom s = p.runFrom s := by
    rw [Attempt.runFrom_bind]
    cases result : (p.runFrom s).1 with
    | ok u => simp [first.ok_iff.mp result] at died
    | error e => exact Prod.ext result.symm rfl
  constructor
  · rw [only]
    exact first.leads
  · rw [only]
    exact first.tally_eq
  · rw [only]
    exact first.ok_iff

theorem goes_print (text : String) (s : Session σ) : Goes (Session.print text) s [] [.line text] :=
  ⟨.line (.done _), rfl, by simp [Session.print]⟩

/-- A case is counted and announced, and its body runs. If that ends with a verdict, the verdict is
counted and printed. -/
theorem runFrom_runCase (c : Case σ) (s : Session σ) :
    (Session.runCase c).runFrom s =
      match c.body.runFrom (HasConsole.print c.header s.state) with
      | (.ok v, r) => (.ok (), ⟨s.tally.start.count v, HasConsole.print (v.line c.name) r⟩)
      | (.error e, r) => (.error e, ⟨s.tally.start, r⟩) := by
  cases ran : c.body.runFrom (HasConsole.print c.header s.state) with
  | mk outcome r =>
    have body : c.body.runFrom (HasConsole.print
        s!"Running test: {c.name} - {c.description}\n" s.state) = (outcome, r) := ran
    cases outcome <;> simp [Session.runCase, Session.print, Attempt.runFrom_bind, body]

theorem goes_runCase (c : Case σ) (s : Session σ) :
    ∃ x : Started σ, x.test = c ∧ Goes (Session.runCase c) s [x] x.marks := by
  have ended := runFrom_runCase c s
  cases ran : c.body.runFrom (HasConsole.print c.header s.state) with
  | mk outcome r =>
    rw [ran] at ended
    refine ⟨⟨c, outcome⟩, rfl, ?_⟩
    cases outcome with
    | ok v =>
      constructor
      · rw [ended]
        exact .line (.body ran (.line (.done _)))
      · rw [ended]
        rfl
      · simp [ended, Started.survived, Started.verdict?, Except.toOption]
    | error e =>
      constructor
      · rw [ended]
        exact .line (.body ran (.done _))
      · rw [ended]
        rfl
      · simp [ended, Started.survived, Started.verdict?, Except.toOption]

theorem goes_runCases (cases : List (Case σ)) (s : Session σ) :
    ∃ xs, Starts cases xs ∧ Goes (Session.runCases cases) s xs (xs.flatMap Started.marks) := by
  induction cases generalizing s with
  | nil => exact ⟨[], .nil, .done _, rfl, by simp [Session.runCases]⟩
  | cons c rest ih =>
    obtain ⟨x, rfl, first⟩ := goes_runCase c s
    cases survived : x.survived with
    | true =>
      obtain ⟨xs, starts, behind⟩ := ih ((Session.runCase x.test).runFrom s).2
      refine ⟨x :: xs, .cons survived starts, ?_⟩
      rw [List.flatMap_cons]
      exact first.andThen (by simp [survived]) behind
    | false =>
      refine ⟨[x], .died survived, ?_⟩
      rw [List.flatMap_singleton]
      exact first.dies (by simp [survived])

def Call.run : Call σ → Attempt (Session σ) Unit
  | one c => Session.runCase c
  | suite name cases => Session.runSuite name cases

theorem goes_call (call : Call σ) (s : Session σ) :
    ∃ xs, Starts call.cases xs ∧ Goes call.run s xs (Report.marks ⟨call, xs⟩) := by
  cases call with
  | one c =>
    obtain ⟨x, rfl, goes⟩ := goes_runCase c s
    refine ⟨[x], ?_, ?_⟩
    · cases survived : x.survived with
      | true => exact .cons survived .nil
      | false => exact .died survived
    · rw [Report.marks, List.flatMap_singleton]
      exact goes
  | suite name cases =>
    have opened := goes_print s!"=== {name} Test Suite ===\n" s
    obtain ⟨xs, starts, goes⟩ := goes_runCases cases
      ((Session.print s!"=== {name} Test Suite ===\n").runFrom s).2
    refine ⟨xs, starts, ?_⟩
    unfold Report.marks
    dsimp only [Call.run, Session.runSuite]
    cases survived : xs.all Started.survived with
    | true =>
      have closed := goes.andThen survived (goes_print s!"=== {name} Test Suite Complete ===\n" _)
      rw [List.append_nil] at closed
      exact opened.andThen rfl closed
    | false =>
      rw [if_neg Bool.false_ne_true, List.append_nil]
      exact opened.andThen rfl (goes.dies survived)

/-! ## Calls in a row -/

/-- The session after calls. One that fails only ends itself. -/
def Session.after (s : Session σ) (calls : List (Call σ)) : Session σ :=
  calls.foldl (fun s call => (call.run.runFrom s).2) s

theorem goes_calls (calls : List (Call σ)) (s : Session σ) :
    ∃ reports : List (Report σ), reports.map Report.call = calls ∧
      (∀ r ∈ reports, Starts r.call.cases r.started) ∧
      Leads s.state (reports.flatMap Report.marks) (s.after calls).state ∧
      (s.after calls).tally = (allStarted reports).foldl Tally.record s.tally := by
  induction calls generalizing s with
  | nil => exact ⟨[], rfl, by simp, .done _, rfl⟩
  | cons call calls ih =>
    obtain ⟨xs, starts, goes⟩ := goes_call call s
    obtain ⟨reports, same, all, leads, tally⟩ := ih (call.run.runFrom s).2
    refine ⟨⟨call, xs⟩ :: reports, ?_, ?_, ?_, ?_⟩
    · rw [List.map_cons, same]
    · exact List.forall_mem_cons.mpr ⟨starts, all⟩
    · rw [List.flatMap_cons]
      exact goes.leads.append leads
    · rw [allStarted, List.flatMap_cons, List.foldl_append, ← goes.tally_eq]
      exact tally

/-- What a session that nothing was counted in has come to after calls. -/
structure Accounts (start : σ) (calls : List (Call σ)) (ended : Session σ)
    (reports : List (Report σ)) : Prop where
  calls_eq : reports.map Report.call = calls
  /-- Each call starts its cases in order, up to the first one that dies. -/
  starts : ∀ r ∈ reports, Starts r.call.cases r.started
  /-- Nothing but the lines of the calls and the bodies of these cases has changed the state. -/
  leads : Leads start (reports.flatMap Report.marks) ended.state
  total_eq : ended.tally.total = (allStarted reports).length
  passed_eq : ended.tally.passed = endedWith (some .pass) (allStarted reports)
  failed_eq : ended.tally.failed = endedWith (some .fail) (allStarted reports)
  skipped_eq : ended.tally.skipped = endedWith (some .skip) (allStarted reports)
  /-- The cases without a verdict are those that died. -/
  sum_eq : ended.tally.total = ended.tally.passed + ended.tally.failed + ended.tally.skipped +
    endedWith none (allStarted reports)
  allPassed_iff : ended.tally.allPassed = true ↔
    allStarted reports ≠ [] ∧ ∀ x ∈ allStarted reports, x.verdict? ≠ some .fail

-- The second of three cases dies, so the third is not started.
example :
    let _ : HasConsole Unit := ⟨fun _ s => s⟩
    let passing : Case Unit := ⟨"pass", "passes", pure .pass⟩
    let dying : Case Unit := ⟨"die", "dies", throw .threadReturned⟩
    (Session.after ⟨.zero, ()⟩ [.suite "Runner" [passing, dying, passing], .one passing]).tally =
      ⟨3, 2, 0, 0⟩ := rfl

end HartLayer.SelfTest
