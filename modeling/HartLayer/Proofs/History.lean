import HartLayer.Proofs.Nesting

/-!
# Histories

What a kernel does with the trap layer is a list of requests, each made in the state that the one
before left, also where that one failed (`perform`). `history` lists what happens meanwhile, act by
act, also inside handlers: traps are taken and arrive at dispatchers, handlers are called and come
to their end, frames are resumed, and other requests are answered.

* Each act has an effect on the state (`Act.effect`), and what a list of requests does is what its
  acts do (`trail_history`).
* A history is a trail (`Trail`): between the call of a handler and its end lies a trail, which is
  that of the handler's own code.
* Each act of a trail happens in a state that allows it, with the calls in progress as a stack
  (`Trail.lawfulFrom`). What every lawful act keeps holds throughout (`LawfulFrom.invariant`).
-/

namespace HartLayer

/-- A trap that arrives at a dispatcher with a frame. A null pointer is no frame: the trap path
refuses it before it gets to a dispatcher (`Act.noFrame`). -/
structure Arrival (n : Nat) where
  system : SystemId n
  cause : Cause
  frame : Word
  deriving DecidableEq, Repr

/-- One act of a run. -/
inductive Act (n : Nat) (κ : Type) where
  /-- A request that delivers no trap is answered. -/
  | request (r : Request n κ)
  /-- The frame of a yield is pushed. -/
  | push (frame : Word) (c : Context)
  /-- The frame of a yield is dropped. -/
  | pop (stack : Word)
  /-- The global hart takes a trap with a frame. -/
  | take (frame : Word)
  /-- A trap is delivered without a frame. -/
  | noFrame
  /-- A trap arrives where no handler is installed. -/
  | pass (a : Arrival n)
  /-- A trap arrives at a dispatcher that is handling another one. -/
  | refuse (a : Arrival n)
  /-- A trap arrives and the handler is called. -/
  | enter (a : Arrival n) (call : Invocation n)
  /-- A call comes to its end: how its handler ended, and how the dispatch does. -/
  | leave (call : Invocation n) (returned : Except Fault (Option Word))
      (result : Except Fault Word)
  /-- The global hart returns from a trap to a frame. -/
  | resume (frame : Word)

namespace Act

variable {n : Nat} {κ : Type}

def arrival? : Act n κ → Option (Arrival n)
  | pass a | refuse a | enter a _ => some a
  | _ => none

/-- The calls in progress after an act, the innermost first. -/
def onCalls : Act n κ → List (Invocation n) → List (Invocation n)
  | enter _ call, calls => call :: calls
  | leave _ _ _, calls => calls.tail
  | _, calls => calls

def callsAfter (calls : List (Invocation n)) (acts : List (Act n κ)) : List (Invocation n) :=
  acts.foldl (fun calls x => x.onCalls calls) calls

/-- The calls that a list of acts leaves in progress. -/
def inProgress (acts : List (Act n κ)) : List (Invocation n) := callsAfter [] acts

/-- Each act of a list, with the acts before it. -/
def moments (acts : List (Act n κ)) : List (List (Act n κ) × Act n κ) := acts.inits.zip acts

/-- Whether an act opens or closes a call. -/
def isBracket : Act n κ → Bool
  | enter _ _ | leave _ _ _ => true
  | _ => false

@[simp] theorem callsAfter_nil (calls : List (Invocation n)) :
    callsAfter calls ([] : List (Act n κ)) = calls := rfl

@[simp] theorem callsAfter_cons (calls : List (Invocation n)) (x : Act n κ)
    (acts : List (Act n κ)) :
    callsAfter calls (x :: acts) = callsAfter (x.onCalls calls) acts := rfl

@[simp] theorem callsAfter_append (calls : List (Invocation n)) (first second : List (Act n κ)) :
    callsAfter calls (first ++ second) = callsAfter (callsAfter calls first) second :=
  List.foldl_append

theorem moments_cons (x : Act n κ) (acts : List (Act n κ)) :
    moments (x :: acts) = ([], x) :: (moments acts).map fun p => (x :: p.1, p.2) := by
  rw [moments, List.inits_cons, List.zip_cons_cons, List.zip_map_left]
  rfl

theorem mem_moments {acts pre : List (Act n κ)} {x : Act n κ} :
    (pre, x) ∈ moments acts ↔ ∃ post, acts = pre ++ x :: post := by
  induction acts generalizing pre with
  | nil => simp [moments]
  | cons y acts ih =>
    rw [moments_cons, List.mem_cons, List.mem_map]
    constructor
    · rintro (e | ⟨⟨pre', y'⟩, mem, e⟩)
      · cases e
        exact ⟨acts, rfl⟩
      · cases e
        obtain ⟨post, rfl⟩ := ih.mp mem
        exact ⟨post, rfl⟩
    · rintro ⟨post, e⟩
      cases pre with
      | nil =>
        cases e
        exact .inl rfl
      | cons z pre =>
        cases e
        exact .inr ⟨(pre, x), ih.mpr ⟨post, rfl⟩, rfl⟩

theorem moments_concat (acts : List (Act n κ)) (x : Act n κ) :
    moments (acts ++ [x]) = moments acts ++ [(acts, x)] := by
  induction acts with
  | nil => rfl
  | cons y acts ih =>
    rw [List.cons_append, moments_cons, moments_cons, ih, List.map_append]
    rfl

theorem onCalls_of_not_isBracket {x : Act n κ} (h : x.isBracket = false)
    (calls : List (Invocation n)) : x.onCalls calls = calls := by
  cases x with
  | enter _ _ => cases h
  | leave _ _ _ => cases h
  | _ => rfl

end Act

namespace World

variable {H κ α : Type} {n : Nat}

/-- What a handler is called with when a trap arrives. -/
def invocation (w : World H n κ) (a : Arrival n) (h : HandlerId) : Invocation n :=
  let opened := w.opening a.system h a.cause a.frame
  ⟨a.system, h, opened.1, a.frame, opened.2.context a.frame⟩

/-! ## The acts of a run -/

section Acts

/-- What happens in a script, given what is answered and what happens at a request. -/
def scriptActs (answer : (r : Request n κ) → Run H n κ r.Answer)
    (acts : Request n κ → World H n κ → List (Act n κ)) :
    Script n κ α → World H n κ → List (Act n κ)
  | .done _, _ => []
  | .fail _, _ => []
  | Program.ask r next, w =>
    acts r w ++
      match (answer r).runFrom w with
      | (.ok x, v) => scriptActs answer acts (next x) v
      | (.error _, _) => []

/-- What happens when a trap arrives at a dispatcher, given how handlers run and what happens
inside them. -/
def dispatchActs (call : HandlerId → Event → Word → Run H n κ (Option Word))
    (inside : HandlerId → Event → Word → World H n κ → List (Act n κ)) (a : Arrival n)
    (w : World H n κ) : List (Act n κ) :=
  match (w.dispatcher a.system).handler with
  | none => [.pass a]
  | some h =>
    if w.busy a.system then [.refuse a]
    else
      let opened := w.opening a.system h a.cause a.frame
      .enter a (w.invocation a h) :: inside h opened.1 a.frame opened.2 ++
        [.leave (w.invocation a h) ((call h opened.1 a.frame).runFrom opened.2).1
          ((dispatchWith call a.system a.cause a.frame).runFrom w).1]

variable [Hart H] (deliver : SystemId n → Cause → Word → Run H n κ Word)
  (acts : Arrival n → World H n κ → List (Act n κ))

/-- What happens when the global hart takes the trap of a frame. -/
def simulateActs (frame : Word) (w : World H n κ) : List (Act n κ) :=
  if frame = 0 then [.noFrame]
  else
    let v := w.takeTrap .global frame
    let cause := (v.context frame).cause
    .take frame :: acts ⟨.global, cause, frame⟩ v ++
      match ((deliver .global cause frame).runFrom v).1 with
      | .ok next => if next = 0 then [] else [.resume next]
      | .error _ => []

def requestActs : Request n κ → World H n κ → List (Act n κ)
  | .dispatch s cause frame, w => acts ⟨s, cause, frame⟩ w
  | .handle s frame, w =>
    if frame = 0 then [.noFrame] else acts ⟨s, (w.context frame).cause, frame⟩ w
  | .simulateTrap frame, w => simulateActs deliver acts frame w
  | .yieldNow, w =>
    .push w.yieldFrame w.yieldContext ::
      simulateActs deliver acts w.yieldFrame (w.pushed w.yieldFrame w.yieldContext) ++
        [.pop w.stack]
  | r, _ => [.request r]

variable {deliver acts} in
theorem requestActs_of_quiet {r : Request n κ} (quiet : r.deliversTrap = false)
    (w : World H n κ) : requestActs deliver acts r w = [.request r] := by
  cases r <;> first | rfl | cases quiet

end Acts

section History

variable [Hart H] (handlers : Handlers n κ)

/-- What happens when a trap arrives, where dispatches that call handlers may nest `depth` deep
behind it. -/
def arrivalActs : Nat → Arrival n → World H n κ → List (Act n κ)
  | 0 => dispatchActs (fun _ _ _ => throw .nestingExhausted) fun _ _ _ _ => []
  | depth + 1 =>
    dispatchActs
      (fun h event frame => (handlers h event frame).run (answerWith (deliver handlers depth)))
      fun h event frame =>
        scriptActs (answerWith (deliver handlers depth))
          (requestActs (deliver handlers depth) (arrivalActs depth)) (handlers h event frame)

/-- The state after a list of requests, each made also if the ones before failed. -/
def perform : List (Request n κ) → World H n κ → World H n κ
  | [], w => w
  | r :: rs, w => perform rs ((answer handlers r).runFrom w).2

/-- What happens during a list of requests. -/
def history : List (Request n κ) → World H n κ → List (Act n κ)
  | [], _ => []
  | r :: rs, w =>
    requestActs (deliver handlers (n + 1)) (arrivalActs handlers (n + 1)) r w ++
      history rs ((answer handlers r).runFrom w).2

end History

end World

/-! ## What acts do, and when they happen -/

namespace Act

variable {H κ : Type} {n : Nat} [Hart H]

def effect (w : World H n κ) : Act n κ → World H n κ
  | request r => w.settle r
  | push frame c => w.pushed frame c
  | pop stack => { w with stack := stack }
  | take frame => w.takeTrap .global frame
  | enter a call => (w.opening a.system call.handler a.cause a.frame).2
  | leave call _ _ => w.unmark call.system
  | resume frame => w.returnFromTrap .global frame
  | noFrame => w
  | pass _ => w
  | refuse _ => w

omit [Hart H] in
/-- When an act may happen, with the calls that are in progress. -/
def Lawful (w : World H n κ) (calls : List (Invocation n)) : Act n κ → Prop
  | request r => r.deliversTrap = false
  | take frame => frame ≠ 0
  | resume frame => frame ≠ 0
  | pass a => (w.dispatcher a.system).handler = none
  | refuse a => (w.dispatcher a.system).handler ≠ none ∧ w.busy a.system = true
  | enter a call =>
    (w.dispatcher a.system).handler = some call.handler ∧ w.busy a.system = false ∧
      call = w.invocation a call.handler
  | leave call returned result =>
    calls.head? = some call ∧ result = World.verdict call.event returned
  | push frame c => frame = w.yieldFrame ∧ c = w.yieldContext
  | pop _ => True
  | noFrame => True

omit [Hart H] in
/-- What a handler is called with. -/
theorem Lawful.called {w : World H n κ} {calls : List (Invocation n)} {a : Arrival n}
    {call : Invocation n} (lawful : (enter a call : Act n κ).Lawful w calls) :
    let opened := w.opening a.system call.handler a.cause a.frame
    call.system = a.system ∧ call.event = opened.1 ∧ call.frame = a.frame ∧
      call.context = opened.2.context a.frame := by
  obtain ⟨-, -, called⟩ := lawful
  refine ⟨?_, ?_, ?_, ?_⟩ <;>
    · rw [called]
      rfl

end Act

namespace World

variable {H κ α : Type} {n : Nat} [Hart H]

def after (w : World H n κ) (acts : List (Act n κ)) : World H n κ :=
  acts.foldl Act.effect w

@[simp] theorem after_nil (w : World H n κ) : w.after [] = w := rfl

@[simp] theorem after_cons (w : World H n κ) (x : Act n κ) (acts : List (Act n κ)) :
    w.after (x :: acts) = (x.effect w).after acts := rfl

@[simp] theorem after_append (w : World H n κ) (first second : List (Act n κ)) :
    w.after (first ++ second) = (w.after first).after second :=
  List.foldl_append

/-- The acts that may follow one another from a state on, between the calls in progress. Calls come
to their end one inside the other, and what happens between the beginning and the end of a call is
what its handler does. -/
inductive Trail (handlers : Handlers n κ) : World H n κ → List (Act n κ) → Prop
  | nil (w : World H n κ) : Trail handlers w []
  | step {w : World H n κ} {x : Act n κ} {rest : List (Act n κ)} :
    x.isBracket = false → x.Lawful w [] → Trail handlers (x.effect w) rest →
      Trail handlers w (x :: rest)
  | call {w : World H n κ} {a : Arrival n} {call : Invocation n} {inside rest : List (Act n κ)}
      {returned : Except Fault (Option Word)} :
    (Act.enter a call).Lawful w [] → Trail handlers ((Act.enter a call).effect w) inside →
      (exec handlers (handlers call.handler call.event call.frame)).runFrom
          ((Act.enter a call).effect w) =
        (returned, ((Act.enter a call).effect w).after inside) →
      Trail handlers ((((Act.enter a call).effect w).after inside).unmark call.system) rest →
      Trail handlers w (.enter a call :: inside ++
        .leave call returned (verdict call.event returned) :: rest)

/-- A list of acts as a trail of a computation: what it does is what the computation does. -/
def Records (handlers : Handlers n κ) (w : World H n κ) (acts : List (Act n κ))
    (x : Run H n κ α) : Prop :=
  Trail handlers w acts ∧ w.after acts = (x.runFrom w).2

namespace Trail

variable {handlers : Handlers n κ} {w : World H n κ} {first second acts : List (Act n κ)}

theorem append (head : Trail handlers w first) (tail : Trail handlers (w.after first) second) :
    Trail handlers w (first ++ second) := by
  induction head with
  | nil w => exact tail
  | step unbracketed lawful _ ih => exact .step unbracketed lawful (ih tail)
  | call entered inner runs _ _ ih =>
    rw [List.append_assoc, List.cons_append]
    refine .call entered inner runs (ih ?_)
    rwa [after_append, after_cons, after_cons] at tail

theorem single {x : Act n κ} (unbracketed : x.isBracket = false) (lawful : x.Lawful w []) :
    Trail handlers w [x] :=
  .step unbracketed lawful (.nil _)

end Trail

/-! ## Histories are trails -/

section Enough

variable (handlers : Handlers n κ) {w : World H n κ} {depth : Nat}

theorem answerWith_deliver_congr {first second : Nat} (enough : w.idle ≤ first)
    (enough' : w.idle ≤ second) (r : Request n κ) :
    (answerWith (deliver handlers first) r).runFrom w =
      (answerWith (deliver handlers second) r).runFrom w :=
  answerWith_congr
    (fun s cause frame _ hv => runFrom_deliver_congr handlers (le_trans hv (min_le_left _ _))
      (le_trans hv (min_le_right _ _)) s cause frame) r (le_min enough enough')

/-- A script runs as it does without a bound if the levels are enough. -/
theorem run_deliver_eq_exec (enough : w.idle ≤ depth) (p : Script n κ α) :
    Attempt.runFrom (p.run (answerWith (deliver handlers depth))) w =
      (exec handlers p).runFrom w :=
  run_congr (fun r => keepsMarks_answerWith (keepsMarks_deliver handlers depth) r)
    (fun r _ hv => answerWith_deliver_congr handlers (le_trans hv (min_le_left _ _))
      (le_trans hv (min_le_right _ _)) r) p (le_min enough (idle_le w))

end Enough

section Records

variable {handlers : Handlers n κ}

theorem records_dispatchActs {call : HandlerId → Event → Word → Run H n κ (Option Word)}
    {inside : HandlerId → Event → Word → World H n κ → List (Act n κ)} {a : Arrival n}
    {w : World H n κ}
    (runs : ∀ h, w.busy a.system = false →
      let opened := w.opening a.system h a.cause a.frame
      Records handlers opened.2 (inside h opened.1 a.frame opened.2) (call h opened.1 a.frame) ∧
        (call h opened.1 a.frame).runFrom opened.2 =
          (exec handlers (handlers h opened.1 a.frame)).runFrom opened.2) :
    Records handlers w (dispatchActs call inside a w)
      (dispatchWith call a.system a.cause a.frame) := by
  unfold dispatchActs
  cases installed : (w.dispatcher a.system).handler with
  | none =>
    rw [Records, dispatchWith_of_handler_none installed]
    exact ⟨.single rfl installed, rfl⟩
  | some h =>
    cases marked : w.busy a.system with
    | true =>
      rw [Records, dispatchWith_of_busy installed marked]
      have refused : (w.dispatcher a.system).handler ≠ none := by
        rw [installed]
        exact Option.some_ne_none h
      exact ⟨.single rfl ⟨refused, marked⟩, rfl⟩
    | false =>
      obtain ⟨⟨inner, reached⟩, same⟩ := runs h marked
      rw [Records, dispatchWith_of_idle installed marked]
      refine ⟨.call ⟨installed, marked, rfl⟩ inner ?_ (.nil _), ?_⟩
      · exact same.symm.trans (Prod.ext rfl reached.symm)
      · show ((w.after (.enter a (w.invocation a h) :: _ ++ [_])) = _)
        rw [after_append, after_cons]
        exact congrArg (unmark · a.system) reached

variable {deliver : SystemId n → Cause → Word → Run H n κ Word}
  {acts : Arrival n → World H n κ → List (Act n κ)} {depth : Nat}

theorem records_simulateActs
    (records : ∀ a (v : World H n κ), v.idle ≤ depth →
      Records handlers v (acts a v) (deliver a.system a.cause a.frame))
    (frame : Word) {w : World H n κ} (enough : w.idle ≤ depth) :
    Records handlers w (simulateActs deliver acts frame w) (simulateTrapWith deliver frame) := by
  by_cases h : frame = 0
  · subst h
    exact ⟨.single rfl trivial, rfl⟩
  · have taken : (w.takeTrap .global frame).idle ≤ depth := by
      rwa [idle_congr fun s => busy_takeTrap w .global s frame]
    rw [Records, simulateActs, if_neg h, runFrom_simulateTrapWith deliver w h]
    dsimp only
    have inner :=
      records ⟨.global, ((w.takeTrap .global frame).context frame).cause, frame⟩ _ taken
    revert inner
    generalize ((w.takeTrap .global frame).context frame).cause = cause
    rintro ⟨trail, reached⟩
    have taking : (Act.take frame : Act n κ).Lawful w [] := h
    dsimp only at reached
    generalize (deliver .global cause frame).runFrom (w.takeTrap .global frame) = r at reached ⊢
    obtain ⟨e | next, u⟩ := r
    · rw [List.append_nil]
      exact ⟨.step rfl taking trail, reached⟩
    · by_cases hn : next = 0
      · simp only [if_pos hn, List.append_nil]
        exact ⟨.step rfl taking trail, reached⟩
      · simp only [if_neg hn]
        refine ⟨.step rfl taking (trail.append (.single rfl hn)), ?_⟩
        rw [List.cons_append, after_cons, after_append]
        exact congrArg (returnFromTrap · .global next) reached

theorem records_requestActs
    (records : ∀ a (v : World H n κ), v.idle ≤ depth →
      Records handlers v (acts a v) (deliver a.system a.cause a.frame))
    (r : Request n κ) {w : World H n κ} (enough : w.idle ≤ depth) :
    Records handlers w (requestActs deliver acts r w) (answerWith deliver r) := by
  by_cases quiet : r.deliversTrap = false
  · rw [Records, requestActs_of_quiet quiet,
      answerWith_of_quiet quiet deliver fun _ _ _ => throw .nestingExhausted]
    exact ⟨.single rfl quiet, rfl⟩
  · cases r with
    | dispatch s cause frame => exact records ⟨s, cause, frame⟩ w enough
    | handle s frame =>
      by_cases h : frame = 0
      · subst h
        exact ⟨.single rfl trivial, rfl⟩
      · show Records handlers w (if frame = 0 then _ else _) (handleWith deliver s frame)
        rw [if_neg h, Records, runFrom_handleWith deliver w s h]
        exact records ⟨s, (w.context frame).cause, frame⟩ w enough
    | simulateTrap frame => exact records_simulateActs records frame enough
    | yieldNow =>
      obtain ⟨trail, reached⟩ := records_simulateActs records w.yieldFrame
        (w := w.pushed w.yieldFrame w.yieldContext) enough
      show Trail handlers w (.push w.yieldFrame w.yieldContext :: _ ++ [.pop w.stack]) ∧
        w.after (.push w.yieldFrame w.yieldContext :: _ ++ [.pop w.stack]) =
          ((yieldWith deliver).runFrom w).2
      rw [runFrom_yieldWith, after_append, after_cons]
      refine ⟨.step rfl ⟨rfl, rfl⟩ (trail.append (.single rfl trivial)), ?_⟩
      exact congrArg (fun v : World H n κ => { v with stack := w.stack }) reached
    | _ => exact absurd rfl quiet

theorem records_scriptActs {answer : (r : Request n κ) → Run H n κ r.Answer}
    {acts : Request n κ → World H n κ → List (Act n κ)} (keeps : ∀ r, KeepsMarks (answer r))
    (records : ∀ r (v : World H n κ), v.idle ≤ depth → Records handlers v (acts r v) (answer r))
    (p : Script n κ α) {w : World H n κ} (enough : w.idle ≤ depth) :
    Records handlers w (scriptActs answer acts p w) (p.run answer) := by
  induction p generalizing w with
  | done a => exact ⟨.nil w, rfl⟩
  | fail e => exact ⟨.nil w, rfl⟩
  | ask r next ih =>
    obtain ⟨trail, reached⟩ := records r w enough
    have kept := idle_congr (keeps r w)
    rw [Records, scriptActs, Program.run_ask, Attempt.runFrom_bind]
    generalize (answer r).runFrom w = result at reached kept ⊢
    obtain ⟨e | x, v⟩ := result
    · rw [List.append_nil]
      exact ⟨trail, reached⟩
    · obtain ⟨rest, ended⟩ := ih x (kept.trans_le enough)
      dsimp only at reached
      subst reached
      refine ⟨trail.append rest, ?_⟩
      rw [after_append]
      exact ended

end Records

theorem records_arrivalActs (handlers : Handlers n κ) {depth : Nat} (a : Arrival n)
    {w : World H n κ} (enough : w.idle ≤ depth) :
    Records handlers w (arrivalActs handlers depth a w)
      (deliver handlers depth a.system a.cause a.frame) := by
  -- behind a call one dispatcher more is busy, so one level less is enough
  induction depth generalizing a w with
  | zero =>
    refine records_dispatchActs fun h unmarked => ?_
    have := idle_opening_lt unmarked h a.cause a.frame
    omega
  | succ depth ih =>
    refine records_dispatchActs fun h unmarked => ?_
    have fewer := idle_opening_lt unmarked h a.cause a.frame
    have left : (w.opening a.system h a.cause a.frame).2.idle ≤ depth := by omega
    have keeps : ∀ r : Request n κ, KeepsMarks (H := H) (answerWith (deliver handlers depth) r) :=
      keepsMarks_answerWith (keepsMarks_deliver handlers depth)
    refine ⟨records_scriptActs keeps (fun r _ enough => ?_) _ left,
      run_deliver_eq_exec handlers left _⟩
    exact records_requestActs (fun a _ enough => ih a enough) r enough

/-- What happens at a request is a trail of its answer. -/
theorem records_answer (handlers : Handlers n κ) (r : Request n κ) (w : World H n κ) :
    Records handlers w
      (requestActs (deliver handlers (n + 1)) (arrivalActs handlers (n + 1)) r w)
      (answer handlers r) :=
  records_requestActs (fun a _ enough => records_arrivalActs handlers a enough) r (idle_le w)

/-- A history is a trail from the state in which it begins to the one in which the requests end. -/
theorem trail_history (handlers : Handlers n κ) (rs : List (Request n κ)) (w : World H n κ) :
    Trail handlers w (history handlers rs w) ∧
      w.after (history handlers rs w) = perform handlers rs w := by
  induction rs generalizing w with
  | nil => exact ⟨.nil w, rfl⟩
  | cons r rs ih =>
    obtain ⟨first, reached⟩ := records_answer handlers r w
    obtain ⟨rest, ended⟩ := ih ((answer handlers r).runFrom w).2
    rw [history, perform, after_append, reached]
    refine ⟨first.append ?_, ended⟩
    rw [reached]
    exact rest

theorem perform_append (handlers : Handlers n κ) (first second : List (Request n κ))
    (w : World H n κ) :
    perform handlers (first ++ second) w = perform handlers second (perform handlers first w) := by
  induction first generalizing w with
  | nil => rfl
  | cons r first ih => exact ih _

theorem history_append (handlers : Handlers n κ) (first second : List (Request n κ))
    (w : World H n κ) :
    history handlers (first ++ second) w =
      history handlers first w ++ history handlers second (perform handlers first w) := by
  induction first generalizing w with
  | nil => rfl
  | cons r first ih =>
    rw [List.cons_append, history, ih, history, perform, List.append_assoc]

theorem history_prefix_of_prefix (handlers : Handlers n κ) {first rs : List (Request n κ)}
    (hp : first <+: rs) (w : World H n κ) :
    history handlers first w <+: history handlers rs w := by
  obtain ⟨second, rfl⟩ := hp
  rw [history_append]
  exact List.prefix_append _ _

/-! ## The acts of a trail, one by one -/

omit [Hart H] in
theorem lawful_of_not_isBracket {x : Act n κ} (h : x.isBracket = false) {w : World H n κ}
    {calls : List (Invocation n)} (lawful : x.Lawful w calls) (others : List (Invocation n)) :
    x.Lawful w others := by
  cases x with
  | enter _ _ => cases h
  | leave _ _ _ => cases h
  | _ => exact lawful

/-- Each act of a list happens in a state that allows it. -/
def LawfulFrom : World H n κ → List (Invocation n) → List (Act n κ) → Prop
  | _, _, [] => True
  | w, calls, x :: rest => x.Lawful w calls ∧ LawfulFrom (x.effect w) (x.onCalls calls) rest

theorem lawfulFrom_append {w : World H n κ} {calls : List (Invocation n)}
    {first second : List (Act n κ)} :
    LawfulFrom w calls (first ++ second) ↔
      LawfulFrom w calls first ∧
        LawfulFrom (w.after first) (Act.callsAfter calls first) second := by
  induction first generalizing w calls with
  | nil => simp [LawfulFrom]
  | cons x first ih => simp only [List.cons_append, LawfulFrom, ih, and_assoc, after_cons,
      Act.callsAfter_cons]

namespace LawfulFrom

variable {w : World H n κ} {calls : List (Invocation n)} {pre post acts : List (Act n κ)}

theorem before (h : LawfulFrom w calls (pre ++ post)) : LawfulFrom w calls pre :=
  (lawfulFrom_append.mp h).1

theorem upTo (h : LawfulFrom w calls acts) (hp : pre <+: acts) : LawfulFrom w calls pre := by
  obtain ⟨post, rfl⟩ := hp
  exact h.before

theorem act {x : Act n κ} (h : LawfulFrom w calls (pre ++ x :: post)) :
    x.Lawful (w.after pre) (Act.callsAfter calls pre) :=
  (lawfulFrom_append.mp h).2.1

/-- What every lawful act keeps is kept. -/
theorem invariant {P : World H n κ → List (Invocation n) → Prop}
    (step : ∀ w calls (x : Act n κ), x.Lawful w calls → P w calls →
      P (x.effect w) (x.onCalls calls))
    (h : LawfulFrom w calls acts) (start : P w calls) :
    P (w.after acts) (Act.callsAfter calls acts) := by
  induction acts generalizing w calls with
  | nil => exact start
  | cons x acts ih => exact ih h.2 (step w calls x h.1 start)

end LawfulFrom

namespace Trail

variable {handlers : Handlers n κ} {w : World H n κ} {acts pre post : List (Act n κ)}

/-- A trail leaves the calls in progress as they were. -/
theorem callsAfter (h : Trail handlers w acts) (calls : List (Invocation n)) :
    Act.callsAfter calls acts = calls := by
  induction h generalizing calls with
  | nil _ => rfl
  | step unbracketed _ _ ih =>
    rw [Act.callsAfter_cons, Act.onCalls_of_not_isBracket unbracketed, ih]
  | call _ _ _ _ inner outer =>
    rw [Act.callsAfter_append, Act.callsAfter_cons, Act.callsAfter_cons, inner, outer]
    rfl

/-- The calls in progress somewhere in a trail are those that were in progress before it, below
those that the trail has begun. -/
theorem callsAfter_of_prefix (h : Trail handlers w acts) (hp : pre <+: acts)
    (calls : List (Invocation n)) : ∃ more, Act.callsAfter calls pre = more ++ calls := by
  induction h generalizing pre calls with
  | nil _ =>
    obtain rfl := List.prefix_nil.mp hp
    exact ⟨[], rfl⟩
  | step unbracketed _ _ ih =>
    obtain rfl | ⟨tail, rfl, hp'⟩ := List.prefix_cons_iff.mp hp
    · exact ⟨[], rfl⟩
    · rw [Act.callsAfter_cons, Act.onCalls_of_not_isBracket unbracketed]
      exact ih hp' calls
  | @call w a call inside rest returned _ trail _ _ inner outer =>
    rw [List.cons_append] at hp
    obtain rfl | ⟨tail, rfl, post, split⟩ := List.prefix_cons_iff.mp hp
    · exact ⟨[], rfl⟩
    · rw [Act.callsAfter_cons]
      -- the list ends inside the call or behind its end
      obtain ⟨mid, rfl, -⟩ | ⟨mid, rfl, behind⟩ := List.append_eq_append_iff.mp split
      · obtain ⟨more, e⟩ := inner (List.prefix_append tail mid) (call :: calls)
        exact ⟨more ++ [call], by rw [List.append_assoc]; exact e⟩
      · rw [Act.callsAfter_append, Act.onCalls, trail.callsAfter]
        cases mid with
        | nil => exact ⟨[call], rfl⟩
        | cons y mid =>
          obtain ⟨rfl, rfl⟩ := List.cons.inj behind
          exact outer (List.prefix_append mid post) calls

theorem lawfulFrom (h : Trail handlers w acts) (calls : List (Invocation n)) :
    LawfulFrom w calls acts := by
  induction h generalizing calls with
  | nil _ => trivial
  | step unbracketed lawful _ ih =>
    exact ⟨lawful_of_not_isBracket unbracketed lawful calls, ih _⟩
  | call entered inside _ _ inner outer =>
    refine lawfulFrom_append.mpr ⟨⟨entered, inner _⟩, ?_, ?_⟩
    · rw [Act.callsAfter_cons, inside.callsAfter]
      exact ⟨rfl, rfl⟩
    · rw [after_cons]
      exact outer _

/-- Behind the beginning of a call comes what its handler does, and then the end of the call. -/
theorem call_of_split {a : Arrival n} {call : Invocation n} (h : Trail handlers w acts)
    (split : acts = pre ++ .enter a call :: post) :
    ∃ inside returned rest,
      post = inside ++ .leave call returned (verdict call.event returned) :: rest ∧
      Trail handlers (w.after (pre ++ [.enter a call])) inside ∧
      (exec handlers (handlers call.handler call.event call.frame)).runFrom
          (w.after (pre ++ [.enter a call])) =
        (returned, w.after (pre ++ .enter a call :: inside)) := by
  induction h generalizing pre post with
  | nil _ => exact absurd split (by simp)
  | step unbracketed _ _ ih =>
    cases pre with
    | nil =>
      obtain ⟨rfl, -⟩ := List.cons.inj split
      cases unbracketed
    | cons y pre =>
      obtain ⟨rfl, split'⟩ := List.cons.inj split
      exact ih split'
  | @call w b outer inside rest returned _ inner runs _ ihInner ihOuter =>
    cases pre with
    | nil =>
      obtain ⟨entered, rfl⟩ := List.cons.inj split
      cases entered
      exact ⟨inside, returned, rest, rfl, inner, runs⟩
    | cons y pre =>
      obtain ⟨rfl, split'⟩ := List.cons.inj split
      -- the call begins behind the end of this one, or inside it
      obtain ⟨mid, rfl, tail⟩ | ⟨mid, rfl, tail⟩ := List.append_eq_append_iff.mp split'
      · cases mid with
        | nil => cases tail
        | cons z mid =>
          obtain ⟨rfl, tail'⟩ := List.cons.inj tail
          obtain ⟨inside', returned', rest', rfl, inner', runs'⟩ := ihOuter tail'
          refine ⟨inside', returned', rest', rfl, ?_, ?_⟩
          · simpa [Act.effect] using inner'
          · simpa [Act.effect] using runs'
      · cases mid with
        | nil => cases tail
        | cons z mid =>
          obtain ⟨rfl, rfl⟩ := List.cons.inj tail
          obtain ⟨inside', returned', rest', rfl, inner', runs'⟩ := ihInner rfl
          refine ⟨inside', returned',
            rest' ++ .leave outer returned (verdict outer.event returned) :: rest, ?_, inner',
            runs'⟩
          exact List.append_assoc _ _ _

end Trail

end World

end HartLayer
