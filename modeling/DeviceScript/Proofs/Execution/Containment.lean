import DeviceScript.Proofs.Execution.Nesting
import DeviceScript.Proofs.Execution.Reporting

/-!
# Signals stay inside their construct

A break and a continue end whatever is being visited, up to the construct that catches them. They
are sent by the statements of that name only, and they pass through two constructs: a branch passes
on what a statement of the body sends that it has chosen, and a call of a function passes on a
continue, but no break, that a statement of its body sends (`Sends`).

Main statement: as long as the script is not asked to stop, this is all (`signals_contained`). All
other statements visit formulas before they do anything else, and formulas send no signal and leave
the state as it is. So a script whose breaks are all inside of loops and functions is never cut
short by one of them.
-/

namespace DeviceScript.Execution

open Exec List Script

variable {t : Tree Value} {interrupt : Interrupt} {start : Visit}

/-! ## Computations that send no signal -/

/-- From the given state the computation sends no signal. -/
def Quiet {α : Type} (exec : Exec α) (m : Machine) : Prop :=
  ∀ w i, (exec.perform m w).1.1 = .error i → i.isSignal = false

namespace Quiet

variable {α β : Type} {m : Machine}

theorem of_avoids {exec : Exec α} (leave : Avoids .leave exec) (skip : Avoids .skip exec) :
    Quiet exec m := by
  intro w i ended
  cases i with
  | leave => exact absurd ended (avoids_iff.mp leave m w)
  | skip => exact absurd ended (avoids_iff.mp skip m w)
  | failed | exhausted => rfl

theorem modest {exec : Exec α} (modest : Modest True exec) : Quiet exec m :=
  of_avoids (Avoids.modest rfl modest) (Avoids.modest rfl modest)

/-- What is silent may come first. -/
theorem after {first : Exec α} {f : α → Exec β} (before : Silent first m)
    (rest : ∀ v, Quiet (f v) m) : Quiet (first >>= f) m := by
  intro w i ended
  obtain ⟨o, w', reached, quiet⟩ := before.perform w
  rcases o with _ | v
  · rw [perform_bind_error reached] at ended
    cases ended
    exact quiet i rfl
  · rw [perform_bind_ok reached] at ended
    exact rest v w' i ended

end Quiet

def isLoop : Tree Value → Bool
  | .loop .. => true
  | .whileLoop .. => true
  | .each .. => true
  | _ => false

def isBranch : Tree Value → Bool
  | .branch .. => true
  | _ => false

/-! ## Formulas in a row -/

section Silence

variable {host : Host} {most d : Nat} {site : Site} {part index : Nat}
variable {trees : List (Tree Value)} {m : Machine} (running : m.stopped = false)

include running

theorem silent_visitAll (formulas : ∀ t ∈ trees, t.IsFormula) :
    Silent (visitAll (visitWithin host most d) site part index trees) m := by
  induction trees generalizing index with
  | nil => exact .pure rfl
  | cons _ _ ih =>
    rw [forall_mem_cons] at formulas
    exact .andThen (silent_visitWithin formulas.1 host most d _ running) fun _ =>
      .andThen (ih formulas.2) fun _ => .pure rfl

theorem silent_nestedItems (entries : ∀ t ∈ trees, t.IsEntry) :
    Silent (nestedItems (visitWithin host most d) site index trees) m := by
  fun_induction nestedItems (visitWithin host most d) site index trees with
  | case1 => exact .pure rfl
  | case2 _ _ inner _ innerHypothesis ih =>
    rw [forall_mem_cons] at entries
    have inInner : ∀ t ∈ inner, t.IsEntry := by
      cases entries.1 with
      | formula isFormula => cases isFormula
      | list inItems => exact inItems
    exact .andThen (innerHypothesis inInner) fun _ => .andThen (ih entries.2) fun _ => .pure rfl
  | case3 _ _ t _ notList ih =>
    rw [forall_mem_cons] at entries
    have isFormula : t.IsFormula := by
      cases entries.1 with
      | formula isFormula => exact isFormula
      | list => exact absurd rfl (notList _)
    exact .andThen (silent_visitWithin isFormula host most d _ running) fun _ =>
      .andThen (ih entries.2) fun _ => .pure rfl

theorem silent_chooseBranch {chosen : Nat × List (Tree Value)}
    {alts : List (Tree Value × List (Tree Value))}
    (formulas : ∀ alternative ∈ alts, alternative.1.IsFormula) :
    Silent (chooseBranch (visitWithin host most d) site chosen index alts) m := by
  induction alts generalizing index with
  | nil => exact .pure rfl
  | cons _ _ ih =>
    rw [forall_mem_cons] at formulas
    refine .andThen (silent_visitWithin formulas.1 host most d _ running) fun v => ?_
    split
    · exact .pure rfl
    · exact ih formulas.2

/-! ## Statements that send no signal -/

theorem quiet_callOperation (x : String) (formulas : ∀ t ∈ trees, t.IsFormula) :
    Quiet (callOperation host (visitWithin host most d) site x trees) m := by
  refine .after (.ofAct (fun _ => rfl) _) fun operation => ?_
  split
  · refine .after (silent_visitAll running formulas) fun vs => .modest (.guarded _ ?_)
    exact .bind (.ofAct _) fun _ => .bind (.ofExcept _) fun _ =>
      .bind (modest_writeTips _ _) fun _ => .pure _
  · exact .modest (.bind (.log _ _) fun _ => .pure _)

theorem quiet_callForResults (x : String) {source : Tree Value}
    (formulas : ∀ t ∈ argumentsOf source, t.IsFormula) :
    Quiet (callForResults host (visitWithin host most d) site x source) m := by
  refine .after (.ofAct (fun _ => rfl) _) fun names => ?_
  rcases called : calleeOf source with e | ⟨_, _⟩
  · exact .modest (.fail e)
  · rw [argumentsOf, called] at formulas
    rw [Exec.ofExcept, pure_bind]
    refine .after (.ofAct (fun _ => rfl) _) fun operation => ?_
    split
    · refine .after (silent_visitAll running formulas) fun vs => .modest (.guarded _ ?_)
      exact .bind (.ofAct _) fun _ => modest_keepResults trivial _ _ _
    · exact .modest (.bind (.log _ _) fun _ => .pure _)

theorem quiet_step_gather (x : String) {elements source : Tree Value} (entry : elements.IsEntry)
    (formulas : ∀ t ∈ argumentsOf source, t.IsFormula) :
    Quiet (step host (visitWithin host most d) most site (.gather x elements source)) m := by
  have kept : ∀ v, Quiet (do modify fun m => m.write x v; return v :
      Exec Value) m := fun v => .modest (.bind (.write trivial _ _) fun _ => .pure _)
  rw [step]
  split
  · cases entry with
    | formula isFormula =>
      have silent := silent_visitWithin isFormula host most d ((0, 0) :: site) running
      cases isFormula <;> exact .after silent kept
    | list inItems =>
      refine .after (silent_nestedItems running inItems) fun vs => ?_
      exact .after (.visit running running fun _ => .pure rfl) kept
  · exact quiet_callForResults running x formulas

/-- A visited tree that is no loop, no branch and no signal sends no signal, unless it calls a
function of the script. -/
theorem quiet_step (visited : Visited t)
    (other : isLoop t = false ∧ isBranch t = false ∧ t ≠ .leave ∧ t ≠ .skip)
    (uncalled : ∀ x args, t = .call x args → m.functions.lookup x = none) :
    Quiet (step host (visitWithin host most d) most site t) m := by
  rcases visited with produced | entry | ⟨_, rfl⟩
  · cases produced with
    | loop | whileLoop | each => cases other.1
    | branch => cases other.2.1
    | leave => exact absurd rfl other.2.2.1
    | skip => exact absurd rfl other.2.2.2
    | missing => exact .modest (.pure _)
    | title =>
      rw [step]
      exact .modest (.ofAct _)
    | assign _ isValue =>
      refine .after (silent_visitWithin isValue host most d _ running) fun _ => .modest ?_
      exact .bind (.write trivial _ _) fun _ => .pure _
    | gatherList x inItems =>
      exact quiet_step_gather running x (.list inItems) (forall_mem_nil _)
    | gatherCall x _ inArguments =>
      exact quiet_step_gather running x (.list (forall_mem_nil _)) inArguments
    | gatherValue x isValue =>
      exact quiet_step_gather running x (.formula isValue) (forall_mem_nil _)
    | print isValue =>
      refine .after (silent_visitWithin isValue host most d _ running) fun _ => .modest ?_
      exact .bind (modest_printed _) fun _ => .bind (modest_hostWrite _ _) fun _ =>
        .bind (.log _ _) fun _ => .pure _
    | sleep isDuration =>
      refine .after (silent_visitWithin isDuration host most d _ running) fun _ => .modest ?_
      exact .bind (.ofExcept _) fun _ => .bind (.log _ _) fun _ => .bind (.ofExcept _) fun _ =>
        .bind (modest_wait _ _) fun _ => .pure _
    | function =>
      exact .of_avoids (.andThen (avoids_modify _) fun _ => Avoids.modest rfl (.ofAct _))
        (.andThen (avoids_modify _) fun _ => Avoids.modest rfl (.ofAct _))
    | call x inArguments =>
      intro w i
      rw [step, perform_get_bind, uncalled x _ rfl]
      exact quiet_callOperation running x inArguments w i
  · cases entry with
    | formula isFormula =>
      intro w i ended
      obtain ⟨o, w', reached, quiet⟩ :=
        (silent_visitWithin isFormula host most (d + 1) site running).perform w
      rw [visitWithin, perform_unlessStopped_of_running running] at reached
      rw [reached] at ended
      exact quiet i ended
    | list =>
      rw [step]
      exact .modest (.ofAct _)
  · exact .modest (.pure _)

end Silence

/-! ## Loops -/

section Loops

variable {host : Host} {most d : Nat} {site : Site}

/-- Whether the script is asked to stop or not, a formula sends no continue. -/
theorem avoids_skip_of_formula (formula : t.IsFormula) :
    Avoids .skip (visitWithin host most d site t) := by
  rw [avoids_iff]
  intro m w ended
  cases stopped : m.stopped with
  | false =>
    obtain ⟨o, w', reached, quiet⟩ :=
      (silent_visitWithin formula host most d site stopped).perform w
    rw [reached] at ended
    cases quiet .skip ended
  | true =>
    cases d with
    | zero => cases ended
    | succ =>
      rw [visitWithin, perform_unlessStopped_of_stopped stopped] at ended
      cases ended

/-- A loop catches every signal of its rounds, and its head sends none. -/
theorem quiet_step_of_isLoop (visited : Visited t) (loop : isLoop t = true) {m : Machine}
    (running : m.stopped = false) : Quiet (step host (visitWithin host most d) most site t) m := by
  have again : ∀ body, Avoids .skip (runRound (visitWithin host most d) site 1 0 body) :=
    fun body => avoids_skip_runRound _ _ _ _ body
  rcases visited with produced | entry | ⟨_, rfl⟩
  · cases produced with
    | loop isCount =>
      refine .of_avoids (.andThen (avoids_caught _) fun _ => .pure rfl) ?_
      refine .andThen (.catching ?_) fun _ => .pure rfl
      exact .andThen (avoids_skip_of_formula isCount) fun _ =>
        .andThen (Avoids.modest rfl (.ofExcept _)) fun _ =>
          times_related congruent_avoiding_skip (again _) _
    | whileLoop isCondition =>
      refine .of_avoids (.andThen (avoids_caught _) fun _ => .pure rfl) ?_
      refine .andThen (.catching ?_) fun _ => .pure rfl
      exact rounds_related congruent_avoiding_skip (.throw (by rintro ⟨⟩))
        (avoids_skip_of_formula isCondition) (again _) most
    | @each x xs body isItems =>
      intro w _ ended
      rw [perform_step_each] at ended
      rcases reached : (loopOver (visitWithin host most d) site xs body).perform
        (m.enterLoop site x) w with ⟨⟨_ | _, _⟩, _⟩
      · rw [perform_bind_error reached] at ended
        cases ended
        have entered : (m.enterLoop site x).stopped = false := running
        exact not_isSignal_loopOver isItems entered (congrArg (fun result => result.1.1) reached)
      · rw [perform_bind_ok reached] at ended
        cases ended
    | _ => cases loop
  · cases entry with
    | formula isFormula => cases isFormula <;> cases loop
    | list => cases loop
  · cases loop

end Loops

/-! ## Where signals pass through -/

def Visit.EndsWith (host : Host) (most : Nat) (start : Visit) (i : Interrupt) : Prop :=
  (start.perform host most).1.1 = .error i

/-- The first visit is that of a call of a function of the script, and it comes to the second one,
which is that of a statement in the body of the function. -/
inductive Activates (host : Host) (most : Nat) : Visit → Visit → Prop
  | call {depth : Nat} {site : Site} {name : String} {args : List (Tree Value)}
      {routine : Routine} {locals : Bindings} {front rest : List (Tree Value)}
      {t : Tree Value} {m m' : Machine} {w w' : World} :
      m.stopped = false →
      m.functions.lookup name = some routine →
      routine.parameters.length = args.length →
      bindArguments m w.serials routine.parameters args routine.locals = .ok locals →
      routine.body = front ++ t :: rest →
      (runBody (visitWithin host most depth) [] 1 0 front).perform
        (m.enterFrame routine.name locals)
        { w with serials := w.serials + args.length } = ((.ok (), m'), w') →
        Activates host most ⟨depth + 1, site, .call name args, m, w⟩
          ⟨depth, [(1, front.length)], t, m', w'⟩

/-- What a signal comes from: a break or a continue, a statement in the body that a branch has
chosen, or a statement in the body of a function, if it is a continue. -/
inductive Sends (host : Host) (most : Nat) : Visit → Interrupt → Prop
  | leave (depth : Nat) (site : Site) (m : Machine) (w : World) :
      Sends host most ⟨depth + 1, site, .leave, m, w⟩ .leave
  | skip (depth : Nat) (site : Site) (m : Machine) (w : World) :
      Sends host most ⟨depth + 1, site, .skip, m, w⟩ .skip
  | branch {start next : Visit} {signal : Interrupt} (branch : isBranch start.tree = true)
      (enters : Enters host most start none next) (ends : next.EndsWith host most signal) :
      Sends host most start signal
  | call {start next : Visit} (activates : Activates host most start next)
      (ends : next.EndsWith host most .skip) : Sends host most start .skip

/-- A body is interrupted by one of its statements, after those in front of it have ended. -/
theorem exists_of_runBody_error {visit : Visitor} {site : Site} {part i : Nat}
    {ts : List (Tree Value)} {m m' : Machine} {w w' : World}
    (ended : (runBody visit site part i ts).perform m w = ((.error interrupt, m'), w')) :
    ∃ front s rest m'' w'', ts = front ++ s :: rest ∧
      (runBody visit site part i front).perform m w = ((.ok (), m''), w'') ∧
      (visit ((part, i + front.length) :: site) s).perform m'' w'' =
        ((.error interrupt, m'), w') := by
  induction ts generalizing i m w with
  | nil => cases ended
  | cons t ts ih =>
    rw [runBody] at ended
    rcases reached : (visit ((part, i) :: site) t).perform m w with
      ⟨⟨other | v, m''⟩, w'''⟩
    · rw [perform_bind_error reached] at ended
      cases ended
      exact ⟨[], t, ts, m, w, rfl, rfl, reached⟩
    · rw [perform_bind_ok reached] at ended
      obtain ⟨front, s, rest, m''', w'', rfl, passed, ended⟩ := ih ended
      refine ⟨t :: front, s, rest, m''', w'', rfl, ?_, ?_⟩
      · rw [runBody, perform_bind_ok reached]
        exact passed
      · rw [length_cons, Nat.add_left_comm, Nat.add_comm front.length]
        exact ended

section Passing

variable {host : Host} {most : Nat}

theorem Visit.EndsWith.exists (ends : start.EndsWith host most interrupt) :
    ∃ m w, start.perform host most = ((.error interrupt, m), w) := by
  rcases reached : start.perform host most with ⟨⟨_, m⟩, w⟩
  rw [EndsWith, reached] at ends
  exact ⟨m, w, by rw [← ends]⟩

theorem Visit.EndsWith.of_perform {m : Machine}
    {w : World} (reached : start.perform host most = ((.error interrupt, m), w)) :
    start.EndsWith host most interrupt := by
  rw [EndsWith, reached]

theorem perform_callFunction {visit : Visitor} {routine : Routine} (x : String)
    {args : List (Tree Value)}
    (arity : routine.parameters.length = args.length) (m : Machine) (w : World) :
    (callFunction visit routine x args).perform m w =
      (do
        let locals ← Exec.ofExcept
          (bindArguments m w.serials routine.parameters args routine.locals)
        runActivation visit routine x locals).perform m
          { w with serials := w.serials + args.length } := by
  rw [callFunction, perform_get_bind, if_neg (fun other => other arity)]
  rfl

/-- A branch and a call pass a signal on. -/
theorem Sends.endsWith {signal : Interrupt} (sends : Sends host most start signal)
    (running : start.machine.stopped = false) : start.EndsWith host most signal := by
  cases sends with
  | leave | skip =>
    rw [Visit.EndsWith, Visit.perform, visitWithin, perform_unlessStopped_of_running running]
    rfl
  | branch branch enters ends =>
    obtain ⟨m', w', ended⟩ := ends.exists
    cases enters with
    | branch _ decided chose before =>
      rw [Visit.EndsWith, Visit.perform, visitWithin, perform_unlessStopped_of_running running,
        step, perform_bind_ok decided, perform_bind_ok chose,
        perform_bind_error (perform_runBody_of_error before ended)]
    | round _ _ starts => cases starts <;> cases branch
  | call activates ends =>
    obtain ⟨m', w', ended⟩ := ends.exists
    cases activates with
    | @call d _ x args routine locals front rest s m _ w _ _ known
        arity binds body before =>
      have other : Interrupt.skip ≠ .leave := by decide
      rw [Visit.EndsWith, Visit.perform, visitWithin, perform_unlessStopped_of_running running,
        step, perform_get_bind, known]
      rw [perform_callFunction x arity, binds, Exec.ofExcept, pure_bind, perform_runActivation,
        body, perform_runBody_of_error before ended, concluded_of_error x other]

variable {d : Nat} {site : Site} {m : Machine} {w : World} {signal : Interrupt}

/-- The conditions of a branch send no signal, so what it sends comes from the chosen body. -/
theorem sends_of_branch {c : Tree Value} {body otherwise : List (Tree Value)}
    {alts : List (Tree Value × List (Tree Value))}
    (produced : (Script.Tree.branch c body alts otherwise).IsProduced)
    (running : m.stopped = false) (isSignal : signal.isSignal = true)
    (ended : ((step host (visitWithin host most d) most site
      (.branch c body alts otherwise)).perform m w).1.1 = .error signal) :
    Sends host most ⟨d + 1, site, .branch c body alts otherwise, m, w⟩
      signal := by
  cases produced with
  | branch isCondition _ conditions =>
    obtain ⟨decision, w₁, decided, quiet⟩ :=
      (silent_visitWithin isCondition host most d ((0, 0) :: site) running).perform w
    rcases decision with other | _
    · rw [step, perform_bind_error decided] at ended
      cases ended
      cases (quiet signal rfl).symm.trans isSignal
    · rw [step, perform_bind_ok decided] at ended
      obtain ⟨choice, w₂, chose, quiet⟩ :=
        (silent_chooseBranch running conditions).perform w₁
      rcases choice with other | ⟨part, chosen⟩
      · rw [perform_bind_error chose] at ended
        cases ended
        cases (quiet signal rfl).symm.trans isSignal
      · rw [perform_bind_ok chose] at ended
        rcases reached : (runBody (visitWithin host most d) site part 0 chosen).perform m
          w₂ with ⟨⟨other | ⟨⟩, _⟩, _⟩
        · rw [perform_bind_error reached] at ended
          cases ended
          obtain ⟨front, s, rest, m', w₃, rfl, before, failed⟩ :=
            exists_of_runBody_error reached
          rw [Nat.zero_add] at failed
          exact .branch rfl (.branch running decided chose before) (.of_perform failed)
        · rw [perform_bind_ok reached] at ended
          cases ended

/-- What a function of the script sends is a continue, and it comes from its body. -/
theorem sends_of_callFunction {x : String} {args : List (Tree Value)}
    {routine : Routine} (running : m.stopped = false)
    (known : m.functions.lookup x = some routine) (isSignal : signal.isSignal = true)
    (ended : ((callFunction (visitWithin host most d) routine x args).perform m
      w).1.1 = .error signal) :
    Sends host most ⟨d + 1, site, .call x args, m, w⟩ signal := by
  by_cases arity : routine.parameters.length = args.length
  · rw [perform_callFunction x arity] at ended
    cases binds : bindArguments m w.serials routine.parameters args
      routine.locals with
    | error =>
      rw [binds] at ended
      cases ended
      cases isSignal
    | ok locals =>
      rw [binds, Exec.ofExcept, pure_bind, perform_runActivation] at ended
      rcases reached : (runBody (visitWithin host most d) [] 1 0 routine.body).perform
        (m.enterFrame routine.name locals)
        { w with serials := w.serials + args.length } with ⟨⟨o, _⟩, _⟩
      rw [reached] at ended
      rcases ended_or_interrupted o with done | ⟨_, other, rfl⟩
      · obtain ⟨_, performed⟩ := concluded_of_ended x done
        rw [performed] at ended
        cases ended
      · rw [concluded_of_error x other] at ended
        cases ended
        obtain ⟨front, s, rest, m', w', body, before, failed⟩ :=
          exists_of_runBody_error reached
        rw [Nat.zero_add] at failed
        cases signal with
        | leave => exact absurd rfl other
        | failed | exhausted => cases isSignal
        | skip => exact .call (.call running known arity binds body before) (.of_perform failed)
  · rw [callFunction, perform_get_bind, if_pos arity] at ended
    cases ended
    cases isSignal

/-- A visit that ends with a signal has got it from one of the places where signals come from. -/
theorem sends_of_endsWith (visited : Visited t)
    (running : m.stopped = false) (isSignal : signal.isSignal = true)
    (ended : Visit.EndsWith host most ⟨d + 1, site, t, m, w⟩ signal) :
    Sends host most ⟨d + 1, site, t, m, w⟩ signal := by
  have stepped : ((step host (visitWithin host most d) most site t).perform m
      w).1.1 = .error signal := by
    rw [← perform_unlessStopped_of_running running]
    exact ended
  have absurd_of_quiet (quiet : Quiet (step host (visitWithin host most d) most site t)
      m) : Sends host most ⟨d + 1, site, t, m, w⟩ signal := by
    cases (quiet w signal stepped).symm.trans isSignal
  cases t with
  | leave =>
    cases stepped
    exact .leave d site m w
  | skip =>
    cases stepped
    exact .skip d site m w
  | loop | whileLoop | each => exact absurd_of_quiet (quiet_step_of_isLoop visited rfl running)
  | branch =>
    rcases visited with produced | entry | ⟨_, ⟨⟩⟩
    · exact sends_of_branch produced running isSignal stepped
    · cases entry with
      | formula isFormula => cases isFormula
  | call x =>
    cases known : m.functions.lookup x with
    | some =>
      rw [step, perform_get_bind, known] at stepped
      exact sends_of_callFunction running known isSignal stepped
    | none =>
      refine absurd_of_quiet (quiet_step running visited ⟨rfl, rfl, by rintro ⟨⟩, by rintro ⟨⟩⟩ ?_)
      rintro _ _ ⟨⟩
      exact known
  | _ =>
    refine absurd_of_quiet (quiet_step running visited ⟨rfl, rfl, by rintro ⟨⟩, by rintro ⟨⟩⟩ ?_)
    rintro _ _ ⟨⟩

end Passing

/-! ## Main statement -/

/-- A script without a break outside of loops and functions finishes at its end, unless it is asked
to stop. -/
theorem runsToEnd_or_stopped (host : Host) (bound : Bound) {t : Transcript}
    (unbroken : ∀ e ∈ t.entries, ¬ HasBreak e.1) {m : Machine} {w : World}
    (finished : (t.play host bound m w).1 = .finished) :
    RunsToEnd host bound t m w ∨ (t.play host bound m w).2.1.stopped = true := by
  refine ((play_finished_iff host bound t m w).mp finished).imp_right ?_
  rintro ⟨front, e, back, m', reached, _, _, split, passed, ended, cause⟩
  have mem : e ∈ t.entries := by
    rw [split]
    exact mem_append_right _ mem_cons_self
  have interrupted := (visitInTurn_error_iff host bound t.entries m w).mpr
    ⟨front, e, back, m', reached, split, passed, ended⟩
  rw [Transcript.play, visitThen, interrupted]
  exact cause.resolve_left (unbroken e mem)

/-- **Where signals get to.** A tree that is visited when a script is run is visited, and the script
has not been asked to stop. If the tree is a loop, the visit ends with no signal. If it is a call of
a function of the script, it does not end with a break. In general it ends with a break or a
continue just if that comes from a statement of that name, from a statement in the body that a
branch has chosen, or, if it is a continue, from a statement in the body of a function. So a script
all of whose breaks are inside of loops and functions, and which finishes, has either visited all of
its statements or been asked to stop. -/
theorem signals_contained (host : Host) (most depth : Nat) :
    (∀ (site : Site) (tree : Script.Tree Value) (machine : Machine) (world : World),
      Visited tree → machine.stopped = false →
      let start : Visit := ⟨depth + 1, site, tree, machine, world⟩
      (isLoop tree = true →
        ¬ start.EndsWith host most .leave ∧ ¬ start.EndsWith host most .skip) ∧
      (∀ name arguments routine, tree = .call name arguments →
        machine.functions.lookup name = some routine → ¬ start.EndsWith host most .leave) ∧
      (start.EndsWith host most .leave ↔ Sends host most start .leave) ∧
      (start.EndsWith host most .skip ↔ Sends host most start .skip)) ∧
    (∀ (transcript : Transcript) (machine : Machine) (world : World),
      (∀ entry ∈ transcript.entries, ¬ HasBreak entry.1) →
      let outcome := transcript.play host ⟨most, depth⟩ machine world
      outcome.1 = .finished →
        RunsToEnd host ⟨most, depth⟩ transcript machine world ∨ outcome.2.1.stopped = true) := by
  refine ⟨fun site tree machine world visited running => ?_,
    fun transcript machine world unbroken => runsToEnd_or_stopped host ⟨most, depth⟩ unbroken⟩
  intro start
  have sends : ∀ signal : Interrupt, signal.isSignal = true →
      (start.EndsWith host most signal ↔ Sends host most start signal) := fun signal isSignal =>
    ⟨sends_of_endsWith visited running isSignal, fun sends => sends.endsWith running⟩
  have stepped : start.perform host most =
      (step host (visitWithin host most depth) most site tree).perform machine world :=
    perform_unlessStopped_of_running running _ world
  refine ⟨fun loop => ?_, ?_, sends .leave rfl, sends .skip rfl⟩
  · have quiet : Quiet (step host (visitWithin host most depth) most site tree) machine :=
      quiet_step_of_isLoop visited loop running
    rw [Visit.EndsWith, Visit.EndsWith, stepped]
    exact ⟨fun ended => Bool.noConfusion (quiet world .leave ended),
      fun ended => Bool.noConfusion (quiet world .skip ended)⟩
  · rintro name arguments routine rfl known
    rw [Visit.EndsWith, stepped, step, perform_get_bind, known]
    exact avoids_iff.mp (avoids_leave_callFunction _ routine name arguments) machine world

/-- A branch that calls a function which continues a loop that is not its own. -/
def strayBranch : Tree Value := .branch (given "a") [.call "f" []] [] []

/-- A script whose only break is inside a loop. -/
def brokenLoop : Transcript := ⟨[(.loop (.variable "n") [.leave], "demo")], none⟩

theorem visited_strayBranch : Visited strayBranch := by
  refine .inl (.branch (.binary _ (.string "a") .missing) ?_ ?_ ?_ ?_)
  · simp only [forall_mem_singleton]
    exact .call "f" (forall_mem_nil _)
  all_goals exact forall_mem_nil _

theorem unbroken_brokenLoop : ∀ e ∈ brokenLoop.entries, ¬ HasBreak e.1 := by
  simp only [brokenLoop, forall_mem_singleton]
  rintro (_ | ⟨mem, _⟩)
  cases mem

/-- The continue gets out of the function and of the branch, and the break does not get out of the
loop. -/
theorem signals_contained_strayBranch :
    let start : Visit := ⟨5, [], strayBranch, strayState, default⟩
    let outcome := brokenLoop.play Host.bare ⟨0, 4⟩ strayState default
    Visited strayBranch ∧ strayState.stopped = false ∧ start.EndsWith Host.bare 0 .skip ∧
      Sends Host.bare 0 start .skip ∧ ¬ Sends Host.bare 0 start .leave ∧
      (∀ entry ∈ brokenLoop.entries, ¬ HasBreak entry.1) ∧ outcome.1 = .finished ∧
      (RunsToEnd Host.bare ⟨0, 4⟩ brokenLoop strayState default ∨ outcome.2.1.stopped = true) := by
  intro start outcome
  obtain ⟨visits, scripts⟩ := signals_contained Host.bare 0 4
  obtain ⟨-, -, leave, skip⟩ := visits [] strayBranch strayState default visited_strayBranch rfl
  have continued : start.EndsWith Host.bare 0 .skip := rfl
  have unbroken : ¬ start.EndsWith Host.bare 0 .leave := by
    intro ended
    have same : (.error .skip : Except Interrupt Value) = .error .leave :=
      continued.symm.trans ended
    cases same
  exact ⟨visited_strayBranch, rfl, continued, skip.mp continued,
    fun sends => unbroken (leave.mpr sends), unbroken_brokenLoop, rfl,
    scripts brokenLoop strayState default unbroken_brokenLoop rfl⟩

end DeviceScript.Execution
