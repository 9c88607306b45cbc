import DeviceScript.Proofs.Execution.Containment
import DeviceScript.Proofs.Execution.Hints
import DeviceScript.Proofs.Execution.Logging

/-!
# A failed call has no effect on the script

A statement may call an operation, or call it and keep its results. If the call fails, be it that
the arguments do not fit or that the operation itself fails, then the statement ends normally with a
warning in the log. Everything else is as if the statement were not there, except for what the
operation had done until then.

The statement may stand at any depth of loops and functions, and then what comes behind it is not
only what is left of the text (`Enters.surrounds`, `Activates.surrounds`). Whatever is still to be
done around it, it is done as it would be around nothing in the world that the operation has left.

Main statement: `failed_call_has_no_effect`.
-/

namespace DeviceScript.Execution

open Exec Script Script.Tree

/-! ## Evaluating formulas -/

/-- The computation changes nothing of the world but the log and the numbers that are given out. -/
def Exec.Calm {α : Type} (exec : Exec α) : Prop :=
  ∀ (m : Machine) (w : World), w.Untouched (exec.perform m w).2

namespace Exec.Calm

variable {α β : Type}

theorem pure (v : α) : Calm (Pure.pure v : Exec α) := fun _ w => .refl w

theorem throw (i : Interrupt) : Calm (MonadExcept.throw i : Exec α) :=
  fun _ w => .refl w

theorem bind {first : Exec α} {f : α → Exec β} (before : Calm first)
    (following : ∀ v, Calm (f v)) : Calm (first >>= f) := by
  intro m w
  have begun := before m w
  rw [perform_bind]
  rcases reached : first.perform m w with ⟨⟨_ | v, m'⟩, w'⟩ <;>
    rw [reached] at begun
  · exact begun
  · exact begun.trans (following v m' w')

theorem ofAct (act : Act α) [calm : act.Calm] : Calm (Exec.ofAct act) := by
  intro _ w
  have acted := calm.untouched w
  rw [perform_ofAct]
  rcases reached : act.perform w with ⟨_ | _, _⟩ <;> rw [reached] at acted <;>
    exact acted

theorem ofExcept (o : Except Failure α) : Calm (Exec.ofExcept o) := by
  cases o with
  | ok v => exact pure v
  | error => exact throw _

theorem inspect {f : Machine → Exec α} (following : ∀ m, Calm (f m)) : Calm (get >>= f) :=
  fun m w => following m m w

/-- Visits are calm if the steps of the tree are. -/
theorem visit {host : Host} {most d : Nat} {p : Site} {t : Tree Value}
    (stepped : ∀ d, Calm (step host (visitWithin host most d) most p t)) :
    Calm (visitWithin host most d p t) := by
  cases d with
  | zero => exact throw _
  | succ d =>
    refine inspect fun m => ?_
    split
    · exact bind (ofAct _) fun _ => throw _
    · exact stepped d

end Exec.Calm

section Formulas

variable {t : Tree Value} {trees : List (Tree Value)}

theorem calm_visitWithin (formula : t.IsFormula) (host : Host) (most d : Nat) (p : Site) :
    (visitWithin host most d p t).Calm := by
  induction formula generalizing d p with
  | missing | string => exact .visit fun _ => .pure _
  | number => exact .visit fun _ => .ofExcept _
  | name => exact .visit fun _ => .inspect fun _ => .pure _
  | binary _ _ _ left right =>
    exact .visit fun d => .bind (left d _) fun _ => .bind (right d _) fun _ => .ofAct _

theorem calm_visitAll (formulas : ∀ t ∈ trees, t.IsFormula) (host : Host) (most d : Nat) (p : Site)
    (part i : Nat) : (visitAll (visitWithin host most d) p part i trees).Calm := by
  induction trees generalizing i with
  | nil => exact .pure _
  | cons _ _ ih =>
    rw [List.forall_mem_cons] at formulas
    exact .bind (calm_visitWithin formulas.1 host most d _) fun _ =>
      .bind (ih formulas.2 _) fun _ => .pure _

end Formulas

/-! ## What is done around a statement -/

section Around

variable {α β : Type} {m m' : Machine} {w w' : World}

theorem Exec.Context.perform_eq {around : Exec α → Exec β} (context : Context around)
    {exec exec' : Exec α} (same : exec.perform m w = exec'.perform m' w') :
    (around exec).perform m w = (around exec').perform m' w' := by
  induction context with
  | here => exact same
  | bind => rw [perform_bind, perform_bind, same]
  | catchLeave | catchSkip => rw [perform_catching, perform_catching, same]
  | thenAlways => rw [perform_thenAlways, perform_thenAlways, same]
  | inside _ _ outer inner => exact outer (inner same)

/-- The result is that of performing the computation with something left to be done around it. -/
def ComesFrom (result : (Except Interrupt α × Machine) × World) (exec : Exec β) (m : Machine)
    (w : World) : Prop :=
  ∃ around, Exec.Context around ∧ result = (around exec).perform m w

theorem ComesFrom.trans {res : (Except Interrupt α × Machine) × World} {exec : Exec β}
    (comes : ComesFrom res exec m w) {γ : Type} {inner : Exec γ}
    (comes' : ComesFrom (exec.perform m w) inner m' w') : ComesFrom res inner m' w' := by
  obtain ⟨_, context, rfl⟩ := comes
  obtain ⟨_, context', same⟩ := comes'
  exact ⟨_, .inside context context', context.perform_eq same⟩

end Around

namespace Course

/-- The condition of the course, if it has one, does not look at the log. -/
def IsBlind : Course → Prop
  | .rounds condition _ => Blind condition
  | _ => True

variable {round : Exec Unit} {course left : Course} {m later : Machine} {w after : World}

theorem IsBlind.run [Blind round] (blind : course.IsBlind) : Blind (course.run round) := by
  cases course with
  | times => exact times_blind _
  | rounds =>
    have holds : Blind _ := blind
    exact rounds_blind _
  | items => exact forItems_blind _

theorem Begins.isBlind (begins : Begins round course m w left later after)
    (blind : course.IsBlind) : left.IsBlind := by
  induction begins with
  | next opens => cases opens <;> exact blind
  | later opens _ _ ih => cases opens <;> exact ih blind

end Course

section Bodies

variable {visit : Visitor} [∀ p t, Blind (visit p t)] {most part : Nat} {p : Site}
  {front rest : List (Tree Value)} {s t : Tree Value} {m middle later : Machine}
  {w w' after : World}

theorem comesFrom_runBody
    (before : (runBody visit p part 0 front).perform m w = ((.ok (), later), after)) :
    ComesFrom ((runBody visit p part 0 (front ++ s :: rest)).perform m w)
      (visit ((part, front.length) :: p) s) later after := by
  have following : Blind (runBody visit p part (front.length + 1) rest) := inferInstance
  refine ⟨_, .bind fun _ => following, ?_⟩
  rw [runBody_append, perform_bind_ok before, Nat.zero_add]
  rfl

theorem comesFrom_runRound
    (before : (runRound visit p part 0 front).perform m w = ((.ok (), later), after)) :
    ComesFrom ((runRound visit p part 0 (front ++ s :: rest)).perform m w)
      (visit ((part, front.length) :: p) s) later after := by
  have following : Blind (runRound visit p part (front.length + 1) rest) := inferInstance
  refine ⟨_, .inside (.bind fun _ => following) (.inside .catchSkip (.bind fun _ => .pure ())), ?_⟩
  rw [runRound_append, perform_bind_ok before, Nat.zero_add]
  rfl

theorem comesFrom_step_of_begins {host : Host} {body : List (Tree Value)} {course left : Course}
    {finish : Exec Value} (starts : Starts visit most p body t m w course finish middle w')
    (begins : course.Begins (runRound visit p 1 0 body) middle w' left later after) :
    ComesFrom ((step host visit most p t).perform m w) (runRound visit p 1 0 body) later after := by
  obtain ⟨blind, finishes⟩ : course.IsBlind ∧ Blind finish := by
    cases starts with
    | loop => exact ⟨trivial, .pure _⟩
    | whileLoop => exact ⟨(inferInstance : Blind _), .pure _⟩
    | each => exact ⟨trivial, inferInstance⟩
  have goesOn : Blind (left.run (runRound visit p 1 0 body)) := (begins.isBlind blind).run
  exact ⟨_, .inside (.bind fun _ => finishes) (.inside .catchLeave (.bind fun _ => goesOn)),
    perform_step_of_begins starts begins⟩

end Bodies

theorem comesFrom_runActivation (visit : Visitor) (routine : Routine) (x : String)
    (locals : Bindings) (m : Machine) (w : World) :
    ComesFrom ((runActivation visit routine x locals).perform m w)
      (runBody visit [] 1 0 routine.body) (m.enterFrame routine.name locals) w := by
  have ending : Blind (endActivation x m.frames.length) := by
    unfold endActivation
    infer_instance
  exact ⟨_, .inside (.bind fun _ => ending)
    (.inside (.thenAlways fun later => { later with memory := m.memory }) .catchLeave), rfl⟩

section Visits

variable {host : Host} [host.Discreet] {most : Nat} {start next : Visit}

/-- The first visit comes to the second one, with something left to be done around it. -/
def Visit.Surrounds (host : Host) (most : Nat) (start next : Visit) : Prop :=
  ComesFrom (start.perform host most) (visitWithin host most next.depth next.site next.tree)
    next.machine next.world

/-- What is done around a statement of a branch or of a loop is a context. -/
theorem Enters.surrounds {loop : Option ItemLoop} (enters : Enters host most start loop next) :
    start.Surrounds host most next := by
  unfold Visit.Surrounds
  cases enters with
  | branch running decided chose before =>
    rw [Visit.perform, visitWithin, perform_unlessStopped_of_running running, step,
      perform_bind_ok decided, perform_bind_ok chose]
    exact .trans ⟨_, .bind fun _ => .pure Value.none, rfl⟩ (comesFrom_runBody before)
  | round running _ starts begins before | item running starts begins before =>
    rw [Visit.perform, visitWithin, perform_unlessStopped_of_running running]
    exact (comesFrom_step_of_begins starts begins).trans (comesFrom_runRound before)

/-- What is done around a statement of a function is a context. -/
theorem Activates.surrounds (activates : Activates host most start next) :
    start.Surrounds host most next := by
  unfold Visit.Surrounds
  cases activates with
  | call running listed arity binds split before =>
    rw [Visit.perform, visitWithin, perform_unlessStopped_of_running running, step,
      perform_get_bind, listed]
    dsimp only
    rw [perform_callFunction _ arity, binds, Exec.ofExcept, pure_bind]
    exact (comesFrom_runActivation ..).trans (split ▸ comesFrom_runBody before)

end Visits

/-! ## Calls that fail -/

/-- The statement calls the operation, or it calls it and keeps the results. -/
inductive CallStatement (name : String) (args : List (Tree Value)) :
    Tree Value → Prop
  | call : CallStatement name args (.call name args)
  | gather (target : String) :
      CallStatement name args (.gather target (.list []) (.call name args))

theorem CallStatement.formulas {x : String} {args : List (Tree Value)}
    {t : Tree Value} (calls : CallStatement x args t)
    (produced : t.IsProduced) : ∀ argument ∈ args, argument.IsFormula := by
  cases calls with
  | call =>
    cases produced with
    | call _ formulas => exact formulas
  | gather =>
    cases produced with
    | gatherCall _ _ formulas => exact formulas

section Failing

variable {host : Host} {visit : Visitor} {p : Site} {x : String}
  {args : List (Tree Value)} {m later : Machine} {w called after : World}
  {member : Member} {vs : List Value} {e : Failure}
  (reaches : Reaches host visit p x args m w member vs later called)
  (truthy : member.truthy = true)
  (failed : (member.callLoosely (.tuple vs)).perform called = (.error e, after))

include reaches truthy failed

theorem perform_callOperation_failed :
    (callOperation host visit p x args).perform m w =
      ((.ok .none, later), ((Act.log .warning
        ("函数 " ++ x ++ " 执行错误 " ++ e.message ++ "!")).perform after).2) := by
  rw [perform_callOperation_reached reaches truthy]
  refine perform_guarded_failed ?_ _
  rw [perform_ofAct_bind, failed]

theorem perform_callForResults_failed (target : String) :
    (callForResults host visit p target (.call x args)).perform m w =
      ((.ok .none, later), ((Act.log .warning
        ("函数 " ++ x ++ " 执行错误: " ++ e.message)).perform after).2) := by
  rw [perform_callForResults_reached reaches truthy]
  refine perform_guarded_failed ?_ _
  rw [perform_ofAct_bind, failed]

end Failing

section Statements

variable {host : Host} {most d : Nat} {p : Site} {x : String}
  {args : List (Tree Value)} {t : Tree Value}
  {m later : Machine} {w called after : World} {member : Member} {vs : List Value}
  (calls : CallStatement x args t) (running : m.stopped = false)
  (unlisted : m.functions.lookup x = none)
  (reaches : Reaches host (visitWithin host most d) p x args m w member
    vs later called)

include calls running unlisted reaches

/-- Where the call fails, the statement ends with a warning. -/
theorem CallStatement.perform_failed (truthy : member.truthy = true) {e : Failure}
    (failed : (member.callLoosely (.tuple vs)).perform called = (.error e, after)) :
    ∃ warning, (visit host ⟨most, d + 1⟩ p t).perform m w =
      ((.ok .none, later), ((Act.log .warning warning).perform after).2) := by
  rw [visit, visitWithin, perform_unlessStopped_of_running running]
  cases calls with
  | call =>
    rw [step, perform_get_bind, unlisted]
    exact ⟨_, perform_callOperation_failed reaches truthy failed⟩
  | gather target => exact ⟨_, perform_callForResults_failed reaches truthy failed target⟩

end Statements

/-- Until the operation is called, nothing happens. -/
theorem Reaches.untouched {host : Host} [discreet : host.Discreet] {most d : Nat} {p : Site}
    {x : String} {args : List (Tree Value)} {m m' : Machine}
    {w called : World} {member : Member} {vs : List Value}
    (formulas : ∀ argument ∈ args, argument.IsFormula) (running : m.stopped = false)
    (reaches : Reaches host (visitWithin host most d) p x args m w member
      vs m' called) : m' = m ∧ w.Untouched called ∧ member.Discreet := by
  obtain ⟨names, named, found, listed, located, visited⟩ := reaches
  have first : w.Untouched named := by
    simpa only [listed] using scriptNames_calm.untouched w
  have second : named.Untouched found := by
    simpa only [located] using (discreet.find (operationName names x)).calm.untouched named
  have third : found.Untouched called := by
    simpa only [visited] using calm_visitAll formulas host most d p 1 0 m found
  have silent : Silent (visitAll (visitWithin host most d) p 1 0 args) m :=
    silent_visitAll running formulas
  obtain ⟨_, _, visited', -⟩ := silent.perform found
  rw [visited] at visited'
  cases visited'
  exact ⟨rfl, first.trans (second.trans third), (discreet.find _).gives located⟩

/-- The statement is about to call an operation under the name, which is no function of the script.
The operation is found, the arguments have values, and the call with them fails. -/
structure CallFails (host : Host) (most depth : Nat) (site : Site) (name : String)
    (args : List (Tree Value)) (m : Machine) (w called after : World) :
    Prop where
  running : m.stopped = false
  unlisted : m.functions.lookup name = none
  failed : ∃ member values later e, member.truthy = true ∧
    Reaches host (visitWithin host most depth) site name args m w member values later
      called ∧
    (member.callLoosely (.tuple values)).perform called = (.error e, after)

/-- A run goes on behind a statement that ends normally. -/
theorem visitThen_of_visited {host : Host} {bound : Bound} {t : Tree Value}
    {title : String} {earlier m : Machine} {w w' : World} {v : Value}
    (visited : (visit host bound [] t).perform { earlier with title := title, memory := [] }
      w = ((.ok v, m), w')) (onward : Machine → World → Outcome) :
    visitThen host bound [(t, title)] onward earlier w = onward m w' := by
  have entered : (visitEntry host bound (t, title)).perform earlier w = ((.ok v, m), w') := by
    rw [visitEntry]
    exact visited
  rw [visitThen, visitInTurn, perform_bind_ok entered]
  rfl

/-! ## Main statement -/

/-- **A failed call has no effect on the script.** Let a statement call an operation, whether it
keeps the results or not, and let the call fail. Until the call, nothing has happened to the world
but that something may have been logged and numbers been given out. The statement ends normally,
leaves the state as it was and writes nothing, and the world is as the operation has left it, apart
from the log. Whatever is to be done around the statement, be it in a body, a loop or a function,
ends as it would around nothing in the world that the operation has left; only something that looks
at the log could tell, and no visit does. If the statement is the next one of a text, then the run
ends as one that goes on behind it in that world. -/
theorem failed_call_has_no_effect {host : Host} [host.Discreet] {most depth : Nat} {site : Site}
    {name : String} {arguments : List (Script.Tree Value)} {tree : Script.Tree Value}
    (calls : CallStatement name arguments tree) (produced : tree.IsProduced)
    {machine : Machine} {world called after : World}
    (fails : CallFails host most depth site name arguments machine world called after) :
    let bound : Bound := ⟨most, depth + 1⟩
    world.Untouched called ∧
    (∃ told, (visit host bound site tree).perform machine world = ((.ok .none, machine), told) ∧
      after.Alike told ∧ told.written = world.written) ∧
    (∀ {α : Type} {around : Exec Value → Exec α}, Exec.Context around →
      Exec.EndAlike (around (visit host bound site tree)) (around (pure .none)) machine world
        after) ∧
    (∀ (wider : Bound) (place : Site) (other : Script.Tree Value),
      Exec.Blind (visit host wider place other)) ∧
    ∀ (reader later : Reader) (earlier : Machine), site = [] → reader.atEnd = false →
      (Reading.statement (α := Value)).run.run reader = (.ok tree, later) →
      machine = { earlier with title := later.title, memory := [] } →
        (runRest host bound reader earlier world).Alike
          (runRest host bound later machine after) := by
  intro bound
  obtain ⟨member, values, later, failure, truthy, reaches, failed⟩ := fails.failed
  have formulas := calls.formulas produced
  obtain ⟨rfl, untouched, isDiscreet⟩ := reaches.untouched formulas fails.running
  obtain ⟨warning, visited⟩ :=
    calls.perform_failed fails.running fails.unlisted reaches truthy failed
  have told := after.alike_log .warning warning
  have silent : after.written = world.written :=
    ((isDiscreet.callLoosely _).silent failed).trans untouched.written
  refine ⟨untouched, ⟨_, visited, told, ?_⟩, ?_, fun wider place other => ?_, ?_⟩
  · exact (World.Untouched.of_alike told).written.trans silent
  · intro α around context
    exact context.endAlike ⟨_, _, _, after, visited, rfl, told.symm⟩
  · exact visitWithin_blind _ _ place other
  · rintro reader next earlier rfl inside read rfl
    have onward : runRest host bound reader earlier world = runRest host bound next _ _ :=
      (congrFun₂ (runRest_of_statement host bound inside read) earlier world).trans
        (visitThen_of_visited visited _)
    rw [onward]
    exact runRest_alike bound next _ told.symm

/-! ## Scripts from the command line -/

instance discreet_commandLine (folder : Path) : (CommandLine.host folder).Discreet where
  emit := by
    rintro emit ⟨⟩ _ _ _ ⟨records, rfl⟩
    exact ⟨_, _, _, rfl, rfl, ⟨records, rfl⟩⟩
  tick := (Act.Discreet.pure false).blind
  find := Library.find_provides folder false 0

/-- A statement that asks for a device and keeps the answer. -/
def asking : Tree Value := .gather "x" (.list []) (.call "select_device" [.string "y"])

/-- A script in which something stands behind the statement. -/
def askingScript : Reader :=
  ⟨Source.ofText "dyn x = call select_device(\"y\")\nprint(\"done\")", "demo"⟩

theorem read_askingScript : ∃ r, (Reading.statement (α := Value)).run.run askingScript =
    (.ok asking, r) := by
  have isStatement : IsStatement asking :=
    .gatherCall (by decide +kernel) (by decide +kernel) (by simpa using .string (by decide))
  have spelled : (askingScript.source.lexemes.take 8).map (·.token) = statementTokens asking := by
    decide +kernel
  obtain ⟨_, read⟩ := Reading.takes_statement isStatement _
    (askingScript.source.lexemes.drop 8) askingScript.source.ending "demo" spelled
    (by decide +kernel) ⟨by decide +kernel, by decide +kernel⟩
  rw [List.take_append_drop] at read
  exact ⟨_, read⟩

/-- There are no devices. They are looked for, so the platforms are loaded, and then the operation
fails; the script goes on with that. -/
theorem failed_call_has_no_effect_askingScript :
    let host := CommandLine.host Path.here
    let world := CommandLine.world
    let run := runRest host ⟨1, 2⟩ askingScript (Machine.initial Path.here) world
    run.2.2.written = #["done\n"] ∧ ∃ machine after later,
      CallFails host 1 1 [] "select_device" [.string "y"] machine world world after ∧
      after.fleet.platforms.length = 3 ∧
      (∃ told, (visit host ⟨1, 2⟩ [] asking).perform machine world = ((.ok .none, machine), told) ∧
        after.Alike told ∧ told.written = #[]) ∧
      run.Alike (runRest host ⟨1, 2⟩ later machine after) := by
  intro host world run
  obtain ⟨later, read⟩ := read_askingScript
  let machine : Machine := { Machine.initial Path.here with title := later.title, memory := [] }
  obtain ⟨member, named, truthy, refused, loaded⟩ : ∃ member,
      (host.find (.text "select_device")).perform world = (.ok member, world) ∧
      member.truthy = true ∧
      ((member.callLoosely (.tuple [.text "y"])).perform world).1.isOk = false ∧
      ((member.callLoosely (.tuple [.text "y"])).perform world).2.fleet.platforms.length = 3 :=
    ⟨_, rfl, rfl, by decide +kernel, by decide +kernel⟩
  rcases failed : (member.callLoosely (.tuple [.text "y"])).perform world with
    ⟨failure | value, after⟩ <;> rw [failed] at refused loaded
  · have reaches : Reaches host (visitWithin host 1 1) [] "select_device" [.string "y"] machine
        world member [.text "y"] machine world := ⟨[], world, world, rfl, named, rfl⟩
    have fails : CallFails host 1 1 [] "select_device" [.string "y"] machine world world after :=
      ⟨rfl, rfl, member, _, machine, failure, truthy, reaches, failed⟩
    have produced : asking.IsProduced := .gatherCall "x" _ (by simpa using .string _)
    obtain ⟨-, visited, -, -, onward⟩ := failed_call_has_no_effect (.gather "x") produced fails
    exact ⟨by decide +kernel, machine, after, later, fails, loaded, visited,
      onward askingScript later _ rfl (by decide +kernel) read rfl⟩
  · cases refused

end DeviceScript.Execution
