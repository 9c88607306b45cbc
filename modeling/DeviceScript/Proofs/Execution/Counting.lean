import DeviceScript.Proofs.Execution.Nesting

/-!
# A loop over a count

A loop over items may be given a number in place of items; then it runs through the numbers below
it, which is what a loop with a number of rounds does without them. The first one has an entry of
its own below all that its rounds put on the stack of loops, and every name is looked up there.

`Overlaid` compares a computation with itself in a state with one more loop around it: if the name
of that loop is not read, both end alike, and the loop is still there. This holds of every visit
(`overlaid_visitWithin`). So where its name is read nowhere, the loop over a count and the loop with
as many rounds do the same (`visit_each_count_eq_loop`).
-/

namespace DeviceScript.Execution

open Exec List Script Machine

variable {args : List (Tree Value)} {routine : Routine}

/-! ## One more loop -/

def Reads (name : String) (t : Tree Value) : Prop := PartOf (.variable name) t

theorem not_reads_of_children {x : String} {t : Tree Value} (other : t ≠ .variable x)
    (below : ∀ part ∈ children t, ¬ Reads x part) : ¬ Reads x t := by
  rintro (_ | ⟨mem, reads⟩)
  · exact other rfl
  · exact below _ mem reads

theorem hereditary_not_reads (x : String) : Hereditary fun t => ¬ Reads x t where
  child := fun unread mem reads => unread (.inside mem reads)
  literal := by
    rintro _ (_ | ⟨mem, _⟩)
    cases mem

namespace Machine

/-- No function that is registered reads the name. -/
def Ignores (m : Machine) (name : String) : Prop :=
  ∀ e ∈ m.functions, ∀ t ∈ e.2.body, ¬ Reads name t

/-- The state with one more loop around all that are active. -/
def beneath (m : Machine) (outer : ItemLoop) : Machine :=
  { m with loops := m.loops ++ [outer] }

variable (m : Machine) (outer : ItemLoop)

theorem write_beneath (x : String) (v : Value) :
    (m.beneath outer).write x v = (m.write x v).beneath outer := by
  unfold write beneath
  cases m.frames with
  | nil => rfl
  | cons =>
    dsimp only
    split <;> rfl

/-- The loop around all others hides nothing but its own name. -/
theorem read_beneath {x : String} (other : x ≠ outer.name) :
    (m.beneath outer).read x = m.read x := by
  cases stack : m.loops with
  | nil =>
    have outermost : (m.beneath outer).loops = outer :: [] := by
      rw [beneath, stack]
      rfl
    rw [read_of_loops_nil stack, read_of_loops_cons outermost, if_neg other.symm]
    rfl
  | cons loop loops =>
    have innermost : (m.beneath outer).loops = loop :: (loops ++ [outer]) := by
      rw [beneath, stack]
      rfl
    rw [read_of_loops_cons stack, read_of_loops_cons innermost]
    rfl

theorem setItem_beneath {m : Machine} (inside : 0 < m.loops.length) (x : Value) :
    (m.beneath outer).setItem x = (m.setItem x).beneath outer := by
  unfold setItem beneath
  cases stack : m.loops with
  | nil =>
    rw [stack] at inside
    cases inside
  | cons => rfl

/-- A loop above the others is left in the same way with one more loop below. -/
theorem leaveLoop_beneath {m : Machine} {height : Nat} (inside : height < m.loops.length)
    (site : Site) :
    (m.beneath outer).leaveLoop site (height + 1) = (m.leaveLoop site height).beneath outer := by
  have length : (m.loops ++ [outer]).length = m.loops.length + 1 := by simp
  have position : m.loops.length + 1 - 1 - (height + 1) = m.loops.length - 1 - height :=
    by omega
  have within : m.loops.length - 1 - height < m.loops.length := by omega
  unfold leaveLoop beneath dropAt
  rw [length, position, getElem?_append_left within, eraseIdx_append_of_lt_length within]

end Machine

/-! ## Computations around which a loop does not matter -/

/-- A state whose functions do not read the name of a loop, and which has at least so many loops,
and the state with that loop around everything. -/
def Simulation.around (outer : ItemLoop) (least : Nat) : Simulation where
  states m m' := m' = m.beneath outer ∧ m.Ignores outer.name ∧ least ≤ m.loops.length
  may _ := True

/-- The second computation does with a loop around everything what the first one does without it.
Nothing takes away loops that were there before. -/
def Overlaid (outer : ItemLoop) (least : Nat) {α : Type} (exec exec' : Exec α) : Prop :=
  Simulates (.around outer least) Eq exec exec'

theorem lawful_around (outer : ItemLoop) (least : Nat) :
    Simulation.Lawful True (.around outer least) where
  failed _ := trivial
  stopped going := going.1 ▸ rfl
  title going := going.1 ▸ rfl
  stop _ _ going := ⟨going.1 ▸ rfl, going.2⟩
  write := by
    rintro - x v m _ ⟨rfl, ignores, enough⟩
    obtain ⟨functions, loops, -⟩ := ((Machine.Settles.refl m).write x v).balanced
    refine ⟨m.write_beneath outer x v, ?_, loops ▸ enough⟩
    rwa [Machine.Ignores, functions]

theorem congruent_overlaid (outer : ItemLoop) (least : Nat) :
    Congruent True fun {_} exec exec' => Overlaid outer least exec exec' :=
  (lawful_around outer least).congruent trivial

namespace Overlaid

variable {outer : ItemLoop} {least : Nat} {α : Type}

theorem modest {exec : Exec α} (modest : Modest True exec) : Overlaid outer least exec exec :=
  (lawful_around outer least).modest modest

/-- What is done next may depend on the state, if it is the same with the loop around. -/
theorem get {f f' : Machine → Exec α}
    (same : ∀ m, m.Ignores outer.name → Overlaid outer least (f m) (f' (m.beneath outer))) :
    Overlaid outer least (MonadState.get >>= f) (MonadState.get >>= f') := by
  refine Simulates.inspect ?_
  rintro m _ ⟨rfl, ignores, -⟩
  exact same m ignores

theorem perform {exec exec' : Exec α} (overlaid : Overlaid outer 0 exec exec') {m : Machine}
    (ignores : m.Ignores outer.name) (w : World) :
    let result := exec.perform m w
    exec'.perform (m.beneath outer) w =
        ((result.1.1, result.1.2.beneath outer), result.2) ∧ result.1.2.Ignores outer.name := by
  obtain ⟨_, _, _, _, _, first, second, ⟨rfl, kept, -⟩, alike⟩ :=
    overlaid m _ w ⟨rfl, ignores, Nat.zero_le _⟩
  rw [first, second]
  cases alike with
  | ok same => exact ⟨same ▸ rfl, kept⟩
  | error => exact ⟨rfl, kept⟩

end Overlaid

/-! ## Visits -/

section Visits

variable {outer : ItemLoop} {host : Host} {visit visit' : Visitor} {most : Nat} {site : Site}
variable (overlaid : ∀ least site t, ¬ Reads outer.name t →
  Overlaid outer least (visit site t) (visit' site t)) (least : Nat)

/-- Arguments are bound in the same way with the loop around. -/
theorem bindArguments_beneath (m : Machine) (serial : Nat)
    (unread : ∀ t ∈ args, ¬ Reads outer.name t) (params : List (Tree Value)) (locals : Bindings) :
    bindArguments (m.beneath outer) serial params args locals =
      bindArguments m serial params args locals := by
  induction args generalizing params locals with
  | nil => cases params <;> rfl
  | cons argument _ ih =>
    rw [forall_mem_cons] at unread
    have same : ∀ place, argumentValue (m.beneath outer) place argument =
        argumentValue m place argument := by
      refine argumentValue_congr ?_
      rintro x rfl
      refine m.read_beneath outer ?_
      rintro rfl
      exact unread.1 .self
    cases params with
    | nil => rfl
    | cons => simp only [bindArguments, same, ih unread.2]

include overlaid

theorem overlaid_runActivation (unread : ∀ t ∈ routine.body, ¬ Reads outer.name t)
    (x : String) (locals : Bindings) :
    Overlaid outer least (runActivation visit routine x locals)
      (runActivation visit' routine x locals) := by
  have body := runBody_related (congruent_overlaid outer least) (overlaid least) [] 1 0 unread
  refine Simulates.inspect ?_
  rintro m _ ⟨rfl, ignores, enough⟩
  have entered : (Simulation.around outer least).states (m.enterFrame routine.name locals)
    ((m.enterFrame routine.name locals).beneath outer) := ⟨rfl, ignores, enough⟩
  refine (Simulates.set entered).andThen fun _ => ?_
  refine .andThen (.thenAlways (.catching body) ?_) fun _ => ?_
  · rintro _ _ ⟨rfl, kept⟩
    exact ⟨rfl, kept⟩
  · refine .andThen (.modify ?_) fun _ => Overlaid.get fun m' _ => ?_
    · rintro _ _ ⟨rfl, kept⟩
      exact ⟨rfl, kept⟩
    · exact .modest (.bind (.log _ _) fun _ => .pure _)

theorem overlaid_callFunction (inBody : ∀ t ∈ routine.body, ¬ Reads outer.name t)
    (x : String) (unread : ∀ t ∈ args, ¬ Reads outer.name t) :
    Overlaid outer least (callFunction visit routine x args)
      (callFunction visit' routine x args) := by
  refine .get fun m _ => ?_
  split
  · exact .modest (.fail _)
  · refine .andThen (Overlaid.modest (.ofAct _)) fun serial => ?_
    rw [bindArguments_beneath m serial unread]
    exact .andThen (Overlaid.modest (.ofExcept _)) fun locals =>
      overlaid_runActivation overlaid least inBody x locals

theorem overlaid_step_each (x : String) {xs : Tree Value} {body : List (Tree Value)}
    (inItems : ¬ Reads outer.name xs) (inBody : ∀ t ∈ body, ¬ Reads outer.name t) :
    Overlaid outer least (step host visit most site (.each x xs body))
      (step host visit' most site (.each x xs body)) := by
  have setting : ∀ height item, Overlaid outer (height + 1)
      (modify fun m => m.setItem item : Exec PUnit)
      (modify fun m => m.setItem item) := by
    intro height item
    refine .modify ?_
    rintro m _ ⟨rfl, ignores, enough⟩
    refine ⟨setItem_beneath outer (Nat.zero_lt_of_lt enough) item, ?_⟩
    unfold setItem
    split
    · exact ⟨ignores, enough⟩
    · rename_i stack
      rw [stack] at enough
      exact ⟨ignores, enough⟩
  have around : ∀ height, Overlaid outer (height + 1) (loopOver visit site xs body)
      (loopOver visit' site xs body) := by
    intro height
    have rounds := runRound_related (congruent_overlaid outer (height + 1)) (overlaid (height + 1))
      site 1 0 inBody
    refine .andThen (overlaid _ _ _ inItems) fun _ => ?_
    refine .andThen (Overlaid.modest (modest_wholeItems _)) fun xs => .catching ?_
    exact overItems_related (congruent_overlaid outer _) rounds (setting height) xs
  rintro m _ w ⟨rfl, ignores, _⟩
  have height : (m.beneath outer).loops.length = m.loops.length + 1 := by
    simp [beneath]
  -- Inside the loop there is one more than the state had before, so that the rounds leave it there.
  obtain ⟨_, _, m', _, _, reached, reached', ⟨rfl, kept, grown⟩, alike⟩ :=
    around m.loops.length (m.enterLoop site x)
      ((m.beneath outer).enterLoop site x) w ⟨rfl, ignores, Nat.le_refl _⟩
  rw [perform_step_each, perform_step_each, height]
  cases alike with
  | error =>
    rw [perform_bind_error reached, perform_bind_error reached']
    exact ⟨_, _, _, _, _, rfl, rfl, ⟨rfl, kept, by omega⟩, .error trivial⟩
  | ok =>
    rw [perform_bind_ok reached, perform_bind_ok reached', perform_modify_bind,
      perform_modify_bind, leaveLoop_beneath outer grown]
    refine ⟨_, _, _, _, _, rfl, rfl, ⟨rfl, kept, ?_⟩, .ok rfl⟩
    show least ≤ (dropAt m'.loops m.loops.length).length
    rw [dropAt, length_eraseIdx_of_lt (by omega)]
    omega

theorem overlaid_step_call (x : String) (unread : ∀ t ∈ args, ¬ Reads outer.name t) :
    Overlaid outer least (step host visit most site (.call x args))
      (step host visit' most site (.call x args)) := by
  refine .get fun m ignores => ?_
  have functions : (m.beneath outer).functions = m.functions := rfl
  rw [functions]
  cases known : m.functions.lookup x with
  | none =>
    exact callOperation_related (congruent_overlaid outer least) (overlaid least) host site x
      unread
  | some =>
    exact overlaid_callFunction overlaid least (ignores _ (mem_of_lookup known)) x unread

end Visits

/-- **Visits do not see the loop around them**, unless its name is read. -/
theorem overlaid_visitWithin (outer : ItemLoop) (host : Host) (most d least : Nat) (site : Site)
    (t : Tree Value) (unread : ¬ Reads outer.name t) :
    Overlaid outer least (visitWithin host most d site t) (visitWithin host most d site t) := by
  induction d generalizing least site t with
  | zero => exact .throw trivial
  | succ _ ih =>
    have hereditary := hereditary_not_reads outer.name
    have congruent := congruent_overlaid outer least
    have below : ∀ part ∈ children t, ¬ Reads outer.name part := fun part mem =>
      hereditary.child unread mem
    refine congruent.unlessStopped ?_
    cases t with
    | «variable» x =>
      have other : x ≠ outer.name := by
        rintro rfl
        exact unread .self
      refine .get fun m _ => ?_
      rw [m.read_beneath outer other]
      exact .modest (.pure _)
    | leave | skip => exact .throw trivial
    | whileLoop =>
      simp only [children, forall_mem_cons] at below
      have again := runRound_related congruent (ih least) site 1 0 below.2
      refine .andThen (.catching ?_) fun _ => .pure rfl
      exact rounds_related congruent (.throw trivial) (ih least _ _ below.1) again most
    | each x =>
      simp only [children, forall_mem_cons] at below
      exact overlaid_step_each ih least x below.1 below.2
    | call x => exact overlaid_step_call ih least x below
    | function x body =>
      simp only [children, forall_mem_append] at below
      refine .andThen (.modify ?_) fun _ => Overlaid.modest (.ofAct _)
      rintro m _ ⟨rfl, ignores, enough⟩
      refine ⟨rfl, ?_, enough⟩
      exact forall_mem_withRoutine (fun e => ∀ t ∈ e.2.body, ¬ Reads outer.name t)
        below.1 ignores
    | _ =>
      exact step_congruent congruent (ih least) hereditary.descends trivial
        host most most site (fun part mem => hereditary.performed unread mem) rfl

/-! ## Rounds -/

def isNumber : Value → Bool
  | .bool _ => true
  | .int _ => true
  | .float _ => true
  | .undefined _ => true
  | _ => false

/-- A loop over a number runs through the numbers below it, cut to a whole one if need be. -/
theorem overItems_of_isNumber {v : Value} (number : isNumber v = true) (round : Exec Unit) :
    (do catchLeave (overItems round (← wholeItems v))) =
      (do
        let count ← Exec.ofExcept (Value.toWhole v)
        catchLeave (forCount round 0 count.toNat)) := by
  cases v with
  | bool flag => cases flag <;> rfl
  | int | undefined => rfl
  | float real =>
    rw [wholeItems]
    cases Value.toWhole (.float real) <;> rfl
  | _ => cases number

/-- The rounds of a loop with a number of rounds, with the number visited first. -/
def loopTimes (visit : Visitor) (site : Site) (count : Tree Value)
    (body : List (Tree Value)) : Exec Unit :=
  catchLeave do
    let count ← Exec.ofExcept (Value.toWhole (← visit ((0, 0) :: site) count))
    times (runRound visit site 1 0 body) count.toNat

/-- The state apart from the active loops and from what the finished ones remember. -/
def Machine.withoutLoops (m : Machine) : Machine := { m with loops := [], memory := [] }

section Rounds

variable {host : Host} {most d : Nat} {site : Site} {x : String}
variable {count : Tree Value} {body : List (Tree Value)}
variable {m : Machine} (active : m.HasLoops []) (ignores : m.Ignores x)
variable (produced : ∀ t ∈ body, t.IsProduced)
variable (unread : ∀ t ∈ body, ¬ Reads x t)

include active ignores produced unread

/-- Rounds for the numbers below a count are as many rounds, with one more loop around them. -/
theorem perform_forCount_beneath (most d : Nat) (site : Site) (start many : Nat) (item : Value)
    (w : World) :
    let round := runRound (visitWithin host most d) site 1 0 body
    let result := (times round many).perform m w
    ∃ last, (forCount round start many).perform (m.beneath ⟨x, item⟩) w =
      ((result.1.1, result.1.2.beneath ⟨x, last⟩), result.2) := by
  intro round
  induction many generalizing start item m w with
  | zero => exact ⟨item, rfl⟩
  | succ _ ih =>
    let outer : ItemLoop := ⟨x, .int start⟩
    have set : (m.beneath ⟨x, item⟩).setItem (.int start) = m.beneath outer := by
      unfold setItem beneath
      rw [active.1]
      rfl
    have rounds := runRound_related (congruent_overlaid outer 0)
      (overlaid_visitWithin outer host most d 0) site 1 0 unread
    obtain ⟨same, kept⟩ := rounds.perform ignores w
    rw [forCount, times, perform_modify_bind, set]
    rcases reached : round.perform m w with ⟨⟨_ | ⟨⟩, m'⟩, w'⟩ <;>
      rw [reached] at same kept
    · rw [perform_bind_error reached, perform_bind_error same]
      exact ⟨.int start, rfl⟩
    · rw [perform_bind_ok reached, perform_bind_ok same]
      -- A round that has ended has left no loop behind, so that the next number is set in the
      -- outermost loop again.
      have again : m'.HasLoops [] := hasLoops_of_runRound produced active reached
      exact ih again kept (start + 1) (.int start) w'

/-- With one more loop around it, a loop over a count does what a loop with a number of rounds
does. -/
theorem perform_loopOver_beneath (isCount : count.IsFormula) (unused : ¬ Reads x count)
    (running : m.stopped = false) (item : Value) (w : World)
    (number : ∀ v later after, (visitWithin host most d ((0, 0) :: site) count).perform
      m w = ((.ok v, later), after) → isNumber v = true) :
    let result := (loopTimes (visitWithin host most d) site count body).perform m w
    ∃ last, (loopOver (visitWithin host most d) site count body).perform
        (m.beneath ⟨x, item⟩) w =
      ((result.1.1, result.1.2.beneath ⟨x, last⟩), result.2) := by
  obtain ⟨outcome, w', reached, quiet⟩ :=
    (silent_visitWithin isCount host most d ((0, 0) :: site) running).perform w
  have same := ((overlaid_visitWithin ⟨x, item⟩ host most d 0 ((0, 0) :: site) count
    unused).perform ignores w).1
  rw [reached] at same
  rcases outcome with interrupt | v
  · rw [loopTimes, perform_catching_of_error rfl (quiet interrupt rfl)
      (perform_bind_error reached), loopOver, perform_bind_error same]
    exact ⟨item, rfl⟩
  · rw [loopTimes, perform_catching_bind_ok reached, loopOver, perform_bind_ok same,
      overItems_of_isNumber (number v _ _ reached)]
    cases Value.toWhole v with
    | error => exact ⟨item, rfl⟩
    | ok many =>
      obtain ⟨last, counted⟩ := perform_forCount_beneath active ignores produced unread most d
        site 0 many.toNat item w'
      refine ⟨last, ?_⟩
      rw [Exec.ofExcept, pure_bind, pure_bind, perform_catching, perform_catching, counted]

/-- What is left behind by both loops differs in nothing but the loops. -/
theorem perform_step_each_eq_loop (isCount : count.IsFormula) (unused : ¬ Reads x count)
    (running : m.stopped = false) (w : World)
    (number : ∀ v m' w', (visitWithin host most d ((0, 0) :: site) count).perform
      m w = ((.ok v, m'), w') → isNumber v = true) :
    let each := (step host (visitWithin host most d) most site (.each x count body)).perform
      m w
    let loop := (step host (visitWithin host most d) most site (.loop count body)).perform
      m w
    each.1.1 = loop.1.1 ∧ each.2 = loop.2 ∧ each.1.2.withoutLoops = loop.1.2.withoutLoops := by
  have entered : m.enterLoop site x = m.beneath ⟨x, (m.memory.lookup site).getD .none⟩ := by
    rw [enterLoop, beneath, active.1]
    rfl
  obtain ⟨_, counted⟩ := perform_loopOver_beneath active ignores produced unread isCount unused
    running ((m.memory.lookup site).getD .none) w number
  have looped : step host (visitWithin host most d) most site (.loop count body) = (do
      loopTimes (visitWithin host most d) site count body
      return .none) := rfl
  rw [← entered] at counted
  rw [perform_step_each, looped]
  rcases reached : (loopTimes (visitWithin host most d) site count body).perform m
    w with ⟨⟨_ | ⟨⟩, m'⟩, w'⟩ <;> rw [reached] at counted
  · rw [perform_bind_error reached, perform_bind_error counted]
    exact ⟨rfl, rfl, rfl⟩
  · rw [perform_bind_ok reached, perform_bind_ok counted]
    exact ⟨rfl, rfl, rfl⟩

end Rounds

/-! ## Main statement -/

/-- **A loop over a count is a loop with a number of rounds.** A loop over items that can be read is
given a formula which has a number as its value, if it has one. Its name is read neither in that
formula nor in its body nor in any function, and no other loop over items is active. Then visiting
it is visiting the loop with as many rounds: both end in the same way and leave behind the same
world and, apart from loops, the same state. If they end in an orderly way, no loop is left. -/
theorem visit_each_count_eq_loop (host : Host) (most depth : Nat) (site : Site) (name : String)
    (count : Script.Tree Value) (body : List (Script.Tree Value)) (machine : Machine)
    (world : World)
    (produced : (Script.Tree.each name count body).IsProduced) (ready : machine.Ready)
    (unread : ∀ tree ∈ count :: body, ¬ Reads name tree) (ignores : machine.Ignores name)
    (empty : machine.loops = [])
    (number : ∀ value later after, (visit host ⟨most, depth⟩ ((0, 0) :: site) count).perform machine
      world = ((.ok value, later), after) → isNumber value = true) :
    let each := (visit host ⟨most, depth + 1⟩ site (.each name count body)).perform machine world
    let loop := (visit host ⟨most, depth + 1⟩ site (.loop count body)).perform machine world
    each.1.1 = loop.1.1 ∧ each.2 = loop.2 ∧ each.1.2.withoutLoops = loop.1.2.withoutLoops ∧
      (orderly each.1.1 = true → each.1.2.loops = [] ∧ loop.1.2.loops = []) := by
  intro each loop
  cases produced with
  | each _ isCount inBody =>
    have balanced : ∀ tree : Script.Tree Value, tree.IsProduced →
        orderly ((visit host ⟨most, depth + 1⟩ site tree).perform machine world).1.1 = true →
        ((visit host ⟨most, depth + 1⟩ site tree).perform machine world).1.2.loops = [] := by
      intro tree isProduced ended
      have accounts :=
        twin_visitWithin host most (depth + 1) site (.inl isProduced) machine world ready
      exact (accounts.loops ended).symm.trans empty
    obtain ⟨outcome, after, state⟩ : each.1.1 = loop.1.1 ∧ each.2 = loop.2 ∧
        each.1.2.withoutLoops = loop.1.2.withoutLoops := by
      cases stopped : machine.stopped with
      | true =>
        have agree : each = loop := perform_unlessStopped_congr stopped _ _ world
        exact agree ▸ ⟨rfl, rfl, rfl⟩
      | false =>
        rw [forall_mem_cons] at unread
        have inEach : each = _ := perform_unlessStopped_of_running stopped _ world
        have inLoop : loop = _ := perform_unlessStopped_of_running stopped _ world
        rw [inEach, inLoop]
        exact perform_step_each_eq_loop ⟨empty, ready⟩ ignores inBody unread.2 isCount unread.1
          stopped world number
    refine ⟨outcome, after, state, fun ended => ?_⟩
    exact ⟨balanced _ (.each name isCount inBody) ended,
      balanced _ (.loop isCount inBody) (outcome ▸ ended)⟩

/-- The body of a loop: it calls a function that continues this loop, and it leaves another loop. -/
def strayBody : List (Tree Value) :=
  [.call "f" [], .each "j" (.variable "n") [.leave], .assign "x" (.string "end")]

theorem isProduced_strayBody :
    (Script.Tree.each "i" (.variable "n" : Tree Value) strayBody).IsProduced := by
  refine .each "i" (.name "n") ?_
  simp only [strayBody, forall_mem_cons]
  refine ⟨.call "f" (forall_mem_nil _), .each "j" (.name "n") ?_, .assign "x" (.string "end"),
    forall_mem_nil _⟩
  exact forall_mem_singleton.mpr .leave

theorem not_reads_strayBody : ∀ t ∈ .variable "n" :: strayBody, ¬ Reads "i" t := by
  have leaf : ∀ t, children t = [] → t ≠ .variable "i" → ¬ Reads "i" t := by
    intro t childless other
    refine not_reads_of_children other ?_
    rw [childless]
    exact forall_mem_nil _
  have count : ¬ Reads "i" (.variable "n") := leaf _ rfl (by simp)
  simp only [strayBody, forall_mem_cons]
  refine ⟨count, leaf _ rfl (by rintro ⟨⟩), not_reads_of_children (by rintro ⟨⟩) ?_,
    not_reads_of_children (by rintro ⟨⟩) ?_, forall_mem_nil _⟩
  · simp only [children, forall_mem_cons]
    exact ⟨count, leaf _ rfl (by rintro ⟨⟩), forall_mem_nil _⟩
  · simp only [children, forall_mem_cons]
    exact ⟨leaf _ rfl (by rintro ⟨⟩), forall_mem_nil _⟩

/-- Both loops run to their end, and the statement behind the call writes to the activation that the
function has left behind. -/
theorem visit_each_count_eq_loop_strayBody :
    let each := (visit Host.bare ⟨0, 6⟩ [] (.each "i" (.variable "n") strayBody)).perform strayState
      default
    let loop := (visit Host.bare ⟨0, 6⟩ [] (.loop (.variable "n") strayBody)).perform strayState
      default
    strayState.Ready ∧ (∀ tree ∈ .variable "n" :: strayBody, ¬ Reads "i" tree) ∧
      strayState.Ignores "i" ∧ strayState.loops = [] ∧ loop.1.1 = .ok .none ∧
      loop.1.2.frames = [⟨"f", [("x", .text "end")]⟩] ∧
      each.1.1 = loop.1.1 ∧ each.2 = loop.2 ∧ each.1.2.withoutLoops = loop.1.2.withoutLoops ∧
      (orderly each.1.1 = true → each.1.2.loops = [] ∧ loop.1.2.loops = []) := by
  intro each loop
  have ready : strayState.Ready := by
    simp only [Machine.Ready, strayState, forall_mem_singleton]
    exact .skip
  have ignores : strayState.Ignores "i" := by
    simp only [Machine.Ignores, strayState, forall_mem_singleton]
    exact not_reads_of_children (by rintro ⟨⟩) (forall_mem_nil _)
  refine ⟨ready, not_reads_strayBody, ignores, rfl, rfl, rfl,
    visit_each_count_eq_loop Host.bare 0 5 [] "i" (.variable "n") strayBody strayState default
      isProduced_strayBody ready not_reads_strayBody ignores rfl ?_⟩
  intro value later after evaluated
  cases evaluated
  rfl

end DeviceScript.Execution
