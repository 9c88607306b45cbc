import DeviceScript.Proofs.Execution.Balance
import DeviceScript.Proofs.Execution.Transcript

/-!
# Scripts that come to an end

A visit is bounded by the number of visits inside each other and by the number of rounds of a loop
with a condition. A script without such loops, and whose functions call each other only downwards,
needs neither bound: there is a depth, which depends on the statements only, within which every run
of them ends, whatever the state is that it begins with and whatever functions are registered on the
way; and within every larger bound it ends in the same way (`visitInTurn_terminates`).

The depth goes down by one from a tree to the subtrees that are visited. A call goes back up to the
height of a whole function, but to one of a smaller rank. So a tree that calls functions below some
rank only is visited within its own height and that rank times the height of a function (`Fits`).
-/

namespace DeviceScript.Execution

open List Script Prod Nat
open Exec (Modest)

/-! ## Parts of a program -/

theorem PartOf.trans {first second third : Tree Value} (inner : PartOf first second)
    (outer : PartOf second third) : PartOf first third := by
  induction outer with
  | self => exact inner
  | inside mem _ ih => exact .inside mem ih

/-- Somewhere in the program a function of this name is defined with this body. -/
def Defines (program : List (Tree Value)) (name : String) (body : List (Tree Value)) : Prop :=
  ∃ params, ∃ root ∈ program, PartOf (.function name body params) root

/-- A call of a function of this name is among what is visited when the tree is, as far as the tree
shows: not in the functions that are defined in it, and not on the right of a `dyn`, where only
operations are called. -/
inductive Calls (callee : String) : Tree Value → Prop
  | call (args : List (Tree Value)) : Calls callee (.call callee args)
  | inside {t part : Tree Value} (member : part ∈ performed t)
      (calls : Calls callee part) : Calls callee t

/-- Each function of the program that the tree calls has a rank below the given one. -/
def CallsBelow (program : List (Tree Value)) (rank : String → Nat) (level : Nat)
    (t : Tree Value) : Prop :=
  ∀ callee body, Calls callee t → Defines program callee body → rank callee < level

/-- The functions of the program call each other downwards: every definition of a function calls
only functions of a smaller rank. -/
def Ranked (program : List (Tree Value)) (rank : String → Nat) : Prop :=
  ∀ name body, Defines program name body → ∀ t ∈ body, CallsBelow program rank (rank name) t

/-- No loop with a condition stands in the program. -/
def WhileFree (program : List (Tree Value)) : Prop :=
  ∀ root ∈ program, ∀ condition body, ¬ PartOf (.whileLoop condition body) root

/-- The functions that are registered are functions of the program. -/
def Machine.Knows (m : Machine) (program : List (Tree Value)) : Prop :=
  ∀ e ∈ m.functions, Defines program e.1 e.2.body

/-- The tree stands in the program, or is a value that takes the place of a tree. -/
def Belongs (program : List (Tree Value)) (t : Tree Value) : Prop :=
  (∃ root ∈ program, PartOf t root) ∨ ∃ v, t = .literal v

theorem hereditary_belongs (program : List (Tree Value)) : Hereditary (Belongs program) where
  child := by
    rintro _ child (⟨root, inProgram, inside⟩ | ⟨v, rfl⟩) mem
    · exact .inl ⟨root, inProgram, (PartOf.inside mem .self).trans inside⟩
    · cases mem
  literal := fun v => .inr ⟨v, rfl⟩

/-! ## Heights -/

/-- The tree is at most so high. -/
def Within : Nat → Tree Value → Prop
  | 0, _ => False
  | height + 1, t => ∀ child ∈ children t, Within height child

theorem Within.mono {height height' : Nat} {t : Tree Value} (within : Within height t)
    (le : height ≤ height') : Within height' t := by
  induction height generalizing height' t with
  | zero => exact within.elim
  | succ _ ih =>
    cases height' with
    | zero => cases le
    | succ => exact fun child mem => ih (within child mem) (le_of_succ_le_succ le)

theorem Within.part {height : Nat} {t part : Tree Value} (within : Within height t)
    (inside : PartOf part t) : Within height part := by
  induction inside generalizing height with
  | self => exact within
  | inside mem _ ih =>
    cases height with
    | zero => exact within.elim
    | succ height => exact (ih (within _ mem)).mono (le_succ height)

/-- What is visited below a tree is less high. -/
theorem Within.performed {height : Nat} {t part : Tree Value}
    (within : Within (height + 1) t) (mem : part ∈ performed t) : Within height part := by
  cases t with
  | gather _ _ source =>
    have inSource : Within height source := within source (.tail _ mem_cons_self)
    rcases mem_cons.mp mem with rfl | argument
    · exact within part mem_cons_self
    · exact inSource.part (.inside (mem_children_of_mem_argumentsOf argument) .self)
  | function => cases mem
  | _ => exact within part mem

/-- What is true of each item from some number on is true of all of them from some number on. -/
theorem exists_forall_mem {α : Type} (P : Nat → α → Prop)
    (mono : ∀ {n larger x}, P n x → n ≤ larger → P larger x) {xs : List α}
    (each : ∀ x ∈ xs, ∃ n, P n x) : ∃ n, ∀ x ∈ xs, P n x := by
  induction xs with
  | nil => exact ⟨0, forall_mem_nil _⟩
  | cons x _ ih =>
    rw [forall_mem_cons] at each
    obtain ⟨first, holds⟩ := each.1
    obtain ⟨rest, others⟩ := ih each.2
    refine ⟨max first rest, forall_mem_cons.mpr ⟨mono holds (le_max_left _ _), ?_⟩⟩
    exact fun x mem => mono (others x mem) (le_max_right _ _)

theorem sizeOf_lt_of_mem_children {t child : Tree Value}
    (mem : child ∈ children t) : sizeOf child < sizeOf t := by
  have inList : ∀ {ts : List (Tree Value)}, child ∈ ts → sizeOf child < sizeOf ts :=
    sizeOf_lt_of_mem
  cases t with
  | missing | literal | title | leave | skip | number | string | «variable» => cases mem
  | list xs | call _ xs =>
    have smaller : sizeOf child < sizeOf xs := inList mem
    simp only [Tree.list.sizeOf_spec, Tree.call.sizeOf_spec]
    omega
  | print v | sleep v | assign _ v =>
    rw [mem_singleton.mp mem]
    simp only [Tree.print.sizeOf_spec, Tree.sleep.sizeOf_spec, Tree.assign.sizeOf_spec]
    omega
  | binary left _ right | gather _ left right | position left right =>
    simp only [children, mem_cons, not_mem_nil, or_false] at mem
    rcases mem with rfl | rfl <;>
      simp only [Tree.binary.sizeOf_spec, Tree.gather.sizeOf_spec, Tree.position.sizeOf_spec] <;>
      omega
  | loop head body | whileLoop head body | each _ head body =>
    simp only [Tree.loop.sizeOf_spec, Tree.whileLoop.sizeOf_spec, Tree.each.sizeOf_spec]
    rcases mem_cons.mp mem with rfl | mem
    · omega
    · have smaller := inList mem
      omega
  | function =>
    simp only [Tree.function.sizeOf_spec]
    rcases mem_append.mp mem with mem | mem <;>
    · have smaller := inList mem
      omega
  | branch =>
    simp only [children, cons_append, mem_cons, mem_append, mem_flatMap]
      at mem
    simp only [Tree.branch.sizeOf_spec]
    rcases mem with rfl | (mem | ⟨alternative, listed, mem⟩) | mem
    · omega
    · have smaller := inList mem
      omega
    · obtain ⟨_, secondBody⟩ := alternative
      have smaller := sizeOf_lt_of_mem listed
      rw [mk.sizeOf_spec] at smaller
      rcases mem with rfl | mem
      · omega
      · have smaller' : sizeOf child < sizeOf secondBody := inList mem
        omega
    · have smaller := inList mem
      omega

theorem exists_within (t : Tree Value) : ∃ height, Within height t := by
  have below : ∀ child ∈ children t, ∃ height, Within height child := fun child mem =>
    have := sizeOf_lt_of_mem_children mem
    exists_within child
  obtain ⟨height, within⟩ := exists_forall_mem Within .mono below
  exact ⟨height + 1, within⟩
termination_by sizeOf t

/-! ## Ranks -/

section Ranks

variable {program : List (Tree Value)} {rank : String → Nat}

theorem CallsBelow.mono {level level' : Nat} {t : Tree Value}
    (below : CallsBelow program rank level t) (le : level ≤ level') :
    CallsBelow program rank level' t :=
  fun callee body calls defines => lt_of_lt_of_le (below callee body calls defines) le

theorem CallsBelow.performed {level : Nat} {t part : Tree Value}
    (below : CallsBelow program rank level t) (mem : part ∈ performed t) :
    CallsBelow program rank level part :=
  fun callee body calls defines => below callee body (.inside mem calls) defines

/-- The rank that a call needs. -/
def ownLevel (rank : String → Nat) : Tree Value → Nat
  | .call name _ => rank name + 1
  | _ => 0

theorem exists_callsBelow {height : Nat} {t : Tree Value} (within : Within height t) :
    ∃ level, CallsBelow program rank level t := by
  induction height generalizing t with
  | zero => exact within.elim
  | succ _ ih =>
    have inEach : ∀ part ∈ performed t, ∃ level, CallsBelow program rank level part :=
      fun part mem => ih (within.performed mem)
    obtain ⟨level, inParts⟩ := exists_forall_mem (CallsBelow program rank) .mono inEach
    refine ⟨max level (ownLevel rank t), fun callee body calls defines => ?_⟩
    cases calls with
    | call => exact lt_of_lt_of_le (lt_succ_self _) (le_max_right _ _)
    | inside mem calls =>
      exact lt_of_lt_of_le (inParts _ mem callee body calls defines) (le_max_left _ _)

/-- The depth is enough for the tree: for its own height, and for a whole function of the program on
every level below the functions that it calls. -/
structure Fits (program : List (Tree Value)) (rank : String → Nat) (tall depth : Nat)
    (t : Tree Value) : Prop where
  belongs : Belongs program t
  measured : ∃ height level, Within height t ∧ CallsBelow program rank level t ∧
    height + level * tall ≤ depth

variable {tall d : Nat}

theorem Fits.performed {t part : Tree Value} (fits : Fits program rank tall (d + 1) t)
    (mem : part ∈ performed t) : Fits program rank tall d part := by
  obtain ⟨belongs, height, level, within, below, _⟩ := fits
  refine ⟨(hereditary_belongs program).performed belongs mem, ?_⟩
  cases height with
  | zero => exact within.elim
  | succ height => exact ⟨height, level, within.performed mem, below.performed mem, by omega⟩

theorem descends_fits : Descends (Fits program rank tall d) where
  item := by
    rintro _ item ⟨belongs, height, level, within, below, enough⟩ mem
    exact ⟨(hereditary_belongs program).child belongs mem, height, level,
      within.part (.inside mem .self), below.performed mem, enough⟩
  literal := by
    rintro _ v ⟨-, height, level, within, -, enough⟩
    refine ⟨.inr ⟨v, rfl⟩, height, 0, ?_, ?_, by omega⟩
    · cases height with
      | zero => exact within.elim
      | succ => exact forall_mem_nil _
    · rintro _ _ (_ | ⟨mem, _⟩)
      cases mem

/-- The statements of a function fit if a call of it does. -/
theorem Fits.statement (tallest : ∀ root ∈ program, Within tall root) (ranked : Ranked program rank)
    {x : String} {args body : List (Tree Value)}
    (fits : Fits program rank tall (d + 1) (.call x args)) (defines : Defines program x body)
    {t : Tree Value} (mem : t ∈ body) : Fits program rank tall d t := by
  obtain ⟨-, height, level, within, below, _⟩ := fits
  have lower : rank x + 1 ≤ level := below x body (.call args) defines
  have callees := ranked x body defines t mem
  obtain ⟨params, root, inProgram, inside⟩ := defines
  have inside : PartOf t root :=
    (PartOf.inside (mem_append_left params mem) .self).trans inside
  refine ⟨.inl ⟨root, inProgram, inside⟩, tall, rank x, (tallest root inProgram).part inside,
    callees, ?_⟩
  have levels : (rank x + 1) * tall ≤ level * tall := mul_le_mul_right tall lower
  rw [succ_mul] at levels
  cases height with
  | zero => exact within.elim
  | succ => omega

end Ranks

/-! ## Visits that agree -/

/-- States that know only functions of the program are compared with themselves, while no bound is
used up. -/
def Simulation.within (program : List (Tree Value)) : Simulation where
  states m m' := m' = m ∧ m.Knows program
  may i := i ≠ .exhausted

/-- From a state that knows only functions of the program, both computations end in the same way,
and not because a bound is used up; the functions are still those of the program. -/
def Agrees (program : List (Tree Value)) {α : Type} (exec exec' : Exec α) : Prop :=
  Simulates (.within program) Eq exec exec'

theorem lawful_within (program : List (Tree Value)) :
    Simulation.Lawful True (.within program) where
  failed _ := by rintro ⟨⟩
  stopped going := going.1 ▸ rfl
  title going := going.1 ▸ rfl
  stop _ _ going := ⟨going.1 ▸ rfl, going.2⟩
  write := by
    rintro - x v _ m ⟨rfl, known⟩
    obtain ⟨functions, -, -⟩ := ((Machine.Settles.refl m).write x v).balanced
    refine ⟨rfl, ?_⟩
    rwa [Machine.Knows, functions]

theorem congruent_agrees (program : List (Tree Value)) :
    Congruent True fun {_} exec exec' => Agrees program exec exec' :=
  (lawful_within program).congruent (by rintro ⟨⟩)

namespace Agrees

variable {program : List (Tree Value)} {α : Type}

theorem modest {exec : Exec α} (modest : Modest True exec) : Agrees program exec exec :=
  (lawful_within program).modest modest

theorem modify {f : Machine → Machine} (keeps : ∀ m, m.Knows program → (f m).Knows program) :
    Agrees program (modify f : Exec PUnit) (modify f) := by
  refine Simulates.modify ?_
  rintro _ m ⟨rfl, known⟩
  exact ⟨rfl, keeps m known⟩

theorem get {f f' : Machine → Exec α} (same : ∀ m, m.Knows program → Agrees program (f m) (f' m)) :
    Agrees program (MonadState.get >>= f) (MonadState.get >>= f') := by
  refine Simulates.inspect ?_
  rintro _ m ⟨rfl, known⟩
  exact same m known

theorem perform {exec exec' : Exec α} (agrees : Agrees program exec exec') {m : Machine}
    (known : m.Knows program) (w : World) :
    exec'.perform m w = exec.perform m w ∧ (exec.perform m w).1.1 ≠ .error .exhausted := by
  obtain ⟨_, _, _, _, _, first, second, ⟨rfl, -⟩, alike⟩ :=
    agrees m m w ⟨rfl, known⟩
  rw [first, second]
  cases alike with
  | ok same =>
    subst same
    exact ⟨rfl, by rintro ⟨⟩⟩
  | error bounded =>
    refine ⟨rfl, ?_⟩
    rintro ⟨⟩
    exact bounded rfl

end Agrees

section Visits

variable {program : List (Tree Value)} {host : Host} {visit visit' : Visitor}
variable {most most' : Nat} {p : Site} {property : Tree Value → Prop}
variable (agrees : ∀ p t, property t → Agrees program (visit p t) (visit' p t))

include agrees

theorem agrees_runActivation {routine : Routine} (inBody : ∀ t ∈ routine.body, property t)
    (x : String) (locals : Bindings) : Agrees program (runActivation visit routine x locals)
      (runActivation visit' routine x locals) := by
  have body := runBody_related (congruent_agrees program) agrees [] 1 0 inBody
  refine .get fun m known => ?_
  have entered : (Simulation.within program).states (m.enterFrame routine.name locals)
    (m.enterFrame routine.name locals) := ⟨rfl, known⟩
  refine (Simulates.set entered).andThen fun _ => ?_
  refine .andThen (.thenAlways (.catching body) ?_) fun _ => ?_
  · rintro _ _ ⟨rfl, kept⟩
    exact ⟨rfl, kept⟩
  · refine .andThen (Agrees.modify fun _ kept => kept) fun _ => Agrees.get fun _ _ => ?_
    exact .modest (.bind (.log _ _) fun _ => .pure _)

theorem agrees_callFunction {routine : Routine} (inBody : ∀ t ∈ routine.body, property t)
    (x : String) (args : List (Tree Value)) :
    Agrees program (callFunction visit routine x args) (callFunction visit' routine x args) := by
  refine .get fun m _ => ?_
  split
  · exact .modest (.fail _)
  · exact .andThen (Agrees.modest (.ofAct _)) fun _ =>
      .andThen (Agrees.modest (.ofExcept _)) fun locals =>
        agrees_runActivation agrees inBody x locals

theorem agrees_step_each (x : String) {xs : Tree Value}
    {body : List (Tree Value)} (inItems : property xs) (inBody : ∀ t ∈ body, property t) :
    Agrees program (step host visit most p (.each x xs body))
      (step host visit' most' p (.each x xs body)) := by
  have rounds := runRound_related (congruent_agrees program) agrees p 1 0 inBody
  have setting : ∀ item, Agrees program (modify fun m => m.setItem item : Exec PUnit)
      (modify fun m => m.setItem item) := by
    intro item
    refine .modify fun m known => ?_
    unfold Machine.setItem
    split <;> exact known
  refine .get fun m _ => .andThen (Agrees.modify fun _ known => known) fun _ => ?_
  refine .andThen (agrees _ _ inItems) fun _ => ?_
  refine .andThen (Agrees.modest (modest_wholeItems _)) fun xs => ?_
  refine .andThen (.catching ?_) fun _ => .andThen (Agrees.modify fun _ known => known) fun _ =>
    .pure rfl
  exact overItems_related (congruent_agrees program) rounds setting xs

end Visits

/-- **A visit that fits** ends in the same way however much further it may go. -/
theorem agrees_visitWithin {program : List (Tree Value)} {rank : String → Nat}
    (ranked : Ranked program rank) (whileFree : WhileFree program) {tall : Nat}
    (tallest : ∀ root ∈ program, Within tall root) (host : Host) (most most' : Nat) {d d' : Nat}
    (le : d ≤ d') (p : Site) (t : Tree Value) (fits : Fits program rank tall d t) :
    Agrees program (visitWithin host most d p t) (visitWithin host most' d' p t) := by
  induction d generalizing d' p t with
  | zero =>
    obtain ⟨-, height, _, within, -, _⟩ := fits
    rw [show height = 0 by omega] at within
    exact within.elim
  | succ d ih =>
    cases d' with
    | zero => cases le
    | succ =>
      have agrees := ih (le_of_succ_le_succ le)
      have below : ∀ part ∈ performed t, Fits program rank tall d part := fun part mem =>
        fits.performed mem
      refine (congruent_agrees program).unlessStopped ?_
      cases t with
      | «variable» x => exact .get fun m _ => .modest (.pure _)
      | leave | skip =>
        refine .throw ?_
        rintro ⟨⟩
      | whileLoop c body =>
        rcases fits.belongs with ⟨root, inProgram, inside⟩ | ⟨v, other⟩
        · exact absurd inside (whileFree root inProgram c body)
        · cases other
      | each x =>
        simp only [performed, children, forall_mem_cons] at below
        exact agrees_step_each agrees x below.1 below.2
      | call x args =>
        refine .get fun m known => ?_
        cases registered : m.functions.lookup x with
        | none => exact callOperation_related (congruent_agrees program) agrees host p x below
        | some routine =>
          have defines : Defines program x routine.body := known _ (mem_of_lookup registered)
          exact agrees_callFunction agrees
            (fun t mem => fits.statement tallest ranked defines mem) x args
      | function _ body params =>
        rcases fits.belongs with ⟨root, inProgram, inside⟩ | ⟨v, other⟩
        · refine .andThen (Agrees.modify fun m known => ?_) fun _ => Agrees.modest (.ofAct _)
          exact forall_mem_withRoutine (fun e => Defines program e.1 e.2.body)
            ⟨params, root, inProgram, inside⟩ known
        · cases other
      | _ =>
        exact step_congruent (congruent_agrees program) agrees descends_fits trivial host most
          most' p below rfl

/-! ## Programs -/

/-- There is a depth that is enough for every statement of the program. -/
theorem exists_fits (program : List (Tree Value)) (rank : String → Nat) :
    ∃ tall, (∀ root ∈ program, Within tall root) ∧
      ∃ d, ∀ root ∈ program, Fits program rank tall d root := by
  have heights : ∀ root ∈ program, ∃ tall, Within tall root := fun root _ => exists_within root
  obtain ⟨tall, tallest⟩ := exists_forall_mem Within .mono heights
  have levels : ∀ root ∈ program, ∃ level, CallsBelow program rank level root :=
    fun root mem => exists_callsBelow (tallest root mem)
  obtain ⟨level, below⟩ := exists_forall_mem (CallsBelow program rank) .mono levels
  refine ⟨tall, tallest, tall + level * tall, fun root mem => ?_⟩
  exact ⟨.inl ⟨root, mem, .self⟩, tall, level, tallest root mem, below root mem, le_refl _⟩

theorem agrees_visitInTurn {program : List (Tree Value)} {host : Host} {bound bound' : Bound}
    {es : List Entry}
    (agrees : ∀ e ∈ es, Agrees program (visit host bound [] e.1) (visit host bound' [] e.1)) :
    Agrees program (visitInTurn host bound es) (visitInTurn host bound' es) := by
  induction es with
  | nil => exact .modest (.pure ())
  | cons _ _ ih =>
    rw [forall_mem_cons] at agrees
    refine .andThen (.andThen (Agrees.modify fun _ known => known) fun _ => ?_) fun _ => ih agrees.2
    exact .andThen (Agrees.modify fun _ known => known) fun _ => agrees.1

/-- **Scripts without loops with a condition and without recursion end.** There is a depth, which
depends on the statements only, within which every run of them ends with a value, a break, a
continue or a failure, and no larger bound changes anything. -/
theorem visitInTurn_terminates (entries : List Entry) (rank : String → Nat)
    (ranked : Ranked (entries.map fst) rank) (whileFree : WhileFree (entries.map fst)) :
    ∃ enough, ∀ (host : Host) (machine : Machine) (world : World),
      machine.Knows (entries.map fst) →
      ∃ outcome later after, outcome ≠ .error .exhausted ∧
        ∀ bound : Bound, enough ≤ bound.depth →
          (visitInTurn host bound entries).perform machine world = ((outcome, later), after) := by
  obtain ⟨tall, tallest, enough, fits⟩ := exists_fits (entries.map fst) rank
  have agrees : ∀ (host : Host) (bound : Bound), enough ≤ bound.depth →
      Agrees (entries.map fst) (visitInTurn host ⟨0, enough⟩ entries)
        (visitInTurn host bound entries) := by
    intro host bound deep
    refine agrees_visitInTurn fun entry member => ?_
    exact agrees_visitWithin ranked whileFree tallest host 0 bound.rounds deep [] entry.1
      (fits entry.1 (mem_map_of_mem member))
  refine ⟨enough, fun host machine world known => ?_⟩
  obtain ⟨-, ended⟩ := (agrees host ⟨0, enough⟩ (le_refl _)).perform known world
  exact ⟨_, _, _, ended, fun bound deep => ((agrees host bound deep).perform known world).1⟩

/-- A function that registers another one anew before it calls it, and a loop that calls the
first. -/
def downwards : List Entry :=
  [(.function "f" [.function "g" [.leave] [], .call "g" []] [], "demo"),
   (.loop (.variable "n") [.call "f" []], "demo")]

theorem partOf_downwards {root part : Tree Value} (inProgram : root ∈ downwards.map fst)
    (inside : PartOf part root) :
    part = .function "f" [.function "g" [.leave] [], .call "g" []] [] ∨
      part = .function "g" [.leave] [] ∨ part = .leave ∨ part = .call "g" [] ∨
      part = .loop (.variable "n") [.call "f" []] ∨ part = .variable "n" ∨
      part = .call "f" [] := by
  simp only [downwards, map_cons, map_nil, mem_cons, not_mem_nil, or_false] at inProgram
  rcases inProgram with rfl | rfl <;>
    simp only [partOf_iff _ (.function _ _ _), partOf_iff _ (.call _ _), partOf_iff _ (.loop _ _),
      partOf_iff _ (.variable _), partOf_iff _ .leave, children, mem_cons, not_mem_nil, append_nil,
      exists_eq_or_imp, exists_eq_left, false_and, exists_false, or_false] at inside <;>
    grind

theorem ranked_downwards : Ranked (downwards.map fst) fun x => if x = "f" then 1 else 0 := by
  rintro x _ ⟨_, _, inProgram, inside⟩ _ mem _ _ calls -
  have found := partOf_downwards inProgram inside
  simp only [Tree.function.injEq, reduceCtorEq, or_false] at found
  rcases found with ⟨rfl, rfl, -⟩ | ⟨rfl, rfl, -⟩
  · simp only [mem_cons, not_mem_nil, or_false] at mem
    rcases mem with rfl | rfl
    · rcases calls with _ | ⟨part, -⟩
      cases part
    · rcases calls with _ | ⟨part, -⟩
      · decide
      · cases part
  · rw [mem_singleton.mp mem] at calls
    rcases calls with _ | ⟨part, -⟩
    cases part

theorem whileFree_downwards : WhileFree (downwards.map fst) := by
  intro _ inProgram _ _ inside
  have found := partOf_downwards inProgram inside
  simp only [reduceCtorEq, or_false] at found

/-- The loop is to be run a million times, and one of the functions is there from the beginning. -/
def manyRounds : Machine :=
  { Machine.initial Path.here with
    globals := [("n", .int 1000000)]
    functions := [("g", ⟨"g", [.leave], [], []⟩)] }

theorem knows_manyRounds : manyRounds.Knows (downwards.map fst) := by
  refine forall_mem_singleton.mpr ⟨[], _, mem_cons_self, ?_⟩
  exact .inside mem_cons_self .self

theorem visitInTurn_terminates_downwards :
    Ranked (downwards.map fst) (fun name => if name = "f" then 1 else 0) ∧
    WhileFree (downwards.map fst) ∧ manyRounds.Knows (downwards.map fst) ∧
    ∃ enough outcome later after, outcome ≠ .error .exhausted ∧
      ∀ bound : Bound, enough ≤ bound.depth →
        (visitInTurn Host.bare bound downwards).perform manyRounds default =
          ((outcome, later), after) := by
  obtain ⟨enough, ends⟩ := visitInTurn_terminates downwards _ ranked_downwards whileFree_downwards
  exact ⟨ranked_downwards, whileFree_downwards, knows_manyRounds, enough,
    ends Host.bare manyRounds default knows_manyRounds⟩

end DeviceScript.Execution
