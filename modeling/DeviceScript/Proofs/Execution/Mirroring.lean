import DeviceScript.Proofs.Execution.Balance
import DeviceScript.Proofs.Execution.Renaming
import DeviceScript.Proofs.Execution.Transcript

/-!
# The names of variables carry no meaning

`Mirrors new rel exec exec'` says that two computations, performed in a state and in the renamed
state, change the world in the same way, end alike and leave a state and its renaming. It is
respected by the ways in which computations are put together, so it goes from the visits of subtrees
to the steps of trees and from there to whole scripts.

The values of expressions are the same. Of a statement only the effect counts: the definition of a
function has the tree itself as its value, in which the names differ, but nothing looks at it.

Main statement: a script and the renamed script, run from the start in the same world, leave the
same world, end alike and leave states of which one is the other renamed (`runRest_renamed`).
-/

namespace DeviceScript.Execution

open Exec List Script Script.Tree Renaming Transcript

variable {trees body args : List (Tree Value)}

variable {params : List (Tree Value)} {v t : Tree Value}
  {alts : List (Tree Value × List (Tree Value))} {routine : Routine}

/-! ## Functions whose parameters are names -/

def isVariable : Tree Value → Bool
  | .variable _ => true
  | _ => false

mutual

/-- The parameters of all functions in the statement are names. -/
def hasNames : Tree Value → Bool
  | .function _ body params => params.all isVariable && haveNames body
  | .loop _ body => haveNames body
  | .whileLoop _ body => haveNames body
  | .each _ _ body => haveNames body
  | .branch _ body alts otherwise =>
    haveNames body && branchesHaveNames alts && haveNames otherwise
  | _ => true

/-- The parameters of all functions in the statements are names. -/
def haveNames : List (Tree Value) → Bool
  | [] => true
  | t :: ts => hasNames t && haveNames ts

/-- The parameters of all functions in the further branches are names. -/
def branchesHaveNames : List (Tree Value × List (Tree Value)) → Bool
  | [] => true
  | (_, body) :: alts => haveNames body && branchesHaveNames alts

end

theorem haveNames_iff (ts : List (Tree Value)) :
    haveNames ts = true ↔ ∀ t ∈ ts, hasNames t = true := by
  induction ts with
  | nil => simp [haveNames]
  | cons _ _ ih => rw [haveNames, Bool.and_eq_true, ih, forall_mem_cons]

theorem branchesHaveNames_iff (alts : List (Tree Value × List (Tree Value))) :
    branchesHaveNames alts = true ↔
      ∀ alternative ∈ alts, ∀ t ∈ alternative.2, hasNames t = true := by
  induction alts with
  | nil => simp [branchesHaveNames]
  | cons _ _ ih => rw [branchesHaveNames, Bool.and_eq_true, ih, forall_mem_cons, haveNames_iff]

/-- A statement that can be read, in which the parameters of functions are names. -/
structure Wellnamed (t : Tree Value) : Prop where
  produced : t.IsProduced
  names : hasNames t = true

theorem wellnamed_of_haveNames (produced : ∀ t ∈ trees, t.IsProduced)
    (names : haveNames trees = true) : ∀ t ∈ trees, Wellnamed t := by
  intro t mem
  exact ⟨produced t mem, (haveNames_iff trees).mp names t mem⟩

/-- The functions that are registered can be read and have names as parameters. -/
def Machine.Wellnamed (m : Machine) : Prop :=
  ∀ e ∈ m.functions, (∀ t ∈ e.2.body, Execution.Wellnamed t) ∧
    ∀ parameter ∈ e.2.parameters, isVariable parameter = true

theorem exists_names (named : ∀ parameter ∈ params, isVariable parameter = true) :
    ∃ names : List String, params = names.map .variable := by
  induction params with
  | nil => exact ⟨[], rfl⟩
  | cons parameter _ ih =>
    rw [forall_mem_cons] at named
    obtain ⟨names, rfl⟩ := ih named.2
    cases parameter with
    | «variable» x => exact ⟨x :: names, rfl⟩
    | _ => cases named.1

/-! ## Computations that go together -/

/-- A state and its renaming. -/
def Renaming.simulation (new : Renaming) : Simulation where
  states m m' := m.Wellnamed ∧ m' = new.machine m
  may _ := True

/-- In a state and in the renamed state, the computations change the world in the same way, end
alike, and leave a state and its renaming. -/
def Mirrors (new : Renaming) {α β : Type} (rel : α → β → Prop) (exec : Exec α) (exec' : Exec β) :
    Prop :=
  Simulates new.simulation rel exec exec'

theorem Renaming.lawful (new : Renaming) : new.simulation.Lawful False where
  failed _ := trivial
  stopped going := going.2 ▸ rfl
  title going := going.2 ▸ rfl
  stop _ _ going := ⟨going.1, going.2 ▸ rfl⟩
  write allowed := allowed.elim

/-- The values do not matter. -/
def Whatever {α β : Type} : α → β → Prop := fun _ _ => True

namespace Mirrors

variable {new : Renaming} {α β : Type} {rel : α → β → Prop}

/-- Only the effect counts. -/
theorem effect {exec : Exec α} {exec' : Exec β} (mirrors : Mirrors new rel exec exec') :
    Mirrors new Whatever exec exec' := by
  intro m m' w going
  obtain ⟨_, _, m'', m''', w', first, second, kept, alike⟩ :=
    mirrors m m' w going
  refine ⟨_, _, m'', m''', w', first, second, kept, ?_⟩
  cases alike with
  | ok => exact .ok trivial
  | error => exact .error trivial

/-- What sees and writes no variables is the same in the renamed state. -/
theorem modest {exec : Exec α} (modest : Exec.Modest False exec) : Mirrors new Eq exec exec :=
  new.lawful.modest modest

/-- What looks at the state sees the renamed one. -/
theorem inspect {f : Machine → Exec α} {f' : Machine → Exec β}
    (following : ∀ m, m.Wellnamed → Mirrors new rel (f m) (f' (new.machine m))) :
    Mirrors new rel (get >>= f) (get >>= f') := by
  refine Simulates.inspect ?_
  rintro m _ ⟨wellnamed, rfl⟩
  exact following m wellnamed

/-- A change that commutes with the renaming and leaves the functions as they are keeps states and
their renamings together. -/
theorem keeps {f f' : Machine → Machine} (commutes : ∀ m, f' (new.machine m) = new.machine (f m))
    (kept : ∀ m, (f m).functions = m.functions) (m m' : Machine)
    (going : new.simulation.states m m') : new.simulation.states (f m) (f' m') := by
  obtain ⟨wellnamed, rfl⟩ := going
  refine ⟨?_, commutes m⟩
  rwa [Machine.Wellnamed, kept]

/-- Such a change, and what follows it. -/
theorem change {f f' : Machine → Machine} {next : Exec α} {next' : Exec β}
    (commutes : ∀ m, f' (new.machine m) = new.machine (f m))
    (kept : ∀ m, (f m).functions = m.functions) (following : Mirrors new rel next next') :
    Mirrors new rel (do modify f; next) (do modify f'; next') :=
  (Simulates.modify (keeps commutes kept)).andThen fun _ => following

/-- An outcome and its image. -/
theorem ofExcept_map (o : Except Failure α) (f : α → β) :
    Mirrors new (fun v v' => v' = f v) (Exec.ofExcept o) (Exec.ofExcept (o.map f)) := by
  cases o with
  | ok => exact .pure rfl
  | error => exact .throw trivial

end Mirrors

/-! ## Parts of steps -/

section Parts

variable {new : Renaming}

theorem congruent_mirrors (new : Renaming) :
    Congruent False fun {_} exec exec' => Mirrors new Eq exec exec' :=
  new.lawful.congruent trivial

theorem mirrors_write (x : String) (v result : Value) :
    Mirrors new Eq (do modify fun m => m.write x v; return result : Exec Value)
      (do modify fun m => m.write (new.apply x) v; return result) := by
  refine .change (fun m => new.write m x v) (fun m => ?_) (.pure rfl)
  rcases m.write_cases x v with ⟨_, same⟩ | ⟨_, _, _, same⟩ <;> rw [same]

theorem mirrors_keepResults (host : Host) (x : String) (result : Value) :
    Mirrors new Eq (keepResults host x result) (keepResults host (new.apply x) result) := by
  unfold keepResults
  split
  · refine (Mirrors.modest (modest_writeTips _ _)).andThen fun _ => ?_
    dsimp only
    split
    · exact .pure rfl
    · exact mirrors_write _ _ _
  · exact mirrors_write _ _ _

theorem mirrors_overItems {round round' : Exec Unit} (again : Mirrors new Eq round round')
    (xs : Value) : Mirrors new Eq (overItems round xs) (overItems round' xs) := by
  refine overItems_related (congruent_mirrors new) again (fun x => ?_) xs
  refine .modify (Mirrors.keeps (fun m => new.setItem m x) fun m => ?_)
  rw [Machine.setItem]
  split <;> rfl

end Parts

/-! ## Declarations -/

def keep (name : String) (v : Value) : Exec Value := do
  modify fun m => m.write name v
  return v

theorem step_gather_formula (host : Host) (visit : Visitor) (most : Nat) (site : Site)
    (x : String) (formula : v.IsFormula) (given : v ≠ .missing) (source : Tree Value) :
    step host visit most site (.gather x v source) = visit ((0, 0) :: site) v >>= keep x := by
  have truthy : isGiven v = true := by
    cases formula with
    | missing => exact absurd rfl given
    | _ => rfl
  rw [step, if_pos truthy]
  cases formula <;> rfl

/-- Nothing is on the right. -/
theorem step_gather_missing (host : Host) (visit : Visitor) (most : Nat) (site : Site)
    (x : String) {elements : Tree Value} (nothing : elements = .missing ∨ elements = .list []) :
    step host visit most site (.gather x elements .missing) = (do
      let _ ← ofAct scriptNames
      fail (.noAttribute "NoneType" "func_name")) := by
  rcases nothing with rfl | rfl <;> rfl

/-! ## Visits -/

/-- Visits of a tree and of the renamed tree go together. An expression has the same value. -/
structure MirrorsVisits (new : Renaming) (visit : Visitor) : Prop where
  formula : ∀ (site : Site) {t : Tree Value}, t.IsFormula →
    Mirrors new Eq (visit site t) (visit site (new.tree t))
  literal : ∀ (site : Site) (v : Value),
    Mirrors new Eq (visit site (.literal v)) (visit site (.literal v))
  statement : ∀ (site : Site) {t : Tree Value}, Wellnamed t →
    Mirrors new Whatever (visit site t) (visit site (new.tree t))

section Steps

variable {new : Renaming} {visit : Visitor} (visits : MirrorsVisits new visit)

include visits

variable (host : Host) (most : Nat) (site : Site) (part index : Nat) (x : String)

theorem mirrors_visitAll (formulas : ∀ t ∈ trees, t.IsFormula) :
    Mirrors new Eq (visitAll visit site part index trees)
      (visitAll visit site part index (new.trees trees)) := by
  induction trees generalizing index with
  | nil => exact .pure rfl
  | cons _ _ ih =>
    rw [forall_mem_cons] at formulas
    refine (visits.formula _ formulas.1).andThen fun v => ?_
    exact (ih (index + 1) formulas.2).andThen fun vs => .pure rfl

theorem mirrors_runBody (wellnamed : ∀ t ∈ trees, Wellnamed t) :
    Mirrors new Eq (runBody visit site part index trees)
      (runBody visit site part index (new.trees trees)) := by
  induction trees generalizing index with
  | nil => exact .pure rfl
  | cons _ _ ih =>
    rw [forall_mem_cons] at wellnamed
    exact (visits.statement _ wellnamed.1).bind fun _ _ _ => ih (index + 1) wellnamed.2

theorem mirrors_runRound (wellnamed : ∀ t ∈ trees, Wellnamed t) :
    Mirrors new Eq (runRound visit site part index trees)
      (runRound visit site part index (new.trees trees)) := by
  induction trees generalizing index with
  | nil => exact .pure rfl
  | cons _ _ ih =>
    rw [forall_mem_cons] at wellnamed
    refine (Simulates.catching ?_).andThen fun _ => ih (index + 1) wellnamed.2
    exact (visits.statement _ wellnamed.1).bind fun _ _ _ => .pure rfl

theorem mirrors_nestedItems (entries : ∀ t ∈ trees, t.IsEntry) :
    Mirrors new Eq (nestedItems visit site index trees)
      (nestedItems visit site index (new.trees trees)) := by
  fun_induction nestedItems visit site index trees with
  | case1 =>
    rw [Renaming.trees, nestedItems]
    exact .pure rfl
  | case2 _ _ inner trees innerHypothesis ih =>
    rw [forall_mem_cons] at entries
    have inInner : ∀ t ∈ inner, t.IsEntry := by
      cases entries.1 with
      | formula isFormula => cases isFormula
      | list inItems => exact inItems
    rw [Renaming.trees, tree, nestedItems]
    exact (innerHypothesis inInner).andThen fun _ => (ih entries.2).andThen fun _ => .pure rfl
  | case3 _ _ t trees notList ih =>
    rw [forall_mem_cons] at entries
    have isFormula : t.IsFormula := by
      cases entries.1 with
      | formula isFormula => exact isFormula
      | list => exact (notList _ rfl).elim
    rw [Renaming.trees, nestedItems]
    · exact (visits.formula _ isFormula).andThen fun _ => (ih entries.2).andThen fun _ => .pure rfl
    · intro inner same
      cases isFormula <;> cases same

/-- The chosen branch is the renamed one. -/
theorem mirrors_chooseBranch (conditions : ∀ alternative ∈ alts, alternative.1.IsFormula)
    (bodies : ∀ alternative ∈ alts, ∀ t ∈ alternative.2, Wellnamed t) (part : Nat)
    (inBody : ∀ t ∈ body, Wellnamed t) :
    Mirrors new (fun chosen chosen' => chosen' = (chosen.1, new.trees chosen.2) ∧
        ∀ t ∈ chosen.2, Wellnamed t)
      (chooseBranch visit site (part, body) index alts)
      (chooseBranch visit site (part, new.trees body) index (new.branches alts)) := by
  induction alts generalizing index with
  | nil => exact .pure ⟨rfl, inBody⟩
  | cons _ _ ih =>
    rw [forall_mem_cons] at conditions bodies
    refine (visits.formula _ conditions.1).andThen fun v => ?_
    split
    · exact .pure ⟨rfl, bodies.1⟩
    · exact ih (index + 1) conditions.2 bodies.2

/-! ## Calls -/

theorem mirrors_callOperation (formulas : ∀ t ∈ args, t.IsFormula) :
    Mirrors new Eq (callOperation host visit site x args)
      (callOperation host visit site x (new.trees args)) := by
  refine (Mirrors.modest (.ofAct _)).andThen fun operation => ?_
  split
  · refine (mirrors_visitAll visits site 1 0 formulas).andThen fun vs => .guarded ?_ _
    exact Mirrors.modest (.bind (.ofAct _) fun _ => .bind (.ofExcept _) fun _ =>
      .bind (modest_writeTips _ _) fun _ => .pure _)
  · exact (Mirrors.modest (.log _ _)).andThen fun _ => .pure rfl

theorem mirrors_callForResults (callee : String) (formulas : ∀ t ∈ args, t.IsFormula) :
    Mirrors new Eq (callForResults host visit site x (.call callee args))
      (callForResults host visit site (new.apply x) (.call callee (new.trees args))) := by
  refine (Mirrors.modest (.ofAct _)).andThen fun names =>
    (Mirrors.modest (.ofAct _)).andThen fun operation => ?_
  split
  · refine (mirrors_visitAll visits site 1 0 formulas).andThen fun vs => .guarded ?_ _
    exact (Mirrors.modest (.ofAct _)).andThen fun _ => mirrors_keepResults _ _ _
  · exact (Mirrors.modest (.log _ _)).andThen fun _ => .pure rfl

theorem mirrors_runActivation (wellnamed : ∀ t ∈ routine.body, Wellnamed t) (x : String)
    (locals : Bindings) : Mirrors new Eq (runActivation visit routine x locals)
      (runActivation visit (new.routine routine) x (new.bindings locals)) := by
  refine .inspect fun m kept => ?_
  have height : (new.machine m).frames.length = m.frames.length := length_map ..
  rw [height]
  have entered : new.simulation.states (m.enterFrame routine.name locals)
    (new.machine (m.enterFrame routine.name locals)) := ⟨kept, rfl⟩
  have body : Mirrors new Eq
      (thenAlways (catchLeave (runBody visit [] 1 0 routine.body))
        fun later => { later with memory := m.memory })
      (thenAlways (catchLeave (runBody visit [] 1 0 (new.routine routine).body))
        fun later => { later with memory := (new.machine m).memory }) :=
    .thenAlways (.catching (mirrors_runBody visits [] 1 0 wellnamed))
      (Mirrors.keeps (fun _ => rfl) fun _ => rfl)
  refine (Simulates.set entered).andThen fun _ => body.andThen fun _ => ?_
  refine Mirrors.change (fun later => new.leaveFrame later _) (fun _ => rfl) ?_
  refine .inspect fun later _ => ?_
  have depth : (new.machine later).frames.length = later.frames.length := length_map ..
  rw [depth]
  exact (Mirrors.modest (.log _ _)).andThen fun _ => .pure rfl

/-- A function is called with the same arguments under new names. -/
theorem mirrors_callFunction (wellnamed : ∀ t ∈ routine.body, Wellnamed t)
    (named : ∀ parameter ∈ routine.parameters, isVariable parameter = true) (x : String)
    (formulas : ∀ t ∈ args, t.IsFormula) :
    Mirrors new Eq (callFunction visit routine x args)
      (callFunction visit (new.routine routine) x (new.trees args)) := by
  refine .inspect fun m _ => ?_
  obtain ⟨names, same⟩ := exists_names named
  have many : (new.routine routine).parameters.length = routine.parameters.length :=
    new.length_trees _
  rw [many, new.length_trees]
  split
  · exact .throw trivial
  · refine (Mirrors.modest (.ofAct _)).andThen fun serial => ?_
    have bound := new.bindArguments m serial names args formulas routine.locals
    rw [← same] at bound
    have given : Execution.bindArguments (new.machine m) serial
        (new.routine routine).parameters (new.trees args) (new.routine routine).locals = _ :=
      bound
    rw [given]
    refine (Mirrors.ofExcept_map _ new.bindings).bind ?_
    rintro locals _ rfl
    exact mirrors_runActivation visits wellnamed x locals

/-! ## Steps -/

/-- A step of an expression and of the renamed one give the same value. -/
theorem mirrors_step_formula (formula : t.IsFormula) :
    Mirrors new Eq (step host visit most site t) (step host visit most site (new.tree t)) := by
  cases formula with
  | missing | string => exact .pure rfl
  | number => exact .modest (.ofExcept _)
  | name x => exact .inspect fun m _ => .pure (new.read m x).symm
  | binary _ isLeft isRight =>
    exact (visits.formula _ isLeft).andThen fun _ => (visits.formula _ isRight).andThen fun _ =>
      Mirrors.modest (.ofAct _)

theorem mirrors_step_gatherList {xs : List (Tree Value)} (entries : ∀ t ∈ xs, t.IsEntry) :
    Mirrors new Eq (step host visit most site (.gather x (.list xs) .missing))
      (step host visit most site (new.tree (.gather x (.list xs) .missing))) := by
  cases xs with
  | nil =>
    rw [step_gather_missing host visit most site _ (.inr rfl)]
    exact (Mirrors.modest (.ofAct _)).andThen fun _ => .throw trivial
  | cons =>
    exact (mirrors_nestedItems visits site 0 entries).andThen fun _ =>
      (visits.literal _ _).andThen fun _ => mirrors_write _ _ _

theorem mirrors_step_gatherValue (formula : v.IsFormula) :
    Mirrors new Eq (step host visit most site (.gather x v .missing))
      (step host visit most site (new.tree (.gather x v .missing))) := by
  by_cases given : v = .missing
  · subst given
    rw [step_gather_missing host visit most site _ (.inl rfl)]
    exact (Mirrors.modest (.ofAct _)).andThen fun _ => .throw trivial
  · have given' : new.tree v ≠ .missing := by
      cases formula with
      | missing => exact absurd rfl given
      | _ => rintro ⟨⟩
    have renamed : new.tree (.gather x v .missing) =
        .gather (new.apply x) (new.tree v) .missing := by simp only [tree]
    rw [renamed, step_gather_formula host visit most site x formula given,
      step_gather_formula host visit most site _ (new.isFormula_tree formula) given']
    exact (visits.formula _ formula).andThen fun _ => mirrors_write _ _ _

/-- A loop over items has the renamed item. -/
theorem mirrors_step_each {xs : Tree Value} (formula : xs.IsFormula)
    (wellnamed : ∀ t ∈ body, Wellnamed t) :
    Mirrors new Eq (step host visit most site (.each x xs body))
      (step host visit most site (new.tree (.each x xs body))) := by
  rw [tree]
  refine .inspect fun m _ => ?_
  have height : (new.machine m).loops.length = m.loops.length := length_map ..
  rw [height]
  refine .change (fun m' => new.enterLoop m' site x) (fun _ => rfl) ?_
  refine (visits.formula _ formula).andThen fun v => ?_
  refine (Mirrors.modest (modest_wholeItems v)).andThen fun xs => ?_
  have rounds := mirrors_overItems (mirrors_runRound visits site 1 0 wellnamed) xs
  refine (Simulates.catching rounds).andThen fun _ => ?_
  exact Mirrors.change (fun m' => new.leaveLoop m' site _) (fun _ => rfl) (.pure rfl)

theorem mirrors_step_call (formulas : ∀ t ∈ args, t.IsFormula) :
    Mirrors new Eq (step host visit most site (.call x args))
      (step host visit most site (new.tree (.call x args))) := by
  rw [tree]
  refine .inspect fun m kept => ?_
  rw [new.lookup_functions]
  cases found : m.functions.lookup x with
  | none => exact mirrors_callOperation visits host site x formulas
  | some =>
    obtain ⟨inBody, named⟩ := kept _ (mem_of_lookup found)
    exact mirrors_callFunction visits inBody named x formulas

/-- The same branch is taken. -/
theorem mirrors_step_branch {c : Tree Value} (formula : c.IsFormula) {otherwise : List (Tree Value)}
    (inBody : ∀ t ∈ body, Wellnamed t) (conditions : ∀ alternative ∈ alts, alternative.1.IsFormula)
    (bodies : ∀ alternative ∈ alts, ∀ t ∈ alternative.2, Wellnamed t)
    (inOtherwise : ∀ t ∈ otherwise, Wellnamed t) :
    Mirrors new Whatever (step host visit most site (.branch c body alts otherwise))
      (step host visit most site
        (new.tree (.branch c body alts otherwise))) := by
  rw [tree]
  refine (visits.formula _ formula).andThen fun v => ?_
  have choosing : Mirrors new (fun chosen chosen' => chosen' = (chosen.1, new.trees chosen.2) ∧
        ∀ t ∈ chosen.2, Wellnamed t)
      (chooseBranch visit site (if v.truthy then (1, body) else (2, otherwise)) 0 alts)
      (chooseBranch visit site
        (if v.truthy then (1, new.trees body) else (2, new.trees otherwise)) 0
        (new.branches alts)) := by
    split
    · exact mirrors_chooseBranch visits site 0 conditions bodies 1 inBody
    · exact mirrors_chooseBranch visits site 0 conditions bodies 2 inOtherwise
  refine choosing.bind ?_
  rintro ⟨part, chosen⟩ _ ⟨rfl, inChosen⟩
  exact (mirrors_runBody visits site part 0 inChosen).andThen fun _ => .pure trivial

omit visits in
/-- A function is registered under its name. Its value is the renamed tree. -/
theorem mirrors_step_function (wellnamed : ∀ t ∈ body, Wellnamed t)
    (named : ∀ parameter ∈ params, isVariable parameter = true) :
    Mirrors new Whatever (step host visit most site (.function x body params))
      (step host visit most site (new.tree (.function x body params))) := by
  rw [tree, step, step]
  have registering : Mirrors new Eq
      (modify fun m => m.register ⟨x, body, params, []⟩ : Exec PUnit)
      (modify fun m =>
        m.register ⟨x, new.trees body, new.trees params, []⟩) := by
    refine .modify ?_
    rintro m _ ⟨kept, rfl⟩
    refine ⟨?_, new.register m ⟨x, body, params, []⟩⟩
    exact forall_mem_withRoutine (fun e => (∀ t ∈ e.2.body, Wellnamed t) ∧
      ∀ parameter ∈ e.2.parameters, isVariable parameter = true) ⟨wellnamed, named⟩ kept
  refine registering.andThen fun _ => ?_
  intro _ _ _ going
  exact ⟨_, _, _, _, _, rfl, rfl, going, .ok trivial⟩

/-- **Steps of a statement and of the renamed statement go together.** -/
theorem mirrors_step_statement (wellnamed : Wellnamed t) :
    Mirrors new Whatever (step host visit most site t)
      (step host visit most site (new.tree t)) := by
  obtain ⟨produced, names⟩ := wellnamed
  cases produced with
  | missing => exact .pure trivial
  | leave | skip => exact .throw trivial
  | title =>
    rw [step]
    exact (Mirrors.modest (.ofAct _)).effect
  | assign _ isValue =>
    exact (visits.formula _ isValue).andThen fun _ => (mirrors_write _ _ _).effect
  | gatherList x entries =>
    exact (mirrors_step_gatherList visits host most site x entries).effect
  | gatherCall x callee formulas =>
    exact (mirrors_callForResults visits host site x callee formulas).effect
  | gatherValue x isValue =>
    exact (mirrors_step_gatherValue visits host most site x isValue).effect
  | branch isCondition inBody areConditions inBodies inOtherwise =>
    rw [hasNames, Bool.and_eq_true, Bool.and_eq_true, branchesHaveNames_iff] at names
    obtain ⟨⟨ofBody, ofBodies⟩, ofOtherwise⟩ := names
    refine mirrors_step_branch visits host most site isCondition
      (wellnamed_of_haveNames inBody ofBody) areConditions ?_
      (wellnamed_of_haveNames inOtherwise ofOtherwise)
    intro alternative mem t inside
    exact ⟨inBodies alternative mem t inside, ofBodies alternative mem t inside⟩
  | print isValue =>
    refine (visits.formula _ isValue).andThen fun v => ?_
    exact (Mirrors.modest (.bind (modest_printed v) fun _ => .bind (modest_hostWrite _ _)
      fun _ => .bind (.log _ _) fun _ => .pure _)).effect
  | sleep isDuration =>
    refine (visits.formula _ isDuration).andThen fun v => ?_
    exact (Mirrors.modest (.bind (.ofExcept _) fun _ => .bind (.log _ _) fun _ =>
      .bind (.ofExcept _) fun _ => .bind (modest_wait _ _) fun _ => .pure _)).effect
  | loop isCount inBody =>
    have round := mirrors_runRound visits site 1 0 (wellnamed_of_haveNames inBody names)
    refine (Simulates.catching ?_).andThen fun _ => .pure trivial
    exact (visits.formula _ isCount).andThen fun _ =>
      (Mirrors.modest (.ofExcept _)).andThen fun count =>
        times_related (congruent_mirrors new) round _
  | whileLoop isCondition inBody =>
    have round := mirrors_runRound visits site 1 0 (wellnamed_of_haveNames inBody names)
    refine (Simulates.catching ?_).andThen fun _ => .pure trivial
    exact rounds_related (congruent_mirrors new) (.throw trivial) (visits.formula _ isCondition)
      round
      most
  | each item isItems inBody =>
    exact (mirrors_step_each visits host most site item isItems
      (wellnamed_of_haveNames inBody names)).effect
  | function x inBody =>
    rw [hasNames, Bool.and_eq_true, all_eq_true] at names
    exact mirrors_step_function host most site x (wellnamed_of_haveNames inBody names.2) names.1
  | call x formulas => exact (mirrors_step_call visits host most site x formulas).effect

end Steps

/-- **Visits of a tree and of the renamed tree go together**, within every bound. -/
theorem mirrors_visitWithin (new : Renaming) (host : Host) (most d : Nat) :
    MirrorsVisits new (visitWithin host most d) := by
  induction d with
  | zero =>
    exact ⟨fun _ _ _ => .throw trivial, fun _ _ => .throw trivial, fun _ _ _ => .throw trivial⟩
  | succ _ ih =>
    refine ⟨fun site t formula => ?_, fun site v => ?_, fun site t wellnamed => ?_⟩
    · exact new.lawful.unlessStopped trivial (mirrors_step_formula ih host most site formula)
    · exact new.lawful.unlessStopped trivial (.pure rfl)
    · exact new.lawful.unlessStopped trivial (mirrors_step_statement ih host most site wellnamed)

/-! ## Scripts -/

namespace Renaming

variable (new : Renaming)

/-- A statement with its title, renamed. -/
def entry (entry : Entry) : Entry := (new.tree entry.1, entry.2)

/-- What a text is read as, renamed. -/
def transcript (transcript : Transcript) : Transcript :=
  { transcript with entries := transcript.entries.map new.entry }

/-- The end of a run, with the state renamed. -/
def outcome (outcome : Outcome) : Outcome := (outcome.1, new.machine outcome.2.1, outcome.2.2)

end Renaming

theorem mirrors_visitEntry (new : Renaming) (host : Host) (bound : Bound) {e : Entry}
    (wellnamed : Wellnamed e.1) : Mirrors new Whatever (visitEntry host bound e)
      (visitEntry host bound (new.entry e)) := by
  -- The title is noted and the places of loops are forgotten.
  refine .change (fun _ => rfl) (fun _ => rfl) (.change (fun _ => rfl) (fun _ => rfl) ?_)
  exact (mirrors_visitWithin new host bound.rounds bound.depth).statement [] wellnamed

theorem mirrors_visitInTurn (new : Renaming) (host : Host) (bound : Bound) {entries : List Entry}
    (wellnamed : ∀ e ∈ entries, Wellnamed e.1) :
    Mirrors new Eq (visitInTurn host bound entries)
      (visitInTurn host bound (entries.map new.entry)) := by
  induction entries with
  | nil => exact .pure rfl
  | cons _ _ ih =>
    rw [forall_mem_cons] at wellnamed
    exact (mirrors_visitEntry new host bound wellnamed.1).bind fun _ _ _ => ih wellnamed.2

/-- The statements of a renamed script do the same in a renamed state. -/
theorem play_renamed (new : Renaming) (host : Host) (bound : Bound) {t : Transcript}
    (wellnamed : ∀ e ∈ t.entries, Wellnamed e.1) {m : Machine} (known : m.Wellnamed) (w : World) :
    (new.transcript t).play host bound (new.machine m) w = new.outcome (t.play host bound m w) := by
  obtain ⟨_, _, _, _, _, visited, visited', ⟨-, rfl⟩, alike⟩ :=
    mirrors_visitInTurn new host bound wellnamed m _ w ⟨known, rfl⟩
  rw [play, play, visitThen, visitThen, visited]
  have renamed : (visitInTurn host bound (new.transcript t).entries).perform
      (new.machine m) w = _ := visited'
  rw [renamed]
  cases alike with
  | ok | error => rfl

/-- Every statement of a text can be read. -/
theorem isProduced_of_mem_transcript (n : Nat) : ∀ (r : Reader) (e : Entry),
    e ∈ (ofReader n r).entries → e.1.IsProduced := by
  induction n with
  | zero =>
    intro r e mem
    cases mem
  | succ _ ih =>
    intro r e mem
    rw [ofReader] at mem
    split at mem
    · cases mem
    · rcases read : (Reading.statement (α := Value)).run.run r with ⟨_ | _, r'⟩
      · rw [read] at mem
        cases mem
      · rw [read] at mem
        rw [Reading.statement, Reading.run_inspect] at read
        rcases mem_cons.mp mem with rfl | inside
        · exact Reading.isProduced_of_isRead ⟨_, r, r', read⟩
        · exact ih r' e inside

/-- **The names of variables carry no meaning.** A script whose functions have names as parameters
is run from the start, and so is the same script with its variables renamed, in the same world. Both
change the world in the same way, end with the same error or with none, and leave the same state up
to the names. The same holds of every text that is read as the renamed script. -/
theorem runRest_renamed (new : Renaming) (host : Host) (bound : Bound) (reader : Reader)
    (names : ∀ entry ∈ (ofReader (reader.left + 1) reader).entries,
      hasNames entry.1 = true) (folder : Path) (world : World) :
    let transcript := ofReader (reader.left + 1) reader
    let result := runRest host bound reader (Machine.initial folder) world
    (new.transcript transcript).play host bound (Machine.initial folder) world =
        new.outcome result ∧
      ∀ reader' : Reader,
        ofReader (reader'.left + 1) reader' = new.transcript transcript →
          runRest host bound reader' (Machine.initial folder) world = new.outcome result := by
  intro transcript result
  have wellnamed : ∀ entry ∈ transcript.entries, Wellnamed entry.1 := fun entry member =>
    ⟨isProduced_of_mem_transcript _ reader entry member, names entry member⟩
  have known : (Machine.initial folder).Wellnamed := forall_mem_nil _
  have played := play_renamed new host bound wellnamed known world
  rw [new.initial, ← runRest_eq_play] at played
  refine ⟨played, fun reader' renamed => ?_⟩
  rw [runRest_eq_play, renamed]
  exact played

/-- Exchanges two names. -/
def Renaming.exchange (first second : {name : String // isName name = true})
    (free : ∀ name, name = first ∨ name = second →
      name.1 ≠ "work_path" ∧ (Number.readFloat? name.1).isSome = false) : Renaming where
  toName := Equiv.swap first second
  injective := (Equiv.swap first second).injective
  workPath name same := by
    refine Equiv.swap_apply_of_ne_of_ne ?_ ?_ <;> rintro rfl
    · exact (free name (.inl rfl)).1 same
    · exact (free name (.inr rfl)).1 same
  numeric name numeric := by
    refine Equiv.swap_apply_of_ne_of_ne ?_ ?_ <;> rintro rfl
    · exact Bool.false_ne_true ((free name (.inl rfl)).2.symm.trans numeric)
    · exact Bool.false_ne_true ((free name (.inr rfl)).2.symm.trans numeric)

/-- Exchanges `a` and `b`. -/
def Renaming.swapped : Renaming :=
  .exchange ⟨"a", by decide⟩ ⟨"b", by decide⟩ (by
    rintro _ (rfl | rfl) <;> decide)

/-- A script that passes a global to a function, which gives it back. -/
def passingScript : Reader :=
  ⟨Source.ofText "var a = \"x\"\nfunc f(b) { var a = b }\ncall f(a)", "demo"⟩

/-- The global and the parameter exchange their names. -/
theorem runRest_renamed_passingScript :
    let transcript := ofReader (passingScript.left + 1) passingScript
    let machine := Machine.initial Path.here
    let world := World.initial Surroundings.bare
    let result := runRest Host.bare ⟨1, 9⟩ passingScript machine world
    (∀ entry ∈ transcript.entries, hasNames entry.1 = true) ∧ result.1 = .finished ∧
      (swapped.outcome result).2.1.globals.map Prod.fst = ["work_path", "b"] ∧
      (swapped.transcript transcript).play Host.bare ⟨1, 9⟩ machine world =
        swapped.outcome result := by
  intro transcript machine world result
  have names : ∀ entry ∈ transcript.entries, hasNames entry.1 = true := by decide +kernel
  have finished : result.1 = .finished := by decide +kernel
  have globals : (swapped.outcome result).2.1.globals.map Prod.fst =
      ["work_path", "b"] := by decide +kernel
  have same := runRest_renamed swapped Host.bare ⟨1, 9⟩ passingScript names Path.here world
  exact ⟨names, finished, globals, same.1⟩

end DeviceScript.Execution
