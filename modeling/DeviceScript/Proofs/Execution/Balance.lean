import DeviceScript.Proofs.Execution.Frames
import DeviceScript.Proofs.Execution.Signals
import DeviceScript.Proofs.Script.Settling

/-!
# When the stacks are balanced

A visit pushes an activation for every call and an entry for every loop over items, and takes them
away again by hand. A visit that ends in an orderly way, with a value, a break or a continue, should
leave both stacks as they were.

For the loops this holds of every statement that can be read. For the activations it holds unless a
continue leaves a function: such a continue passes over the place where the activation is taken
away. A strict visit is one that may not do this; it ends at that point. So the activations are
balanced just if the strict visit ends in the same way (`visit_balanced_iff`).

The proof follows both visits at once. As long as they agree the activations are balanced, and once
the strict one has ended the other one has an activation too many and never gets rid of it.
-/

namespace DeviceScript.Execution

open Exec List Script

variable {t : Tree Value} {α : Type} {before : Machine} {i : Interrupt}

/-! ## Strict visits -/

/-- An outcome in which a continue counts as the end of everything. -/
def withoutSkip {α : Type} : Except Interrupt α → Except Interrupt α
  | .error .skip => .error .exhausted
  | other => other

/-- A continue ends the computation for good. -/
def Exec.forbidSkip {α : Type} (exec : Exec α) : Exec α := fun m w =>
  match exec.perform m w with
  | ((o, m), w) => ((withoutSkip o, m), w)

/-- What a tree does if no continue may leave a function of the script. -/
def strictStep (host : Host) (visit : Visitor) (most : Nat) (site : Site) : Tree Value → Exec Value
  | .call name args => do
    match (← get).functions.lookup name with
    | some routine =>
      callFunction (fun site t => (visit site t).forbidSkip) routine name args
    | none => callOperation host visit site name args
  | t => step host visit most site t

/-- Visits a tree; a continue that would leave a function of the script ends the visit. -/
def strictWithin (host : Host) (most : Nat) : (depth : Nat) → Visitor
  | 0, _, _ => throw .exhausted
  | depth + 1, site, t =>
    unlessStopped (strictStep host (strictWithin host most depth) most site t)

def strictVisit (host : Host) (bound : Bound) : Visitor :=
  strictWithin host bound.rounds bound.depth

theorem perform_forbidSkip (exec : Exec α) (m : Machine) (w : World) :
    exec.forbidSkip.perform m w =
      ((withoutSkip (exec.perform m w).1.1, (exec.perform m w).1.2), (exec.perform m w).2) := rfl

theorem forbidSkip_bind {β : Type} (first : Exec α) (f : α → Exec β) :
    (first >>= f).forbidSkip = first.forbidSkip >>= fun v => (f v).forbidSkip := by
  refine ext_perform fun m w => ?_
  rw [perform_bind, perform_forbidSkip, perform_forbidSkip, perform_bind]
  rcases first.perform m w with ⟨⟨i | _, _⟩, _⟩
  · cases i <;> rfl
  · rfl

theorem runBody_forbidSkip (visit : Visitor) (p : Site) (part i : Nat) (ts : List (Tree Value)) :
    runBody (fun p t => (visit p t).forbidSkip) p part i ts =
      (runBody visit p part i ts).forbidSkip := by
  induction ts generalizing i with
  | nil => rfl
  | cons _ _ ih => rw [runBody, runBody, forbidSkip_bind, ih]

/-! ## Two visits at once -/

/-- Every function that is registered has a body that can be read. -/
def Machine.Ready (m : Machine) : Prop :=
  ∀ e ∈ m.functions, ∀ t ∈ e.2.body, t.IsProduced

/-- How the outcome of a visit compares with that of the strict one from the same state. If they are
the same, an orderly end leaves the activations balanced; otherwise the strict one has ended, and
the other one has left an activation behind. -/
structure Accounts {α : Type} (loops : List ItemLoop → List ItemLoop → Prop) (before : Machine)
    (actual strict : (Except Interrupt α × Machine) × World) : Prop where
  evolves : Evolves before actual.1.2
  ready : actual.1.2.Ready
  loops : orderly actual.1.1 = true → loops before.loops actual.1.2.loops
  frames : (strict = actual ∧ (orderly actual.1.1 = true →
      Resumes Activation.function before.frames actual.1.2.frames)) ∨
    (strict.1.1 = .error .exhausted ∧ before.frames.length < actual.1.2.frames.length)

/-- The second computation is a strict version of the first one. -/
def Twin {α : Type} (loops : List ItemLoop → List ItemLoop → Prop) (actual strict : Exec α) :
    Prop :=
  ∀ m w, m.Ready → Accounts loops m (actual.perform m w) (strict.perform m w)

section Compatibility

variable {loops : List ItemLoop → List ItemLoop → Prop}

/-- A plain change leaves the functions, the loops and the order of activations as they are. -/
theorem Machine.Settles.balanced {m : Machine} (settles : before.Settles m) :
    m.functions = before.functions ∧ m.loops = before.loops ∧
      Resumes Activation.function before.frames m.frames := by
  induction settles with
  | refl => exact ⟨rfl, rfl, .refl _⟩
  | @write m' x v _ ih =>
    obtain ⟨functions, loops, frames⟩ := ih
    have resumes := frames.trans (resumes_write m' x v)
    rcases m'.write_cases x v with ⟨_, written⟩ | ⟨_, _, _, written⟩
    · rw [written] at resumes ⊢
      exact ⟨functions, loops, resumes⟩
    · rw [written] at resumes ⊢
      exact ⟨functions, loops, resumes⟩
  | stop _ ih => exact ih

theorem Accounts.caught (signal : i.isSignal = true) {o o' : Except Interrupt Unit} {m m' : Machine}
    {w w' : World} (accounts : Accounts loops before ((o, m), w) ((o', m'), w')) :
    Accounts loops before ((Exec.caught i o, m), w) ((Exec.caught i o', m'), w') := by
  have same : orderly (Exec.caught i o) = orderly o := by
    rcases o with _ | ⟨⟩
    · rw [Exec.caught]
      split
      · rename_i found
        rw [found]
        exact signal.symm
      · rfl
    · rfl
  obtain ⟨evolves, ready, inLoops, inFrames⟩ := accounts
  refine ⟨evolves, ready, fun ended => inLoops (same ▸ ended), ?_⟩
  rcases inFrames with ⟨agree, balanced⟩ | ⟨ended, longer⟩
  · cases agree
    exact .inl ⟨rfl, fun ended => balanced (same ▸ ended)⟩
  · refine .inr ⟨?_, longer⟩
    rw [show o' = .error .exhausted from ended]
    cases i <;> first | rfl | cases signal

theorem compatible_twin (refl : ∀ stack, loops stack stack)
    (trans : ∀ {first second third}, loops first second → loops second third → loops first third) :
    Compatible fun {_} actual strict => Twin loops actual strict where
  plain := by
    intro _ exec plain m w ready
    have settles := plain m w
    obtain ⟨functions, sameLoops, resumes⟩ := settles.balanced
    refine ⟨settles.evolves, ?_, fun _ => ?_, .inl ⟨rfl, fun _ => resumes⟩⟩
    · rw [Machine.Ready, functions]
      exact ready
    · rw [sameLoops]
      exact refl _
  bind := by
    intro _ _ first _ f _ before after m w ready
    have start := before m w ready
    rcases reached : first.perform m w with ⟨⟨_ | v, m'⟩, w'⟩ <;>
      rw [reached] at start
    · rw [perform_bind_error reached]
      refine ⟨start.evolves, start.ready, start.loops, ?_⟩
      rcases start.frames with ⟨agree, balanced⟩ | ⟨ended, longer⟩
      · exact .inl ⟨perform_bind_error agree, balanced⟩
      · exact .inr ⟨outcome_bind_error ended, longer⟩
    · have rest := after v m' w' start.ready
      rw [perform_bind_ok reached]
      refine ⟨start.evolves.trans rest.evolves, rest.ready,
        fun ended => trans (start.loops rfl) (rest.loops ended), ?_⟩
      rcases start.frames with ⟨agree, balanced⟩ | ⟨ended, longer⟩
      · rw [perform_bind_ok agree]
        rcases rest.frames with ⟨agree', balanced'⟩ | ⟨ended', longer'⟩
        · exact .inl ⟨agree', fun ended => (balanced rfl).trans (balanced' ended)⟩
        · rw [(balanced rfl).length_eq] at longer'
          exact .inr ⟨ended', longer'⟩
      · -- What has been left behind by now stays, whatever comes next.
        exact .inr ⟨outcome_bind_error ended,
          Nat.lt_of_lt_of_le longer rest.evolves.frames.length_le⟩
  catching := by
    intro _ exec _ signal twin m w ready
    rw [perform_catching]
    exact Accounts.caught signal (twin m w ready)

/-- A weaker demand on the loops. -/
theorem Twin.mono {loops' : List ItemLoop → List ItemLoop → Prop} {actual strict : Exec α}
    (twin : Twin loops actual strict)
    (implies : ∀ {before after}, loops before after → loops' before after) :
    Twin loops' actual strict := by
  intro m w ready
  obtain ⟨evolves, ready, inLoops, inFrames⟩ := twin m w ready
  exact ⟨evolves, ready, fun ended => implies (inLoops ended), inFrames⟩

end Compatibility

/-- Between statements the loops are the same. -/
theorem compatible_twin_eq : Compatible fun {_} actual strict => Twin Eq actual strict :=
  compatible_twin (fun _ => rfl) Eq.trans

/-- Between the rounds of a loop its own item may have changed. -/
theorem compatible_twin_resumes :
    Compatible fun {_} actual strict => Twin (Resumes ItemLoop.name) actual strict :=
  compatible_twin .refl .trans

/-! ## Activations -/

section Activations

variable {loops : List ItemLoop → List ItemLoop → Prop} {visit visit' : Visitor}
variable {routine : Routine}

variable {m : Machine} {locals : Bindings}

/-- The activation of a body that ends as it should is taken away. That of a body that is left in
another way stays; if a continue has left it, the strict body has ended for good. -/
theorem Accounts.concluded {actual strict : (Except Interrupt Unit × Machine) × World}
    (x : String) (accounts : Accounts loops (m.enterFrame routine.name locals) actual strict) :
    Accounts loops m (concluded x m actual)
      (concluded x m ((withoutSkip strict.1.1, strict.1.2), strict.2)) := by
  obtain ⟨evolves, ready, inLoops, inFrames⟩ := accounts
  have confined := evolves.concluded x
  obtain ⟨⟨o, m'⟩, w⟩ := actual
  rcases ended_or_interrupted o with ended | ⟨i, other, rfl⟩
  · have isOrderly : orderly o = true := by
      rcases ended with rfl | rfl <;> rfl
    obtain ⟨_, same⟩ := concluded_of_ended x ended
    rw [same] at confined ⊢
    refine ⟨confined.evolves, ready, fun _ => inLoops isOrderly, ?_⟩
    rcases inFrames with ⟨rfl, balanced⟩ | ⟨exhausted, longer⟩
    · refine .inl ⟨?_, fun _ => ?_⟩
      · rw [← same]
        rcases ended with rfl | rfl <;> rfl
      · obtain ⟨top, frames, _⟩ := (balanced isOrderly).exists_cons
        rw [show m'.frames = [] ++ top :: m.frames from frames, dropAt_append_cons]
        exact .refl _
    · rw [exhausted]
      refine .inr ⟨rfl, ?_⟩
      obtain ⟨left, own, frames⟩ := evolves.frames.exists_cons
      rw [show m'.frames = left ++ own :: m.frames from frames] at longer ⊢
      rw [dropAt_append_cons]
      simp only [Machine.enterFrame, length_append, length_cons] at longer ⊢
      omega
  · have longer : m.frames.length < m'.frames.length := evolves.frames.length_le
    rw [concluded_of_error x other] at confined ⊢
    refine ⟨confined.evolves, ready, inLoops, ?_⟩
    rcases inFrames with ⟨rfl, _⟩ | ⟨exhausted, _⟩
    · cases i with
      | leave => exact absurd rfl other
      | skip => exact .inr ⟨rfl, longer⟩
      | failed | exhausted => exact .inl ⟨rfl, nofun⟩
    · rw [exhausted]
      exact .inr ⟨rfl, longer⟩

/-- An activation is taken away just if no continue leaves it. -/
theorem runActivation_twin
    (twin : Twin loops (runBody visit [] 1 0 routine.body) (runBody visit' [] 1 0 routine.body))
    (x : String) (locals : Bindings) : Twin loops (runActivation visit routine x locals)
      (runActivation (fun p t => (visit' p t).forbidSkip) routine x locals) := by
  intro m w ready
  rw [perform_runActivation, perform_runActivation, runBody_forbidSkip, perform_forbidSkip]
  exact (twin (m.enterFrame routine.name locals) w ready).concluded x

theorem callFunction_twin
    (twin : Twin Eq (runBody visit [] 1 0 routine.body) (runBody visit' [] 1 0 routine.body))
    (x : String) (args : List (Tree Value)) :
    Twin Eq (callFunction visit routine x args)
      (callFunction (fun p t => (visit' p t).forbidSkip) routine x args) := by
  refine compatible_twin_eq.bind (compatible_twin_eq.plain .get) fun m => ?_
  split
  · exact compatible_twin_eq.plain (.throw _)
  · refine compatible_twin_eq.bind (compatible_twin_eq.plain (.ofAct _)) fun _ => ?_
    exact compatible_twin_eq.bind (compatible_twin_eq.plain (.ofExcept _)) fun locals =>
      runActivation_twin twin x locals

end Activations

/-! ## Loops over items -/

theorem twin_setItem (x : Value) :
    Twin (Resumes ItemLoop.name) (modify fun m => m.setItem x : Exec PUnit)
      (modify fun m => m.setItem x) := by
  intro m _ ready
  rw [perform_modify]
  unfold Machine.setItem
  cases loops : m.loops with
  | nil => exact ⟨.refl m, ready, fun _ => .refl _, .inl ⟨rfl, fun _ => .refl _⟩⟩
  | cons =>
    refine ⟨.of_eq rfl rfl rfl, ready, fun _ => ?_, .inl ⟨rfl, fun _ => .refl _⟩⟩
    rw [loops]
    exact ⟨rfl, rfl⟩

section Loops

variable {host : Host} {most d : Nat} {site p : Site} {x : String}
variable {xs : Tree Value} {body : List (Tree Value)} {strict : Visitor}

/-- A loop over the items that a formula gives takes away its own entry and no other. -/
theorem accounts_each (formula : xs.IsFormula)
    (twin : Twin (Resumes ItemLoop.name) (loopOver (visitWithin host most d) p xs body)
      (loopOver strict p xs body))
    {m : Machine} (running : m.stopped = false) (w : World)
    (ready : m.Ready) :
    Accounts Eq m
      ((step host (visitWithin host most d) most p (.each x xs body)).perform
        m w)
      ((step host strict most p (.each x xs body)).perform m w) := by
  have accounts := twin (m.enterLoop p x) w ready
  have entered : Evolves m (m.enterLoop p x) := .of_eq rfl rfl rfl
  have running : (m.enterLoop p x).stopped = false := running
  rw [perform_step_each, perform_step_each]
  rcases reached : (loopOver (visitWithin host most d) p xs body).perform
    (m.enterLoop p x) w with ⟨⟨i | _, m'⟩, _⟩ <;>
    rw [reached] at accounts
  · have silent : i.isSignal = false :=
      not_isSignal_loopOver formula running (congrArg (fun res => res.1.1) reached)
    have disorderly : ¬ i.isSignal = true := by simp [silent]
    rw [perform_bind_error reached]
    refine ⟨entered.trans accounts.evolves, accounts.ready,
      fun ended => absurd ended disorderly, ?_⟩
    rcases accounts.frames with ⟨agree, _⟩ | ⟨ended, longer⟩
    · exact .inl ⟨perform_bind_error agree, fun ended => absurd ended disorderly⟩
    · exact .inr ⟨outcome_bind_error ended, longer⟩
  · rw [perform_bind_ok reached]
    refine ⟨(entered.trans accounts.evolves).trans (.of_eq rfl rfl rfl), accounts.ready, ?_, ?_⟩
    · intro _
      obtain ⟨top, stack, _⟩ := (accounts.loops rfl).exists_cons
      show m.loops = Machine.dropAt m'.loops m.loops.length
      rw [show m'.loops = [] ++ top :: m.loops from stack, dropAt_append_cons]
      rfl
    · rcases accounts.frames with ⟨agree, balanced⟩ | ⟨ended, longer⟩
      · exact .inl ⟨perform_bind_ok agree, fun _ => balanced rfl⟩
      · exact .inr ⟨outcome_bind_error ended, longer⟩

end Loops

/-! ## Visits -/

/-- The trees that are visited when statements that can be read are. -/
def Visited (t : Tree Value) : Prop :=
  t.IsProduced ∨ t.IsEntry ∨ ∃ v, t = .literal v

theorem Visited.each {x : String} {xs : Tree Value} {body : List (Tree Value)}
    (visited : Visited (.each x xs body)) : xs.IsFormula ∧ ∀ t ∈ body, t.IsProduced := by
  rcases visited with produced | entry | ⟨_, ⟨⟩⟩
  · cases produced with
    | each _ isItems inBody => exact ⟨isItems, inBody⟩
  · cases entry with
    | formula isFormula => cases isFormula

theorem Visited.function {x : String} {body params : List (Tree Value)}
    (visited : Visited (.function x body params)) : ∀ t ∈ body, t.IsProduced := by
  rcases visited with produced | entry | ⟨_, ⟨⟩⟩
  · cases produced with
    | function _ inBody => exact inBody
  · cases entry with
    | formula isFormula => cases isFormula

theorem Visited.of_formula (formula : t.IsFormula) : Visited t :=
  .inr (.inl (.formula formula))

theorem forall_children_of_isProduced (produced : t.IsProduced) :
    ∀ child ∈ children t, Visited child := by
  cases produced with
  | missing | title | leave | skip => exact forall_mem_nil _
  | assign _ isValue | print isValue | sleep isValue =>
    exact forall_mem_singleton.mpr (.of_formula isValue)
  | gatherList _ inItems =>
    exact forall_mem_cons.mpr ⟨.inr (.inl (.list inItems)),
      forall_mem_singleton.mpr (.of_formula .missing)⟩
  | gatherCall _ callee inArguments =>
    exact forall_mem_cons.mpr ⟨.inr (.inl (.list (forall_mem_nil _))),
      forall_mem_singleton.mpr (.inl (.call callee inArguments))⟩
  | gatherValue _ isValue =>
    exact forall_mem_cons.mpr ⟨.of_formula isValue, forall_mem_singleton.mpr (.of_formula .missing)⟩
  | branch isCondition inBody areConditions inBodies inOtherwise =>
    simp only [children, cons_append, forall_mem_cons, forall_mem_append]
    refine ⟨.of_formula isCondition, ⟨fun t mem => .inl (inBody t mem), ?_⟩,
      fun t mem => .inl (inOtherwise t mem)⟩
    intro child mem
    obtain ⟨alternative, listed, inside⟩ := mem_flatMap.mp mem
    rcases mem_cons.mp inside with rfl | inBody
    · exact .of_formula (areConditions alternative listed)
    · exact .inl (inBodies alternative listed child inBody)
  | loop isHead inBody | whileLoop isHead inBody | each _ isHead inBody =>
    exact forall_mem_cons.mpr ⟨.of_formula isHead, fun t mem => .inl (inBody t mem)⟩
  | function _ inBody inParameters =>
    exact forall_mem_append.mpr ⟨fun t mem => .inl (inBody t mem),
      fun t mem => .of_formula (inParameters t mem)⟩
  | call _ inArguments => exact fun t mem => .of_formula (inArguments t mem)

theorem forall_children_of_isEntry (entry : t.IsEntry) : ∀ child ∈ children t, Visited child := by
  cases entry with
  | formula isFormula =>
    cases isFormula with
    | missing | number | string | name => exact forall_mem_nil _
    | binary _ isLeft isRight =>
      exact forall_mem_cons.mpr ⟨.of_formula isLeft, forall_mem_singleton.mpr (.of_formula isRight)⟩
  | list inItems => exact fun item mem => .inr (.inl (inItems item mem))

theorem hereditary_visited : Hereditary Visited where
  literal := fun v => .inr (.inr ⟨v, rfl⟩)
  child := by
    rintro _ child (produced | entry | ⟨v, rfl⟩) mem
    · exact forall_children_of_isProduced produced child mem
    · exact forall_children_of_isEntry entry child mem
    · cases mem

theorem twin_register (x : String) {body : List (Tree Value)}
    (produced : ∀ t ∈ body, t.IsProduced) (params : List (Tree Value)) :
    Twin Eq (modify fun m => m.register ⟨x, body, params, []⟩ : Exec PUnit)
      (modify fun m => m.register ⟨x, body, params, []⟩) := by
  intro m _ ready
  refine ⟨evolves_register m x body params, ?_, fun _ => rfl, .inl ⟨rfl, fun _ => .refl _⟩⟩
  exact forall_mem_withRoutine (fun e => ∀ t ∈ e.2.body, t.IsProduced) produced
    ready

theorem mem_of_lookup {x : String} {routine : Routine} {functions : List (String × Routine)}
    (found : functions.lookup x = some routine) : (x, routine) ∈ functions := by
  obtain ⟨_, _, rfl, _⟩ := lookup_eq_some_iff.mp found
  exact mem_append_right _ mem_cons_self

/-- The rounds of a loop go together, with the loop's own item changed by both. -/
theorem twin_loopOver {visit visit' : Visitor}
    (related : ∀ p t, Visited t → Twin Eq (visit p t) (visit' p t)) (p : Site) {xs : Tree Value}
    {body : List (Tree Value)} (isFormula : xs.IsFormula) (inBody : ∀ t ∈ body, t.IsProduced) :
    Twin (Resumes ItemLoop.name) (loopOver visit p xs body) (loopOver visit' p xs body) := by
  have weaken : ∀ {before after : List ItemLoop}, before = after →
      Resumes ItemLoop.name before after := by
    rintro before _ rfl
    exact .refl before
  have rounds := runRound_related compatible_twin_eq.congruent related p 1 0
    fun t mem => .inl (inBody t mem)
  have first := (related ((0, 0) :: p) xs (.of_formula isFormula)).mono weaken
  refine compatible_twin_resumes.bind first fun v => ?_
  have whole := compatible_twin_resumes.congruent.modest (modest_wholeItems v)
  refine compatible_twin_resumes.bind whole fun xs => compatible_twin_resumes.catching rfl ?_
  exact overItems_related compatible_twin_resumes.congruent (rounds.mono weaken) twin_setItem xs

/-- A visit and the strict visit go together. -/
theorem twin_visitWithin (host : Host) (most d : Nat) (p : Site) (visited : Visited t) :
    Twin Eq (visitWithin host most d p t) (strictWithin host most d p t) := by
  induction d generalizing p t with
  | zero => exact compatible_twin_eq.plain (.throw _)
  | succ d ih =>
    have related : ∀ p t, Visited t → Twin Eq (visitWithin host most d p t)
        (strictWithin host most d p t) := fun p t inTree => ih p inTree
    cases t with
    | each x xs body =>
      obtain ⟨isFormula, inBody⟩ := visited.each
      have twin := twin_loopOver related p isFormula inBody
      intro m w ready
      cases stopped : m.stopped with
      | true =>
        have idle := compatible_twin_eq.congruent.unlessStopped
          (compatible_twin_eq.congruent.pure Value.none) m w ready
        have actual : (visitWithin host most (d + 1) p (.each x xs body)).perform
            m w = _ := perform_unlessStopped_congr stopped _ (pure Value.none) w
        have strict : (strictWithin host most (d + 1) p (.each x xs body)).perform
            m w = _ := perform_unlessStopped_congr stopped _ (pure Value.none) w
        rw [actual, strict]
        exact idle
      | false =>
        rw [visitWithin, strictWithin, perform_unlessStopped_of_running stopped,
          perform_unlessStopped_of_running stopped]
        exact accounts_each isFormula twin stopped w ready
    | call x args =>
      refine compatible_twin_eq.congruent.unlessStopped fun m w ready => ?_
      rw [step, strictStep, perform_get_bind, perform_get_bind]
      cases found : m.functions.lookup x with
      | none =>
        exact callOperation_related compatible_twin_eq.congruent related host p x
          (fun t mem => hereditary_visited.child visited mem) m w ready
      | some routine =>
        have inBody : ∀ t ∈ routine.body, Visited t := fun t mem =>
          .inl (ready _ (mem_of_lookup found) t mem)
        have bodies := runBody_related compatible_twin_eq.congruent related [] 1 0 inBody
        exact callFunction_twin bodies x args m w ready
    | function x _ params =>
      have registered := twin_register x visited.function params
      exact compatible_twin_eq.congruent.unlessStopped
        (compatible_twin_eq.bind registered fun _ => compatible_twin_eq.plain (.ofAct _))
    | _ =>
      exact compatible_twin_eq.congruent.unlessStopped
        (step_related compatible_twin_eq related hereditary_visited host most p visited rfl)

/-- **When the stacks are balanced.** A statement that can be read is visited, in a state whose
functions have bodies that can be read, and the visit ends with a value, a break or a continue. Then
the loops are those from before. No activation has been taken away, and the activations are those
from before just if the strict visit ends in the same way, that is, if no continue has left a
function. -/
theorem visit_balanced_iff (host : Host) (bound : Bound) (site : Site) (tree : Script.Tree Value)
    (machine : Machine) (world : World) (read : Reading.IsRead tree)
    (known : ∀ entry ∈ machine.functions, ∀ tree ∈ entry.2.body, Reading.IsRead tree)
    (ended : orderly ((visit host bound site tree).perform machine world).1.1 = true) :
    let result := (visit host bound site tree).perform machine world
    result.1.2.loops = machine.loops ∧
    Grows Activation.function machine.frames result.1.2.frames ∧
    (Resumes Activation.function machine.frames result.1.2.frames ↔
      (strictVisit host bound site tree).perform machine world = result) := by
  intro result
  have ready : machine.Ready := fun entry member tree inBody =>
    Reading.isProduced_of_isRead (known entry member tree inBody)
  have accounts := twin_visitWithin host bound.rounds bound.depth site
    (.inl (Reading.isProduced_of_isRead read)) machine world ready
  refine ⟨(accounts.loops ended).symm, accounts.evolves.frames, ?_⟩
  rcases accounts.frames with ⟨agree, balanced⟩ | ⟨exhausted, longer⟩
  · exact iff_of_true (balanced ended) agree
  · refine iff_of_false (fun resumes => ?_) fun agree => ?_
    · rw [← resumes.length_eq] at longer
      exact Nat.lt_irrefl _ longer
    · have same : result.1.1 = .error .exhausted := by
        rw [← agree]
        exact exhausted
      have ended : orderly result.1.1 = true := ended
      rw [same] at ended
      cases ended

/-- A function that does nothing but continue a loop that is not its own, and a number of rounds. -/
def strayState : Machine :=
  { Machine.initial Path.here with
    globals := [("n", .int 1)]
    functions := [("f", ⟨"f", [.skip], [], []⟩)] }

def strayLoop : Tree Value := .loop (.variable "n") [.call "f" []]

def readerOf (ts : List Token) : Reader :=
  ⟨⟨ts.map fun tok => ⟨tok, 1, 0⟩, .finished 1 0⟩, ""⟩

theorem isRead_strayLoop : Reading.IsRead strayLoop :=
  ⟨4, readerOf [⟨.repeatTimes, "loop"⟩, ⟨.identifier, "n"⟩, ⟨.openBrace, "\x7b"⟩, ⟨.call, "call"⟩,
    ⟨.identifier, "f"⟩, ⟨.openBracket, "("⟩, ⟨.closeBracket, ")"⟩, ⟨.closeBrace, "\x7d"⟩],
    readerOf [], rfl⟩

theorem isRead_strayState : ∀ e ∈ strayState.functions, ∀ t ∈ e.2.body, Reading.IsRead t := by
  simp only [strayState, forall_mem_singleton]
  exact ⟨1, readerOf [⟨.skip, "continue"⟩], readerOf [], rfl⟩

/-- The loop ends with a value, but the function that was left by a continue stays active. -/
theorem continue_leaves_activation :
    let result := (visit Host.bare ⟨0, 4⟩ [] strayLoop).perform strayState default
    Reading.IsRead strayLoop ∧ strayState.stopped = false ∧ result.1.1 = .ok .none ∧
      strayState.frames = [] ∧ result.1.2.frames = [⟨"f", []⟩] :=
  ⟨isRead_strayLoop, rfl, rfl, rfl, rfl⟩

theorem visit_balanced_iff_strayLoop :
    let result := (visit Host.bare ⟨0, 4⟩ [] strayLoop).perform strayState default
    orderly result.1.1 = true ∧
    result.1.2.loops = strayState.loops ∧
    Grows Activation.function strayState.frames result.1.2.frames ∧
    (Resumes Activation.function strayState.frames result.1.2.frames ↔
      (strictVisit Host.bare ⟨0, 4⟩ [] strayLoop).perform strayState default = result) :=
  ⟨rfl, visit_balanced_iff Host.bare ⟨0, 4⟩ [] strayLoop strayState default isRead_strayLoop
    isRead_strayState rfl⟩

end DeviceScript.Execution
