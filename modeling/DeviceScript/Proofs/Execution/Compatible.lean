import DeviceScript.Proofs.Execution.Branching

/-!
# Relations that steps respect

A step is put together from visits of subtrees, from other computations, by doing one thing after
another and by catching breaks and continues. A relation between computations that all of these
respect carries over from visits to steps: if two visitors are related on the subtrees of a tree, so
are the steps that use them.

A relation is `Congruent` if the other computations may be modest ones, which see nothing of the
state but whether the script is to stop (`step_congruent`). It is `Compatible` if they may be plain
ones, which change nothing in the state but variables and the wish to stop; then reading a variable
respects it too (`step_related`).

Three kinds of statements are left out, because they do more than that: a loop over items and a call
open a scope, and the definition of a function registers it.
-/

namespace DeviceScript.Execution

open List Script

variable {t : Tree Value} {round round' : Exec Unit} {trees : List (Tree Value)}
variable (x : String) (v : Value) (host : Host)

/-! ## Plain computations -/

/-- The second state comes from the first one by writing variables and by asking the script to
stop. -/
inductive Machine.Settles : Machine → Machine → Prop
  | refl (m : Machine) : Settles m m
  | write {m later : Machine} (name : String) (v : Value) :
      Settles m later → Settles m (later.write name v)
  | stop {m later : Machine} :
      Settles m later → Settles m { later with stopped := true }

theorem Machine.Settles.trans {first m third : Machine} (before : Settles first m)
    (after : Settles m third) : Settles first third := by
  induction after with
  | refl => exact before
  | write x v _ ih => exact ih.write x v
  | stop _ ih => exact ih.stop

namespace Exec

variable {α β : Type}

/-- A computation that changes nothing in the state but variables and the wish to stop, however it
ends. -/
def Plain (exec : Exec α) : Prop :=
  ∀ (m : Machine) (w : World), m.Settles (exec.perform m w).1.2

namespace Plain

theorem pure (v : α) : Plain (Pure.pure v : Exec α) := fun m _ => .refl m

theorem throw (i : Interrupt) : Plain (MonadExcept.throw i : Exec α) :=
  fun m _ => .refl m

theorem get : Plain (MonadState.get : Exec Machine) := fun m _ => .refl m

theorem write : Plain (modify fun m => m.write x v : Exec PUnit) :=
  fun m _ => .write x v (.refl m)

theorem ofAct (act : Act α) : Plain (Exec.ofAct act) := by
  intro m w
  rw [perform_ofAct]
  rcases act.perform w with ⟨_ | _, _⟩ <;> exact .refl m

theorem ofExcept (o : Except Failure α) : Plain (Exec.ofExcept o) := by
  cases o with
  | ok v => exact pure v
  | error => exact throw _

theorem log (level : Level) (s : String) : Plain (Exec.log level s) := ofAct _

theorem bind {first : Exec α} {f : α → Exec β} (before : Plain first)
    (after : ∀ v, Plain (f v)) : Plain (first >>= f) := by
  intro m w
  have settled := before m w
  rcases reached : first.perform m w with ⟨⟨_ | v, m'⟩, w'⟩ <;>
    rw [reached] at settled
  · rw [perform_bind_error reached]
    exact settled
  · rw [perform_bind_ok reached]
    exact settled.trans (after v m' w')

end Plain

end Exec

open Exec (Plain)

/-! ## Modest computations -/

/-- A computation that is put together from actions on the world, failures, asking the script to
stop and, if it is `writing`, from writing variables. It sees nothing of the state but whether the
script is to stop. -/
inductive Exec.Modest (writing : Prop) : {α : Type} → Exec α → Prop
  | pure {α : Type} (v : α) : Modest writing (Pure.pure v : Exec α)
  | ofAct {α : Type} (act : Act α) : Modest writing (Exec.ofAct act)
  | fail {α : Type} (e : Failure) : Modest writing (Exec.fail e : Exec α)
  | write (allowed : writing) (name : String) (v : Value) :
      Modest writing (modify fun m => m.write name v)
  | stop : Modest writing (modify fun m => { m with stopped := true })
  | whileRunning {exec : Exec Unit} :
      Modest writing exec → Modest writing (do if (← get).stopped then return () else exec)
  | guarded {exec : Exec Value} (warning : String → String) :
      Modest writing exec → Modest writing (guarded exec warning)
  | bind {α β : Type} {first : Exec α} {f : α → Exec β} :
      Modest writing first → (∀ v, Modest writing (f v)) → Modest writing (first >>= f)

open Exec (Modest)

variable {writing : Prop}

namespace Exec.Modest

variable {α β : Type}

theorem ofExcept (o : Except Failure α) : Modest writing (Exec.ofExcept o) := by
  cases o with
  | ok v => exact .pure v
  | error e => exact .fail e

theorem log (level : Level) (s : String) : Modest writing (Exec.log level s) := .ofAct _

theorem mapM {f : α → Exec β} (each : ∀ x, Modest writing (f x)) (xs : List α) :
    Modest writing (xs.mapM f) := by
  induction xs with
  | nil => exact .pure []
  | cons x _ ih =>
    rw [mapM_cons]
    exact .bind (each x) fun _ => .bind ih fun _ => .pure _

theorem plain {exec : Exec α} (modest : Modest True exec) : Plain exec := by
  induction modest with
  | pure v => exact .pure v
  | ofAct act => exact .ofAct act
  | fail => exact .throw _
  | write _ x v => exact .write x v
  | stop => exact fun m _ => .stop (.refl m)
  | whileRunning _ ih =>
    refine .bind .get fun m => ?_
    split
    · exact .pure _
    · exact ih
  | @guarded exec warning _ ih =>
    intro m w
    have settled := ih m w
    rw [perform_guarded]
    rcases reached : exec.perform m w with ⟨⟨i | v, _⟩, after⟩ <;>
      rw [reached] at settled
    · cases i <;> exact settled
    · exact settled
  | bind _ _ before after => exact .bind before after

end Exec.Modest

theorem modest_obey (wanted : Act Bool) : Modest writing (Host.obey wanted) := by
  refine .bind (.ofAct wanted) fun stop => ?_
  cases stop with
  | false => exact .pure _
  | true => exact .stop

theorem modest_hostWrite (s : String) : Modest writing (host.write s) := by
  unfold Host.write
  split
  · exact modest_obey _
  · exact .fail _

theorem modest_wait (ticks : Nat) : Modest writing (wait host ticks) := by
  induction ticks with
  | zero => exact .pure _
  | succ _ ih => exact .whileRunning (.bind (modest_obey _) fun _ => ih)

theorem modest_writeTips (results : List Value) : Modest writing (writeTips host results) := by
  induction results with
  | nil => exact .pure _
  | cons _ _ ih =>
    refine .bind ?_ fun _ => ih
    unfold writeTip
    split
    · exact modest_hostWrite _ _
    · exact .pure _

theorem modest_keepResults (allowed : writing) (host : Host) (x : String) (res : Value) :
    Modest writing (keepResults host x res) := by
  unfold keepResults
  split
  · refine .bind (modest_writeTips _ _) fun _ => ?_
    dsimp only
    split
    · exact .pure _
    · exact .bind (.write allowed _ _) fun _ => .pure _
  · exact .bind (.write allowed _ _) fun _ => .pure _

theorem modest_wholeItems : Modest writing (wholeItems v) := by
  unfold wholeItems
  split
  · exact .bind (.ofExcept _) fun _ => .pure _
  · exact .bind (.ofExcept _) fun _ => .pure _
  · exact .pure _

theorem modest_printed : Modest writing (printed v) := by
  unfold printed
  split
  · exact .bind (.mapM (fun _ => .ofExcept _) _) fun _ => .pure _
  · exact .ofExcept _

/-! ## Relations between computations -/

/-- A relation between computations that is respected by the ways in which steps are put together,
with modest computations between the visits. -/
structure Congruent (writing : Prop) (Rel : {α : Type} → Exec α → Exec α → Prop) : Prop where
  modest : ∀ {α : Type} {exec : Exec α}, Modest writing exec → Rel exec exec
  unlessStopped : ∀ {exec exec' : Exec Value}, Rel exec exec' →
    Rel (unlessStopped exec) (unlessStopped exec')
  bind : ∀ {α β : Type} {first first' : Exec α} {next next' : α → Exec β}, Rel first first' →
    (∀ v, Rel (next v) (next' v)) → Rel (first >>= next) (first' >>= next')
  catching : ∀ {signal : Interrupt} {exec exec' : Exec Unit}, signal.isSignal = true →
    Rel exec exec' → Rel (Exec.catching signal exec) (Exec.catching signal exec')

/-- A relation between computations that is respected by the ways in which steps are put
together. -/
structure Compatible (Rel : {α : Type} → Exec α → Exec α → Prop) : Prop where
  plain : ∀ {α : Type} {exec : Exec α}, Plain exec → Rel exec exec
  bind : ∀ {α β : Type} {first first' : Exec α} {next next' : α → Exec β}, Rel first first' →
    (∀ v, Rel (next v) (next' v)) → Rel (first >>= next) (first' >>= next')
  catching : ∀ {signal : Interrupt} {exec exec' : Exec Unit}, signal.isSignal = true →
    Rel exec exec' → Rel (Exec.catching signal exec) (Exec.catching signal exec')

theorem Compatible.congruent {Rel : {α : Type} → Exec α → Exec α → Prop}
    (compatible : Compatible Rel) : Congruent True Rel where
  modest := fun modest => compatible.plain modest.plain
  unlessStopped := by
    intro _ _ related
    refine compatible.bind (compatible.plain .get) fun m => ?_
    split
    · exact compatible.plain (.bind (.log _ _) fun _ => .throw _)
    · exact related
  bind := compatible.bind
  catching := compatible.catching

/-! ## Subtrees -/

/-- The subtrees of a tree. -/
def children : Tree Value → List (Tree Value)
  | .list items => items
  | .binary left _ right => [left, right]
  | .print v => [v]
  | .sleep duration => [duration]
  | .assign _ v => [v]
  | .gather _ elements source => [elements, source]
  | .loop count body => count :: body
  | .whileLoop condition body => condition :: body
  | .each _ items body => items :: body
  | .call _ args => args
  | .function _ body params => body ++ params
  | .branch condition body alts otherwise =>
    condition :: body ++ alts.flatMap (fun alt => alt.1 :: alt.2) ++ otherwise
  | .position x y => [x, y]
  | _ => []

/-- The first tree is the second one or stands somewhere in it. -/
inductive PartOf (part : Tree Value) : Tree Value → Prop
  | self : PartOf part part
  | inside {t child : Tree Value} (member : child ∈ children t)
      (inner : PartOf part child) : PartOf part t

theorem partOf_iff (part t : Tree Value) :
    PartOf part t ↔ part = t ∨ ∃ child ∈ children t, PartOf part child := by
  constructor
  · rintro (_ | ⟨mem, inner⟩)
    · exact .inl rfl
    · exact .inr ⟨_, mem, inner⟩
  · rintro (rfl | ⟨child, mem, inner⟩)
    · exact .self
    · exact .inside mem inner

/-- The arguments of the call on the right of a `dyn`. -/
def argumentsOf (source : Tree Value) : List (Tree Value) :=
  match calleeOf source with
  | .ok (_, args) => args
  | .error _ => []

/-- The subtrees that are visited when a tree is. Those of a function wait for its calls, and the
call on the right of a `dyn` is not visited itself. -/
def performed : Tree Value → List (Tree Value)
  | .gather _ elements source => elements :: argumentsOf source
  | .function _ _ _ => []
  | t => children t

/-- A property of trees that passes to the items of lists, and to the values that take the place of
trees. -/
structure Descends (property : Tree Value → Prop) : Prop where
  item : ∀ {items : List (Tree Value)} {item : Tree Value}, property (.list items) →
    item ∈ items → property item
  literal : ∀ {t : Tree Value} (v : Value), property t → property (.literal v)

/-- A property of trees that passes to subtrees, and that ready values have. -/
structure Hereditary (property : Tree Value → Prop) : Prop where
  child : ∀ {t child : Tree Value}, property t → child ∈ children t → property child
  literal : ∀ v, property (.literal v)

theorem mem_children_of_mem_argumentsOf {source argument : Tree Value}
    (mem : argument ∈ argumentsOf source) : argument ∈ children source := by
  cases source with
  | call => exact mem
  | function => exact mem_append_right _ mem
  | _ => cases mem

section Hereditary

variable {property : Tree Value → Prop} (hereditary : Hereditary property)

include hereditary

theorem Hereditary.descends : Descends property where
  item := fun inList mem => hereditary.child inList mem
  literal := fun v _ => hereditary.literal v

theorem Hereditary.performed {part : Tree Value} (inTree : property t)
    (mem : part ∈ performed t) : property part := by
  cases t with
  | gather _ _ source =>
    rcases mem_cons.mp mem with rfl | argument
    · exact hereditary.child inTree mem_cons_self
    · have inSource : property source := hereditary.child inTree (.tail _ mem_cons_self)
      exact hereditary.child inSource (mem_children_of_mem_argumentsOf argument)
  | function => cases mem
  | _ => exact hereditary.child inTree mem

end Hereditary

/-- The tree opens a scope, or registers a function. -/
def isScoped : Tree Value → Bool
  | .each .. => true
  | .call .. => true
  | .function .. => true
  | _ => false

/-- What the tree does does not only come from its subtrees: it is a variable, a break or a
continue, its rounds are not counted, or it opens a scope or registers a function. -/
def isContextual : Tree Value → Bool
  | .variable _ => true
  | .leave => true
  | .skip => true
  | .whileLoop .. => true
  | t => isScoped t

section Related

variable {Rel : {α : Type} → Exec α → Exec α → Prop} (congruent : Congruent writing Rel)
variable {visit visit' : Visitor} {property : Tree Value → Prop}
variable (related : ∀ p t, property t → Rel (visit p t) (visit' p t))

include congruent

variable (p : Site) (part index : Nat)

theorem Congruent.pure {α : Type} (v : α) : Rel (pure v : Exec α) (pure v) :=
  congruent.modest (.pure v)

theorem times_related (rounds : Rel round round') (n : Nat) :
    Rel (times round n) (times round' n) := by
  induction n with
  | zero => exact congruent.pure ()
  | succ _ ih => exact congruent.bind rounds fun _ => ih

theorem rounds_related (exhausted : Rel (throw .exhausted : Exec Unit) (throw .exhausted))
    {c c' : Exec Value} (conditions : Rel c c') (again : Rel round round') (bound : Nat) :
    Rel (rounds c round bound) (rounds c' round' bound) := by
  induction bound with
  | zero => exact exhausted
  | succ _ ih =>
    refine congruent.bind conditions fun v => ?_
    split
    · exact congruent.bind again fun _ => ih
    · exact congruent.pure ()

/-- A loop over items is related if its rounds are, and if setting the item respects the
relation. -/
theorem overItems_related (again : Rel round round')
    (setting : ∀ x, Rel (modify fun m => m.setItem x : Exec PUnit)
      (modify fun m => m.setItem x)) (xs : Value) :
    Rel (overItems round xs) (overItems round' xs) := by
  have counted : ∀ n start, Rel (forCount round start n) (forCount round' start n) := by
    intro n
    induction n with
    | zero => exact fun _ => congruent.pure ()
    | succ _ ih =>
      intro start
      exact congruent.bind (setting _) fun _ => congruent.bind again fun _ => ih (start + 1)
  have listed : ∀ xs, Rel (forItems round xs) (forItems round' xs) := by
    intro xs
    induction xs with
    | nil => exact congruent.pure ()
    | cons x _ ih =>
      exact congruent.bind (setting x) fun _ => congruent.bind again fun _ => ih
  unfold overItems
  split
  · exact counted _ _
  · exact counted _ _
  · exact listed _
  · exact listed _
  · exact listed _
  · exact congruent.modest (.bind (.ofAct _) fun _ => .log _ _)

include related

theorem visitAll_related (inTrees : ∀ t ∈ trees, property t) :
    Rel (visitAll visit p part index trees) (visitAll visit' p part index trees) := by
  induction trees generalizing index with
  | nil => exact congruent.pure []
  | cons _ _ ih =>
    rw [forall_mem_cons] at inTrees
    exact congruent.bind (related _ _ inTrees.1) fun _ =>
      congruent.bind (ih (index + 1) inTrees.2) fun _ => congruent.pure _

theorem runBody_related (inTrees : ∀ t ∈ trees, property t) :
    Rel (runBody visit p part index trees) (runBody visit' p part index trees) := by
  induction trees generalizing index with
  | nil => exact congruent.pure ()
  | cons _ _ ih =>
    rw [forall_mem_cons] at inTrees
    exact congruent.bind (related _ _ inTrees.1) fun _ => ih (index + 1) inTrees.2

theorem runRound_related (inTrees : ∀ t ∈ trees, property t) :
    Rel (runRound visit p part index trees) (runRound visit' p part index trees) := by
  induction trees generalizing index with
  | nil => exact congruent.pure ()
  | cons _ _ ih =>
    rw [forall_mem_cons] at inTrees
    refine congruent.bind (congruent.catching rfl ?_) fun _ => ih (index + 1) inTrees.2
    exact congruent.bind (related _ _ inTrees.1) fun _ => congruent.pure _

theorem firstTrue_related {otherwise : List (Tree Value)}
    (inOtherwise : ∀ t ∈ otherwise, property t) {arms : List Arm}
    (inArms : ∀ arm ∈ arms, property arm.condition ∧ ∀ t ∈ arm.body, property t) :
    Rel (firstTrue visit p part otherwise arms) (firstTrue visit' p part otherwise arms) := by
  induction arms with
  | nil =>
    exact congruent.bind (runBody_related congruent related p part 0 inOtherwise) fun _ =>
      congruent.pure _
  | cons _ _ ih =>
    rw [forall_mem_cons] at inArms
    obtain ⟨⟨inCondition, inBody⟩, inArms⟩ := inArms
    refine congruent.bind (related _ _ inCondition) fun v => ?_
    split
    · exact congruent.bind (runBody_related congruent related p _ 0 inBody) fun _ =>
        congruent.pure _
    · exact ih inArms

theorem callOperation_related (host : Host) (p : Site) (x : String) {args : List (Tree Value)}
    (inArguments : ∀ t ∈ args, property t) :
    Rel (callOperation host visit p x args) (callOperation host visit' p x args) := by
  refine congruent.bind (congruent.modest (.ofAct _)) fun operation => ?_
  split
  · refine congruent.bind (visitAll_related congruent related p 1 0 inArguments) fun _ => ?_
    refine congruent.modest (.guarded _ ?_)
    exact .bind (.ofAct _) fun _ => .bind (.ofExcept _) fun _ =>
      .bind (modest_writeTips _ _) fun _ => .pure _
  · exact congruent.modest (.bind (.log _ _) fun _ => .pure _)

theorem callForResults_related (allowed : writing) (host : Host) (p : Site) (x : String)
    {source : Tree Value} (inArguments : ∀ t ∈ argumentsOf source, property t) :
    Rel (callForResults host visit p x source) (callForResults host visit' p x source) := by
  refine congruent.bind (congruent.modest (.ofAct _)) fun names => ?_
  rcases called : calleeOf source with e | ⟨_, _⟩
  · exact congruent.modest (.fail e)
  · rw [argumentsOf, called] at inArguments
    rw [Exec.ofExcept, pure_bind]
    refine congruent.bind (congruent.modest (.ofAct _)) fun operation => ?_
    split
    · refine congruent.bind (visitAll_related congruent related p 1 0 inArguments) fun _ => ?_
      exact congruent.modest (.guarded _ (.bind (.ofAct _) fun _ =>
        modest_keepResults allowed _ _ _))
    · exact congruent.modest (.bind (.log _ _) fun _ => .pure _)

variable (descends : Descends property)

include descends

theorem nestedItems_related (inTrees : ∀ t ∈ trees, property t) :
    Rel (nestedItems visit p index trees) (nestedItems visit' p index trees) := by
  fun_induction nestedItems visit p index trees with
  | case1 =>
    rw [nestedItems]
    exact congruent.pure []
  | case2 _ _ inner _ innerHypothesis ih =>
    rw [forall_mem_cons] at inTrees
    have inInner : ∀ t ∈ inner, property t := fun t mem =>
      descends.item inTrees.1 mem
    rw [nestedItems]
    exact congruent.bind (innerHypothesis inInner) fun _ =>
      congruent.bind (ih inTrees.2) fun _ => congruent.pure _
  | case3 _ _ _ _ notList ih =>
    rw [forall_mem_cons] at inTrees
    rw [nestedItems]
    · exact congruent.bind (related _ _ inTrees.1) fun _ =>
        congruent.bind (ih inTrees.2) fun _ => congruent.pure _
    · exact notList

/-- **Steps respect congruent relations.** If the visits of the subtrees of a tree are related, so
are its steps, unless it depends on more than its subtrees. -/
theorem step_congruent (allowed : writing) (host : Host) (most most' : Nat) (p : Site)
    (below : ∀ part ∈ performed t, property part) (free : isContextual t = false) :
    Rel (step host visit most p t) (step host visit' most' p t) := by
  cases t with
  | «variable» | leave | skip | whileLoop | each | call | function => cases free
  | missing | literal | string => exact congruent.pure _
  | list | title =>
    rw [step]
    exact congruent.modest (.ofAct _)
  | number => exact congruent.modest (.ofExcept _)
  | position =>
    exact congruent.modest (.bind (.ofExcept _) fun _ => .bind (.ofExcept _) fun _ => .pure _)
  | binary =>
    simp only [performed, children, forall_mem_cons] at below
    exact congruent.bind (related _ _ below.1) fun _ =>
      congruent.bind (related _ _ below.2.1) fun _ => congruent.modest (.ofAct _)
  | print =>
    simp only [performed, children, forall_mem_cons] at below
    refine congruent.bind (related _ _ below.1) fun _ => congruent.modest ?_
    exact .bind (modest_printed _) fun _ => .bind (modest_hostWrite _ _) fun _ =>
      .bind (.log _ _) fun _ => .pure _
  | sleep =>
    simp only [performed, children, forall_mem_cons] at below
    refine congruent.bind (related _ _ below.1) fun _ => congruent.modest ?_
    exact .bind (.ofExcept _) fun _ => .bind (.log _ _) fun _ => .bind (.ofExcept _) fun _ =>
      .bind (modest_wait _ _) fun _ => .pure _
  | branch c body alts =>
    simp only [performed, children, cons_append, forall_mem_cons, forall_mem_append] at below
    obtain ⟨inCondition, ⟨inBody, inAlternatives⟩, inOtherwise⟩ := below
    have inArms : ∀ arm ∈ elseIfs 0 alts, property arm.condition ∧ ∀ t ∈ arm.body, property t := by
      intro arm mem
      have listed := mem_of_mem_elseIfs mem
      have inside := fun t inArm => inAlternatives t (mem_flatMap.mpr ⟨_, listed, inArm⟩)
      exact ⟨inside _ mem_cons_self, fun t inBody => inside t (.tail _ inBody)⟩
    rw [step_branch, step_branch]
    refine congruent.bind (related _ _ inCondition) fun v => ?_
    split
    · exact firstTrue_related congruent related p 1 inBody inArms
    · exact firstTrue_related congruent related p 2 inOtherwise inArms
  | assign =>
    simp only [performed, children, forall_mem_cons] at below
    exact congruent.bind (related _ _ below.1) fun _ =>
      congruent.modest (.bind (.write allowed _ _) fun _ => .pure _)
  | gather x =>
    simp only [performed, forall_mem_cons] at below
    have kept : ∀ v, Rel (do modify fun m => m.write x v; return v)
        (do modify fun m => m.write x v; return v : Exec Value) :=
      fun v => congruent.modest (.bind (.write allowed _ _) fun _ => .pure _)
    rw [step, step]
    split
    · split
      · refine congruent.bind
          (nestedItems_related congruent related p 0 descends fun t mem =>
            descends.item below.1 mem) fun vs => ?_
        exact congruent.bind (related _ _ (descends.literal _ below.1)) kept
      · exact congruent.bind (related _ _ below.1) kept
    · exact callForResults_related congruent related allowed host p x below.2
  | loop =>
    simp only [performed, children, forall_mem_cons] at below
    refine congruent.bind (congruent.catching rfl ?_) fun _ => congruent.pure _
    refine congruent.bind (related _ _ below.1) fun _ => ?_
    exact congruent.bind (congruent.modest (.ofExcept _)) fun _ =>
      times_related congruent (runRound_related congruent related p 1 0 below.2) _

end Related

/-- **Steps respect compatible relations.** If visits of trees with a hereditary property are
related, so are the steps of such a tree, unless it opens a scope or registers a function. -/
theorem step_related {Rel : {α : Type} → Exec α → Exec α → Prop} (compatible : Compatible Rel)
    {visit visit' : Visitor} {P : Tree Value → Prop}
    (related : ∀ p t, P t → Rel (visit p t) (visit' p t)) (hereditary : Hereditary P)
    (host : Host) (most : Nat) (p : Site) (inTree : P t) (unscoped : isScoped t = false) :
    Rel (step host visit most p t) (step host visit' most p t) := by
  have congruent := compatible.congruent
  cases t with
  | «variable» x => exact compatible.plain (.bind .get fun _ => .pure _)
  | leave | skip => exact compatible.plain (.throw _)
  | whileLoop _ body =>
    have inBody : ∀ t ∈ body, P t := fun t mem =>
      hereditary.child inTree (.tail _ mem)
    have again := runRound_related congruent related p 1 0 inBody
    refine compatible.bind (compatible.catching rfl ?_) fun _ => congruent.pure _
    exact rounds_related congruent (compatible.plain (.throw _))
      (related _ _ (hereditary.child inTree mem_cons_self)) again most
  | _ =>
    exact step_congruent congruent related hereditary.descends trivial host most most p
      (fun part mem => hereditary.performed inTree mem) unscoped

end DeviceScript.Execution
