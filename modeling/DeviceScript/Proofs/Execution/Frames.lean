import DeviceScript.Proofs.Execution.Compatible

/-!
# What a call leaves alone

Inside a function only the innermost activation is written to, and a name that is no global becomes
local. A run may leave activations behind, if it ends early, but it takes none away that were there
before. `Evolves` says this of two states, and every computation of a visit keeps to it.

For a call this means that the activations of the callers are still there with the same variables,
that no global has come or gone, and that every function still begins with its parameters only
(`visit_call_confined`). The callee runs on top of an activation of its own, so whatever it does
happens above those of its callers.
-/

namespace DeviceScript.Execution

open Exec List Script Machine Prod

variable {before : Machine} {v : Value} {bindings : Bindings} {interrupt i : Interrupt}

/-! ## Stacks -/

section Stacks

variable {α : Type} {label : α → String}

/-- Below its top the stack is the same, and its top has the same label. -/
def Resumes (label : α → String) (before after : List α) : Prop :=
  after.tail = before.tail ∧ after.head?.map label = before.head?.map label

/-- The stack is the one from before, up to its top, under things that have been left on it. -/
def Grows (label : α → String) (before after : List α) : Prop :=
  ∃ left kept, after = left ++ kept ∧ Resumes label before kept

theorem Resumes.refl (stack : List α) : Resumes label stack stack := ⟨rfl, rfl⟩

theorem Resumes.trans {first second third : List α} (before : Resumes label first second)
    (after : Resumes label second third) : Resumes label first third :=
  ⟨after.1.trans before.1, after.2.trans before.2⟩

theorem Resumes.exists_cons {top : α} {stack after : List α}
    (resumes : Resumes label (top :: stack) after) :
    ∃ top', after = top' :: stack ∧ label top' = label top := by
  obtain ⟨below, above⟩ := resumes
  cases after with
  | nil => cases above
  | cons top' stack' =>
    refine ⟨top', ?_, Option.some.inj above⟩
    rw [show stack' = stack from below]

theorem Resumes.eq_nil {after : List α} (resumes : Resumes label [] after) : after = [] := by
  obtain ⟨_, above⟩ := resumes
  cases after with
  | nil => rfl
  | cons => cases above

theorem Resumes.length_eq {before after : List α} (resumes : Resumes label before after) :
    after.length = before.length := by
  cases before with
  | nil => rw [resumes.eq_nil]
  | cons =>
    obtain ⟨_, rfl, _⟩ := resumes.exists_cons
    rfl

theorem Resumes.grows {before after : List α} (resumes : Resumes label before after) :
    Grows label before after := ⟨[], after, rfl, resumes⟩

theorem Grows.exists_cons {top : α} {stack after : List α}
    (grows : Grows label (top :: stack) after) : ∃ left top', after = left ++ top' :: stack := by
  obtain ⟨left, _, rfl, resumes⟩ := grows
  obtain ⟨top', rfl, _⟩ := resumes.exists_cons
  exact ⟨left, top', rfl⟩

theorem Grows.trans {first second third : List α} (before : Grows label first second)
    (after : Grows label second third) : Grows label first third := by
  obtain ⟨left, kept, rfl, resumes⟩ := before
  obtain ⟨left', kept', rfl, resumes'⟩ := after
  cases left with
  | nil => exact ⟨left', kept', rfl, resumes.trans resumes'⟩
  | cons top left =>
    -- What was left behind first is now below the top, so it has not changed since.
    obtain ⟨top', rfl, _⟩ := resumes'.exists_cons
    exact ⟨left' ++ top' :: left, kept, by simp, resumes⟩

theorem Grows.length_le {before after : List α} (grows : Grows label before after) :
    before.length ≤ after.length := by
  obtain ⟨_, _, rfl, resumes⟩ := grows
  simp [resumes.length_eq]

/-- What stands on top of a stack of the given height is taken away from under what was left on
it. -/
theorem dropAt_append_cons (left : List α) (top : α) (stack : List α) :
    dropAt (left ++ top :: stack) stack.length = left ++ stack := by
  have position : (left ++ top :: stack).length - 1 - stack.length = left.length := by
    simp only [length_append, length_cons]
    omega
  rw [dropAt, position, eraseIdx_append_of_length_le (Nat.le_refl _), Nat.sub_self]
  rfl

end Stacks

/-! ## Variables -/

/-- Giving a value to a variable that has one changes no name. -/
theorem names_assign {x : String} (bound : (bindings.lookup x).isSome = true) :
    (Bindings.assign x v bindings).map fst = bindings.map fst := by
  induction bindings with
  | nil => cases bound
  | cons e bindings ih =>
    obtain ⟨other, _⟩ := e
    by_cases same : other = x
    · subst same
      simp [Bindings.assign]
    · have later : (bindings.lookup x).isSome = true := by
        have different : (x == other) = false := by simpa using fun h => same h.symm
        rwa [lookup_cons, different] at bound
      simp [Bindings.assign, same, ih later]

/-- The names after an assignment are those from before and the assigned one. -/
theorem mem_names_assign {x other : String} (mem : other ∈ (Bindings.assign x v bindings).map fst) :
    other = x ∨ other ∈ bindings.map fst := by
  induction bindings with
  | nil => exact .inl (by simpa [Bindings.assign] using mem)
  | cons e _ ih =>
    by_cases same : e.1 = x
    · rw [Bindings.assign, if_pos same] at mem
      simp only [map_cons, mem_cons] at mem ⊢
      exact mem.imp_right .inr
    · rw [Bindings.assign, if_neg same] at mem
      simp only [map_cons, mem_cons] at mem ⊢
      rcases mem with first | later
      · exact .inr (.inl first)
      · exact (ih later).imp_right .inr

/-- The variables at the start of a call are the given ones and the parameters. -/
theorem mem_names_bindArguments {m : Machine} {serial : Nat} {x : String}
    {params args : List (Tree Value)} {locals bound : Bindings}
    (binds : bindArguments m serial params args locals = .ok bound) (mem : x ∈ bound.map fst) :
    x ∈ params.filterMap Tree.leafText? ∨ x ∈ locals.map fst := by
  induction params generalizing args locals with
  | nil =>
    cases binds
    exact .inr mem
  | cons parameter _ ih =>
    cases args with
    | nil =>
      cases binds
      exact .inr mem
    | cons argument args =>
      rw [bindArguments] at binds
      rcases valued : argumentValue m (serial + args.length) argument with
        e | v
      · rw [valued] at binds
        cases binds
      · rw [valued] at binds
        rcases text : parameter.leafText? with _ | text
        · simp only [leafText, text] at binds
          cases binds
        · simp only [leafText, text] at binds
          rw [filterMap_cons_some text, mem_cons]
          rcases ih binds with later | bound
          · exact .inl (.inr later)
          · rcases mem_names_assign bound with same | before
            · exact .inl (.inl same)
            · exact .inr before

/-! ## States -/

/-- No function begins with variables of its own. -/
def Machine.Fresh (m : Machine) : Prop :=
  ∀ e ∈ m.functions, e.2.locals = []

/-- How a state may go on: activations stay and may be left behind, inside a function no global
comes or goes, and functions begin without variables. -/
structure Evolves (before after : Machine) : Prop where
  frames : Grows Activation.function before.frames after.frames
  globals : before.frames ≠ [] → after.globals.map fst = before.globals.map fst
  fresh : before.Fresh → after.Fresh

theorem Evolves.trans {first m third : Machine} (before : Evolves first m)
    (after : Evolves m third) : Evolves first third where
  frames := before.frames.trans after.frames
  globals := by
    intro inside
    have still : m.frames ≠ [] := by
      have grown := before.frames.length_le
      rw [← length_pos_iff] at inside ⊢
      omega
    rw [after.globals still, before.globals inside]
  fresh := after.fresh ∘ before.fresh

/-- A change that touches no activation, no global and no function. -/
theorem Evolves.of_eq {m : Machine} (frames : m.frames = before.frames)
    (globals : m.globals = before.globals) (functions : m.functions = before.functions) :
    Evolves before m where
  frames := by
    rw [frames]
    exact (Resumes.refl _).grows
  globals := fun _ => by rw [globals]
  fresh := by
    unfold Machine.Fresh
    rw [functions]
    exact id

theorem Evolves.refl (m : Machine) : Evolves m m := .of_eq rfl rfl rfl

/-- What writing a variable does: a global gets the value, or the innermost activation does. -/
theorem Machine.write_cases (m : Machine) (x : String) (v : Value) :
    ((m.frames = [] ∨ (m.globals.lookup x).isSome = true) ∧
      m.write x v = { m with globals := m.globals.assign x v }) ∨
    ∃ frame stack, m.frames = frame :: stack ∧ m.write x v = { m with
      frames := { frame with locals := frame.locals.assign x v } :: stack } := by
  cases frames : m.frames with
  | nil =>
    refine .inl ⟨.inl rfl, ?_⟩
    simp only [write, frames]
  | cons frame stack =>
    by_cases global : (m.globals.lookup x).isSome = true
    · refine .inl ⟨.inr global, ?_⟩
      simp only [write, frames, global, if_true]
    · refine .inr ⟨frame, stack, rfl, ?_⟩
      simp only [write, frames, global]
      rfl

theorem resumes_write (m : Machine) (x : String) (v : Value) :
    Resumes Activation.function m.frames (m.write x v).frames := by
  rcases m.write_cases x v with ⟨_, written⟩ | ⟨_, _, frames, written⟩
  · rw [written]
    exact .refl _
  · rw [written, frames]
    exact ⟨rfl, rfl⟩

theorem evolves_write (m : Machine) (x : String) (v : Value) : Evolves m (m.write x v) := by
  have resumes := resumes_write m x v
  rcases m.write_cases x v with ⟨global, written⟩ | ⟨_, _, _, written⟩
  · rw [written] at resumes ⊢
    refine ⟨resumes.grows, fun inside => ?_, id⟩
    exact names_assign (global.resolve_left inside)
  · rw [written] at resumes ⊢
    exact ⟨resumes.grows, fun _ => rfl, id⟩

theorem Machine.Settles.evolves {m : Machine} (settles : before.Settles m) : Evolves before m := by
  induction settles with
  | refl => exact .refl _
  | write x v _ ih => exact ih.trans (evolves_write _ x v)
  | stop _ ih => exact ih.trans (.of_eq rfl rfl rfl)

/-! ## Computations -/

/-- However the computation ends, the state has gone on as it may. -/
def Keeps {α : Type} (exec : Exec α) : Prop :=
  ∀ (m : Machine) (w : World), Evolves m (exec.perform m w).1.2

namespace Keeps

variable {α β : Type}

theorem plain {exec : Exec α} (plain : Exec.Plain exec) : Keeps exec :=
  fun m w => (plain m w).evolves

theorem modify {f : Machine → Machine}
    (evolves : ∀ m, Evolves m (f m)) : Keeps (modify f : Exec PUnit) :=
  fun m _ => evolves m

theorem bind {first : Exec α} {f : α → Exec β} (before : Keeps first)
    (after : ∀ v, Keeps (f v)) : Keeps (first >>= f) := by
  intro m w
  have evolved := before m w
  rcases reached : first.perform m w with ⟨⟨_ | v, m'⟩, w'⟩ <;>
    rw [reached] at evolved
  · rw [perform_bind_error reached]
    exact evolved
  · rw [perform_bind_ok reached]
    exact evolved.trans (after v m' w')

theorem catching {exec : Exec Unit} (keeps : Keeps exec) : Keeps (Exec.catching i exec) := by
  intro m w
  exact keeps m w

end Keeps

/-- As a relation, the rule relates a computation that keeps to it with itself. -/
theorem compatible_keeps : Compatible fun {_} first second => first = second ∧ Keeps first where
  plain := fun plain => ⟨rfl, .plain plain⟩
  bind := by
    rintro _ _ first _ f f' ⟨rfl, before⟩ after
    obtain rfl : f = f' := funext fun v => (after v).1
    exact ⟨rfl, .bind before fun v => (after v).2⟩
  catching := by
    rintro _ _ _ - ⟨rfl, keeps⟩
    exact ⟨rfl, .catching keeps⟩

theorem keeps_runBody {visit : Visitor} (keeps : ∀ p t, Keeps (visit p t)) (p : Site)
    (part i : Nat) (ts : List (Tree Value)) : Keeps (runBody visit p part i ts) :=
  (runBody_related compatible_keeps.congruent (fun p t _ => ⟨rfl, keeps p t⟩) p part
    i (fun _ _ => trivial : ∀ t ∈ ts, True)).2

/-! ## Calls -/

section Activations

variable {visit : Visitor} {routine : Routine} {locals : Bindings}
variable {m later : Machine} {w after : World}

/-- A body comes to its end or to a break, or it is left in another way. -/
theorem ended_or_interrupted (o : Except Interrupt Unit) :
    (o = .ok () ∨ o = .error .leave) ∨ ∃ i, i ≠ .leave ∧ o = .error i := by
  rcases o with i | ⟨⟩
  · by_cases leaves : i = .leave
    · exact .inl (.inr (by rw [leaves]))
    · exact .inr ⟨i, leaves, rfl⟩
  · exact .inl (.inl rfl)

variable (name x : String)

/-- How a call ends whose body has ended in the given way. -/
def concluded (m : Machine) :
    (Except Interrupt Unit × Machine) × World → (Except Interrupt Value × Machine) × World
  | ((outcome, later), after) =>
    match caught .leave outcome with
    | .ok _ => (endActivation name m.frames.length).perform
        { later with memory := m.memory } after
    | .error interrupt => ((.error interrupt, { later with memory := m.memory }), after)

theorem perform_runActivation :
    (runActivation visit routine x locals).perform m w = concluded x m
      ((runBody visit [] 1 0 routine.body).perform (m.enterFrame routine.name locals)
        w) := by
  rw [runActivation, perform_get_bind, perform_set_bind, perform_bind, perform_thenAlways,
    perform_catching]
  rcases (runBody visit [] 1 0 routine.body).perform (m.enterFrame routine.name locals) w
    with ⟨⟨i | ⟨⟩, _⟩, _⟩
  · cases i <;> rfl
  · rfl

/-- An activation whose body has been run to its end, or up to a break, is taken away. -/
theorem concluded_of_ended {o : Except Interrupt Unit}
    (ended : o = .ok () ∨ o = .error .leave) :
    ∃ told, concluded x m ((o, later), after) = ((.ok .none, { later with
      memory := m.memory
      frames := dropAt later.frames m.frames.length }), told) := by
  rcases ended with rfl | rfl <;> exact ⟨_, rfl⟩

/-- An activation that is left in any other way stays. -/
theorem concluded_of_error (other : i ≠ .leave) :
    concluded x m ((.error i, later), after) =
      ((.error i, { later with memory := m.memory }), after) := by
  cases i with
  | leave => exact absurd rfl other
  | skip | failed | exhausted => rfl

/-- What a call leaves alone: the activations of its callers, the names of the globals, and that
functions begin without variables. -/
structure Confined (before after : Machine) : Prop where
  frames : before.frames <:+ after.frames
  globals : after.globals.map fst = before.globals.map fst
  fresh : before.Fresh → after.Fresh

theorem Confined.refl (m : Machine) : Confined m m :=
  ⟨suffix_refl _, rfl, id⟩

theorem Confined.evolves {m : Machine} (confined : Confined before m) :
    Evolves before m where
  frames := by
    obtain ⟨left, grown⟩ := confined.frames
    exact ⟨left, before.frames, grown.symm, .refl _⟩
  globals := fun _ => confined.globals
  fresh := confined.fresh

/-- The callee's own activation is the lowest one that its body can change. -/
theorem Evolves.concluded {res : (Except Interrupt Unit × Machine) × World}
    (evolved : Evolves (m.enterFrame routine.name locals) res.1.2) :
    Confined m (concluded x m res).1.2 := by
  obtain ⟨⟨o, m'⟩, w⟩ := res
  obtain ⟨left, own, frames⟩ := evolved.frames.exists_cons
  have globals := evolved.globals (cons_ne_nil _ _)
  rcases ended_or_interrupted o with ended | ⟨_, other, rfl⟩
  · obtain ⟨_, same⟩ := concluded_of_ended x ended
    rw [same]
    refine ⟨⟨left, ?_⟩, globals, evolved.fresh⟩
    rw [show m'.frames = left ++ own :: m.frames from frames, dropAt_append_cons]
  · rw [concluded_of_error x other]
    refine ⟨⟨left ++ [own], ?_⟩, globals, evolved.fresh⟩
    rw [append_assoc]
    exact frames.symm

/-- A call that fails before its activation begins changes nothing. -/
theorem callFunction_confined (args : List (Tree Value))
    (keeps : Keeps (runBody visit [] 1 0 routine.body)) :
    Confined m ((callFunction visit routine x args).perform m w).1.2 := by
  rw [callFunction, perform_get_bind]
  split
  · exact .refl m
  · rw [perform_ofAct_bind]
    split
    · cases bindArguments m _ routine.parameters args routine.locals with
      | error => exact .refl m
      | ok =>
        show Confined m ((runActivation visit routine x _).perform m _).1.2
        rw [perform_runActivation]
        exact (keeps _ _).concluded x
    · exact .refl m

end Activations

/-! ## Visits -/

theorem hereditary_true : Hereditary fun _ => True := ⟨fun _ _ => trivial, fun _ => trivial⟩

theorem evolves_setItem (m : Machine) (x : Value) : Evolves m (m.setItem x) := by
  unfold setItem
  split
  · exact .refl m
  · exact .of_eq rfl rfl rfl

/-- What holds of the registered functions and of a new one holds of all of them together. -/
theorem forall_mem_withRoutine (P : String × Routine → Prop) {routine : Routine}
    (holds : P (routine.name, routine)) {functions : List (String × Routine)}
    (before : ∀ e ∈ functions, P e) : ∀ e ∈ withRoutine routine functions, P e := by
  induction functions with
  | nil => exact forall_mem_singleton.mpr holds
  | cons _ _ ih =>
    rw [forall_mem_cons] at before
    rw [withRoutine]
    split
    · exact forall_mem_cons.mpr ⟨holds, before.2⟩
    · exact forall_mem_cons.mpr ⟨before.1, ih before.2⟩

theorem evolves_register (m : Machine) (x : String) (body params : List (Tree Value)) :
    Evolves m (m.register ⟨x, body, params, []⟩) where
  frames := (Resumes.refl _).grows
  globals := fun _ => rfl
  fresh := forall_mem_withRoutine (fun e => e.2.locals = []) rfl

/-- Every visit keeps to the rule, whatever is visited and however it ends. -/
theorem keeps_visitWithin (host : Host) (most d : Nat) (p : Site)
    (t : Tree Value) : Keeps (visitWithin host most d p t) := by
  induction d generalizing p t with
  | zero => exact .plain (.throw _)
  | succ d ih =>
    have related : ∀ p t, True → visitWithin host most d p t =
        visitWithin host most d p t ∧ Keeps (visitWithin host most d p t) :=
      fun p t _ => ⟨rfl, ih p t⟩
    refine (compatible_keeps.congruent.unlessStopped ⟨rfl, ?_⟩).2
    cases t with
    | each _ xs body =>
      have round := (runRound_related compatible_keeps.congruent related p 1 0
        (fun _ _ => trivial : ∀ t ∈ body, True)).2
      refine .bind (.plain .get) fun _ => .bind (.modify fun _ => .of_eq rfl rfl rfl) fun _ => ?_
      refine .bind (ih _ _) fun _ => ?_
      refine .bind (.plain (modest_wholeItems _).plain) fun xs => ?_
      refine .bind (.catching ?_) fun _ =>
        .bind (.modify fun _ => .of_eq rfl rfl rfl) fun _ => .plain (.pure _)
      exact (overItems_related compatible_keeps.congruent ⟨rfl, round⟩
        (fun item => ⟨rfl, .modify fun m => evolves_setItem m item⟩) xs).2
    | call x args =>
      refine .bind (.plain .get) fun m => ?_
      split
      · exact fun m w =>
          (callFunction_confined x args (keeps_runBody ih [] 1 0 _)).evolves
      · exact (callOperation_related compatible_keeps.congruent related host p x
          fun _ _ => trivial).2
    | function x body params =>
      exact .bind (.modify fun m => evolves_register m x body params)
        fun _ => .plain (.ofAct _)
    | _ =>
      exact (step_related compatible_keeps related hereditary_true host most p trivial rfl).2

/-- **A call leaves its callers and the globals alone.** However a call of a function of the script
ends, and whatever the function does, the activations from before are still at the bottom of the
stack with the variables that they had, and the globals have the names that they had. Functions that
began without variables still do, so that every activation begins with its parameters only. -/
theorem visit_call_confined (host : Host) (bound : Bound) (site : Site) (name : String)
    (arguments : List (Script.Tree Value)) (routine : Routine) (machine : Machine) (world : World)
    (registered : machine.functions.lookup name = some routine) :
    let after := ((visit host bound site (.call name arguments)).perform machine world).1.2
    machine.frames <:+ after.frames ∧
    after.globals.map fst = machine.globals.map fst ∧
    (machine.Fresh → ∀ entry ∈ after.functions, entry.2.locals = [] ∧
      ∀ caller serial arguments locals,
        bindArguments caller serial entry.2.parameters arguments entry.2.locals = .ok locals →
          ∀ own ∈ locals.map fst, own ∈ entry.2.parameters.filterMap Tree.leafText?) := by
  intro after
  have confined : Confined machine after := by
    obtain ⟨most, _ | depth⟩ := bound
    · exact .refl machine
    · cases stopped : machine.stopped with
      | true =>
        have same : after = machine := congrArg snd
          (perform_unlessStopped_of_stopped stopped _ world)
        rw [same]
        exact .refl machine
      | false =>
        have called : after = ((callFunction (visitWithin host most depth) routine name
            arguments).perform machine world).1.2 := by
          show ((unlessStopped _).perform machine world).1.2 = _
          rw [perform_unlessStopped_of_running stopped, step, perform_get_bind, registered]
        rw [called]
        exact callFunction_confined name arguments
          (keeps_runBody (keeps_visitWithin host most depth) [] 1 0 routine.body)
  refine ⟨confined.frames, confined.globals, fun fresh entry member => ?_⟩
  have empty := confined.fresh fresh entry member
  refine ⟨empty, fun caller serial arguments locals binds own bound => ?_⟩
  rw [empty] at binds
  rcases mem_names_bindArguments binds bound with parameter | none
  · exact parameter
  · cases none

/-- A function that keeps a text for itself and then continues a loop that is not its own. -/
def straying : Routine :=
  ⟨"f", [.assign "x" (.string "inner"), .skip], [.variable "p"], []⟩

/-- Inside another function that has an `x` of its own. -/
def nestedState : Machine :=
  { initial Path.here with
    functions := [("f", straying)]
    frames := [⟨"g", [("x", .text "outer")]⟩] }

theorem fresh_nestedState : nestedState.Fresh :=
  forall_mem_singleton.mpr rfl

theorem visit_call_confined_straying :
    nestedState.functions.lookup "f" = some straying ∧ nestedState.Fresh ∧
    (let after := ((visit Host.bare ⟨0, 4⟩ []
        (.call "f" [.variable "x"])).perform nestedState default).1.2
     nestedState.frames <:+ after.frames ∧
     after.globals.map fst = nestedState.globals.map fst ∧
     ∀ entry ∈ after.functions, entry.2.locals = [] ∧
      ∀ caller serial arguments locals,
        bindArguments caller serial entry.2.parameters arguments entry.2.locals = .ok locals →
          ∀ own ∈ locals.map fst, own ∈ entry.2.parameters.filterMap Tree.leafText?) := by
  obtain ⟨frames, globals, fresh⟩ := visit_call_confined Host.bare ⟨0, 4⟩ [] "f" [.variable "x"]
    straying nestedState default rfl
  exact ⟨rfl, fresh_nestedState, frames, globals, fresh fresh_nestedState⟩

end DeviceScript.Execution
