import DeviceScript.Proofs.Execution.Variables
import DeviceScript.Proofs.Number.Numerals

/-!
# What a function sees of its arguments

A call is meant to be by value: at the start of the function each parameter reads as the value of
its argument. There are two ways in which this fails.

The arguments are not visited. The text of a leaf is taken, and if it can be read as a number, that
number is passed, whether the leaf was a number, a string or a variable; what is not a leaf cannot
be passed at all. `passedAs` says what is passed for an argument with a given value.

And what is passed need not be seen. The item of the innermost loop of the caller hides a parameter
of its name, and a value that does not count as true is passed over. `Machine.seenAs` says what a
parameter reads as. So a call is by value just if for every argument what is seen of what is passed
is the value of the argument (`visit_call_byValue_iff`).
-/

namespace DeviceScript.Execution

open Script

variable {v : Value} {x : String} {index : Nat} {vs : List Value}

/-! ## What is passed -/

/-- The number that a text is passed as, if it is passed as a number. -/
def numberPassed? (serial : Nat) (s : String) : Option (Except Failure Value) :=
  if Text.isDigits s then some ((Value.toWhole (.text s)).map Value.int)
  else (Number.readFloat? s).map fun number => .ok (Value.ofReal serial number)

/-- What is passed for an argument that has the given value: a number as its value, a text and a
variable by their s if that reads as a n, and else as their vs. -/
def passedAs (serial : Nat) (v : Value) : Tree Value → Option Value
  | .number _ => some v
  | .string s => ((numberPassed? serial s).getD (.ok v)).toOption
  | .variable name => ((numberPassed? serial name).getD (.ok v)).toOption
  | _ => none

section Passing

variable {m : Machine} {serial : Nat} {text s : String} {argument : Tree Value}

/-- A leaf whose text is passed as a number is passed as that number. -/
theorem argumentValue_of_some {o : Except Failure Value} (leaf : argument.leafText? = some s)
    (passed : numberPassed? serial s = some o) : argumentValue m serial argument = o := by
  have taken : leafText argument = .ok s := by rw [leafText, leaf]
  rw [argumentValue, taken]
  show (ite _ _ _ : Except Failure Value) = _
  rw [numberPassed?] at passed
  by_cases digits : Text.isDigits s = true
  · rw [if_pos digits] at passed
    rw [if_pos digits]
    cases passed
    cases Value.toWhole (.text s) <;> rfl
  · rw [if_neg digits] at passed
    obtain ⟨_, real, rfl⟩ := Option.map_eq_some_iff.mp passed
    rw [if_neg digits, real]
    rfl

theorem not_number_of_none (unpassed : numberPassed? serial s = none) :
    ¬ Text.isDigits s = true ∧ Number.readFloat? s = none := by
  rw [numberPassed?] at unpassed
  split at unpassed
  · cases unpassed
  · exact ⟨by assumption, Option.map_eq_none_iff.mp unpassed⟩

/-- A text that is not passed as a number is passed as itself. -/
theorem argumentValue_string (m : Machine) (serial : Nat) (s : String) :
    argumentValue m serial (.string s) = (numberPassed? serial s).getD (.ok (.text s)) := by
  cases passed : numberPassed? serial s with
  | some => exact argumentValue_of_some rfl passed
  | none =>
    obtain ⟨digits, real⟩ := not_number_of_none passed
    show (ite _ _ _ : Except Failure Value) = _
    rw [if_neg digits, real]
    rfl

/-- A variable whose name is not passed as a number is read. -/
theorem argumentValue_variable (m : Machine) (serial : Nat) (x : String) :
    argumentValue m serial (.variable x) = (numberPassed? serial x).getD (.ok (m.read x)) := by
  cases passed : numberPassed? serial x with
  | some => exact argumentValue_of_some rfl passed
  | none =>
    obtain ⟨digits, real⟩ := not_number_of_none passed
    show (ite _ _ _ : Except Failure Value) = _
    rw [if_neg digits, real]
    rfl

theorem numberPassed?_of_isNumeral (numeral : isNumeral s = true) (serial : Nat)
    (evaluated : (if s.contains '.' then (Value.toReal (.text s)).map Value.float
      else (Value.toWhole (.text s)).map Value.int) = .ok v) :
    numberPassed? serial s = some (.ok v) := by
  have digits := Number.isDigits_iff_of_isNumeral numeral
  cases pointed : s.contains '.' with
  | false =>
    rw [if_neg (by simp [pointed])] at evaluated
    rw [numberPassed?, if_pos (digits.mpr pointed), evaluated]
  | true =>
    rw [if_pos pointed, Value.toReal] at evaluated
    rw [numberPassed?, if_neg (by simp [digits, pointed])]
    cases real : Number.readFloat? s with
    | none =>
      rw [real] at evaluated
      cases evaluated
    | some =>
      rw [real] at evaluated
      cases evaluated
      have isNumber := Number.isNaN_readFloat?_of_isNumeral numeral real
      rw [Option.map_some, Value.ofReal, isNumber, if_neg Bool.false_ne_true]

theorem eq_ok_of_perform_ofExcept {α : Type} {o : Except Failure α} {v : α} {m' : Machine}
    {w w' : World} (reached : (Exec.ofExcept o).perform m w = ((.ok v, m'), w')) : o = .ok v := by
  cases o <;> cases reached
  rfl

/-- What is passed for an argument is told by its value and its text. -/
theorem toOption_argumentValue {host : Host} {most d : Nat} {p : Site} {m' : Machine}
    {w w' : World} (serial : Nat) (spelled : ∀ s, argument = .number s → isNumeral s = true)
    (evaluated : (visitWithin host most d p argument).perform m w = ((.ok v, m'), w')) :
    (argumentValue m serial argument).toOption = passedAs serial v argument := by
  have running := running_of_visitWithin_ok evaluated
  cases d with
  | zero => cases evaluated
  | succ =>
    rw [visitWithin, perform_unlessStopped_of_running running] at evaluated
    cases argument with
    | number s =>
      have passed := numberPassed?_of_isNumeral (spelled s rfl) serial
        (eq_ok_of_perform_ofExcept evaluated)
      rw [argumentValue_of_some rfl passed]
      rfl
    | string =>
      cases evaluated
      rw [argumentValue_string, passedAs]
    | «variable» x =>
      cases evaluated
      rw [argumentValue_variable, passedAs]
    | _ => rfl

end Passing

/-! ## What is seen -/

/-- What a parameter with the given value reads as at the start of a function that is called in the
state: the item of the innermost loop if that has its name, and else the value if it counts as true,
and the global if it does not. -/
def Machine.seenAs (m : Machine) (name : String) (v : Value) : Value :=
  let own := if v.truthy then v else (m.globals.lookup name).getD (.int 0)
  match m.loops with
  | [] => own
  | loop :: _ => if loop.name = name then loop.item else own

theorem read_enterFrame {locals : Bindings} (bound : locals.lookup x = some v) (m : Machine)
    (function : String) : (m.enterFrame function locals).read x = m.seenAs x v := by
  have own : (m.enterFrame function locals).outside x =
      if v.truthy then v else (m.globals.lookup x).getD (.int 0) := by
    rw [Machine.outside_of_frames_cons rfl, bound]
    cases counts : v.truthy <;> simp [Option.filter, counts, Machine.enterFrame]
  have loops : (m.enterFrame function locals).loops = m.loops := rfl
  unfold Machine.seenAs
  cases stack : m.loops with
  | nil => rw [Machine.read_of_loops_nil (loops.trans stack), own]
  | cons => rw [Machine.read_of_loops_cons (loops.trans stack), own]

/-! ## What is bound -/

section Binding

variable {m : Machine} {serial : Nat} {names : List String}
variable {args : List (Tree Value)} {locals bound : Bindings}

theorem bindArguments_cons (m : Machine) (serial : Nat) (x : String) (names : List String)
    (argument : Tree Value) (args : List (Tree Value)) (locals : Bindings) :
    bindArguments m serial ((x :: names).map .variable) (argument :: args) locals =
      (do
        let v ← argumentValue m (serial + args.length) argument
        bindArguments m serial (names.map .variable) args
          (Bindings.assign x v locals)) := by
  rfl

/-- A name that is no parameter keeps its value. -/
theorem lookup_of_bindArguments (absent : x ∉ names)
    (binds : bindArguments m serial (names.map .variable) args locals = .ok bound) :
    bound.lookup x = locals.lookup x := by
  induction names generalizing args locals with
  | nil =>
    cases binds
    rfl
  | cons first _ ih =>
    cases args with
    | nil =>
      cases binds
      rfl
    | cons argument args =>
      rw [bindArguments_cons] at binds
      cases passed : argumentValue m (serial + args.length) argument with
      | error =>
        rw [passed] at binds
        cases binds
      | ok =>
        rw [passed] at binds
        have different : x ≠ first := fun same => absent (same ▸ List.mem_cons_self)
        rw [ih (fun mem => absent (.tail _ mem)) binds, lookup_assign_of_ne different]

end Binding

/-! ## Calls by value -/

/-- Each parameter reads as the value of its argument: what is seen of what is passed is that
value. -/
def Machine.Receives (m : Machine) (serial : Nat) :
    List String → List (Tree Value) → List Value → Prop
  | name :: names, argument :: args, v :: vs =>
    (∃ passed, passedAs (serial + args.length) v argument = some passed ∧
      m.seenAs name passed = v) ∧ m.Receives serial names args vs
  | _, _, _ => True

/-- Trees that all have values are visited one after another. -/
theorem visitAll_cons_ok {visit : Visitor} {p : Site} {part : Nat} {t : Tree Value}
    {ts : List (Tree Value)} {m m' : Machine} {w w' : World}
    (evaluated : (visitAll visit p part index (t :: ts)).perform m w = ((.ok vs, m'), w')) :
    ∃ v rest m'' w'', vs = v :: rest ∧
      (visit ((part, index) :: p) t).perform m w = ((.ok v, m''), w'') ∧
      (visitAll visit p part (index + 1) ts).perform m'' w'' = ((.ok rest, m'), w') := by
  rw [visitAll] at evaluated
  rcases first : (visit ((part, index) :: p) t).perform m w with
    ⟨⟨i | v, m''⟩, w''⟩
  · rw [Exec.perform_bind_error first] at evaluated
    cases evaluated
  · rw [Exec.perform_bind_ok first] at evaluated
    rcases others : (visitAll visit p part (index + 1) ts).perform m'' w'' with
      ⟨⟨i | rest, m'''⟩, w'''⟩
    · rw [Exec.perform_bind_error others] at evaluated
      cases evaluated
    · rw [Exec.perform_bind_ok others] at evaluated
      cases evaluated
      exact ⟨v, rest, m'', w'', rfl, rfl, others⟩

theorem isFormula_of_passedAs {serial : Nat} {passed : Value} {argument : Tree Value}
    (passes : passedAs serial v argument = some passed) : argument.IsFormula := by
  cases argument with
  | number s => exact .number s
  | string s => exact .string s
  | «variable» x => exact .name x
  | _ => cases passes

section Receiving

variable {host : Host} {most d : Nat} {p : Site} {serial : Nat} {names : List String}
variable {m later : Machine} {w after : World}

/-- The parameters are bound and read as the values of their arguments just if these are received.
The locals that there are before them do not matter. -/
theorem binds_values_iff (function : String) {args : List (Tree Value)} (locals : Bindings)
    (distinct : names.Nodup) (arity : names.length = args.length)
    (spelled : ∀ s, .number s ∈ args → isNumeral s = true)
    (evaluated : (visitAll (visitWithin host most d) p 1 index args).perform m
      w = ((.ok vs, later), after)) :
    (∃ bound, bindArguments m serial (names.map .variable) args locals = .ok bound ∧
      names.map (m.enterFrame function bound).read = vs) ↔
    m.Receives serial names args vs := by
  induction names generalizing args vs index locals w with
  | nil =>
    cases args with
    | nil =>
      cases evaluated
      exact iff_of_true ⟨locals, rfl, rfl⟩ trivial
    | cons => cases arity
  | cons x names ih =>
    cases args with
    | nil => cases arity
    | cons argument args =>
      obtain ⟨v, rest, m', _, rfl, first, others⟩ := visitAll_cons_ok evaluated
      rw [List.nodup_cons] at distinct
      have passing := toOption_argumentValue (serial + args.length)
        (fun s isNumber => spelled s (isNumber ▸ List.mem_cons_self)) first
      rw [bindArguments_cons]
      -- What cannot be passed ends the binding. What can be passed is a leaf, so that its visit has
      -- left the state as it was and the other arguments are visited in the same one.
      cases passed : argumentValue m (serial + args.length) argument with
      | error =>
        rw [passed] at passing
        refine iff_of_false ?_ ?_
        · rintro ⟨bound, binds, _⟩
          cases binds
        · rintro ⟨⟨_, passes, _⟩, _⟩
          rw [passes] at passing
          cases passing
      | ok given =>
        rw [passed] at passing
        have passes : passedAs (serial + args.length) v argument = some given :=
          passing.symm
        obtain rfl := eq_of_visitWithin_ok (isFormula_of_passedAs passes) first
        have tail := ih (Bindings.assign x given locals) distinct.2
          (Nat.succ.inj arity) (fun s mem => spelled s (.tail _ mem)) others
        have seen {bound : Bindings}
            (binds : bindArguments m' serial (names.map .variable) args
              (Bindings.assign x given locals) = .ok bound) :
            (m'.enterFrame function bound).read x = m'.seenAs x given := by
          apply read_enterFrame
          rw [lookup_of_bindArguments distinct.1 binds, lookup_assign_self]
        constructor
        · rintro ⟨bound, binds, reads⟩
          obtain ⟨own, rest⟩ := List.cons.inj reads
          exact ⟨⟨given, passes, (seen binds).symm.trans own⟩, tail.mp ⟨bound, binds, rest⟩⟩
        · rintro ⟨⟨_, passes', own⟩, received⟩
          cases passes.symm.trans passes'
          obtain ⟨bound, binds, rest⟩ := tail.mpr received
          refine ⟨bound, binds, ?_⟩
          rw [List.map_cons, rest, seen binds, own]

end Receiving

/-- **When a call is by value.** A function of the script with different names as parameters is
called with as many arguments, and these have values in the state of the caller. Then the parameters
are bound without the arguments being visited, and the body is run in an activation with these
locals. There the parameters read as the values just if every argument is received. An argument that
is no leaf is never passed, and a string or a variable whose text reads as a number is passed as
that number. Of what is passed one sees the item of the caller's innermost loop, if the parameter
has the name of that item, and the global of that name, or zero, if it does not count as true. -/
theorem visit_call_byValue_iff (host : Host) (most depth : Nat) (site : Site) (name : String)
    (routine : Routine) (names : List String) (arguments : List (Script.Tree Value))
    (values : List Value) (machine later : Machine) (world after : World)
    (running : machine.stopped = false)
    (known : machine.functions.lookup name = some routine)
    (identifiers : routine.parameters = names.map .variable) (distinct : names.Nodup)
    (arity : names.length = arguments.length)
    (spelled : ∀ text, .number text ∈ arguments → isNumeral text = true)
    (evaluated : (visitAll (visit host ⟨most, depth⟩) site 1 0 arguments).perform machine world =
      ((.ok values, later), after)) :
    let bound := bindArguments machine world.serials routine.parameters arguments routine.locals
    (visit host ⟨most, depth + 1⟩ site (.call name arguments)).perform machine world =
      (do runActivation (visit host ⟨most, depth⟩) routine name (← Exec.ofExcept bound)).perform
        machine { world with serials := world.serials + arguments.length } ∧
    ((∃ locals, bound = .ok locals ∧
      names.map (machine.enterFrame routine.name locals).read = values) ↔
      machine.Receives world.serials names arguments values) := by
  intro bound
  constructor
  · show (unlessStopped _).perform machine world = _
    have balanced : ¬ routine.parameters.length ≠ arguments.length := by
      rw [identifiers, List.length_map, arity]
      exact fun different => different rfl
    rw [perform_unlessStopped_of_running running, step, Exec.perform_get_bind, known]
    show (callFunction _ routine name arguments).perform machine world = _
    rw [callFunction, Exec.perform_get_bind, if_neg balanced]
    rfl
  · show (∃ locals, bindArguments machine _ routine.parameters _ _ = .ok locals ∧ _) ↔ _
    rw [identifiers]
    exact binds_values_iff routine.name routine.locals distinct arity spelled evaluated

/-- A function that keeps what it sees of its parameter. -/
def keeper : Routine := ⟨"f", [.assign "r" (.variable "p")], [.variable "p"], []⟩

/-- A state with that function and a global of the name of its parameter. -/
def sharedName : Machine :=
  { Machine.initial Path.here with
    globals := [("p", .text "global"), ("r", .none)]
    functions := [("f", keeper)] }

theorem perform_visit_zero (m : Machine) (running : m.stopped = false) (p : Site) (w : World) :
    (visit Host.bare ⟨0, 3⟩ p (.number "0")).perform m w = ((.ok (.int 0), m), w) := by
  have pointless : "0".contains '.' = false := by
    rw [String.contains_char_eq]
    decide
  show (unlessStopped _).perform m w = _
  rw [perform_unlessStopped_of_running running, step, pointless]
  rfl

/-- The function is given zero and sees the global. -/
theorem zero_argument_reads_as_global :
    let evaluated := (visit Host.bare ⟨0, 3⟩ [(1, 0)] (.number "0")).perform sharedName default
    let result := (visit Host.bare ⟨0, 4⟩ [] (.call "f" [.number "0"])).perform sharedName default
    evaluated = ((.ok (.int 0), sharedName), default) ∧ result.1.1 = .ok .none ∧
      result.1.2.globals.lookup "r" = some (.text "global") :=
  ⟨perform_visit_zero sharedName rfl _ _, rfl, rfl⟩

/-- A state inside a loop, with a function of three parameters; one of them has the name of the
item. -/
def threeParameters : Machine :=
  { sharedName with
    functions := [("g", ⟨"g", [], [.variable "p", .variable "q", .variable "i"], []⟩)]
    loops := [⟨"i", .int 7⟩] }

theorem visit_call_byValue_iff_threeParameters :
    let arguments := [.number "0", .string "word", .variable "i"]
    let routine : Routine := ⟨"g", [], [.variable "p", .variable "q", .variable "i"], []⟩
    let bound := bindArguments threeParameters 0 routine.parameters arguments routine.locals
    let values := [.int 0, .text "word", .int 7]
    threeParameters.functions.lookup "g" = some routine ∧
    (visitAll (visit Host.bare ⟨0, 3⟩) [] 1 0 arguments).perform threeParameters default =
      ((.ok values, threeParameters), default) ∧
    (visit Host.bare ⟨0, 4⟩ [] (.call "g" arguments)).perform threeParameters default =
      (do runActivation (visit Host.bare ⟨0, 3⟩) routine "g" (← Exec.ofExcept bound)).perform
        threeParameters { (default : World) with serials := 3 } ∧
    ((∃ locals, bound = .ok locals ∧
      ["p", "q", "i"].map (threeParameters.enterFrame "g" locals).read = values) ↔
      threeParameters.Receives 0 ["p", "q", "i"] arguments values) := by
  intro arguments routine bound values
  have evaluated : (visitAll (visit Host.bare ⟨0, 3⟩) [] 1 0 arguments).perform threeParameters
      default = ((.ok values, threeParameters), default) := by
    rw [visitAll, Exec.perform_bind_ok (perform_visit_zero threeParameters rfl _ _)]
    rfl
  have spelled : ∀ text, .number text ∈ arguments → isNumeral text = true := by
    intro text member
    simp only [arguments, List.mem_cons, List.not_mem_nil, or_false, reduceCtorEq] at member
    cases member
    rfl
  exact ⟨rfl, evaluated, visit_call_byValue_iff Host.bare 0 3 [] "g" routine ["p", "q", "i"]
    arguments values threeParameters threeParameters default default rfl rfl rfl (by decide) rfl
    spelled evaluated⟩

end DeviceScript.Execution
