import DeviceScript.Calling.Operation
import Mathlib.Data.List.Nodup

/-!
# What a loose call hands over

A loose call spreads tuples and points, counts what comes out, and then does one of three things. It
refuses the call if there is too little. It hands the values over by position if there is one for
each parameter without a default. And otherwise it gives every parameter its value by name: the
values as far as they reach, then the defaults, and what is too much is dropped. That is the rule
that callers rely on (`Honours`).

A parameter that takes its value by position only cannot be named. So the third way fails where
there is one, although the values are there.

Main statement: for every signature whose parameters without a default come before those with one, a
loose call keeps to the rule exactly if nothing is handed over by name or every parameter can be
named (`callLoosely_honours_iff`).
-/

namespace DeviceScript

open List Operation Signature

variable {vs : List Value} {parameter : Parameter}

/-! ## Arguments -/

/-- What an argument stands for: the items of a tuple, the coordinates of a point, or itself. -/
def Value.pieces : Value → List Value
  | .tuple xs => xs
  | .point _ x y => [x, y]
  | v => [v]

/-- The arguments that a value stands for: a value that is no tuple is a single one. -/
def Value.arguments : Value → List Value
  | .tuple xs => xs
  | v => [v]

/-- All that is handed over for some arguments, in order. -/
def Value.flat (given : Value) : List Value := given.arguments.flatMap Value.pieces

/-- The value is a set, which has no order. -/
def Value.isSet : Value → Bool
  | .set _ => true
  | _ => false

theorem spread_eq_pieces {v : Value} (ordered : v.isSet = false) : spread v = v.pieces := by
  cases v with
  | set => cases ordered
  | _ => rfl

theorem spreadAll_eq_flat {given : Value}
    (ordered : ∀ v ∈ given.arguments, v.isSet = false) : spreadAll given = given.flat := by
  cases given with
  | tuple =>
    refine flatMap_congr fun v mem => ?_
    exact spread_eq_pieces (ordered v mem)
  | set => cases ordered _ mem_cons_self
  | _ => exact (append_nil _).symm

/-! ## Parameters -/

def Parameter.fallback (p : Parameter) : Value := p.default.getD .none

/-- The values that parameters get: those given, as far as there are parameters for them, and then
what the rest of the parameters fall back on. -/
def handedOver (params : List Parameter) (vs : List Value) : List Value :=
  vs.take params.length ++ (params.drop vs.length).map Parameter.fallback

theorem handedOver_cons_cons (p : Parameter) (params : List Parameter) (v : Value)
    (vs : List Value) :
    handedOver (p :: params) (v :: vs) = v :: handedOver params vs := rfl

theorem handedOver_cons_nil (p : Parameter) (params : List Parameter) :
    handedOver (p :: params) [] = p.fallback :: handedOver params [] := by
  simp [handedOver]

theorem length_handedOver (params : List Parameter) (vs : List Value) :
    (handedOver params vs).length = params.length := by
  simp only [handedOver, length_append, length_take, length_map, length_drop]
  omega

/-- The parameters behind the values have defaults. -/
def Covers (params : List Parameter) (vs : List Value) : Prop :=
  ∀ p ∈ params.drop vs.length, p.default.isSome = true

def byName (params : List Parameter) (vs : List Value) : List (String × Value) :=
  (params.map (·.name)).zip vs

theorem byName_cons_cons (p : Parameter) (params : List Parameter) (v : Value)
    (vs : List Value) :
    byName (p :: params) (v :: vs) = (p.name, v) :: byName params vs := rfl

theorem byName_nil_right (params : List Parameter) : byName params [] = [] :=
  zip_nil_right

theorem name_mem_of_mem_byName {params : List Parameter} {e : String × Value}
    (mem : e ∈ byName params vs) : e.1 ∈ params.map (·.name) :=
  (of_mem_zip mem).1

theorem fillNamed_eq {params : List Parameter} (covers : Covers params vs) :
    fillNamed params vs = .ok (byName params (handedOver params vs)) := by
  induction params generalizing vs with
  | nil => rfl
  | cons _ params ih =>
    cases vs with
    | cons =>
      rw [fillNamed, ih covers]
      rfl
    | nil =>
      obtain ⟨_, present⟩ := Option.isSome_iff_exists.mp (covers _ mem_cons_self)
      have others : Covers params [] := fun other mem => covers other (.tail _ mem)
      rw [fillNamed]
      rw [ih others, handedOver_cons_nil, Parameter.fallback, present]
      rfl

/-! ## Binding -/

section Lookup

variable {params : List Parameter} (distinct : (params.map (·.name)).Nodup)

include distinct

/-- Every parameter finds the value that stands under its name, or falls back on its default. -/
theorem map_lookup_byName (vs : List Value) : params.map (fun p =>
        ((byName params vs).lookup p.name).getD p.fallback) =
      handedOver params vs := by
  induction params generalizing vs with
  | nil => simp [handedOver]
  | cons p _ ih =>
    rw [map_cons, nodup_cons] at distinct
    cases vs with
    | nil =>
      rw [byName_nil_right, handedOver_cons_nil, ← ih distinct.2, byName_nil_right]
      rfl
    | cons v =>
      rw [map_cons, handedOver_cons_cons, ← ih distinct.2, byName_cons_cons, lookup_cons_self]
      refine congrArg (v :: ·) (map_congr_left fun other mem => ?_)
      have apart : (other.name == p.name) = false := by
        refine beq_eq_false_iff_ne.mpr fun same => distinct.1 ?_
        exact same ▸ mem_map_of_mem mem
      rw [lookup_cons, apart]

/-- What is not found under its name has a default. -/
theorem unbound_byName (covers : Covers params vs) : unbound params (byName params vs) = [] := by
  induction params generalizing vs with
  | nil => rfl
  | cons p _ ih =>
    rw [map_cons, nodup_cons] at distinct
    rw [unbound, map_eq_nil_iff, filter_eq_nil_iff]
    cases vs with
    | nil =>
      intro other mem
      have present := covers other mem
      simp [Option.isNone_iff_eq_none, Option.isSome_iff_ne_none.mp present]
    | cons =>
      have rest := ih distinct.2 covers
      rw [unbound, map_eq_nil_iff, filter_eq_nil_iff] at rest
      rw [byName_cons_cons, forall_mem_cons]
      refine ⟨by simp, fun other mem => ?_⟩
      have apart : (other.name == p.name) = false := by
        refine beq_eq_false_iff_ne.mpr fun same => distinct.1 ?_
        exact same ▸ mem_map_of_mem mem
      rw [lookup_cons, apart]
      exact rest other mem

end Lookup

/-- The parameters without a default come first, then those with one. Values can reach all of them
by their position, and no two have the same name. -/
structure Signature.TakesInOrder (signature : Signature) (required optional : List Parameter) :
    Prop where
  parameters : signature.parameters = required ++ optional
  positional : ∀ parameter ∈ signature.parameters, parameter.isPositional = true
  required : ∀ parameter ∈ required, parameter.default = none
  optional : ∀ parameter ∈ optional, parameter.default.isSome = true
  distinct : (signature.parameters.map (·.name)).Nodup

namespace Signature.TakesInOrder

variable {sig : Signature} {required optional : List Parameter}
  (form : sig.TakesInOrder required optional)

include form

theorem kind_of_mem (mem : parameter ∈ sig.parameters) :
    parameter.kind = .positionalOnly ∨ parameter.kind = .ordinary := by
  simpa [Parameter.isPositional] using form.positional parameter mem

theorem no_kind {k : ParameterKind} (other : k ≠ .positionalOnly ∧ k ≠ .ordinary) :
    (sig.parameters.any fun p => p.kind = k) = false := by
  rw [any_eq_false]
  intro p mem same
  rcases form.kind_of_mem mem with found | found <;>
    exact absurd ((of_decide_eq_true same).symm.trans found) (by simp [other])

theorem positional_eq : sig.positional = sig.parameters :=
  filter_eq_self.mpr form.positional

theorem takesRest_eq : sig.takesRest = false := form.no_kind (by decide)

theorem takesNamedRest_eq : sig.takesNamedRest = false := form.no_kind (by decide)

theorem keywordOnly_eq : (sig.parameters.filter fun p => p.kind = .keywordOnly) = [] := by
  rw [filter_eq_nil_iff]
  exact any_eq_false.mp (form.no_kind (by decide))

theorem length_parameters : sig.parameters.length = required.length + optional.length := by
  rw [form.parameters, length_append]

theorem needed_eq : needed sig = required := by
  have first : required.filter (fun p => p.default.isNone) = required :=
    filter_eq_self.mpr fun p mem => by rw [form.required p mem]; rfl
  have second : optional.filter (fun p => p.default.isNone) = [] := by
    refine filter_eq_nil_iff.mpr fun p mem => ?_
    rw [Option.isNone_iff_eq_none]
    exact Option.isSome_iff_ne_none.mp (form.optional p mem)
  rw [needed, form.parameters, filter_append, first, second, append_nil]

/-- Where there is a value for each parameter that needs one, the others have defaults. -/
theorem covers (enough : required.length ≤ vs.length) : Covers sig.parameters vs := by
  intro p mem
  rw [form.parameters, drop_append, drop_eq_nil_of_le enough] at mem
  exact form.optional p (mem_of_mem_drop mem)

theorem map_valueOf (args : List Value) (n : Nat) (vs : List Value)
    (extra : List (String × Value)) :
    sig.parameters.map (valueOf args n (byName sig.parameters vs) extra) =
      handedOver sig.parameters vs := by
  rw [← map_lookup_byName form.distinct]
  refine map_congr_left fun p mem => ?_
  rw [valueOf]
  rcases form.kind_of_mem mem with k | k <;> rw [k] <;> rfl

/-- Once every value has found its name, the parameters get what is handed over to them. -/
theorem bind_of_bound {args : List Value} {named : List (String × Value)}
    (bound : sig.bindNamed named (sig.placed args) [] = .ok (byName sig.parameters vs, []))
    (room : args.length ≤ sig.parameters.length) (covers : Covers sig.parameters vs) :
    sig.bind args named = .ok (handedOver sig.parameters vs) := by
  rw [bind, bound, form.positional_eq, form.keywordOnly_eq]
  refine Eq.trans (if_neg ?_) ?_
  · simp [Nat.not_lt.mpr room]
  · rw [unbound_byName form.distinct covers]
    exact congrArg Except.ok (form.map_valueOf _ _ _ _)

/-- Values that reach all parameters without a default are bound by their position. -/
theorem bind_positional (enough : required.length ≤ vs.length)
    (room : vs.length ≤ sig.parameters.length) :
    sig.bind vs [] = .ok (handedOver sig.parameters vs) := by
  refine form.bind_of_bound ?_ room (form.covers enough)
  rw [bindNamed, placed, form.positional_eq, byName]

end Signature.TakesInOrder

/-! ## Handing over by name -/

section ByName

variable {sig : Signature}

theorem named?_isSome (mem : parameter ∈ sig.parameters)
    (ordinary : parameter.kind = .ordinary) : (sig.named? parameter.name).isSome = true := by
  rw [named?, find?_isSome]
  exact ⟨parameter, mem, by simp [ordinary]⟩

/-- Named values are bound one after another, if every name is one of an ordinary parameter and none
is used twice. -/
theorem bindNamed_eq (params : List Parameter) (known : ∀ p ∈ params, p ∈ sig.parameters)
    (ordinary : ∀ p ∈ params, p.kind = .ordinary) (distinct : (params.map (·.name)).Nodup)
    (vs : List Value) (bound : List (String × Value))
    (fresh : ∀ e ∈ bound, e.1 ∉ params.map (·.name)) :
    sig.bindNamed (byName params vs) bound [] = .ok (bound ++ byName params vs, []) := by
  induction params generalizing vs bound with
  | nil => simp [byName, bindNamed]
  | cons p _ ih =>
    cases vs with
    | nil => simp [byName_nil_right, bindNamed]
    | cons =>
      rw [forall_mem_cons] at known ordinary
      rw [map_cons, nodup_cons] at distinct
      obtain ⟨found, named⟩ := Option.isSome_iff_exists.mp (named?_isSome known.1 ordinary.1)
      have free : (bound.lookup p.name).isSome = false := by
        rw [Option.isSome_eq_false_iff, Option.isNone_iff_eq_none, lookup_eq_none_iff]
        intro e mem
        refine bne_iff_ne.mpr fun same => fresh e mem ?_
        rw [← same]
        exact mem_cons_self
      rw [byName_cons_cons, bindNamed, named]
      rw [free, ih known.2 ordinary.2 distinct.2]
      · rw [append_assoc]
        rfl
      · intro e mem
        rcases mem_append.mp mem with earlier | last
        · intro inside
          exact fresh e earlier (.tail _ inside)
        · rw [mem_singleton.mp last]
          exact distinct.1

end ByName

namespace Signature.TakesInOrder

variable {sig : Signature} {required optional : List Parameter}
  (form : sig.TakesInOrder required optional)

include form

/-- Values for all parameters are bound by name, if every parameter can be named. -/
theorem bind_named (full : vs.length = sig.parameters.length)
    (ordinary : ∀ p ∈ sig.parameters, p.kind = .ordinary) :
    sig.bind [] (byName sig.parameters vs) = .ok vs := by
  have bound : sig.bindNamed (byName sig.parameters vs) (sig.placed []) [] =
      .ok (byName sig.parameters vs, []) := by
    rw [placed, zip_nil_right]
    exact bindNamed_eq sig.parameters (fun _ mem => mem) ordinary form.distinct vs
      [] fun _ mem => by cases mem
  have covers : Covers sig.parameters vs := by
    intro p mem
    rw [full, drop_length] at mem
    cases mem
  have complete : handedOver sig.parameters vs = vs := by
    rw [handedOver, ← full, take_length, full, drop_length, map_nil, append_nil]
  rw [form.bind_of_bound bound (Nat.zero_le _) covers, complete]

/-- A parameter without a name that can be used makes binding by name fail. -/
theorem bindNamed_refused {named bound extra : List (String × Value)}
    (known : ∀ e ∈ named, e.1 ∈ sig.parameters.map (·.name)) (fresh : (named.map Prod.fst).Nodup)
    (apart : ∀ e ∈ named, (bound.lookup e.1).isSome = false)
    (closed : ∃ e ∈ named, sig.named? e.1 = none) :
    ∃ names, sig.bindNamed named bound extra = .error (.positionalOnly sig.fullName names) := by
  induction named generalizing bound extra with
  | nil =>
    obtain ⟨_, mem, _⟩ := closed
    cases mem
  | cons e named ih =>
    obtain ⟨name, v⟩ := e
    rw [forall_mem_cons] at known apart
    rw [map_cons, nodup_cons] at fresh
    rw [bindNamed]
    cases found : sig.named? name with
    | some =>
      rw [apart.1]
      refine ih known.2 fresh.2 (fun other mem => ?_) ?_
      · have differs : (other.1 == name) = false := by
          refine beq_eq_false_iff_ne.mpr fun same => fresh.1 ?_
          exact mem_map.mpr ⟨other, mem, same⟩
        rw [lookup_append, Option.isSome_or, apart.2 other mem, lookup_cons, differs]
        rfl
      · obtain ⟨other, mem, unnamed⟩ := closed
        rcases mem_cons.mp mem with rfl | inside
        · rw [found] at unnamed
          cases unnamed
        · exact ⟨other, inside, unnamed⟩
    | none =>
      -- The name is one of the parameters, and it is not found among those that can be named.
      obtain ⟨p, mem, rfl⟩ := mem_map.mp known.1
      have positional : p.kind = .positionalOnly := by
        refine (form.kind_of_mem mem).resolve_right fun ordinary => ?_
        have some := named?_isSome mem ordinary
        rw [found] at some
        cases some
      have listed : (sig.parameters.filter fun other => other.kind = .positionalOnly &&
          (((p.name, v) :: named).lookup other.name).isSome).isEmpty = false := by
        rw [isEmpty_eq_false_iff_exists_mem]
        exact ⟨p, mem_filter.mpr ⟨mem, by simp [positional, lookup_cons_self]⟩⟩
      dsimp only
      rw [form.takesNamedRest_eq, listed]
      exact ⟨_, rfl⟩

/-- A parameter that takes its value by position only is not found by its name. -/
theorem named?_eq_none (mem : parameter ∈ sig.parameters)
    (closed : parameter.kind ≠ .ordinary) : sig.named? parameter.name = none := by
  rw [named?, find?_eq_none]
  intro other present accepted
  simp only [Bool.and_eq_true, Bool.or_eq_true, decide_eq_true_eq] at accepted
  have unique : other = parameter := inj_on_of_nodup_map form.distinct present mem accepted.1
  subst unique
  rcases accepted.2 with ordinary | keyword
  · exact closed ordinary
  · rcases form.kind_of_mem present with k | k <;> rw [k] at keyword <;> cases keyword

theorem bind_refused (full : vs.length = sig.parameters.length)
    (closed : ∃ p ∈ sig.parameters, p.kind ≠ .ordinary) :
    ∃ names, sig.bind [] (byName sig.parameters vs) =
      .error (.positionalOnly sig.fullName names) := by
  have names : (byName sig.parameters vs).map Prod.fst = sig.parameters.map (·.name) :=
    map_fst_zip (by rw [length_map]; omega)
  have unnamed : ∃ e ∈ byName sig.parameters vs, sig.named? e.1 = none := by
    obtain ⟨p, mem, closed⟩ := closed
    have listed : p.name ∈ (byName sig.parameters vs).map Prod.fst :=
      names ▸ mem_map_of_mem mem
    obtain ⟨e, inside, same⟩ := mem_map.mp listed
    exact ⟨e, inside, same ▸ form.named?_eq_none mem closed⟩
  have refused : ∃ closed, sig.bindNamed (byName sig.parameters vs) [] [] =
      .error (.positionalOnly sig.fullName closed) :=
    form.bindNamed_refused (fun _ mem => name_mem_of_mem_byName mem)
      (names ▸ form.distinct) (fun _ _ => rfl) unnamed
  obtain ⟨closed, failed⟩ := refused
  refine ⟨closed, ?_⟩
  rw [bind, placed, zip_nil_right, failed]
  rfl

end Signature.TakesInOrder

/-! ## Main statement -/

/-- The rule of loose calls, whatever the operation does. If there are fewer values than parameters
without a default, the call fails for that reason and nothing is done. Otherwise it comes to doing
the operation once: on the values and the defaults of the parameters that they do not reach, or, if
there are more values than parameters, on as many of them as there are parameters. And no parameter
is ever found to have neither a value nor a default. -/
structure Honours (signature : Signature) (required optional : List Parameter) (given : Value) :
    Prop where
  tooFew : given.flat.length < required.length → ∀ action,
    callLoosely ⟨signature, action⟩ given =
      throw (.tooFewArguments signature.name required.length given.flat.length)
  enough : required.length ≤ given.flat.length →
    given.flat.length ≤ required.length + optional.length → ∀ action,
      callLoosely ⟨signature, action⟩ given =
        action (given.flat ++ (signature.parameters.drop given.flat.length).map Parameter.fallback)
  tooMany : required.length + optional.length < given.flat.length → ∀ action,
    callLoosely ⟨signature, action⟩ given =
      action (given.flat.take (required.length + optional.length))
  reached : ∀ name, looseArguments signature given ≠ .error (.unboundParameter name)

section Main

variable {sig : Signature} {required optional : List Parameter}
  (form : sig.TakesInOrder required optional) {given : Value}
  (ordered : ∀ v ∈ given.arguments, v.isSet = false)

include form ordered

/-- The three ways of a loose call. -/
theorem looseArguments_eq : looseArguments sig given =
    if given.flat.length = required.length then .ok (given.flat, [])
    else if given.flat.length < required.length then
      .error (.tooFewArguments sig.name required.length given.flat.length)
    else .ok ([], byName sig.parameters (handedOver sig.parameters given.flat)) := by
  rw [looseArguments, form.takesRest_eq, if_neg Bool.false_ne_true]
  dsimp only
  rw [spreadAll_eq_flat ordered, form.needed_eq]
  split
  · rfl
  · split
    · rfl
    · rw [fillNamed_eq (form.covers (by omega))]
      rfl

/-- A call with too few values fails before anything is done. -/
theorem callLoosely_of_tooFew (few : given.flat.length < required.length)
    (action : List Value → Act Value) :
    callLoosely ⟨sig, action⟩ given =
      throw (.tooFewArguments sig.name required.length given.flat.length) := by
  rw [callLoosely, looseArguments_eq form ordered, if_neg (by omega), if_pos few]
  rfl

/-- A call that hands over by position, or by names that can all be used, comes to the operation. -/
theorem callLoosely_of_enough (enough : required.length ≤ given.flat.length)
    (free : given.flat.length ≤ required.length ∨ ∀ p ∈ sig.parameters, p.kind = .ordinary)
    (action : List Value → Act Value) :
    callLoosely ⟨sig, action⟩ given = action (handedOver sig.parameters given.flat) := by
  have length := form.length_parameters
  rw [callLoosely, looseArguments_eq form ordered]
  by_cases exact_ : given.flat.length = required.length
  · rw [if_pos exact_]
    show Act.ofExcept (sig.bind given.flat []) >>= action = _
    rw [form.bind_positional enough (by omega)]
    rfl
  · rw [if_neg exact_, if_neg (by omega)]
    show Act.ofExcept (sig.bind [] _) >>= action = _
    rw [form.bind_named (length_handedOver _ _) (free.resolve_left (by omega))]
    rfl

/-- A call that would have to name a parameter which cannot be named fails before anything is
done. -/
theorem callLoosely_of_closed (more : required.length < given.flat.length)
    (closed : ∃ p ∈ sig.parameters, p.kind ≠ .ordinary) :
    ∃ names, ∀ action, callLoosely ⟨sig, action⟩ given =
      throw (.positionalOnly sig.fullName names) := by
  obtain ⟨names, refused⟩ := form.bind_refused
    (length_handedOver sig.parameters given.flat) closed
  refine ⟨names, fun action => ?_⟩
  rw [callLoosely, looseArguments_eq form ordered, if_neg (by omega), if_neg (by omega)]
  show Act.ofExcept (sig.bind [] _) >>= action = _
  rw [refused]
  rfl

theorem honours_of_free (free : given.flat.length ≤ required.length ∨
    ∀ p ∈ sig.parameters, p.kind = .ordinary) :
    Honours sig required optional given where
  tooFew := callLoosely_of_tooFew form ordered
  enough := by
    intro enough _ action
    rw [callLoosely_of_enough form ordered enough free, handedOver, take_of_length_le]
    rwa [form.length_parameters]
  tooMany := by
    intro _ action
    rw [callLoosely_of_enough form ordered (by omega) free, handedOver, form.length_parameters,
      drop_eq_nil_of_le (by rw [form.length_parameters]; omega), map_nil, append_nil]
  reached := by
    rw [looseArguments_eq form ordered]
    split
    · simp
    · split <;> simp

end Main

theorem pure_ne_throw {v : Value} {e : Failure} : (pure v : Act Value) ≠ throw e := by
  intro same
  have outcomes : Except.ok v = Except.error e :=
    congrArg (fun act : Act Value => (act.perform default).1) same
  cases outcomes

/-- **When a loose call keeps to its rule.** Let the parameters without a default come before those
with one, and let no argument be a set. The call keeps to the rule exactly if there are no more
values than parameters without a default, or no parameter takes its value by position only. In every
other case it fails because of such a parameter, and the operation is not done. -/
theorem callLoosely_honours_iff {signature : Signature} {required optional : List Parameter}
    (form : signature.TakesInOrder required optional) {given : Value}
    (ordered : ∀ value ∈ given.arguments, value.isSet = false) :
    (Honours signature required optional given ↔
      given.flat.length ≤ required.length ∨
        ∀ parameter ∈ signature.parameters, parameter.kind = .ordinary) ∧
    (¬ Honours signature required optional given → ∃ names, ∀ action,
      callLoosely ⟨signature, action⟩ given =
        throw (.positionalOnly signature.fullName names)) := by
  have refused : ¬ (given.flat.length ≤ required.length ∨
      ∀ parameter ∈ signature.parameters, parameter.kind = .ordinary) →
      ∃ names, ∀ action, callLoosely ⟨signature, action⟩ given =
        throw (.positionalOnly signature.fullName names) := by
    intro bad
    obtain ⟨more, closed⟩ := not_or.mp bad
    refine callLoosely_of_closed form ordered (by omega) ?_
    simpa using closed
  refine ⟨⟨fun honours => ?_, honours_of_free form ordered⟩, fun broken => ?_⟩
  · by_contra bad
    obtain ⟨names, fails⟩ := refused bad
    obtain ⟨more, -⟩ := not_or.mp bad
    -- An operation that gives back nothing does not fail by itself.
    have failed := fails fun _ => pure .none
    have returned : callLoosely ⟨signature, fun _ => pure .none⟩ given = pure .none := by
      by_cases room : given.flat.length ≤ required.length + optional.length
      · exact honours.enough (by omega) room _
      · exact honours.tooMany (by omega) _
    exact pure_ne_throw (returned.symm.trans failed)
  · exact refused fun free => broken (honours_of_free form ordered free)

/-- The parameters of an operation that needs one value and takes up to three. -/
def threeParameters : Signature :=
  ⟨"", "draw", false, [.required "x" none, .optional "y" none (.int 20),
    .optional "color" none (.text "red")], none⟩

/-- A point gives the first two parameters their values, and the third one falls back on its
default. -/
theorem callLoosely_honours_iff_point :
    let given := Value.tuple [.point 1 (.int 3) (.int 4)]
    let required := threeParameters.parameters.take 1
    let optional := threeParameters.parameters.drop 1
    threeParameters.TakesInOrder required optional ∧
      (∀ value ∈ given.arguments, value.isSet = false) ∧
      Honours threeParameters required optional given ∧
      ∀ action, callLoosely ⟨threeParameters, action⟩ given =
        action [.int 3, .int 4, .text "red"] := by
  intro given required optional
  have form : threeParameters.TakesInOrder required optional :=
    ⟨rfl, by decide, by decide, by decide, by decide⟩
  have ordered : ∀ value ∈ given.arguments, value.isSet = false := by decide
  have honours := (callLoosely_honours_iff form ordered).1.mpr (.inr (by decide))
  exact ⟨form, ordered, honours, honours.enough (by decide) (by decide)⟩

/-- An operation whose two parameters take their values by position only, the second one with a
default, cannot be given both values. -/
theorem two_values_by_position_are_refused :
    let x : Parameter := ⟨"x", .positionalOnly, none, none⟩
    let y : Parameter := ⟨"y", .positionalOnly, none, some (.int 2)⟩
    let signature : Signature := ⟨"Sample.", "posonly", true, [x, y], none⟩
    let given := Value.tuple [.int 1, .int 2]
    signature.TakesInOrder [x] [y] ∧ (∀ value ∈ given.arguments, value.isSet = false) ∧
      ¬ Honours signature [x] [y] given ∧
      ∀ action, callLoosely ⟨signature, action⟩ given =
        throw (.positionalOnly "Sample.posonly" ["x", "y"]) := by
  intro x y signature given
  have refused : ∀ action, callLoosely ⟨signature, action⟩ given =
      throw (.positionalOnly "Sample.posonly" ["x", "y"]) := fun _ => rfl
  refine ⟨⟨rfl, by decide, by decide, by decide, by decide⟩, by decide, fun honours => ?_, refused⟩
  have returned := honours.enough (by decide) (by decide) fun _ => pure .none
  exact pure_ne_throw (returned.symm.trans (refused _))

end DeviceScript
