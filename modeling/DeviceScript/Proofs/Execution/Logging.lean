import DeviceScript.Proofs.Device.Members
import DeviceScript.Proofs.Execution.Compatible
import DeviceScript.Proofs.Execution.Transcript

/-!
# Runs do not depend on the log

A computation is blind (`Exec.Blind`) if, performed in one state and in worlds that differ at most
in what has been logged, it ends in the same way, leaves the same state, and leaves worlds that
differ at most in what has been logged. This is a class, so that the rules for it are found by
themselves. It goes from the visits of subtrees to the step of a tree, and from there to all visits
of a discreet host (`visitWithin_blind`) and to whole runs (`runRest_alike`).

`Exec.Context` is what is still to be done around a computation when it is performed. If two
computations end alike, they do so in every such context (`Exec.Context.endAlike`).
-/

namespace DeviceScript.Execution

open Script Exec

variable {α β : Type}
variable (v : Value) (k : TokenKind) (a b : Value) (p : Site) (part index : Nat)
variable (trees : List (Tree Value)) (x : String)

/-! ## Blind computations -/

/-- In one state and in two worlds, the computations end in the same way, leave the same state, and
leave worlds that are alike. -/
def Exec.EndAlike (exec exec' : Exec α) (m : Machine) (w w' : World) : Prop :=
  ∃ o m' w'' w''', exec.perform m w = ((o, m'), w'') ∧
    exec'.perform m w' = ((o, m'), w''') ∧ w''.Alike w'''

/-- A computation that does not look at the log. -/
class Exec.Blind (exec : Exec α) : Prop where
  perform : ∀ (m : Machine) {w other : World}, w.Alike other → EndAlike exec exec m w other

open Exec (Blind)

namespace Exec.EndAlike

variable {exec exec' : Exec α} {m : Machine} {w other : World}

theorem bind {f : α → Exec β} (alike : EndAlike exec exec' m w other)
    (following : ∀ v, Blind (f v)) : EndAlike (exec >>= f) (exec' >>= f) m w other := by
  obtain ⟨o, m', w', w'', ended, ended', alike'⟩ := alike
  cases o with
  | error =>
    exact ⟨_, m', w', w'', perform_bind_error ended, perform_bind_error ended', alike'⟩
  | ok v =>
    rw [EndAlike, perform_bind_ok ended, perform_bind_ok ended']
    exact (following v).perform m' alike'

theorem catching {exec exec' : Exec Unit} (alike : EndAlike exec exec' m w other) (i : Interrupt) :
    EndAlike (catching i exec) (catching i exec') m w other := by
  obtain ⟨_, m', w', w'', ended, ended', alike'⟩ := alike
  rw [EndAlike, perform_catching, perform_catching, ended, ended']
  exact ⟨_, m', w', w'', rfl, rfl, alike'⟩

theorem thenAlways (alike : EndAlike exec exec' m w other) (f : Machine → Machine) :
    EndAlike (thenAlways exec f) (thenAlways exec' f) m w other := by
  obtain ⟨_, m', w', w'', ended, ended', alike'⟩ := alike
  rw [EndAlike, perform_thenAlways, perform_thenAlways, ended, ended']
  exact ⟨_, f m', w', w'', rfl, rfl, alike'⟩

end Exec.EndAlike

namespace Exec.Blind

instance pure (v : α) : Blind (Pure.pure v : Exec α) :=
  ⟨fun m _ _ alike => ⟨_, m, _, _, rfl, rfl, alike⟩⟩

instance throw (i : Interrupt) : Blind (MonadExcept.throw i : Exec α) :=
  ⟨fun m _ _ alike => ⟨_, m, _, _, rfl, rfl, alike⟩⟩

instance get : Blind (MonadState.get : Exec Machine) :=
  ⟨fun m _ _ alike => ⟨_, m, _, _, rfl, rfl, alike⟩⟩

instance set (m : Machine) : Blind (MonadStateOf.set m : Exec PUnit) :=
  ⟨fun _ _ _ alike => ⟨_, m, _, _, rfl, rfl, alike⟩⟩

instance modify (f : Machine → Machine) : Blind (modify f : Exec PUnit) :=
  ⟨fun m _ _ alike => ⟨_, f m, _, _, rfl, rfl, alike⟩⟩

theorem andThen {first : Exec α} {f : α → Exec β} (before : Blind first)
    (following : ∀ v, Blind (f v)) : Blind (first >>= f) :=
  ⟨fun m _ _ alike => (before.perform m alike).bind following⟩

instance bind {first : Exec α} {f : α → Exec β} [before : Blind first]
    [following : ∀ v, Blind (f v)] : Blind (first >>= f) :=
  before.andThen following

theorem ofBlind {act : Act α} (blind : act.Blind) : Blind (ofAct act) where
  perform := by
    intro m _ _ alike
    obtain ⟨o, w, w', ended, ended', alike'⟩ := blind alike
    rw [EndAlike, perform_ofAct, perform_ofAct, ended, ended']
    cases o <;> exact ⟨_, m, w, w', rfl, rfl, alike'⟩

instance ofAct (act : Act α) [discreet : act.Discreet] : Blind (ofAct act) :=
  ofBlind discreet.blind

instance log (level : Level) (s : String) : Blind (log level s) := ofAct _

instance fail (e : Failure) : Blind (fail e : Exec α) := throw _

instance ofExcept (o : Except Failure α) : Blind (Exec.ofExcept o) := by
  cases o with
  | ok v => exact pure v
  | error => exact throw _

instance ite {c : Prop} [Decidable c] {first second : Exec α} [Blind first]
    [Blind second] : Blind (if c then first else second) := by
  split <;> infer_instance

instance catching (i : Interrupt) {exec : Exec Unit} [blind : Blind exec] :
    Blind (catching i exec) :=
  ⟨fun m _ _ alike => (blind.perform m alike).catching i⟩

instance thenAlways {exec : Exec α} [blind : Blind exec] (f : Machine → Machine) :
    Blind (thenAlways exec f) :=
  ⟨fun m _ _ alike => (blind.perform m alike).thenAlways f⟩

instance guarded {exec : Exec Value} [blind : Blind exec] (warning : String → String) :
    Blind (Execution.guarded exec warning) where
  perform := by
    intro m _ _ alike
    obtain ⟨o, m', w, w', ended, ended', alike'⟩ := blind.perform m alike
    rw [EndAlike, perform_guarded, perform_guarded, ended, ended']
    cases o with
    | ok => exact ⟨_, m', w, w', rfl, rfl, alike'⟩
    | error i =>
      cases i with
      | failed => exact ⟨_, m', _, _, rfl, rfl, alike'.log _ _⟩
      | leave | skip | exhausted => exact ⟨_, m', w, w', rfl, rfl, alike'⟩

instance mapM {f : α → Exec β} [∀ x, Blind (f x)] (xs : List α) : Blind (xs.mapM f) := by
  induction xs with
  | nil =>
    rw [List.mapM_nil]
    infer_instance
  | cons =>
    rw [List.mapM_cons]
    infer_instance

end Exec.Blind

/-- What is done around a computation: something blind follows it, breaks or continues out of it are
caught, or the state is changed after it in any case. -/
inductive Exec.Context : {α β : Type} → (Exec α → Exec β) → Prop
  | here {α : Type} : Context fun exec : Exec α => exec
  | bind {α β : Type} {f : α → Exec β} (following : ∀ v, Blind (f v)) :
      Context (· >>= f)
  | catchLeave : Context catchLeave
  | catchSkip : Context catchSkip
  | thenAlways {α : Type} (change : Machine → Machine) :
      Context fun exec : Exec α => thenAlways exec change
  | inside {α β γ : Type} {inner : Exec α → Exec β} {outer : Exec β → Exec γ} :
      Context outer → Context inner → Context fun exec => outer (inner exec)

/-- What ends alike does so whatever is done around it. -/
theorem Exec.Context.endAlike {around : Exec α → Exec β} (context : Context around)
    {exec exec' : Exec α} {m : Machine} {w w' : World} (alike : EndAlike exec exec' m w w') :
    EndAlike (around exec) (around exec') m w w' := by
  induction context with
  | here => exact alike
  | bind following => exact alike.bind following
  | catchLeave | catchSkip => exact alike.catching _
  | thenAlways f => exact alike.thenAlways f
  | inside _ _ outer inner => exact outer (inner alike)

/-! ## Operators -/

section Operators

open Act (Calm)

instance computed_calm (o : Except Failure Value) : Calm (computed o) := by
  unfold computed
  infer_instance

instance divide_calm : Calm (divide a b) := by
  unfold divide
  infer_instance

theorem outcome?_calm {k : TokenKind} {a b : Value} {act : Act Value}
    (given : outcome? k a b = some act) : Calm act := by
  unfold outcome? at given
  split at given <;> cases given <;> infer_instance

instance note_calm : Calm (note k a b) := by
  unfold note
  infer_instance

instance scalar_calm : Calm (scalar k a b) := by
  refine .andThen inferInstance fun _ => ?_
  split
  · next given => exact outcome?_calm given
  · exact ⟨.modifyGet, fun w => ⟨_, w.records, rfl⟩⟩

instance pointwise_calm (lefts rights : List Value) : Calm (pointwise k lefts rights) := by
  fun_induction pointwise k lefts rights with
  | case1 _ _ _ _ _ given => exact .andThen (outcome?_calm given) fun _ => inferInstance
  | case2 | case3 => exact .pure _

instance vector_calm : Calm (vector k a b) := by
  unfold vector
  split
  · infer_instance
  · split <;> infer_instance

instance operate_calm : Calm (operate k a b) := by
  unfold operate
  split <;> infer_instance

end Operators

/-! ## Parts of steps -/

instance scriptNames_calm : Act.Calm scriptNames := by
  unfold scriptNames
  infer_instance

instance wholeItems_blind : Blind (wholeItems v) := by
  unfold wholeItems
  split <;> infer_instance

instance printed_blind : Blind (printed v) := by
  unfold printed
  split <;> infer_instance

section Loops

variable {round : Exec Unit} [Blind round]

instance times_blind (n : Nat) : Blind (times round n) := by
  induction n with
  | zero => exact .pure _
  | succ =>
    unfold times
    infer_instance

instance rounds_blind {c : Exec Value} [Blind c] (bound : Nat) : Blind (rounds c round bound) := by
  induction bound with
  | zero => exact .throw _
  | succ =>
    unfold rounds
    infer_instance

instance forItems_blind (xs : List Value) : Blind (forItems round xs) := by
  induction xs with
  | nil => exact .pure _
  | cons =>
    unfold forItems
    infer_instance

instance forCount_blind (start n : Nat) : Blind (forCount round start n) := by
  induction n generalizing start with
  | zero => exact .pure _
  | succ =>
    unfold forCount
    infer_instance

instance overItems_blind : Blind (overItems round v) := by
  unfold overItems
  split <;> infer_instance

end Loops

section Visits

variable {visit : Visitor} [blind : ∀ p t, Blind (visit p t)]

instance visitAll_blind : Blind (visitAll visit p part index trees) := by
  induction trees generalizing index with
  | nil => exact .pure _
  | cons =>
    unfold visitAll
    infer_instance

instance runBody_blind : Blind (runBody visit p part index trees) := by
  induction trees generalizing index with
  | nil => exact .pure _
  | cons =>
    unfold runBody
    infer_instance

instance runRound_blind : Blind (runRound visit p part index trees) := by
  induction trees generalizing index with
  | nil => exact .pure _
  | cons =>
    unfold runRound
    infer_instance

instance nestedItems_blind : Blind (nestedItems visit p index trees) := by
  fun_induction nestedItems visit p index trees <;> infer_instance

instance chooseBranch_blind (chosen : Nat × List (Tree Value)) (i : Nat)
    (alts : List (Tree Value × List (Tree Value))) :
    Blind (chooseBranch visit p chosen i alts) := by
  induction alts generalizing i with
  | nil => exact .pure _
  | cons =>
    unfold chooseBranch
    infer_instance

instance runActivation_blind (routine : Routine) (x : String) (locals : Bindings) :
    Blind (runActivation visit routine x locals) := by
  unfold runActivation endActivation
  infer_instance

instance callFunction_blind (routine : Routine) (x : String)
    (args : List (Tree Value)) : Blind (callFunction visit routine x args) := by
  unfold callFunction
  infer_instance

end Visits

/-! ## Hosts -/

/-- A host that does not look at the log. Looking for an operation is calm, and calling what is
found is discreet. -/
class Host.Discreet (host : Host) : Prop where
  emit : ∀ emit ∈ host.emit, ∀ text, (emit text).Blind
  tick : host.tick.Blind
  find : ∀ name, (host.find name).Provides Member.Discreet

theorem obey_blind {wanted : Act Bool} (blind : wanted.Blind) : Blind (Host.obey wanted) :=
  (Exec.Blind.ofBlind blind).andThen fun _ => inferInstance

/-- What follows a search has to be blind only for what is found. -/
theorem search_blind {search : Act Member} (provides : search.Provides Member.Discreet)
    {f : Member → Exec α} (following : ∀ member, member.Discreet → Blind (f member)) :
    Blind (ofAct search >>= f) where
  perform := by
    intro m _ _ alike
    obtain ⟨o, found, found', ended, ended', alike', -⟩ :=
      provides.calm.discreet.perform alike
    rw [Exec.EndAlike, perform_ofAct_bind, perform_ofAct_bind, ended, ended']
    cases o with
    | error => exact ⟨_, m, found, found', rfl, rfl, alike'⟩
    | ok member => exact (following member (provides.gives ended)).perform m alike'

section Hosts

variable {host : Host} [discreet : host.Discreet]

instance write_blind (s : String) : Blind (host.write s) := by
  unfold Host.write
  split
  · next given => exact obey_blind (discreet.emit _ given s)
  · infer_instance

instance wait_blind (ticks : Nat) : Blind (wait host ticks) := by
  have obeyed := obey_blind discreet.tick
  induction ticks with
  | zero => exact .pure _
  | succ =>
    unfold wait
    infer_instance

instance writeTips_blind (results : List Value) : Blind (writeTips host results) := by
  induction results with
  | nil => exact .pure _
  | cons res =>
    have first : Blind (writeTip host res) := by
      unfold writeTip
      split <;> infer_instance
    unfold writeTips
    infer_instance

instance keepResults_blind (res : Value) : Blind (keepResults host x res) := by
  unfold keepResults
  split <;> infer_instance

variable {visit : Visitor} [blind : ∀ p t, Blind (visit p t)]

instance callOperation_blind (args : List (Tree Value)) :
    Blind (callOperation host visit p x args) := by
  refine search_blind (.after fun names => discreet.find _) fun member isDiscreet => ?_
  have called := isDiscreet.callLoosely
  infer_instance

instance callForResults_blind (source : Tree Value) :
    Blind (callForResults host visit p x source) := by
  refine .andThen inferInstance fun names => .andThen inferInstance fun callee => ?_
  refine search_blind (discreet.find _) fun member isDiscreet => ?_
  have called := isDiscreet.callLoosely
  infer_instance

/-- One step of a tree is blind if the visits of its subtrees are. -/
theorem step_blind (most : Nat) (p : Site) (t : Tree Value) : Blind (step host visit most p t) := by
  cases t with
  | gather =>
    rw [step]
    split
    · split <;> infer_instance
    · infer_instance
  | call =>
    refine .andThen inferInstance fun m => ?_
    split <;> infer_instance
  | _ =>
    rw [step]
    infer_instance

end Hosts

/-! ## Visits and runs -/

/-- Two runs end in the same way and leave the same state and worlds that are alike. -/
def Outcome.Alike (outcome other : Outcome) : Prop :=
  outcome.1 = other.1 ∧ outcome.2.1 = other.2.1 ∧ outcome.2.2.Alike other.2.2

section Runs

variable {host : Host} [discreet : host.Discreet]

/-- **Visits of a discreet host are blind.** -/
instance visitWithin_blind (most d : Nat) (p : Site) (t : Tree Value) :
    Blind (visitWithin host most d p t) := by
  induction d generalizing p t with
  | zero => exact .throw _
  | succ d =>
    have stepped : Blind (step host (visitWithin host most d) most p t) :=
      step_blind most p t
    unfold visitWithin unlessStopped
    infer_instance

instance visitInTurn_blind (bound : Bound) (es : List Entry) :
    Blind (visitInTurn host bound es) := by
  induction es with
  | nil => exact .pure _
  | cons =>
    unfold visitInTurn visitEntry visitStatement visit
    infer_instance

/-- **Runs do not look at the log.** -/
theorem runRest_alike (bound : Bound) (r : Reader) (m : Machine) {w w' : World}
    (alike : w.Alike w') : (runRest host bound r m w).Alike (runRest host bound r m w') := by
  have blind : Blind (visitInTurn host bound
    (Transcript.ofReader (r.left + 1) r).entries) := inferInstance
  obtain ⟨o, _, _, _, ended, ended', alike'⟩ := blind.perform m alike
  rw [runRest_eq_play, runRest_eq_play, Transcript.play, Transcript.play, visitThen, visitThen,
    ended, ended']
  cases o <;> exact ⟨rfl, rfl, alike'⟩

end Runs

end DeviceScript.Execution
