import DeviceScript.Proofs.Execution.Perform
import DeviceScript.World.FileAction

/-!
# Discreet actions

Actions write to the log, but what they do does not depend on what stands there, and what a script
writes is not their business. `Act.Discreet` says so. It is a class, so that the rules for it are
found by themselves: an action that is put together from discreet ones is discreet.

A discreet action is calm if it changes nothing but the log and the numbers that values are told
apart by (`Act.Calm`). That is so of what only looks something up or computes.
-/

namespace DeviceScript

open Act

open Execution (perform_act_bind)

variable (source target : FileName) (v : Value) (w : World) (level : Level)
variable (message s : String)

variable {other first second third : World}

/-- The other world differs at most in what has been logged. -/
def World.Alike (w w' : World) : Prop :=
  ∃ records, w' = { w with records := records }

namespace World.Alike

theorem refl : w.Alike w := ⟨w.records, rfl⟩

theorem symm {w : World} (alike : w.Alike other) : other.Alike w := by
  obtain ⟨records, rfl⟩ := alike
  exact ⟨w.records, rfl⟩

theorem trans (left : first.Alike second) (right : second.Alike third) : first.Alike third := by
  obtain ⟨_, rfl⟩ := left
  obtain ⟨records, rfl⟩ := right
  exact ⟨records, rfl⟩

end World.Alike

/-- An action that does not look at the log. -/
def Act.Blind {α : Type} (act : Act α) : Prop :=
  ∀ {w w' : World}, w.Alike w' → ∃ o w'' w''',
    act.perform w = (o, w'') ∧ act.perform w' = (o, w''') ∧ w''.Alike w'''

/-- An action that does not look at the log and writes nothing to the output. -/
class Act.Discreet {α : Type} (act : Act α) : Prop where
  perform : ∀ {w other : World}, w.Alike other → ∃ outcome after after',
    act.perform w = (outcome, after) ∧ act.perform other = (outcome, after') ∧
      after.Alike after' ∧ after.written = w.written

namespace Act.Discreet

variable {α β : Type}

theorem blind {act : Act α} (discreet : Discreet act) : act.Blind := by
  intro _ _ alike
  obtain ⟨o, w, w', ended, ended', alike', -⟩ := discreet.perform alike
  exact ⟨o, w, w', ended, ended', alike'⟩

theorem silent {act : Act α} (discreet : Discreet act) {w w' : World} {o : Except Failure α}
    (ended : act.perform w = (o, w')) : w'.written = w.written := by
  obtain ⟨_, _, _, ended', -, -, silent⟩ := discreet.perform (.refl w)
  rw [ended] at ended'
  cases ended'
  exact silent

instance pure (v : α) : Discreet (Pure.pure v : Act α) :=
  ⟨fun alike => ⟨_, _, _, rfl, rfl, alike, rfl⟩⟩

instance throw (e : Failure) : Discreet (MonadExcept.throw e : Act α) :=
  ⟨fun alike => ⟨_, _, _, rfl, rfl, alike, rfl⟩⟩

theorem andThen {first : Act α} {f : α → Act β} (before : Discreet first)
    (following : ∀ v, Discreet (f v)) : Discreet (first >>= f) where
  perform := by
    intro _ _ alike
    obtain ⟨o, _, _, reached, reached', alike', silent⟩ := before.perform alike
    rw [perform_act_bind, perform_act_bind, reached, reached']
    cases o with
    | error => exact ⟨_, _, _, rfl, rfl, alike', silent⟩
    | ok v =>
      obtain ⟨o, w, w', ended, ended', alike'', silent'⟩ :=
        (following v).perform alike'
      exact ⟨o, w, w', ended, ended', alike'', silent'.trans silent⟩

instance bind {first : Act α} {f : α → Act β} [before : Discreet first]
    [following : ∀ v, Discreet (f v)] : Discreet (first >>= f) :=
  before.andThen following

theorem ite_of {c : Prop} [Decidable c] {first second : Act α} (one : Discreet first)
    (other : Discreet second) : Discreet (if c then first else second) := by
  split
  · exact one
  · exact other

instance ite {c : Prop} [Decidable c] {first second : Act α} [one : Discreet first]
    [other : Discreet second] : Discreet (if c then first else second) :=
  ite_of one other

instance ofExcept (o : Except Failure α) : Discreet (Act.ofExcept o) := by
  cases o <;> unfold Act.ofExcept <;> infer_instance

instance attempt {act : Act α} [discreet : Discreet act] : Discreet (attempt act) where
  perform := by
    intro _ _ alike
    obtain ⟨o, w, w', ended, ended', alike', silent⟩ := discreet.perform alike
    refine ⟨.ok o, w, w', ?_, ?_, alike', silent⟩
    · exact congrArg (fun ended => (Except.ok ended.1, ended.2)) ended
    · exact congrArg (fun ended => (Except.ok ended.1, ended.2)) ended'

/-- An action that looks at the world, but not at the log. -/
theorem inspect {f : World → Act β} (following : ∀ w, Discreet (f w))
    (same : ∀ w records, f { w with records := records } = f w := by
      exact fun _ _ => rfl) : Discreet (get >>= f) where
  perform := by
    rintro w _ ⟨records, rfl⟩
    obtain ⟨o, w', w'', ended, ended', alike, silent⟩ :=
      (following w).perform ⟨records, rfl⟩
    refine ⟨o, w', w'', ended, ?_, alike, silent⟩
    rw [← ended', ← same w records]
    rfl

/-- An action that gives something of the world and changes it, but not the log nor the output. -/
theorem modifyGet {f : World → α × World}
    (blind : ∀ w records, f { w with records := records } =
      ((f w).1, { (f w).2 with records := records }) := by exact fun _ _ => rfl)
    (silent : ∀ w, (f w).2.written = w.written := by exact fun _ => rfl) :
    Discreet (MonadState.modifyGet f : Act α) where
  perform := by
    rintro w _ ⟨records, rfl⟩
    refine ⟨.ok (f w).1, (f w).2, { (f w).2 with records := records },
      rfl, ?_, ⟨records, rfl⟩, silent w⟩
    exact congrArg (fun changed => (Except.ok changed.1, changed.2)) (blind w records)

theorem modify {f : World → World}
    (blind : ∀ w records, f { w with records := records } =
      { f w with records := records } := by exact fun _ _ => rfl)
    (silent : ∀ w, (f w).written = w.written := by exact fun _ => rfl) :
    Discreet (modify f : Act PUnit) := modifyGet (fun w records => by rw [blind]) silent

end Act.Discreet

/-- What is logged makes no other difference. -/
theorem World.alike_log : w.Alike ((log level message).perform w).2 := by
  show w.Alike (if w.threshold.keeps level then _ else _)
  split
  · exact ⟨_, rfl⟩
  · exact .refl w

theorem World.Alike.log {w : World} (alike : w.Alike other) (level : Level) (s : String) :
    ((log level s).perform w).2.Alike ((log level s).perform other).2 :=
  (w.alike_log level s).symm.trans (alike.trans (other.alike_log level s))

namespace Act.Discreet

variable {α β : Type}

instance log : Discreet (log level message) where
  perform := by
    intro w _ alike
    refine ⟨.ok (), _, _, rfl, rfl, alike.log level message, ?_⟩
    show World.written (if w.threshold.keeps level then _ else _) = _
    split <;> rfl

instance request (channel : Channel) (verb : String) (args : List Value)
    (named : List (String × Value)) : Discreet (request channel verb args named) := modify

instance notify (args : List Value) (named : List (String × Value)) :
    Discreet (notify args named) := modify

instance serialsFor (n : Nat) : Discreet (serialsFor n) := modifyGet

instance quoted (t : Tree Value) : Discreet (quoted t) := modifyGet

instance sleep (seconds : Value) (amount : Float) : Discreet (sleep seconds amount) := by
  exact andThen (request _ _ _ _) fun _ => modify

end Act.Discreet

/-! ## Calm actions -/

/-- The world is as before, apart from the log and the numbers that have been given out. -/
def World.Untouched (w w' : World) : Prop :=
  ∃ serials records, w' = { w with serials := serials, records := records }

namespace World.Untouched

theorem refl : w.Untouched w := ⟨w.serials, w.records, rfl⟩

theorem trans (left : first.Untouched second) (right : second.Untouched third) :
    first.Untouched third := by
  obtain ⟨_, _, rfl⟩ := left
  obtain ⟨serials, records, rfl⟩ := right
  exact ⟨serials, records, rfl⟩

theorem of_alike {w : World} (alike : w.Alike other) : w.Untouched other := by
  obtain ⟨records, rfl⟩ := alike
  exact ⟨w.serials, records, rfl⟩

theorem written {w w' : World} (untouched : w.Untouched w') : w'.written = w.written := by
  obtain ⟨_, _, rfl⟩ := untouched
  rfl

end World.Untouched

/-- A discreet action that changes nothing but the log and the numbers that are given out. -/
class Act.Calm {α : Type} (act : Act α) : Prop where
  discreet : act.Discreet
  untouched : ∀ w : World, w.Untouched (act.perform w).2

namespace Act.Calm

variable {α β : Type}

instance (priority := low) isDiscreet {act : Act α} [calm : Calm act] : Discreet act :=
  calm.discreet

instance pure (v : α) : Calm (Pure.pure v : Act α) := ⟨.pure v, .refl⟩

instance throw (e : Failure) : Calm (MonadExcept.throw e : Act α) :=
  ⟨.throw e, .refl⟩

theorem andThen {first : Act α} {f : α → Act β} (before : Calm first)
    (following : ∀ v, Calm (f v)) : Calm (first >>= f) where
  discreet := before.discreet.andThen fun v => (following v).discreet
  untouched w := by
    have begun := before.untouched w
    rw [perform_act_bind]
    rcases reached : first.perform w with ⟨_ | v, w'⟩ <;> rw [reached] at begun
    · exact begun
    · exact begun.trans ((following v).untouched w')

instance bind {first : Act α} {f : α → Act β} [before : Calm first]
    [following : ∀ v, Calm (f v)] : Calm (first >>= f) :=
  before.andThen following

instance ite {c : Prop} [Decidable c] {first second : Act α} [one : Calm first]
    [other : Calm second] : Calm (if c then first else second) := by
  split
  · exact one
  · exact other

/-- An action that looks at the world, but not at the log. -/
theorem inspect {f : World → Act β} (following : ∀ w, Calm (f w))
    (same : ∀ w records, f { w with records := records } = f w := by
      exact fun _ _ => rfl) : Calm (get >>= f) where
  discreet := .inspect (fun w => (following w).discreet) same
  untouched w := (following w).untouched w

instance ofExcept (o : Except Failure α) : Calm (Act.ofExcept o) := by
  cases o <;> unfold Act.ofExcept <;> infer_instance

instance log : Calm (log level message) where
  discreet := .log level message
  untouched w := .of_alike (w.alike_log level message)

instance serialsFor (n : Nat) : Calm (serialsFor n) where
  discreet := .serialsFor n
  untouched w := ⟨_, w.records, rfl⟩

instance serial : Calm serial := serialsFor 1

instance shown : Calm (shown v) := ofExcept _

instance distinct : Calm (Act.distinct v) := by
  unfold Act.distinct
  split <;> infer_instance

instance heed (request : Request) : Calm (heed request) := by
  refine inspect fun w => ?_
  split <;> infer_instance

instance settings? : Calm settings? := by
  refine inspect fun w => ?_
  split <;> infer_instance

instance settings (mem : String) : Calm (settings mem) := by
  refine andThen settings? fun settings => ?_
  split <;> infer_instance

end Act.Calm

namespace Act.Discreet

variable {α β : Type}

instance demand (channel : Channel) (verb : String) (args : List Value)
    (named : List (String × Value)) : Discreet (demand channel verb args named) := bind

instance tip : Discreet (Act.tip message) := by
  unfold Act.tip
  infer_instance

instance picture (name : Option String) (data : ImageData) : Discreet (Act.picture name data) := by
  unfold Act.picture
  infer_instance

/-! ## Lists -/

theorem forM {f : α → Act PUnit} {xs : List α} (each : ∀ x ∈ xs, Discreet (f x)) :
    Discreet (xs.forM f) := by
  induction xs with
  | nil => exact pure _
  | cons _ _ ih =>
    rw [List.forall_mem_cons] at each
    exact each.1.andThen fun _ => ih each.2

theorem filterM {f : α → Act Bool} (each : ∀ x, Discreet (f x)) (xs : List α) :
    Discreet (xs.filterM f) := by
  have within : ∀ kept, Discreet (xs.filterAuxM f kept) := by
    induction xs with
    | nil => exact fun _ => pure _
    | cons x _ ih => exact fun _ => (each x).andThen fun _ => ih _
  exact (within []).andThen fun _ => pure _

/-! ## Files -/

instance routeOf : Discreet (Act.routeOf s) := by
  have spelled : Discreet (do return (← get).route s : Act Route) := inspect fun _ => pure _
  unfold Act.routeOf
  infer_instance

instance found : Discreet (found s) := inspect fun _ => pure _

instance leadsSomewhere : Calm (leadsSomewhere s) := .inspect fun _ => .pure _

instance pathExists (path : Path) : Discreet (pathExists path) := by
  refine (found _).andThen fun found => ?_
  split <;> infer_instance

instance isDirectory : Discreet (isDirectory s) := by
  refine (found _).andThen fun found => ?_
  split <;> infer_instance

instance absolute (path : Path) : Discreet (absolute path) := by
  refine inspect fun w => ?_
  split <;> infer_instance

instance keepFiles (subject : String) (changed : Except FileFault FileTree) :
    Discreet (keepFiles subject changed) := by
  cases changed with
  | ok => exact modify
  | error => exact throw _

instance writeFile (content : FileContent) : Discreet (writeFile s content) :=
  inspect fun _ => (routeOf s).andThen fun _ => keepFiles _ _

instance readFile : Discreet (readFile s) := by
  refine inspect fun _ => (routeOf s).andThen fun route => ?_
  split <;> infer_instance

instance renamed : Discreet (renamed source target) := inspect fun _ => inferInstance

instance renameFile : Discreet (renameFile source target) :=
  (renamed source target).andThen fun _ => keepFiles _ _

instance makeDirectory (name : FileName) : Discreet (makeDirectory name) :=
  inspect fun _ => (routeOf _).andThen fun _ => keepFiles _ _

instance makeDirectories (bound : Nat) (s : String) : Discreet (Act.makeDirectories bound s) := by
  induction bound generalizing s with
  | zero => exact makeDirectory _
  | succ =>
    unfold Act.makeDirectories
    dsimp only
    refine andThen inferInstance fun there =>
      ite_of (andThen inferInstance fun made => ?_) inferInstance
    split <;> infer_instance

instance removeTree : Discreet (removeTree s) := by
  refine (found _).andThen fun found => ?_
  split
  · refine andThen modify fun _ => ?_
    exact inspect fun _ => (routeOf _).andThen fun _ => keepFiles _ _
  · exact throw _

instance copyTree : Discreet (copyTree source target) := by
  refine inspect fun w => (makeDirectories _ _).andThen fun _ => ?_
  refine (found _).andThen fun start => (found _).andThen fun goal => ?_
  split
  · exact modify
  · exact pure _

instance transfer : Discreet (transfer source target) := by
  refine (readFile _).andThen fun content => inspect fun w => ?_
  refine (routeOf _).andThen fun route => ?_
  split
  · refine andThen modify fun _ => (found _).andThen fun found => ?_
    split
    · exact modify
    · exact pure _
  · infer_instance

instance moveTo (final : FileName) : Discreet (moveTo source target final) := by
  refine (renamed _ _).andThen fun o => ?_
  split
  · exact andThen modify fun _ => pure _
  · infer_instance

instance foundBy : Discreet (Act.foundBy v) := by
  unfold Act.foundBy
  split <;> infer_instance

instance moveFile (source target : Value) : Discreet (moveFile source target) := by
  refine (foundBy _).andThen fun goal => ?_
  split
  · split <;> infer_instance
  · infer_instance

end Act.Discreet

end DeviceScript
