import DeviceScript.Proofs.Terminal.Starting
import Mathlib.Data.Bool.Basic
import Mathlib.Logic.Function.Basic
import Mathlib.Logic.Relation

/-!
# Scripts that have ended

A launch queues a worker and then enters it under the file of the script. The thread that the worker
starts runs the script, takes the file from the tasks and itself from the threads. Both go on side
by side, so the steps of many scripts can follow each other in any order (`Step`).

Main statement: once the thread of a script has ended, its file is free and the thread is not listed
exactly if the run has not failed and the worker was entered before the thread came to take the file
away (`ended_freed_iff`).
-/

namespace DeviceScript.Terminal

open List

/-! ## Tasks -/

theorem Tasks.has_enter (tasks : Tasks) (file other : String) (worker : Worker) :
    (tasks.enter file worker).has other = (other == file || tasks.has other) := by
  induction tasks with
  | nil | cons => grind [enter, has]

theorem Tasks.has_leave (tasks : Tasks) (file other : String) :
    (tasks.leave file).has other = (other != file && tasks.has other) := by
  induction tasks with
  | nil | cons => grind [leave, has]

/-! ## Steps -/

inductive Launch where
  | waiting
  | called (worker : Worker)
  | entered

/-- How far a thread is. `inTime` says that the worker was entered when the thread came to take the
file away. -/
inductive Phase where
  | absent
  | begun (n : Nat)
  | told (n : Nat)
  | left (n : Nat) (inTime : Bool)
  | ended (n : Nat) (ran inTime : Bool)

structure Progress where
  launch : Launch
  phase : Phase

def Launch.isEntered : Launch → Bool
  | .entered => true
  | _ => false

def Phase.number? : Phase → Option Nat
  | .absent => none
  | .begun n | .told n | .left n _ | .ended n .. => some n

/-- The file of the script has been taken away. -/
def Phase.isFreed : Phase → Bool
  | .left .. => true
  | .ended _ ran inTime => ran && inTime
  | _ => false

def Phase.isListed : Phase → Bool
  | .absent => false
  | .ended _ ran inTime => !(ran && inTime)
  | _ => true

structure Runnable where
  run : ScriptRun
  language : Language

namespace Runnable

abbrev file (script : Runnable) : String := script.run.file

abbrev job (script : Runnable) : Job := script.language.job script.run

/-- The first step of a launch, in which a script in Lua gets its session, too. -/
def call (script : Runnable) : Doing Worker := do
  if script.language = .lua then
    modify fun state => { state with lua := state.lua.start (Path.ofText script.file) }
  enqueue script.job

/-- The steps of a launch are what the launch does. -/
theorem launch_eq (script : Runnable) :
    launch script.run script.language = script.call >>= enterTask script.file := by
  rcases script with ⟨_, _ | _⟩ <;> rfl

def body (script : Runnable) : Showing Unit :=
  report script.run (if script.language = .lua then runLua script.run else runPlain script.run)

/-- The steps of a thread are what the thread does. -/
theorem runThread_eq (script : Runnable) (n : Nat) :
    runThread ⟨n, script.job⟩ = (do
      liftM script.body
      leaveTask script.file
      leaveThread n : Doing Unit) := by
  rcases script with ⟨_, _ | _⟩ <;> rfl

end Runnable

/-- The state of the program and how far every script is. -/
structure Floor (ι : Type) where
  state : State
  world : World
  progress : ι → Progress

variable {ι : Type} [DecidableEq ι]

def Floor.start (state : State) (w : World) : Floor ι :=
  ⟨state, w, fun _ => ⟨.waiting, .absent⟩⟩

def Floor.put (floor : Floor ι) (i : ι) (progress : Progress) (later : State × World) : Floor ι :=
  ⟨later.1, later.2, Function.update floor.progress i progress⟩

theorem Floor.progress_put (floor : Floor ι) (i : ι) (progress : Progress) (later : State × World)
    (j : ι) : (floor.put i progress later).progress j =
      if j = i then progress else floor.progress j := Function.update_apply ..

/-- One step of the launch or of the thread of a script. A thread ends where it fails. -/
inductive Step (scripts : ι → Runnable) (floor : Floor ι) : Floor ι → Prop
  | call {i phase worker later} (here : floor.progress i = ⟨.waiting, phase⟩)
      (done : (scripts i).call.perform floor.state floor.world = (.ok worker, later)) :
      Step scripts floor (floor.put i ⟨.called worker, phase⟩ later)
  | enter {i phase worker later} (here : floor.progress i = ⟨.called worker, phase⟩)
      (done : (enterTask (scripts i).file worker).perform floor.state floor.world =
        (.ok (), later)) :
      Step scripts floor (floor.put i ⟨.entered, phase⟩ later)
  | begin {i launch later} (here : floor.progress i = ⟨launch, .absent⟩)
      (launched : launch ≠ .waiting)
      (done : (startThread (scripts i).job).perform floor.state floor.world = (.ok (), later)) :
      Step scripts floor (floor.put i ⟨launch, .begun later.1.threadCount⟩ later)
  | run {i launch n o later} (here : floor.progress i = ⟨launch, .begun n⟩)
      (done : (liftM (scripts i).body : Doing Unit).perform floor.state floor.world = (o, later)) :
      Step scripts floor (floor.put i
        ⟨launch, if o.isOk then .told n else .ended n false launch.isEntered⟩ later)
  | pop {i launch n o later} (here : floor.progress i = ⟨launch, .told n⟩)
      (done : (leaveTask (scripts i).file).perform floor.state floor.world = (o, later)) :
      Step scripts floor (floor.put i
        ⟨launch, if o.isOk then .left n launch.isEntered
          else .ended n true launch.isEntered⟩ later)
  | remove {i launch n inTime o later}
      (here : floor.progress i = ⟨launch, .left n inTime⟩)
      (done : (leaveThread n).perform floor.state floor.world = (o, later)) :
      Step scripts floor (floor.put i ⟨launch, .ended n true inTime⟩ later)

/-! ## What every step keeps -/

/-- What the lists say about a script that is so far. -/
structure Progress.Fits (state : State) (file : String) (progress : Progress) : Prop where
  has : state.tasks.has file = (progress.launch.isEntered && !progress.phase.isFreed)
  entered : progress.phase.isFreed = true → progress.launch.isEntered = true
  inTime : ∀ number inTime, progress.phase = .left number inTime → inTime = true
  listed : ∀ number ∈ progress.phase.number?, number ≤ state.threadCount ∧
    (number ∈ state.running ↔ progress.phase.isListed = true)

structure Sound (scripts : ι → Runnable) (floor : Floor ι) : Prop where
  fits : ∀ i, (floor.progress i).Fits floor.state (scripts i).file
  apart : ∀ i j number, number ∈ (floor.progress i).phase.number? →
    number ∈ (floor.progress j).phase.number? → i = j
  once : floor.state.running.Nodup
  counted : ∀ number ∈ floor.state.running, number ≤ floor.state.threadCount

variable {scripts : ι → Runnable} {floor : Floor ι}

/-- A step of one script. What the others see of the lists stays as it is, and the number of a
thread is new. -/
theorem Sound.put (sound : Sound scripts floor) {i : ι} {progress : Progress}
    {later : State × World} (others : ∀ j ≠ i, later.1.tasks.has (scripts j).file =
      floor.state.tasks.has (scripts j).file)
    (running : ∀ n, n ∉ progress.phase.number? → n ≤ floor.state.threadCount →
      (n ∈ later.1.running ↔ n ∈ floor.state.running))
    (counts : floor.state.threadCount ≤ later.1.threadCount)
    (numbers : ∀ n ∈ progress.phase.number?,
      n ∈ (floor.progress i).phase.number? ∨ floor.state.threadCount < n)
    (once : later.1.running.Nodup)
    (counted : ∀ n ∈ later.1.running, n ≤ later.1.threadCount)
    (fits : progress.Fits later.1 (scripts i).file) :
    Sound scripts (floor.put i progress later) := by
  have foreign : ∀ j ≠ i, ∀ n ∈ (floor.progress j).phase.number?, n ∉ progress.phase.number? := by
    intro j other n ofOther ofThis
    rcases numbers n ofThis with before | new
    · exact other (sound.apart j i n ofOther before)
    · exact absurd ((sound.fits j).listed n ofOther).1 (Nat.not_le.mpr new)
  refine ⟨fun j => ?_, fun j k n ofFirst ofSecond => ?_, once, counted⟩
  · rw [Floor.progress_put]
    split
    case isTrue same =>
      subst same
      exact fits
    case isFalse other =>
      obtain ⟨has, entered, inTime, listed⟩ := sound.fits j
      refine ⟨(others j other).trans has, entered, inTime, fun n mem => ?_⟩
      obtain ⟨le, iff⟩ := listed n mem
      exact ⟨Nat.le_trans le counts, (running n (foreign j other n mem) le).trans iff⟩
  · rw [Floor.progress_put] at ofFirst ofSecond
    split at ofFirst <;> split at ofSecond
    · rw [‹j = i›, ‹k = i›]
    · exact absurd ofFirst (foreign k ‹_› n ofSecond)
    · exact absurd ofSecond (foreign j ‹_› n ofFirst)
    · exact sound.apart j k n ofFirst ofSecond

theorem exists_of_perform_lift {α : Type} {act : Showing α} {state : State} {w : World}
    {o : Except Failure α} {later : State × World}
    (done : (liftM act : Doing α).perform state w = (o, later)) :
    ∃ scene w', later = ({ state with toScene := scene }, w') := by
  cases done
  exact ⟨_, _, rfl⟩

theorem perform_leaveTask (file : String) (state : State) (w : World) :
    (leaveTask file).perform state w =
      if state.tasks.has file then (.ok (), { state with tasks := state.tasks.leave file }, w)
      else (.error (.missingKey file (Text.quoted file)), state, w) := by
  rw [leaveTask, ActOn.perform_get_bind]
  split <;> rfl

theorem perform_leaveThread {n : Nat} {state : State} (listed : n ∈ state.running)
    (w : World) : (leaveThread n).perform state w =
      (.ok (), { state with running := state.running.erase n }, w) := by
  rw [leaveThread, ActOn.perform_get_bind, if_pos listed]
  rfl

theorem Sound.step (distinct : Function.Injective fun i => (scripts i).file)
    (sound : Sound scripts floor) {next : Floor ι} (step : Step scripts floor next) :
    Sound scripts next := by
  have once := sound.once
  have counted := sound.counted
  have apart {i j : ι} (other : j ≠ i) : ((scripts j).file == (scripts i).file) = false :=
    beq_false_of_ne fun same => other (distinct same)
  cases step with
  | @call i phase worker later here done =>
    obtain ⟨has, entered, inTime, listed⟩ := here ▸ sound.fits i
    rw [Runnable.call] at done
    split at done <;> cases done <;>
      exact sound.put (fun _ _ => rfl) (fun _ _ _ => .rfl) (Nat.le_refl _)
        (fun _ old => .inl (by rwa [here])) once counted ⟨has, entered, inTime, listed⟩
  | @enter i phase worker later here done =>
    obtain ⟨has, entered, inTime, listed⟩ := here ▸ sound.fits i
    cases done
    refine sound.put (fun j other => ?_) (fun _ _ _ => .rfl) (Nat.le_refl _)
      (fun _ old => .inl (by rwa [here])) once counted ⟨?_, fun _ => rfl, inTime, listed⟩
    · rw [Tasks.has_enter, apart other, Bool.false_or]
    · have unfreed : phase.isFreed = false :=
        Bool.eq_false_iff.mpr fun freed => Bool.false_ne_true (entered freed)
      rw [Tasks.has_enter, beq_self_eq_true, unfreed]
      rfl
  | @begin i launch later here launched done =>
    obtain ⟨has, -⟩ := here ▸ sound.fits i
    cases done
    have fresh : floor.state.threadCount + 1 ∉ floor.state.running :=
      fun mem => Nat.not_succ_le_self _ (counted _ mem)
    refine sound.put (fun _ _ => rfl) (fun n _ le => ?_) (Nat.le_succ _) ?_ ?_ ?_
      ⟨has, fun freed => ?_, fun _ _ left => ?_, ?_⟩
    · rw [mem_append, mem_singleton]
      exact or_iff_left fun new => Nat.not_succ_le_self _ (new ▸ le)
    · simp [Phase.number?]
    · refine nodup_append.mpr ⟨once, pairwise_singleton _ _, fun n mem => ?_⟩
      simp only [mem_singleton, forall_eq]
      exact fun same => fresh (same ▸ mem)
    · simp only [mem_append, mem_singleton]
      rintro n (mem | rfl)
      · exact Nat.le_succ_of_le (counted n mem)
      · exact Nat.le_refl _
    · cases freed
    · cases left
    · simp [Phase.number?, Phase.isListed]
  | @run i launch n o later here done =>
    obtain ⟨has, -, -, listed⟩ := here ▸ sound.fits i
    obtain ⟨_, _, rfl⟩ := exists_of_perform_lift done
    cases o <;> refine sound.put (fun _ _ => rfl) (fun _ _ _ => .rfl) (Nat.le_refl _)
      (fun _ old => .inl (by rwa [here])) once counted
      ⟨has, fun freed => ?_, fun _ _ left => ?_, listed⟩
    all_goals first | cases freed | cases left
  | @pop i launch n o later here done =>
    obtain ⟨has, -, -, listed⟩ := here ▸ sound.fits i
    have held : floor.state.tasks.has (scripts i).file = launch.isEntered :=
      has.trans (Bool.and_true _)
    rw [perform_leaveTask, held] at done
    cases launched : launch.isEntered <;> rw [launched] at done <;> cases done
    · refine sound.put (fun _ _ => rfl) (fun _ _ _ => .rfl) (Nat.le_refl _)
        (fun _ old => .inl (by rwa [here])) once counted
        ⟨has, fun freed => ?_, fun _ _ left => ?_, listed⟩
      · cases freed
      · cases left
    · refine sound.put (fun j other => ?_) (fun _ _ _ => .rfl) (Nat.le_refl _)
        (fun _ old => .inl (by rwa [here])) once counted
        ⟨?_, fun _ => launched, fun _ _ left => ?_, listed⟩
      · rw [Tasks.has_leave, bne, apart other]
        rfl
      · rw [Tasks.has_leave, bne_self_eq_false]
        exact (Bool.and_false _).symm
      · cases left
        rfl
  | @remove i launch n inTime o later here done =>
    obtain ⟨has, entered, isTrue, listed⟩ := here ▸ sound.fits i
    obtain rfl : inTime = true := isTrue _ _ rfl
    obtain ⟨le, mem⟩ := listed n rfl
    rw [perform_leaveThread (mem.mpr rfl)] at done
    cases done
    refine sound.put (fun _ _ => rfl) (fun other unlike _ => ?_) (Nat.le_refl _)
      (fun _ old => .inl (by rwa [here])) (once.erase _)
      (fun _ mem => counted _ (mem_of_mem_erase mem))
      ⟨has, entered, fun _ _ left => ?_, ?_⟩
    · exact mem_erase_of_ne fun same => unlike (same ▸ rfl)
    · cases left
    · rintro _ ⟨⟩
      exact ⟨le, iff_of_false once.not_mem_erase Bool.false_ne_true⟩

theorem sound_of_reached (distinct : Function.Injective fun i => (scripts i).file) {state : State}
    {w : World} (noTask : state.tasks = []) (noThread : state.running = [])
    (reached : Relation.ReflTransGen (Step scripts) (.start state w) floor) :
    Sound scripts floor := by
  induction reached with
  | refl =>
    have none_ : ∀ n, n ∉ Phase.absent.number? := fun _ mem => by cases mem
    refine ⟨fun i => ⟨?_, fun freed => ?_, fun _ _ left => ?_, fun _ mem => ?_⟩,
      fun _ _ _ mem => absurd mem (none_ _), ?_, ?_⟩
    · rw [Floor.start, noTask]
      rfl
    · cases freed
    · cases left
    · exact absurd mem (none_ _)
    · rw [Floor.start, noThread]
      exact .nil
    · rw [Floor.start, noThread]
      exact forall_mem_nil _
  | tail _ step ih => exact ih.step distinct step

/-- **Scripts that have ended.** Scripts in different files are launched, in any order of all their
steps. Once the thread of one has ended, its file is free and the thread is not listed exactly if
the run has not failed and the worker was entered before the thread came to take the file away. Then
the script can be started again. -/
theorem ended_freed_iff (distinct : Function.Injective fun i => (scripts i).file) {state : State}
    {world : World} (noTask : state.tasks = []) (noThread : state.running = [])
    (reached : Relation.ReflTransGen (Step scripts) (.start state world) floor) {i : ι}
    {launch : Launch} {number : Nat} {ran inTime : Bool}
    (ended : floor.progress i = ⟨launch, .ended number ran inTime⟩) :
    let file := (scripts i).file
    let name := (Path.ofText file).name
    (floor.state.tasks.has file = false ∧ number ∉ floor.state.running ↔
      ran = true ∧ inTime = true) ∧
    (ran = true ∧ inTime = true →
      (Act.pathExists (Path.ofText file)).perform floor.world = (.ok true, floor.world) →
      ∀ code ≠ "", (readScript file).perform floor.world = (.ok (some code), floor.world) →
        ∃ after, (startScript file).perform floor.state floor.world =
          (.ok (), (languages name).foldl (State.launched ⟨code, name, file⟩) floor.state,
            after)) := by
  intro file name
  obtain ⟨has, -, -, listed⟩ := ended ▸ (sound_of_reached distinct noTask noThread reached).fits i
  have freed : floor.state.tasks.has file = (launch.isEntered && !(ran && inTime)) := has
  have gone : number ∈ floor.state.running ↔ (!(ran && inTime)) = true := (listed number rfl).2
  rw [← Bool.and_eq_true, gone]
  generalize (ran && inTime) = well at freed
  cases well
  · simp
  · have idle := freed.trans (Bool.and_false _)
    refine ⟨by simp [idle], fun _ there code filled readable => ?_⟩
    rw [perform_readScript] at readable
    exact perform_startScript there (Except.ok.inj (Prod.mk.inj readable).1) filled idle

/-! ## One script -/

/-- One Lua script alone. -/
def lone (_ : Unit) : Runnable := ⟨⟨"x", "a.lua", "a.lua"⟩, .lua⟩

/-- The program knows that the script ends with a failure. -/
def knowing (e : Failure) : State :=
  { State.initial ⟨0, 0⟩ with plays := [("x", ⟨[], .error e⟩)] }

abbrev Reaches (e : Failure) : Floor Unit → Prop :=
  Relation.ReflTransGen (Step lone) (.start (knowing e) (withScript "a.lua"))

/-- A script that exits, entered in time, can be started again. -/
theorem ended_freed_iff_exit : ∃ floor, Reaches (.raised .luaExit "") floor ∧
    floor.progress () = ⟨.entered, .ended 1 true true⟩ ∧ floor.state.tasks.has "a.lua" = false ∧
    1 ∉ floor.state.running ∧ ∃ later after,
      (startScript "a.lua").perform floor.state floor.world = (.ok (), later, after) := by
  have reached : Reaches (.raised .luaExit "") _ :=
    .tail (.tail (.tail (.tail (.tail (.single (.call (i := ()) rfl rfl))
      (.enter (i := ()) rfl rfl)) (.begin (i := ()) rfl (by rintro ⟨⟩) rfl))
      (.run (i := ()) rfl rfl)) (.pop (i := ()) rfl rfl)) (.remove (i := ()) rfl rfl)
  obtain ⟨freed, again⟩ := ended_freed_iff (fun _ _ _ => rfl) rfl rfl reached (i := ()) rfl
  obtain ⟨has, gone⟩ := freed.mpr ⟨rfl, rfl⟩
  obtain ⟨after, started⟩ := again ⟨rfl, rfl⟩ (perform_pathExists (by decide +kernel)) "x"
    (by decide) ((perform_readScript _ _).trans (congrArg (Except.ok ·, _) (by decide +kernel)))
  exact ⟨_, reached, rfl, has, gone, _, after, started⟩

/-- The thread has ended, and the script counts as running for good. -/
def EndsBusy (e : Failure) (ran inTime : Bool) : Prop :=
  ∃ floor, Reaches e floor ∧ floor.progress () = ⟨.entered, .ended 1 ran inTime⟩ ∧
    floor.state.tasks.has "a.lua" = true ∧ 1 ∈ floor.state.running

/-- A script that fails stays in the lists, and so does one whose thread is faster than its
launch. -/
theorem failed_or_hasty_script_stays_busy :
    EndsBusy (.reported .badValue none "") false true ∧
      EndsBusy (.raised .luaExit "") true false := by
  constructor
  · exact ⟨_, .tail (.tail (.tail (.single (.call (i := ()) rfl rfl)) (.enter (i := ()) rfl rfl))
      (.begin (i := ()) rfl (by rintro ⟨⟩) rfl)) (.run (i := ()) rfl rfl),
      rfl, rfl, mem_singleton_self _⟩
  · exact ⟨_, .tail (.tail (.tail (.tail (.single (.call (i := ()) rfl rfl))
      (.begin (i := ()) rfl (by rintro ⟨⟩) rfl)) (.run (i := ()) rfl rfl))
      (.pop (i := ()) rfl rfl)) (.enter (i := ()) rfl rfl), rfl, rfl, mem_singleton_self _⟩

end DeviceScript.Terminal
