import DeviceScript.Main
import DeviceScript.Proofs.Execution.Perform
import DeviceScript.Proofs.Lua.Hints

/-!
# The hints that come with a result

An operation gives back a hint to the user, or a tuple with hints among other values, or anything
else. It is called in three ways: by a statement, by a statement that keeps the results under a
name, and by a Lua script. All three are meant to write the hints and to take the call for a
success. But the first one goes through whatever comes back. A single hint, or nothing, cannot be
gone through, and that is taken for a failure of the operation; and hints in a list are written as
well. The second one takes a single hint for a value and keeps it. Only the third one is right about
all results.

Main statement: which results are shown in which way (`hints_shown_iff`).
-/

namespace DeviceScript.Execution

open Exec Script Lua

/-! ## Writing hints -/

/-- Some lines have been written, and nothing has come into the log. -/
structure Wrote (before : World) (lines : List String) (after : World) : Prop where
  written : after.written.toList = before.written.toList ++ lines
  records : after.records = before.records

theorem Wrote.nothing (w : World) : Wrote w [] w := ⟨(List.append_nil _).symm, rfl⟩

theorem Wrote.trans {w w' w'' : World} {first second : List String} (wrote : Wrote w first w')
    (wrote' : Wrote w' second w'') : Wrote w (first ++ second) w'' := by
  refine ⟨?_, wrote'.records.trans wrote.records⟩
  rw [wrote'.written, wrote.written, List.append_assoc]

theorem Wrote.lines_eq {w w' : World} {first second : List String}
    (wrote : Wrote w first w') (wrote' : Wrote w second w') : first = second :=
  List.append_cancel_left (wrote.written.symm.trans wrote'.written)

/-- The host keeps what it is given to write, and nothing comes into the log by that. -/
def Host.Prints (host : Host) : Prop := host.Takes fun s w => Wrote w [s]

section Writing

variable {host : Host} (prints : host.Prints)
include prints

theorem perform_hostWrite (s : String) (m : Machine) (w : World) :
    ∃ m' w', (host.write s).perform m w = ((.ok (), m'), w') ∧ Wrote w [s] w' := by
  obtain ⟨_, given, keeps⟩ := prints
  obtain ⟨stop, w', emitted, wrote⟩ := keeps s w
  refine ⟨if stop then { m with stopped := true } else m, w', ?_, wrote⟩
  rw [Host.write, given]
  dsimp only
  rw [Host.obey, perform_ofAct_bind, emitted]
  cases stop <;> rfl

theorem perform_writeTip (v : Value) (m : Machine) (w : World) :
    ∃ m' w', (writeTip host v).perform m w = ((.ok (), m'), w') ∧ Wrote w (hintLines [v]) w' := by
  cases v with
  | tip _ s => exact perform_hostWrite prints (s ++ "\n") m w
  | _ => exact ⟨m, w, rfl, .nothing w⟩

/-- The hints among some values are written in order. -/
theorem perform_writeTips (vs : List Value) : ∀ (m : Machine) (w : World),
    ∃ m' w', (writeTips host vs).perform m w = ((.ok (), m'), w') ∧ Wrote w (hintLines vs) w' := by
  induction vs with
  | nil => exact fun m w => ⟨m, w, rfl, .nothing w⟩
  | cons v vs ih =>
    intro m w
    obtain ⟨m'', w'', first, wrote⟩ := perform_writeTip prints v m w
    obtain ⟨m', w', second, wrote'⟩ := ih m'' w''
    have parts : hintLines (v :: vs) = hintLines [v] ++ hintLines vs :=
      List.filterMap_append (l := [v])
    refine ⟨m', w', ?_, parts ▸ wrote.trans wrote'⟩
    rw [writeTips, perform_bind_ok first, second]

end Writing

/-! ## Coming to the call -/

/-- A call comes to its operation: the operation is found under the name, and the arguments have
values. -/
def Reaches (host : Host) (visit : Visitor) (site : Site) (name : String)
    (args : List (Tree Value)) (m : Machine) (w : World) (member : Member)
    (vs : List Value) (m' : Machine) (called : World) : Prop :=
  ∃ names named found,
    scriptNames.perform w = (.ok names, named) ∧
    (host.find (operationName names name)).perform named = (.ok member, found) ∧
    (visitAll visit site 1 0 args).perform m found = ((.ok vs, m'), called)

/-- What gives a result when it is called is an operation. -/
theorem truthy_of_returned {member : Member} {args res : Value} {called w' : World}
    (returned : (member.callLoosely args).perform called = (.ok res, w')) :
    member.truthy = true := by
  cases member with
  | operation => rfl
  | value content =>
    rw [Member.callLoosely] at returned
    cases inside : content.inside <;> rw [inside] at returned <;> cases returned

section Calling

variable {host : Host} {visit : Visitor} {p : Site} {x : String}
  {args : List (Tree Value)} {m m' : Machine} {w called w' : World}
  {member : Member} {vs : List Value} {result res : Value}
  (reaches : Reaches host visit p x args m w member vs m' called)

section Reached

variable (truthy : member.truthy = true)
include reaches truthy

theorem perform_callOperation_reached :
    (callOperation host visit p x args).perform m w =
      (guarded
        (do
          let results ← Exec.ofAct (member.callLoosely (.tuple vs))
          writeTips host (← Exec.ofExcept results.items)
          return .none)
        fun s => "函数 " ++ x ++ " 执行错误 " ++ s ++ "!").perform m' called := by
  obtain ⟨_, _, found, listed, located, visited⟩ := reaches
  have opened : (do host.find (operationName (← scriptNames) x) : Act Member).perform w =
      (.ok member, found) := by
    rw [perform_act_bind, listed]
    exact located
  rw [callOperation, perform_ofAct_bind, opened]
  dsimp only
  rw [if_pos truthy, perform_bind_ok visited]

theorem perform_callForResults_reached (target : String) :
    (callForResults host visit p target (.call x args)).perform m w =
      (guarded (do keepResults host target (← Exec.ofAct (member.callLoosely (.tuple vs))))
        fun s => "函数 " ++ x ++ " 执行错误: " ++ s).perform m' called := by
  obtain ⟨names, _, _, listed, located, visited⟩ := reaches
  rw [callForResults, perform_ofAct_bind, listed]
  show ((Exec.ofAct (host.find (operationName names x)) >>= _ : Exec Value)).perform _ _ = _
  rw [perform_ofAct_bind, located]
  dsimp only
  rw [if_pos truthy, perform_bind_ok visited]

end Reached

variable (returned : (member.callLoosely (.tuple vs)).perform called = (.ok res, w'))
include reaches returned

/-- A statement goes through the result and writes the hints that it meets. -/
theorem perform_callOperation :
    (callOperation host visit p x args).perform m w =
      (guarded (do writeTips host (← Exec.ofExcept res.items); return .none)
        fun s => "函数 " ++ x ++ " 执行错误 " ++ s ++ "!").perform m' w' := by
  rw [perform_callOperation_reached reaches (truthy_of_returned returned)]
  refine perform_guarded_congr ?_ _
  rw [perform_ofAct_bind, returned]

/-- A statement that keeps the results writes the hints in a tuple. -/
theorem perform_callForResults (target : String) :
    (callForResults host visit p target (.call x args)).perform m w =
      (guarded (keepResults host target res)
        fun s => "函数 " ++ x ++ " 执行错误: " ++ s).perform m' w' := by
  rw [perform_callForResults_reached reaches (truthy_of_returned returned)]
  refine perform_guarded_congr ?_ _
  rw [perform_ofAct_bind, returned]

end Calling

/-! ## What is shown -/

/-- A visit ends normally. Since the given world it has written a line for each hint and nothing
else, and it has told no failure in the log. -/
def Shows (w : World) (shown : List Value)
    (visited : (Except Interrupt Value × Machine) × World) : Prop :=
  (∃ v, visited.1.1 = .ok v) ∧ Wrote w (hintLines shown) visited.2

/-- The result is a tuple, or it can be gone through and there is no hint in it. -/
def Traversed : Value → Prop
  | .tuple _ => True
  | result => ∃ xs, result.items = .ok xs ∧ ∀ x ∈ xs, x.isTip = false

theorem hintLines_items_iff {res : Value} {xs : List Value} (through : res.items = .ok xs) :
    hintLines xs = hintLines (hints res) ↔ Traversed res := by
  cases res with
  | tuple =>
    cases through
    exact iff_of_true (hintLines_filter _).symm trivial
  | tip => cases through
  | _ =>
    rw [show hintLines (hints _) = [] from rfl, hintLines_eq_nil_iff]
    constructor
    · exact fun plain => ⟨xs, through, plain⟩
    · rintro ⟨_, through', plain⟩
      rw [through] at through'
      cases through'
      exact plain

theorem not_traversed_of_stuck {res : Value} {e : Failure}
    (stuck : res.items = .error e) : ¬ Traversed res := by
  cases res with
  | tuple => cases stuck
  | _ =>
    rintro ⟨xs, through, -⟩
    rw [stuck] at through
    cases through

section Showing

variable {host : Host} (prints : host.Prints) (result res : Value) (warning : String → String)
  (m : Machine) (w : World)

/-- A warning is not overlooked. -/
theorem records_warning_ne (warns : w.threshold.keeps .warning = true) (s : String) :
    ((Act.log .warning s).perform w).2.records ≠ w.records := by
  show (if w.threshold.keeps .warning then _ else w).records ≠ _
  rw [if_pos warns]
  intro same
  have sizes := congrArg Array.size same
  rw [Array.size_push] at sizes
  omega

include prints

/-- Where a result cannot be gone through, the warning shows it. -/
theorem shows_writeTips_iff (warns : w.threshold.keeps .warning = true) :
    Shows w (hints res)
      ((guarded (do writeTips host (← Exec.ofExcept res.items); return .none) warning).perform
        m w) ↔ Traversed res := by
  cases through : res.items with
  | error =>
    refine iff_of_false ?_ (not_traversed_of_stuck through)
    rintro ⟨-, wrote⟩
    exact records_warning_ne w warns _ wrote.records
  | ok xs =>
    obtain ⟨m', w', performed, wrote⟩ := perform_writeTips prints xs m w
    have ended : (do writeTips host (← Exec.ofExcept (.ok xs)); return .none :
        Exec Value).perform m w = ((.ok .none, m'), w') := by
      show (writeTips host xs >>= fun _ => pure Value.none : Exec Value).perform _ _ = _
      rw [perform_bind_ok performed]
      rfl
    rw [perform_guarded_ok ended, ← hintLines_items_iff through]
    constructor
    · rintro ⟨-, shown⟩
      exact wrote.lines_eq shown
    · intro same
      exact ⟨⟨_, rfl⟩, same ▸ wrote⟩

/-- Where a single hint is kept as the result, its line is missing. -/
theorem shows_keepResults_iff (target : String) : Shows w (hints res)
      ((guarded (keepResults host target res) warning).perform m w) ↔ res.isTip = false := by
  cases res with
  | tuple results =>
    obtain ⟨_, w', performed, wrote⟩ := perform_writeTips prints results m w
    refine iff_of_true ?_ rfl
    obtain ⟨v, m', ended⟩ : ∃ v m',
        (keepResults host target (.tuple results)).perform m w = ((.ok v, m'), w') := by
      rw [keepResults, perform_bind_ok performed]
      dsimp only
      split <;> exact ⟨_, _, rfl⟩
    rw [perform_guarded_ok ended]
    exact ⟨⟨v, rfl⟩, (hintLines_filter results).symm ▸ wrote⟩
  | tip =>
    refine iff_of_false ?_ (by rintro ⟨⟩)
    rintro ⟨-, shown⟩
    cases (Wrote.nothing w).lines_eq shown
  | _ =>
    refine iff_of_true ?_ rfl
    exact ⟨⟨_, rfl⟩, .nothing w⟩

end Showing

/-! ## Main statement -/

/-- **When hints are shown.** Let a name stand for an operation that is called with some values and
gives back a result. A statement with the call writes the hints of the result and takes the call
for a success exactly if the result is a tuple, or can be gone through and has no hints in it. A
statement that keeps the results does so exactly if the result is not a single hint. And a call from
Lua always does. -/
theorem hints_shown_iff {host : Host} (prints : host.Prints) {σ : Type} {lua : Lua.Host σ}
    (lawful : lua.Lawful) (most depth : Nat) (site : Site) {name : String} (target : String)
    {arguments : List (Script.Tree Value)} {machine later : Machine} {world called after : World}
    {member : Member} {values : List Value} {result : Value} (state : σ)
    (running : machine.stopped = false) (unlisted : machine.functions.lookup name = none)
    (reaches : Reaches host (visitWithin host most depth) site name arguments machine world member
      values later called)
    (returned : (member.callLoosely (.tuple values)).perform called = (.ok result, after))
    (warns : after.threshold.keeps .warning = true) :
    let visit := visitWithin host most (depth + 1) site
    (Shows after (hints result) ((visit (.call name arguments)).perform machine world) ↔
      Traversed result) ∧
    (Shows after (hints result)
      ((visit (.gather target (.list []) (.call name arguments))).perform machine world) ↔
        result.isTip = false) ∧
    ∃ state', (lua.callDevice member values).perform state called =
        (.ok (delivered result), state', after) ∧
      (lua.session state').buffer.content =
        (lua.session state).buffer.content ++ (hintLines (hints result)).map Value.text := by
  intro visit
  refine ⟨?_, ?_, perform_callDevice lawful returned state⟩
  · have called : (visit (.call name arguments)).perform machine world =
        (callOperation host (visitWithin host most depth) site name arguments).perform machine
          world := by
      unfold visit
      rw [visitWithin, perform_unlessStopped_of_running running, step, perform_get_bind, unlisted]
    rw [called, perform_callOperation reaches returned]
    exact shows_writeTips_iff prints result _ later after warns
  · have called : (visit (.gather target (.list []) (.call name arguments))).perform machine world =
        (callForResults host (visitWithin host most depth) site target
          (.call name arguments)).perform machine world := by
      unfold visit
      rw [visitWithin, perform_unlessStopped_of_running running]
      rfl
    rw [called, perform_callForResults reaches returned]
    exact shows_keepResults_iff prints result _ later after target

theorem prints_commandLine (folder : Path) : (CommandLine.host folder).Prints :=
  ⟨_, rfl, fun _ _ => ⟨_, _, rfl, Array.toList_push, rfl⟩⟩

/-- An operation that gives back a value and two hints. -/
def reporting : Operation :=
  ⟨⟨"", "report", false, [], none⟩, fun _ => do
    return .tuple [← Act.tip "first", .text "done", ← Act.tip "second"]⟩

/-- Hints in a tuple are shown in all three ways, whatever stands between them. -/
theorem hints_shown_iff_reporting :
    let host := { CommandLine.host Path.here with find := fun _ => return .operation reporting }
    let lua : Lua.Host Lua.Session := ⟨id, id, none, false⟩
    let machine := Machine.initial Path.here
    let world := CommandLine.world
    let shown : List Value := [.tip 1 "first", .tip 2 "second"]
    ∃ state' after,
      Shows after shown ((visit host ⟨1, 1⟩ [] (.call "report" [])).perform machine world) ∧
      Shows after shown ((visit host ⟨1, 1⟩ [] (.gather "x" (.list [])
        (.call "report" []))).perform machine world) ∧
      (lua.callDevice (.operation reporting) []).perform (Lua.Session.initial false) world =
        (.ok (.text "done"), state', after) ∧
      state'.buffer.content = [.text "first\n", .text "second\n"] := by
  intro host lua machine world shown
  have prints : host.Prints := prints_commandLine Path.here
  have lawful : lua.Lawful := fun _ _ => rfl
  have reaches : Reaches host (visitWithin host 1 0) [] "report" [] machine world
      (.operation reporting) [] machine world := ⟨_, _, _, rfl, rfl, rfl⟩
  obtain ⟨call, gather, state', performed, content⟩ := hints_shown_iff prints lawful 1 0 [] "x"
    (Lua.Session.initial false) rfl rfl reaches rfl (by decide)
  exact ⟨state', _, call.mpr trivial, gather.mpr rfl, performed, content⟩

/-- A key of a phone is pressed, but the hint about it is not written, and the statement is taken
for a failure. If the results are kept, then the hint is not written either. -/
theorem pressed_key_is_taken_for_failure :
    let host := CommandLine.host Path.here
    let phone : Phone := ⟨.text "emu", "emu", .bool false, .bytes []⟩
    let world := { CommandLine.world with fleet := ⟨#[.phone phone], [], some 0, fun _ => some 0⟩ }
    let press : Script.Tree Value := .call "keyevent" [.string "a"]
    let machine := Machine.initial Path.here
    let called := (visit host ⟨1, 2⟩ [] press).perform machine world
    let kept := (visit host ⟨1, 2⟩ [] (.gather "x" (.list []) press)).perform machine world
    let pressed := (Phone.pressKey 0 (.text "a")).perform world
    pressed.1.toOption.map (hintLines ∘ hints) = some ["AdbDevice(serial=emu) 单击按键 a\n"] ∧
      called.2.written = #[] ∧
      called.2.records = #[⟨.warning, "函数 keyevent 执行错误 'Tip' object is not iterable!"⟩] ∧
      kept.2.written = #[] := by
  decide

end DeviceScript.Execution
