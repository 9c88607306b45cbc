import DeviceScript.Proofs.Device.Access
import DeviceScript.Proofs.Device.Selecting
import DeviceScript.Proofs.Lua.Hints
import DeviceScript.Proofs.Text.Cutting
import DeviceScript.Terminal.ScriptList

/-!
# Starting scripts

A script is listed by the ending of its name and started by what stands anywhere in its name. So a
script whose name has the mark of both languages is started twice, once in each language.

Main statement: a listed script that can be read and is not running is started in the language of
its ending, and in no other, exactly if its name does not have both marks
(`started_by_ending_iff`).
-/

namespace DeviceScript

open List Act Text

namespace ActOn

variable {σ α β : Type} {first : ActOn σ α} {next : α → ActOn σ β} {thing later : σ}
  {w w' : World}

theorem perform_bind_ok {v : α} (reached : first.perform thing w = (.ok v, later, w')) :
    (first >>= next).perform thing w = (next v).perform later w' := by
  rw [perform_bind, reached]

theorem perform_get_bind (f : σ → ActOn σ β) (thing : σ) (w : World) :
    (get >>= f).perform thing w = (f thing).perform thing w := rfl

end ActOn

namespace Terminal

variable {state : State} {world w : World} {file code : String}

/-! ## The text of a script -/

/-- The text in a file, or why it cannot be read. -/
def textIn (w : World) (file : String) : Except Failure String :=
  if FileName.isBroken file then .error FileName.broken
  else
    match w.files.read (w.route file) with
    | .ok content => textOf content
    | .error fault => .error (.file fault (quoted file))

theorem perform_readText (file : String) (w : World) :
    (readText file).perform w = (textIn w file, w) := by
  rw [readText, readFile, bind_assoc, perform_get_bind, bind_assoc, textIn]
  by_cases broken : FileName.isBroken file = true
  · rw [routeOf, if_pos broken, if_pos broken]
    rfl
  · have spelled : (routeOf file).perform w = (.ok (w.route file), w) := by
      rw [routeOf, if_neg broken]
      rfl
    rw [perform_bind_ok spelled, if_neg broken]
    rcases w.files.read (w.route file) with _ | content
    · rfl
    · dsimp only
      rw [pure_bind]
      cases textOf content <;> rfl

/-- The script in a file, if there is one that can be read. -/
def scriptIn? (w : World) (file : String) : Option String :=
  if file = "" then none else (textIn w file).toOption

theorem perform_readScript (file : String) (w : World) :
    (readScript file).perform w = (.ok (scriptIn? w file), w) := by
  rw [readScript, scriptIn?]
  split
  · rfl
  · rw [perform_bind_ok (perform_attempt (perform_readText file w))]
    cases textIn w file <;> rfl

theorem perform_pathExists {path : Path} {found : Bool}
    (there : ((pathExists path).perform w).1.toOption = some found) :
    (pathExists path).perform w = (.ok found, w) := by
  have looked : (Act.found path.render).perform w = (.ok _, w) := rfl
  rw [pathExists, perform_bind_ok looked] at there ⊢
  revert there
  split <;> rintro ⟨⟩ <;> rfl

/-! ## What starting a script does -/

/-- The state after a script has been launched in a language. -/
def State.launched (run : ScriptRun) (state : State) (language : Language) : State :=
  let worker : Worker := ⟨state.workerCount + 1, language.job run⟩
  { state with
    lua := if language = .lua then state.lua.start (Path.ofText run.file) else state.lua
    workers := state.workers ++ [worker]
    workerCount := worker.number
    tasks := state.tasks.enter run.file worker }

theorem perform_launch (run : ScriptRun) (language : Language) (state : State) (w : World) :
    (launch run language).perform state w = (.ok (), state.launched run language, w) := by
  cases language <;> rfl

theorem perform_launchAll (run : ScriptRun) (languages : List Language) (state : State)
    (w : World) :
    (forIn languages PUnit.unit fun language _ => do
      launch run language
      return ForInStep.yield PUnit.unit : Doing PUnit).perform state w =
        (.ok PUnit.unit, languages.foldl (State.launched run) state, w) := by
  induction languages generalizing state with
  | nil => rfl
  | cons language _ ih =>
    rw [forIn_cons, bind_assoc, ActOn.perform_bind_ok (perform_launch run language state w)]
    exact ih _

theorem jobs_launched (run : ScriptRun) (languages : List Language) (state : State) :
    (languages.foldl (State.launched run) state).workers.map Worker.job =
      state.workers.map Worker.job ++ languages.map (Language.job run) := by
  induction languages generalizing state with
  | nil => exact (append_nil _).symm
  | cons _ _ ih =>
    rw [foldl_cons, ih]
    simp [State.launched]

/-- A script that is there, can be read and is not running is launched in every language whose mark
stands in its name. -/
theorem perform_startScript
    (there : (pathExists (Path.ofText file)).perform w = (.ok true, w))
    (script : scriptIn? w file = some code) (filled : code ≠ "")
    (idle : state.tasks.has file = false) :
    let name := (Path.ofText file).name
    ∃ w', (startScript file).perform state w =
      (.ok (), (languages name).foldl (State.launched ⟨code, name, file⟩) state, w') := by
  intro name
  have found : (ActOn.ofAct (pathExists (Path.ofText file)) : Doing Bool).perform state w =
      (.ok true, state, w) := by
    rw [ActOn.perform_ofAct, there]
  rw [startScript, ActOn.perform_bind_ok found]
  rw [if_neg (by decide), ActOn.perform_get_bind, idle, if_neg Bool.false_ne_true]
  obtain ⟨records, logged⟩ := w.alike_log .info ("尝试执行脚本 " ++ name)
  have noted : (ActOn.ofAct (log .info ("尝试执行脚本 " ++ name)) : Doing Unit).perform state
      w = (.ok (), state, { w with records }) := congrArg (Except.ok (), state, ·) logged
  let notice : Notice := ⟨[.text ("脚本 " ++ name ++ " 开始运行")], []⟩
  let told : World := { w with records, notices := w.notices.push notice }
  have read : (ActOn.ofAct (readScript file) : Doing _).perform state told =
      (.ok (some code), state, told) := by
    have same : scriptIn? told file = some code := script
    rw [ActOn.perform_ofAct, perform_readScript, same]
  have announced : (tell ("脚本 " ++ name ++ " 开始运行") []).perform state
      { w with records } = (.ok (), state, told) := rfl
  rw [ActOn.perform_bind_ok noted, ActOn.perform_bind_ok announced, ActOn.perform_bind_ok read]
  split
  · cases ‹some code = none›
  · cases ‹some code = some ""›
    exact absurd rfl filled
  · cases ‹some code = some _›
    exact ⟨told, ActOn.perform_bind_ok (perform_launchAll _ _ _ _)⟩

/-! ## The listed scripts -/

/-- A text with an ending gives a path whose name has that ending. -/
theorem endsWith_name_ofText {s ending : String} (ends : s.endsWith ending = true)
    (free : '/' ∉ ending.toList) (long : 1 < ending.length) :
    ∃ name, (Path.ofText s).parts.getLast? = some name ∧ name.endsWith ending = true := by
  obtain ⟨last, isLast, ends⟩ := exists_getLast?_splitChar free ((endsWith_iff _ _).mp ends)
  have longer : 1 < last.length := by
    have := ends.length_le
    rw [String.length_toList] at this
    omega
  have isName : String.ofList last ≠ "" ∧ String.ofList last ≠ "." := by
    constructor <;> intro same <;> rw [← String.toList_inj, String.toList_ofList] at same <;>
      rw [same] at longer <;> exact absurd longer (by decide)
  obtain ⟨_, cut⟩ := getLast?_eq_some_iff.mp isLast
  refine ⟨String.ofList last, ?_, ?_⟩
  · have kept : [String.ofList last].filter (fun part => part ≠ "" ∧ part ≠ ".") =
        [String.ofList last] := filter_cons_of_pos (decide_eq_true isName)
    rw [Path.ofText, cut, map_append, filter_append, map_singleton, kept, getLast?_concat]
  · rw [endsWith_iff, String.toList_ofList]
    exact ends

/-- A text of a path has the endings of its last name. -/
theorem endsWith_render {path : Path} {name ending : String}
    (isLast : path.parts.getLast? = some name) (ends : name.endsWith ending = true) :
    path.render.endsWith ending = true := by
  rw [Path.render, if_neg (fun empty => by rw [empty.2] at isLast; cases isLast),
    endsWith_iff, String.toList_append]
  exact ((endsWith_iff _ _).mp ends).trans
    ((suffix_join isLast).trans (suffix_append _ _))

/-- Whatever is listed in folders has the ending that is looked for. -/
theorem perform_mapM_entriesEnding (ending : String) (free : '/' ∉ ending.toList)
    (long : 1 < ending.length) (folders : List Path) (w : World) :
    ∃ files, (folders.mapM (entriesEnding ending)).perform w = (.ok files, w) ∧
      ∀ path ∈ files.flatten, path.render.endsWith ending = true := by
  induction folders with
  | nil => exact ⟨[], rfl, fun _ mem => absurd mem not_mem_nil⟩
  | cons folder _ ih =>
    obtain ⟨files, listed, ends⟩ : ∃ files, (entriesEnding ending folder).perform w =
        (.ok files, w) ∧ ∀ path ∈ files, path.render.endsWith ending = true := by
      refine ⟨_, rfl, fun path mem => ?_⟩
      obtain ⟨_, sorted, rfl⟩ := mem_map.mp mem
      have ends := (mem_filter.mp (mem_mergeSort.mp sorted)).2
      obtain ⟨_, isLast, ends⟩ := endsWith_name_ofText ends free long
      refine endsWith_render ?_ ends
      rw [Path.append]
      split
      · rw [getLast?_append, isLast]
        rfl
      · exact isLast
    obtain ⟨others, listed', ends'⟩ := ih
    refine ⟨files :: others, ?_, ?_⟩
    · rw [mapM_cons, perform_bind_ok listed, perform_bind_ok listed']
      rfl
    · exact forall_mem_append.mpr ⟨ends, ends'⟩

theorem ending_of_listed {scripts : List Path} {w' : World}
    (listed : findScripts.perform w = (.ok scripts, w')) {path : Path} (mem : path ∈ scripts) :
    path.render.endsWith ".lua" = true ∨ path.render.endsWith ".txt" = true := by
  obtain ⟨_, _, ⟨⟩, listed⟩ := exists_of_perform_bind listed
  obtain ⟨_, _, -, listed⟩ := exists_of_perform_bind listed
  obtain ⟨folders, w'', -, listed⟩ := exists_of_perform_bind listed
  obtain ⟨lua, listedLua, endsLua⟩ :=
    perform_mapM_entriesEnding ".lua" (by decide) (by decide) (w.home :: folders) w''
  obtain ⟨plain, listedPlain, endsPlain⟩ :=
    perform_mapM_entriesEnding ".txt" (by decide) (by decide) (w.home :: folders) w''
  rw [bind_assoc, perform_bind_ok listedLua, pure_bind, bind_assoc,
    perform_bind_ok listedPlain] at listed
  cases listed
  exact (mem_append.mp mem).imp (endsLua path) (endsPlain path)

/-! ## Endings and marks -/

theorem hasPiece_of_endsWith {ending piece : String} (ends : file.endsWith ending = true)
    (free : '/' ∉ ending.toList) (long : 1 < ending.length)
    (inside : piece.toList <:+: ending.toList) : hasPiece piece (Path.ofText file).name = true := by
  obtain ⟨name, isLast, ends⟩ := endsWith_name_ofText ends free long
  rw [Path.name, isLast, hasPiece_iff]
  exact inside.trans ((endsWith_iff _ _).mp ends).isInfix

/-- The jobs are to run the script in the language that its ending stands for, and nothing else. -/
def RunsByEnding (run : ScriptRun) (jobs : List Job) : Prop :=
  (run.file.endsWith ".lua" = true → jobs = [.runLua run]) ∧
    (run.file.endsWith ".txt" = true → jobs = [.runPlain run])

/-- The name has the marks of both languages. -/
def hasBothMarks (name : String) : Bool := hasPiece "lua" name && hasPiece "txt" name

theorem runsByEnding_iff {code : String}
    (ends : file.endsWith ".lua" = true ∨ file.endsWith ".txt" = true) :
    let run : ScriptRun := ⟨code, (Path.ofText file).name, file⟩
    RunsByEnding run ((languages run.name).map (Language.job run)) ↔
      hasBothMarks run.name = false := by
  intro run
  have lua : file.endsWith ".lua" = true → hasPiece "lua" run.name = true :=
    fun ends => hasPiece_of_endsWith ends (by decide) (by decide) ⟨['.'], [], by decide⟩
  have plain : file.endsWith ".txt" = true → hasPiece "txt" run.name = true :=
    fun ends => hasPiece_of_endsWith ends (by decide) (by decide) ⟨['.'], [], by decide⟩
  rw [languages, hasBothMarks]
  cases hasLua : hasPiece "lua" run.name <;> cases hasPlain : hasPiece "txt" run.name <;>
    rw [hasLua] at lua <;> rw [hasPlain] at plain
  · exact absurd (ends.elim lua plain) Bool.false_ne_true
  · exact iff_of_true ⟨fun ends => absurd (lua ends) Bool.false_ne_true, fun _ => rfl⟩ rfl
  · exact iff_of_true ⟨fun _ => rfl, fun ends => absurd (plain ends) Bool.false_ne_true⟩ rfl
  · refine iff_of_false (fun byEnding => ?_) (by decide)
    rcases ends with ends | ends
    · exact cons_ne_nil _ _ (List.cons.inj (byEnding.1 ends)).2
    · exact cons_ne_nil _ _ (List.cons.inj (byEnding.2 ends)).2

/-- **Scripts by their endings.** Take any script that is listed, that is still there, whose text
can be read and is not empty, and that is not running. To start it queues jobs that run it. These
are one job, in the language that the ending stands for, exactly if the name does not have the marks
of both languages. -/
theorem started_by_ending_iff {scripts : List Path} {after : World}
    (listed : findScripts.perform world = (.ok scripts, after)) {path : Path}
    (member : path ∈ scripts)
    (there : (pathExists (Path.ofText path.render)).perform world = (.ok true, world))
    (readable : (readScript path.render).perform world = (.ok (some code), world))
    (filled : code ≠ "") (idle : state.tasks.has path.render = false) :
    let name := (Path.ofText path.render).name
    ∃ jobs later last, (startScript path.render).perform state world = (.ok (), later, last) ∧
      later.workers.map Worker.job = state.workers.map Worker.job ++ jobs ∧
      (RunsByEnding ⟨code, name, path.render⟩ jobs ↔ hasBothMarks name = false) := by
  rw [perform_readScript] at readable
  have script := Except.ok.inj (Prod.mk.inj readable).1
  obtain ⟨last, started⟩ := perform_startScript there script filled idle
  have ends := ending_of_listed listed member
  exact ⟨_, _, last, started, jobs_launched _ _ _, runsByEnding_iff ends⟩

/-! ## One script -/

/-- A folder with one script in it. -/
def withScript (name : String) : World :=
  { World.initial Surroundings.bare with
    settings := some Settings.initial
    files := ⟨[([name], .file (.text "x"))]⟩ }

theorem perform_entriesEnding_withScript (name ending : String) :
    (entriesEnding ending Path.here).perform (withScript name) =
      (.ok (if name.endsWith ending then [Path.here.append (Path.ofText name)] else []),
        withScript name) := by
  have looked : (Act.found Path.here.render).perform (withScript name) =
    (.ok (.ok ([], .directory)), withScript name) := rfl
  rw [entriesEnding, perform_get_bind, perform_bind_ok looked]
  show (Except.ok (((List.filter (·.endsWith ending) [name]).mergeSort _).map _), _) = _
  cases ends : name.endsWith ending <;> simp [ends]

theorem perform_findScripts_withScript (name : String) :
    findScripts.perform (withScript name) =
      (.ok ((if name.endsWith ".lua" then [Path.here.append (Path.ofText name)] else []) ++
        if name.endsWith ".txt" then [Path.here.append (Path.ofText name)] else []),
        withScript name) := by
  have given : Act.ofExcept (Settings.initial.scriptFolders.mapM Value.toPath) = pure [] := rfl
  have home : (withScript name).home = Path.here := rfl
  rw [findScripts, perform_get_bind, perform_bind_ok (perform_settings rfl _), given, home]
  simp only [mapM_cons, mapM_nil, bind_assoc, pure_bind, flatten_cons, flatten_nil, append_nil]
  rw [perform_bind_ok (perform_entriesEnding_withScript _ _),
    perform_bind_ok (perform_entriesEnding_withScript _ _)]
  rfl

/-- The script in a file with the ending of one language is started once, in that language. -/
theorem started_by_ending_iff_luaScript :
    hasBothMarks "a.lua" = false ∧ ∃ later last,
      (startScript "a.lua").perform (State.initial ⟨0, 0⟩) (withScript "a.lua") =
        (.ok (), later, last) ∧
      later.workers.map Worker.job = [.runLua ⟨"x", "a.lua", "a.lua"⟩] := by
  have ends : "a.lua".endsWith ".lua" = true := (endsWith_iff _ _).mpr (by decide)
  have listed := perform_findScripts_withScript "a.lua"
  rw [if_pos ends] at listed
  have single : hasBothMarks "a.lua" = false := by decide
  have there := perform_pathExists (show ((pathExists (Path.ofText "a.lua")).perform
    (withScript "a.lua")).1.toOption = some true by decide +kernel)
  have script : scriptIn? (withScript "a.lua") "a.lua" = some "x" := by decide +kernel
  have readable := (perform_readScript "a.lua" (withScript "a.lua")).trans
    (congrArg (Except.ok ·, _) script)
  have idle : (State.initial ⟨0, 0⟩).tasks.has "a.lua" = false := rfl
  obtain ⟨jobs, later, last, started, queued, byEnding⟩ :=
    started_by_ending_iff listed mem_cons_self there readable (by decide) idle
  exact ⟨single, later, last, started, queued.trans ((byEnding.mpr single).1 ends)⟩

/-- A script whose name has the marks of both languages is listed once and started twice. -/
theorem twofold_script_is_started_twice :
    findScripts.perform (withScript "lua.txt") = (.ok [⟨"", ["lua.txt"]⟩], withScript "lua.txt") ∧
      ∃ later last,
        (startScript "lua.txt").perform (State.initial ⟨0, 0⟩) (withScript "lua.txt") =
          (.ok (), later, last) ∧
        later.workers.map Worker.job =
          [.runLua ⟨"x", "lua.txt", "lua.txt"⟩, .runPlain ⟨"x", "lua.txt", "lua.txt"⟩] := by
  have ends : "lua.txt".endsWith ".txt" = true := (endsWith_iff _ _).mpr (by decide)
  have other : ¬ "lua.txt".endsWith ".lua" = true :=
    fun ends => absurd ((endsWith_iff _ _).mp ends) (by decide)
  have path : Path.here.append (Path.ofText "lua.txt") = ⟨"", ["lua.txt"]⟩ := rfl
  have script : scriptIn? (withScript "lua.txt") "lua.txt" = some "x" := by decide +kernel
  have idle : (State.initial ⟨0, 0⟩).tasks.has "lua.txt" = false := rfl
  obtain ⟨last, started⟩ :=
    perform_startScript (perform_pathExists (by decide +kernel)) script (by decide) idle
  refine ⟨?_, _, last, started, jobs_launched _ _ _⟩
  rw [perform_findScripts_withScript, if_neg other, if_pos ends, path]
  rfl

end Terminal

end DeviceScript
