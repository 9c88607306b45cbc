import DeviceScript.Proofs.Lua.Hints
import DeviceScript.Proofs.World.Discretion

/-!
# What devices do is discreet

No action of a phone, a browser, a program or the desktop looks at the log or writes to the output
of a script, and neither does the search for devices.
-/

namespace DeviceScript

open Act

open Act.Discreet (andThen inspect ite_of)

variable (browser : Browser) (application : Application) (id : Nat)
variable (x1 y1 x2 y2 time name way s wanted : Value)

/-! ## Devices -/

instance Act.Calm.deviceAt? : Act.Calm (deviceAt? id) := .inspect fun _ => .pure _

namespace Act.Discreet

instance setDevice (device : Device) : Discreet (setDevice id device) := modify

instance addDevice (device : Device) : Discreet (addDevice device) := modifyGet

instance offset (most : Value) : Discreet (offset most) := by
  refine andThen inferInstance fun least => ?_
  -- The dice are thrown by looking at the world and putting another one in its place.
  have thrown : Discreet (MonadState.modifyGet fun w : World =>
      (w.dice.next.1, { w with dice := w.dice.next.2 }) : Act Int) :=
    modifyGet
  exact thrown.andThen fun n => (inferInstance : Discreet (do
    let span ← Act.ofExcept (do (← most.subtract least).add (.int 1))
    Act.ofExcept (do least.add (← Value.modulo (.int n) span))))

instance scatter (spread coordinate : Value) : Discreet (Act.scatter spread coordinate) := by
  unfold Act.scatter
  infer_instance

instance rest (seconds : Value) : Discreet (Act.rest seconds) := by
  unfold Act.rest
  split <;> infer_instance

instance pictureTarget (name : String) (wanted : Value) : Discreet (pictureTarget name wanted) := by
  refine andThen inferInstance fun s => ite_of inferInstance (ite_of ?_ inferInstance)
  exact inspect fun _ => pure _

instance savePicture (target : Value) (raster : Raster) :
    Discreet (Act.savePicture target raster) := by
  unfold Act.savePicture
  split <;> infer_instance

instance setShot (shot : ImageData) : Discreet (setShot id shot) := by
  refine andThen inferInstance fun device => ?_
  split <;> infer_instance

instance lastShot : Discreet (Act.lastShot id) := by
  unfold Act.lastShot
  infer_instance

instance handOut (s : String) : Discreet (Act.handOut id s) := by
  unfold Act.handOut
  infer_instance

instance takePicture (screen : Except Failure Raster) (target : Option Value) (saved : String)
    {unsaved : Act Value} [Discreet unsaved] {failed : Failure → Act Value}
    [∀ e, Discreet (failed e)] : Discreet (takePicture id screen target saved unsaved failed) := by
  refine andThen (@attempt _ _ (andThen inferInstance fun _ => andThen inferInstance fun _ => ?_))
    fun answer => ?_
  · split <;> infer_instance
  · split <;> infer_instance

end Act.Discreet

/-! ## Phones -/

namespace Phone

open Act (Discreet)

instance create_discreet (name : String) : Discreet (create name) := by
  unfold create
  infer_instance

instance state_calm : Act.Calm (state id) := by
  refine .andThen inferInstance fun device => ?_
  split <;> infer_instance

instance ask_discreet (phone : Phone) (verb : String) (args : List Value)
    (named : List (String × Value)) : Discreet (phone.ask verb args named) := by
  unfold ask
  infer_instance

instance runCommand_discreet (phone : Phone) (command : Value) :
    Discreet (phone.runCommand command) := by
  refine andThen inferInstance fun _ => ?_
  split
  · exact inspect fun _ => inferInstance
  · infer_instance

instance swipe_discreet : Discreet (swipe id x1 y1 x2 y2 time) := by
  repeat refine andThen inferInstance fun _ => ?_
  infer_instance

instance screenshot_discreet : Discreet (screenshot id wanted) :=
  andThen inferInstance fun _ => andThen inferInstance fun _ => andThen inferInstance fun _ =>
    andThen inferInstance fun _ => inspect fun _ => inferInstance

end Phone

/-! ## Browsers -/

/-- An action on a thing that is discreet, wherever the thing stands. -/
class ActOn.Discreet {σ α : Type} (act : ActOn σ α) : Prop where
  perform : ∀ (thing : σ) {w other : World}, w.Alike other → ∃ outcome thing' after after',
    act.perform thing w = (outcome, thing', after) ∧
      act.perform thing other = (outcome, thing', after') ∧
      after.Alike after' ∧ after.written = w.written

namespace ActOn.Discreet

variable {σ α β : Type}

instance pure (v : α) : Discreet (Pure.pure v : ActOn σ α) :=
  ⟨fun _ _ _ alike => ⟨_, _, _, _, rfl, rfl, alike, rfl⟩⟩

instance throw (e : Failure) : Discreet (MonadExcept.throw e : ActOn σ α) :=
  ⟨fun _ _ _ alike => ⟨_, _, _, _, rfl, rfl, alike, rfl⟩⟩

instance get : Discreet (MonadState.get : ActOn σ σ) :=
  ⟨fun _ _ _ alike => ⟨_, _, _, _, rfl, rfl, alike, rfl⟩⟩

instance modify (f : σ → σ) : Discreet (modify f : ActOn σ PUnit) :=
  ⟨fun _ _ _ alike => ⟨_, _, _, _, rfl, rfl, alike, rfl⟩⟩

instance ofAct (act : Act α) [discreet : act.Discreet] :
    Discreet (ActOn.ofAct act : ActOn σ α) where
  perform := by
    intro thing _ _ alike
    obtain ⟨o, w, w', ended, ended', alike', silent⟩ := discreet.perform alike
    refine ⟨o, thing, w, w', ?_, ?_, alike', silent⟩
    · rw [perform_ofAct, ended]
    · rw [perform_ofAct, ended']

theorem andThen {first : ActOn σ α} {f : α → ActOn σ β} (before : Discreet first)
    (following : ∀ v, Discreet (f v)) : Discreet (first >>= f) where
  perform := by
    intro thing _ _ alike
    obtain ⟨o, thing', w, w', reached, reached', alike', silent⟩ :=
      before.perform thing alike
    rw [ActOn.perform_bind, ActOn.perform_bind, reached, reached']
    cases o with
    | error => exact ⟨_, _, _, _, rfl, rfl, alike', silent⟩
    | ok v =>
      obtain ⟨o, thing'', w'', w''', ended, ended', alike'', silent'⟩ :=
        (following v).perform thing' alike'
      exact ⟨o, thing'', w'', w''', ended, ended', alike'', silent'.trans silent⟩

instance bind {first : ActOn σ α} {f : α → ActOn σ β} [before : Discreet first]
    [following : ∀ v, Discreet (f v)] : Discreet (first >>= f) :=
  before.andThen following

instance ite {c : Prop} [Decidable c] {first second : ActOn σ α}
    [Discreet first] [Discreet second] : Discreet (if c then first else second) := by
  split <;> infer_instance

end ActOn.Discreet

namespace Frame

open ActOn (Discreet)

instance current_discreet (page : Frame) : Discreet (current page) := by
  unfold current
  infer_instance

instance enter_discreet (n : Nat) (inner : Frame) : Discreet (enter n inner) := by
  unfold enter
  infer_instance

instance leave_discreet : Discreet leave := by
  unfold leave
  infer_instance

mutual

theorem search_discreet (page : Frame) (way s : Value) :
    ∀ frame, Discreet (search page way s frame)
  | .frame _ _ frames => by
    have deeper := searchAll_discreet page way s 0 frames
    unfold search
    infer_instance

theorem searchAll_discreet (page : Frame) (way s : Value) (n : Nat) :
    ∀ frames, Discreet (searchAll page way s n frames)
  | [] => by
    unfold searchAll
    infer_instance
  | inner :: frames => by
    have inside := search_discreet page way s inner
    have behind := searchAll_discreet page way s (n + 1) frames
    unfold searchAll
    infer_instance

end

end Frame

namespace Browser

open Act (Discreet)

instance state_calm : Act.Calm (state id) := by
  refine .andThen inferInstance fun device => ?_
  split <;> infer_instance

instance modify_discreet (f : Browser → Browser) : Discreet (modify id f) := by
  unfold modify
  infer_instance

instance pageName_discreet : Discreet browser.pageName := by
  unfold pageName
  split <;> infer_instance

instance needStarted_discreet (mem : String) : Discreet (browser.needStarted mem) := by
  unfold needStarted
  infer_instance

instance needGestures_discreet : Discreet browser.needGestures := by
  unfold needGestures
  infer_instance

instance launch_discreet (driver : Value) : Discreet (launch id driver) := by
  refine andThen inferInstance fun browser => andThen inferInstance fun name => ?_
  -- Whichever way the driver is looked for, the browser is started in the same way after that.
  split <;> try split
  all_goals
    refine andThen inferInstance fun present => ite_of ?_ inferInstance
    refine andThen inferInstance fun _ => andThen inferInstance fun _ =>
      andThen inferInstance fun _ => inspect fun w => ?_
    split <;> infer_instance

instance openPage_discreet (url name : Value) : Discreet (openPage id url name) := by
  refine andThen inferInstance fun browser => ?_
  dsimp only
  split <;> split <;> infer_instance

instance reminder_discreet : Discreet (reminder id) := by
  unfold reminder
  infer_instance

theorem roam_discreet {α : Type} (inside : List Nat) {act : Frame → Frame.Roaming α}
    (discreet : ∀ page, ActOn.Discreet (act page)) : Discreet (roam id inside act) := by
  refine inspect fun w => andThen ⟨fun alike => ?_⟩ fun _ => inferInstance
  obtain ⟨o, inside', w', w'', ended, ended', alike', silent⟩ :=
    (discreet w.surroundings.web.page).perform inside alike
  refine ⟨.ok (o, inside'), w', w'', ?_, ?_, alike', silent⟩
  · exact congrArg (fun ended => (Except.ok (ended.1, ended.2.1), ended.2.2)) ended
  · exact congrArg (fun ended => (Except.ok (ended.1, ended.2.1), ended.2.2)) ended'

instance seek_discreet (page : Frame) : ActOn.Discreet (seek way s page) := by
  have searching := Frame.search_discreet page way s
  unfold seek
  infer_instance

instance clickElement_discreet (page : Frame) : ActOn.Discreet (clickElement way s page) := by
  refine .andThen inferInstance fun frame => ?_
  split
  · infer_instance
  · split <;> infer_instance

instance findAndClick_discreet (named : String) : Discreet (findAndClick id way s named) := by
  have looking := fun inside => roam_discreet id inside (seek_discreet way s)
  have clicking := fun inside => roam_discreet id inside (clickElement_discreet way s)
  refine andThen inferInstance fun browser => ?_
  split
  · infer_instance
  · refine andThen inferInstance fun found => ite_of (andThen inferInstance fun browser =>
      andThen inferInstance fun clicked => ?_) inferInstance
    split <;> infer_instance

instance gesture_discreet (verb : String) (args : List Value) : Discreet (gesture verb args) := by
  unfold gesture
  infer_instance

instance click_discreet (x y : Value) : Discreet (click id x y) := by
  repeat refine andThen inferInstance fun _ => ?_
  infer_instance

instance swipe_discreet : Discreet (swipe id x1 y1 x2 y2 time) := by
  repeat refine andThen inferInstance fun _ => ?_
  infer_instance

instance enterOne_discreet : Discreet (browser.enterOne s) := by
  unfold enterOne
  infer_instance

instance enterText_discreet : Discreet (enterText id s) := by
  refine andThen inferInstance fun browser => andThen ?_ fun _ => inferInstance
  exact .forM fun s _ => inferInstance

instance runScript_discreet (script : Value) : Discreet (runScript id script) := by
  refine andThen inferInstance fun browser => andThen inferInstance fun page =>
    andThen inferInstance fun _ => andThen inferInstance fun _ => andThen inferInstance fun _ => ?_
  exact inspect fun w => inferInstance

instance screenshot_discreet : Discreet (screenshot id wanted) :=
  andThen inferInstance fun _ => andThen inferInstance fun _ => andThen inferInstance fun _ =>
    inspect fun _ => inferInstance

end Browser

/-! ## Programs and the desktop -/

namespace Application

open Act (Discreet)

instance poll_discreet : Discreet poll := .modifyGet

instance runs_discreet : Discreet application.runs := by
  refine ite_of (andThen inferInstance fun answer => ?_) inferInstance
  split <;> infer_instance

instance runningId_discreet : Discreet application.runningId := by
  unfold runningId
  infer_instance

instance launch_discreet : Discreet application.launch := by
  unfold launch
  dsimp only
  split <;>
  · refine andThen inferInstance fun command => andThen inferInstance fun folder =>
      andThen inferInstance fun _ => inspect fun w => ?_
    split <;> infer_instance

instance accompany_discreet : Discreet application.accompany := by
  unfold accompany
  infer_instance

instance noted_discreet (act : Act Unit) [Discreet act] : Discreet (application.noted act) := by
  refine andThen inferInstance fun o => ?_
  split <;> infer_instance

instance start_discreet : Discreet application.start := by
  unfold start
  infer_instance

instance findWindow_discreet (id until_ : Value) (start : Float) (rounds : Nat) :
    Discreet (findWindow id until_ start rounds) := by
  induction rounds with
  | zero => exact .pure _
  | succ =>
    refine inspect fun w => andThen inferInstance fun early => ite_of ?_ inferInstance
    split <;> infer_instance

instance title_discreet (timeout : Value) :
    Discreet (application.title timeout) := inspect fun _ => inferInstance

end Application

namespace Workstation

open Act (Discreet)

instance create_discreet : Discreet create := by
  unfold create
  infer_instance

instance state_calm : Act.Calm (state id) := by
  refine .andThen inferInstance fun device => ?_
  split <;> infer_instance

instance modify_discreet (f : Workstation → Workstation) : Discreet (modify id f) := by
  unfold modify
  infer_instance

instance pointer_discreet : Discreet pointer := inspect fun _ => inferInstance

instance swipe_discreet (channel : Channel) (id : Nat) (x1 y1 x2 y2 time : Value) :
    Discreet (swipe channel id x1 y1 x2 y2 time) := by
  repeat refine andThen inferInstance fun _ => ?_
  infer_instance

instance enterText_discreet : Discreet (enterText s) := by
  unfold enterText
  infer_instance

instance shell_discreet (command : Value) : Discreet (shell command) := by
  refine andThen inferInstance fun _ => ?_
  split
  · exact inspect fun _ => inferInstance
  · infer_instance

instance openApp_discreet (executable args : Value) :
    Discreet (openApp id name executable args) := by
  unfold openApp
  infer_instance

instance activateWindow_discreet : Discreet (activateWindow id name) := by
  refine andThen inferInstance fun _ => andThen inferInstance fun workstation => ?_
  split
  · infer_instance
  · exact andThen inferInstance fun title => inspect fun _ => inferInstance

instance windowTitles_discreet : Discreet windowTitles := inspect fun _ => inferInstance

instance screenshot_discreet : Discreet (screenshot id wanted) :=
  andThen inferInstance fun _ => andThen inferInstance fun _ => inspect fun _ => inferInstance

end Workstation

/-! ## Platforms -/

namespace Platform

open Act (Discreet)

instance logColored_discreet (level : Level) (s : String) : Discreet (logColored level s) := by
  unfold logColored
  infer_instance

instance answers_discreet (address : Value) : Discreet (answers address) := by
  refine andThen inferInstance fun answered => ?_
  split <;> infer_instance

instance connectPhone_discreet (address : Value) : Discreet (connectPhone address) := by
  unfold connectPhone
  infer_instance

instance connectPhones_discreet : Discreet connectPhones := by
  refine andThen inferInstance fun s => ?_
  exact ite_of (andThen inferInstance fun addresses => .forM fun _ _ => inferInstance) inferInstance

instance serials_calm : Act.Calm serials := .andThen inferInstance fun _ => .inspect fun _ => .pure _

instance addPhones_discreet (note : String → Act Unit) [∀ serial, Discreet (note serial)]
    (serials : List String) : Discreet (addPhones note serials) := by
  induction serials with
  | nil => exact .pure _
  | cons =>
    unfold addPhones
    infer_instance

instance findPhones_discreet : Discreet findPhones := .bind

instance loadPhones_discreet : Discreet loadPhones := by
  refine inspect fun w => ?_
  dsimp only
  split
  · infer_instance
  · split <;> infer_instance

instance loadDesktop_discreet : Discreet loadDesktop := inspect fun _ => inferInstance

instance loadBrowsers_discreet : Discreet loadBrowsers := by
  unfold loadBrowsers
  infer_instance

instance addBrowsers_discreet (shared : Path) (drivers : List (String × Path)) :
    Discreet (addBrowsers shared drivers) := by
  induction drivers with
  | nil => exact .pure _
  | cons =>
    unfold addBrowsers
    infer_instance

instance refresh_discreet (p : Platform) : Discreet p.refresh := by
  cases p <;> unfold refresh <;> infer_instance

end Platform

instance Act.Calm.fleet : Act.Calm fleet := .inspect fun _ => .pure _

namespace Act.Discreet

instance modifyFleet (f : Fleet → Fleet) : Discreet (modifyFleet f) := modify

instance loadPlatforms : Discreet loadPlatforms := by
  refine forM fun load mem => ?_
  have loads : Discreet load := by
    simp only [Platform.loaders, List.mem_cons, List.not_mem_nil, or_false] at mem
    rcases mem with rfl | rfl | rfl <;> infer_instance
  infer_instance

instance refreshFrom (n : Nat) (platforms : List Platform) :
    Discreet (Act.refreshFrom n platforms) := by
  induction platforms generalizing n with
  | nil => exact pure _
  | cons =>
    unfold Act.refreshFrom
    infer_instance

instance listDevices : Discreet Act.listDevices := by
  unfold Act.listDevices
  infer_instance

instance selectDevice : Discreet (Act.selectDevice name) := by
  unfold Act.selectDevice
  infer_instance

end Act.Discreet

end DeviceScript
