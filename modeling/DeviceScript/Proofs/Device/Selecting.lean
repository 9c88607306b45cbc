import DeviceScript.Proofs.Lua.Hints
import DeviceScript.Proofs.World.Discretion

/-!
# Selecting devices

A script selects a device by its name. It is meant to get that device, or else the user is told that
there is none. But the user is told only if no device is in use at all, and a device stays in use
when another one is asked for that cannot be found. So it depends on all selections before, by
whichever script, whether a selection does what it is meant to do. Each script keeps the device that
was in use when its own last selection ended well, and goes on with it when a selection fails.

Main statements: the device in use is the last one that any selection has found (`current_runAll`),
and when a selection gives the script its device or has told the user (`served_or_told_iff`).
-/

namespace DeviceScript

open Act Platform

open Execution (perform_act_bind)

/-! ## Searches -/

/-- The second world comes from the first one by looking for devices: the same devices are in use,
none is lost, and the user has been told nothing. A strict search adds no platform. -/
structure World.Searched (strict : Prop) (before after : World) : Prop where
  devices : ∀ (id : Nat) device, before.fleet.devices[id]? = some device →
    after.fleet.devices[id]? = some device
  current : after.fleet.current = before.fleet.current
  held : after.fleet.held = before.fleet.held
  files : after.files = before.files
  home : after.home = before.home
  notices : after.notices = before.notices
  settings : after.settings = before.settings
  surroundings : after.surroundings = before.surroundings
  platforms : strict → after.fleet.platforms = before.fleet.platforms

variable {strict : Prop}

theorem World.Searched.refl (w : World) : World.Searched strict w w :=
  ⟨fun _ _ => id, rfl, rfl, rfl, rfl, rfl, rfl, rfl, fun _ => rfl⟩

theorem World.Searched.loose {w w' : World} (searched : Searched strict w w') :
    Searched False w w' :=
  { searched with platforms := False.elim }

theorem World.Searched.trans {first w w' : World} (before : Searched strict first w)
    (later : Searched strict w w') : Searched strict first w' :=
  ⟨fun id device at_ => later.devices id device (before.devices id device at_),
    later.current.trans before.current, later.held.trans before.held,
    later.files.trans before.files, later.home.trans before.home,
    later.notices.trans before.notices, later.settings.trans before.settings,
    later.surroundings.trans before.surroundings,
    fun isStrict => (later.platforms isStrict).trans (before.platforms isStrict)⟩

namespace Act

variable {α β : Type}

/-- An action that only looks for devices, whether it fails or not. -/
class Searches (strict : Prop) (act : Act α) : Prop where
  searched : ∀ w, World.Searched strict w (act.perform w).2

namespace Searches

instance of_calm {act : Act α} [calm : Calm act] : Searches strict act := by
  refine ⟨fun w => ?_⟩
  obtain ⟨_, _, same⟩ := calm.untouched w
  rw [same]
  exact ⟨fun _ _ => id, rfl, rfl, rfl, rfl, rfl, rfl, rfl, fun _ => rfl⟩

instance get : Searches strict (MonadState.get : Act World) := ⟨.refl⟩

theorem andThen {first : Act α} {f : α → Act β} (before : Searches strict first)
    (later : ∀ v, Searches strict (f v)) : Searches strict (first >>= f) := by
  refine ⟨fun w => ?_⟩
  have searched := before.searched w
  rw [perform_act_bind]
  rcases reached : first.perform w with ⟨_ | v, w'⟩ <;> rw [reached] at searched
  · exact searched
  · exact searched.trans ((later v).searched w')

instance bind {first : Act α} {f : α → Act β} [before : Searches strict first]
    [w' : ∀ v, Searches strict (f v)] : Searches strict (first >>= f) :=
  before.andThen w'

instance ite {c : Prop} [Decidable c] {first second : Act α} [one : Searches strict first]
    [other : Searches strict second] : Searches strict (if c then first else second) := by
  split
  · exact one
  · exact other

theorem forM {f : α → Act PUnit} {xs : List α}
    (each : ∀ x ∈ xs, Searches strict (f x)) : Searches strict (xs.forM f) := by
  induction xs with
  | nil => exact ⟨.refl⟩
  | cons _ _ ih =>
    rw [List.forall_mem_cons] at each
    exact each.1.andThen fun _ => ih each.2

instance logColored (level : Level) (s : String) : Searches strict (logColored level s) :=
  bind

instance addDevice (device : Device) : Searches strict (addDevice device) := by
  refine ⟨fun w => ⟨fun id other at_ => ?_, rfl, rfl, rfl, rfl, rfl, rfl, rfl, fun _ => rfl⟩⟩
  obtain ⟨inside, -⟩ := Array.getElem?_eq_some_iff.mp at_
  exact (Array.getElem?_push_lt inside).trans (Array.getElem?_eq_getElem inside ▸ at_)

instance demand (channel : Channel) (verb : String) (args : List Value)
    (named : List (String × Value)) : Searches strict (demand channel verb args named) :=
  andThen ⟨fun _ => ⟨fun _ _ => id, rfl, rfl, rfl, rfl, rfl, rfl, rfl, fun _ => rfl⟩⟩
    fun _ => of_calm

instance attempt {act : Act α} [searches : Searches strict act] : Searches strict (attempt act) :=
  ⟨searches.searched⟩

instance pathExists (path : Path) : Searches strict (pathExists path) := by
  refine andThen (bind : Searches strict (found _)) fun found => ?_
  split <;> infer_instance

instance createPhone (serial : String) : Searches strict (Phone.create serial) := bind

instance addPhones {note : String → Act Unit} [∀ serial, Searches strict (note serial)]
    (serials : List String) : Searches strict (Platform.addPhones note serials) := by
  induction serials with
  | nil => exact ⟨.refl⟩
  | cons =>
    unfold Platform.addPhones
    infer_instance

instance answers (address : Value) : Searches strict (answers address) := by
  refine attempt.andThen fun answered => ?_
  split <;> infer_instance

instance connectPhone (address : Value) : Searches strict (connectPhone address) := bind

instance connectPhones : Searches strict connectPhones := by
  refine of_calm.andThen fun s => ?_
  dsimp only
  split
  · exact of_calm.andThen fun addresses => forM fun address _ => connectPhone address
  · infer_instance

instance serials : Searches strict serials := of_calm.andThen fun _ => bind

instance findPhones : Searches strict findPhones := bind

instance loadPhones : Searches strict loadPhones := by
  refine get.andThen fun w => ?_
  dsimp only
  split
  · infer_instance
  · split <;> infer_instance

instance createWorkstation : Searches strict Workstation.create := bind

instance loadDesktop : Searches strict Platform.loadDesktop := bind

instance loadBrowsers : Searches strict Platform.loadBrowsers := by
  unfold Platform.loadBrowsers
  infer_instance

instance modifyPlatforms (f : Fleet → List Platform) : Searches False
    (modifyFleet fun fleet => { fleet with platforms := f fleet }) :=
  ⟨fun _ => ⟨fun _ _ => id, rfl, rfl, rfl, rfl, rfl, rfl, rfl, False.elim⟩⟩

instance loadPlatforms : Searches False loadPlatforms := by
  have loading : ∀ load ∈ loaders, Searches False load := by
    simp only [loaders, List.forall_mem_cons]
    exact ⟨loadPhones, loadDesktop, loadBrowsers, List.forall_mem_nil _⟩
  exact forM fun load mem =>
    (loading load mem).andThen fun _ => modifyPlatforms _

instance addBrowsers (shared : Path) (drivers : List (String × Path)) :
    Searches strict (Platform.addBrowsers shared drivers) := by
  induction drivers with
  | nil => exact ⟨.refl⟩
  | cons =>
    unfold Platform.addBrowsers
    infer_instance

instance refresh (p : Platform) : Searches strict p.refresh := by
  cases p <;> unfold Platform.refresh <;> infer_instance

instance refreshFrom (n : Nat) (platforms : List Platform) :
    Searches False (refreshFrom n platforms) := by
  induction platforms generalizing n with
  | nil => exact ⟨.refl⟩
  | cons => exact bind

instance fleet : Searches strict fleet := bind

instance listDevices : Searches False listDevices := bind

end Searches

/-- Loads the platforms and looks for the last device with a name. -/
def seek (name : Value) : Act (Option Nat) := do
  loadPlatforms
  let listed ← listDevices
  return (← fleet).last? name listed

theorem searches_seek (name : Value) : Searches False (seek name) := .bind

/-- What comes next has been performed if there is a value in the end. -/
theorem exists_of_perform_bind {first : Act α} {f : α → Act β} {v : β} {w w' : World}
    (reached : (first >>= f).perform w = (.ok v, w')) :
    ∃ middle w'', first.perform w = (.ok middle, w'') ∧ (f middle).perform w'' = (.ok v, w') := by
  rw [perform_act_bind] at reached
  rcases started : first.perform w with ⟨_ | middle, w''⟩ <;>
    rw [started] at reached
  · cases reached
  · exact ⟨middle, w'', rfl, reached⟩

end Act

/-! ## What a selection does -/

/-- The world with another device in use. -/
def World.using (w : World) (current : Option Nat) : World :=
  { w with fleet := { w.fleet with current } }

/-- The message that there is no device with a name that reads like this. -/
def missingNotice (shown : String) : Notice :=
  ⟨[.text ("尝试切换设备 " ++ shown ++ " 但它不存在")],
    [("title", .text "一个脚本执行错误"), ("severity", .text "error")]⟩

/-- What a selection comes to, and the world after it. -/
inductive Selects (canNotify : Bool) (name : Value) (w : World) :
    Except Failure Value → World → Prop
  /-- The search fails. -/
  | unsought {e : Failure} {after : World}
      (sought : (seek name).perform w = (.error e, after)) :
      Selects canNotify name w (.error e) after
  /-- A device is found, and is in use from now on. -/
  | found {id : Nat} {after : World}
      (sought : (seek name).perform w = (.ok (some id), after)) :
      Selects canNotify name w (.ok .none) (after.using (some id))
  /-- No device is found, but one is in use. -/
  | kept {id : Nat} {after : World} (sought : (seek name).perform w = (.ok none, after))
      (inUse : after.fleet.current = some id) : Selects canNotify name w (.ok .none) after
  /-- No device is found and none is in use, and the user is told so. -/
  | told {shown : String} {after : World}
      (sought : (seek name).perform w = (.ok none, after))
      (unused : after.fleet.current = none) (can : canNotify = true)
      (displayed : name.display = .ok shown) :
      Selects canNotify name w (.ok .none)
        { after with notices := after.notices.push (missingNotice shown) }
  /-- No device is found and none is in use, but the user cannot be told so. -/
  | untold {e : Failure} {after : World}
      (sought : (seek name).perform w = (.ok none, after))
      (unused : after.fleet.current = none)
      (cannot : canNotify = false ∨ ∀ shown, name.display ≠ .ok shown) :
      Selects canNotify name w (.error e) after

/-- Tells the user that there is no device with a name, unless a device is in use. -/
def reportMissing (canNotify : Bool) (name : Value) : Act Value := do
  if (← fleet).current.isNone then
    let s := "尝试切换设备 " ++ (← shown name) ++ " 但它不存在"
    if canNotify then
      notify [.text s]
        [("title", .text "一个脚本执行错误"), ("severity", .text "error")]
    else throw (.notCallable "NoneType")
  return .none

theorem selectDevice_eq (canNotify : Bool) (name : Value) :
    Library.selectDevice canNotify name = (do
      let found ← seek name
      modifyFleet fun fleet => { fleet with current := found.or fleet.current }
      reportMissing canNotify name) := by
  rw [Library.selectDevice, seek, selectDevice]
  simp only [bind_assoc]
  rfl

theorem perform_reportMissing_of_some (canNotify : Bool) (name : Value) {w : World} {id : Nat}
    (inUse : w.fleet.current = some id) :
    (reportMissing canNotify name).perform w = (.ok .none, w) := by
  rw [reportMissing]
  show perform (if w.fleet.current.isNone = true then _ else _) w = _
  rw [inUse]
  rfl

theorem perform_reportMissing_of_none (canNotify : Bool) (name : Value) {w : World}
    (unused : w.fleet.current = none) :
    (reportMissing canNotify name).perform w =
      match name.display with
      | .error e => (.error e, w)
      | .ok shown =>
        if canNotify then
          (.ok .none, { w with notices := w.notices.push (missingNotice shown) })
        else (.error (.notCallable "NoneType"), w) := by
  rw [reportMissing]
  show perform (if w.fleet.current.isNone = true then _ else _) w = _
  rw [unused, shown]
  cases name.display with
  | error => rfl
  | ok => cases canNotify <;> rfl

/-- Every selection comes to one of these ends. -/
theorem selects (canNotify : Bool) (name : Value) (w : World) :
    Selects canNotify name w ((Library.selectDevice canNotify name).perform w).1
      ((Library.selectDevice canNotify name).perform w).2 := by
  rcases sought : (seek name).perform w with ⟨_ | found, w'⟩
  · rw [selectDevice_eq, perform_act_bind, sought]
    exact .unsought sought
  · have reported : (Library.selectDevice canNotify name).perform w =
        (reportMissing canNotify name).perform (w'.using (found.or w'.fleet.current)) := by
      rw [selectDevice_eq, perform_act_bind, sought]
      rfl
    rw [reported]
    cases found with
    | some => exact .found sought
    | none =>
      show Selects _ _ _ ((reportMissing canNotify name).perform w').1
        ((reportMissing canNotify name).perform w').2
      cases inUse : w'.fleet.current with
      | some =>
        rw [perform_reportMissing_of_some canNotify name inUse]
        exact .kept sought inUse
      | none =>
        rw [perform_reportMissing_of_none canNotify name inUse]
        cases displayed : name.display with
        | error =>
          refine .untold sought inUse (.inr fun shown other => ?_)
          rw [displayed] at other
          cases other
        | ok =>
          cases canNotify with
          | false => exact .untold sought inUse (.inl rfl)
          | true => exact .told sought inUse rfl displayed

/-- The device that a search gives, if it gives one. -/
def Act.found? (name : Value) (w : World) : Option Nat :=
  ((seek name).perform w).1.toOption.join

section Selects

variable {canNotify : Bool} {name : Value} {w w' : World} {o : Except Failure Value}

/-- The device in use is the one that is found, if there is one. -/
theorem Selects.current (selects : Selects canNotify name w o w') :
    w'.fleet.current = (found? name w).or w.fleet.current := by
  have searched := (searches_seek name).searched w
  unfold found?
  cases selects with
  | unsought sought | kept sought | told sought | untold sought =>
    rw [sought] at searched ⊢
    exact searched.current
  | found sought =>
    rw [sought]
    rfl

/-- What scripts keep is the same, until the one that has selected takes the device in use. -/
theorem Selects.held (selects : Selects canNotify name w o w') : w'.fleet.held = w.fleet.held := by
  have searched := (searches_seek name).searched w
  cases selects with
  | unsought sought | found sought | kept sought | told sought | untold sought =>
    rw [sought] at searched
    exact searched.held

end Selects

/-! ## Telling devices apart -/

/-- A script that selects devices: a plain one with its number, or one in a session of Lua. -/
inductive Runtime (σ : Type) where
  | plain (script : Nat) (canNotify : Bool)
  | lua (host : Lua.Host σ) (lawful : host.Lawful)

namespace Runtime

variable {σ : Type}

/-- The user can be told something. -/
def canNotify : Runtime σ → Bool
  | plain _ canNotify => canNotify
  | lua host _ => host.canNotify

/-- Selects a device by its name. -/
def select : Runtime σ → Value → ActOn σ Value
  | plain script canNotify, name => ActOn.ofAct (Library.selectFor script canNotify name)
  | lua host _, name => host.select name

/-- The device in which the operations of the script are looked for: the one that a plain script
keeps, or the one in the session of a Lua script. -/
def handle : Runtime σ → σ → World → Option Lua.Handle
  | plain script _, _, w => (w.fleet.held script).map deviceMember?
  | lua host _, state, _ => (host.session state).device

end Runtime

/-- A selection, and what has happened in the world since the one before. -/
structure Selection (σ : Type) where
  runtime : Runtime σ
  name : Value
  meanwhile : World → World
  keeps : ∀ w, (meanwhile w).fleet.current = w.fleet.current

namespace Selection

variable {σ : Type}

/-- How a selection ends, and what it leaves behind. -/
def perform (selection : Selection σ) (state : σ) (w : World) :
    Except Failure Value × σ × World :=
  (selection.runtime.select selection.name).perform state (selection.meanwhile w)

end Selection

end DeviceScript
