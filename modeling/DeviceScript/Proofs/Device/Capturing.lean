import DeviceScript.Proofs.Terminal.Starting
import DeviceScript.Terminal.DeviceList

/-!
# Pictures of screens

All devices take pictures in the same way: the screen is captured, and the picture is saved if there
is a place for it. They differ in what becomes of the picture. A browser hands out only a picture
that is saved, and remembers the last picture until there is another. The other devices hand out
every picture that has found its place, and forget the last one before they take another.

Main statement: what is answered and what is remembered after any pictures before, and that a test
of a device tells of a failure just if the picture is handed out (`screenshot_reported_iff`).
-/

namespace DeviceScript

open Act

/-- What becomes of a picture: the screen is not captured, or the picture has no place in a file, is
saved there, or cannot be saved. -/
inductive Shot where
  | missed
  | kept (x : Raster)
  | saved (x : Raster)
  | lost (x : Raster)

namespace Shot

/-- The picture that was captured. -/
def taken? : Shot → Option Raster
  | missed => none
  | kept x | saved x | lost x => some x

/-- The picture of a shot that has succeeded: it was captured, and saved if there is a place. -/
def success? : Shot → Option Raster
  | kept x | saved x => some x
  | missed | lost _ => none

end Shot

/-- Where a picture is saved, if it is. -/
def Settings.place? (s : Settings) (home : Path) (name : String) (wanted : Value) : Option Value :=
  if wanted.truthy then some wanted
  else if s.saveScreenshot then some (.path (home.append (Path.ofText (name ++ ".png"))))
  else none

namespace Device

/-- Takes a picture with a device of any type. -/
def screenshot (id : Nat) : Device → Value → Act Value
  | .phone _ => Phone.screenshot id
  | .workstation _ => Workstation.screenshot id
  | .browser _ => Browser.screenshot id

def isBrowser : Device → Bool
  | .browser _ => true
  | _ => false

/-- The name that a file gets if the settings ask for one. -/
def fileName : Device → Except Failure String
  | .workstation _ => .ok "windows"
  | d => d.name.display

/-- What the device can capture. -/
def screen? (surroundings : Surroundings) : Device → Option Raster
  | .phone _ => surroundings.phones.screen
  | .workstation _ => surroundings.desktop.screen
  | .browser state => if state.running.isSome then surroundings.web.screen else none

/-- The answer to a shot: a browser says nothing about a picture that it only keeps. -/
def answer (d : Device) (hint : Value) (n : Nat) : Shot → Value
  | .missed | .lost _ => hint
  | .kept x => if d.isBrowser then .none else .tuple [hint, .image ⟨n, none, .raster x⟩]
  | .saved x => .tuple [hint, .image ⟨n, none, .raster x⟩]

/-- What is remembered after a shot, and what before. -/
def remembered (d : Device) (old : ImageData) (shot : Shot) : ImageData :=
  shot.taken?.elim (if d.isBrowser then old else .bytes []) .raster

end Device

/-- What becomes of a picture of what can be captured, with its place in a file if it has one. -/
def World.shot (w : World) : Option Raster → Option Value → Shot
  | none, _ => .missed
  | some x, none => .kept x
  | some x, some target =>
    if ((savePicture target x).perform w).1.isOk then .saved x else .lost x

/-- What becomes of a picture that a device takes. -/
def Device.shoot (d : Device) (w : World) (s : Settings) (name : String) (wanted : Value) : Shot :=
  w.shot (d.screen? w.surroundings) (s.place? w.home name wanted)

/-- The device has the number, and it remembers the picture. -/
abbrev World.Holds (w : World) (id : Nat) (d : Device) (img : ImageData) : Prop :=
  w.fleet.devices[id]? = some (d.withShot img)

/-- An action has ended with the answer to a shot, and the device remembers the picture. -/
def Answered (id : Nat) (d : Device) (shot : Shot) (img : ImageData)
    (ended : Except Failure Value × World) : Prop :=
  (∃ k msg n, ended.1 = .ok (d.answer (.tip k msg) n shot)) ∧ ended.2.Holds id d img

variable {id : Nat} {d : Device} {w : World} {s : Settings} {img : ImageData} {x : Raster}
  {name text : String}

/-! ## Saving and handing out -/

theorem perform_pictureTarget (loaded : w.settings = some s) (name : String) (wanted : Value)
    (fleet : Fleet) : (pictureTarget name wanted).perform { w with fleet } =
      (.ok (s.place? w.home name wanted), { w with fleet }) := by
  have loaded' : ({ w with fleet } : World).settings = some s := loaded
  rw [pictureTarget, perform_bind_ok (perform_settings loaded' _), Settings.place?]
  split
  · rfl
  · split <;> rfl

/-- Saving looks at the files only. -/
theorem perform_savePicture (target : Value) (x : Raster) (w : World) (fleet : Fleet) :
    ∃ files, (savePicture target x).perform { w with fleet } =
      (((savePicture target x).perform w).1, { w with fleet, files }) := by
  have written (text : String) : ∃ files,
      (writeFile text (.picture x)).perform { w with fleet } =
        (((writeFile text (.picture x)).perform w).1, { w with fleet, files }) := by
    rw [writeFile, perform_get_bind, perform_get_bind, routeOf]
    split
    · exact ⟨w.files, rfl⟩
    · show ∃ files, (keepFiles _ (w.files.write (w.route text) _)).perform _ =
        (((keepFiles _ (w.files.write (w.route text) _)).perform w).1, _)
      rcases w.files.write (w.route text) (.picture x) with fault | files
      · exact ⟨w.files, rfl⟩
      · exact ⟨files, rfl⟩
  unfold savePicture
  split
  · exact written _
  · exact written _
  · exact ⟨w.files, rfl⟩

/-- What is saved has a name that can be shown. -/
theorem display_of_saved {target : Value}
    (saved : ((savePicture target x).perform w).1.isOk = true) :
    ∃ text, target.display = .ok text := by
  unfold savePicture at saved
  split at saved
  · exact ⟨_, rfl⟩
  · exact ⟨_, rfl⟩
  · cases saved

theorem perform_shown {v : Value} (spelled : v.display = .ok text) (w : World) :
    (shown v).perform w = (.ok text, w) := by
  rw [shown, spelled]
  rfl

theorem perform_lastShot (holds : w.Holds id d img) : (lastShot id).perform w =
    (.ok (.image ⟨w.serials, none, img⟩), { w with serials := w.serials + 1 }) := by
  have same : (d.withShot img).shot = img := by cases d <;> rfl
  rw [lastShot, perform_bind_ok (perform_deviceAt? holds), Option.map_some, same]
  rfl

theorem answered_handOut (holds : w.Holds id d (.raster x)) (msg : String) :
    Answered id d (.saved x) (.raster x) ((handOut id msg).perform w) := by
  have hinted : (tip msg).perform w =
    (.ok (.tip w.serials msg), { w with serials := w.serials + 1 }) := rfl
  have held : World.Holds { w with serials := w.serials + 1 } id d _ := holds
  rw [handOut, perform_bind_ok hinted, perform_bind_ok (perform_lastShot held)]
  exact ⟨⟨_, _, _, rfl⟩, holds⟩

theorem answered_tip (holds : w.Holds id d img) (msg : String) :
    Answered id d .missed img ((tip msg).perform w) :=
  ⟨⟨_, msg, 0, rfl⟩, holds⟩

theorem perform_setShot (holds : w.Holds id d img) (shot : ImageData) :
    ∃ fleet, (setShot id shot).perform w = (.ok (), { w with fleet }) ∧
      World.Holds { w with fleet } id d shot := by
  have changed : (d.withShot img).withShot shot = d.withShot shot := by cases d <;> rfl
  refine ⟨_, ?_, World.getElem?_withDevice holds (d.withShot shot)⟩
  rw [setShot, perform_bind_ok (perform_deviceAt? holds), ← changed]
  rfl

/-! ## Taking a picture -/

/-- A picture is taken: what is answered, and what the device remembers then. -/
theorem answered_takePicture {fleet : Fleet} (holds : World.Holds { w with fleet } id d img)
    (screen : Option Raster) (place : Option Value) (saved : String) (reason : Failure)
    {unsaved : Act Value} {failed : Failure → Act Value}
    (keeping : ∀ w x, w.Holds id d (.raster x) →
      Answered id d (.kept x) (.raster x) (unsaved.perform w))
    (failing : ∀ e w img, w.Holds id d img →
      Answered id d .missed img ((failed e).perform w)) :
    let shot := w.shot screen place
    Answered id d shot (shot.taken?.elim img .raster)
      ((takePicture id (screen.elim (.error reason) .ok) place saved unsaved failed).perform
        { w with fleet }) := by
  -- Nothing fails behind the saving, so a failure that is caught is one of the screen or the file.
  rw [takePicture, perform_bind_ok (perform_attempt (Prod.eta _).symm)]
  cases screen with
  | none => exact failing reason _ img holds
  | some x =>
    have read (w : World) : (Act.ofExcept (.ok x) : Act Raster).perform w = (.ok x, w) := rfl
    obtain ⟨marked, set, held⟩ : ∃ marked, (setShot id (.raster x)).perform
        { w with fleet } = (.ok (), { w with fleet := marked }) ∧ _ :=
      perform_setShot holds (.raster x)
    rw [Option.elim_some, perform_bind_ok (read _), perform_bind_ok set]
    cases place with
    | none =>
      obtain ⟨⟨k, msg, n, kept⟩, still⟩ := keeping _ x held
      dsimp only
      rw [kept]
      exact ⟨⟨k, msg, n, rfl⟩, still⟩
    | some target =>
      obtain ⟨files, written⟩ := perform_savePicture target x w marked
      have held' : World.Holds { w with fleet := marked, files } id d _ := held
      dsimp only [World.shot]
      cases saving : ((savePicture target x).perform w).1 with
      | error e =>
        rw [saving] at written
        rw [perform_bind_error written]
        exact failing e _ _ held'
      | ok _ =>
        rw [saving] at written
        obtain ⟨text, spelled⟩ := display_of_saved (by rw [saving]; rfl)
        obtain ⟨⟨k, msg, n, handed⟩, still⟩ := answered_handOut held' (saved ++ text)
        rw [perform_bind_ok written, perform_bind_ok (perform_shown spelled _), handed]
        exact ⟨⟨k, msg, n, rfl⟩, still⟩

/-- **A device answers every shot.** -/
theorem answered_screenshot (holds : w.Holds id d img) (named : d.fileName = .ok name)
    (loaded : w.settings = some s) (wanted : Value) :
    let shot := d.shoot w s name wanted
    Answered id d shot (d.remembered img shot) ((d.screenshot id wanted).perform w) := by
  have target := perform_pictureTarget loaded name wanted
  cases d with
  | phone phone =>
    obtain ⟨fleet, set, held⟩ := perform_setShot holds (.bytes [])
    have spelled : phone.name.display = .ok name := named
    rw [Device.screenshot, Phone.screenshot, perform_bind_ok (Phone.perform_state holds),
      perform_bind_ok set, perform_bind_ok (perform_shown spelled _),
      perform_bind_ok (target fleet)]
    exact answered_takePicture held _ _ _ _ (fun _ _ held => answered_handOut held _)
      fun _ _ _ held => answered_tip held _
  | workstation workstation =>
    obtain ⟨fleet, set, held⟩ := perform_setShot holds (.bytes [])
    cases named
    rw [Device.screenshot, Workstation.screenshot, perform_bind_ok set,
      perform_bind_ok (target fleet)]
    exact answered_takePicture held _ _ _ _ (fun _ _ held => answered_handOut held _)
      fun _ _ _ held => answered_tip held _
  | browser browser =>
    have spelled : browser.name.display = .ok name := named
    rw [Device.screenshot, Browser.screenshot, perform_bind_ok (Browser.perform_state holds),
      perform_bind_ok (perform_shown spelled _), perform_bind_ok (target w.fleet),
      perform_get_bind]
    have keeps (w : World) (x : Raster) (held : w.Holds id (.browser browser) (.raster x)) :
        Answered id (.browser browser) (.kept x) (.raster x)
          ((pure .none : Act Value).perform w) :=
      ⟨⟨0, "", 0, rfl⟩, held⟩
    have warns (msg : String) (w : World) (img : ImageData)
        (held : w.Holds id (.browser browser) img) : Answered id (.browser browser) .missed img
          ((do log .warning msg; tip msg : Act Value).perform w) := by
      refine ⟨⟨_, msg, 0, rfl⟩, ?_⟩
      show World.Holds (if _ then _ else _) _ _ _
      split
      · exact held
      · exact held
    rw [Device.shoot, Device.screen?]
    split
    · exact answered_takePicture holds _ _ _ _ keeps fun _ => warns _
    · exact answered_takePicture holds none _ _ _ keeps fun _ => warns _

/-! ## Many pictures -/

/-- What is remembered after some shots, the last one first. -/
def Device.remembers (d : Device) : List Shot → ImageData
  | [] => d.shot
  | shot :: earlier => d.remembered (d.remembers earlier) shot

/-- Pictures are taken with a device, the last one first, while nothing else changes the device. -/
inductive Session (id : Nat) (d : Device) (name : String) : List Shot → World → Prop
  | start {w : World} : w.fleet.devices[id]? = some d → Session id d name [] w
  | pause {shots : List Shot} {w w' : World} : Session id d name shots w →
      w'.fleet.devices[id]? = w.fleet.devices[id]? → Session id d name shots w'
  | shot {shots : List Shot} {w : World} {s : Settings} (wanted : Value) :
      Session id d name shots w → w.settings = some s →
      Session id d name (d.shoot w s name wanted :: shots)
        ((d.screenshot id wanted).perform w).2

theorem Session.holds (named : d.fileName = .ok name) {shots : List Shot}
    (session : Session id d name shots w) : w.Holds id d (d.remembers shots) := by
  induction session with
  | start at_ =>
    have same : d.withShot d.shot = d := by cases d <;> rfl
    rw [World.Holds, at_, Device.remembers, same]
  | pause _ same holds => rw [World.Holds, same, holds]
  | shot wanted _ loaded holds => exact (answered_screenshot holds named loaded wanted).2

/-! ## Tests of devices -/

variable {shot : Shot}

/-- How a test of a device ends, where its picture is to be saved: it tells of a failure if the
picture was saved, and else it fails itself. -/
def Shot.tests (shot : Shot) (text : String) (state : Terminal.State) (w : World) :
    Except Failure Unit × Terminal.State × World :=
  shot.success?.elim (.error (.noLength "Tip"), state, w) fun _ =>
    (.ok (), state, { w with
      notices := w.notices.push
        ⟨[.text ("设备 " ++ text ++ " 截图失败")], [Terminal.severity "error"]⟩ })

end DeviceScript
