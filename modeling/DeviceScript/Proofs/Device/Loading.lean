import DeviceScript.Proofs.Device.Access
import DeviceScript.Proofs.Device.Selecting
import Mathlib.Data.List.Forall2
import Mathlib.Data.List.TakeWhile

/-!
# Loading platforms

The platforms are loaded one after another, and nothing is done about one that cannot be loaded: it
takes those behind it down as well. Phones come first. A phone that does not answer in time does no
harm to them, and neither does a port that is in use, but without a link to phones they cannot be
loaded.

Main statement: all platforms that can be loaded are there in the end, and nothing fails, exactly if
every platform can be loaded. In general those are there that stand in front of the first one that
cannot be loaded, and these are listed with their devices (`platforms_loaded_iff`).
-/

namespace DeviceScript

open Act List

/-! ## Actions that end well -/

/-- The action ends well exactly if it is possible, and then with the result. -/
inductive Act.Ends {α : Type} (act : Act α) (w : World) (result : α → World → Prop) :
    Bool → Prop
  | ok {v : α} {w' : World} (reached : act.perform w = (.ok v, w'))
      (holds : result v w') : Ends act w result true
  | error {e : Failure} {w' : World}
      (reached : act.perform w = (.error e, w')) : Ends act w result false

namespace Act.Ends

variable {α β : Type} {first : Act α} {next : α → Act β} {w other : World} {can can' : Bool}
  {res : α → World → Prop} {res' : β → World → Prop}

theorem of_perform_eq {act : Act α} (same : act.perform other = first.perform w)
    (ends : first.Ends w res can) : act.Ends other res can := by
  cases ends with
  | ok reached holds => exact .ok (same.trans reached) holds
  | error reached => exact .error (same.trans reached)

theorem imp {res' : α → World → Prop} (ends : first.Ends w res can)
    (implies : ∀ v w', res v w' → res' v w') : first.Ends w res' can := by
  cases ends with
  | ok reached holds => exact .ok reached (implies _ _ holds)
  | error reached => exact .error reached

theorem map {f : α → β} (ends : first.Ends w res can) (holds : ∀ v w', res v w' → res' (f v) w') :
    (first >>= fun v => pure (f v)).Ends w res' can := by
  cases ends with
  | ok reached held => exact .ok (perform_bind_ok reached) (holds _ _ held)
  | error reached => exact .error (perform_bind_error reached)

theorem searched {strict : Prop} [searches : Searches strict first]
    (from_ : World.Searched strict w other) (ends : first.Ends other res can) :
    first.Ends other (fun v w' => World.Searched strict w w' ∧ res v w') can := by
  have kept := from_.trans (searches.searched other)
  cases ends with
  | ok reached holds =>
    rw [reached] at kept
    exact .ok reached ⟨kept, holds⟩
  | error reached => exact .error reached

theorem ofExcept (o : Except Failure α) :
    (Act.ofExcept o).Ends w (fun v _ => o.toOption = some v) o.toOption.isSome := by
  cases o
  · exact .error rfl
  · exact .ok rfl rfl

variable (from_ : World.Searched False w other)

include from_

theorem bind [Searches False first] (before : first.Ends other res can)
    (rest : ∀ v w', World.Searched False w w' → res v w' → can = true →
      (next v).Ends w' res' can') :
    (first >>= next).Ends other res' (can && can') := by
  cases before.searched from_ with
  | error reached => exact .error (perform_bind_error reached)
  | ok reached held =>
    exact of_perform_eq (perform_bind_ok reached) (rest _ _ held.1 held.2 rfl)

theorem andThen [Searches False first] (before : first.Ends other res true)
    (rest : ∀ v w', World.Searched False w w' → res v w' →
      (next v).Ends w' res' can) : (first >>= next).Ends other res' can :=
  bind from_ before fun v w' kept holds _ => rest v w' kept holds

/-- What is read first may decide on what is possible next. -/
theorem bindAny [Searches False first] {read : Option α} {f : α → Bool}
    (before : first.Ends other (fun v _ => read = some v) read.isSome)
    (rest : ∀ v w', World.Searched False w w' → read = some v → (next v).Ends w' res' (f v)) :
    (first >>= next).Ends other res' (read.any f) := by
  cases read with
  | none =>
    cases before with
    | error reached => exact .error (perform_bind_error reached)
  | some v =>
    refine andThen from_ before fun other w' kept same => ?_
    cases same
    exact rest v w' kept rfl

theorem forM {f : α → Act PUnit} [∀ x, Searches False (f x)] {can : α → Bool}
    (each : ∀ x {now}, World.Searched False w now → (f x).Ends now (fun _ _ => True) (can x))
    (xs : List α) : (xs.forM f).Ends other (fun _ _ => True) (xs.all can) := by
  induction xs generalizing other with
  | nil => exact .ok rfl trivial
  | cons x xs ih => exact bind from_ (each x from_) fun _ _ kept _ _ => ih kept

theorem settings (mem : String) : (Act.settings mem).Ends other
    (fun settings _ => w.settings = some settings) w.settings.isSome := by
  rw [← from_.settings]
  cases loaded : other.settings with
  | some settings => exact .ok (perform_settings loaded mem) rfl
  | none =>
    have failed : ∃ e w', (Act.settings mem).perform other = (.error e, w') := by
      rw [Act.settings, settings?, bind_assoc, perform_get_bind, loaded]
      exact ⟨_, _, rfl⟩
    obtain ⟨_, _, reached⟩ := failed
    exact .error reached

theorem heed (request : Request) : (Act.heed request).Ends other (fun _ _ => True)
    (w.surroundings.refusal request).isNone := by
  have asked := perform_heed request other
  rw [from_.surroundings] at asked
  cases refused : w.surroundings.refusal request <;> rw [refused] at asked
  · exact .ok asked trivial
  · exact .error asked

end Act.Ends

/-! ## What platforms depend on -/

/-- Whether a phone answers at an address, if it can be tried. -/
def Surroundings.answer? (surroundings : Surroundings) (address : Value) : Option Bool :=
  match surroundings.refusal ⟨.phone, "connect", [address], [("timeout", .float 3.0)]⟩ with
  | none => some true
  | some e => if e.isLate then some false else none

/-- A phone answers at the address or does not answer in time, and that can be noted. -/
def Surroundings.canTry (surroundings : Surroundings) (address : Value) : Bool :=
  (surroundings.answer? address).any fun answered => address.display.toOption.any fun shown =>
    (Markup.strip (Platform.addressNote shown answered)).isOk

/-- Every address in the settings can be tried. -/
def Surroundings.canTryAll (surroundings : Surroundings) (s : Settings) : Bool :=
  !s.addresses.truthy || s.addresses.items.toOption.any (·.all surroundings.canTry)

/-- The phones at hand can be listed and noted. -/
def Surroundings.canList (surroundings : Surroundings) : Bool :=
  (surroundings.refusal ⟨.phone, "device_list", [], []⟩).isNone &&
    surroundings.phones.devices.all fun serial => (Markup.strip (Platform.phoneNote serial)).isOk

/-- Where the settings say that a driver is, if they do. -/
def World.driver? (w : World) (name : String) : Option Path :=
  w.settings.bind fun s => (s.driver name).toOption

/-- Where the drivers of the browsers are, if the settings say so for all of them. -/
def World.drivers? (w : World) : Option (List (String × Path)) :=
  (w.driver? "msedgedriver").bind fun edge => (w.driver? "chromedriver").bind fun chrome =>
    (w.driver? "geckodriver").map fun firefox =>
      [("Edge", edge), ("Chrome", chrome), ("Firefox", firefox)]

/-- Whether something stands where the path leads, if that can be found out. -/
def World.has? (w : World) (path : Path) : Option Bool :=
  ((pathExists path).perform w).1.toOption

/-- The sorts of platforms. -/
inductive Origin where
  | phones
  | desktop
  | browsers
  deriving DecidableEq

namespace Origin

/-- All sorts, in the order in which their platforms are loaded. -/
def all : List Origin := [phones, desktop, browsers]

def load : Origin → Act Platform
  | phones => Platform.loadPhones
  | desktop => Platform.loadDesktop
  | browsers => Platform.loadBrowsers

def title : Origin → String
  | phones => (Platform.phones []).title
  | desktop => (Platform.desktop []).title
  | browsers => (Platform.browsers default default default []).title

/-- A platform of the sort can be loaded. It matters neither which phones answer in time nor which
ports are in use. -/
def possible (w : World) : Origin → Bool
  | phones => w.surroundings.phones.linkError.isNone &&
      (w.settings.any w.surroundings.canTryAll && w.surroundings.canList)
  | desktop => w.surroundings.system ≠ "Windows" || w.settings.isSome
  | browsers => w.drivers?.isSome

/-- It can be found out which devices of the sort there are. -/
def listable (w : World) : Origin → Bool
  | browsers => (w.drivers?.getD []).all fun driver => (w.has? driver.2).isSome
  | _ => true

/-- The names of the devices of the sort. -/
def names (w : World) : Origin → List Value
  | phones => w.surroundings.phones.devices.map .text
  | desktop => if w.surroundings.system = "Windows" then [.text "Windows"] else []
  | browsers => ((w.drivers?.getD []).filter fun driver => w.has? driver.2 = some true).map
      fun driver => .text driver.1

end Origin

/-- The devices with the numbers have the names. -/
def Fleet.Named (fleet : Fleet) : List Nat → List Value → Prop :=
  List.Forall₂ fun id name => ∃ device, fleet.devices[id]? = some device ∧ device.name = name

theorem Fleet.Named.grow {w w' : World} {ids : List Nat} {names : List Value}
    (named : w.fleet.Named ids names) (grown : World.Searched False w w') :
    w'.fleet.Named ids names :=
  List.Forall₂.imp (fun id _ ⟨device, at_, name⟩ => ⟨device, grown.devices id device at_, name⟩)
    named

namespace Platform

def origin : Platform → Origin
  | .phones _ => .phones
  | .desktop _ => .desktop
  | .browsers .. => .browsers

theorem title_origin (p : Platform) : p.origin.title = p.title := by
  cases p <;> rfl

/-- The platform lists the devices of a sort. -/
def Lists (w : World) (origin : Origin) (p : Platform) (now : World) : Prop :=
  p.origin = origin ∧ now.fleet.Named p.devices (origin.names w)

/-- The platform will find the devices of a sort, if these can be found. -/
def Finds (w : World) (origin : Origin) (platform : Platform) (now : World) : Prop :=
  platform.origin = origin ∧ ∀ {later}, World.Searched False now later →
    platform.refresh.Ends later (Lists w origin) (origin.listable w)

variable {w other : World} (searched : World.Searched False w other)

include searched

/-! ## Phones -/

omit searched in
theorem ends_log (level : Level) (s : String) : (log level s).Ends w (fun _ _ => True) true :=
  .ok rfl trivial

omit searched in
theorem ends_logColored (level : Level) (s : String) :
    (logColored level s).Ends w (fun _ _ => True) (Markup.strip s).isOk := by
  rw [logColored]
  cases Markup.strip s
  · exact .error rfl
  · exact .ok rfl trivial

theorem ends_answers (address : Value) : (answers address).Ends other
    (fun answered _ => w.surroundings.answer? address = some answered)
    (w.surroundings.answer? address).isSome := by
  have asked := perform_attempt (perform_demand .phone "connect" [address]
    [("timeout", .float 3.0)] other)
  rw [searched.surroundings] at asked
  rw [answers, Surroundings.answer?]
  refine .of_perform_eq (perform_bind_ok asked) ?_
  cases w.surroundings.refusal _ with
  | none => exact .ok rfl rfl
  | some e =>
    dsimp only [Option.elim]
    cases e.isLate
    · exact .error rfl
    · exact .ok rfl rfl

theorem ends_connectPhone (address : Value) : (connectPhone address).Ends other (fun _ _ => True)
    (w.surroundings.canTry address) := by
  refine .bindAny searched (ends_answers searched address) fun answered _ kept _ => ?_
  exact .bindAny kept (.ofExcept _) fun shown _ _ _ => ends_logColored _ _

theorem ends_connectPhones : connectPhones.Ends other (fun _ _ => True)
    (w.settings.any w.surroundings.canTryAll) := by
  refine .bindAny searched (.settings searched _) fun s _ kept _ => ?_
  rw [Surroundings.canTryAll]
  dsimp only
  split <;> rename_i is
  · rw [is]
    exact .bindAny kept (.ofExcept _) fun addresses _ kept _ =>
      .forM kept (fun address _ kept => ends_connectPhone kept address) addresses
  · rw [Bool.eq_false_iff.mpr is]
    exact .ok rfl trivial

theorem ends_serials : serials.Ends other
    (fun found _ => found = w.surroundings.phones.devices)
    (w.surroundings.refusal ⟨.phone, "device_list", [], []⟩).isNone := by
  rw [← Bool.and_true (Option.isNone _)]
  exact .bind searched (.heed searched _) fun _ _ kept _ _ =>
    .ok rfl (congrArg (·.phones.devices) kept.surroundings)

omit searched in
theorem ends_addDevice (device : Device) : (addDevice device).Ends w
    (fun id w' => w'.fleet.devices[id]? = some device) true :=
  .ok rfl Array.getElem?_push_size

theorem ends_addPhones {note : String → Act Unit} {can : String → Bool}
    [∀ serial, Searches False (note serial)] (loaded : w.settings.isSome = true)
    (each : ∀ serial {now}, World.Searched False w now →
      (note serial).Ends now (fun _ _ => True) (can serial)) (serials : List String) :
    (addPhones note serials).Ends other
      (fun ids w' => w'.fleet.Named ids (serials.map .text)) (serials.all can) := by
  induction serials generalizing other with
  | nil => exact .ok rfl .nil
  | cons serial serials ih =>
    have created : (Phone.create serial).Ends other (fun phone _ => phone.name = .text serial)
        w.settings.isSome := .map (.settings searched _) fun _ _ _ => rfl
    rw [loaded] at created
    refine .andThen searched created fun phone w'' kept name => ?_
    refine .andThen kept (ends_addDevice (.phone phone)) fun id w'' kept at_ => ?_
    -- The new phone keeps its number in all that follows.
    refine .bind (.refl w'') (each serial kept) fun _ _ grown _ _ => ?_
    exact .map ((ih (kept.trans grown)).searched grown) fun ids w' ⟨grown, named⟩ =>
      .cons ⟨_, grown.devices _ _ at_, name⟩ named

theorem ends_findPhones : findPhones.Ends other (Finds w .phones)
    (w.settings.any w.surroundings.canTryAll && w.surroundings.canList) := by
  refine .bind searched (ends_connectPhones searched) fun _ w' kept _ canTry => ?_
  have loaded : w.settings.isSome = true := by
    cases given : w.settings with
    | none => rw [given] at canTry; cases canTry
    | some => rfl
  refine .bind kept (ends_serials kept) fun serials w' kept found canList => ?_
  subst found
  have finds : ∀ ids now, World.Searched False w now → Finds w .phones (.phones ids) now := by
    refine fun ids now kept => ⟨rfl, fun grown => ?_⟩
    have kept := kept.trans grown
    refine .andThen kept (canList ▸ ends_serials kept) fun serials _ kept found => ?_
    have added := ends_addPhones kept loaded (fun _ now _ =>
      (.ok rfl trivial : (pure () : Act Unit).Ends now (fun _ _ => True) true)) serials
    rw [all_eq_true.mpr fun _ _ => rfl, found] at added
    exact .map (found ▸ added) fun _ _ named => ⟨rfl, named⟩
  have added : ∀ {now}, World.Searched False w now →
      (addPhones (fun serial => logColored .debug (phoneNote serial))
        w.surroundings.phones.devices >>= fun ids => pure (Platform.phones ids)).Ends now
          (Finds w .phones) (w.surroundings.phones.devices.all fun serial =>
            (Markup.strip (phoneNote serial)).isOk) := fun kept =>
    .map ((ends_addPhones kept loaded (fun _ _ _ => ends_logColored _ _) _).searched kept)
      fun ids now ⟨kept, _⟩ => finds ids now kept
  dsimp only
  split
  · exact .andThen kept (ends_log _ _) fun _ _ kept _ => added kept
  · exact added kept

theorem ends_loadPhones : loadPhones.Ends other (Finds w .phones) (Origin.possible w .phones) := by
  refine .of_perform_eq (perform_get_bind _ _) ?_
  rw [Origin.possible, searched.surroundings]
  dsimp only
  cases w.surroundings.phones.linkError with
  | some => exact .error rfl
  | none =>
    have found : ∀ {now}, World.Searched False w now →
        (log .debug ("adbClient listening on port: " ++ toString w.surroundings.phones.port) >>=
          fun _ => findPhones).Ends now (Finds w .phones)
            (w.settings.any w.surroundings.canTryAll && w.surroundings.canList) :=
      fun kept => .andThen kept (ends_log _ _) fun _ _ kept _ => ends_findPhones kept
    dsimp only
    split
    · exact .andThen searched (ends_log _ _) fun _ _ kept _ => found kept
    · exact found searched

/-! ## The desktop and browsers -/

theorem ends_loadDesktop :
    loadDesktop.Ends other (Finds w .desktop) (Origin.possible w .desktop) := by
  have finds : ∀ {ids now}, now.fleet.Named ids (Origin.names w .desktop) →
      Finds w .desktop (.desktop ids) now :=
    fun named => ⟨rfl, fun grown => .ok rfl ⟨rfl, named.grow grown⟩⟩
  refine .of_perform_eq (perform_get_bind _ _) ?_
  rw [searched.surroundings, Origin.possible]
  rw [Origin.names] at finds
  split <;> rename_i windows
  · rw [if_pos windows] at finds
    rw [decide_eq_false (not_not.mpr windows), Bool.false_or, ← Bool.and_true (Option.isSome _)]
    have created : Workstation.create.Ends other (fun desktop _ => desktop.name = .text "Windows")
        w.settings.isSome := .map (.settings searched _) fun _ _ _ => rfl
    exact .bind searched created fun desktop _ _ name _ => .map (ends_addDevice _) fun id _ at_ =>
      finds (.cons ⟨_, at_, name⟩ .nil)
  · rw [if_neg windows] at finds
    rw [decide_eq_true windows]
    exact .ok rfl (finds .nil)

theorem ends_driver (name : String) :
    (settings "web_drivers" >>= fun settings => Act.ofExcept (settings.driver name)).Ends other
      (fun path _ => w.driver? name = some path) (w.driver? name).isSome := by
  rw [World.driver?, Option.isSome_bind]
  refine .bindAny searched (.settings searched _) fun settings _ _ loaded => ?_
  rw [loaded]
  exact .ofExcept _

theorem ends_pathExists (path : Path) : (pathExists path).Ends other
    (fun found _ => w.has? path = some found) (w.has? path).isSome := by
  have looked : ∀ w, (found path.render).perform w = (.ok _, w) := fun _ => rfl
  have same : ((pathExists path).perform other).1 = ((pathExists path).perform w).1 := by
    rw [pathExists, perform_bind_ok (looked _), perform_bind_ok (looked _), World.route,
      World.route, searched.files, searched.home]
    split <;> rfl
  rw [World.has?, ← same]
  rcases reached : (pathExists path).perform other with ⟨_ | found, w'⟩
  · exact .error reached
  · exact .ok reached rfl

theorem ends_addBrowsers (shared : Path) (drivers : List (String × Path)) :
    (addBrowsers shared drivers).Ends other (fun ids w' => w'.fleet.Named ids
      ((drivers.filter fun driver => w.has? driver.2 = some true).map fun driver =>
        .text driver.1)) (drivers.all fun driver => (w.has? driver.2).isSome) := by
  induction drivers generalizing other with
  | nil => exact .ok rfl .nil
  | cons driver drivers ih =>
    rw [filter_cons]
    refine .bind searched (ends_pathExists searched _) fun there _ kept found _ => ?_
    rw [found]
    cases there with
    | false => exact ih kept
    | true =>
      refine .andThen kept (ends_addDevice _) fun id w'' kept at_ => ?_
      exact .map ((ih kept).searched (.refl w'' : World.Searched False _ _))
        fun ids w' ⟨grown, named⟩ => .cons ⟨_, grown.devices _ _ at_, rfl⟩ named

theorem ends_loadBrowsers :
    loadBrowsers.Ends other (Finds w .browsers) (Origin.possible w .browsers) := by
  rw [Origin.possible, World.drivers?, Option.isSome_bind]
  refine .bindAny searched (ends_driver searched _) fun edge _ kept isEdge => ?_
  rw [Option.isSome_bind]
  refine .bindAny kept (ends_driver kept _) fun chrome _ kept isChrome => ?_
  rw [Option.isSome_map]
  refine .map ((ends_driver kept _).searched kept) fun firefox now ⟨kept, isFirefox⟩ =>
    ⟨rfl, fun grown => ?_⟩
  have drivers : w.drivers? = some [("Edge", edge), ("Chrome", chrome), ("Firefox", firefox)] := by
    rw [World.drivers?, isEdge, isChrome, isFirefox]
    rfl
  unfold Lists Origin.listable Origin.names
  rw [drivers]
  exact .map (ends_addBrowsers (kept.trans grown) _ _) fun _ _ named => ⟨rfl, named⟩

/-! ## Loading and listing -/

theorem ends_load (origin : Origin) :
    origin.load.Ends other (Finds w origin) (origin.possible w) := by
  cases origin with
  | phones => exact ends_loadPhones searched
  | desktop => exact ends_loadDesktop searched
  | browsers => exact ends_loadBrowsers searched

omit searched in
instance searches_load {strict : Prop} (origin : Origin) : Searches strict origin.load := by
  cases origin
  · exact Searches.loadPhones
  · exact Searches.loadDesktop
  · exact Searches.loadBrowsers

omit searched in
theorem Finds.later {origin : Origin} {p : Platform} {now : World} (finds : Finds w origin p other)
    (grown : World.Searched False other now) : Finds w origin p now :=
  ⟨finds.1, fun later => finds.2 (grown.trans later)⟩

/-- Loads a platform and puts it behind those that have been loaded before. -/
def add (load : Act Platform) : Act Unit := do
  let p ← load
  modifyFleet fun fleet => { fleet with platforms := fleet.platforms ++ [p] }

theorem perform_forM_add (origins : List Origin) :
    ∃ made o w', ((origins.map Origin.load).forM add).perform other = (o, w') ∧
      World.Searched False other w' ∧
      w'.fleet.platforms = other.fleet.platforms ++ made ∧
      List.Forall₂ (fun origin p => Finds w origin p w')
        (origins.takeWhile (Origin.possible w)) made ∧
      o.isOk = origins.all (Origin.possible w) := by
  induction origins generalizing other with
  | nil => exact ⟨[], _, _, rfl, .refl other, (append_nil _).symm, .nil, rfl⟩
  | cons origin origins ih =>
    have kept := (searches_load origin : Searches True _).searched other
    have loads := ends_load searched origin
    rw [takeWhile_cons, all_cons]
    cases can : origin.possible w <;> rw [can] at loads
    · cases loads with
      | error reached =>
        rw [reached] at kept
        refine ⟨[], _, _, perform_bind_error (perform_bind_error reached), kept.loose, ?_, .nil,
          rfl⟩
        rw [kept.platforms trivial, append_nil]
    · cases loads with
      | @ok p w'' reached finds =>
        rw [reached] at kept
        have ended : (add origin.load).perform other = (.ok (), _) := perform_bind_ok reached
        have added := (Searches.modifyPlatforms (·.platforms ++ [p])).searched w''
        obtain ⟨made, o, w', done, grown, platforms, found, ends⟩ :=
          ih (searched.trans (kept.loose.trans added))
        have grown := added.trans grown
        refine ⟨p :: made, o, w', (perform_bind_ok ended).trans done,
          kept.loose.trans grown, ?_, .cons (finds.later grown) found, ends⟩
        rw [platforms]
        exact (congrArg (· ++ [p] ++ made) (kept.platforms trivial)).trans
          (append_assoc _ _ _)

theorem ends_refreshFrom {origins : List Origin} {platforms done : List Platform}
    (finds : List.Forall₂ (fun origin p => Finds w origin p other) origins platforms)
    (at_ : other.fleet.platforms = done ++ platforms) :
    (refreshFrom done.length platforms).Ends other (fun _ w' => ∃ found,
      w'.fleet.platforms = done ++ found ∧
        List.Forall₂ (fun origin p => Lists w origin p w') origins found)
      (origins.all (Origin.listable w)) := by
  induction platforms generalizing origins other done with
  | nil =>
    cases finds
    exact .ok rfl ⟨[], at_, .nil⟩
  | cons p platforms ih =>
    cases finds with
    | cons first rest =>
      have refreshed := (first.2 (.refl other)).searched (.refl other : World.Searched True _ _)
      refine .bind searched refreshed fun found w'' _ ⟨kept, origin, named⟩ _ => ?_
      have set := (Searches.modifyPlatforms (·.platforms.set done.length found)).searched w''
      have grown := kept.loose.trans set
      have placed :
          w''.fleet.platforms.set done.length found = done ++ [found] ++ platforms := by
        rw [kept.platforms trivial, at_]
        simp
      have others := ih (searched.trans grown) (rest.imp fun _ _ finds => finds.later grown) placed
      rw [length_append] at others
      refine .of_perform_eq (perform_bind_ok rfl)
        ((others.searched (.refl _ : World.Searched False _ _)).imp ?_)
      rintro - w' ⟨later, others, platforms, listed⟩
      rw [append_assoc] at platforms
      exact ⟨found :: others, platforms, .cons ⟨origin, (named.grow set).grow later⟩ listed⟩

omit searched

theorem putTitle_of_notMem {title : String} {es : List (String × List Nat)}
    (new : title ∉ es.map Prod.fst) (ids : List Nat) :
    putTitle title ids es = es ++ [(title, ids)] := by
  induction es with
  | nil => rfl
  | cons e es ih =>
    rw [map_cons, mem_cons, not_or] at new
    rw [putTitle, if_neg (Ne.symm new.1), ih new.2]
    rfl

/-- Platforms with titles of their own are listed as they are. -/
theorem listed_eq {fleet : Fleet} (distinct : (fleet.platforms.map title).Nodup) :
    fleet.listed = fleet.platforms.map fun p => (p.title, p.devices) := by
  have listed : ∀ (platforms : List Platform) (es : List (String × List Nat)),
      (es.map Prod.fst ++ platforms.map title).Nodup →
      platforms.foldl (fun es p => putTitle p.title p.devices es)
        es = es ++ platforms.map fun p => (p.title, p.devices) := by
    intro platforms
    induction platforms with
    | nil => exact fun es _ => (append_nil es).symm
    | cons p platforms ih =>
      intro es distinct
      have new : p.title ∉ es.map Prod.fst := fun mem =>
        (nodup_append.mp distinct).2.2 _ mem _ mem_cons_self rfl
      rw [foldl_cons, putTitle_of_notMem new, ih, append_assoc]
      · rfl
      · rwa [map_append, append_assoc]
  exact listed _ [] distinct

/-- Lists are mapped to the same list if their items are, one by one. -/
theorem map_eq_map_of_forall₂ {α β γ : Type} {f : α → γ} {g : β → γ} {first : List α}
    {second : List β} (same : List.Forall₂ (fun one other => f one = g other) first second) :
    first.map f = second.map g := by
  rw [← forall₂_eq_eq_eq]
  exact forall₂_map_left_iff.mpr (forall₂_map_right_iff.mpr same)

theorem map_nameOf {fleet : Fleet} {ids : List Nat} {names : List Value}
    (named : fleet.Named ids names) : ids.map fleet.nameOf = names := by
  rw [← map_id names]
  refine map_eq_map_of_forall₂ (List.Forall₂.imp (fun id name ⟨device, at_, is⟩ => ?_) named)
  rw [Fleet.nameOf, at_, ← is]
  rfl

theorem ends_deviceNames {origins : List Origin} (distinct : (origins.map Origin.title).Nodup)
    (searched : World.Searched False w other)
    (finds : List.Forall₂ (fun origin p => Finds w origin p other) origins
      other.fleet.platforms) :
    deviceNames.Ends other (fun v _ => v =
      .dict (origins.map fun origin => (.text origin.title, .list (origin.names w))))
      (origins.all (Origin.listable w)) := by
  have lists : listDevices.Ends other (fun listed w' =>
      (listed.map fun e => (Value.text e.1, Value.list (e.2.map w'.fleet.nameOf))) =
        origins.map fun origin => (.text origin.title, .list (origin.names w)))
      (origins.all (Origin.listable w)) := by
    have asked : ∀ now, fleet.perform now = (.ok now.fleet, now) := fun _ => rfl
    refine .of_perform_eq (perform_bind_ok (asked other)) ?_
    rw [← Bool.and_true (origins.all _)]
    have refreshed := ends_refreshFrom searched finds (nil_append _).symm
    refine .bind searched refreshed fun _ w' _ found _ => ?_
    obtain ⟨found, platforms, lists⟩ := found
    refine .ok (perform_bind_ok (asked w')) ?_
    have titles : found.map title = origins.map Origin.title :=
      (map_eq_map_of_forall₂ (lists.imp fun _ _ both => both.1 ▸ title_origin _)).symm
    rw [listed_eq (platforms ▸ titles ▸ distinct), platforms, nil_append, map_map]
    refine (map_eq_map_of_forall₂ (lists.imp fun origin p both => ?_)).symm
    obtain ⟨sort, named⟩ := both
    rw [← sort, title_origin, sort, ← map_nameOf named]
    rfl
  rw [← Bool.and_true (origins.all _)]
  exact .bind searched lists fun listed w' _ same _ => .ok rfl (congrArg Value.dict same)

/-- **Loading platforms.** Nothing fails and every platform that can be loaded is there in the end,
exactly if all of them can be loaded. In general those are there that stand in front of the first
one that cannot be loaded. If there was none before, they are listed with the names of their
devices, unless it cannot be found out which drivers of browsers there are. -/
theorem platforms_loaded_iff (world : World) :
    ∃ made outcome after, loadPlatforms.perform world = (outcome, after) ∧
      after.fleet.platforms = world.fleet.platforms ++ made ∧
      made.map origin = Origin.all.takeWhile (Origin.possible world) ∧
      (outcome.isOk = true ∧ made.map origin = Origin.all.filter (Origin.possible world) ↔
        ∀ origin, Origin.possible world origin = true) ∧
      (world.fleet.platforms = [] → (deviceNames.perform after).1.toOption =
        if (made.map origin).all (Origin.listable world) then
          some (.dict ((made.map origin).map fun origin =>
            (.text origin.title, .list (origin.names world))))
        else none) := by
  obtain ⟨made, outcome, after, loaded, searched, platforms, finds, ends⟩ :=
    perform_forM_add (.refl world) Origin.all
  have origins : made.map origin = Origin.all.takeWhile (Origin.possible world) := by
    rw [← map_id (takeWhile _ _)]
    exact (map_eq_map_of_forall₂ (finds.imp fun _ _ finds => finds.1.symm)).symm
  refine ⟨made, outcome, after, loaded, platforms, origins, ?_, fun none => ?_⟩
  · have all : ∀ origin, origin ∈ Origin.all := by rintro (_ | _ | _) <;> decide
    rw [ends, all_eq_true, origins]
    refine ⟨fun both origin => both.1 origin (all origin),
      fun can => ⟨fun origin _ => can origin, ?_⟩⟩
    rw [filter_eq_self.mpr fun origin _ => can origin,
      takeWhile_eq_self_iff.mpr fun origin _ => can origin]
  · rw [none, nil_append] at platforms
    rw [← platforms] at finds
    have listed := ends_deviceNames (((takeWhile_sublist _).map _).nodup (by decide)) searched finds
    rw [origins]
    cases can : (Origin.all.takeWhile (Origin.possible world)).all (Origin.listable world) <;>
      rw [can] at listed
    · cases listed with | error reached => rw [reached]; rfl
    · cases listed with | ok reached same => rw [reached, same]; rfl

/-- A desktop, and phones that the program can get at or not. -/
def desk (linkError : Option String) : World :=
  let phones := { Phones.absent with linkError }
  { World.initial { Surroundings.bare with phones, system := "Windows" } with
    settings := some Settings.initial }

/-- Without a link to phones, the desktop is not there either. -/
theorem desktop_is_lost_with_phones :
    Origin.possible (desk (some "")) .desktop = true ∧
      (loadPlatforms.perform (desk (some ""))).2.fleet.platforms.length = 0 ∧
      (loadPlatforms.perform (desk none)).2.fleet.platforms.length = 3 := by
  decide +kernel

end Platform

end DeviceScript
