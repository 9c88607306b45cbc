import DeviceScript.Proofs.Device.Access

/-!
# Opening pages

A browser is started when its first page is opened, and whether that has happened is told from the
pages that it keeps. A page is kept only after it has been loaded. So a start that fails is tried
again with the next page, and a browser that has been started but cannot load its page is left
behind: with the next page another one is started. Once there is a page no browser is started
again, but a page that is opened later is only written down: the browser is not asked to load it.

Main statement: how many browsers are started, and that at most one of them runs while every page
that is said to be opened has been loaded exactly if at most one visit starts a browser or is said
to go well (`opened_pages_loaded_iff`).
-/

namespace DeviceScript.Browser

open Act (Calm perform_bind_ok)

variable {id : Nat} {browser : Browser} {w : World}

/-! ## Starting a browser -/

/-- What becomes of the start of a browser. If it fails, the devices are as before, and nothing has
been asked for or what has been asked for is not possible. -/
inductive Launches (id : Nat) (browser : Browser) (w : World) :
    Except Failure Value × World → Prop
  | failed {e : Failure} {w' : World} (asked : List Request)
      (requests : w'.requests.toList = w.requests.toList ++ asked)
      (fleet : w'.fleet = w.fleet)
      (impossible : asked = [] ∨ w.surroundings.web.startError.isNone = false) :
      Launches id browser w (.error e, w')
  | started {w' : World} (name : String) (driver : Value)
      (requests : w'.requests.toList = w.requests.toList ++ [⟨.driver, name, [driver], []⟩])
      (possible : w.surroundings.web.startError.isNone = true)
      (surroundings : w'.surroundings = w.surroundings)
      (runs : w'.fleet.devices[id]? = some (.browser { browser with running := some [] })) :
      Launches id browser w (.ok .none, w')

theorem Launches.of_untouched {e : Failure} {w' : World} (same : w.Untouched w') :
    Launches id browser w (.error e, w') := by
  obtain ⟨_, _, rfl⟩ := same
  exact .failed [] (List.append_nil _).symm rfl (.inl rfl)

theorem launches (at_ : w.fleet.devices[id]? = some (.browser browser)) (driver : Path) :
    Launches id browser w ((launch id (.path driver)).perform w) := by
  have unstarted : ∀ e w', w.Untouched w' →
      Launches id browser w (.error e, w') := fun _ _ => .of_untouched
  rw [launch, perform_bind_ok (perform_state at_)]
  refine Calm.perform_bind (.refl w) unstarted fun name now same => ?_
  dsimp only
  -- Whichever way the driver is looked for, the browser is started in the same way after that.
  split <;> try split
  all_goals
    refine Calm.perform_bind same unstarted fun present now same => ?_
    split
    · refine Calm.perform_bind same unstarted fun _ now same => ?_
      refine Calm.perform_bind same unstarted fun shown now same => ?_
      obtain ⟨serials, records, rfl⟩ := same
      let start : Request := ⟨.driver, name, [.text (name ++ ":" ++ shown)], []⟩
      let asking : World := { w with serials, records, requests := w.requests.push start }
      have asked : (Act.request .driver name [.text (name ++ ":" ++ shown)] []).perform
        { w with serials, records } = (.ok (), asking) := rfl
      rw [perform_bind_ok asked, Act.perform_get_bind]
      cases possible : w.surroundings.web.startError with
      | some => exact .failed [start] Array.toList_push rfl (.inr (by rw [possible]; rfl))
      | none =>
        have at_' : asking.fleet.devices[id]? = some (.browser browser) := at_
        rw [perform_bind_ok (perform_modify at_' _)]
        exact .started name _ Array.toList_push (by rw [possible]; rfl) rfl
          (World.getElem?_withDevice at_' _)
    · exact unstarted _ _ same

/-! ## Visits -/

/-- A page to be opened, and what happens in the world before that. -/
structure Visit where
  url : String
  name : Option String
  meanwhile : World → World
  keeps : ∀ w, (meanwhile w).fleet = w.fleet

/-- What came of a visit: how it ended, what was asked of the outside, whether a browser could have
been started, and whether it was refused to load the page. -/
structure Opening where
  url : String
  outcome : Except Failure Value
  asked : List Request
  startable : Bool
  refused : Bool

namespace Opening

/-- The visit is said to have gone well. -/
def gaveTip (opening : Opening) : Bool :=
  match opening.outcome with
  | .ok (.tip ..) => true
  | _ => false

/-- The starts of browsers, as far as a browser could be started. -/
def starts (opening : Opening) : List Request :=
  if opening.startable then opening.asked.filter (·.channel = .driver) else []

/-- A browser has been started, but could not load the page. -/
def strands (opening : Opening) : Bool := opening.refused && !opening.starts.isEmpty

/-- How many times the page has been loaded. -/
def loads (opening : Opening) : Nat :=
  opening.asked.countP fun
    | ⟨.browser, "get", [.text url], []⟩ => url = opening.url
    | _ => false

end Opening

namespace Visit

/-- The request to load the page. -/
def load (visit : Visit) : Request := ⟨.browser, "get", [.text visit.url], []⟩

def perform (visit : Visit) (id : Nat) (w : World) : Except Failure Value × World :=
  (openPage id (.text visit.url) (visit.name.elim .none .text)).perform (visit.meanwhile w)

def opening (visit : Visit) (id : Nat) (w : World) : Opening where
  url := visit.url
  outcome := (visit.perform id w).1
  asked := (visit.perform id w).2.requests.toList.drop (visit.meanwhile w).requests.size
  startable := (visit.meanwhile w).surroundings.web.startError.isNone
  refused := ((visit.meanwhile w).surroundings.refusal visit.load).isSome

/-- Opens pages one after another, whether that fails or not. -/
def openAll (id : Nat) : List Visit → World → List Opening
  | [], _ => []
  | visit :: visits, w => visit.opening id w :: openAll id visits (visit.perform id w).2

/-- The browser that has the number keeps a page, or keeps none. -/
def Opened (opened : Bool) (id : Nat) (w : World) : Prop :=
  ∃ browser, w.fleet.devices[id]? = some (.browser browser) ∧ browser.pages.isEmpty = !opened

theorem isEmpty_insertEntry (key v : Value) (es : List (Value × Value)) :
    (Value.insertEntry key v es).isEmpty = false := by
  cases es with
  | nil => rfl
  | cons =>
    rw [Value.insertEntry]
    split <;> rfl

/-- Writing a page down asks for nothing. -/
theorem perform_keep (at_ : w.fleet.devices[id]? = some (.browser browser)) (url : String)
    {name : Value} (hashable : name.unhashable? = none) (s : String) :
    ∃ w', Act.perform (match name.unhashable? with
        | some found => throw (.unhashable found)
        | none => do
          modify id fun browser =>
            { browser with pages := Value.insertEntry name (.text url) browser.pages }
          Act.tip (s ++ (← Act.shown (.text url)))) w =
        (.ok (.tip w.serials (s ++ url)), w') ∧
      w'.requests = w.requests ∧ Opened true id w' := by
  rw [hashable]
  rw [perform_bind_ok (perform_modify at_ _)]
  exact ⟨_, rfl, rfl, _, World.getElem?_withDevice at_ _, isEmpty_insertEntry _ _ _⟩

theorem unhashable?_label (name : Option String) (url : String) :
    Value.unhashable? (let label := name.elim .none .text
      if label.truthy then label else .text url) = none := by
  cases name with
  | none => rfl
  | some =>
    dsimp only
    split <;> rfl

variable (visit : Visit)

theorem opening_eq {o : Except Failure Value} {w' : World} {asked : List Request}
    (ended : visit.perform id w = (o, w'))
    (requests : w'.requests.toList = (visit.meanwhile w).requests.toList ++ asked) :
    visit.opening id w = ⟨visit.url, o, asked,
      (visit.meanwhile w).surroundings.web.startError.isNone,
      ((visit.meanwhile w).surroundings.refusal visit.load).isSome⟩ := by
  rw [opening, ended]
  simp [requests]

/-- Where there is a page, the next one is only written down. -/
theorem opening_later (opened : Opened true id w) :
    (visit.opening id w).gaveTip = true ∧ (visit.opening id w).asked = [] ∧
      Opened true id (visit.perform id w).2 := by
  obtain ⟨_, at_, opened⟩ := opened
  rw [← visit.keeps] at at_
  obtain ⟨w', ended, asked, kept⟩ := perform_keep at_ visit.url
    (unhashable?_label visit.name visit.url) "新增标签页 "
  have ended : visit.perform id w = (.ok (.tip (visit.meanwhile w).serials
      ("新增标签页 " ++ visit.url)), w') := by
    rw [perform, openPage, perform_bind_ok (perform_state at_), opened]
    exact ended
  rw [visit.opening_eq ended (by rw [asked, List.append_nil]), ended]
  exact ⟨rfl, rfl, kept⟩

/-- Where there is no page, a browser is started and loads it, or none is started, or the one that
is started is left behind. -/
theorem opening_first (unopened : Opened false id w) :
    let opening := visit.opening id w
    let w' := (visit.perform id w).2
    opening.gaveTip = false ∧ opening.starts = [] ∧ Opened false id w' ∨
      opening.gaveTip = false ∧ opening.starts.length = 1 ∧ opening.refused = true ∧
        Opened false id w' ∨
      opening.gaveTip = true ∧ opening.starts.length = 1 ∧ opening.refused = false ∧
        opening.loads = 1 ∧ Opened true id w' := by
  obtain ⟨browser, at_, unopened⟩ := unopened
  rw [← visit.keeps] at at_
  rcases launched : (launch id (.path browser.driver)).perform (visit.meanwhile w) with
    ⟨o, w''⟩
  have launching := launches at_ browser.driver
  rw [launched] at launching
  cases launching with
  | @failed e _ asked requests fleet impossible =>
    have ended : visit.perform id w = (.error e, w'') := by
      rw [perform, openPage, perform_bind_ok (perform_state at_), unopened]
      exact (perform_bind_ok (perform_state at_)).trans (Act.perform_bind_error launched)
    rw [visit.opening_eq ended requests, ended]
    refine .inl ⟨rfl, ?_, browser, fleet ▸ at_, unopened⟩
    rcases impossible with rfl | impossible
    · exact ite_self []
    · exact if_neg (by simp [impossible])
  | started name driver requests possible surroundings runs =>
    have requests' : (w''.asking visit.load).requests.toList =
        (visit.meanwhile w).requests.toList ++ [⟨.driver, name, [driver], []⟩, visit.load] := by
      rw [World.asking, Array.toList_push, requests, List.append_assoc]
      rfl
    have demanded := Act.perform_demand .browser "get" [.text visit.url] [] w''
    change _ = ((w''.surroundings.refusal visit.load).elim _ _, w''.asking visit.load)
      at demanded
    rw [surroundings] at demanded
    cases refused : (visit.meanwhile w).surroundings.refusal visit.load with
    | some e =>
      rw [refused] at demanded
      have ended : visit.perform id w = (.error e, w''.asking visit.load) := by
        rw [perform, openPage, perform_bind_ok (perform_state at_), unopened]
        exact (perform_bind_ok (perform_state at_)).trans
          ((perform_bind_ok launched).trans (Act.perform_bind_error demanded))
      rw [visit.opening_eq ended requests', ended, possible, refused]
      exact .inr (.inl ⟨rfl, rfl, rfl, _, runs, unopened⟩)
    | none =>
      rw [refused] at demanded
      have at_' : (w''.asking visit.load).fleet.devices[id]? =
        some (.browser { browser with running := some [] }) := runs
      obtain ⟨last, kept, asked, opened⟩ := perform_keep at_' visit.url
        (unhashable?_label visit.name visit.url) "打开浏览器并访问 "
      have ended : visit.perform id w = (.ok (.tip w''.serials
          ("打开浏览器并访问 " ++ visit.url)), last) := by
        rw [perform, openPage, perform_bind_ok (perform_state at_), unopened]
        exact (perform_bind_ok (perform_state at_)).trans
          ((perform_bind_ok launched).trans ((perform_bind_ok demanded).trans kept))
      rw [visit.opening_eq ended (asked ▸ requests'), ended, possible, refused]
      exact .inr (.inr ⟨rfl, rfl, rfl, by simp [Opening.loads, load], opened⟩)

/-- Where there is a page, no browser is started again, and no page is loaded. -/
theorem openAll_later (visits : List Visit) {w : World} (opened : Opened true id w) :
    ∀ opening ∈ openAll id visits w,
      opening.gaveTip = true ∧ opening.starts = [] ∧ opening.loads = 0 := by
  induction visits generalizing w with
  | nil => exact List.forall_mem_nil _
  | cons visit _ ih =>
    obtain ⟨goesWell, quiet, kept⟩ := visit.opening_later opened
    refine List.forall_mem_cons.mpr ⟨⟨goesWell, ?_, ?_⟩, ih kept⟩
    · rw [Opening.starts, quiet]
      exact ite_self []
    · rw [Opening.loads, quiet]
      rfl

end Visit

open Visit (openAll)

/-- One browser is started for each page that a browser could not load, and one for the first page
that is said to be opened. That page is loaded, and later pages are not. -/
theorem starts_openAll (visits : List Visit) (unopened : Visit.Opened false id w) :
    let openings := openAll id visits w
    (openings.flatMap Opening.starts).length =
        openings.countP Opening.strands + min 1 (openings.countP Opening.gaveTip) ∧
      ((∀ opening ∈ openings, opening.gaveTip = true → opening.loads = 1) ↔
        openings.countP Opening.gaveTip ≤ 1) := by
  induction visits generalizing w with
  | nil => simp [openAll]
  | cons visit visits ih =>
    simp only [openAll, List.flatMap_cons, List.length_append, List.countP_cons,
      List.forall_mem_cons]
    rcases visit.opening_first unopened with ⟨fails, unstarted, unopened⟩ |
      ⟨fails, started, refused, unopened⟩ | ⟨goesWell, started, accepted, loaded, opened⟩
    · have rest := ih unopened
      simpa [Opening.strands, fails, unstarted] using rest
    · obtain ⟨count, loads⟩ := ih unopened
      have strands : (visit.opening id w).strands = true := by
        cases starts : (visit.opening id w).starts <;> simp_all [Opening.strands]
      refine ⟨?_, by simpa [fails] using loads⟩
      rw [started, count, strands, fails]
      simp only [if_true, Bool.false_eq_true, if_false]
      omega
    · have later := Visit.openAll_later visits opened
      have unstranded : (openAll id visits (visit.perform id w).2).countP Opening.strands = 0 :=
        List.countP_eq_zero.mpr fun opening inside => by
          simp [Opening.strands, (later opening inside).2.1]
      have unstarted : (openAll id visits (visit.perform id w).2).flatMap Opening.starts = [] :=
        List.flatMap_eq_nil_iff.mpr fun opening inside => (later opening inside).2.1
      have single : (visit.opening id w).strands = false := by simp [Opening.strands, accepted]
      rw [unstranded, unstarted, started, single, goesWell]
      refine ⟨by simp, ?_⟩
      cases others : openAll id visits (visit.perform id w).2 with
      | nil => simp [loaded]
      | cons opening =>
        obtain ⟨goesWell, -, unloaded⟩ := later opening (others ▸ List.mem_cons_self)
        simp [goesWell, unloaded]

/-- **Opened pages.** Let pages be opened one after another with a new browser, whatever happens in
between, as long as the devices stay as they are. One browser is started for each page that it is
then refused to load, and one more if some page is said to be opened; none of them is ever closed.
So no two browsers run and every page that is said to be opened has been loaded exactly once, if and
only if there is at most one page that cannot be loaded or is said to be opened. -/
theorem opened_pages_loaded_iff (visits : List Visit) {id : Nat} {world : World} {name : Value}
    {driver : Path} (isNew : world.fleet.devices[id]? = some (.browser (.create name driver))) :
    let openings := openAll id visits world
    (openings.flatMap Opening.starts).length =
        openings.countP Opening.strands + min 1 (openings.countP Opening.gaveTip) ∧
      ((openings.flatMap Opening.starts).length ≤ 1 ∧
          (∀ opening ∈ openings, opening.gaveTip = true → opening.loads = 1) ↔
        openings.countP Opening.strands + openings.countP Opening.gaveTip ≤ 1) := by
  obtain ⟨started, loaded⟩ := starts_openAll visits ⟨_, isNew, rfl⟩
  refine ⟨started, ?_⟩
  rw [loaded, started]
  omega

/-- A world with one browser, which has not been started and cannot load some pages. -/
def withOneBrowser (unreachable : List String) : World :=
  let refusal : Request → Option Failure := fun
    | ⟨.browser, "get", [.text url], _⟩ =>
      if url ∈ unreachable then some (.raised .runtime "unreachable") else none
    | _ => none
  { World.initial { Surroundings.bare with refusal } with
    fleet := { Fleet.empty with devices := #[.browser (.create (.text "Edge") Path.here)] } }

theorem isNew_withOneBrowser (unreachable : List String) :
    (withOneBrowser unreachable).fleet.devices[0]? =
      some (.browser (.create (.text "Edge") Path.here)) := rfl

def twoVisits : List Visit :=
  [⟨"http://a", none, fun w => w, fun _ => rfl⟩, ⟨"http://b", none, fun w => w, fun _ => rfl⟩]

/-- The first of two pages is loaded. If it cannot be, then a second browser is started. -/
theorem opened_pages_loaded_iff_onePage :
    (∀ opening ∈ openAll 0 (twoVisits.take 1) (withOneBrowser []),
      opening.gaveTip = true ∧ opening.loads = 1) ∧
    ((openAll 0 twoVisits (withOneBrowser ["http://a"])).flatMap Opening.starts).length = 2 := by
  have good := opened_pages_loaded_iff (twoVisits.take 1) (isNew_withOneBrowser [])
  have bad := opened_pages_loaded_iff twoVisits (isNew_withOneBrowser ["http://a"])
  have opened : ∀ opening ∈ openAll 0 (twoVisits.take 1) (withOneBrowser []),
      opening.gaveTip = true := by decide
  have loaded := (good.2.mpr (by decide)).2
  exact ⟨fun opening inside => ⟨opened opening inside, loaded opening inside (opened opening inside)⟩,
    bad.1.trans (by decide)⟩

/-- The second of two pages is said to be opened, but it is not loaded. -/
theorem second_page_is_not_loaded :
    (withOneBrowser []).fleet.devices[0]? =
        some (.browser (.create (.text "Edge") Path.here)) ∧
      (openAll 0 twoVisits (withOneBrowser [])).map (fun opening =>
        (opening.gaveTip, opening.loads)) = [(true, 1), (true, 0)] :=
  ⟨rfl, by decide⟩

end DeviceScript.Browser
