import Mathlib
import DeviceScript.Proofs.Device.Access

-- No single module of the library reaches `Int.repr_injective`.

/-!
# Swipes

Where a swipe presses and where it lets go, beside the places it was asked for and those its answer
names. A phone hears of a swipe as a whole. On the desktop the pointer is moved, pressed, moved
again and released, and the second move keeps the height of the first place: such a swipe ends
where it should exactly if both places are drawn at one height. The outside may refuse any of this,
and the swipe ends there.
-/

namespace DeviceScript

open Act
open Execution (perform_ofExcept_ok_bind)

/-! ## Presses and releases -/

inductive Touch where
  | press (x y : Value)
  | release (x y : Value)

/-- Where a pointer that is at a place is pressed and released by requests. -/
def touches (x y : Value) : List Request → List Touch
  | [] => []
  | ⟨_, "moveTo", [x, y], _⟩ :: requests => touches x y requests
  | ⟨_, "mouseDown", [], _⟩ :: requests => .press x y :: touches x y requests
  | ⟨_, "mouseUp", [], _⟩ :: requests => .release x y :: touches x y requests
  | ⟨_, "swipe", [_, x1, y1, x2, y2, _], _⟩ :: requests =>
    .press x1 y1 :: .release x2 y2 :: touches x2 y2 requests
  | _ :: requests => touches x y requests

/-- Where a swipe begins and where it ends. -/
structure Course where
  fromX : Int
  fromY : Int
  toX : Int
  toY : Int

namespace Course

variable (course used : Course)

def Near (most : Nat) : Prop :=
  (used.fromX - course.fromX).natAbs ≤ most ∧ (used.fromY - course.fromY).natAbs ≤ most ∧
    (used.toX - course.toX).natAbs ≤ most ∧ (used.toY - course.toY).natAbs ≤ most

/-- All numbers of the course are short enough to be written. -/
def IsShort : Prop :=
  ∀ n ∈ [course.fromX, course.fromY, course.toX, course.toY],
    n.natAbs < Number.tenTo Number.digitLimit

/-- What is said of a swipe. -/
def words (caption : String) (time : Value) : Except Failure String := do
  return caption ++ (← wholeText course.fromX) ++ " " ++ (← wholeText course.fromY) ++ " => " ++
    (← wholeText course.toX) ++ " " ++ (← wholeText course.toY) ++ " 耗时 " ++ (← time.display)

end Course

/-! ## Places that are drawn -/

/-- A coordinate as it is drawn. -/
def landing (spread : Value) (n : Int) : StateM Chance Int := do
  if spread.truthy then
    let number ← modifyGet Chance.next
    return n + (-reach + number.fmod (2 * reach + 1))
  else return n

def Course.drawn (course : Course) (spread : Value) : StateM Chance Course :=
  return ⟨← landing spread course.fromX, ← landing spread course.fromY,
    ← landing spread course.toX, ← landing spread course.toY⟩

def mostAway (spread : Value) : Nat := if spread.truthy then reach.natAbs else 0

theorem landing_near (spread : Value) (n : Int) (dice : Chance) :
    ((landing spread n dice).1 - n).natAbs ≤ mostAway spread := by
  unfold mostAway landing
  split
  · have low := Int.fmod_nonneg_of_pos dice.next.1 (b := 11) (by decide)
    have high := Int.fmod_lt_of_pos dice.next.1 (b := 11) (by decide)
    change (n + (-5 + dice.next.1.fmod 11) - n).natAbs ≤ 5
    omega
  · change (n - n).natAbs ≤ 0
    omega

theorem perform_scatter (spread : Value) (n : Int) (w : World) :
    (scatter spread (.int n)).perform w =
      (.ok (.int (landing spread n w.dice).1), { w with dice := (landing spread n w.dice).2 }) := by
  unfold scatter landing
  split
  · rfl
  · change ((.ok (.int (n + 0)) : Except Failure Value), w) = (.ok (.int n), w)
    rw [Int.add_zero]

/-! ## What is said -/

section Words

variable {course used : Course} {caption s : String} {time : Value}

theorem wholeText_eq_ok_iff {n : Int} :
    wholeText n = .ok s ↔ n.natAbs < Number.tenTo Number.digitLimit ∧ toString n = s := by
  unfold wholeText
  split <;> simp_all

theorem words_eq_ok_iff : course.words caption time = .ok s ↔
    course.IsShort ∧ ∃ duration, time.display = .ok duration ∧
      caption ++ toString course.fromX ++ " " ++ toString course.fromY ++ " => " ++
        toString course.toX ++ " " ++ toString course.toY ++ " 耗时 " ++ duration = s := by
  simp only [Course.words, Course.IsShort, bind_eq_ok_iff, wholeText_eq_ok_iff, pure, Except.pure,
    Except.ok.injEq, and_assoc, exists_and_left, exists_eq_left', List.forall_mem_cons,
    List.not_mem_nil, false_imp_iff, implies_true, and_true]

/-- What is said tells where a swipe ends. -/
theorem toY_eq_of_words (said : course.words caption time = .ok s)
    (said' : used.words caption time = .ok s) (fromX : used.fromX = course.fromX)
    (fromY : used.fromY = course.fromY) (toX : used.toX = course.toX) : used.toY = course.toY := by
  obtain ⟨-, _, written, rfl⟩ := words_eq_ok_iff.mp said
  obtain ⟨-, _, written', texts⟩ := words_eq_ok_iff.mp said'
  cases written.symm.trans written'
  rw [fromX, fromY, toX, String.append_left_inj, String.append_left_inj,
    String.append_right_inj] at texts
  exact Int.repr_injective texts

theorem ofExcept_bind {α β : Type} (first : Except Failure α) (f : α → Except Failure β) :
    Act.ofExcept (first >>= f) = Act.ofExcept first >>= fun v => .ofExcept (f v) := by
  cases first <;> rfl

theorem words_tip (fromX fromY toX toY : Int) (caption : String) (time : Value) :
    (do tip (caption ++ (← shown (.int fromX)) ++ " " ++ (← shown (.int fromY)) ++ " => " ++
      (← shown (.int toX)) ++ " " ++ (← shown (.int toY)) ++ " 耗时 " ++ (← shown time)) :
      Act Value) = Act.ofExcept (Course.words ⟨fromX, fromY, toX, toY⟩ caption time) >>= tip := by
  simp only [Course.words, ofExcept_bind, bind_assoc]
  rfl

end Words

/-! ## Requests one after another -/

/-- Asks for one thing after another, until something is refused. -/
def Act.demandAll (asked : List Request) : Act Unit :=
  asked.forM fun request => demand request.channel request.verb request.arguments request.named

theorem demandAll_nil_bind {α : Type} (f : Unit → Act α) : demandAll [] >>= f = f () := rfl

theorem demandAll_cons_bind {α : Type} (request : Request) (asked : List Request)
    (f : Unit → Act α) : demandAll (request :: asked) >>= f = (do
      demand request.channel request.verb request.arguments request.named
      demandAll asked >>= f) := by
  rw [← bind_assoc]
  rfl

/-- The surroundings grant everything that is asked for. -/
def World.Grants (w : World) (asked : List Request) : Prop :=
  ∀ request ∈ asked, w.surroundings.refusal request = none

theorem requests_foldl_asking (asked : List Request) (w : World) :
    (asked.foldl World.asking w).requests.toList = w.requests.toList ++ asked := by
  induction asked generalizing w with
  | nil => exact (List.append_nil _).symm
  | cons _ _ ih => rw [List.foldl_cons, ih, World.asking, Array.toList_push, List.append_assoc]; rfl

/-- What is granted has been asked for, and nothing else has happened. -/
theorem perform_demandAll {asked : List Request} {w : World} (granted : w.Grants asked) :
    (demandAll asked).perform w = (.ok (), asked.foldl World.asking w) := by
  induction asked generalizing w with
  | nil => rfl
  | cons request rest ih =>
    obtain ⟨first, others⟩ := List.forall_mem_cons.mp granted
    have demanded := perform_demand request.channel request.verb request.arguments request.named
      w
    rw [first] at demanded
    exact (perform_bind_ok demanded).trans (ih others)

/-- What is not granted ends in a failure. -/
theorem perform_demandAll_refused {asked : List Request} {w : World} (refused : ¬ w.Grants asked) :
    ∃ e w', (demandAll asked).perform w = (.error e, w') := by
  induction asked generalizing w with
  | nil => exact absurd (List.forall_mem_nil _) refused
  | cons request rest ih =>
    have demanded := perform_demand request.channel request.verb request.arguments request.named
      w
    cases first : w.surroundings.refusal request with
    | some e =>
      rw [first] at demanded
      exact ⟨e, _, perform_bind_error demanded⟩
    | none =>
      rw [first] at demanded
      have others : ¬ (w.asking request).Grants rest := fun others =>
        refused (List.forall_mem_cons.mpr ⟨first, others⟩)
      obtain ⟨e, w', ended⟩ := ih others
      exact ⟨e, w', (perform_bind_ok demanded).trans ended⟩

/-! ## Devices that are swiped on -/

/-- A phone, or the pointer of the desktop as programs or games read it. -/
inductive Surface where
  | phone (phone : Phone)
  | pointer (channel : Channel) (workstation : Workstation)

namespace Surface

def device : Surface → Device
  | .phone handset => .phone handset
  | .pointer _ workstation => .workstation workstation

def channel : Surface → Channel
  | .phone _ => .phone
  | .pointer channel _ => channel

def spread : Surface → Value
  | .phone handset => handset.spread
  | .pointer _ workstation => workstation.spread

def caption : Surface → String
  | .phone handset => handset.label ++ " 滑动 "
  | .pointer .. => "Windows 鼠标滑动 "

def swipe (surface : Surface) (id : Nat) (course : Course) (time : Value) : Act Value :=
  (match surface with
    | .phone _ => Phone.swipe id
    | .pointer channel _ => Workstation.swipe channel id)
    (.int course.fromX) (.int course.fromY) (.int course.toX) (.int course.toY) time

/-- The device is pressed once, near the place asked for, and released once, near the other place
asked for, and the answer names just the two places used. -/
def Arrives (surface : Surface) (course : Course) (time : Value) (w : World)
    (ended : Except Failure Value × World) : Prop :=
  ∃ (used : Course) (asked : List Request) (serial : Nat) (s : String),
    ended.2.requests.toList = w.requests.toList ++ asked ∧
    (∀ request ∈ asked, request.channel = surface.channel) ∧
    (∀ x y, touches x y asked = [.press (.int used.fromX) (.int used.fromY),
      .release (.int used.toX) (.int used.toY)]) ∧
    course.Near used (mostAway surface.spread) ∧
    used.words surface.caption time = .ok s ∧ ended.1 = .ok (.tip serial s)

/-- What is asked for once the places are drawn; nothing if the time cannot be told. -/
def asks (drawn : Course) (time : Value) : Surface → Except Failure (List Request)
  | .phone handset => .ok [⟨.phone, "swipe", [.text handset.serial, .int drawn.fromX,
      .int drawn.fromY, .int drawn.toX, .int drawn.toY, time], []⟩]
  | .pointer channel _ => do
    let left := ("button", Value.text "left")
    let duration := ("duration", ← time.divide (.int 1000))
    return [⟨channel, "moveTo", [.int drawn.fromX, .int drawn.fromY], [duration]⟩,
      ⟨channel, "mouseDown", [], [left]⟩,
      ⟨channel, "moveTo", [.int drawn.toX, .int drawn.fromY], [duration]⟩,
      ⟨channel, "mouseUp", [], [left]⟩]

/-- The height at which a swipe really ends. -/
def height (drawn : Course) : Surface → Int
  | .phone _ => drawn.toY
  | .pointer .. => drawn.fromY

theorem touches_asks {surface : Surface} {drawn : Course} {time : Value} {asked : List Request}
    (asks : surface.asks drawn time = .ok asked) :
    (∀ request ∈ asked, request.channel = surface.channel) ∧
      ∀ x y, touches x y asked = [.press (.int drawn.fromX) (.int drawn.fromY),
        .release (.int drawn.toX) (.int (surface.height drawn))] := by
  cases surface with
  | phone =>
    cases asks
    exact ⟨by simp [channel], fun _ _ => rfl⟩
  | pointer =>
    obtain ⟨_, -, asks⟩ := bind_eq_ok_iff.mp asks
    cases asks
    exact ⟨by simp [channel], fun _ _ => rfl⟩

section Swiping

variable {surface : Surface} {world w : World} {id : Nat} {course drawn : Course} {dice : Chance}
  (at_ : w.fleet.devices[id]? = some surface.device)
  (drew : course.drawn surface.spread w.dice = (drawn, dice)) (time : Value)

include at_ drew

/-- Whatever it is done on, a swipe draws its places, asks for its touches and says so. -/
theorem perform_swipe : (surface.swipe id course time).perform w =
    (do
      demandAll (← Act.ofExcept (surface.asks drawn time))
      Act.ofExcept (drawn.words surface.caption time) >>= tip : Act Value).perform
      { w with dice } := by
  cases drew
  cases surface with
  | phone phone =>
    change w.fleet.devices[id]? = some (.phone phone) at at_
    change (Phone.swipe _ _ _ _ _ _).perform w = (Act.ofExcept (.ok _) >>= _).perform _
    rw [Phone.swipe, perform_bind_ok (Phone.perform_state at_)]
    iterate 4 rw [perform_bind_ok (perform_scatter ..)]
    rw [words_tip, perform_ofExcept_ok_bind, demandAll_cons_bind, demandAll_nil_bind]
    rfl
  | pointer channel workstation =>
    change w.fleet.devices[id]? = some (.workstation workstation) at at_
    change (Workstation.swipe _ _ _ _ _ _ _).perform w =
      (Act.ofExcept (time.divide (.int 1000) >>= _) >>= _).perform _
    rw [Workstation.swipe, perform_bind_ok (Workstation.perform_state at_)]
    iterate 4 rw [perform_bind_ok (perform_scatter ..)]
    rcases time.divide (.int 1000) with _ | _
    · rfl
    · change _ = (Act.ofExcept (.ok _) >>= _).perform _
      rw [words_tip, perform_ofExcept_ok_bind, perform_ofExcept_ok_bind]
      iterate 4 rw [demandAll_cons_bind]
      rw [demandAll_nil_bind]
      rfl

/-- What arrives has been asked for, granted and told, at the height at which it was to end. -/
theorem arrives_iff :
    surface.Arrives course time w ((surface.swipe id course time).perform w) ↔
      (∃ s, drawn.words surface.caption time = .ok s) ∧
        (∃ asked, surface.asks drawn time = .ok asked ∧ w.Grants asked) ∧
        surface.height drawn = drawn.toY := by
  rw [perform_swipe at_ drew]
  rcases asks : surface.asks drawn time with _ | asked
  · refine ⟨fun arrives => ?_, ?_⟩
    · obtain ⟨_, _, _, _, -, -, -, -, -, ⟨⟩⟩ := arrives
    · rintro ⟨-, ⟨_, ⟨⟩, -⟩, -⟩
  rw [perform_ofExcept_ok_bind]
  by_cases granted : World.Grants { w with dice } asked
  swap
  · obtain ⟨_, _, refused⟩ := perform_demandAll_refused granted
    rw [perform_bind_error refused]
    refine ⟨fun arrives => ?_, ?_⟩
    · obtain ⟨_, _, _, _, -, -, -, -, -, ⟨⟩⟩ := arrives
    · rintro ⟨-, ⟨_, ⟨⟩, granted'⟩, -⟩
      exact absurd granted' granted
  rw [perform_bind_ok (perform_demandAll granted)]
  rcases said : drawn.words surface.caption time with _ | s
  · refine ⟨fun arrives => ?_, ?_⟩
    · obtain ⟨_, _, _, _, -, -, -, -, -, ⟨⟩⟩ := arrives
    · rintro ⟨⟨_, ⟨⟩⟩, -⟩
  have requests := requests_foldl_asking asked { w with dice }
  obtain ⟨channels, touched⟩ := touches_asks asks
  constructor
  · rintro ⟨_, _, _, _, now, -, there, -, said', ⟨⟩⟩
    cases List.append_cancel_left (requests.symm.trans now)
    have places := (there .none .none).symm.trans (touched .none .none)
    simp only [List.cons.injEq, Touch.press.injEq, Touch.release.injEq, Value.int.injEq,
      and_true] at places
    obtain ⟨⟨fromX, fromY⟩, toX, toY⟩ := places
    exact ⟨⟨s, rfl⟩, ⟨_, rfl, granted⟩, toY.symm.trans (toY_eq_of_words said said' fromX fromY toX)⟩
  · rintro ⟨-, -, level⟩
    rw [level] at touched
    have near : course.Near (course.drawn surface.spread w.dice).1 (mostAway surface.spread) :=
      ⟨landing_near .., landing_near .., landing_near .., landing_near ..⟩
    rw [drew] at near
    exact ⟨drawn, asked, _, s, requests, channels, touched, near, said, rfl⟩

end Swiping

/-- A swipe arrives exactly if all that is to be said of it can be written, nothing that it asks for
is refused and, where a pointer is moved, its time can be told and both places are drawn at one
height. -/
theorem arrives_swipe_iff {surface : Surface} {world : World} {id : Nat}
    (at_ : world.fleet.devices[id]? = some surface.device) (course : Course) (time : Value) :
    let drawn := (course.drawn surface.spread world.dice).1
    surface.Arrives course time world ((surface.swipe id course time).perform world) ↔
      drawn.IsShort ∧ (∃ text, time.display = .ok text) ∧
        (∀ asked, surface.asks drawn time = .ok asked → world.Grants asked) ∧
        ∀ channel workstation, surface = .pointer channel workstation →
          drawn.fromY = drawn.toY ∧ ∃ duration, time.divide (.int 1000) = .ok duration := by
  intro drawn
  have sayable : (∃ text, drawn.words surface.caption time = .ok text) ↔
      drawn.IsShort ∧ ∃ text, time.display = .ok text := by
    simp [words_eq_ok_iff]
  rw [arrives_iff at_ Prod.mk.eta.symm, sayable, and_assoc]
  refine and_congr_right fun _ => and_congr_right fun _ => ?_
  cases surface with
  | phone =>
    constructor
    · rintro ⟨⟨_, ⟨⟩, granted⟩, -⟩
      exact ⟨fun _ same => (by cases same; exact granted), fun _ _ same => (by cases same)⟩
    · exact fun ⟨granted, _⟩ => ⟨⟨_, rfl, granted _ rfl⟩, rfl⟩
  | pointer channel workstation =>
    constructor
    · rintro ⟨⟨asked, asks, granted⟩, level⟩
      refine ⟨fun other same => ?_, ?_⟩
      · rw [asks] at same
        cases same
        exact granted
      · rintro _ _ ⟨⟩
        obtain ⟨duration, divided, -⟩ := bind_eq_ok_iff.mp asks
        exact ⟨level, duration, divided⟩
    · rintro ⟨granted, pointed⟩
      obtain ⟨level, duration, divided⟩ := pointed _ _ rfl
      obtain ⟨asked, asks⟩ : ∃ asked, (pointer channel workstation).asks drawn time = .ok asked :=
        ⟨_, bind_eq_ok_iff.mpr ⟨duration, divided, rfl⟩⟩
      exact ⟨⟨asked, asks, granted asked asks⟩, level⟩

/-- A desktop, and a world with no other device in which its places are drawn from numbers. -/
def desktop (spread : Bool) : Workstation := { (default : Workstation) with spread := .bool spread }

def withDesktop (spread : Bool) (numbers : List Int) : World :=
  { World.initial default with
    dice := ⟨numbers, 0⟩
    fleet := { Fleet.empty with devices := #[.workstation (desktop spread)] } }

/-- Places that are asked for at different heights can be drawn at one. -/
theorem arrives_swipe_drawn_level :
    let surface := pointer .game (desktop true)
    let world := withDesktop true [2, 7, 4, 3]
    world.fleet.devices[0]? = some surface.device ∧
      surface.Arrives ⟨1, 0, 2, 4⟩ (.float 1.5) world
        ((surface.swipe 0 ⟨1, 0, 2, 4⟩ (.float 1.5)).perform world) := by
  refine ⟨rfl, (arrives_swipe_iff rfl _ _).mpr ⟨?_, ⟨_, rfl⟩, fun _ _ _ _ => rfl, ?_⟩⟩
  · have grows : ∀ limit, limit ≠ 0 → 10 ≤ Number.tenTo limit :=
      fun limit positive => Nat.le_self_pow positive 10
    have digits : ∀ n ∈ ([-2, 2, 1, 2] : List Int), n.natAbs < 10 := by decide
    exact fun n member => Nat.lt_of_lt_of_le (digits n member) (grows _ (by decide))
  · rintro _ _ -
    exact ⟨rfl, _, rfl⟩

/-- A pointer that is to go down stays at its height. -/
theorem not_arrives_swipe_down :
    let surface := pointer .desktop (desktop false)
    let world := withDesktop false []
    ¬ surface.Arrives ⟨0, 0, 10, 100⟩ (.int 1000) world
      ((surface.swipe 0 ⟨0, 0, 10, 100⟩ (.int 1000)).perform world) := by
  intro surface world
  have reaches : world.fleet.devices[0]? = some surface.device := rfl
  rw [arrives_iff reaches rfl]
  rintro ⟨-, -, level⟩
  exact absurd level (by decide)

end Surface

end DeviceScript
