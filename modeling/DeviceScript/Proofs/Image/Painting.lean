import Mathlib.Tactic.Linarith
import DeviceScript.Image.Opening

/-!
# Painted rectangles

A rectangle that is filled with a colour keeps the name, the mode and the size of a picture and all
pixels around it. Painting turns the colour into a pixel of the mode, while looking compares the
pixel with the three channels of the colour. So what is painted is seen in pictures of three
channels, and nowhere in pictures in grey or with opacity (`fill_color_shows_iff`).
-/

namespace DeviceScript

open Number Text

/-! ## Places -/

/-- The place lies in the rectangle, borders included. -/
abbrev InRectangle (left upper right lower : Int) (x y : Nat) : Prop :=
  left ≤ x ∧ (x : Int) ≤ right ∧ upper ≤ y ∧ (y : Int) ≤ lower

namespace Raster

variable {raster : Raster} {x y : Nat}

/-- The place lies in the picture. -/
def Has (raster : Raster) (x y : Nat) : Prop := x < raster.width ∧ y < raster.height

theorem pixel_fill (has : raster.Has x y) (left upper right lower : Int) (pixel : List Nat) :
    (raster.fill left upper right lower pixel).pixel x y =
      if InRectangle left upper right lower x y then pixel else raster.pixel x y := by
  have inside : y * raster.width + x < raster.width * raster.height := by
    obtain ⟨_, _⟩ := has
    nlinarith
  have place : (y * raster.width + x) % raster.width = x ∧
      (y * raster.width + x) / raster.width = y := by
    rw [Nat.mul_comm, Nat.mul_add_mod, Nat.mod_eq_of_lt has.1,
      Nat.mul_add_div (Nat.zero_lt_of_lt has.1), Nat.div_eq_of_lt has.1]
    simp
  rw [Raster.pixel, fill, tabulate, Array.getElem?_ofFn, dif_pos inside, Option.getD_some]
  dsimp only
  rw [place.1, place.2]

theorem coordinate?_of_lt {size n : Nat} (inside : n < size) : coordinate? size n = some n := by
  simp only [coordinate?, if_neg (Int.not_lt.mpr n.cast_nonneg)]
  simp [inside]

/-- No side of the picture is longer than the numbers of a word reach. -/
def IsSmall (raster : Raster) : Prop := raster.width ≤ 2 ^ 31 ∧ raster.height ≤ 2 ^ 31

theorem pixelAt_of_has (small : raster.IsSmall) (has : raster.Has x y) :
    Image.pixelAt raster (.int x) (.int y) = .ok (raster.pixel x y) := by
  have coordinate : ∀ {n size : Nat}, size ≤ 2 ^ 31 → n < size →
      Image.pixelCoordinate (.int n) = .ok (some n) := by
    intro n size few inside
    have fit : fits 64 n = true ∧ wrapped 32 n = n := by
      have words : twoTo 63 = 2 ^ 63 ∧ twoTo 32 = 2 ^ 32 := by decide
      rw [fits, wrapped, words.1, words.2]
      exact ⟨by simp; omega, Int.bmod_eq_of_le (by omega) (by omega)⟩
    change Except.ok (if fits 64 n then some (wrapped 32 n) else none) = _
    rw [if_pos fit.1, fit.2]
  rw [Image.pixelAt, coordinate small.1 has.1, coordinate small.2 has.2]
  simp [bind, Except.bind, coordinate?_of_lt has.1, coordinate?_of_lt has.2, pure, Except.pure]

end Raster

/-! ## Colours in hexadecimal digits -/

def hexDigits : List Char := "0123456789abcdefABCDEF".toList

/-- A number sign in front of six hexadecimal digits. -/
def IsHexColor (color : String) : Prop :=
  ∃ digits : List Char, color = String.ofList ('#' :: digits) ∧ digits.length = 6 ∧
    digits.all (· ∈ hexDigits) = true

theorem lowerAfter_eq_map {s : List Char} (plain : ∀ c ∈ s, c.toNat < 128)
    (before : List Char) : lowerAfter before s = s.map Char.toLower := by
  induction s generalizing before with
  | nil => rfl
  | cons c s ih =>
    rw [List.forall_mem_cons] at plain
    have first : c ≠ 'İ' ∧ c ≠ 'Σ' := by
      constructor <;> rintro rfl <;> exact absurd plain.1 (by decide)
    simp [lowerAfter, first, lowerChar, plain.1, ih plain.2]

theorem lookup_named_hex (rest : List Char) :
    Color.named.lookup (String.ofList ('#' :: rest)) = none := by
  have heads : Color.named.all (·.1.toList.head? != some '#') = true := by decide +kernel
  rw [List.lookup_eq_none_iff]
  intro e mem
  rw [bne_iff_ne]
  intro same
  have head := List.all_eq_true.mp heads e mem
  rw [← same, String.toList_ofList] at head
  cases head

/-- A channel that fits into a byte. -/
def IsByte (n : Int) : Prop := 0 ≤ n ∧ n < 256

theorem read_of_isHexColor {color : String} (hex : IsHexColor color) :
    ∃ red green blue, IsByte red ∧ IsByte green ∧ IsByte blue ∧
      Color.read color = .ok [red, green, blue] := by
  obtain ⟨digits, rfl, six, hex⟩ := hex
  have facts : ∀ c ∈ digits, c.toNat < 128 ∧ c.toLower ≠ '\n' ∧
      ∃ n, Color.hexValue? c.toLower = some n ∧ n < 16 := by
    have table : hexDigits.all (fun c => c.toNat < 128 && (c.toLower != '\n' &&
        (Color.hexValue? c.toLower).any (· < 16))) = true := by decide
    intro c mem
    have fact := List.all_eq_true.mp table c
      (of_decide_eq_true (List.all_eq_true.mp hex c mem))
    simpa only [Bool.and_eq_true, bne_iff_ne, Option.any_eq_true, decide_eq_true_eq] using fact
  have lowered : lowerCase (String.ofList ('#' :: digits)) =
      String.ofList ('#' :: digits.map Char.toLower) := by
    rw [lowerCase, String.toList_ofList, lowerAfter_eq_map]
    · rfl
    · exact List.forall_mem_cons.mpr ⟨by decide, fun c mem => (facts c mem).1⟩
  rcases digits with _ | ⟨a, _ | ⟨b, _ | ⟨c, _ | ⟨d, _ | ⟨e, _ | ⟨f, _ | _⟩⟩⟩⟩⟩⟩ <;> cases six
  simp only [List.forall_mem_cons, List.not_mem_nil, false_imp_iff, implies_true, and_true] at facts
  obtain ⟨⟨_, _, a', isA, _⟩, ⟨_, _, b', isB, _⟩, ⟨_, _, c', isC, _⟩, ⟨_, _, d', isD, _⟩,
    ⟨_, _, e', isE, _⟩, _, last, f', isF, _⟩ := facts
  refine ⟨16 * a' + b', 16 * c' + d', 16 * e' + f', ⟨by omega, by omega⟩, ⟨by omega, by omega⟩,
    ⟨by omega, by omega⟩, ?_⟩
  have short : ¬ 100 < (String.ofList ['#', a, b, c, d, e, f]).length := by
    rw [String.length_ofList]
    simp
  rw [Color.read, if_neg short, lowered]
  dsimp only
  rw [lookup_named_hex, String.toList_ofList]
  simp [Color.withoutBreak, last, Color.hexadecimal?, isA, isB, isC, isD, isE, isF, Color.pairs]

namespace Image

variable {n : Int}

theorem fits_of_isByte (byte : IsByte n) : fits 64 n = true ∧ fits 32 n = true := by
  have words : twoTo 63 = 2 ^ 63 ∧ twoTo 31 = 2 ^ 31 := by decide
  obtain ⟨_, _⟩ := byte
  rw [fits, fits, words.1, words.2]
  constructor <;> simp <;> omega

theorem shortWord_of_isByte (byte : IsByte n) : shortWord n = .ok n := by
  rw [shortWord, longWord, if_pos (fits_of_isByte byte).1]
  exact if_pos (fits_of_isByte byte).2

/-- The pixel of such a colour holds the channels of the colour, and nothing else, only in pictures
of three channels. -/
theorem exists_ink (mode : ColorMode) {color : String} (hex : IsHexColor color) :
    ∃ pixel channels, ink mode (.text color) = .ok pixel ∧ Color.read color = .ok channels ∧
      ((mode ≠ .grey && pixel.map Int.ofNat == channels) = true ↔ mode = .color) := by
  obtain ⟨red, green, blue, first, second, third, isRead⟩ := read_of_isHexColor hex
  have inked : ink mode (.text color) = inkOfColor mode [red, green, blue] := by
    change (Color.read color >>= inkOfColor mode) = _
    rw [isRead]
    rfl
  have channels : inkOfChannels mode [red, green, blue] =
      .ok (([red, green, blue, 255].take mode.channels).map Raster.clip) := by
    simp [inkOfChannels, fits_of_isByte first, shortWord_of_isByte second,
      shortWord_of_isByte third, bind, Except.bind, pure, Except.pure]
  obtain ⟨_, _⟩ := first
  obtain ⟨_, _⟩ := second
  obtain ⟨_, _⟩ := third
  cases mode with
  | grey =>
    have level : IsByte ((red * 19595 + green * 38470 + blue * 7471 + 0x8000) / 65536) :=
      ⟨by omega, by omega⟩
    rw [inkOfColor, inkOfWhole, (fits_of_isByte level).1] at inked
    exact ⟨_, _, inked, isRead, by simp⟩
  | color =>
    refine ⟨_, _, inked.trans channels, isRead, ?_⟩
    simp [ColorMode.channels, Raster.clip]
    omega
  | opacity => exact ⟨_, _, inked.trans channels, isRead, by simp [ColorMode.channels]⟩

/-! ## Painting and looking -/

/-- A method of pictures that is called with arguments in order. -/
def call (name : String) (arguments : List Value) : ActOn Image Value :=
  ((methods.lookup name).map (·.call arguments [])).getD (pure .none)

/-- The colour is found at the place. -/
def Shows (image : Image) (color : String) (x y : Nat) : Prop :=
  ∀ w, ((call "check_color" [.int x, .int y, .text color]).perform image w).1 = .ok (.bool true)

/-- Drawing keeps the rectangle: its corners are accepted, and the numbers that they are rounded to
enclose the same places of the picture. -/
def Draws (raster : Raster) (x1 y1 x2 y2 : Int) : Prop :=
  ∃ left upper right lower,
    corners [.int x1, .int y1, .int x2, .int y2] = .ok (left, upper, right, lower) ∧
      ∀ x y, raster.Has x y →
        (InRectangle (min left right) (min upper lower) (max left right) (max upper lower) x y ↔
          InRectangle x1 y1 x2 y2 x y)

theorem perform_check {image : Image} {x y color : Value} {seen : Bool}
    (found : image.hasColor x y color = .ok seen) (w : World) :
    ((call "check_color" [x, y, color]).perform image w).1 = .ok (.bool seen) := by
  change ((ActOn.ofExcept (image.hasColor x y color) >>= fun seen =>
    pure (Value.bool seen)).perform image w).1 = _
  rw [found]
  rfl

theorem perform_fill {image : Image} {x1 y1 x2 y2 color : Value} {data : ImageData}
    (filled : image.filled x1 y1 x2 y2 color = .ok data) (w : World) :
    (call "fill_color" [x1, y1, x2, y2, color]).perform image w =
      (.ok (.image ⟨w.serials, image.name, data⟩), ⟨image.serial, image.name, data⟩,
        { w with serials := w.serials + 1 }) := by
  change (ActOn.ofExcept (image.filled x1 y1 x2 y2 color) >>= renew).perform image w = _
  rw [filled]
  rfl

theorem hasColor_of_pixelAt {raster : Raster} {x y : Value} {pixel : List Nat} {color : String}
    {channels : List Int} (looked : pixelAt raster x y = .ok pixel)
    (isRead : Color.read color = .ok channels) (serial : Nat) (name : Option String) :
    hasColor ⟨serial, name, .raster raster⟩ x y (.text color) =
      .ok (raster.mode ≠ .grey && pixel.map Int.ofNat == channels) := by
  change (pixelAt raster x y >>= fun pixel => Color.read color >>= fun channels =>
    .ok (raster.mode ≠ .grey && pixel.map Int.ofNat == channels)) = _
  rw [looked, isRead]
  rfl

theorem shows_iff (raster : Raster) {x y : Nat} {color : String} {channels : List Int}
    (small : raster.IsSmall) (has : raster.Has x y) (isRead : Color.read color = .ok channels)
    (serial : Nat) (name : Option String) :
    Shows ⟨serial, name, .raster raster⟩ color x y ↔
      (raster.mode ≠ .grey && (raster.pixel x y).map Int.ofNat == channels) = true := by
  have found := hasColor_of_pixelAt (raster.pixelAt_of_has small has) isRead serial name
  simp only [Shows, perform_check found, Except.ok.injEq, Value.bool.injEq, forall_const]

/-- A rectangle that is filled is seen in the picture and in the new one exactly if their pixels
have three channels or no place of the rectangle lies in them. All the rest is kept. -/
theorem fill_color_shows_iff (image : Image) {raster : Raster} {x1 y1 x2 y2 : Int} {color : String}
    (world : World) (readable : image.data = .raster raster) (small : raster.IsSmall)
    (draws : Draws raster x1 y1 x2 y2) (hex : IsHexColor color) :
    ∃ painted serial after,
      (call "fill_color" [.int x1, .int y1, .int x2, .int y2, .text color]).perform image world =
        (.ok (.image ⟨serial, image.name, .raster painted⟩),
          ⟨image.serial, image.name, .raster painted⟩, after) ∧
      painted.mode = raster.mode ∧ painted.width = raster.width ∧
      painted.height = raster.height ∧
      (∀ x y, raster.Has x y → ¬ InRectangle x1 y1 x2 y2 x y →
        painted.pixel x y = raster.pixel x y) ∧
      ∀ serial, (∀ x y, raster.Has x y → InRectangle x1 y1 x2 y2 x y →
          Shows ⟨serial, image.name, .raster painted⟩ color x y) ↔
        raster.mode = .color ∨ ∀ x y, raster.Has x y → ¬ InRectangle x1 y1 x2 y2 x y := by
  obtain ⟨left, upper, right, lower, kept, same⟩ := draws
  obtain ⟨pixel, channels, inked, isRead, seen⟩ := exists_ink raster.mode hex
  let painted := raster.fill (min left right) (min upper lower) (max left right) (max upper lower)
    pixel
  have filled : image.filled (.int x1) (.int y1) (.int x2) (.int y2) (.text color) =
      .ok (.raster painted) := by
    rw [Image.filled, readable]
    change (ink raster.mode (.text color) >>= _) = _
    rw [inked]
    change (corners _ >>= _) = _
    rw [kept]
    rfl
  have pixels : ∀ x y, raster.Has x y → painted.pixel x y =
      if InRectangle x1 y1 x2 y2 x y then pixel else raster.pixel x y := by
    intro x y has
    rw [raster.pixel_fill has, if_congr (same x y has) rfl rfl]
  refine ⟨painted, _, _, perform_fill filled world, rfl, rfl, rfl, fun x y has outside => ?_,
    fun serial => ?_⟩
  · rw [pixels x y has, if_neg outside]
  · have shown : ∀ x y, raster.Has x y → InRectangle x1 y1 x2 y2 x y →
        (Shows ⟨serial, image.name, .raster painted⟩ color x y ↔ raster.mode = .color) := by
      intro x y has inside
      rw [shows_iff painted small has isRead, pixels x y has, if_pos inside]
      exact seen
    constructor
    · intro all
      by_contra! ⟨plain, x, y, has, inside⟩
      exact plain ((shown x y has inside).mp (all x y has inside))
    · rintro (colored | empty) x y has inside
      · exact (shown x y has inside).mpr colored
      · exact absurd inside (empty x y has)

theorem fill_color_shows_red : ∃ painted serial after,
    (call "fill_color" [.int (-3), .int 0, .int 0, .int 7, .text "#FF0000"]).perform
        ⟨0, some "a.png", .raster ⟨.color, 2, 1, #[[0, 0, 0], [0, 0, 0]]⟩⟩ default =
      (.ok (.image ⟨serial, some "a.png", .raster painted⟩), ⟨0, some "a.png", .raster painted⟩,
        after) ∧ Shows ⟨0, some "a.png", .raster painted⟩ "#FF0000" 0 0 := by
  have draws : Draws ⟨.color, 2, 1, #[[0, 0, 0], [0, 0, 0]]⟩ (-3) 0 0 7 :=
    ⟨-3, 0, 0, 7, by decide +kernel, fun _ _ _ => by simp⟩
  obtain ⟨painted, serial, after, performed, -, -, -, -, shown⟩ := fill_color_shows_iff
    ⟨0, some "a.png", _⟩ default rfl ⟨by decide, by decide⟩ draws
      ⟨"FF0000".toList, rfl, by decide, by decide⟩
  exact ⟨painted, serial, after, performed,
    (shown 0).mpr (.inl rfl) 0 0 ⟨by decide, by decide⟩ (by decide)⟩

/-- The red that is painted on a transparent place is not seen there. -/
theorem not_shows_red_opacity : ∃ painted serial after,
    (call "fill_color" [.int 0, .int 0, .int 0, .int 0, .text "#FF0000"]).perform
        ⟨0, none, .raster ⟨.opacity, 1, 1, #[[0, 0, 0, 0]]⟩⟩ default =
      (.ok (.image ⟨serial, none, .raster painted⟩), ⟨0, none, .raster painted⟩, after) ∧
    ¬ Shows ⟨0, none, .raster painted⟩ "#FF0000" 0 0 := by
  have filled : filled ⟨0, none, .raster ⟨.opacity, 1, 1, #[[0, 0, 0, 0]]⟩⟩ (.int 0) (.int 0)
      (.int 0) (.int 0) (.text "#FF0000") =
        .ok (.raster ⟨.opacity, 1, 1, #[[255, 0, 0, 255]]⟩) := by decide +kernel
  have isRead : Color.read "#FF0000" = .ok [255, 0, 0] := by decide +kernel
  refine ⟨_, _, _, perform_fill filled default, ?_⟩
  rw [shows_iff _ ⟨by decide, by decide⟩ ⟨by decide, by decide⟩ isRead]
  decide

end Image

end DeviceScript
