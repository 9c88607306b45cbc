import DeviceScript.Failure
import DeviceScript.Text.LowerCase

/-!
# Colours

A colour is written as a name, in hexadecimal digits, or as a function of its channels. Reading
one gives three channels, or four if the text sets the opacity; channels above 255 are kept as
they are written.
-/

namespace DeviceScript.Color

open DeviceScript.Text

def named : List (String × Nat) :=
  [("aliceblue", 0xf0f8ff), ("antiquewhite", 0xfaebd7), ("aqua", 0x00ffff),
    ("aquamarine", 0x7fffd4), ("azure", 0xf0ffff), ("beige", 0xf5f5dc), ("bisque", 0xffe4c4),
    ("black", 0x000000), ("blanchedalmond", 0xffebcd), ("blue", 0x0000ff),
    ("blueviolet", 0x8a2be2), ("brown", 0xa52a2a), ("burlywood", 0xdeb887),
    ("cadetblue", 0x5f9ea0), ("chartreuse", 0x7fff00), ("chocolate", 0xd2691e),
    ("coral", 0xff7f50), ("cornflowerblue", 0x6495ed), ("cornsilk", 0xfff8dc),
    ("crimson", 0xdc143c), ("cyan", 0x00ffff), ("darkblue", 0x00008b), ("darkcyan", 0x008b8b),
    ("darkgoldenrod", 0xb8860b), ("darkgray", 0xa9a9a9), ("darkgrey", 0xa9a9a9),
    ("darkgreen", 0x006400), ("darkkhaki", 0xbdb76b), ("darkmagenta", 0x8b008b),
    ("darkolivegreen", 0x556b2f), ("darkorange", 0xff8c00), ("darkorchid", 0x9932cc),
    ("darkred", 0x8b0000), ("darksalmon", 0xe9967a), ("darkseagreen", 0x8fbc8f),
    ("darkslateblue", 0x483d8b), ("darkslategray", 0x2f4f4f), ("darkslategrey", 0x2f4f4f),
    ("darkturquoise", 0x00ced1), ("darkviolet", 0x9400d3), ("deeppink", 0xff1493),
    ("deepskyblue", 0x00bfff), ("dimgray", 0x696969), ("dimgrey", 0x696969),
    ("dodgerblue", 0x1e90ff), ("firebrick", 0xb22222), ("floralwhite", 0xfffaf0),
    ("forestgreen", 0x228b22), ("fuchsia", 0xff00ff), ("gainsboro", 0xdcdcdc),
    ("ghostwhite", 0xf8f8ff), ("gold", 0xffd700), ("goldenrod", 0xdaa520), ("gray", 0x808080),
    ("grey", 0x808080), ("green", 0x008000), ("greenyellow", 0xadff2f), ("honeydew", 0xf0fff0),
    ("hotpink", 0xff69b4), ("indianred", 0xcd5c5c), ("indigo", 0x4b0082), ("ivory", 0xfffff0),
    ("khaki", 0xf0e68c), ("lavender", 0xe6e6fa), ("lavenderblush", 0xfff0f5),
    ("lawngreen", 0x7cfc00), ("lemonchiffon", 0xfffacd), ("lightblue", 0xadd8e6),
    ("lightcoral", 0xf08080), ("lightcyan", 0xe0ffff), ("lightgoldenrodyellow", 0xfafad2),
    ("lightgreen", 0x90ee90), ("lightgray", 0xd3d3d3), ("lightgrey", 0xd3d3d3),
    ("lightpink", 0xffb6c1), ("lightsalmon", 0xffa07a), ("lightseagreen", 0x20b2aa),
    ("lightskyblue", 0x87cefa), ("lightslategray", 0x778899), ("lightslategrey", 0x778899),
    ("lightsteelblue", 0xb0c4de), ("lightyellow", 0xffffe0), ("lime", 0x00ff00),
    ("limegreen", 0x32cd32), ("linen", 0xfaf0e6), ("magenta", 0xff00ff), ("maroon", 0x800000),
    ("mediumaquamarine", 0x66cdaa), ("mediumblue", 0x0000cd), ("mediumorchid", 0xba55d3),
    ("mediumpurple", 0x9370db), ("mediumseagreen", 0x3cb371), ("mediumslateblue", 0x7b68ee),
    ("mediumspringgreen", 0x00fa9a), ("mediumturquoise", 0x48d1cc),
    ("mediumvioletred", 0xc71585), ("midnightblue", 0x191970), ("mintcream", 0xf5fffa),
    ("mistyrose", 0xffe4e1), ("moccasin", 0xffe4b5), ("navajowhite", 0xffdead),
    ("navy", 0x000080), ("oldlace", 0xfdf5e6), ("olive", 0x808000), ("olivedrab", 0x6b8e23),
    ("orange", 0xffa500), ("orangered", 0xff4500), ("orchid", 0xda70d6),
    ("palegoldenrod", 0xeee8aa), ("palegreen", 0x98fb98), ("paleturquoise", 0xafeeee),
    ("palevioletred", 0xdb7093), ("papayawhip", 0xffefd5), ("peachpuff", 0xffdab9),
    ("peru", 0xcd853f), ("pink", 0xffc0cb), ("plum", 0xdda0dd), ("powderblue", 0xb0e0e6),
    ("purple", 0x800080), ("rebeccapurple", 0x663399), ("red", 0xff0000),
    ("rosybrown", 0xbc8f8f), ("royalblue", 0x4169e1), ("saddlebrown", 0x8b4513),
    ("salmon", 0xfa8072), ("sandybrown", 0xf4a460), ("seagreen", 0x2e8b57),
    ("seashell", 0xfff5ee), ("sienna", 0xa0522d), ("silver", 0xc0c0c0), ("skyblue", 0x87ceeb),
    ("slateblue", 0x6a5acd), ("slategray", 0x708090), ("slategrey", 0x708090),
    ("snow", 0xfffafa), ("springgreen", 0x00ff7f), ("steelblue", 0x4682b4), ("tan", 0xd2b48c),
    ("teal", 0x008080), ("thistle", 0xd8bfd8), ("tomato", 0xff6347), ("turquoise", 0x40e0d0),
    ("violet", 0xee82ee), ("wheat", 0xf5deb3), ("white", 0xffffff), ("whitesmoke", 0xf5f5f5),
    ("yellow", 0xffff00), ("yellowgreen", 0x9acd32)]

def channels (number : Nat) : List Int :=
  [Int.ofNat (number / 65536), Int.ofNat (number / 256 % 256), Int.ofNat (number % 256)]

/-! ## Hexadecimal digits -/

def hexValue? (c : Char) : Option Nat :=
  if '0' ≤ c ∧ c ≤ '9' then some (c.toNat - '0'.toNat)
  else if 'a' ≤ c ∧ c ≤ 'f' then some (c.toNat - 'a'.toNat + 10)
  else none

def pairs : List Nat → List Int
  | high :: low :: rest => Int.ofNat (16 * high + low) :: pairs rest
  | _ => []

def hexadecimal? : List Char → Option (List Int)
  | '#' :: digits => do
    let vs ← digits.mapM hexValue?
    if vs.length = 3 ∨ vs.length = 4 then some (vs.map fun v => Int.ofNat (17 * v))
    else if vs.length = 6 ∨ vs.length = 8 then some (pairs vs)
    else none
  | _ => none

/-! ## Functions of the channels -/

def inside? (name : String) (s : List Char) : Option (List Char) :=
  let opening := name.toList ++ ['(']
  if opening.isPrefixOf s ∧ s.getLast? = some ')' ∧ opening.length < s.length then
    some ((s.drop opening.length).dropLast)
  else none

def digits? (s : List Char) : Option Nat :=
  if s ≠ [] ∧ s.all (fun c => (decimalValue? c).isSome) then
    some (s.foldl (fun n c => 10 * n + (decimalValue? c).getD 0) 0)
  else none

def whole? (s : List Char) : Option Nat := digits? (trimmed s)

/-- The text in front of a percent sign, behind which only blanks stand. -/
def percent? (s : List Char) : Option (List Char) :=
  match (trimmed s).reverse with
  | '%' :: rest => some rest.reverse
  | _ => none

/-- A number with digits, at most one dot behind them, and perhaps further digits. -/
def decimal? (s : List Char) : Option Float :=
  let front := s.takeWhile fun c => (decimalValue? c).isSome
  let back := (s.drop front.length).drop 1
  let wellFormed :=
    front ≠ [] ∧ (front.length = s.length ∨ s[front.length]? = some '.') ∧
      back.all (fun c => (decimalValue? c).isSome)
  if wellFormed then Number.readFloat? (String.ofList s) else none

def cut (x : Float) : Int := (Number.wholePart? x).getD 0

def ofShare (x : Float) : Int := cut (x * 255.0 + 0.5)

def fraction (x : Float) : Float :=
  let part := x - (if x < 0.0 then x.ceil else x.floor)
  if part < 0.0 then part + 1.0 else part

def level (low high hue : Float) : Float :=
  let hue := fraction hue
  if hue < 1.0 / 6.0 then low + (high - low) * hue * 6.0
  else if hue < 0.5 then high
  else if hue < 2.0 / 3.0 then low + (high - low) * (2.0 / 3.0 - hue) * 6.0
  else low

def ofLightness (hue lightness saturation : Float) : List Int :=
  if saturation == 0.0 then [ofShare lightness, ofShare lightness, ofShare lightness]
  else
    let high :=
      if lightness ≤ 0.5 then lightness * (1.0 + saturation)
      else lightness + saturation - lightness * saturation
    let low := 2.0 * lightness - high
    [level low high (hue + 1.0 / 3.0), level low high hue, level low high (hue - 1.0 / 3.0)].map
      ofShare

def ofValue (hue saturation v : Float) : List Int :=
  if saturation == 0.0 then [ofShare v, ofShare v, ofShare v]
  else
    let sector := cut (hue * 6.0)
    let part := hue * 6.0 - ((Number.ofInt? sector).getD 0.0)
    let p := v * (1.0 - saturation)
    let q := v * (1.0 - saturation * part)
    let t := v * (1.0 - saturation * (1.0 - part))
    let shares :=
      match (sector.emod 6).toNat with
      | 0 => [v, t, p]
      | 1 => [q, v, p]
      | 2 => [p, v, t]
      | 3 => [p, q, v]
      | 4 => [t, p, v]
      | _ => [v, p, q]
    shares.map ofShare

def ofPercent (n : Nat) : Int := cut (((Number.ofInt? (n * 255)).getD 0.0) / 100.0 + 0.5)

/-- The three numbers of a colour by hue: degrees and two percentages. -/
def hue? (name : String) (s : List Char) : Option (Float × Float × Float) := do
  match splitChar ',' (← inside? name s) with
  | [degrees, first, second] => do
    let degrees ← decimal? (trimmed degrees)
    let first ← decimal? (← percent? first)
    let second ← decimal? (← percent? second)
    return (degrees / 360.0, first / 100.0, second / 100.0)
  | _ => none

def function? (text : List Char) : Option (List Int) :=
  let fields := fun (name : String) => (inside? name text).map (splitChar ',')
  let wholes := fun (name : String) (count : Nat) => do
    let numbers ← (← fields name).mapM whole?
    if numbers.length = count then some (numbers.map Int.ofNat) else none
  let percents := do
    let numbers ← (← fields "rgb").mapM fun field => do digits? (← percent? field)
    if numbers.length = 3 then some (numbers.map ofPercent) else none
  (wholes "rgb" 3).orElse fun _ => percents.orElse fun _ =>
    ((hue? "hsl" text).map fun (h, s, l) => ofLightness h l s).orElse fun _ =>
      (((hue? "hsb" text).orElse fun _ => hue? "hsv" text).map
        fun (h, s, v) => ofValue h s v).orElse fun _ => wholes "rgba" 4

def withoutBreak (s : List Char) : List Char :=
  if s.getLast? = some '\n' then s.dropLast else s

def read (s : String) : Except Failure (List Int) :=
  if 100 < s.length then .error (.raised .badValue "color specifier is too long")
  else
    let s := lowerCase s
    let bare := withoutBreak s.toList
    match named.lookup s with
    | some number => .ok (channels number)
    | none =>
      match (hexadecimal? bare).orElse fun _ => function? bare with
      | some color => .ok color
      | none => .error (.raised .badValue ("unknown color specifier: " ++ quoted s))

end DeviceScript.Color
