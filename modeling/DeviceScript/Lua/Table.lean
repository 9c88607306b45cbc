import DeviceScript.Calling.Operation

/-!
# Tables for Lua scripts

Lists, tuples, sets and dictionaries reach a Lua script as tables. What a device gives back is
divided into the hints that the user sees and the value that the script gets.
-/

namespace DeviceScript.Lua

def numbered (first : Nat) : List Value → List (Value × Value)
  | [] => []
  | item :: xs => (.int first, item) :: numbered (first + 1) xs

/-- A value as a Lua script gets it: collections are tables, and their items stay as they
are. -/
def toTable : Value → Value
  | .list xs => .table (numbered 1 xs)
  | .tuple xs => .table (numbered 1 xs)
  | .set xs => .table (numbered 1 xs)
  | .dict entries => .table entries
  | v => v

/-- What the user sees of a result: the hint that it is, or the hints in a tuple. -/
def hints : Value → List Value
  | .tuple results => results.filter Value.isTip
  | .tip serial message => [.tip serial message]
  | _ => []

/-- What the script gets of a result: all but the hints, and one value alone without a
table. -/
def delivered : Value → Value
  | .tuple results =>
    match results.filter fun result => !result.isTip with
    | [] => .none
    | [result] => result
    | others => toTable (.list others)
  | .tip .. => .none
  | result => result

end DeviceScript.Lua
