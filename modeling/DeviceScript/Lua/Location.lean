import DeviceScript.Calling.Thing

/-!
# Paths for Lua scripts

A Lua script holds a path as a thing that grows by adding pieces to it.
-/

namespace DeviceScript.Lua

/-- A path that grows. It is made of any value, but only a path grows. -/
structure Location where
  place : Value
  deriving Inhabited

namespace Location

def ofValue : Value → Location
  | .text s => ⟨.path (Path.ofText s)⟩
  | v => ⟨v⟩

def extended (place piece : Value) : Except Failure Value :=
  match place, piece with
  | .path base, .text s => .ok (.path (base.append (Path.ofText s)))
  | .path base, .path path => .ok (.path (base.append path))
  | place, piece => place.divide piece

def method (name : String) (params : List Parameter) (documentation : Option String)
    (action : List Value → ActOn Location Value) : String × Method Location :=
  (name, ⟨⟨"LuaPath.", name, true, params, documentation⟩, action⟩)

def methods : List (String × Method Location) :=
  [method "__init__" [.required "path" none] none fun
      | [v] => do
        set (ofValue v)
        return .none
      | _ => return .none,
    method "__str__" [] none fun _ => do
      return .text (← ActOn.ofExcept (← get).place.display),
    method "add" [.required "path" (some "str")] (some "拼接路径") fun
      | [piece] => do
        let place ← ActOn.ofExcept (extended (← get).place piece)
        set (Location.mk place)
        return place
      | _ => return .none]

def interface : Interface Location :=
  .of "LuaPath" methods (fun location name => if name = "_path" then some location.place else none)
    fun name v _ => if name = "_path" then some ⟨v⟩ else none

end Location

end DeviceScript.Lua
