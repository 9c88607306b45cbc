import DeviceScript.Calling.Thing

/-!
# The output buffer

What a Lua script writes is kept piece by piece in a buffer, which stands for a file. A
listener gets every piece, too, and keeps it when the buffer is cleared.
-/

namespace DeviceScript.Lua

structure Buffer where
  content : List Value
  listens : Bool
  heard : List Value
  deriving Inhabited

namespace Buffer

def empty (listens : Bool) : Buffer := ⟨[], listens, []⟩

def write (piece : Value) (buffer : Buffer) : Buffer :=
  { buffer with
    content := buffer.content ++ [piece]
    heard := if buffer.listens then buffer.heard ++ [piece] else buffer.heard }

def clear (buffer : Buffer) : Buffer := { buffer with content := [] }

def method (name : String) (params : List Parameter)
    (action : List Value → ActOn Buffer Value) : String × Method Buffer :=
  (name, ⟨⟨"VirtualFile.", name, true, params, none⟩, action⟩)

def methods : List (String × Method Buffer) :=
  [method "__init__" [] fun _ => do
      modify fun buffer => { buffer with content := [], listens := false }
      return .none,
    method "write" [.required "data" (some "str")] fun
      | [piece] => do
        modify (write piece)
        return .bool true
      | _ => return .none,
    method "clear" [] fun _ => do
      modify clear
      return .none,
    method "read" [] fun _ => do return .list (← get).content,
    method "flush" [] fun _ => return .none,
    method "close" [] fun _ => return .none]

def part? (buffer : Buffer) : String → Option Value
  | "content" => some (.list buffer.content)
  | "updata_buffer_handler" => some (if buffer.listens then .object "function" else .none)
  | _ => none

def withPart? (name : String) (v : Value) (buffer : Buffer) : Option Buffer :=
  match name, v with
  | "content", .list content => some { buffer with content }
  | "updata_buffer_handler", .none => some { buffer with listens := false }
  | _, _ => none

def interface : Interface Buffer := .of "VirtualFile" methods part? withPart?

end Buffer

end DeviceScript.Lua
