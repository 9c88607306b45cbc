import DeviceScript.Value.Basic

/-!
# Requests to the outside

What the program asks of phones, the desktop, browsers, processes and the screen is written
down in the order in which it is asked. A request names the channel it goes to, what is asked,
and the values that go with it.
-/

namespace DeviceScript

/-- Where a request goes. -/
inductive Channel where
  | phone
  | desktop
  /-- Pointer and keys as games read them. -/
  | game
  | clipboard
  | clock
  | command
  | process
  | processTree
  | window
  | driver
  | browser
  | element
  /-- Pointer and keys inside a browser. -/
  | gesture
  | recogniser
  | client
  | asyncClient
  /-- A widget or screen of the terminal program, by the name of its class. -/
  | widget (sort : String)
  | program
  | journal
  | logView
  | worker
  deriving DecidableEq, Inhabited

/-- Something asked of the outside. -/
structure Request where
  channel : Channel
  verb : String
  arguments : List Value
  named : List (String × Value)
  deriving Inhabited

/-- A message shown to the user outside the log. -/
structure Notice where
  arguments : List Value
  named : List (String × Value)
  deriving Inhabited

end DeviceScript
