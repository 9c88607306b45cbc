import DeviceScript.Calling.Operation

/-!
# The outline of a platform

What every platform has to provide, and what one finds that provides nothing: a name and an
empty list of devices, while everything else is refused.
-/

namespace DeviceScript.Outline

/-- What a platform has to define. -/
def duties : List String :=
  ["__init__", "get_all_device", "platform_decription", "platform_name", "select_deivce"]

/-- The outline itself is no platform. -/
def create : Except Failure Value :=
  .error (.raised .operandType
    ("Can't instantiate abstract class Platform with abstract methods " ++ Text.join ", " duties))

/-- What is left to the platforms. -/
def unprovided : Except Failure Value := .error (.raised .notImplemented "")

def name : Except Failure Value := .ok (.text "Platform")

def devices : Except Failure Value := .ok (.list [])

/-- What a platform answers that provides nothing: to be created, to be set up, its name, its
description, its devices found again, one of them by a name, and its devices. -/
def answers : List (Except Failure Value) :=
  [create, unprovided, name, unprovided, unprovided, unprovided, devices]

end DeviceScript.Outline
