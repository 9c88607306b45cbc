import DeviceScript.Device.Outline
import DeviceScript.Terminal.Startup
import DeviceScript.Terminal.Style
import DeviceScript.Value.Position
import DeviceScript.World.LogBridge
import DeviceScript.Proofs.Script.Completeness
import DeviceScript.Proofs.Execution.FaultLines
import DeviceScript.Proofs.Execution.Naming
import DeviceScript.Proofs.Device.Selecting
import DeviceScript.Proofs.Device.Swiping
import DeviceScript.Proofs.Execution.Counting
import DeviceScript.Proofs.Execution.Termination
import DeviceScript.Proofs.Execution.Conditions
import DeviceScript.Proofs.Execution.Pointwise
import DeviceScript.Proofs.Execution.Chains
import DeviceScript.Proofs.Execution.Literals
import DeviceScript.Proofs.Calling.LooseCalls
import DeviceScript.Proofs.Image.Painting
import DeviceScript.Proofs.Device.FrameSearch
import DeviceScript.Proofs.Device.Pages
import DeviceScript.Proofs.Recognition.Hits
import DeviceScript.Proofs.Recognition.WordOrder
import DeviceScript.Proofs.Execution.FailedCalls
import DeviceScript.Proofs.Device.Capturing
import DeviceScript.Proofs.World.Reloading
import DeviceScript.Proofs.Device.Loading
import DeviceScript.Proofs.Terminal.Finishing
