import Touchpad.Foundation.BigEndian
import Touchpad.Foundation.Binary32
import Touchpad.Foundation.Framing
import Touchpad.Foundation.HidReport
import Touchpad.Foundation.Fifo
import Touchpad.Foundation.FixedCodec
import Touchpad.Foundation.Lanes
import Touchpad.Foundation.SlotTable
import Touchpad.Foundation.Latch
import Touchpad.Foundation.Lifecycle
import Touchpad.Foundation.Ring
import Touchpad.Foundation.Sequence
import Touchpad.Foundation.Strokes
import Touchpad.Foundation.Transition
import Touchpad.Protocol.TouchFrame
import Touchpad.Protocol.EncodedMessage
import Touchpad.Protocol.RoundTrip
import Touchpad.Shared.TouchpadIoctl
import Touchpad.Shared.PackedStructures
import Touchpad.Receiver.Mtp1
import Touchpad.Receiver.DecoderAgreement
import Touchpad.Receiver.StreamDecoder
import Touchpad.Receiver.Segmentation
import Touchpad.Receiver.TouchSession
import Touchpad.Receiver.SlotLoops
import Touchpad.Receiver.Report
import Touchpad.Receiver.SessionSteps
import Touchpad.Receiver.SessionInvariant
import Touchpad.Receiver.Lifecycles
import Touchpad.Receiver.Capacity
import Touchpad.Receiver.FrameStep
import Touchpad.Receiver.ActiveContacts
import Touchpad.Receiver.Grammar
import Touchpad.Receiver.Room
import Touchpad.Receiver.ReceiveLoop
import Touchpad.Receiver.Silence
import Touchpad.Receiver.StuckTouch
import Touchpad.Driver.Submit
import Touchpad.Driver.Agreement
import Touchpad.Driver.History
import Touchpad.Driver.HostView
import Touchpad.Driver.Descriptor
import Touchpad.Driver.Features
import Touchpad.Driver.ScanTime
import Touchpad.Driver.SynthesisedTime
import Touchpad.Driver.KernelBoundary
import Touchpad.Driver.DeviceControl
import Touchpad.Driver.Positions
import Touchpad.Receiver.Serving
import Touchpad.Receiver.Conversations
import Touchpad.Receiver.KeptClients
import Touchpad.Receiver.HostStrokes
import Touchpad.Agent.MessageQueue
import Touchpad.Agent.Callback
import Touchpad.Agent.System
import Touchpad.Agent.Numbering
import Touchpad.Agent.Epoch
import Touchpad.Agent.Serial
import Touchpad.Agent.PressureClick
import Touchpad.Agent.Stream
import Touchpad.Agent.Traffic
import Touchpad.Agent.Captures
import Touchpad.Agent.Transport
import Touchpad.Agent.Shutdown
import Touchpad.Receiver.Delivery
import Touchpad.Link.CapturedSession
import Touchpad.Link.Wire
import Touchpad.Link.Strokes
import Touchpad.Link.KeptAgents
import Touchpad.Foundation.Pool
import Touchpad.Foundation.RunningMaximum
import Touchpad.Probe.ContactCallback
import Touchpad.Probe.Summary
import Touchpad.Foundation.ExactReads
import Touchpad.Tools.DebugReceiver
import Touchpad.Tools.SyntheticTouch
