import LiveKitRust.DataStream.Isolation
import LiveKitRust.DataStream.RoundTrip
import LiveKitRust.DataTrack.Integrity
import LiveKitRust.DataTrack.Local.Pipeline
import LiveKitRust.DataTrack.Local.Shutdown
import LiveKitRust.DataTrack.Remote.Calm
import LiveKitRust.DataTrack.Remote.Pipeline
import LiveKitRust.DataTrack.Remote.Publications
import LiveKitRust.DataTrack.RoundTrip
import LiveKitRust.DataTrack.Tolerance
import LiveKitRust.Ffi.AudioFraming
import LiveKitRust.Ffi.DataTrackStream
import LiveKitRust.Ffi.Handles
import LiveKitRust.Ffi.PackedConversion
import LiveKitRust.Ffi.Publishing
import LiveKitRust.Ffi.Resampler
import LiveKitRust.Ohos.AudioSource
import LiveKitRust.Ohos.AudioStream
import LiveKitRust.Ohos.CodecInput
import LiveKitRust.Ohos.FrameTimes
import LiveKitRust.Ohos.Framing
import LiveKitRust.Ohos.KeyFrames
import LiveKitRust.Ohos.ParameterSets
import LiveKitRust.Ohos.PeerConnection
import LiveKitRust.Ohos.Planes
import LiveKitRust.Ohos.RtpGate
import LiveKitRust.Room.Connection
import LiveKitRust.Room.DataKeys
import LiveKitRust.Room.Mirroring
import LiveKitRust.Room.Rejoining
import LiveKitRust.Room.Subscriptions
import LiveKitRust.Room.Unpublishing
import LiveKitRust.Rpc.Matching
import LiveKitRust.RtcEngine.Escalation
import LiveKitRust.RtcEngine.Finality
import LiveKitRust.RtcEngine.Lifecycle
import LiveKitRust.RtcEngine.Negotiation
import LiveKitRust.RtcEngine.Numbering
import LiveKitRust.RtcEngine.Receiving
import LiveKitRust.RtcEngine.Requests
import LiveKitRust.RtcEngine.Retry
import LiveKitRust.Rtp.Reception
import LiveKitRust.Rtp.Vp8
import LiveKitRust.Services.TwirpClient
import LiveKitRust.SignalClient.Conservation
import LiveKitRust.SignalClient.Gate
import LiveKitRust.SignalClient.Locking
import LiveKitRust.SignalClient.Regions
import LiveKitRust.Utils.Promise
