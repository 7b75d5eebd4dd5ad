import Phase4.Library.Schedule
import Phase4.Library.Window
import Phase4.Library.Program
import Phase4.Library.Knowledge
import Phase4.Library.ByteMemory
import Phase4.Library.Seqlock
import Phase4.Library.Chunks
import Phase4.Library.Overlay
import Phase4.Library.Fifo
import Phase4.Library.Quadratic
import Phase4.Library.Approach
import Phase4.Library.Watch
import Phase4.Library.Preference
import Phase4.Library.Attempt
import Phase4.Library.Handover
import Phase4.Library.Rounds
import Phase4.Library.Relay
import Phase4.Library.Json
import Phase4.Library.Parking
import Phase4.Library.Pacing
import Phase4.Dsp.F32
import Phase4.Dsp.F64
import Phase4.Dsp.Payload
import Phase4.Dsp.Vocoder
import Phase4.Dsp.Envelope
import Phase4.Dsp.Exact
import Phase4.Dsp.Stability
import Phase4.Frames.Region
import Phase4.Frames.Words
import Phase4.Frames.Store
import Phase4.Frames.SequenceLock
import Phase4.Frames.Reading
import Phase4.Managers.Devices
import Phase4.Managers.MidiMatching
import Phase4.Managers.Midi
import Phase4.Managers.MidiRun
import Phase4.Managers.MidiLaws
import Phase4.Managers.Analyser
import Phase4.Managers.Audio
import Phase4.Managers.Capture
import Phase4.Managers.FastPath
import Phase4.Managers.Drain
import Phase4.Managers.MidiCounters
import Phase4.Managers.FrameTransport
import Phase4.Managers.Server
import Phase4.Managers.ServerRun
import Phase4.Managers.Broadcast
import Phase4.Managers.Freshness
import Phase4.Managers.Closing
import Phase4.Managers.Recovery
import Phase4.Managers.Mapper
import Phase4.Managers.EndToEnd
import Phase4.Managers.Shutdown
import Phase4.Managers.RegionFrames
import Phase4.Managers.DisplayJson
import Phase4.Managers.SyntheticClock
import Phase4.Managers.Generator
import Phase4.Managers.Osc
import Phase4.Managers.OscPayload
import Phase4.Config.Types
import Phase4.Config.Validate
import Phase4.Config.Resolve
import Phase4.Config.Agreement
import Phase4.Headless
import Phase4.Bootstrap
import Phase4.Managers.Selection
import Phase4.Roster
import Phase4.Worker
import Phase4.Joining
import Phase4.App
import Phase4.Xpc.Protocol
import Phase4.Xpc.Dictionary
import Phase4.Xpc.Request
import Phase4.Xpc.Start
import Phase4.Xpc.ServiceRun
import Phase4.StreamFailure
import Phase4.Xpc.RunHistory
import Phase4.Xpc.OneEngine
import Phase4.Xpc.Isolation
import Phase4.Xpc.ClientView
import Phase4.Xpc.Progress
import Phase4.Headless.Events
import Phase4.Headless.Process
import Phase4.Headless.Told
import Phase4.Managers.Slots
import Phase4.MappedRegion
import Phase4.Xpc.Answers
import Phase4.Xpc.StartReply
