import NetworkingRecipe.Interaction.Schedule
import NetworkingRecipe.Interaction.Race
import NetworkingRecipe.Ovsp4rt.Es2k.FdbRoundTrip
import NetworkingRecipe.Ovsp4rt.Es2k.FdbDelete
import NetworkingRecipe.Ovsp4rt.Es2k.FdbIsolation
import NetworkingRecipe.Ovsp4rt.Es2k.FdbIndependence
import NetworkingRecipe.Ovsp4rt.Es2k.FdbRaceOutcome
import NetworkingRecipe.Ovsp4rt.Es2k.FdbInstalled
import NetworkingRecipe.Ovsp4rt.Es2k.FdbIdempotence
import NetworkingRecipe.Ovsp4rt.Es2k.AddressedRequests
import NetworkingRecipe.Ovsp4rt.Journal.Replay
import NetworkingRecipe.Ovsp4rt.PipelineFetch
import NetworkingRecipe.Ovsp4rt.Mastership
import NetworkingRecipe.Ovsp4rt.Compensation
import NetworkingRecipe.Ovsp4rt.Es2k.UpdateRoundTrip
import NetworkingRecipe.Ovsp4rt.Es2k.TunnelPointers
import NetworkingRecipe.Ovsp4rt.Es2k.TunnelIndependence
import NetworkingRecipe.Ovsp4rt.Es2k.VlanRuns
import NetworkingRecipe.Ovsp4rt.Es2k.IpMacGuards
import NetworkingRecipe.Ovsp4rt.NumericFields
import NetworkingRecipe.Ovsp4rt.Es2k.TunnelParameters
import NetworkingRecipe.Ovsp4rt.Es2k.HostPortLookup
import NetworkingRecipe.Ovsp4rt.V1.Refinement
import NetworkingRecipe.Ovsp4rt.V1.SourcePort
import NetworkingRecipe.P4rtCtl.EntryCommands
import NetworkingRecipe.P4rtCtl.FieldWidth
import NetworkingRecipe.P4rtCtl.WriteErrors
import NetworkingRecipe.Python.Pieces
import NetworkingRecipe.P4rtCtl.ActionText
import NetworkingRecipe.P4rtCtl.FlowText
import NetworkingRecipe.P4rtCtl.FlowRoundTrip
import NetworkingRecipe.P4rtCtl.NamedParameters
import NetworkingRecipe.Python.Formatting
import NetworkingRecipe.P4rtCtl.EntryText
import NetworkingRecipe.Regex.Matching
import NetworkingRecipe.Gnmi.Path
import NetworkingRecipe.Gnmi.SetRequest
import NetworkingRecipe.Gnmi.InterfacePath
import NetworkingRecipe.Gnmi.SetCommand
import NetworkingRecipe.P4rtCtl.BuiltEntry
import NetworkingRecipe.P4rtCtl.PrintedMatch
import NetworkingRecipe.P4rtCtl.ReadingAgreement
import NetworkingRecipe.P4rtCtl.PrintedLiteral
import NetworkingRecipe.P4rtCtl.EntryRoundTrip
import NetworkingRecipe.P4rtCtl.NumberBytes
import NetworkingRecipe.Gnmi.Pairs
import NetworkingRecipe.Gnmi.InPlace
import NetworkingRecipe.Gnmi.BufferBounds
import NetworkingRecipe.LinuxNetworking.Frame
import NetworkingRecipe.LinuxNetworking.Receive
import NetworkingRecipe.LinuxNetworking.Tunnel
import NetworkingRecipe.LinuxNetworking.ControlPackets
import NetworkingRecipe.LinuxNetworking.Provisioning
import NetworkingRecipe.InlineIpsec.Journey
import NetworkingRecipe.LinuxNetworking.ConnectionTracking
import NetworkingRecipe.Infrap4d.Daemon
import NetworkingRecipe.P4rtPerfTest.SimpleL2Demo
import NetworkingRecipe.P4rtCtl.StreamSession
import NetworkingRecipe.P4rtCtl.ProfileGroups
