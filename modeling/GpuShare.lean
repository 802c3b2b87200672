import GpuShare.Wire.Codec
import GpuShare.Wire.Document
import GpuShare.Text.Blank
import GpuShare.Text.Hex
import GpuShare.Json.Reader
import GpuShare.Json.Decode
import GpuShare.Json.Printer
import GpuShare.Region.Image
import GpuShare.Feedback.Controller
import GpuShare.Dictionary
import GpuShare.Program
import GpuShare.Cluster.Store
import GpuShare.Time.Rfc3339
import GpuShare.File.Disk
import GpuShare.Device.Listing
import GpuShare.Device.Probe
import GpuShare.Mig.Geometry
import GpuShare.Mig.Reference
import GpuShare.Agent.NodeLock
import GpuShare.Agent.World
import GpuShare.Agent.MigResolver
import GpuShare.Cluster.Http
import GpuShare.Yaml.Scalar
import GpuShare.Yaml.Token
import GpuShare.Yaml.Node
import GpuShare.Yaml.Decode
import GpuShare.Yaml.Printer
import GpuShare.Yaml.Json
import GpuShare.Mig.PartitionTool
import GpuShare.Agent.LoadConfig
import GpuShare.Agent.Allocation
import GpuShare.Agent.Registration
import GpuShare.Agent.Monitor
import GpuShare.CommandLine.Command
import GpuShare.Log.File
import GpuShare.Region.Report
import GpuShare.CommandLine.Usage
import GpuShare.Main
import GpuShare.Proofs.Feedback.Tick
import GpuShare.Proofs.Cluster.Annotation
import GpuShare.Proofs.Run
import GpuShare.Proofs.Agent.LockProtocol
import GpuShare.Proofs.Agent.Requests
import GpuShare.Proofs.Wire.Grants
import GpuShare.Proofs.Agent.LockSharing
import GpuShare.Proofs.Agent.LockProgress
import GpuShare.Proofs.Agent.LockInvariant
import GpuShare.Proofs.Agent.LockExclusion
import GpuShare.Proofs.Agent.ClaimEffects
import GpuShare.Proofs.Agent.ClaimInvariant
import GpuShare.Proofs.Agent.ClaimExclusion
import GpuShare.Proofs.Agent.InOrder
import GpuShare.Proofs.Execution
import GpuShare.Proofs.Agent.Unreliable
import GpuShare.Proofs.Agent.CallWrites
import GpuShare.Proofs.Agent.CallParts
import GpuShare.Proofs.Agent.PodEffects
import GpuShare.Proofs.Agent.Cleanup
import GpuShare.Proofs.Agent.QueueLoss
import GpuShare.Proofs.Agent.LockDiscipline
import GpuShare.Proofs.Agent.Fitting
import GpuShare.Proofs.Feedback.Isolation
import GpuShare.Proofs.Feedback.Regions
import GpuShare.Proofs.Agent.Draining
import GpuShare.Proofs.Feedback.Rest
import GpuShare.Proofs.Agent.Coherence
import GpuShare.Proofs.Agent.Departure
import GpuShare.Proofs.Agent.MonitorRun
import GpuShare.Proofs.Wire.Adverts
import GpuShare.Proofs.Agent.KeptGeometry
import GpuShare.Proofs.Agent.MixedResources
import GpuShare.Proofs.Agent.Monitored
import GpuShare.Proofs.Text.Numeral
import GpuShare.Proofs.Wire.Grammar
import GpuShare.Proofs.Cluster.Candidates
import GpuShare.Proofs.Mig.Shares
import GpuShare.Proofs.Agent.Endings
import GpuShare.Proofs.Agent.OtherDevices
import GpuShare.Proofs.Agent.FailedCalls
import GpuShare.Proofs.Feedback.Users
import GpuShare.Proofs.File.Removal
import GpuShare.Proofs.Agent.Remapping
import GpuShare.Proofs.Agent.Clearing
import GpuShare.Proofs.Agent.UpdateEffect
import GpuShare.Proofs.Region.ReadBack
import GpuShare.Proofs.Region.Totality
import GpuShare.Proofs.Device.Printed
import GpuShare.Proofs.Mig.References
import GpuShare.Proofs.Agent.LockAlone
import GpuShare.Proofs.Json.MergePatch
import GpuShare.Proofs.Cluster.Patches
import GpuShare.Proofs.Agent.ContainerResponse
import GpuShare.Proofs.Agent.Published
import GpuShare.Proofs.Agent.SlotIds
import GpuShare.Proofs.Wire.Queue
import GpuShare.Proofs.Feedback.Activity
