import Workloads.Main
import Workloads.Proofs.Server.Protocol
import Workloads.Proofs.Server.Orphans
import Workloads.Proofs.Server.Termination
import Workloads.Rehearsal.Host
import Workloads.Proofs.Worker.Entries
import Workloads.Proofs.Worker.Removal
import Workloads.Proofs.Worker.Atomicity
import Workloads.Proofs.Worker.Isolation
import Workloads.Proofs.Worker.Provenance
import Workloads.Proofs.Text.Order
import Workloads.Proofs.Http.Address
import Workloads.Proofs.Server.Reach
import Workloads.Proofs.Worker.Refusal
import Workloads.Proofs.Server.Refinement
import Workloads.Proofs.Registry.History
import Workloads.Proofs.Server.Rehearsal
import Workloads.Proofs.Json.Strings
import Workloads.Proofs.Json.Digits
import Workloads.Proofs.Json.Forms
import Workloads.Proofs.Message.RoundTrip
import Workloads.Proofs.Server.Complaints
import Workloads.Proofs.Docker.Remains
import Workloads.Proofs.Worker.Setback
import Workloads.Proofs.Worker.FailedLaunch
import Workloads.Proofs.Json.Grammar
import Workloads.Proofs.Json.Skipping
import Workloads.Proofs.Json.Members
import Workloads.Proofs.Message.HoweverWritten
import Workloads.Proofs.Json.Truncation
import Workloads.Proofs.Message.Truncation
import Workloads.Proofs.Docker.Blueprint
import Workloads.Proofs.Docker.Grace
import Workloads.Proofs.Docker.Stages
import Workloads.Proofs.Settings.Numeral
import Workloads.Proofs.Settings.Precedence
import Workloads.Proofs.Registry.Poison
import Workloads.Proofs.Task.ContainerName
