import Redelivery.Main
import Redelivery.Configuration.Builder
import Redelivery.Settings.Writer
import Redelivery.Wiring.Endpoint
import Redelivery.Proofs.Delivery.FirstFailure
import Redelivery.Proofs.Journey.Draining
import Redelivery.Proofs.System.Paths
import Redelivery.Proofs.Conservation.Endpoint
import Redelivery.Proofs.System.Errors
import Redelivery.Proofs.Wiring.Nodes
import Redelivery.Proofs.System.Dropping
import Redelivery.Proofs.System.Rounds
import Redelivery.Proofs.Topology.Timeout
import Redelivery.Proofs.Bus.Timetable
import Redelivery.Proofs.Bus.Traffic
import Redelivery.Proofs.Wiring.Schedules
import Redelivery.Proofs.Topology.Merging
import Redelivery.Proofs.Wiring.Provision
import Redelivery.Proofs.Topology.Encoding
import Redelivery.Proofs.Topology.Suffixes
import Redelivery.Proofs.System.Republishing
import Redelivery.Proofs.Classification.Amendments
import Redelivery.Proofs.Classification.Decisions
import Redelivery.Proofs.Delivery.Multimap
import Redelivery.Proofs.Wiring.Building
import Redelivery.Proofs.Wiring.Responsibility
