import Multidrop.Main
import Multidrop.Proofs.Command.Definition
import Multidrop.Proofs.Command.Tunnel
import Multidrop.Proofs.Dispatch.Capacity
import Multidrop.Proofs.Dispatch.Plan
import Multidrop.Proofs.Endpoint.Names
import Multidrop.Proofs.Frame.Damage
import Multidrop.Proofs.Frame.Reports
import Multidrop.Proofs.Frame.Sequence
import Multidrop.Proofs.Frame.Writer
import Multidrop.Proofs.Master.Agreement
import Multidrop.Proofs.Master.Judging
import Multidrop.Proofs.Master.Writing
import Multidrop.Proofs.Node.Backlog
import Multidrop.Proofs.Node.Conservation
import Multidrop.Proofs.Node.Isolation
import Multidrop.Proofs.Node.Overflow
import Multidrop.Proofs.Node.Overhearing
import Multidrop.Proofs.Node.Phase
import Multidrop.Proofs.Node.Safekeeping
import Multidrop.Proofs.Node.Workload
import Multidrop.Proofs.Reply.Omitted
import Multidrop.Proofs.Request.Steps
import Multidrop.Proofs.Tunnel.Books
import Multidrop.Proofs.Tunnel.Fifo
import Multidrop.Proofs.Value.Conversion
import Multidrop.Proofs.Varuint.Outcomes
