import Herald.Cluster.Scheduler
import Herald.Server.Launch

set_option autoImplicit false

/-!
The running delivery core of one server process.

Starting it builds a one-node cluster from the configuration: the hub
buffers `session.outbound_capacity` events per subscriber, the services
take their limits from the configuration, and the backplane gets a fresh
source identifier and one transport per configured kind, in order (a mesh
queueing to the configured peers after binding its listener). Each
transport is subscribed on the backplane subject and read by a consumer,
and when recall is on a purge task sweeps the recall cache every recall
lifetime.
-/

namespace Herald.Server

open Cluster Settings Net

/-- The transport a configured kind starts as. -/
def transportOf (c : Config) : TransportKind → Transport
  | .bus => .bus { capacity := defaultBusCapacity }
  | .queue => .queue { maxBacklog := defaultBacklog }
  | .mesh => .mesh (Mesh.linked (c.backplane.meshPeers.map (·.render)) 4096)

def serverNode : Nat := 0

/-- Build the server's node on a cluster and start its consumers and purge
task. -/
def buildCore (c : Config) : ClusterM Unit := do
  let source ← freshUuid
  let names := c.backplane.transports.zipIdx.map fun (k, i) => s!"{k.name}-{i}"
  modify fun w => { w with transports := { w.transports with
    named := names.zip (c.backplane.transports.map (transportOf c)) } }
  let node : Node := { hub := Hub.withCapacity c.session.outboundCapacity, chat := c.chatConfig,
                       notify := c.notificationConfig, source := source.render,
                       backplane := c.backplaneConfig, transports := names }
  modify fun w => { w with nodes := w.nodes.push node }
  -- the configured transports always take a subscriber when the core starts
  let _ ← startBackplane serverNode
  if c.chat.recallEnabled then
    let p := (← get).purges.size
    let purge : Purge := { node := serverNode, interval := max (c.chat.recallTtlSecs * 1000) 10, nextTick := 0 }
    modify fun w => { w with purges := w.purges.push purge }
    wake (.purge p)
  runQueued runBudget

/-- Start the delivery core: bind the mesh listeners, then build the node
on a fresh cluster. -/
def startCore (c : Config) (h : Host) : Except ErrorChain (World × Host) := do
  let (_, h) ← startTransports c h
  let ((), w) := (buildCore c).run {}
  pure (w, h)

end Herald.Server
