import AtomicUsb.Foundation.Program
import AtomicUsb.Foundation.Transition
import AtomicUsb.Foundation.ObjectStore
import AtomicUsb.Foundation.Framing
import AtomicUsb.Identity.Assign
import AtomicUsb.Identity.OneName
import AtomicUsb.Identity.Metadata
import AtomicUsb.Uevent
import AtomicUsb.Foundation.History
import AtomicUsb.Launcher
import AtomicUsb.Controller.Reconcile
import AtomicUsb.Agent.Discovery
import AtomicUsb.Agent.Publishing
import AtomicUsb.Agent.Patterns
import AtomicUsb.Agent.StableNames
import AtomicUsb.Controller.PassRule
import AtomicUsb.Controller.LeaseRule
import AtomicUsb.Cluster.Leases
import AtomicUsb.Cluster.Verdicts
import AtomicUsb.Cluster.Orphans
import AtomicUsb.Agent.OneScan
import AtomicUsb.Cluster.TieBreak
import AtomicUsb.Proto
import AtomicUsb.Proto.Wire
import AtomicUsb.Psk
import AtomicUsb.Agent.Exporter
import AtomicUsb.Agent.Serve
import AtomicUsb.Agent.Sessions
import AtomicUsb.Agent.StaleSessions
import AtomicUsb.Agent.Replay
import AtomicUsb.Agent.Handle
import AtomicUsb.Agent.HandleProtocol
import AtomicUsb.Agent.Handlers
import AtomicUsb.Controller.PassTrace
import AtomicUsb.Controller.SlotLaws
import AtomicUsb.Controller.SlotSpec
import AtomicUsb.Controller.QuietServer
import AtomicUsb.Controller.Convergence
import AtomicUsb.Controller.QuietPass
import AtomicUsb.Controller.EarlyRelease
import AtomicUsb.Controller.HeldBoots
import AtomicUsb.Controller.ReadyDevices
import AtomicUsb.Controller.KeptDevices
import AtomicUsb.Controller.ReleaseOnce
import AtomicUsb.Controller.LaterPauses
import AtomicUsb.Controller.HoldTimes
import AtomicUsb.Agent.Attacher
import AtomicUsb.Agent.SessionTask
import AtomicUsb.Agent.Attaching
import AtomicUsb.Crd.Wire
import AtomicUsb.Cluster.BootReports
import AtomicUsb.Cluster.Migration
import AtomicUsb.Cluster.QuietSessions
import AtomicUsb.Cluster.SharedKey
import AtomicUsb.Watch
