import Provision.Cluster
import Provision.Interleaving
import Provision.Main
import Provision.Remote.Server
import Provision.Scripted
import Provision.Proofs.Contract
import Provision.Proofs.Interference
import Provision.Proofs.Bracket
import Provision.Proofs.Growth
import Provision.Proofs.Alone
import Provision.Proofs.History
import Provision.Proofs.Repetition
import Provision.Proofs.Up
import Provision.Proofs.Admission
import Provision.Proofs.Authorship
import Provision.Proofs.Race
import Provision.Proofs.Recovery
import Provision.Proofs.Winners
import Provision.Proofs.CallProtocol
import Provision.Proofs.Sessions
import Provision.Proofs.Outcome
import Provision.Proofs.Masked
import Provision.Proofs.Secrecy
import Provision.Proofs.Wire
import Provision.Proofs.FirstDocument
import Provision.Proofs.WriteGating
import Provision.Proofs.Lasting
import Provision.Proofs.MarkerOptions
import Provision.Proofs.LoadedAccount
import Provision.Proofs.ModeSwitches
import Provision.Proofs.Isolation
import Provision.Proofs.Survey
import Provision.Proofs.Readback
import Provision.Proofs.FirstFault
import Provision.Proofs.GrantGrammar
import Provision.Proofs.GrantRoundTrip
import Provision.Proofs.Checklist
import Provision.Proofs.Independence
import Provision.Proofs.Attempts
import Provision.Proofs.MarkerCodec
import Provision.Proofs.Atomicity
import Provision.Proofs.Identifiers
import Provision.Proofs.Traffic
import Provision.Proofs.PlanOverrides
import Provision.Proofs.LoginCheck
import Provision.Proofs.Listing
import Provision.Proofs.Journal
import Provision.Proofs.ExitStatus
import Provision.Proofs.GrantSets
import Provision.Proofs.UniqueNames
