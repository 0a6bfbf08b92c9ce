import PriorityAgents.Json.Printer
import PriorityAgents.Main
import PriorityAgents.Proofs.Controller.Answers
import PriorityAgents.Proofs.Controller.Attest
import PriorityAgents.Proofs.Controller.Blindness
import PriorityAgents.Proofs.Controller.Choice
import PriorityAgents.Proofs.Controller.Crowding
import PriorityAgents.Proofs.Controller.Fallback
import PriorityAgents.Proofs.Controller.Farewell
import PriorityAgents.Proofs.Controller.Haste
import PriorityAgents.Proofs.Controller.Keeping
import PriorityAgents.Proofs.Controller.Likeness
import PriorityAgents.Proofs.Controller.Prospect
import PriorityAgents.Proofs.Controller.Rearming
import PriorityAgents.Proofs.Controller.Regrouping
import PriorityAgents.Proofs.Event.Composition
import PriorityAgents.Proofs.Event.Lifecycle
import PriorityAgents.Proofs.Journal.Docket
import PriorityAgents.Proofs.Journal.Punctuality
import PriorityAgents.Proofs.Parameters.Recollection
import PriorityAgents.Proofs.Patrol.Blindness
import PriorityAgents.Proofs.Patrol.Conduct
import PriorityAgents.Proofs.Patrol.Raids
import PriorityAgents.Proofs.Rule.Parts
import PriorityAgents.Proofs.Timer.CatchUp
import PriorityAgents.Proofs.Timer.Contents
import PriorityAgents.Proofs.Timer.Handles
import PriorityAgents.Proofs.Timer.Idleness
import PriorityAgents.Proofs.Timer.Ledger
import PriorityAgents.Proofs.Timer.Promptness
import PriorityAgents.Proofs.Timer.Reach
import PriorityAgents.Proofs.World.Absence
import PriorityAgents.Proofs.World.Attest
import PriorityAgents.Proofs.World.Calls
import PriorityAgents.Proofs.World.Courier
import PriorityAgents.Proofs.World.Departure
import PriorityAgents.Proofs.World.Drivers
import PriorityAgents.Proofs.World.Echo
import PriorityAgents.Proofs.World.Farewell
import PriorityAgents.Proofs.World.Haste
import PriorityAgents.Proofs.World.Idleness
import PriorityAgents.Proofs.World.Isolation
import PriorityAgents.Proofs.World.Keeping
import PriorityAgents.Proofs.World.Mail
import PriorityAgents.Proofs.World.Prospect
import PriorityAgents.Proofs.World.Punctuality
import PriorityAgents.Proofs.World.Rearming
import PriorityAgents.Proofs.World.Register
import PriorityAgents.Proofs.World.Rounds
import PriorityAgents.Proofs.World.Settlement
import PriorityAgents.Proofs.World.Silence
import PriorityAgents.Proofs.World.Solo
import PriorityAgents.Proofs.World.Streams
import PriorityAgents.Proofs.World.Wording
