import GpioBroker.Main
import GpioBroker.Client
import GpioBroker.Log.Template
import GpioBroker.ObjectBus.Scripted
import GpioBroker.Roster.Entries
import GpioBroker.Service
import GpioBroker.UeventSource.Scripted
import GpioBroker.Proofs.Chips
import GpioBroker.Proofs.Registration
import GpioBroker.Proofs.Exposure
import GpioBroker.Proofs.Removal
import GpioBroker.Proofs.Addition
import GpioBroker.Proofs.Passage
import GpioBroker.Proofs.Ownership
import GpioBroker.Proofs.Linkage
import GpioBroker.Proofs.Ledger
import GpioBroker.Proofs.Startup
import GpioBroker.Proofs.Stages
import GpioBroker.Proofs.Accounts
import GpioBroker.Proofs.Interleaving
import GpioBroker.Proofs.Schedule
import GpioBroker.Proofs.Queueing
import GpioBroker.Proofs.Course
import GpioBroker.Proofs.Teardown
import GpioBroker.Proofs.Telling
import GpioBroker.Proofs.Reports
import GpioBroker.Proofs.Abstention
import GpioBroker.Proofs.Pursuit
import GpioBroker.Proofs.Precedence
import GpioBroker.Proofs.Restraint
import GpioBroker.Proofs.Delivery
import GpioBroker.Proofs.Holding
import GpioBroker.Proofs.Mirror
import GpioBroker.Proofs.Reading
import GpioBroker.Proofs.Opening
import GpioBroker.Proofs.Rejection
import GpioBroker.Proofs.Neutrality
import GpioBroker.Proofs.Complaints
import GpioBroker.Proofs.Murmurs
import GpioBroker.Proofs.Verdict
import GpioBroker.Proofs.Parting
import GpioBroker.Proofs.Severance
import GpioBroker.Proofs.Replay
import GpioBroker.Proofs.Destruction
import GpioBroker.Proofs.Comparison
import GpioBroker.Proofs.Outlook
import GpioBroker.Proofs.Confinement
import GpioBroker.Proofs.Unison
import GpioBroker.Proofs.Isolation
import GpioBroker.Proofs.Commutation
import GpioBroker.Proofs.Screening
import GpioBroker.Proofs.Tagging
import GpioBroker.Proofs.Concurrence
import GpioBroker.Proofs.Generations
import GpioBroker.Proofs.Clearance
import GpioBroker.Proofs.Sorting
import GpioBroker.Proofs.Listing
