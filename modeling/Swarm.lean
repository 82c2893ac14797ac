import Swarm.Bencode.Encoding
import Swarm.Main
import Swarm.Peer.WaitRoom
import Swarm.Scenario.Download
import Swarm.Scenario.Feed
import Swarm.Proofs.Piece.Blocks
import Swarm.Proofs.Storage.Ranges
import Swarm.Proofs.Transfer.Calls
import Swarm.Proofs.Torrent.Layout
import Swarm.Proofs.Transfer.Sound
import Swarm.Proofs.Transfer.Changes
import Swarm.Proofs.Transfer.Steps
import Swarm.Proofs.Transfer.Pools
import Swarm.Proofs.Transfer.Requests
import Swarm.Proofs.Transfer.Disk
import Swarm.Proofs.Transfer.Progress
import Swarm.Proofs.Transfer.Blocks
import Swarm.Proofs.Transfer.Handouts
import Swarm.Proofs.Torrent.Octets
import Swarm.Proofs.Transfer.Accounting
import Swarm.Proofs.Transfer.Answers
import Swarm.Proofs.Transfer.Honest
import Swarm.Proofs.Transfer.Completion
import Swarm.Proofs.Peer.Registration
import Swarm.Proofs.Wire.Framing
import Swarm.Proofs.Peer.Conversation
import Swarm.Proofs.Peer.InFlight
import Swarm.Proofs.Transfer.Announcements
import Swarm.Proofs.Peer.Discipline
import Swarm.Proofs.Scenario.Connections
import Swarm.Proofs.Scenario.Opening
import Swarm.Proofs.Scenario.Seeder
import Swarm.Proofs.Scenario.Seeding
import Swarm.Proofs.Bencode.Grammar
import Swarm.Proofs.Bencode.Entries
import Swarm.Proofs.Bencode.Reading
import Swarm.Proofs.Bencode.Canonical
import Swarm.Proofs.Bencode.RoundTrip
import Swarm.Proofs.Bencode.RawValue
import Swarm.Proofs.Bencode.Bounds
import Swarm.Proofs.Bencode.Scanning
import Swarm.Proofs.Transfer.Ledger
import Swarm.Proofs.Torrent.InfoHash
import Swarm.Proofs.Wire.Transcript
import Swarm.Proofs.Client.Announcing
import Swarm.Proofs.Scenario.Announces
import Swarm.Proofs.Peer.Waiting
import Swarm.Proofs.Torrent.Acceptance
import Swarm.Proofs.Transfer.Tiling
import Swarm.Proofs.Transfer.Finished
import Swarm.Proofs.Client.Supervising
import Swarm.Proofs.Scenario.Supervised
import Swarm.Proofs.Transfer.Roster
import Swarm.Proofs.Transfer.Choice
import Swarm.Proofs.Transfer.Arrival
import Swarm.Proofs.Transfer.Refusals
import Swarm.Proofs.Transfer.Failures
import Swarm.Proofs.Bencode.Advancing
import Swarm.Proofs.Bencode.Depth
import Swarm.Proofs.Wire.Codec
import Swarm.Proofs.Wire.Greeting
import Swarm.Proofs.Tracker.Query
import Swarm.Proofs.Peer.Leaving
import Swarm.Proofs.Peer.Stopping
import Swarm.Proofs.Scenario.Ending
import Swarm.Proofs.Tracker.Parameters
import Swarm.Proofs.Tracker.Outcome
import Swarm.Proofs.Tracker.PeerLists
import Swarm.Proofs.Storage.Paths
import Swarm.Proofs.Client.Naming
import Swarm.Proofs.Storage.Directories
import Swarm.Proofs.Piece.Assembly
import Swarm.Proofs.Storage.Writes
import Swarm.Proofs.Transfer.Likeness
