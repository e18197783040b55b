import SeamlessSwarm.Lib.Trace
import SeamlessSwarm.Registry
import SeamlessSwarm.Lifecycle
import SeamlessSwarm.Frames
import SeamlessSwarm.Topology
import SeamlessSwarm.Lib.Text
import SeamlessSwarm.Worker
import SeamlessSwarm.Dispatch
import SeamlessSwarm.Progress
import SeamlessSwarm.Passes
import SeamlessSwarm.Delivery
import SeamlessSwarm.Reports
import SeamlessSwarm.Admission
import SeamlessSwarm.Election
import SeamlessSwarm.Leadership
import SeamlessSwarm.Resume
import SeamlessSwarm.Departure
import SeamlessSwarm.Freshness
import SeamlessSwarm.Attachment
import SeamlessSwarm.Availability
import SeamlessSwarm.Exclusion
import SeamlessSwarm.Joining
import SeamlessSwarm.Trust
import SeamlessSwarm.Agreement
import SeamlessSwarm.Eviction
import SeamlessSwarm.Interactive
import SeamlessSwarm.Balance
import SeamlessSwarm.Reallocation
import SeamlessSwarm.Submissions
import SeamlessSwarm.Disclosure
import SeamlessSwarm.Routing
import SeamlessSwarm.Probing
import SeamlessSwarm.Recovery
import SeamlessSwarm.Placement
import SeamlessSwarm.Policy
import SeamlessSwarm.Advertised
import SeamlessSwarm.Retention
import SeamlessSwarm.Enrolment
import SeamlessSwarm.Prompts
import SeamlessSwarm.Announcements
import SeamlessSwarm.Framing
import SeamlessSwarm.Retries
import SeamlessSwarm.Adaptation
import SeamlessSwarm.SecureElement
import SeamlessSwarm.Lib.Utf8
import SeamlessSwarm.Lib.Lines
import SeamlessSwarm.Inference
import SeamlessSwarm.Cluster
import SeamlessSwarm.Provenance
import SeamlessSwarm.Answers
import SeamlessSwarm.Session
import SeamlessSwarm.Lib.Requests
import SeamlessSwarm.Sessions
import SeamlessSwarm.Conversations
import SeamlessSwarm.Attempt
import SeamlessSwarm.Handshakes
import SeamlessSwarm.Rounds
import SeamlessSwarm.Lib.Broadcast
import SeamlessSwarm.Neighbourhood
