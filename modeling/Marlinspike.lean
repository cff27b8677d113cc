import Marlinspike.AccessLists
import Marlinspike.Agent.Spool
import Marlinspike.Assignments
import Marlinspike.Auth.Accounts
import Marlinspike.Auth.Lockout
import Marlinspike.Auth.Sessions
import Marlinspike.Auth.Tokens
import Marlinspike.Capd.Pollers
import Marlinspike.Capd.Registry
import Marlinspike.Capd.Rotation
import Marlinspike.Capture.Ending
import Marlinspike.Capture.Lifecycle
import Marlinspike.Capture.Policy
import Marlinspike.Capture.Sessions
import Marlinspike.Chunking
import Marlinspike.Cidr
import Marlinspike.Diffing
import Marlinspike.Dissect.Accounts
import Marlinspike.Dissect.Agreement
import Marlinspike.Dissect.ArpStream
import Marlinspike.Dissect.Assigned
import Marlinspike.Dissect.Bronze
import Marlinspike.Dissect.ChunkLoop
import Marlinspike.Dissect.Chunks
import Marlinspike.Dissect.Conservation
import Marlinspike.Dissect.Failures
import Marlinspike.Dissect.Files
import Marlinspike.Dissect.Header
import Marlinspike.Dissect.Inline
import Marlinspike.Dissect.Lines
import Marlinspike.Dissect.Orientation
import Marlinspike.Dissect.Permuted
import Marlinspike.Dissect.Reader
import Marlinspike.Dissect.Reproducible
import Marlinspike.Dissect.Spans
import Marlinspike.Dissect.Summary
import Marlinspike.Emit.Ansible
import Marlinspike.Emit.Compliance
import Marlinspike.Emit.Exports
import Marlinspike.Emit.Navigator
import Marlinspike.Emit.ProjectExports
import Marlinspike.Emit.RelationshipMap
import Marlinspike.Emit.ReportFiles
import Marlinspike.Emit.Selections
import Marlinspike.Emit.Sigma
import Marlinspike.Emit.SigmaYaml
import Marlinspike.Emit.Stix
import Marlinspike.Emit.StixBundles
import Marlinspike.Emit.SwitchAcl
import Marlinspike.Engine.Commands
import Marlinspike.Engine.Interruption
import Marlinspike.Engine.Launchers
import Marlinspike.Engine.Mirror
import Marlinspike.Engine.Pipelines
import Marlinspike.Engine.Saves
import Marlinspike.Engine.Shutdown
import Marlinspike.Engine.Staged
import Marlinspike.Engine.Vulnerabilities
import Marlinspike.Findings.Apart
import Marlinspike.Findings.Identity
import Marlinspike.Findings.Severity
import Marlinspike.Firsts
import Marlinspike.Fleet.Frames
import Marlinspike.Framing
import Marlinspike.Gateway.Custody
import Marlinspike.Gateway.Enrollment
import Marlinspike.Gateway.Isolation
import Marlinspike.Gateway.Pushes
import Marlinspike.Gateway.RateLimit
import Marlinspike.Gateway.Replies
import Marlinspike.Gateway.Revocation
import Marlinspike.Gateway.Rotations
import Marlinspike.Gateway.Schedule
import Marlinspike.Gathering
import Marlinspike.Grouping
import Marlinspike.Joining
import Marlinspike.JsonText
import Marlinspike.Migrations.FlattenSites
import Marlinspike.Noninterference
import Marlinspike.Numbered
import Marlinspike.Patterns
import Marlinspike.Plugins.Apt
import Marlinspike.Plugins.Arp
import Marlinspike.Plugins.ArpEvidence
import Marlinspike.Plugins.ArpFallback
import Marlinspike.Plugins.ArpStorm
import Marlinspike.Plugins.Cisa
import Marlinspike.Plugins.CisaAliases
import Marlinspike.Plugins.CisaCoverage
import Marlinspike.Plugins.Enrich
import Marlinspike.Plugins.Mitre
import Marlinspike.Plugins.MitreEvidence
import Marlinspike.Plugins.RulePacks
import Marlinspike.Plugins.Values
import Marlinspike.Projects.Isolation
import Marlinspike.Projects.Membership
import Marlinspike.Recovery.Argv
import Marlinspike.Recovery.Finalizers
import Marlinspike.Recovery.Reaper
import Marlinspike.Recovery.Verdicts
import Marlinspike.Renaming
import Marlinspike.Replacing
import Marlinspike.Reports.Aggregate
import Marlinspike.Reports.Audit
import Marlinspike.Reports.Baselines
import Marlinspike.Reports.Counts
import Marlinspike.Reports.Diff
import Marlinspike.Reports.DnsObservations
import Marlinspike.Reports.Iocs
import Marlinspike.Reports.Order
import Marlinspike.Reports.Siblings
import Marlinspike.Reports.Timeline
import Marlinspike.Retrying
import Marlinspike.Risk.Advisories
import Marlinspike.Risk.Categories
import Marlinspike.Risk.Conversations
import Marlinspike.Risk.External
import Marlinspike.Risk.Score
import Marlinspike.Risk.Surface
import Marlinspike.Scans.Slots
import Marlinspike.Scans.Stops
import Marlinspike.Scans.Uploads
import Marlinspike.Scheduler.DueSlots
import Marlinspike.Scheduler.Ticks
import Marlinspike.Selecting
import Marlinspike.Setup.Wizard
import Marlinspike.Sorting
import Marlinspike.Spacing
import Marlinspike.Struct
import Marlinspike.Topology.Addresses
import Marlinspike.Topology.Edges
import Marlinspike.Topology.Endpoints
import Marlinspike.Topology.Graph
import Marlinspike.Topology.Keys
import Marlinspike.Topology.Levels
import Marlinspike.Topology.Merge
import Marlinspike.Topology.Profile
import Marlinspike.Topology.Tables
import Marlinspike.Webhook.Caps
import Marlinspike.Webhook.Masking
import Marlinspike.Webhook.Settings
import Marlinspike.Webhook.Tickets
import Marlinspike.Words
import Marlinspike.Yaml.Blocks
import Marlinspike.Yaml.Scalars
