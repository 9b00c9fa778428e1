import MulticaOS.EmptyClaim
import MulticaOS.TaskQueue.Promotion
import MulticaOS.Comments.Obligations
import MulticaOS.Attribution.Chains
import MulticaOS.Scheduler.Reentry
import MulticaOS.Scheduler.CatchUp
import MulticaOS.Issues.Interleavings
import MulticaOS.Issues.Parents
import MulticaOS.Autopilots.Deliveries
import MulticaOS.Autopilots.Occurrences
import MulticaOS.Autopilots.Endings
import MulticaOS.Properties.Histories
import MulticaOS.IssueTable.HeaderWalks
import MulticaOS.Realtime.Duplicates
import MulticaOS.Channels.Delivery
import MulticaOS.Channels.Exclusion
import MulticaOS.Media.Safety
import MulticaOS.Scheduler.Enumerators
import MulticaOS.WorkQueue.Statuses
import MulticaOS.WorkQueue.Firing
import MulticaOS.Daemon.Claims
import MulticaOS.Snapshots.TrailingEdge
import MulticaOS.PullRequests.Redelivery
import MulticaOS.Usage.Accounting
import MulticaOS.WorkQueue.Ordering
import MulticaOS.TaskQueue.Batches
import MulticaOS.Resolutions.Coherence
import MulticaOS.TaskQueue.Sessions
import MulticaOS.ChildDone.Updates
import MulticaOS.WorkQueue.Retrying
import MulticaOS.Comments.Delivery
import MulticaOS.SkillBundles.Manifest
import MulticaOS.FeatureFlags.Rules
import MulticaOS.IssueLists.Fetching
import MulticaOS.IssueLists.Windows
import MulticaOS.IssueLists.Deletion
import MulticaOS.IssueTriggers.Matching
import MulticaOS.TaskQueue.BatchClaims
import MulticaOS.Chats.Outcomes
import MulticaOS.Cron.Completeness
import MulticaOS.Chats.Transcripts
import MulticaOS.PullRequests.Spellings
import MulticaOS.IssueTable.FacetCounts
import MulticaOS.LongConnection.Frames
import MulticaOS.Channels.Debouncing
import MulticaOS.IssueCreation.Transactions
import MulticaOS.IssueCreation.Consistency
import MulticaOS.Issues.Workspaces
import MulticaOS.IssueTable.HeaderCounts
import MulticaOS.TaskQueue.Records
import MulticaOS.IssueCreation.Progress
import MulticaOS.Usage.CatchUp
import MulticaOS.Channels.Draining
import MulticaOS.IssueTable.Hierarchy
