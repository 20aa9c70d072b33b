import TopicGuard.Backend.Run
import TopicGuard.CommandLine.Run
import TopicGuard.Config.Options
import TopicGuard.Main
import TopicGuard.Proofs.AccessTokens
import TopicGuard.Proofs.Accounting
import TopicGuard.Proofs.Acl.Sections
import TopicGuard.Proofs.Acl.Written
import TopicGuard.Proofs.Bcrypt.Radix64
import TopicGuard.Proofs.Bcrypt.Written
import TopicGuard.Proofs.Candidates
import TopicGuard.Proofs.Clients
import TopicGuard.Proofs.Comments
import TopicGuard.Proofs.ConfigTexts
import TopicGuard.Proofs.Confinement
import TopicGuard.Proofs.DryRuns
import TopicGuard.Proofs.Excess
import TopicGuard.Proofs.Identities
import TopicGuard.Proofs.InStep
import TopicGuard.Proofs.Insertion
import TopicGuard.Proofs.LastEntry
import TopicGuard.Proofs.LineEnds
import TopicGuard.Proofs.Logins
import TopicGuard.Proofs.Messages
import TopicGuard.Proofs.Options
import TopicGuard.Proofs.Replacement
import TopicGuard.Proofs.Replies
import TopicGuard.Proofs.Runs
import TopicGuard.Proofs.Secrecy
import TopicGuard.Proofs.Sessions
import TopicGuard.Proofs.Snapshots
import TopicGuard.Proofs.Verdicts
import TopicGuard.Proofs.Widening
import TopicGuard.Session
import TopicGuard.Store.Summary
import TopicGuard.Proofs.Runs
