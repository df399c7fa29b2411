import QuizEngine.Http.Server
import QuizEngine.KeyedLocks
import QuizEngine.Main
import QuizEngine.Proofs.History
import QuizEngine.Proofs.Interleaving
import QuizEngine.Proofs.Numbering
import QuizEngine.Proofs.Grades
import QuizEngine.Proofs.Progress
import QuizEngine.Proofs.Values
import QuizEngine.Proofs.Quotients
import QuizEngine.Proofs.Percentages
import QuizEngine.Proofs.Batches
import QuizEngine.Proofs.Starts
import QuizEngine.Proofs.Contents
import QuizEngine.Proofs.Recordings
import QuizEngine.Proofs.Completion
import QuizEngine.Proofs.Locks
import QuizEngine.Proofs.LockOrder
import QuizEngine.Proofs.Disclosure
import QuizEngine.Proofs.Outsiders
import QuizEngine.Proofs.Provisional
import QuizEngine.Proofs.Timing
import QuizEngine.Proofs.Freshness
import QuizEngine.Proofs.Withheld
import QuizEngine.Proofs.Masking
import QuizEngine.Proofs.Bearers
import QuizEngine.Proofs.Verdicts
import QuizEngine.Proofs.Loosening
import QuizEngine.Proofs.Acceptance
import QuizEngine.Proofs.Retries
import QuizEngine.Proofs.Stoppages
import QuizEngine.Proofs.Resubmission
import QuizEngine.Proofs.Rejections
import QuizEngine.Proofs.Reorderings
import QuizEngine.Proofs.Backlog
import QuizEngine.Proofs.Figures
import QuizEngine.Proofs.Payloads
import QuizEngine.Proofs.Deliveries
import QuizEngine.Proofs.Renderings
import QuizEngine.Proofs.Means
import QuizEngine.Proofs.Refreshes
