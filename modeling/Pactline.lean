import Pactline.Results.Dependencies
import Pactline.Results.ScheduleShift
import Pactline.Results.ClaimListing
import Pactline.Results.TaskList
import Pactline.Results.Readiness
import Pactline.Results.AttachmentContent
import Pactline.Results.ClaimCommands
import Pactline.Results.TaskVersions
import Pactline.Results.Deliveries
import Pactline.Results.IdempotentRetries
import Pactline.Results.Outbox
import Pactline.Results.RabbitMQ
import Pactline.Results.AgentMethods
import Pactline.Results.Artifacts
import Pactline.Results.Conversations
import Pactline.Results.Projects
import Pactline.Results.Threads
import Pactline.Results.Invitations
import Pactline.Results.ProviderChecks
import Pactline.Results.Credits
import Pactline.Results.DraftVisibility
import Pactline.Results.RateLimit
import Pactline.Results.LocalStore
import Pactline.Results.Workflow
