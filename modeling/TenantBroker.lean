import TenantBroker.Cluster.View
import TenantBroker.Http.Service
import TenantBroker.Log.Setup
import TenantBroker.Main
import TenantBroker.Proofs.Broker.Clearance
import TenantBroker.Proofs.Broker.Contest
import TenantBroker.Proofs.Broker.Dashboard
import TenantBroker.Proofs.Broker.Isolation
import TenantBroker.Proofs.Broker.Outage
import TenantBroker.Proofs.Broker.Poll
import TenantBroker.Proofs.Broker.Session
import TenantBroker.Proofs.Broker.Trace
import TenantBroker.Proofs.Config
import TenantBroker.Proofs.FrontEnds
import TenantBroker.Proofs.Identity
import TenantBroker.Proofs.Kubectl.Classification
import TenantBroker.Proofs.Kubectl.Deadline
import TenantBroker.Proofs.Number.Binary64
import TenantBroker.Proofs.Pipeline.Accounting
import TenantBroker.Proofs.Tenant.Agreement
import TenantBroker.Proofs.Tenant.Containment
import TenantBroker.Proofs.Tenant.Naming
import TenantBroker.Startup
