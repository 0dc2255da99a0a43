import LeaseKeeper.Agent.Errand
import LeaseKeeper.Agent.Rehearsal
import LeaseKeeper.File.Change
import LeaseKeeper.Main
import LeaseKeeper.Proofs.Fault.Chain
import LeaseKeeper.Proofs.Keeper.Cancellation
import LeaseKeeper.Proofs.Keeper.Credential
import LeaseKeeper.Proofs.Keeper.Secrecy
import LeaseKeeper.Proofs.Keeper.Spacing
import LeaseKeeper.Proofs.Log.Framing
import LeaseKeeper.Proofs.Shutdown.Agreement
import LeaseKeeper.Proofs.TokenFile.Halfway
import LeaseKeeper.Proofs.Vault.Address
import LeaseKeeper.Proofs.Vault.AuthDocument
import LeaseKeeper.Proofs.Watch.Owner
import LeaseKeeper.Script
import LeaseKeeper.Proofs.Time.Accuracy
import LeaseKeeper.Proofs.Watch.Calls
import LeaseKeeper.Proofs.Watch.Range
import LeaseKeeper.Proofs.Watch.Growth
import LeaseKeeper.Proofs.Keeper.Growth
import LeaseKeeper.Proofs.Watch.Retry
import LeaseKeeper.Proofs.Watch.Budget
import LeaseKeeper.Proofs.Watch.Stop
import LeaseKeeper.Proofs.TokenFile.Persisted
import LeaseKeeper.Proofs.Vault.Identity
import LeaseKeeper.Proofs.Vault.Reasons
import LeaseKeeper.Proofs.Settings.Interval
