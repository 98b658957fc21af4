import Entitlement.Http.Server
import Entitlement.Log.Session
import Entitlement.Lookup.Config.Session
import Entitlement.Main
import Entitlement.Proofs.Entry.Keeping
import Entitlement.Proofs.Entry.Start
import Entitlement.Proofs.Http.Partition
import Entitlement.Proofs.Log.Call
import Entitlement.Proofs.Log.Content
import Entitlement.Proofs.Log.Fields
import Entitlement.Proofs.Log.History
import Entitlement.Proofs.Log.Threshold
import Entitlement.Proofs.Lookup.Attribution
import Entitlement.Proofs.Lookup.Canonical
import Entitlement.Proofs.Lookup.Concurrency
import Entitlement.Proofs.Lookup.Configuration
import Entitlement.Proofs.Lookup.FirstRow
import Entitlement.Proofs.Lookup.Grants
import Entitlement.Proofs.Lookup.HookFrame
import Entitlement.Proofs.Lookup.Identifier
import Entitlement.Proofs.Lookup.Isolation
import Entitlement.Proofs.Lookup.Loading
import Entitlement.Proofs.Lookup.LogTrail
import Entitlement.Proofs.Lookup.Password
import Entitlement.Proofs.Lookup.RolePrefix
import Entitlement.Proofs.Lookup.Schedule
import Entitlement.Proofs.Lookup.Script
import Entitlement.Proofs.Lookup.Trace
import Entitlement.Proofs.Lookup.Union
import Entitlement.Proofs.Lookup.Wording
import Entitlement.Proofs.Query.Grammar
import Entitlement.Proofs.Query.OneBind
import Entitlement.Proofs.Query.Placing
import Entitlement.Proofs.Settings.Selection
import Entitlement.Proofs.Store.DefaultQueries
import Entitlement.Proofs.Store.Folding
import Entitlement.Proofs.Store.Insertion
import Entitlement.Proofs.Store.Integrity
import Entitlement.Proofs.Store.Literal
import Entitlement.Proofs.Store.OutputReading
import Entitlement.Proofs.Store.Outputs
import Entitlement.Proofs.Store.Positional
import Entitlement.Proofs.Store.Selection
import Entitlement.Proofs.Store.Soundness
import Entitlement.Proofs.TextForm
import Entitlement.Proofs.Value.Flag
import Entitlement.Proofs.Value.Text
