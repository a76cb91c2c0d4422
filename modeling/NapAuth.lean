import NapAuth.Interleaving.System
import NapAuth.Acl.Overrides
import NapAuth.Acl.Roles
import NapAuth.Adapters
import NapAuth.Audience
import NapAuth.Budget
import NapAuth.Codec.Base64
import NapAuth.Codec.Hex
import NapAuth.Completion
import NapAuth.CookieSession
import NapAuth.Disclosure
import NapAuth.Issue
import NapAuth.Lifetime
import NapAuth.Limiter.RetryAfter
import NapAuth.Lockout
import NapAuth.Metrics
import NapAuth.Nip46.NostrConnect
import NapAuth.Nip46.Disconnect
import NapAuth.Orphans
import NapAuth.RefreshLoop
import NapAuth.StepUp
import NapAuth.Store.Agreement
import NapAuth.Store.Rows
import NapAuth.Voucher.IssuerKeys
import NapAuth.Voucher.Numbers
import NapAuth.Voucher.Expiry
import NapAuth.Voucher.Refetch
import NapAuth.Voucher.Completeness
import NapAuth.RoundTrip
import NapAuth.CrossOrigin.Binding
import NapAuth.CrossOrigin.Settles
import NapAuth.CrossOrigin.Remembered
import NapAuth.Web.Idle
import NapAuth.Web.Logout
import NapAuth.Web.SecretStore
import NapAuth.Web.Tabs
import NapAuth.CrossOrigin.Channel
import NapAuth.React.Reunlock
