import CachingProxy.Main
import CachingProxy.Service.Router
import CachingProxy.Proofs.Flight.Replay
import CachingProxy.Proofs.Flight.Orphans
import CachingProxy.Proofs.Flight.Leaders
import CachingProxy.Proofs.Follower.Reading
import CachingProxy.Proofs.Relay.Transparency
import CachingProxy.Proofs.Relay.Aftermath
import CachingProxy.Proofs.Store.View
import CachingProxy.Proofs.Store.Balance
import CachingProxy.Proofs.Follower.Dispatch
import CachingProxy.Proofs.Relay.Precedence
import CachingProxy.Proofs.Relay.Rush
import CachingProxy.Proofs.Relay.Apart
import CachingProxy.Proofs.Relay.Departure
import CachingProxy.Proofs.Settings.Checked
import CachingProxy.Proofs.Settings.Names
import CachingProxy.Proofs.Settings.Ready
import CachingProxy.Proofs.Url.Continued
import CachingProxy.Proofs.Url.Tidy
import CachingProxy.Proofs.Settings.Base
import CachingProxy.Proofs.Desk.Quiet
import CachingProxy.Proofs.Service.Tally
import CachingProxy.Proofs.Service.Reception
import CachingProxy.Proofs.Flight.Lifecycle
import CachingProxy.Proofs.Follower.Crew
import CachingProxy.Proofs.Service.Purging
import CachingProxy.Proofs.Relay.Pacing
import CachingProxy.Proofs.Http.HopByHop
import CachingProxy.Proofs.Http.Directive
import CachingProxy.Proofs.Store.Consistency
import CachingProxy.Proofs.Origin.Attempts
