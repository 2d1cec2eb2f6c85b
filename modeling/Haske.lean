import Haske.Lib.Machine
import Haske.Lib.Base64
import Haske.Lib.Signing
import Haske.AccessToken.Token
import Haske.AccessToken.Sign
import Haske.AccessToken.Compact
import Haske.Verifier.Cli
import Haske.Verifier.Soundness
import Haske.Verifier.Verdict
import Haske.Qr
import Haske.Server.Access
import Haske.Verifier.Rendering
import Haske.Lib.Decimal
import Haske.Stellar.Provider
import Haske.Stellar.Matching
import Haske.Server.Session
import Haske.Server.Step
import Haske.Server.Invariant
import Haske.Server.Fresh
import Haske.Lib.Ledger
import Haske.Server.Refinement
import Haske.Server.Authorisation
import Haske.Server.Deadlines
import Haske.Server.Tick
import Haske.Verifier.Boundary
import Haske.AccessToken.Legacy
import Haske.Server.Stable
import Haske.Lib.Json.Length
import Haske.Server.Capacity
import Haske.Client.Api
import Haske.Client.Store
import Haske.Client.Agreement
import Haske.Lightning.Invariant
import Haske.Lightning.Settlement
import Haske.Checkout.Page
import Haske.Checkout.Calm
import Haske.Checkout.Sessions
import Haske.Checkout.Confirmed
import Haske.Checkout.Knows
import Haske.Client.Recovery
import Haske.Client.Stored
import Haske.Lib.Uri
import Haske.Stellar.Wallet
import Haske.Stellar.Horizon
import Haske.Server.Creation
import Haske.Server.Independence
import Haske.Client.Retry
import Haske.Client.StrictMode
import Haske.Client.AccessPass
import Haske.Client.Creating
import Haske.System.World
import Haske.System.Exchange
import Haske.System.Pages
import Haske.System.Shown
import Haske.System.Final
import Haske.System.Door
import Haske.System.Payment
import Haske.System.Gate
import Haske.Checkout.View
import Haske.System.Standalone
import Haske.Lightning.Pass
import Haske.Stellar.Wire
import Haske.Lightning.Contract
import Haske.Lightning.Mock
import Haske.Plan.Page
import Haske.Plan.Rest
import Haske.Lightning.Wire
import Haske.System.Plan
