import SealedTokens.Http.Layer
import SealedTokens.Jwt.SignerCache
import SealedTokens.Report.Service
import SealedTokens.Report.Token
import SealedTokens.Proofs.BackendAgreement
import SealedTokens.Proofs.ChangedQueries
import SealedTokens.Proofs.ClientIsolation
import SealedTokens.Proofs.CsrfGuard
import SealedTokens.Proofs.KeepAlive
import SealedTokens.Proofs.CalendarLimits
import SealedTokens.Proofs.SectionChecks
import SealedTokens.Proofs.NeighbouringCookies
import SealedTokens.Proofs.SignedTargets
import SealedTokens.Proofs.TextTokens
import SealedTokens.Proofs.CookieNames
import SealedTokens.Proofs.CookieAttributes
import SealedTokens.Proofs.ClaimTimes
import SealedTokens.Proofs.FreshSessions
import SealedTokens.Proofs.FailedCalls
import SealedTokens.Proofs.EnvironmentOverrides
import SealedTokens.Proofs.LegalContainers
import SealedTokens.Proofs.HeaderLanguage
import SealedTokens.Proofs.CookieDomains
import SealedTokens.Proofs.SharedRandomness
import SealedTokens.Proofs.HostileStreams
import SealedTokens.Proofs.SharedSigners
