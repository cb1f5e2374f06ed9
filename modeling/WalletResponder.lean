import WalletResponder.Bytes
import WalletResponder.Crypto.Aes
import WalletResponder.Crypto.BinaryField
import WalletResponder.Crypto.Cbc
import WalletResponder.Crypto.ConcatKdf
import WalletResponder.Crypto.ContentCipher
import WalletResponder.Crypto.Curve.BinaryGroups
import WalletResponder.Crypto.Curve.Ecdsa
import WalletResponder.Crypto.Curve.Group
import WalletResponder.Crypto.Curve.Key
import WalletResponder.Crypto.Curve.KnownGroups
import WalletResponder.Crypto.Curve.Point
import WalletResponder.Crypto.Curve.PrimeGroups
import WalletResponder.Crypto.Curve.Weighted
import WalletResponder.Crypto.Ed25519
import WalletResponder.Crypto.Entropy
import WalletResponder.Crypto.Exchange.Ladder
import WalletResponder.Crypto.Exchange.Residue
import WalletResponder.Crypto.Fault
import WalletResponder.Crypto.Gcm
import WalletResponder.Crypto.Hash
import WalletResponder.Crypto.KeyWrap
import WalletResponder.Crypto.Modular
import WalletResponder.Crypto.Rsa.Basic
import WalletResponder.Crypto.Rsa.Generation
import WalletResponder.Crypto.Rsa.Oaep
import WalletResponder.Crypto.Rsa.Signature
import WalletResponder.Crypto.Sha1
import WalletResponder.Crypto.Sha2
import WalletResponder.Crypto.Words
import WalletResponder.Delivery.Dispatch
import WalletResponder.Delivery.Effect
import WalletResponder.Delivery.Http
import WalletResponder.Failure
import WalletResponder.Jarm.Claims
import WalletResponder.Jarm.Negotiation
import WalletResponder.Jarm.Requirement
import WalletResponder.Jarm.Selection
import WalletResponder.Jarm.Token
import WalletResponder.Jose.Algorithm
import WalletResponder.Jose.Fault
import WalletResponder.Jose.Jwe
import WalletResponder.Jose.Jwk
import WalletResponder.Jose.Jws
import WalletResponder.Json.Basic
import WalletResponder.Json.Binary64
import WalletResponder.Json.Parser
import WalletResponder.Json.Printer
import WalletResponder.Key.Basic
import WalletResponder.Key.Content
import WalletResponder.Key.Der
import WalletResponder.Key.File
import WalletResponder.Key.Parameters
import WalletResponder.Key.Pem
import WalletResponder.Key.Signing
import WalletResponder.Main
import WalletResponder.Proofs.Bytes.Numbers
import WalletResponder.Proofs.Bytes.Pieces
import WalletResponder.Proofs.Bytes.Splitting
import WalletResponder.Proofs.Crypto.Aes
import WalletResponder.Proofs.Crypto.Authentication
import WalletResponder.Proofs.Crypto.ConcatKdf
import WalletResponder.Proofs.Crypto.ContentCipher
import WalletResponder.Proofs.Crypto.KeyWrap
import WalletResponder.Proofs.Crypto.Mask
import WalletResponder.Proofs.Crypto.Modular
import WalletResponder.Proofs.Crypto.Rsa.Oaep
import WalletResponder.Proofs.Crypto.Rsa.Powers
import WalletResponder.Proofs.Crypto.Rsa.Signature
import WalletResponder.Proofs.Delivery.EntryPoints
import WalletResponder.Proofs.Delivery.Network
import WalletResponder.Proofs.Delivery.WireParameters
import WalletResponder.Proofs.Jarm.Claims
import WalletResponder.Proofs.Jarm.Completeness
import WalletResponder.Proofs.Jarm.Draws
import WalletResponder.Proofs.Jarm.Negotiation
import WalletResponder.Proofs.Jarm.Opening
import WalletResponder.Proofs.Jarm.Reading
import WalletResponder.Proofs.Jarm.Refusals
import WalletResponder.Proofs.Jarm.Room
import WalletResponder.Proofs.Jarm.Selection
import WalletResponder.Proofs.Jarm.Statements
import WalletResponder.Proofs.Jose.Decryption
import WalletResponder.Proofs.Jose.Defects
import WalletResponder.Proofs.Jose.Draws
import WalletResponder.Proofs.Jose.ExtraHeaders
import WalletResponder.Proofs.Jose.Jwe
import WalletResponder.Proofs.Jose.Jwk
import WalletResponder.Proofs.Jose.Jws
import WalletResponder.Proofs.Jose.KeySets
import WalletResponder.Proofs.Jose.PublicKeys
import WalletResponder.Proofs.Jose.Verification
import WalletResponder.Proofs.Jose.VerificationFaults
import WalletResponder.Proofs.Json.Binary64
import WalletResponder.Proofs.Json.Blank
import WalletResponder.Proofs.Json.Integers
import WalletResponder.Proofs.Json.Layout
import WalletResponder.Proofs.Json.Lines
import WalletResponder.Proofs.Json.Members
import WalletResponder.Proofs.Json.RoundTrip
import WalletResponder.Proofs.Json.Scalars
import WalletResponder.Proofs.Json.Texts
import WalletResponder.Proofs.Key.Draws
import WalletResponder.Proofs.Key.Files
import WalletResponder.Proofs.Key.FixedWidth
import WalletResponder.Proofs.Key.Pairs
import WalletResponder.Proofs.Response.Building
import WalletResponder.Proofs.Response.Canonical
import WalletResponder.Proofs.Response.Hiding
import WalletResponder.Proofs.Response.Restriction
import WalletResponder.Proofs.Response.Submissions
import WalletResponder.Proofs.Response.Texts
import WalletResponder.Proofs.Result
import WalletResponder.Proofs.Service.Agreement
import WalletResponder.Proofs.Service.AuditTrail
import WalletResponder.Proofs.Service.Deliveries
import WalletResponder.Proofs.Service.Framing
import WalletResponder.Proofs.Service.Log
import WalletResponder.Proofs.Service.Overflow
import WalletResponder.Proofs.Service.Replies
import WalletResponder.Proofs.Service.RequestRecords
import WalletResponder.Proofs.Text.Base64Url
import WalletResponder.Proofs.Text.Sizes
import WalletResponder.Proofs.Text.Utf8
import WalletResponder.Proofs.Url.Composition
import WalletResponder.Proofs.Url.Limits
import WalletResponder.Proofs.Url.RoundTrip
import WalletResponder.Proofs.Wallet.Overlay
import WalletResponder.Proofs.Wallet.Settings
import WalletResponder.Response.Authorization
import WalletResponder.Response.Mode
import WalletResponder.Response.Parameters
import WalletResponder.Response.Payload
import WalletResponder.Response.Request
import WalletResponder.Response.RequestError
import WalletResponder.Response.Submission
import WalletResponder.Service.Connection
import WalletResponder.Service.Daemon
import WalletResponder.Service.Handler
import WalletResponder.Service.Log
import WalletResponder.Service.Message
import WalletResponder.Service.Reply
import WalletResponder.Text.Base64Url
import WalletResponder.Text.Utf8
import WalletResponder.Url.Form
import WalletResponder.Url.Locator
import WalletResponder.Url.Percent
import WalletResponder.Url.Redirect
import WalletResponder.Wallet.Config
import WalletResponder.Wallet.Overlay
