import CertEnroll.Authority.Backend
import CertEnroll.Authority.Error
import CertEnroll.Authority.Form
import CertEnroll.Authority.LocalCa
import CertEnroll.Authority.Pickup
import CertEnroll.Authority.Scripted
import CertEnroll.Authority.Tpp
import CertEnroll.Authority.VaultPki
import CertEnroll.Calendar
import CertEnroll.Certificate
import CertEnroll.Certificate.Summary
import CertEnroll.CommandLine.Grammar
import CertEnroll.CommandLine.LogFilter
import CertEnroll.CommandLine.Output
import CertEnroll.CommandLine.Reader
import CertEnroll.CommandLine.Run
import CertEnroll.Crypto.Ecdsa
import CertEnroll.Crypto.EllipticCurve
import CertEnroll.Crypto.Hmac
import CertEnroll.Crypto.Key
import CertEnroll.Crypto.Modular
import CertEnroll.Crypto.Rsa
import CertEnroll.Crypto.Sha2
import CertEnroll.Decimal.Binary64
import CertEnroll.Decimal.Shortest
import CertEnroll.Der.Certificate
import CertEnroll.Der.Element
import CertEnroll.Der.Identifier
import CertEnroll.Der.Time
import CertEnroll.Der.Tree
import CertEnroll.Document.Decode
import CertEnroll.Document.Node
import CertEnroll.Enrollment.Bind
import CertEnroll.Enrollment.Call
import CertEnroll.Enrollment.Issue
import CertEnroll.Enrollment.Poll
import CertEnroll.Enrollment.Trouble
import CertEnroll.Enrollment.World
import CertEnroll.Error
import CertEnroll.Http
import CertEnroll.Json.Basic
import CertEnroll.Json.Literal
import CertEnroll.Json.Number
import CertEnroll.Json.Printer
import CertEnroll.Json.Reader
import CertEnroll.KeyPolicy
import CertEnroll.Lease
import CertEnroll.Main
import CertEnroll.Metrics
import CertEnroll.Octets
import CertEnroll.Pem
import CertEnroll.Proofs.Failure
import CertEnroll.Proofs.History
import CertEnroll.Proofs.Issued
import CertEnroll.Proofs.Issuing
import CertEnroll.Proofs.Keeping
import CertEnroll.Proofs.Order
import CertEnroll.Proofs.PollBound
import CertEnroll.Proofs.Polling
import CertEnroll.Record
import CertEnroll.Report.Certificate
import CertEnroll.Report.Error
import CertEnroll.Report.Lease
import CertEnroll.Report.Mask
import CertEnroll.Report.Settings
import CertEnroll.Report.Store
import CertEnroll.Response
import CertEnroll.Roles
import CertEnroll.Secret
import CertEnroll.Serial
import CertEnroll.Settings.Basic
import CertEnroll.Settings.Check
import CertEnroll.Settings.Environment
import CertEnroll.Settings.Reader
import CertEnroll.SigningRequest.Basic
import CertEnroll.SigningRequest.Reader
import CertEnroll.Store.Backend
import CertEnroll.Store.Basic
import CertEnroll.Store.VaultKv
import CertEnroll.SubjectNames
import CertEnroll.Text.Base64
import CertEnroll.Text.Blank
import CertEnroll.Text.CasingTable
import CertEnroll.Text.EscapedTable
import CertEnroll.Text.Hex
import CertEnroll.Text.Lowercase
import CertEnroll.Text.Quoted
import CertEnroll.Text.Utf8
import CertEnroll.Toml.Reader
import CertEnroll.Toml.Scalar
import CertEnroll.Toml.Table
import CertEnroll.Url.Basic
import CertEnroll.Url.Host
import CertEnroll.Uuid
import CertEnroll.Vault.Client
import CertEnroll.Vault.Health
import CertEnroll.Vault.Reply
import CertEnroll.Yaml.Printer
import CertEnroll.Yaml.Scalar
import CertEnroll.Proofs.Pickup
import CertEnroll.Proofs.Handout
import CertEnroll.Proofs.Octets
import CertEnroll.Proofs.Texts
import CertEnroll.Proofs.Trees
import CertEnroll.Proofs.Armour
import CertEnroll.Proofs.RequestForm
import CertEnroll.Proofs.AltNames
import CertEnroll.Proofs.Served
import CertEnroll.Proofs.Rebinding
import CertEnroll.Proofs.Literals
import CertEnroll.Proofs.Records
import CertEnroll.Proofs.Recorded
import CertEnroll.Proofs.KeySecrecy
import CertEnroll.Proofs.RequestInfo
import CertEnroll.Proofs.Base64
import CertEnroll.Proofs.JsonText
import CertEnroll.Proofs.Addresses
import CertEnroll.Proofs.Platform
import CertEnroll.Proofs.Leases
import CertEnroll.Proofs.StoredRoles
import CertEnroll.Proofs.KeyValueEngine
import CertEnroll.Proofs.Shelf
import CertEnroll.Proofs.ByteOrder
import CertEnroll.Proofs.PollingEnds
import CertEnroll.Proofs.RoleCheck
import CertEnroll.Proofs.Accepted
import CertEnroll.Proofs.NormalNames
import CertEnroll.Proofs.Deadline
import CertEnroll.Proofs.ClientTimeout
import CertEnroll.Proofs.Samples
import CertEnroll.Proofs.Closing
import CertEnroll.Proofs.Counting
import CertEnroll.Proofs.Bundles
import CertEnroll.Proofs.Chains
import CertEnroll.Proofs.SerialNumbers
import CertEnroll.Proofs.Listing
import CertEnroll.Proofs.RoleNames
import CertEnroll.Proofs.Instants
import CertEnroll.Proofs.LeaseTerms
import CertEnroll.Proofs.Overrides
