import CredentialRotation.Main
import CredentialRotation.Tls.Handshake
import CredentialRotation.Proofs.Credential.SharedStore
import CredentialRotation.Proofs.Pem.CertificateBlocks
import CredentialRotation.Proofs.Runs
import CredentialRotation.Proofs.Text.Base64
import CredentialRotation.Proofs.Text.Utf8
import CredentialRotation.Proofs.X509.Certificate
import CredentialRotation.Proofs.Credential.Bundle
import CredentialRotation.Proofs.Der.Strict
import CredentialRotation.Proofs.Rsa.PrivateKey
import CredentialRotation.Proofs.Credential.Key
import CredentialRotation.Proofs.Credential.Site
import CredentialRotation.Proofs.Credential.Generations
import CredentialRotation.Proofs.Credential.Rotation
import CredentialRotation.Proofs.Credential.Pacing
import CredentialRotation.Proofs.Credential.BusySite
import CredentialRotation.Proofs.Credential.LateWrites
import CredentialRotation.Proofs.Credential.CombinedFile
import CredentialRotation.Proofs.Credential.PartialWrite
import CredentialRotation.Proofs.Credential.PeriodicRefresh
import CredentialRotation.Proofs.Credential.Cancellation
import CredentialRotation.Proofs.Credential.HeldSnapshot
import CredentialRotation.Proofs.Credential.SeparateReads
import CredentialRotation.Proofs.Policy.PeerCheck
import CredentialRotation.Proofs.Policy.ServerVerification
import CredentialRotation.Proofs.Trust.NameFree
import CredentialRotation.Proofs.Trust.ShortPath
import CredentialRotation.Proofs.Policy.ClientVerification
import CredentialRotation.Proofs.Policy.ChainOnly
import CredentialRotation.Proofs.Policy.Modes
import CredentialRotation.Proofs.Policy.BootValidation
import CredentialRotation.Proofs.Tls.Admission
import CredentialRotation.Proofs.Files.Disk
import CredentialRotation.Proofs.Files.Conditions
import CredentialRotation.Proofs.Service.Prediction
import CredentialRotation.Proofs.Number.Binary
import CredentialRotation.Proofs.Toml.Quoted
import CredentialRotation.Proofs.Toml.Bare
import CredentialRotation.Proofs.Toml.Entries
import CredentialRotation.Proofs.Toml.Document
import CredentialRotation.Proofs.Pattern.Search
import CredentialRotation.Proofs.Pem.BlockPatterns
import CredentialRotation.Proofs.Pem.CertificateScan
import CredentialRotation.Proofs.Pem.KeyScan
import CredentialRotation.Proofs.Pem.KeySegments
import CredentialRotation.Proofs.Credential.WrittenForms
import CredentialRotation.Proofs.Credential.BlockGrammar
import CredentialRotation.Proofs.Credential.BlockFailures
import CredentialRotation.Proofs.Pem.CertificateSeams
import CredentialRotation.Proofs.Credential.Concatenation
import CredentialRotation.Proofs.Credential.CutBundle
import CredentialRotation.Proofs.Pem.LabelledBlocks
import CredentialRotation.Proofs.Credential.SkippedBlocks
import CredentialRotation.Proofs.Credential.SurplusOctets
import CredentialRotation.Proofs.Configuration.Validity
import CredentialRotation.Proofs.X509.Written
import CredentialRotation.Proofs.Configuration.Creation
import CredentialRotation.Proofs.Credential.KeySizes
import CredentialRotation.Proofs.Service.Secrecy
