import EcpAgreement.Exchange.Step
import EcpAgreement.Group.Identifier
import EcpAgreement.Proofs.Curve.PointGroup
import EcpAgreement.Proofs.Field.Residue
import EcpAgreement.Proofs.Curve.Ladder
import EcpAgreement.Proofs.Curve.Admission
import EcpAgreement.Proofs.Curve.Closure
import EcpAgreement.Proofs.Curve.Multiplication
import EcpAgreement.Proofs.Group.Wire
import EcpAgreement.Proofs.Session.Closure
import EcpAgreement.Proofs.Session.History
import EcpAgreement.Proofs.Curve.BuiltInMultiplication
import EcpAgreement.Proofs.Field.PrimeCertificate
import EcpAgreement.Proofs.Group.Genuine
import EcpAgreement.Proofs.Group.NistP256
import EcpAgreement.Proofs.Session.Agreement
import EcpAgreement.Proofs.Group.Codec
import EcpAgreement.Proofs.Curve.PointCount
import EcpAgreement.Proofs.Curve.RootFree
import EcpAgreement.Proofs.Group.BrainpoolP224
import EcpAgreement.Proofs.Group.NistModuli
import EcpAgreement.Proofs.Group.TwoArithmetics
import EcpAgreement.Proofs.Session.Acceptance
import EcpAgreement.Proofs.Session.PeerSecrets
import EcpAgreement.Proofs.Curve.Representation
import EcpAgreement.Proofs.Random.Uniformity
import EcpAgreement.Proofs.Session.KeyGeneration
import EcpAgreement.Proofs.Exchange.Secrecy
import EcpAgreement.Proofs.Curve.Validation
import EcpAgreement.Proofs.Group.ValidParameters
import EcpAgreement.Proofs.Session.OppositePeers
import EcpAgreement.Proofs.Session.PrivateValue
import EcpAgreement.Proofs.Settings.LastWrite
import EcpAgreement.Proofs.Settings.Isolation
import EcpAgreement.Proofs.Group.Scalars
import EcpAgreement.Proofs.Bare.Group
import EcpAgreement.Proofs.Settings.Documents
import EcpAgreement.Proofs.Octets.Numbers
