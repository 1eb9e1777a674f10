import AdvancedSignature.Algorithm
import AdvancedSignature.Bytes
import AdvancedSignature.Command
import AdvancedSignature.DateTime
import AdvancedSignature.Declaration.Collector
import AdvancedSignature.Declaration.Description
import AdvancedSignature.Declaration.Run
import AdvancedSignature.Declaration.SignedDataObjects
import AdvancedSignature.Der.Element
import AdvancedSignature.Der.ObjectIdentifier
import AdvancedSignature.Der.Reader
import AdvancedSignature.Digest.Basic
import AdvancedSignature.Digest.Padding
import AdvancedSignature.Digest.Sha1
import AdvancedSignature.Digest.Sha256
import AdvancedSignature.Digest.Sha3
import AdvancedSignature.Digest.Sha512
import AdvancedSignature.Error
import AdvancedSignature.Form
import AdvancedSignature.Form.Detection
import AdvancedSignature.Instance
import AdvancedSignature.Layout.Basic
import AdvancedSignature.Layout.Check
import AdvancedSignature.Main
import AdvancedSignature.Profile
import AdvancedSignature.Property.Bag
import AdvancedSignature.Property.DataObject
import AdvancedSignature.Property.Kind
import AdvancedSignature.Property.KindCounts
import AdvancedSignature.Property.Qualifying
import AdvancedSignature.Property.Signature
import AdvancedSignature.Property.TargetSet
import AdvancedSignature.Provider
import AdvancedSignature.QualifyingProperties
import AdvancedSignature.Report
import AdvancedSignature.Scan
import AdvancedSignature.Session
import AdvancedSignature.Text.Base64
import AdvancedSignature.Text.Blank
import AdvancedSignature.Text.Decimal
import AdvancedSignature.Text.Hex
import AdvancedSignature.TimeStamp.Basic
import AdvancedSignature.TimeStamp.Composition
import AdvancedSignature.TimeStamp.DigestInput
import AdvancedSignature.TimeStamp.Stamping
import AdvancedSignature.ValidationData
import AdvancedSignature.Vocabulary
import AdvancedSignature.X509.Certificate
import AdvancedSignature.X509.Name
import AdvancedSignature.X509.Reference
import AdvancedSignature.X509.RegisteredNames
import AdvancedSignature.Xml.Character
import AdvancedSignature.Xml.Document
import AdvancedSignature.Xml.Entity
import AdvancedSignature.Xml.Node
import AdvancedSignature.Xml.Reference
import AdvancedSignature.Xml.Token.Basic
import AdvancedSignature.Xml.Token.Lexer
import AdvancedSignature.Xml.Tree
import AdvancedSignature.Proofs.Outcome
import AdvancedSignature.Proofs.FirstFault
import AdvancedSignature.Proofs.Keys
import AdvancedSignature.Proofs.History
import AdvancedSignature.Proofs.Property.Bag
import AdvancedSignature.Proofs.Property.Listing
import AdvancedSignature.Proofs.Property.TargetSet
import AdvancedSignature.Proofs.Property.Multiplicity
import AdvancedSignature.Proofs.Layout.Fault
import AdvancedSignature.Proofs.Layout.Replay
import AdvancedSignature.Proofs.Layout.Legality
import AdvancedSignature.Proofs.Layout.Violation
import AdvancedSignature.Proofs.Declaration.Description
import AdvancedSignature.Proofs.Declaration.Consistency
import AdvancedSignature.Proofs.Declaration.Change
import AdvancedSignature.Proofs.Declaration.Refusal
import AdvancedSignature.Proofs.Declaration.Attachment
import AdvancedSignature.Proofs.Property.Qualifying
import AdvancedSignature.Proofs.QualifyingProperties.Discipline
import AdvancedSignature.Proofs.QualifyingProperties.Layout
import AdvancedSignature.Proofs.Declaration.Requests
import AdvancedSignature.Proofs.QualifyingProperties.Assembly
import AdvancedSignature.Proofs.Reproduction.Basic
import AdvancedSignature.Proofs.Reproduction.Targets
import AdvancedSignature.Proofs.Reproduction.Acceptance
import AdvancedSignature.Proofs.Reproduction.Refusal
import AdvancedSignature.Proofs.Xml.Order
import AdvancedSignature.Proofs.Xml.Identifier
import AdvancedSignature.Proofs.Xml.Parsed
import AdvancedSignature.Proofs.Xml.IdentifierMap
import AdvancedSignature.Proofs.Scan.Property
import AdvancedSignature.Proofs.Scan.Signature
import AdvancedSignature.Proofs.Scan.Target
import AdvancedSignature.Proofs.Scan.ForAll
import AdvancedSignature.Proofs.Xml.Comment
import AdvancedSignature.Proofs.Scan.Comment
import AdvancedSignature.Proofs.TimeStamp.Resolution
import AdvancedSignature.Proofs.TimeStamp.Recomputation
import AdvancedSignature.Proofs.Profile
import AdvancedSignature.Proofs.QualifyingProperties.Contents
import AdvancedSignature.Proofs.QualifyingProperties.Addition
import AdvancedSignature.Proofs.QualifyingProperties.Placement
import AdvancedSignature.Proofs.Layout.Numbering
import AdvancedSignature.Proofs.Interleaving.View
import AdvancedSignature.Proofs.Interleaving.Separation
import AdvancedSignature.Proofs.Interleaving.Simulation
import AdvancedSignature.Proofs.Interleaving.Assembly
import AdvancedSignature.Proofs.Interleaving.Process
import AdvancedSignature.Proofs.Form.Detection
import AdvancedSignature.Proofs.Text.Line
import AdvancedSignature.Proofs.Report
import AdvancedSignature.Proofs.Inspection
import AdvancedSignature.Proofs.TimeStamp.Composition
import AdvancedSignature.Proofs.TimeStamp.Accumulation
import AdvancedSignature.Proofs.QualifyingProperties.Pending
import AdvancedSignature.Proofs.Text.Decimal
import AdvancedSignature.Proofs.X509.Reference
import AdvancedSignature.Proofs.X509.Path
import AdvancedSignature.Proofs.Declaration.Naming
