import Registrar.Account
import Registrar.Approval.Consensus
import Registrar.Approval.Replica
import Registrar.Approval.Request
import Registrar.Approval.Round
import Registrar.Approval.Session
import Registrar.Approval.Walk
import Registrar.Bytes.Chunks
import Registrar.Bytes.Hex
import Registrar.Bytes.Octets
import Registrar.Command.Help
import Registrar.Command.Line
import Registrar.Command.Run
import Registrar.Crypto.Aes
import Registrar.Crypto.Keccak
import Registrar.Crypto.Pbkdf2
import Registrar.Crypto.Scrypt
import Registrar.Crypto.Sha256
import Registrar.Curve.Encoding
import Registrar.Curve.Field
import Registrar.Curve.HashToCurve
import Registrar.Curve.Point
import Registrar.Curve.Power
import Registrar.Curve.Scalar
import Registrar.Curve.Scheme
import Registrar.Deposit.Roster
import Registrar.Deposit.Validator
import Registrar.Exit.Message
import Registrar.Exit.Sharing
import Registrar.FileTree
import Registrar.Http.Exchange
import Registrar.Http.Reply
import Registrar.Json.Fault
import Registrar.Json.Format
import Registrar.Json.Node
import Registrar.Json.Number
import Registrar.Json.Token
import Registrar.Json.Value
import Registrar.Keyed
import Registrar.Keystore.Container
import Registrar.Keystore.Directory
import Registrar.Keystore.Keyring
import Registrar.Keystore.Loading
import Registrar.Keystore.Password
import Registrar.Main
import Registrar.Merkle.Dump
import Registrar.Merkle.Leaf
import Registrar.Merkle.Position
import Registrar.Merkle.Proof
import Registrar.Merkle.Tree
import Registrar.Number.Binary64
import Registrar.Oracle.Majority
import Registrar.Oracle.Set
import Registrar.Registry.Event
import Registrar.Registry.Node
import Registrar.Registry.Reader
import Registrar.Settings
import Registrar.Settings.Datum
import Registrar.Settings.Environment
import Registrar.Settings.Place
import Registrar.Settings.VariableFile
import Registrar.Ssz
import Registrar.Tape
import Registrar.Text.Blank
import Registrar.Text.CombiningClass
import Registrar.Text.Decomposition.Forms
import Registrar.Text.Decomposition.Ideographs
import Registrar.Text.Decomposition.Letters
import Registrar.Text.Decomposition.Symbols
import Registrar.Text.Decomposition.Table
import Registrar.Text.Normal
import Registrar.Text.Printable
import Registrar.Text.Quoted
import Registrar.Text.Utf8
import Registrar.Toml.Document
import Registrar.Toml.Moment
import Registrar.Toml.Number
import Registrar.Toml.Quoted
import Registrar.Toml.Value
import Registrar.Url
import Registrar.Url.Domain
import Registrar.Url.Host
import Registrar.Url.Numeric
import Registrar.Url.Punycode
import Registrar.Bytes.Lemmas
import Registrar.Proofs.Collision
import Registrar.Proofs.Merkle.Preimage
import Registrar.Proofs.Merkle.Branching
import Registrar.Proofs.Merkle.Shape
import Registrar.Proofs.Merkle.Growth
import Registrar.Proofs.Merkle.Folding
import Registrar.Proofs.Merkle.Soundness
import Registrar.Proofs.Deposit.Preimage
import Registrar.Proofs.Deposit.Binding
import Registrar.Proofs.Approval.Schedule
import Registrar.Proofs.Oracle.Majority
import Registrar.Proofs.Approval.Quorum
import Registrar.Proofs.Curve.Order
import Registrar.Proofs.Curve.Scalar
import Registrar.Proofs.Curve.Group
import Registrar.Proofs.Exit.Judgement
import Registrar.Proofs.Exit.Recombination
import Registrar.Proofs.Exit.Secrecy
import Registrar.Proofs.Curve.Multiples
import Registrar.Proofs.Approval.Visits
import Registrar.Proofs.Keystore.Board
import Registrar.Proofs.Keystore.Resolving
import Registrar.Proofs.Keystore.Loading
import Registrar.Proofs.Merkle.Ascent
import Registrar.Proofs.Merkle.Completeness
import Registrar.Proofs.Merkle.Climbing
import Registrar.Proofs.Deposit.Agreement
import Registrar.Proofs.Json.Spelling
import Registrar.Proofs.Json.Lexing
import Registrar.Proofs.Json.Grammar
import Registrar.Proofs.Json.Documents
import Registrar.Proofs.Json.Nesting
import Registrar.Proofs.Json.Formats
import Registrar.Proofs.Json.Values
import Registrar.Proofs.Keystore.Container
import Registrar.Proofs.Keystore.Joining
import Registrar.Proofs.Keystore.Passwords
import Registrar.Proofs.Approval.Isolation
import Registrar.Proofs.Approval.Staleness
import Registrar.Proofs.Crypto.Keccak
import Registrar.Proofs.Crypto.Sha256
import Registrar.Proofs.Keystore.Tampering
import Registrar.Proofs.Keystore.Structure
import Registrar.Proofs.Text.Ordering
import Registrar.Proofs.Keystore.Controls
import Registrar.Proofs.FileTree
import Registrar.Proofs.Keystore.Discovery
import Registrar.Proofs.Deposit.Vouching
import Registrar.Proofs.Keystore.Pool
import Registrar.Proofs.Merkle.Snapshot
import Registrar.Proofs.Keystore.Coherence
import Registrar.Proofs.Keyed
import Registrar.Proofs.Deposit.Reading
import Registrar.Proofs.Deposit.Acceptance
import Registrar.Proofs.Approval.Payload
import Registrar.Proofs.Oracle.Election
import Registrar.Proofs.Oracle.Reordering
import Registrar.Proofs.Merkle.Reordering
import Registrar.Proofs.Merkle.Counting
import Registrar.Proofs.Merkle.Single
import Registrar.Proofs.Ssz.Chunk
import Registrar.Proofs.Ssz.Merkleization
import Registrar.Proofs.Exit.Binding
import Registrar.Proofs.Curve.Interpolation
import Registrar.Proofs.Exit.Drawing
import Registrar.Proofs.Exit.Splitting
import Registrar.Proofs.Json.Normal
import Registrar.Proofs.Json.Records
import Registrar.Proofs.Keystore.Rewriting
