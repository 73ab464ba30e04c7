import IrLink.Attributes
import IrLink.Builtins
import IrLink.Bytes.Coded
import IrLink.Bytes.Hex
import IrLink.Bytes.Reader
import IrLink.Constant
import IrLink.Data
import IrLink.Data.Number
import IrLink.Decimal.Format
import IrLink.Decimal.Shortest
import IrLink.Decode.Build
import IrLink.Decode.Error
import IrLink.Decode.Module
import IrLink.Decode.Ownership
import IrLink.Decode.Session
import IrLink.Decode.Symbol
import IrLink.Descriptor
import IrLink.Descriptor.Table
import IrLink.Loop
import IrLink.Nodes
import IrLink.Proofs.Bytes.Coded
import IrLink.Proofs.Bytes.Reader
import IrLink.Proofs.Bytes.Shortage
import IrLink.Proofs.Decode.Acceptance
import IrLink.Proofs.Decode.Added
import IrLink.Proofs.Decode.Answer
import IrLink.Proofs.Decode.BackLinks
import IrLink.Proofs.Decode.Begins
import IrLink.Proofs.Decode.Binding
import IrLink.Proofs.Decode.Built
import IrLink.Proofs.Decode.Carried
import IrLink.Proofs.Decode.Ceiling
import IrLink.Proofs.Decode.Checking
import IrLink.Proofs.Decode.Chronicle
import IrLink.Proofs.Decode.Commuting
import IrLink.Proofs.Decode.Completed
import IrLink.Proofs.Decode.Creation
import IrLink.Proofs.Decode.Dangling
import IrLink.Proofs.Decode.Drawn
import IrLink.Proofs.Decode.Effect
import IrLink.Proofs.Decode.Faithful
import IrLink.Proofs.Decode.Filling
import IrLink.Proofs.Decode.FirstReference
import IrLink.Proofs.Decode.Follows
import IrLink.Proofs.Decode.Fresh
import IrLink.Proofs.Decode.Growth
import IrLink.Proofs.Decode.History
import IrLink.Proofs.Decode.Insertion
import IrLink.Proofs.Decode.Jumps
import IrLink.Proofs.Decode.Kinds
import IrLink.Proofs.Decode.Linkable
import IrLink.Proofs.Decode.Loader
import IrLink.Proofs.Decode.Loading
import IrLink.Proofs.Decode.Mirrored
import IrLink.Proofs.Decode.Reachable
import IrLink.Proofs.Decode.Reached
import IrLink.Proofs.Decode.Rebuilding
import IrLink.Proofs.Decode.Registration
import IrLink.Proofs.Decode.Replay
import IrLink.Proofs.Decode.Rules
import IrLink.Proofs.Decode.Run
import IrLink.Proofs.Decode.Settles
import IrLink.Proofs.Decode.Sharing
import IrLink.Proofs.Decode.Tallied
import IrLink.Proofs.Decode.Walk
import IrLink.Proofs.Descriptor.Unfolding
import IrLink.Proofs.Record.Announced
import IrLink.Proofs.Record.Codec
import IrLink.Proofs.Record.Depth
import IrLink.Proofs.Record.Effects
import IrLink.Proofs.Record.Grammar
import IrLink.Proofs.Record.Inside
import IrLink.Proofs.Record.Layout
import IrLink.Proofs.Record.Names
import IrLink.Proofs.Record.Parts
import IrLink.Proofs.Record.Shape
import IrLink.Proofs.Record.Truncation
import IrLink.Proofs.Text.Utf8
import IrLink.Proofs.Tree.Formed
import IrLink.Proofs.Tree.Links
import IrLink.Proofs.Tree.Marks
import IrLink.Proofs.Tree.Parts
import IrLink.Proofs.Tree.Rename
import IrLink.Proofs.Universe.DefaultConstructor
import IrLink.Proofs.Universe.Reference
import IrLink.Record
import IrLink.Record.Bytes
import IrLink.Record.Data
import IrLink.Settings
import IrLink.Settings.Document
import IrLink.Symbol
import IrLink.Text.Printable
import IrLink.Text.Quoted
import IrLink.Text.Reading
import IrLink.Text.Utf8
import IrLink.Toml.Document
import IrLink.Toml.Moment
import IrLink.Toml.Number
import IrLink.Toml.Quoted
import IrLink.Toml.Table
import IrLink.Toml.Value
import IrLink.Tree
import IrLink.Tree.Annotations
import IrLink.Tree.Declaration
import IrLink.Tree.Expression
import IrLink.Tree.Parts
import IrLink.Universe
import IrLink.Universe.Data
import IrLink.Universe.Reference
