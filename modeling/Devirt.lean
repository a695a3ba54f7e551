import Devirt.Ascending
import Devirt.ClassName
import Devirt.Decimal.BinaryFormat
import Devirt.Decimal.Digits
import Devirt.Decimal.Layout
import Devirt.Decimal.Literal
import Devirt.Decimal.Power
import Devirt.Decimal.Rounding
import Devirt.Decimal.Shortest
import Devirt.Descriptor
import Devirt.Dispatch.Basic
import Devirt.Dispatch.Concrete
import Devirt.Dispatch.Receivers
import Devirt.Dispatch.Special
import Devirt.Document.Basic
import Devirt.Document.Signature
import Devirt.Graph.BreadthFirst
import Devirt.Graph.Cycle
import Devirt.Hierarchy.Basic
import Devirt.Hierarchy.Declaration
import Devirt.Hierarchy.Modifiers
import Devirt.Hierarchy.Universe
import Devirt.Hierarchy.View
import Devirt.IR.Body
import Devirt.IR.Cases
import Devirt.IR.Comparator
import Devirt.IR.Construction
import Devirt.IR.DefUse
import Devirt.IR.Digest
import Devirt.IR.Fragment
import Devirt.IR.IllFormed
import Devirt.IR.Operand
import Devirt.IR.Statement
import Devirt.Logging.Condition
import Devirt.Logging.Directive
import Devirt.Logging.Filter
import Devirt.Logging.Level
import Devirt.Pattern.Basic
import Devirt.Pattern.Flags
import Devirt.Pattern.Reading
import Devirt.Position
import Devirt.Proofs.Dispatch.Kinds
import Devirt.Proofs.Dispatch.Search
import Devirt.Proofs.Dispatch.Specificity
import Devirt.Proofs.Graph.Acyclicity
import Devirt.Proofs.Graph.Exploration
import Devirt.Proofs.Hierarchy.Freezing
import Devirt.Proofs.Hierarchy.Lookup
import Devirt.Proofs.Hierarchy.Subtypes
import Devirt.Proofs.Hierarchy.Subtyping
import Devirt.Proofs.Hierarchy.TypeOrder
import Devirt.Settings.Basic
import Devirt.Settings.Directory
import Devirt.Settings.Load
import Devirt.Settings.LogFilter
import Devirt.Settings.Schema
import Devirt.Signature
import Devirt.Text.Alphabetic
import Devirt.Text.Alphanumeric
import Devirt.Text.Blank
import Devirt.Text.CharRanges
import Devirt.Text.GraphemeExtend
import Devirt.Text.Hexadecimal
import Devirt.Text.Numeric
import Devirt.Text.Piece
import Devirt.Text.Quoted
import Devirt.Text.Unprintable
import Devirt.Toml.File
import Devirt.Toml.Number
import Devirt.Toml.Scan
import Devirt.Toml.Table
import Devirt.Toml.Text
import Devirt.Toml.Value
import Devirt.Ty
import Devirt.Proofs.Dispatch.Outcome
import Devirt.Proofs.Dispatch.Strict
import Devirt.Proofs.Dispatch.Target
import Devirt.Proofs.Dispatch.Receivers
import Devirt.Proofs.Hierarchy.Superclasses
import Devirt.Proofs.Hierarchy.InterfaceLists
import Devirt.Proofs.Dispatch.StrictRule
import Devirt.Proofs.Dispatch.InterfaceLists
import Devirt.Proofs.Dispatch.HiddenClasses
import Devirt.Proofs.Dispatch.DefaultMethods
import Devirt.Proofs.Dispatch.Special
import Devirt.Proofs.Dispatch.TargetSets
import Devirt.Proofs.Hierarchy.SharedClasses
import Devirt.Proofs.Dispatch.SharedClasses
import Devirt.Proofs.Hierarchy.DeclarationOrder
import Devirt.Proofs.Dispatch.DeclarationOrder
import Devirt.Proofs.IR.Comparison
import Devirt.Proofs.IR.Construction
import Devirt.Proofs.IR.DefUse
import Devirt.Proofs.IR.Replacement
import Devirt.Proofs.ClassName
import Devirt.Proofs.Descriptor.Grammar
import Devirt.Proofs.Descriptor.Reading
import Devirt.Proofs.Document.Spelling
import Devirt.Proofs.Document.RoundTrip
import Devirt.Proofs.Graph.Levels
import Devirt.Proofs.Graph.Rounds
import Devirt.Proofs.Hierarchy.Rounds
import Devirt.Proofs.Dispatch.DiscoveryOrder
import Devirt.Proofs.Dispatch.NearestDeclaration
import Devirt.Proofs.Dispatch.Inheritance
import Devirt.Proofs.Dispatch.Rounds
import Devirt.Proofs.Graph.Discovery
import Devirt.Proofs.Hierarchy.SubtypeOrder
import Devirt.Proofs.Hierarchy.SuperclassRecursion
import Devirt.Proofs.Hierarchy.AllInterfaces
import Devirt.Proofs.Hierarchy.ArrayTypes
import Devirt.Proofs.Descriptor.Refusals
import Devirt.Proofs.IR.Redefinition
import Devirt.Proofs.Text.Quoted
import Devirt.Proofs.IR.Literals
import Devirt.Proofs.Dispatch.Coverage
import Devirt.Proofs.KeyedTable
import Devirt.Proofs.Hierarchy.MethodTable
import Devirt.Proofs.Hierarchy.SubtypeTable
import Devirt.Proofs.Document.Abridgement
import Devirt.Proofs.Settings
import Devirt.Proofs.Canonical
