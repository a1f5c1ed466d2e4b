import LazyDispatch.Tag
import LazyDispatch.Text.Letters
import LazyDispatch.Text.Alphanumeric
import LazyDispatch.Text.LetterCase.Table
import LazyDispatch.Text.LetterCase
import LazyDispatch.Decimal.Shortest
import LazyDispatch.Failure
import LazyDispatch.Signature.Parser
import LazyDispatch.NameTable
import LazyDispatch.Callable
import LazyDispatch.Config
import LazyDispatch.Registry
import LazyDispatch.Snapshot
import LazyDispatch.Value
import LazyDispatch.Value.Display
import LazyDispatch.Value.Equality
import LazyDispatch.Native
import LazyDispatch.Registry.Edit
import LazyDispatch.Store
import LazyDispatch.Resolution
import LazyDispatch.Host
import LazyDispatch.Script.Recipe
import LazyDispatch.Script.Literal
import LazyDispatch.Config.Toml.Item
import LazyDispatch.Config.Toml.Scalar
import LazyDispatch.Config.Toml
import LazyDispatch.Config.Yaml.Cursor
import LazyDispatch.Config.Yaml.Scalar
import LazyDispatch.Config.Yaml.TagName
import LazyDispatch.Config.Yaml.Token
import LazyDispatch.Config.Yaml.Node
import LazyDispatch.Config.Yaml
import LazyDispatch.Config.Source
import LazyDispatch.Script.Session
import LazyDispatch.Script.Step
import LazyDispatch.Console
import LazyDispatch.Console.Filter
import LazyDispatch.Proofs.Covering
import LazyDispatch.Proofs.Growth
import LazyDispatch.Proofs.Eager
import LazyDispatch.Proofs.Stepping
import LazyDispatch.Proofs.Prediction
import LazyDispatch.Proofs.Machine
import LazyDispatch.Proofs.Keeping
import LazyDispatch.Proofs.Forest
import LazyDispatch.Proofs.Cutting
import LazyDispatch.Proofs.Expansion
import LazyDispatch.Proofs.Parsing
import LazyDispatch.Proofs.ByteOrder
import LazyDispatch.Proofs.Filing
import LazyDispatch.Proofs.Validation
import LazyDispatch.Proofs.Overloads
import LazyDispatch.Proofs.Shape
import LazyDispatch.Proofs.History
import LazyDispatch.Proofs.Widening
import LazyDispatch.Proofs.Shuffling
import LazyDispatch.Proofs.Reordering
import LazyDispatch.Proofs.Likeness
import LazyDispatch.Proofs.Isolation
import LazyDispatch.Proofs.Refusing
import LazyDispatch.Proofs.Grouping
import LazyDispatch.Proofs.Guarding
import LazyDispatch.Proofs.Nesting
import LazyDispatch.Proofs.Registering
import LazyDispatch.Proofs.Reckoning
import LazyDispatch.Proofs.Blaming
import LazyDispatch.Proofs.Accounting
import LazyDispatch.Proofs.Uniting
import LazyDispatch.Proofs.Tagging
import LazyDispatch.Proofs.Looking
import LazyDispatch.Proofs.Numbering
import LazyDispatch.Proofs.Equating
import LazyDispatch.Proofs.Telling
import LazyDispatch.Proofs.Summing
import LazyDispatch.Proofs.Tracing
import LazyDispatch.Proofs.Printing
import LazyDispatch.Proofs.Applying
import LazyDispatch.Proofs.Pairing
import LazyDispatch.Proofs.Offering
