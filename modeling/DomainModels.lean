import DomainModels.Decimal.Shortest
import DomainModels.Decimal.Notation
import DomainModels.Json.Read
import DomainModels.Json.Write
import DomainModels.Digest.Sha256
import DomainModels.Text.Unicode.Category
import DomainModels.Text.Unicode.Fold
import DomainModels.Text.Unicode.Upper
import DomainModels.Error
import DomainModels.Text.Quote
import DomainModels.Version.Semver
import DomainModels.Text.Split
import DomainModels.Names
import DomainModels.Namespace
import DomainModels.Wire.Path
import DomainModels.Time.Civil
import DomainModels.Time.DateTime
import DomainModels.Time.Parse
import DomainModels.Wire.DateTime
import DomainModels.Text.Utf8
import DomainModels.Uri.Percent
import DomainModels.Uri.Url
import DomainModels.Instance.Relationship
import DomainModels.Text.Unicode.Script
import DomainModels.Text.Unicode.Cased
import DomainModels.Regex.CharSet
import DomainModels.Regex.Property
import DomainModels.Regex.Syntax
import DomainModels.Regex.Diagnostic
import DomainModels.Regex.Parse
import DomainModels.Regex.Hir
import DomainModels.Regex.Translate
import DomainModels.Regex.Automaton
import DomainModels.Regex.Pattern
import DomainModels.Graph.Validator
import DomainModels.Json.Decode
import DomainModels.Metamodel.Ast
import DomainModels.Metamodel.Read
import DomainModels.Metamodel.Write
import DomainModels.Graph.Decorator
import DomainModels.Graph.Property
import DomainModels.Graph.Declaration
import DomainModels.Graph.ModelFile
import DomainModels.Text.Fuzzy
import DomainModels.Graph.Index
import DomainModels.Registry
import DomainModels.Instance.Value
import DomainModels.Instance.Factory
import DomainModels.Wire.Options
import DomainModels.Wire.Encode
import DomainModels.Wire.Decode
import DomainModels.Random.ChaCha
import DomainModels.Random.Uniform
import DomainModels.Regex.Sample
import DomainModels.Generate.Source
import DomainModels.Generate.Instance
import DomainModels.Generate.Options
import DomainModels.Files.Tree
import DomainModels.Files.Load
import DomainModels.Toml.Value
import DomainModels.Toml.Parse
import DomainModels.Toml.Write
import DomainModels.Settings.Value
import DomainModels.Settings.Layer
import DomainModels.Settings.Read
import DomainModels.Settings.Config
import DomainModels.Settings.Load
import DomainModels.Text.Jaro
import DomainModels.Cli.Command
import DomainModels.Cli.Parse
import DomainModels.Cli.Validator
import DomainModels.Main
import DomainModels.Proofs.Registry.Atomicity
import DomainModels.Proofs.Text.Utf8
import DomainModels.Proofs.Names.NamespaceText
import DomainModels.Proofs.Uri.RoundTrip
import DomainModels.Proofs.Instance.Values
import DomainModels.Proofs.Instance.Factory
import DomainModels.Proofs.Graph.ClassShape
import DomainModels.Proofs.Time.Calendar
import DomainModels.Proofs.Wire.DateTimeText
import DomainModels.Proofs.Wire.Canonical
import DomainModels.Proofs.Wire.ReadBack
import DomainModels.Proofs.Wire.Writer
import DomainModels.Proofs.Wire.Reader
import DomainModels.Proofs.Graph.BuildModes
import DomainModels.Proofs.Graph.ModelFiles
import DomainModels.Proofs.Graph.RootClasses
import DomainModels.Proofs.Registry.Consistency
import DomainModels.Proofs.Registry.Undo
import DomainModels.Proofs.Registry.MissingImports
import DomainModels.Proofs.Registry.Refresh
import DomainModels.Proofs.Graph.Resolution
import DomainModels.Proofs.Graph.Inheritance
import DomainModels.Proofs.Wire.KeyOrder
import DomainModels.Proofs.Graph.PropertyOrder
import DomainModels.Proofs.Graph.Identifiers
import DomainModels.Proofs.Graph.Relationships
import DomainModels.Proofs.Graph.Subclasses
import DomainModels.Proofs.Numeric.NearestDouble
import DomainModels.Proofs.Numeric.IntegerToFloat
import DomainModels.Proofs.Graph.IntegerBounds
import DomainModels.Proofs.Wire.Deduplication
import DomainModels.Proofs.Generate.TextLength
import DomainModels.Proofs.Numeric.DoubleValue
import DomainModels.Proofs.Wire.Integral
import DomainModels.Proofs.Json.Records
import DomainModels.Proofs.Metamodel.Readable
import DomainModels.Proofs.Metamodel.RoundTrip
import DomainModels.Proofs.Wire.RoundTrip
import DomainModels.Proofs.Wire.ReadResult
import DomainModels.Proofs.Wire.Writable
import DomainModels.Proofs.Wire.Rewrite
import DomainModels.Proofs.Generate.Instances
