import CallSchema.Text.Quoted
import CallSchema.Text.Lines
import CallSchema.Text.Trim
import CallSchema.Warning
import CallSchema.Document.Writer
import CallSchema.Fragment.Union
import CallSchema.Fragment.Equality
import CallSchema.Fragment.Reading
import CallSchema.Jsdoc.Source
import CallSchema.Dialect
import CallSchema.Jsdoc.Reading
import CallSchema.TypeGraph.Described
import CallSchema.Hint
import CallSchema.Hint.Describe
import CallSchema.Hint.Equality
import CallSchema.Hint.Parser
import CallSchema.Hint.Build
import CallSchema.Hint.Evaluate
import CallSchema.Class.Define
import CallSchema.Hint.Graph
import CallSchema.Docstring.Rest
import CallSchema.Docstring.Google
import CallSchema.Docstring.Reading
import CallSchema.Function.Document
import CallSchema.Module.Run
import CallSchema.Class.Callable
import CallSchema.Module.Attribute
import CallSchema.Text.Utf8
import CallSchema.Files.Tree
import CallSchema.Files.Search
import CallSchema.Module.Source
import CallSchema.Module.Load
import CallSchema.Extraction
import CallSchema.CommandLine.Run
import CallSchema.Sample
import CallSchema.Main
import CallSchema.Proofs.AcyclicTypes
import CallSchema.Proofs.DeclaredParams
import CallSchema.Proofs.NestedDeclarations
import CallSchema.Proofs.SourceParts
import CallSchema.Proofs.LineStarts
import CallSchema.Proofs.NamePlaces
import CallSchema.Proofs.LineComments
import CallSchema.Proofs.HintResolution
import CallSchema.Proofs.DocumentedSchemas
import CallSchema.Proofs.OptionalLiterals
import CallSchema.Proofs.UnpackedFields
import CallSchema.Proofs.CommandRuns
import CallSchema.Proofs.FiniteNumbers
import CallSchema.Proofs.AcceptedDeclarations
import CallSchema.Proofs.WrittenDeclarations
import CallSchema.Proofs.ShapePriority
import CallSchema.Proofs.NumberedClasses
import CallSchema.Proofs.SharedGraphs
import CallSchema.Proofs.SiblingOrder
import CallSchema.Proofs.EmptyComments
import CallSchema.Proofs.WholeNames
import CallSchema.Proofs.WrittenShapes
import CallSchema.Proofs.RecognisedShapes
import CallSchema.Proofs.ResolvedUnions
import CallSchema.Proofs.AbsentMembers
import CallSchema.Proofs.NestedEnumerations
import CallSchema.Proofs.SilentRuns
import CallSchema.Proofs.LayeredHints
import CallSchema.Proofs.ClassFields
import CallSchema.Proofs.SchemaEquality
import CallSchema.Proofs.SignatureParams
import CallSchema.Proofs.DictionaryKeys
import CallSchema.Proofs.FailedHints
import CallSchema.Proofs.CarriageReturns
import CallSchema.Proofs.ModuleFunctions
import CallSchema.Proofs.FoundSources
import CallSchema.Proofs.NumericValues
import CallSchema.Proofs.UnionTokens
