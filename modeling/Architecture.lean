import Architecture.Access
import Architecture.Analyzer
import Architecture.Check
import Architecture.CommandLine.Arguments
import Architecture.CommandLine.ConfigFile
import Architecture.CommandLine.Output
import Architecture.CommandLine.Run
import Architecture.Config
import Architecture.Context
import Architecture.Data.Decimal
import Architecture.Data.Json
import Architecture.Data.Notation
import Architecture.Data.Toml
import Architecture.Data.Toml.Document
import Architecture.Data.Toml.Scalar
import Architecture.Data.Value
import Architecture.Descriptor
import Architecture.Descriptor.Codec
import Architecture.Files.Access
import Architecture.Files.Glob
import Architecture.Files.Ignore
import Architecture.Files.Location
import Architecture.Files.Notation
import Architecture.Files.Tree
import Architecture.Files.Walk
import Architecture.Generated
import Architecture.Hierarchy
import Architecture.Index
import Architecture.Loading
import Architecture.Main
import Architecture.Name
import Architecture.Notations
import Architecture.Options
import Architecture.Pattern
import Architecture.Pattern.CharClass
import Architecture.Pattern.Reader
import Architecture.Pattern.Search
import Architecture.Plan
import Architecture.Project
import Architecture.Proofs.Analyzer.Agreement
import Architecture.Proofs.Analyzer.Evaluation
import Architecture.Proofs.Analyzer.GeneratedCode
import Architecture.Proofs.Analyzer.Kinds
import Architecture.Proofs.Analyzer.Stages
import Architecture.Proofs.Analyzer.Verdict
import Architecture.Proofs.Cache.Entries
import Architecture.Proofs.Cache.Interleaving
import Architecture.Proofs.Cache.Transparency
import Architecture.Proofs.Check
import Architecture.Proofs.CommandLine.ConfigFile
import Architecture.Proofs.Data.Record
import Architecture.Proofs.Descriptor.Codec
import Architecture.Proofs.Descriptor.Owners
import Architecture.Proofs.Fallible
import Architecture.Proofs.Files.Location
import Architecture.Proofs.Files.Reading
import Architecture.Proofs.Hierarchy.Implementation
import Architecture.Proofs.Hierarchy.Inheritance
import Architecture.Proofs.Hierarchy.Instantiation
import Architecture.Proofs.Hierarchy.LoadingOrder
import Architecture.Proofs.Hierarchy.Lookups
import Architecture.Proofs.Hierarchy.Nearest
import Architecture.Proofs.Hierarchy.Nesting
import Architecture.Proofs.Hierarchy.Supertypes
import Architecture.Proofs.Index
import Architecture.Proofs.Inquiry
import Architecture.Proofs.Loading
import Architecture.Proofs.Name
import Architecture.Proofs.Plan
import Architecture.Proofs.Plan.Content
import Architecture.Proofs.Plan.FirstError
import Architecture.Proofs.Plan.Loading
import Architecture.Proofs.Plan.ReferenceModule
import Architecture.Proofs.Plan.Registration
import Architecture.Proofs.References
import Architecture.Proofs.Rule
import Architecture.Proofs.Rule.Coverage
import Architecture.Proofs.Rule.Cutoff
import Architecture.Proofs.Rule.FlaggedReferences
import Architecture.Proofs.Rule.Isolation
import Architecture.Proofs.Rule.Loading
import Architecture.Proofs.Rule.Lookups
import Architecture.Proofs.Rule.MethodMarker
import Architecture.Proofs.Rule.MethodSelection
import Architecture.Proofs.Rule.PolicyStore
import Architecture.Proofs.Rule.Relaxation
import Architecture.Proofs.Rule.Reordering
import Architecture.Proofs.Rule.Shape
import Architecture.Proofs.Rule.Solution
import Architecture.Proofs.Rule.UsedOnly
import Architecture.Proofs.RuleFile
import Architecture.Proofs.RuleFile.Acceptance
import Architecture.Proofs.RuleFile.Requirements
import Architecture.Proofs.Signature
import Architecture.Proofs.Snapshot
import Architecture.Proofs.Source.Attachment
import Architecture.Proofs.Source.Extraction
import Architecture.Proofs.Source.ImplementedFunctions
import Architecture.Proofs.Source.Imports
import Architecture.Proofs.Source.Lookup
import Architecture.Proofs.Source.Mentions
import Architecture.Proofs.Source.ModulePath
import Architecture.Proofs.Source.PathStart
import Architecture.Proofs.Source.Spelling
import Architecture.Proofs.Source.TestCode
import Architecture.Proofs.Source.TestConditions
import Architecture.Proofs.Source.Visits
import Architecture.Proofs.Text.Blank
import Architecture.Proofs.Worklist
import Architecture.Proofs.Worklist.Nearest
import Architecture.References
import Architecture.References.Cache
import Architecture.References.Inquiry
import Architecture.Report
import Architecture.Rule
import Architecture.Rule.ForbiddenModule
import Architecture.Rule.Isolation
import Architecture.Rule.MethodMarker
import Architecture.Rule.Shape
import Architecture.Rule.Solution
import Architecture.Rule.UsedOnly
import Architecture.RuleFile
import Architecture.RuleFile.Draft
import Architecture.SetupError
import Architecture.Signature
import Architecture.Snapshot
import Architecture.Source.Extraction
import Architecture.Source.Grammar
import Architecture.Source.Grammar.Expressions
import Architecture.Source.Grammar.Items
import Architecture.Source.Grammar.Patterns
import Architecture.Source.Grammar.Statements
import Architecture.Source.Grammar.Types
import Architecture.Source.Literal
import Architecture.Source.Manifest
import Architecture.Source.Marker
import Architecture.Source.ModulePath
import Architecture.Source.Notation
import Architecture.Source.Parse
import Architecture.Source.Reader
import Architecture.Source.Scope
import Architecture.Source.Token
import Architecture.Source.Token.Lexer
import Architecture.Source.Tree
import Architecture.Standard
import Architecture.Text.Blank
import Architecture.Text.Segments
import Architecture.TypeRef
import Architecture.Unicode.Case
import Architecture.Unicode.Category
import Architecture.Unicode.Runs
import Architecture.Unicode.Script
import Architecture.Validator
import Architecture.Violation
