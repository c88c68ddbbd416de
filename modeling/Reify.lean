import Reify.Builtin
import Reify.CallingConv
import Reify.CommandLine
import Reify.Decl.Basic
import Reify.Decl.Equality
import Reify.Decl.Json
import Reify.DeclRef
import Reify.Emission
import Reify.Error
import Reify.FileSystem
import Reify.FileSystem.Layout
import Reify.Filter
import Reify.Host
import Reify.Json.Basic
import Reify.Json.Parser
import Reify.Json.Printer
import Reify.Json.Reader
import Reify.Json.Token
import Reify.Location
import Reify.Log
import Reify.Lowering
import Reify.Main
import Reify.Module
import Reify.Options
import Reify.Printer
import Reify.Program
import Reify.Proofs.CommandLine.Spelling
import Reify.Proofs.Decl.Json
import Reify.Proofs.Decl.Nesting
import Reify.Proofs.Decl.Presentation
import Reify.Proofs.FileSystem.Contents
import Reify.Proofs.Filter
import Reify.Proofs.Json.Lexeme
import Reify.Proofs.Json.Nesting
import Reify.Proofs.Json.Numeral
import Reify.Proofs.Json.Parser
import Reify.Proofs.Json.Presentation
import Reify.Proofs.Json.Reader
import Reify.Proofs.Json.Scanner
import Reify.Proofs.Json.Spelling
import Reify.Proofs.Json.Word
import Reify.Proofs.Json.Writing
import Reify.Proofs.Module.Layout
import Reify.Proofs.Module.Outcome
import Reify.Proofs.Module.Reader
import Reify.Proofs.Printer.Balance
import Reify.Proofs.Printer.Lexeme
import Reify.Proofs.Run.Failure
import Reify.Proofs.Run.Outcome
import Reify.Proofs.Run.Success
import Reify.Proofs.Term.Frame
import Reify.Proofs.Term.Lexeme
import Reify.Proofs.Term.Proper
import Reify.Proofs.Term.Reader
import Reify.Proofs.Text.Comment
import Reify.Proofs.Text.Spacing
import Reify.Proofs.Translation.Grouping
import Reify.Proofs.Translation.Identifiers
import Reify.Proofs.Translation.Selection
import Reify.Proofs.Translation.Specifications
import Reify.Proofs.Translation.Success
import Reify.Proofs.Translation.Tracing
import Reify.Proofs.TranslationUnit.Dump
import Reify.Proofs.TranslationUnit.Presentation
import Reify.Proofs.TranslationUnit.Reload
import Reify.Proofs.TypeRef.Elements
import Reify.Proofs.TypeRef.Erasure
import Reify.Proofs.TypeRef.Faults
import Reify.Proofs.TypeRef.Grammar
import Reify.Proofs.TypeRef.Json
import Reify.Proofs.TypeRef.Presentation
import Reify.Proofs.TypeRef.Reading
import Reify.Proofs.Walk.Census
import Reify.Proofs.Walk.Enclosing
import Reify.Proofs.Walk.Patterns
import Reify.Proofs.Walk.Visits
import Reify.Proofs.Walk.Widening
import Reify.Run
import Reify.Spec
import Reify.Term
import Reify.Text.Blank
import Reify.Text.ControlSequence
import Reify.Text.Extender
import Reify.Text.Invisible
import Reify.Text.Quoted
import Reify.Text.Ranges
import Reify.Translation
import Reify.TranslationUnit
import Reify.TypeRef.Basic
import Reify.TypeRef.Display
import Reify.TypeRef.Equality
import Reify.TypeRef.Json
import Reify.Walk
import Reify.Width
import Reify.World
