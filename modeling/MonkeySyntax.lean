import MonkeySyntax.Main
import MonkeySyntax.Parser.Session
import MonkeySyntax.Token.Lexer
import MonkeySyntax.Tree.Preorder
import MonkeySyntax.Proofs.Grammar.Derivation
import MonkeySyntax.Proofs.Grammar.Shape
import MonkeySyntax.Proofs.Source.Position
import MonkeySyntax.Proofs.Grammar.Lexical
import MonkeySyntax.Proofs.Parser.Literals
import MonkeySyntax.Proofs.Parser.Steps
import MonkeySyntax.Proofs.Parser.Tables
import MonkeySyntax.Proofs.Token.Spelling
import MonkeySyntax.Proofs.Parser.Completion
import MonkeySyntax.Proofs.Parser.Truncation
import MonkeySyntax.Proofs.Parser.Soundness
import MonkeySyntax.Proofs.Parser.Completeness.Rules
import MonkeySyntax.Proofs.Parser.Completeness
import MonkeySyntax.Proofs.Token.Scanning
import MonkeySyntax.Proofs.Token.Layout
import MonkeySyntax.Proofs.Token.Unplaced
import MonkeySyntax.Proofs.Token.Joining
import MonkeySyntax.Proofs.Grammar.Closing
import MonkeySyntax.Proofs.Grammar.Merging
import MonkeySyntax.Proofs.Grammar.Phrase
import MonkeySyntax.Proofs.Grammar.Viable
import MonkeySyntax.Proofs.Grammar.Chain
import MonkeySyntax.Proofs.Tree.Depth
import MonkeySyntax.Proofs.Tree.SourceOrder
import MonkeySyntax.Proofs.Tree.Unplaced
import MonkeySyntax.Proofs.Tree.Formation
import MonkeySyntax.Proofs.Tree.Nesting
import MonkeySyntax.Proofs.Parser.Answers
import MonkeySyntax.Proofs.Parser.SourceOrder
import MonkeySyntax.Proofs.Parser.Unplaced
import MonkeySyntax.Proofs.Parser.Sequencing
import MonkeySyntax.Proofs.Parser.Spacing
import MonkeySyntax.Proofs.Parser.FunctionBody
import MonkeySyntax.Proofs.Parser.Formation
import MonkeySyntax.Proofs.Parser.Nesting
import MonkeySyntax.Proofs.Tree.Rereading
import MonkeySyntax.Proofs.Tree.RoundTrip
import MonkeySyntax.Proofs.Parser.Promptness.Rules
import MonkeySyntax.Proofs.Parser.Promptness
import MonkeySyntax.Proofs.Parser.AnyRules
import MonkeySyntax.Proofs.Parser.Counting
import MonkeySyntax.Proofs.Token.Streaming
import MonkeySyntax.Proofs.Token.Lexing
import MonkeySyntax.Proofs.Parser.Sessions
import MonkeySyntax.Proofs.Parser.Explaining
import MonkeySyntax.Proofs.Parser.Execution
import MonkeySyntax.Proofs.Tree.Recording
import MonkeySyntax.Proofs.Json.Quoting
import MonkeySyntax.Proofs.Json.Printing
import MonkeySyntax.Proofs.Repl.Evaluation
import MonkeySyntax.Proofs.Job.Sources
import MonkeySyntax.Proofs.Job.Trees
import MonkeySyntax.Proofs.CommandLine.Texts
import MonkeySyntax.Proofs.Repl.Conversation
import MonkeySyntax.Proofs.Parser.Removal
import MonkeySyntax.Proofs.Parser.Chains
import MonkeySyntax.Proofs.Parser.Charging
