import LineTemplate.Main
import LineTemplate.Proofs.Blocks.Captures
import LineTemplate.Proofs.Blocks.Chains
import LineTemplate.Proofs.Blocks.NestedSources
import LineTemplate.Proofs.Blocks.Selection
import LineTemplate.Proofs.CommandLine.Words
import LineTemplate.Proofs.Expressions.Arithmetic
import LineTemplate.Proofs.Expressions.Globs
import LineTemplate.Proofs.Expressions.Literals
import LineTemplate.Proofs.Expressions.Parsing
import LineTemplate.Proofs.Expressions.Respelling
import LineTemplate.Proofs.Lines.Spellings
import LineTemplate.Proofs.Options.SettingLines
import LineTemplate.Proofs.Options.SkippedLines
import LineTemplate.Proofs.Output.Arrangement
import LineTemplate.Proofs.Sources.Bytes
import LineTemplate.Proofs.Sources.Capturing
import LineTemplate.Proofs.Sources.Cycles
import LineTemplate.Proofs.Sources.Deliveries
import LineTemplate.Proofs.Sources.Indentation
import LineTemplate.Proofs.Sources.Templates
import LineTemplate.Proofs.Sources.Verbatim
import LineTemplate.Proofs.Variables.NestedRows
import LineTemplate.Proofs.Variables.Parameters
import LineTemplate.Proofs.Variables.References
