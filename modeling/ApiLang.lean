import ApiLang.Main
import ApiLang.Proofs.Text.Slices
import ApiLang.Proofs.Token.Shapes
import ApiLang.Proofs.Token.Lexemes
import ApiLang.Proofs.Token.Tiling
import ApiLang.Proofs.Token.Placing
import ApiLang.Proofs.Token.Restart
import ApiLang.Proofs.Token.Misspelling
import ApiLang.Proofs.Tree.Grammar
import ApiLang.Proofs.Tree.Located
import ApiLang.Proofs.Tree.ReadingTypes
import ApiLang.Proofs.Tree.ReadingLists
import ApiLang.Proofs.Tree.ReadingValues
import ApiLang.Proofs.Tree.ReadingFiles
import ApiLang.Proofs.Tree.Layout
import ApiLang.Proofs.Tree.Rows
import ApiLang.Proofs.Tree.Takes
import ApiLang.Proofs.Tree.Lines
import ApiLang.Proofs.Tree.RereadingTypes
import ApiLang.Proofs.Tree.RereadingValues
import ApiLang.Proofs.Tree.Whole
import ApiLang.Proofs.Tree.RereadingServices
import ApiLang.Proofs.Tree.RoundTrip
import ApiLang.Proofs.Tree.Accounting
import ApiLang.Proofs.Tree.Recovery
import ApiLang.Proofs.Tree.Reports
import ApiLang.Proofs.Tree.Concatenation
import ApiLang.Proofs.Tree.Shift
import ApiLang.Proofs.Tree.Transfer
import ApiLang.Proofs.Tree.TransferReaders
import ApiLang.Proofs.Tree.TransferBodies
import ApiLang.Proofs.Tree.TransferFiles
import ApiLang.Proofs.Tree.MissingBrace
import ApiLang.Proofs.Tree.Coverage
import ApiLang.Proofs.Document.Grouping
import ApiLang.Proofs.Document.Numbering
import ApiLang.Proofs.Document.Building
import ApiLang.Proofs.Document.Nesting
import ApiLang.Proofs.Document.Names
import ApiLang.Proofs.Document.Shift
import ApiLang.Proofs.Document.Warnings
import ApiLang.Proofs.Document.Forest
import ApiLang.Proofs.Document.Places
import ApiLang.Proofs.Document.Arena
import ApiLang.Proofs.Document.Index
import ApiLang.Proofs.Document.Duplicates
import ApiLang.Proofs.Document.Imports
import ApiLang.Proofs.Document.Severity
import ApiLang.Proofs.Document.Checking
import ApiLang.Proofs.Document.Sorting
import ApiLang.Proofs.Document.Concatenation
import ApiLang.Proofs.Document.Faults
import ApiLang.Proofs.Document.Sessions
import ApiLang.Proofs.Tree.Cuts
import ApiLang.Proofs.Document.Quoting
import ApiLang.Proofs.Document.Labels
import ApiLang.Proofs.Document.Meaning
import ApiLang.Proofs.Path
import ApiLang.Proofs.Document.Ambiguity
import ApiLang.Proofs.Document.Locating
import ApiLang.Proofs.Document.OneHop
import ApiLang.Proofs.Tree.Likeness
import ApiLang.Proofs.Tree.Fading
import ApiLang.Proofs.Tree.Transparency
import ApiLang.Proofs.Tree.PlainLine
import ApiLang.Proofs.Tree.LineByLine
import ApiLang.Proofs.Document.Merging
import ApiLang.Proofs.Document.Canonical
import ApiLang.Proofs.Tree.Loops
import ApiLang.Proofs.Tree.Progress
import ApiLang.Proofs.Document.References
import ApiLang.Proofs.Document.Listing
import ApiLang.Proofs.Document.Positions
import ApiLang.Proofs.Document.Spellings
import ApiLang.Proofs.Naming.Words
import ApiLang.Proofs.Naming.PlainNames
import ApiLang.Proofs.Naming.Styles
