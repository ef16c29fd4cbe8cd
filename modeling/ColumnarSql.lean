import ColumnarSql.Database.Basic
import ColumnarSql.Database.Script
import ColumnarSql.ExecutionError
import ColumnarSql.Grammar.Expectation
import ColumnarSql.Grammar.Production
import ColumnarSql.Grammar.Script
import ColumnarSql.Lexeme.Number
import ColumnarSql.Lexeme.Punctuation
import ColumnarSql.Lexeme.Quotation
import ColumnarSql.Lexeme.Scanner
import ColumnarSql.Lexeme.Spelling
import ColumnarSql.Lexeme.Word
import ColumnarSql.Shell.Rendering
import ColumnarSql.Shell.Session
import ColumnarSql.Statement
import ColumnarSql.Storage.Column
import ColumnarSql.Storage.DataType
import ColumnarSql.Storage.Table
import ColumnarSql.Storage.Value
import ColumnarSql.Text.Delimited
import ColumnarSql.Text.Numeral
import ColumnarSql.Text.Quoted
import ColumnarSql.Token.Basic
import ColumnarSql.Token.Keyword
import ColumnarSql.Token.Location
import ColumnarSql.Token.Symbol
import ColumnarSql.Tokenization
import ColumnarSql.Unicode.Alphabetic
import ColumnarSql.Unicode.CodeSet
import ColumnarSql.Unicode.DefaultIgnorable
import ColumnarSql.Unicode.GraphemeExtend
import ColumnarSql.Unicode.LowerCase
import ColumnarSql.Unicode.Numeric
import ColumnarSql.Unicode.Unprintable
import ColumnarSql.Unicode.WhiteSpace
import ColumnarSql.Main
import ColumnarSql.Proofs.Storage.Accumulation
import ColumnarSql.Proofs.Storage.Alignment
import ColumnarSql.Proofs.Database.Effect
import ColumnarSql.Proofs.Database.History
import ColumnarSql.Proofs.Grammar.Dispatch
import ColumnarSql.Proofs.Grammar.Independence
import ColumnarSql.Proofs.Grammar.Script
import ColumnarSql.Proofs.Grammar.Spelling
import ColumnarSql.Proofs.Grammar.ViablePrefix
import ColumnarSql.Proofs.Grammar.Relocation
import ColumnarSql.Proofs.Lexeme.Word
import ColumnarSql.Proofs.Lexeme.Number
import ColumnarSql.Proofs.Lexeme.Reading
import ColumnarSql.Proofs.Database.Script
import ColumnarSql.Proofs.Grammar.Writing
import ColumnarSql.Proofs.Database.Dump
import ColumnarSql.Proofs.Lexeme.Denotation
import ColumnarSql.Proofs.Lexeme.Dispatch
import ColumnarSql.Proofs.Lexeme.Relayout
import ColumnarSql.Proofs.Database.ScriptText
import ColumnarSql.Proofs.Database.Reachable
import ColumnarSql.Proofs.Database.Locality
import ColumnarSql.Proofs.Database.Representation
import ColumnarSql.Proofs.Lexeme.Canonical
import ColumnarSql.Proofs.Lexeme.Offence
import ColumnarSql.Proofs.Lexeme.Concatenation
import ColumnarSql.Proofs.Database.Growth
import ColumnarSql.Proofs.Database.Provenance
import ColumnarSql.Proofs.Shell.Rendering
import ColumnarSql.Proofs.Shell.Session
import ColumnarSql.Proofs.Location
import ColumnarSql.Proofs.Fault
import ColumnarSql.Proofs.Storage.Rows
import ColumnarSql.Proofs.Database.Diagnosis
import ColumnarSql.Proofs.Lexeme.NumberPass
import ColumnarSql.Proofs.Database.IntegerLiteral
import ColumnarSql.Proofs.Lexeme.SpellingPass
import ColumnarSql.Proofs.Grammar.Walk
import ColumnarSql.Proofs.Grammar.Progress
