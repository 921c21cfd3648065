import CompactSql.Input.FileTree
import CompactSql.Main
import CompactSql.Proofs.Layout.Idempotence
import CompactSql.Proofs.Scan.Account
import CompactSql.Proofs.Scan.Classification
import CompactSql.Proofs.Layout.Classification
import CompactSql.Proofs.Lexeme.Outlook
import CompactSql.Proofs.Scan.Source
import CompactSql.Proofs.Scan.Terminator
import CompactSql.Proofs.Text.LetterCase
import CompactSql.Proofs.Lexeme.LetterCase
import CompactSql.Proofs.Layout.LetterCase
import CompactSql.Proofs.Text.LineEnding
import CompactSql.Proofs.Lexeme.LineEnding
import CompactSql.Proofs.Scan.LineEnding
import CompactSql.Proofs.Lexeme.DollarQuotation
import CompactSql.Proofs.Lexeme.LongestMatch
import CompactSql.Proofs.Command.Run
import CompactSql.Proofs.Scan.Operator
import CompactSql.Proofs.Scan.Quotation
import CompactSql.Proofs.Scan.ReadBack
import CompactSql.Proofs.Scan.Joined
import CompactSql.Proofs.Scan.Comment
import CompactSql.Proofs.Layout.NormalForm
import CompactSql.Proofs.Keywords.Words
import CompactSql.Proofs.Scan.QuotedIdentifier
import CompactSql.Proofs.Config.Json
import CompactSql.Proofs.Text.Blank
import CompactSql.Proofs.Input.Keywords
import CompactSql.Proofs.Lexeme.Refolding
import CompactSql.Proofs.Listing.Entries
import CompactSql.Proofs.Listing.Json
