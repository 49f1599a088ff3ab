import CodeAtlas.Main
import CodeAtlas.Proofs.Script.Reading
import CodeAtlas.Proofs.Script.Importing
import CodeAtlas.Proofs.Script.Meaning
import CodeAtlas.Proofs.Tree.Agreement
import CodeAtlas.Proofs.Text.Splitting
import CodeAtlas.Proofs.Disk.Listing
import CodeAtlas.Proofs.Tree.Exactness
import CodeAtlas.Proofs.Tree.Decoding
import CodeAtlas.Proofs.Explorer.Batch
import CodeAtlas.Proofs.Explorer.Refusal
import CodeAtlas.Proofs.Explorer.Target
import CodeAtlas.Proofs.Json.Deletion
import CodeAtlas.Proofs.Json.Distinctness
import CodeAtlas.Proofs.Server.FailureText
import CodeAtlas.Proofs.Explorer.Recovery
import CodeAtlas.Proofs.Python.LineOrder
import CodeAtlas.Proofs.Python.StatementOrder
import CodeAtlas.Proofs.Python.OutlineLines
import CodeAtlas.Proofs.Python.LeadingLines
import CodeAtlas.Proofs.Cli.FlagOrder
import CodeAtlas.Proofs.Docstring.Escapes
import CodeAtlas.Proofs.Json.Liveness
import CodeAtlas.Proofs.Json.UniqueKeys
import CodeAtlas.Proofs.Server.CallArguments
import CodeAtlas.Proofs.Server.Sessions
import CodeAtlas.Proofs.Heading.Extraction
import CodeAtlas.Proofs.Docstring.Literals
import CodeAtlas.Proofs.Python.Rejection
import CodeAtlas.Proofs.Python.StringTokens
import CodeAtlas.Proofs.Python.Definitions
import CodeAtlas.Proofs.Python.Docstrings
import CodeAtlas.Proofs.Text.EndedLines
import CodeAtlas.Proofs.Docstring.Columns
import CodeAtlas.Proofs.Docstring.Indentation
import CodeAtlas.Proofs.Tree.Depth
import CodeAtlas.Proofs.Tree.Fence
import CodeAtlas.Proofs.Text.TabStops
