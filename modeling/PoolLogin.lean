import PoolLogin.Benchmark
import PoolLogin.Login.Form
import PoolLogin.Main
import PoolLogin.Proofs.Action
import PoolLogin.Proofs.Benchmark
import PoolLogin.Proofs.Command.Absent
import PoolLogin.Proofs.Command.Agreement
import PoolLogin.Proofs.Command.Arguments
import PoolLogin.Proofs.Command.Counts
import PoolLogin.Proofs.Command.Dumps
import PoolLogin.Proofs.Command.Failures
import PoolLogin.Proofs.Command.Formats
import PoolLogin.Proofs.Command.Frame
import PoolLogin.Proofs.Command.Golden
import PoolLogin.Proofs.Command.Limit
import PoolLogin.Proofs.Command.Names
import PoolLogin.Proofs.Command.Replace
import PoolLogin.Proofs.Command.Reports
import PoolLogin.Proofs.Command.Rows
import PoolLogin.Proofs.Command.Session
import PoolLogin.Proofs.Command.Shown
import PoolLogin.Proofs.Command.Summary
import PoolLogin.Proofs.Console.Lead
import PoolLogin.Proofs.Console.Line
import PoolLogin.Proofs.Console.Plain
import PoolLogin.Proofs.Console.Table
import PoolLogin.Proofs.Console.Tabs
import PoolLogin.Proofs.Console.Unfit
import PoolLogin.Proofs.Console.Wrap
import PoolLogin.Proofs.Csv.RoundTrip
import PoolLogin.Proofs.Decimal.Nearest
import PoolLogin.Proofs.Entries
import PoolLogin.Proofs.FileTree.Directory
import PoolLogin.Proofs.FileTree.Place
import PoolLogin.Proofs.FileTree.Read
import PoolLogin.Proofs.FileTree.Settled
import PoolLogin.Proofs.FileTree.Writable
import PoolLogin.Proofs.FileTree.Write
import PoolLogin.Proofs.Json.Bounds
import PoolLogin.Proofs.Json.Characters
import PoolLogin.Proofs.Json.Content
import PoolLogin.Proofs.Json.Number
import PoolLogin.Proofs.Json.RoundTrip
import PoolLogin.Proofs.Json.Rows
import PoolLogin.Proofs.Json.Text
import PoolLogin.Proofs.Json.Value
import PoolLogin.Proofs.Log
import PoolLogin.Proofs.Log.History
import PoolLogin.Proofs.Log.Lines
import PoolLogin.Proofs.Log.Records
import PoolLogin.Proofs.Login.Cut
import PoolLogin.Proofs.Login.Dump
import PoolLogin.Proofs.Login.Form
import PoolLogin.Proofs.Login.Scan
import PoolLogin.Proofs.Login.Truncate
import PoolLogin.Proofs.Login.Wide
import PoolLogin.Proofs.Scenario.CaseFile
import PoolLogin.Proofs.Scenario.Check
import PoolLogin.Proofs.Scenario.Load
import PoolLogin.Proofs.Scenario.Repair
import PoolLogin.Proofs.Scenario.Rows
import PoolLogin.Proofs.Scenario.Yaml
import PoolLogin.Proofs.Synthetic
import PoolLogin.Proofs.Text.Grapheme
import PoolLogin.Proofs.Text.Join
import PoolLogin.Proofs.Text.Lines
import PoolLogin.Proofs.Text.Lossy
import PoolLogin.Proofs.Text.Numeral
import PoolLogin.Proofs.Text.Pieces
import PoolLogin.Proofs.Text.Quoted
import PoolLogin.Proofs.Text.Split
import PoolLogin.Proofs.Text.Utf8
import PoolLogin.Proofs.Yaml.Nodes
import PoolLogin.Proofs.Yaml.Pair
import PoolLogin.Proofs.Yaml.Plain
import PoolLogin.Proofs.Yaml.Quoted
import PoolLogin.Proofs.Yaml.Rounds
import PoolLogin.Proofs.Yaml.Rows
import PoolLogin.Proofs.Yaml.Tokens
import PoolLogin.Proofs.Yaml.Values
import PoolLogin.Scenario.Case
import PoolLogin.Scenario.Reader
import PoolLogin.Synthetic.Twister
