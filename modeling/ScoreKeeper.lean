import ScoreKeeper.Text.Quoted
import ScoreKeeper.Text.Integer
import ScoreKeeper.Topic
import ScoreKeeper.Checksum
import ScoreKeeper.Codec.Document
import ScoreKeeper.Board.Leaderboard
import ScoreKeeper.Board.Pack
import ScoreKeeper.Json.Parse
import ScoreKeeper.Json.Write
import ScoreKeeper.Store.Document
import ScoreKeeper.Session.Fields
import ScoreKeeper.Session.Answer
import ScoreKeeper.Disk.Basic
import ScoreKeeper.Store.TopicStore
import ScoreKeeper.Cli.Similar
import ScoreKeeper.Cli.Error
import ScoreKeeper.Cli.Help
import ScoreKeeper.Cli.Parse
import ScoreKeeper.Cli.Interface
import ScoreKeeper.Net.Addr
import ScoreKeeper.Net.Punycode
import ScoreKeeper.Net.Host
import ScoreKeeper.Net.Url
import ScoreKeeper.Toml.Read
import ScoreKeeper.Toml.Document
import ScoreKeeper.Server.Config
import ScoreKeeper.Tool.Run
import ScoreKeeper.Session.Runs
import ScoreKeeper.Session.Remote
import ScoreKeeper.Json.Binary64
import ScoreKeeper.Json.RecordReader
import ScoreKeeper.Server.Router
import ScoreKeeper.Client.Http
import ScoreKeeper.Main
import ScoreKeeper.Proofs.Board.Placement
import ScoreKeeper.Proofs.Board.Add
import ScoreKeeper.Proofs.Board.History
import ScoreKeeper.Proofs.Board.Eviction
import ScoreKeeper.Proofs.Codec.LineRoundTrip
import ScoreKeeper.Proofs.Text.Utf8
import ScoreKeeper.Proofs.Codec.DocumentRoundTrip
import ScoreKeeper.Proofs.Store.Append
import ScoreKeeper.Proofs.Store.Runs
import ScoreKeeper.Proofs.Store.Lock
import ScoreKeeper.Proofs.Codec.LineChecks
import ScoreKeeper.Proofs.Codec.Tamper
import ScoreKeeper.Proofs.Text.Split
import ScoreKeeper.Proofs.Store.Outcomes
import ScoreKeeper.Proofs.Server.Routes
import ScoreKeeper.Proofs.Client.Agreement
import ScoreKeeper.Proofs.Codec.DocumentLines
import ScoreKeeper.Proofs.Board.PackRuns
import ScoreKeeper.Proofs.Board.Loaded
import ScoreKeeper.Proofs.Codec.ChecksumAlgebra
import ScoreKeeper.Proofs.Store.Topics
