import TextMemory.CommandLine.Run
import TextMemory.Embedder.Adapter
import TextMemory.Main
import TextMemory.Memory.Tool
import TextMemory.Store.Import
import TextMemory.Web.Service
import TextMemory.Proofs.Action
import TextMemory.Proofs.Result
import TextMemory.Proofs.Store.History
import TextMemory.Proofs.Store.Operation
import TextMemory.Proofs.Chunking
import TextMemory.Proofs.Memory.Operation
import TextMemory.Proofs.Memory.Content
import TextMemory.Proofs.Memory.History
import TextMemory.Proofs.Memory.Tool
import TextMemory.Proofs.Disk
import TextMemory.Proofs.CommandLine
import TextMemory.Proofs.Web
import TextMemory.Proofs.Failure
import TextMemory.Proofs.FloatOrder
import TextMemory.Proofs.Ranking
import TextMemory.Proofs.Memory.Search
import TextMemory.Proofs.Store.Dimensions
import TextMemory.Proofs.Memory.Source
import TextMemory.Proofs.Memory.Vectors
import TextMemory.Proofs.Memory.Answer
import TextMemory.Proofs.Memory.Commute
import TextMemory.Proofs.Keyword
import TextMemory.Proofs.ExactRanking
import TextMemory.Proofs.Memory.Name
import TextMemory.Proofs.Web.Source
import TextMemory.Proofs.Store.KeywordSearch
import TextMemory.Proofs.Similarity
import TextMemory.Proofs.Store.VectorSearch
import TextMemory.Proofs.Cut
import TextMemory.Proofs.Store.RoundTrip
import TextMemory.Proofs.SwappedRanking
import TextMemory.Proofs.Memory.Argument
import TextMemory.Proofs.Embedder.Adapter
import TextMemory.Proofs.Store.Listing
import TextMemory.Proofs.Advance
import TextMemory.Proofs.Embedder.Position
import TextMemory.Proofs.Settings.Variable
import TextMemory.Proofs.Entrance
