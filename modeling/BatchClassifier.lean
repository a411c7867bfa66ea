import BatchClassifier.ByteSize
import BatchClassifier.ClassNames
import BatchClassifier.Classifier
import BatchClassifier.Classifier.Error
import BatchClassifier.CommandLine.Flag
import BatchClassifier.CommandLine.Help
import BatchClassifier.CommandLine.Parse
import BatchClassifier.CommandLine.Program
import BatchClassifier.CommandLine.Settings
import BatchClassifier.CommandLine.Usage
import BatchClassifier.Failure
import BatchClassifier.Feed
import BatchClassifier.FileTree
import BatchClassifier.Floor
import BatchClassifier.Image.Anymap
import BatchClassifier.Image.Bitmap
import BatchClassifier.Image.Bitmap.RunLength
import BatchClassifier.Image.Codec
import BatchClassifier.Image.Format
import BatchClassifier.Image.Inflate
import BatchClassifier.Image.Png
import BatchClassifier.Image.Png.Chunk
import BatchClassifier.Image.Png.Header
import BatchClassifier.Image.Png.Preamble
import BatchClassifier.Image.Png.Rows
import BatchClassifier.Image.Raster
import BatchClassifier.Image.Resample
import BatchClassifier.Image.Tensor
import BatchClassifier.ImageName
import BatchClassifier.Main
import BatchClassifier.Pool
import BatchClassifier.Worker
import BatchClassifier.Queue
import BatchClassifier.Queue.History
import BatchClassifier.Queue.Waiting
import BatchClassifier.Ranking
import BatchClassifier.Sink.Writer
import BatchClassifier.ResultLine
import BatchClassifier.Run
import BatchClassifier.Run.Schedule
import BatchClassifier.Score
import BatchClassifier.Sink
import BatchClassifier.Sink.Scripted
import BatchClassifier.Stage
import BatchClassifier.Stream
import BatchClassifier.Text.Cut
import BatchClassifier.Text.Capital
import BatchClassifier.Text.Number
import BatchClassifier.Text.Quoted
import BatchClassifier.Text.Terminal
import BatchClassifier.Text.Utf8
import BatchClassifier.Thread
import BatchClassifier.Proofs.Floor.Log
import BatchClassifier.Proofs.Run.Execution
import BatchClassifier.Proofs.Basic
import BatchClassifier.Proofs.Run.Shutdown
import BatchClassifier.Proofs.Run.Completion
import BatchClassifier.Proofs.Queue.Linearization
import BatchClassifier.Proofs.Run.Conservation
import BatchClassifier.Proofs.Pool.Accounts
import BatchClassifier.Proofs.Run.Delivery
import BatchClassifier.Proofs.Queue.WakeUp
import BatchClassifier.Proofs.Run.Calls
import BatchClassifier.Proofs.Run.Outcome
import BatchClassifier.Proofs.Run.Isolation
import BatchClassifier.Proofs.Pool.Shift
import BatchClassifier.Proofs.Feed.Ending
import BatchClassifier.Proofs.Run.Order
import BatchClassifier.Proofs.Stream.Lines
import BatchClassifier.Proofs.Feed.Reading
import BatchClassifier.Proofs.Run.Interruption
import BatchClassifier.Proofs.Sink.Writing
import BatchClassifier.Proofs.Sink.Draining
import BatchClassifier.Proofs.Sink.Lines
import BatchClassifier.Proofs.Sink.Page
import BatchClassifier.Proofs.Ranking.Order
import BatchClassifier.Proofs.Ranking.Walls
import BatchClassifier.Proofs.Text.Number
import BatchClassifier.Proofs.Classifier.Line
import BatchClassifier.Proofs.Text.Newline
import BatchClassifier.Proofs.Classifier.Rendering
import BatchClassifier.Proofs.Pool.Renderings
import BatchClassifier.Proofs.Run.Framing
import BatchClassifier.Proofs.Ranking.Comparison
import BatchClassifier.Proofs.Ranking.Selection
import BatchClassifier.Proofs.Worker.Handling
import BatchClassifier.Proofs.Sink.Calls
import BatchClassifier.Proofs.Feed.RoundTrip
import BatchClassifier.Proofs.Text.Replacement
import BatchClassifier.Proofs.Feed.Decoding
import BatchClassifier.Proofs.Text.Lowering
import BatchClassifier.Proofs.ByteSize.Grammar
import BatchClassifier.Proofs.ImageName.Extension
import BatchClassifier.Proofs.CommandLine.Choice
import BatchClassifier.Proofs.Image.Layout
import BatchClassifier.Proofs.ClassNames.Listing
import BatchClassifier.Proofs.Image.Recognition
import BatchClassifier.Proofs.CommandLine.Spelling
import BatchClassifier.Proofs.CommandLine.Order
import BatchClassifier.Proofs.Softmax.Shares
