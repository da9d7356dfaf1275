import CommentFold.Main
import CommentFold.Proofs.CommentEnds
import CommentFold.Proofs.Interleaving
import CommentFold.Proofs.Leaks
import CommentFold.Proofs.SecondFold
import CommentFold.Proofs.SequentialRun
import CommentFold.Proofs.BlockEvents
import CommentFold.Proofs.EventLog
import CommentFold.Proofs.Collisions
import CommentFold.Proofs.Processing
import CommentFold.Proofs.CommandLines
import CommentFold.Proofs.Independence
import CommentFold.Proofs.FileOutcomes
import CommentFold.Proofs.LineMap
import CommentFold.Proofs.PlainFiles
import CommentFold.Proofs.Seams
import CommentFold.Proofs.TrailingBlocks
import CommentFold.Proofs.StagingComponents
import CommentFold.Proofs.WriterStates
import CommentFold.Proofs.FilterReading
import CommentFold.Proofs.RefusedRuns
