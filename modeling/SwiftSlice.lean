import SwiftSlice.Main
import SwiftSlice.Proofs.Extension
import SwiftSlice.Proofs.Pruning
import SwiftSlice.Record.Reading
import SwiftSlice.Proofs.FileSelection
import SwiftSlice.Proofs.EntryPoint
import SwiftSlice.Proofs.Resolving
import SwiftSlice.Proofs.Growth
import SwiftSlice.Proofs.Rereading
import SwiftSlice.Proofs.Reproduction
import SwiftSlice.Proofs.Reordering
import SwiftSlice.Proofs.Numbering
import SwiftSlice.Proofs.OutputDirectory
import SwiftSlice.Proofs.FailedRun
import SwiftSlice.Proofs.Naming
import SwiftSlice.Proofs.Ending
import SwiftSlice.Proofs.Confinement
import SwiftSlice.Proofs.Comparison
import SwiftSlice.Proofs.Seeding
import SwiftSlice.Proofs.ExtendedType
import SwiftSlice.Proofs.Preview
import SwiftSlice.Proofs.Embedding
import SwiftSlice.Proofs.Companion
import SwiftSlice.Proofs.Acceptance
import SwiftSlice.Proofs.Importing
import SwiftSlice.Proofs.Finding
import SwiftSlice.Proofs.Traversal
import SwiftSlice.Proofs.Indexing
import SwiftSlice.Proofs.Normalizing
import SwiftSlice.Proofs.Rendering
