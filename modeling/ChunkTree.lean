import ChunkTree.Binary.Reader
import ChunkTree.View.Operation
import ChunkTree.Main
import ChunkTree.Proofs.LoadSave
import ChunkTree.Proofs.SaveFaithful
import ChunkTree.Proofs.SaveStable
import ChunkTree.Proofs.ChunksKept
import ChunkTree.Proofs.Reading
import ChunkTree.Proofs.Forward
import ChunkTree.Proofs.ReadAhead
import ChunkTree.Proofs.Containment
import ChunkTree.Proofs.Tokens
import ChunkTree.Proofs.TextRead
import ChunkTree.Proofs.Floatless
import ChunkTree.Proofs.Stored
import ChunkTree.Proofs.TwoSteps
import ChunkTree.Proofs.KeyOrder
import ChunkTree.Proofs.SaveJson
import ChunkTree.Proofs.SizeFailures
import ChunkTree.Proofs.SizeFields
import ChunkTree.Proofs.TableGrammar
import ChunkTree.Proofs.FieldAccess
import ChunkTree.Proofs.NamedSizes
import ChunkTree.Proofs.VarintShortest
import ChunkTree.Proofs.Lookup
import ChunkTree.Proofs.Scripts
import ChunkTree.Proofs.NeutralDefaults
import ChunkTree.Proofs.TrailingBytes
import ChunkTree.Proofs.StoredTexts
import ChunkTree.Proofs.Equivalence
import ChunkTree.Proofs.Announced
import ChunkTree.Proofs.CompositeDefaults
import ChunkTree.Proofs.FloatBits
import ChunkTree.Proofs.ReaderRuns
import ChunkTree.Proofs.TableRows
import ChunkTree.Proofs.LeafArrays
import ChunkTree.Proofs.ConvertedFolders
