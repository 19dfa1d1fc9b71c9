import PrimesAndRoots.Main
import PrimesAndRoots.PrimeStream.Batch
import PrimesAndRoots.Proofs.Numeral
import PrimesAndRoots.Proofs.Source
import PrimesAndRoots.Proofs.TrialDivision
import PrimesAndRoots.Session
import PrimesAndRoots.Proofs.PrimeStream
import PrimesAndRoots.Proofs.SquareRoot
import PrimesAndRoots.Proofs.Terminal
import PrimesAndRoots.Proofs.PrimePrompt
import PrimesAndRoots.Proofs.RootPrompt
import PrimesAndRoots.Proofs.Conversation
import PrimesAndRoots.Proofs.LockStep
import PrimesAndRoots.Proofs.Session
import PrimesAndRoots.Proofs.Sittings
import PrimesAndRoots.Proofs.FailingWriter
import PrimesAndRoots.Proofs.RootTurns
import PrimesAndRoots.Proofs.StreamStates
import PrimesAndRoots.Proofs.Quoted
import PrimesAndRoots.Proofs.Command
import PrimesAndRoots.Proofs.StreamEvents
import PrimesAndRoots.Proofs.BoundedDivision
import PrimesAndRoots.Proofs.StreamOperations
import PrimesAndRoots.Proofs.RootCertificate
import PrimesAndRoots.Proofs.RootTurnCount
import PrimesAndRoots.Proofs.NumeralRefusal
import PrimesAndRoots.Proofs.RootLog
import PrimesAndRoots.Proofs.RootRefusal
