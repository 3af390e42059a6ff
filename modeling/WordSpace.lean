import WordSpace.Main
import WordSpace.Proofs.Embedding.Directions
import WordSpace.Proofs.Expression.RoundTrip
import WordSpace.Proofs.Expression.Segmentation
import WordSpace.Proofs.Expression.Steps
import WordSpace.Proofs.Launch.Directories
import WordSpace.Proofs.Lexicon.Files
import WordSpace.Proofs.Lexicon.Malformed
import WordSpace.Proofs.Lexicon.Misfits
import WordSpace.Proofs.Session.Absorption
import WordSpace.Proofs.Session.Accounting
import WordSpace.Proofs.Session.Expansion
import WordSpace.Proofs.Session.Independence
import WordSpace.Proofs.Session.Operands
import WordSpace.Proofs.Session.Stray
import WordSpace.Proofs.Session.Swapping
import WordSpace.Proofs.Shell.Listing
import WordSpace.Proofs.Shell.Loop
