import SnippetCheck.Main
import SnippetCheck.Proofs.Document
import SnippetCheck.Proofs.Listing
import SnippetCheck.Proofs.Places
import SnippetCheck.Proofs.Run.Abort
import SnippetCheck.Proofs.Run.Account
import SnippetCheck.Proofs.Run.Consecutive
import SnippetCheck.Proofs.Run.Order
import SnippetCheck.Proofs.Run.Recapture
import SnippetCheck.Proofs.Run.Siblings
import SnippetCheck.Proofs.Run.Spoilt
import SnippetCheck.Proofs.Files.Beside
import SnippetCheck.Proofs.Compiler.Beside
import SnippetCheck.Proofs.Run.Beside
import SnippetCheck.Proofs.Run.Interleaving
import SnippetCheck.Proofs.Source.Relocation
import SnippetCheck.Proofs.Code
import SnippetCheck.Proofs.Code.Indentation
import SnippetCheck.Proofs.Wrap.Kotlin
import SnippetCheck.Proofs.Files.Reached
import SnippetCheck.Proofs.Run.Sources
import SnippetCheck.Proofs.Files.Reaching
import SnippetCheck.Proofs.Run.Footprint
import SnippetCheck.Proofs.Run.Cleaning
import SnippetCheck.Proofs.Manifest.Check
import SnippetCheck.Proofs.Wrap.LineEndings
import SnippetCheck.Proofs.Wrap.Java
import SnippetCheck.Proofs.Source.Remainder
import SnippetCheck.Proofs.Compiler.Output
import SnippetCheck.Proofs.State.SavedBaseline
import SnippetCheck.Proofs.State.SavedCache
import SnippetCheck.Proofs.Manifest.Requirements
import SnippetCheck.Proofs.Text.Slug
import SnippetCheck.Proofs.Run.Schedule
import SnippetCheck.Proofs.Compiler.Classpath
import SnippetCheck.Proofs.Code.Indentation
