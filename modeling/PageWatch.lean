import PageWatch.CommandLine.Trial
import PageWatch.Main
import PageWatch.Watch.Rehearsal
import PageWatch.Proofs.Calendar.Days
import PageWatch.Proofs.Calendar.Readable
import PageWatch.Proofs.Calendar.RoundTrip
import PageWatch.Proofs.Calendar.Translation
import PageWatch.Proofs.Charset.Declarations
import PageWatch.Proofs.Charset.Pages
import PageWatch.Proofs.Charset.Parameters
import PageWatch.Proofs.Config.Guards
import PageWatch.Proofs.Document.Searches
import PageWatch.Proofs.Document.Tokens
import PageWatch.Proofs.Extraction.BasePath
import PageWatch.Proofs.Extraction.Choice
import PageWatch.Proofs.Extraction.Endpoints
import PageWatch.Proofs.Extraction.Locality
import PageWatch.Proofs.Extraction.NestedDates
import PageWatch.Proofs.Extraction.Origins
import PageWatch.Proofs.Extraction.ReadableText
import PageWatch.Proofs.Extraction.Rendering
import PageWatch.Proofs.Extraction.Spellings
import PageWatch.Proofs.Network.BareReplies
import PageWatch.Proofs.Network.DamagedReplies
import PageWatch.Proofs.Site.Alternatives
import PageWatch.Proofs.Site.Padding
import PageWatch.Proofs.Site.RoundTrip
import PageWatch.Proofs.Store.Agreement
import PageWatch.Proofs.Watch.Again
import PageWatch.Proofs.Watch.Apart
import PageWatch.Proofs.Watch.Cutoffs
import PageWatch.Proofs.Watch.Effects
import PageWatch.Proofs.Watch.Fetches
import PageWatch.Proofs.Watch.Repetition
import PageWatch.Proofs.Watch.Restarts
