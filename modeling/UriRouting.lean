import UriRouting.Log.Run
import UriRouting.Main
import UriRouting.Proofs.Ambiguity
import UriRouting.Proofs.Anchoring
import UriRouting.Proofs.Configuring
import UriRouting.Proofs.Dispatch
import UriRouting.Proofs.Equality
import UriRouting.Proofs.FirstValues
import UriRouting.Proofs.Forms
import UriRouting.Proofs.Generalising
import UriRouting.Proofs.JoinedQueries
import UriRouting.Proofs.Mounting
import UriRouting.Proofs.PathKeys
import UriRouting.Proofs.Refusals
import UriRouting.Proofs.Spelling
import UriRouting.Proofs.WrittenAddresses
import UriRouting.Proofs.Readings
import UriRouting.Proofs.Reports
import UriRouting.Proofs.ExampleReplies
import UriRouting.Proofs.ReadableMessages
