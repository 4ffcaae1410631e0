import RawPost.Main
import RawPost.Proofs.Course
import RawPost.Proofs.Reception
import RawPost.Proofs.Wrapping
import RawPost.Proofs.Assembly
import RawPost.Proofs.Framing
import RawPost.Proofs.Stages
import RawPost.Proofs.Transfer
import RawPost.Proofs.Program
import RawPost.Proofs.Filling
import RawPost.Proofs.Ending
import RawPost.Proofs.Deadline
import RawPost.Proofs.Interleaving
import RawPost.Proofs.Target
import RawPost.Proofs.Session
import RawPost.Proofs.Offer
import RawPost.Proofs.Layout
import RawPost.Proofs.Diagnostics
import RawPost.Proofs.EitherWay
import RawPost.Proofs.PortText
import RawPost.Proofs.Fallback
import RawPost.Proofs.Numeral
import RawPost.Proofs.Precedence
import RawPost.Proofs.Display
import RawPost.Proofs.Malformed
import RawPost.Proofs.Quotation
import RawPost.Proofs.Telling
import RawPost.Proofs.Verbatim
