import SharedBytes.Main
import SharedBytes.Session.Step
import SharedBytes.Proofs.Transfer.Kept
import SharedBytes.Proofs.Transfer.Rounds
import SharedBytes.Proofs.Channel.Kept
import SharedBytes.Proofs.Scene
import SharedBytes.Proofs.LastWriter
import SharedBytes.Proofs.Limit
import SharedBytes.Proofs.Transfer.Alike
import SharedBytes.Proofs.Transfer.Reports
import SharedBytes.Proofs.Transfer.Offers
import SharedBytes.Proofs.Transfer.Storing
import SharedBytes.Proofs.Transfer.Gaps
import SharedBytes.Proofs.Transfer.Appending
import SharedBytes.Proofs.Session.Channels
import SharedBytes.Proofs.Session.Copies
import SharedBytes.Proofs.Session.Directions
import SharedBytes.Proofs.Channel.Cursors
import SharedBytes.Proofs.Cursors
import SharedBytes.Proofs.Session.Appends
import SharedBytes.Proofs.Channel.Alike
import SharedBytes.Proofs.Channel.Runs
import SharedBytes.Proofs.Capabilities
import SharedBytes.Proofs.Follower
import SharedBytes.Proofs.Session.Placements
import SharedBytes.Proofs.Session.Redaction
import SharedBytes.Proofs.Session.Holders
import SharedBytes.Proofs.Session.Locks
import SharedBytes.Proofs.Session.Independence
import SharedBytes.Proofs.Session.Closing
import SharedBytes.Proofs.Writes
import SharedBytes.Proofs.AtEnd
import SharedBytes.Proofs.Session.Overlap
import SharedBytes.Proofs.Session.Repetition
import SharedBytes.Proofs.Portions
import SharedBytes.Proofs.Reads
import SharedBytes.Proofs.Ranges
import SharedBytes.Proofs.Channel.Effective
import SharedBytes.Proofs.Session.Effective
import SharedBytes.Proofs.Text.Utf8
import SharedBytes.Proofs.Walkthrough
import SharedBytes.Proofs.Session.Records
import SharedBytes.Proofs.Session.Fates
import SharedBytes.Proofs.Session.Releases
import SharedBytes.Proofs.Words
