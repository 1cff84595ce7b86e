import DocRoot.Exchange
import DocRoot.Main
import DocRoot.Network
import DocRoot.Proofs.AccessLog.CombinedForm
import DocRoot.Proofs.AccessLog.JsonForm
import DocRoot.Proofs.Admission
import DocRoot.Proofs.Deadline
import DocRoot.Proofs.KeepAlive
import DocRoot.Proofs.LogBook.Run
import DocRoot.Proofs.RequestPath.Composition
import DocRoot.Proofs.Server
import DocRoot.Proofs.Serving.Concealment
import DocRoot.Proofs.Serving.Containment
import DocRoot.Proofs.Serving.Convergence
import DocRoot.Proofs.Serving.HeadOnly
import DocRoot.Proofs.Serving.Links
import DocRoot.Proofs.Serving.LoggedRun
import DocRoot.Proofs.Serving.Logging
import DocRoot.Proofs.Serving.Notices
import DocRoot.Proofs.Serving.Presence
import DocRoot.Proofs.Serving.Redirect
import DocRoot.Proofs.Serving.Respelling
import DocRoot.Proofs.Serving.Spelling
import DocRoot.Proofs.Serving.Status
import DocRoot.Proofs.Settings.Loading
import DocRoot.Proofs.Startup
import DocRoot.Proofs.Html
import DocRoot.Proofs.Listing.Page
import DocRoot.Proofs.Listing.Order
import DocRoot.Proofs.Serving.Hiding
import DocRoot.Proofs.Serving.Index
import DocRoot.Proofs.ContentType.Extension
import DocRoot.Proofs.Address.Socket
