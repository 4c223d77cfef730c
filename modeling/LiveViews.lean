import LiveViews.Main
import LiveViews.Proofs.File.Inverse
import LiveViews.Proofs.File.Paths
import LiveViews.Proofs.Log.Fitting
import LiveViews.Proofs.Render.Expansion
import LiveViews.Proofs.Render.RangeSearch
import LiveViews.Proofs.Render.Record
import LiveViews.Proofs.Signal.Operations
import LiveViews.Proofs.Signal.Reentry
import LiveViews.Proofs.Site.Causes
import LiveViews.Proofs.Site.Checking
import LiveViews.Proofs.Site.Confinement
import LiveViews.Proofs.Site.FileEdits
import LiveViews.Proofs.Site.Finding
import LiveViews.Proofs.Site.Inclusion
import LiveViews.Proofs.Site.Overtaking
import LiveViews.Proofs.Site.Reopening
import LiveViews.Proofs.Site.Requests
import LiveViews.Proofs.Site.Routing
import LiveViews.Proofs.Site.Widgets
import LiveViews.Proofs.Site.Writing
import LiveViews.Proofs.Store.Restarts
import LiveViews.Proofs.Store.Seeding
import LiveViews.Proofs.View.Extension
import LiveViews.Proofs.View.Separators
import LiveViews.Proofs.View.Spelling
import LiveViews.Proofs.View.Substitution
import LiveViews.Proofs.Watch.Flushing
import LiveViews.Proofs.Widget.Arguments
