import IosChrome.Fullscreen.DisabledVisible
import IosChrome.Sessions.SessionMigrated
import IosChrome.Sessions.ChangesSaved
import IosChrome.Tabs.RestoredSafely
import IosChrome.Tabs.DetachSelection
import IosChrome.Tabs.InheritedOpener
import IosChrome.Tabs.InsertionOrder
import IosChrome.TabGrid.GridConsistent
import IosChrome.TabGrid.UndoCloseAll
import IosChrome.Navigation.SessionStorage
import IosChrome.Navigation.PlaceholderUrl
import IosChrome.Overlays.HideContract
import IosChrome.Overlays.ActiveQueue
import IosChrome.ReadingList.OwnResults
import IosChrome.SafeBrowsing.QueryManager
import IosChrome.Security.StatusesQueried
import IosChrome.Security.AllowancesKept
import IosChrome.Security.SessionCertificates
import IosChrome.Snapshots.StorageMaintenance
import IosChrome.Cookies.CreationTimesAgree
import IosChrome.Cookies.HTTPCookieStore
import IosChrome.JsMessaging.WebFramesManager
import IosChrome.JsMessaging.RequestsCompleteOnce
import IosChrome.JsMessaging.ExecutedOnce
import IosChrome.JsMessaging.OwnReplies
import IosChrome.JsMessaging.StructureKept
import IosChrome.Autofill.SuggestionsAttributed
import IosChrome.BrowsingData.RemovalsInOrder
import IosChrome.Net.ReadsAnswered
import IosChrome.Net.ReceivedInOrder
import IosChrome.Net.RequestDeleted
import IosChrome.Omaha.BackOffKept
import IosChrome.Omaha.PingOrTimer
import IosChrome.Omaha.RejectedResponse
import IosChrome.Omaha.ResponsesRead
import IosChrome.Downloads.AttemptsSeparate
import IosChrome.Downloads.TruthfulCompletion
import IosChrome.CrashReport.TabsNotLost
import IosChrome.Prerender.CancelKept
import IosChrome.Cookies.CreationTimesUnique
import IosChrome.Snapshots.PinnedKept
import IosChrome.Cookies.DeliveredCookies
import IosChrome.FindInPage.FindInPageManagerImpl
import IosChrome.Navigation.WKNavigationStates
import IosChrome.Navigation.HistoryAccessors
import IosChrome.FindInPage.TreeRestored
import IosChrome.FindInPage.VisibleSelection
import IosChrome.Lists.SectionsKept
import IosChrome.Lists.HistoryRuns
import IosChrome.Browsers.BrowserStateInfoCache
import IosChrome.Security.CertVerificationController
import IosChrome.AppLauncher.AppLauncherTabHelper
import IosChrome.Net.ResponseHeaders
import IosChrome.Lists.ReadingListMediator
import IosChrome.Browsers.ClosingWebStateObserver
import IosChrome.Bookmarks.BookmarkUtils
import IosChrome.TabGrid.GridDrops
import IosChrome.CrashReport.CrashReporterURLObserver
import IosChrome.ContentSuggestions.CollectionUpdater
import IosChrome.CrashReport.MainThreadFreezeDetector
import IosChrome.Bookmarks.NodeVectors
import IosChrome.Navigation.TimeSmoother
import IosChrome.ReadingList.EntriesTended
