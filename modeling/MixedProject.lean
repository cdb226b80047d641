import MixedProject.Traces
import MixedProject.BinaryRounding
import MixedProject.Foundation
import MixedProject.CircleModels
import MixedProject.CircleCells
import MixedProject.FriendCircle
import MixedProject.NestedScroll
import MixedProject.FeedCoherence
import MixedProject.LikeToggle
import MixedProject.ScrollCascade
import MixedProject.ScrollEvents
import MixedProject.ScrollOwnership
import MixedProject.ScrollPin
import MixedProject.NewsModels
import MixedProject.NewsRefresh
import MixedProject.NewsCache
import MixedProject.NewsApp
import MixedProject.NewsAtomicity
import MixedProject.ReachabilityDelivery
import MixedProject.OfflineLaunch
import MixedProject.ScrollSettling
import MixedProject.JoinedWords
import MixedProject.LikerLinks
import MixedProject.ScrollAlpha
import MixedProject.CommentInput
import MixedProject.CommentLinks
import MixedProject.CommentScroll
import MixedProject.SectionHeadView
import MixedProject.LikeMenu
import MixedProject.HeaderLayout
import MixedProject.PictureGrid
import MixedProject.HeaderTaps
import MixedProject.CommentTyping
import MixedProject.NewsFailure
import MixedProject.CommentDelivery
import MixedProject.RaisingLoops
import MixedProject.ServerAnswer
import MixedProject.VideoModels
import MixedProject.VideoAnswers
import MixedProject.NewsCell
import MixedProject.NewsAnswers
import MixedProject.CellReuse
import MixedProject.LiveLinks
import MixedProject.StepAnimation
import MixedProject.RowLayout
import MixedProject.KeyedLoops
import MixedProject.MenuView
import MixedProject.MenuLayout
import MixedProject.MenuRuns
import MixedProject.MenuAnimation
import MixedProject.PageController
import MixedProject.PageLifecycle
import MixedProject.PageWindow
import MixedProject.PageRuns
import MixedProject.PageCaches
import MixedProject.PageSurvival
import MixedProject.PageSettling
import MixedProject.Tally
import MixedProject.RefreshHeader
import MixedProject.RefreshRuns
import MixedProject.RefreshLoads
import MixedProject.RefreshSettling
import MixedProject.RefreshSubviewRuns
import MixedProject.RefreshInset
import MixedProject.NewsHeaders
import MixedProject.ImageLoading
import MixedProject.ImageOwners
import MixedProject.ImageViews
import MixedProject.ImageRuns
import MixedProject.ImageAnswers
import MixedProject.ImageRest
import MixedProject.ImageWork
import MixedProject.NewsPictures
