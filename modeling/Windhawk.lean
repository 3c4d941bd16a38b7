import Windhawk.Js.Builtins
import Windhawk.Js.Storage
import Windhawk.Js.Strings
import Windhawk.PipeDelimited
import Windhawk.ModConfig.Codec
import Windhawk.ModConfig.MergeSettings
import Windhawk.ModConfig.Backends
import Windhawk.ModConfig.Utils
import Windhawk.ModConfig.Store
import Windhawk.AppSettings.Codec
import Windhawk.AppSettings.Backends
import Windhawk.AppSettings.Utils
import Windhawk.AppSettings.UpdateUtils
import Windhawk.Engine.SessionPrivateNamespace
import Windhawk.Engine.UpdateChecker
import Windhawk.Engine.UpdateCheckerRequests
import Windhawk.Webview.ModDetailsSource
import Windhawk.Webview.FilterOptions
import Windhawk.Webview.ModsBrowserOnline.Filters
import Windhawk.Webview.ModsBrowserOnline.FilterState
import Windhawk.Webview.ReplyHandlers
import Windhawk.Webview.ModsBrowserLocal.Filters
