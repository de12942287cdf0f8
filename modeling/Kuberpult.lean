import Kuberpult.Error
import Kuberpult.Fs.Path
import Kuberpult.Fs.TreeFs
import Kuberpult.State.Basic
import Kuberpult.State.Releases
import Kuberpult.State.Json
import Kuberpult.State.Configs
import Kuberpult.State.Queue
import Kuberpult.State.Metadata
import Kuberpult.Auth.Base64
import Kuberpult.ArgoCd.AfterTransform
import Kuberpult.ArgoCd.Output
import Kuberpult.Auth.User
import Kuberpult.Auth.Transport
import Kuberpult.Setup.Health
import Kuberpult.Writer.World
import Kuberpult.Writer.ApplyTransformers
import Kuberpult.Writer.ProcessQueue
import Kuberpult.Writer.Pass
import Kuberpult.Writer.Once
import Kuberpult.Writer.Delivery
import Kuberpult.Writer.History
import Kuberpult.Writer.Recovery
import Kuberpult.Writer.ApplyElements
import Kuberpult.Writer.Lifecycle
import Kuberpult.Writer.Retry
import Kuberpult.Frontend.Js
import Kuberpult.Frontend.Store
import Kuberpult.Frontend.Releases
