import WitchcraftServer.ConnectionMetrics
import WitchcraftServer.ConnectionLifecycle
import WitchcraftServer.Witchcraft
import WitchcraftServer.Registration
import WitchcraftServer.Server
import WitchcraftServer.Shutdown
