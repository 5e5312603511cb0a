import PermeantOS.AdmissionRun
import PermeantOS.AgentRestored
import PermeantOS.AgentReturnHome
import PermeantOS.AgentTrust
import PermeantOS.AgentWorkspace
import PermeantOS.BindingManifest
import PermeantOS.BridgedDaemon
import PermeantOS.ChunkGrammar
import PermeantOS.ContentHashes
import PermeantOS.Extractor
import PermeantOS.FidelityHorizons
import PermeantOS.Fp8Nearest
import PermeantOS.ImportProgress
import PermeantOS.InjectContract
import PermeantOS.LayoutRoundTrip
import PermeantOS.LlamaClaims
import PermeantOS.LlamaRawKv
import PermeantOS.MemoryGraph
import PermeantOS.MessageLimits
import PermeantOS.MlxFeed
import PermeantOS.PayloadBytes
import PermeantOS.PayloadScale
import PermeantOS.PytorchAtomicity
import PermeantOS.QatqArtifact
import PermeantOS.QatqInt4
import PermeantOS.QatqMigration
import PermeantOS.ReceiverRun
import PermeantOS.ReplaySafety
import PermeantOS.SdkClient
import PermeantOS.SdkFrames
import PermeantOS.SecretScan
import PermeantOS.SecureHello
import PermeantOS.SessionAdmission
import PermeantOS.SessionCount
import PermeantOS.SpanBinding
import PermeantOS.VectorSnapshots
import PermeantOS.VllmBridge
import PermeantOS.VllmCombined
import PermeantOS.VllmRegistryRun
import PermeantOS.VllmSeparate
import PermeantOS.WebSocket
import PermeantOS.WsHandshake
