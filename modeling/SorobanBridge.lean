import SorobanBridge.Xdr.Writer
import SorobanBridge.Xdr.Types
import SorobanBridge.Marshal
import SorobanBridge.Effects
import SorobanBridge.Invoke
import SorobanBridge.Invoke.Proofs
import SorobanBridge.ModuleCache
import SorobanBridge.ModuleCache.Proofs
import SorobanBridge.ModuleCache.Commute
import SorobanBridge.Rent
