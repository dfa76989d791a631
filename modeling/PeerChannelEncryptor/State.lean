import PeerChannelEncryptor.Crypto

/-!
# PeerChannelEncryptor.State

The noise states of `peer_channel_encryptor.rs` and its two protocol constants.

The Rust code keeps the handshake phase in the type: `PeerChannelEncryptor<InProgress<T>>` for a
`NoiseStep` `T`, whose associated `DirectionalNoiseState` holds what the role has collected so
far, next to the `BidirectionalNoiseState` (`h`, `ck`) both roles share. `InProgress` is indexed
by a `NoiseStep` in the same way, so a transition only applies in its own phase and a state
cannot be fed to the transition of another.

`PeerChannelEncryptor<T>` also holds `secp_ctx`, a precomputation context of the curve library
with no protocol data: it is modelled by its `noise_state` alone.
-/

namespace Lightning
namespace PeerChannelEncryptor

/-- `Direction`: which end opened the connection. -/
inductive Direction where
  | inbound
  | outbound
  deriving DecidableEq, Repr

/-- `NoiseStep`: the phase of the handshake. -/
inductive NoiseStep where
  | preActOne (d : Direction)
  | postActOne (d : Direction)
  | postActTwo (d : Direction)
  deriving DecidableEq, Repr

section Directional

variable (SecretKey PublicKey : Type)

/-- `OutboundData`: the initiator's ephemeral secret and the responder's static key. -/
structure OutboundData where
  ie : SecretKey
  theirNodeId : PublicKey

/-- `InboundPreActOne`: a responder that has seen nothing yet. -/
structure InboundPreActOne where

/-- `InboundPostActOne`. -/
structure InboundPostActOne where
  ie : PublicKey

/-- `InboundPostActTwo`: the initiator's ephemeral key, the responder's ephemeral secret and
`temp_k2`, which act three is sealed with. -/
structure InboundPostActTwo where
  ie : PublicKey
  re : SecretKey
  tempK2 : Bytes

/-- `<T as NoiseStep>::DirectionalNoiseState`. -/
def NoiseStep.DirectionalNoiseState : NoiseStep → Type
  | .preActOne .inbound => InboundPreActOne
  | .preActOne .outbound => OutboundData SecretKey PublicKey
  | .postActOne .inbound => InboundPostActOne PublicKey
  | .postActOne .outbound => OutboundData SecretKey PublicKey
  | .postActTwo .inbound => InboundPostActTwo SecretKey PublicKey
  | .postActTwo .outbound => OutboundData SecretKey PublicKey

end Directional

/-- `BidirectionalNoiseState`: the handshake hash and the chaining key. -/
structure BidirectionalNoiseState where
  h : Bytes
  ck : Bytes
  deriving DecidableEq, Repr

/-- `InProgress<T>`: a handshake in phase `T`. -/
structure InProgress (SecretKey PublicKey : Type) (T : NoiseStep) where
  directionalState : T.DirectionalNoiseState SecretKey PublicKey
  bidirectionalState : BidirectionalNoiseState

/-- `Finished`: the send key, nonce and chaining key, then the same for receiving. -/
structure Finished where
  sk : Bytes
  sn : UInt64
  sck : Bytes
  rk : Bytes
  rn : UInt64
  rck : Bytes
  deriving DecidableEq, Repr

/-- `NOISE_CK`, `Sha256("Noise_XK_secp256k1_ChaChaPoly_SHA256")`. -/
def noiseCk : Bytes :=
  [0x26, 0x40, 0xf5, 0x2e, 0xeb, 0xcd, 0x9e, 0x88, 0x29, 0x58, 0x95, 0x1c, 0x79, 0x42, 0x50, 0xee,
   0xdb, 0x28, 0x00, 0x2c, 0x05, 0xd7, 0xdc, 0x2e, 0xa0, 0xf1, 0x95, 0x40, 0x60, 0x42, 0xca, 0xf1]

/-- `NOISE_H`, `Sha256(NOISE_CK || "lightning")`. -/
def noiseH : Bytes :=
  [0xd1, 0xfb, 0xf6, 0xde, 0xe4, 0xf6, 0x86, 0xf1, 0x32, 0xfd, 0x70, 0x2c, 0x4a, 0xbf, 0x8f, 0xba,
   0x4b, 0xb4, 0x20, 0xd8, 0x9d, 0x2a, 0x04, 0x8a, 0x3c, 0x4f, 0x4c, 0x09, 0x2e, 0x37, 0xb6, 0x76]

end PeerChannelEncryptor
end Lightning
