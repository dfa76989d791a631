import PeerChannelEncryptor.Bytes
import PeerChannelEncryptor.Crypto
import PeerChannelEncryptor.State
import PeerChannelEncryptor.Bolt8
import PeerChannelEncryptor.Noise
import PeerChannelEncryptor.Handshake
import PeerChannelEncryptor.Transport
import PeerChannelEncryptor.Conformance
import PeerChannelEncryptor.Agreement
import PeerChannelEncryptor.Stream
import PeerChannelEncryptor.Schedule
import PeerChannelEncryptor.Independence
import PeerChannelEncryptor.Failures
import PeerChannelEncryptor.Channel
import PeerChannelEncryptor.Session
import PeerChannelEncryptor.Framework
import PeerChannelEncryptor.XK
