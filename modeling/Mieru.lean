import Mieru.Net.IP
import Mieru.Socks5.Types
import Mieru.Socks5.Reader
import Mieru.Socks5.Codec
import Mieru.Socks5.Request
import Mieru.Socks5.Outbound
import Mieru.Socks5.Associate
import Mieru.Socks5.Dispatch
import Mieru.Socks5.Forward
import Mieru.Socks5.Sockets
import Mieru.Socks5.Interleaving
import Mieru.Socks5.Handshake
import Mieru.Socks5.Provenance
