import Iptsd.Reader
import Iptsd.ReaderRun
import Iptsd.Protocol
import Iptsd.ProtocolRead
import Iptsd.ProtocolLayout
import Iptsd.Maximas
import Iptsd.MaximasTraversal
import Iptsd.MaximasKernel
import Iptsd.Stabilizer
import Iptsd.StabilizerContact
import Iptsd.StabilizerWindow
import Iptsd.StabilizerDeadBand
import Iptsd.StabilizerPermutation
import Iptsd.Stylus
import Iptsd.StylusInput
import Iptsd.StylusPackets
import Iptsd.StylusWire
