import Trust0.Model
import Trust0.Model.User
import Trust0.Net.Connection
import Trust0.Net.ConnectionRun
import Trust0.Net.UdpServer
import Trust0.Net.UdpServerRun
import Trust0.Repository
import Trust0.Gateway.ServiceMgr
import Trust0.Gateway.ServiceMgrRun
import Trust0.Gateway.ShutdownConnections
import Trust0.Gateway.Config
import Trust0.Client.ServiceMgr
import Trust0.Client.ServiceMgrRun
import Trust0.Crypto.Asn
import Trust0.ProxyEvents
