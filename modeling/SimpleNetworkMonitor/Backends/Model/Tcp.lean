import SimpleNetworkMonitor.Domain.Host
/-!
# The TCP backend
-/

namespace SimpleNetworkMonitor.Backends

structure TcpRequest where
  address : String
  port : Port
  timeout : ℕ
  deriving DecidableEq

end SimpleNetworkMonitor.Backends
