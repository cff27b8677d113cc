import Marlinspike.Json

/-! What the code that reads the reports takes from Python's library. -/
namespace Marlinspike.Reports

structure Library where
  lower : String → String
  upper : String → String
  strip : String → String
  /-- `str(ipaddress.ip_address(v))`, for an address. -/
  ipAddress : String → Option String
  /-- `str(v)`, for a `v` that is no string. -/
  str : Json → String

end Marlinspike.Reports
