import CredentialRotation.Text.Shown
import CredentialRotation.Tls.DnsName
import CredentialRotation.Tls.IpAddress

/-!
The name a client asks a server for: a host name or an address.
-/
namespace CredentialRotation

inductive ServerName
  | dns (name : String)
  | ip (address : IpAddress)
  deriving DecidableEq, Repr

namespace ServerName

/-- Reads a name. Host names come first, and hold ASCII characters only. -/
def ofText? (text : String) : Option ServerName :=
  if text.toList.all (·.toNat < 128) ∧ DnsName.isReference (Octets.ascii text) then
    some (.dns text)
  else (IpAddress.ofText? text).map .ip

/-- The name as text; addresses in their usual form. -/
def text : ServerName → String
  | .dns name => name
  | .ip address => address.text

private def shownOctets (bs : Octets) : String :=
  Shown.list (fun b => toString b.toNat) bs

def shown : ServerName → String
  | .dns name => "DnsName(" ++ Shown.text name ++ ")"
  | .ip (.v4 bs) => "IpAddress(V4(Ipv4Addr(" ++ shownOctets bs ++ ")))"
  | .ip (.v6 bs) => "IpAddress(V6(Ipv6Addr(" ++ shownOctets bs ++ ")))"

end ServerName
end CredentialRotation
