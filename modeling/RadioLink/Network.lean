import RadioLink.Link.Tcp
import RadioLink.Update.WifiUpdater

/-!
Networks on which nobody speaks unasked: what dialling leads to, what then comes in on a link, and
what each operation of an update over WiFi is answered with.
-/

set_option autoImplicit false

namespace RadioLink

structure Network where
  dial : Target → Link.Tcp.Dialled
  incoming : List Link.Tcp.Incoming
  answer : Update.NetOperation → Except SystemError Update.NetYield

namespace Network

/-- The network of a host that has addresses of its own, but no route to any address. -/
def isolated : Network where
  dial _ := .failed .networkUnreachable
  incoming := []
  answer
    | .resolve .. => .ok .nothing
    | .listen _ => .ok (.port 0)
    | _ => .error .networkUnreachable

end Network

end RadioLink
