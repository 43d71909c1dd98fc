import RadioLink.Discovery.Announcement
import RadioLink.Proofs.Net.Addresses

/-!
The text that the identifier of an announced service is derived from. Its parts are joined by
colons, and only the instance in front may hold colons of its own. So the parts can be told apart
from the end, and two services whose identities agree are one instance.
-/

set_option autoImplicit false
set_option relaxedAutoImplicit false

namespace RadioLink

namespace Text

private theorem mem_of_mem_dropTrailing {c d : Char} {text : List Char}
    (mem : d ∈ dropTrailing c text) : d ∈ text := by
  rw [dropTrailing, List.mem_reverse] at mem
  exact List.mem_reverse.mp ((List.dropWhile_suffix _).subset mem)

end Text

namespace Announcement

/-- A host name in which there is no colon. Names on the local network are such. -/
def HasPlainHost (a : Announcement) : Prop := ':' ∉ a.hostname.toList

instance (a : Announcement) : Decidable a.HasPlainHost :=
  inferInstanceAs (Decidable (':' ∉ a.hostname.toList))

variable {a b : Announcement}

private theorem HasPlainHost.colon_not_mem_host (plain : a.HasPlainHost) : ':' ∉ a.host.toList := by
  intro mem
  rw [host, String.toList_ofList] at mem
  exact plain (Text.mem_of_mem_dropTrailing mem)

private theorem colon_not_mem_ipText (a : Announcement) : ':' ∉ a.ipText.toList := by
  rw [ipText]
  cases hip : a.ipv4? with
  | none => decide
  | some ip =>
    have hv4 : ip.isIpv4 = true := List.find?_some hip
    cases ip with
    | v6 address => cases hv4
    | v4 address =>
      have hchars : (toString (Net.IpAddress.v4 address)).toList = address.chars :=
        String.toList_ofList
      rw [hchars]
      exact address.colon_not_mem_chars

theorem identity_eq_iff (plain : a.HasPlainHost) (plain' : b.HasPlainHost) :
    a.identity = b.identity ↔ a.name = b.name ∧ a.host = b.host ∧ a.ipText = b.ipText ∧
      Text.decimal a.port.toNat = Text.decimal b.port.toNat := by
  rw [identity, identity,
    Text.append_colon_inj (Text.colon_not_mem_decimal _) (Text.colon_not_mem_decimal _),
    Text.append_colon_inj a.colon_not_mem_ipText b.colon_not_mem_ipText,
    Text.append_colon_inj plain.colon_not_mem_host plain'.colon_not_mem_host, and_assoc, and_assoc]

end Announcement

end RadioLink
