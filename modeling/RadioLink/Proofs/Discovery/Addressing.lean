import RadioLink.Proofs.Device.Targets
import RadioLink.Proofs.Discovery.Identity

/-!
Where the devices of announced services are dialled, and what tells them apart. A service with an
IPv4 address is dialled there, and another one at the name of its host. The text that an identifier
is derived from tells the instance, the host, the first IPv4 address or that there is none, and the
port.
-/

set_option autoImplicit false
set_option relaxedAutoImplicit false

namespace RadioLink

namespace Announcement

/-- A host is a host name without the dots at its end. -/
structure Undotted (hostname host : String) : Prop where
  dots : ∃ count, hostname.toList = host.toList ++ List.replicate count '.'
  last : host.toList.getLast? ≠ some '.'

variable {a b : Announcement} {config : Config.Tcp}

private theorem undotted_host (a : Announcement) : Undotted a.hostname a.host := by
  have hhost : a.host.toList = a.hostname.toList.rdropWhile (· = '.') := String.toList_ofList
  have hdots : ∀ c ∈ a.hostname.toList.rtakeWhile (· = '.'), c = '.' := fun c mem => by
    simpa using List.mem_rtakeWhile_imp mem
  constructor
  · refine ⟨(a.hostname.toList.rtakeWhile (· = '.')).length, ?_⟩
    rw [hhost, ← List.eq_replicate_iff.mpr ⟨rfl, hdots⟩, List.rdropWhile_append_rtakeWhile]
  · intro hlast
    rw [hhost] at hlast
    have hother := Text.getLast_rdropWhile _ _ '.' hlast
    exact absurd hother (by decide)

/-! ### Where a service is dialled -/

private theorem tcpTarget_toDevice (well : (⟨a.address, a.port⟩ : Target).WellFormed) :
    Transport.tcpTarget config a.toDevice = .ok ⟨a.address, a.port⟩ :=
  Transport.tcpTarget_of_parse rfl (well.parse_normalized config.defaultPort)

private theorem ipv4?_of_first {front rest : List Net.IpAddress} {ip : Net.Ipv4}
    (addresses : a.addresses = front ++ .v4 ip :: rest)
    (first : ∀ other ∈ front, other.isIpv4 = false) : a.ipv4? = some (.v4 ip) := by
  rw [ipv4?, List.find?_eq_some_iff_append]
  refine ⟨rfl, front, rest, addresses, fun other mem => ?_⟩
  rw [first other mem]
  rfl

private theorem wellFormed_of_ipv4 (ip : Net.Ipv4) (port : UInt16) :
    (⟨String.ofList ip.chars, port⟩ : Target).WellFormed := by
  have hlong : 4 < ip.chars.length := ip.length_chars
  refine ⟨?_, ?_, fun c hc => ?_⟩
  · rw [String.toList_ofList]
    exact List.ne_nil_of_length_pos (by omega)
  · rw [String.toList_ofList]
    exact ip.colon_not_mem_chars
  · rw [String.toList_ofList, Net.Ipv4.chars, List.append_assoc, List.append_assoc,
      List.head?_append_of_ne_nil _ (Text.decimalDigits_ne_nil _)] at hc
    exact Text.isBlank_of_isDecimalDigit (Text.isDecimalDigit_of_mem (List.mem_of_head? hc))

/-! ### What tells services apart -/

private theorem ipText_eq_iff : a.ipText = b.ipText ↔ a.ipv4? = b.ipv4? := by
  -- The remark in place of an address cannot be read as one.
  have hremark (ip : Net.IpAddress) : toString ip ≠ "Unknown IP" := by
    intro hsame
    have hread := ip.ofChars?_chars
    rw [← ip.toList_toString, hsame] at hread
    have hnone : Net.IpAddress.ofChars? "Unknown IP".toList = none := by decide
    cases hnone.symm.trans hread
  rw [ipText, ipText]
  cases a.ipv4? with
  | none =>
    cases b.ipv4? with
    | none => simp
    | some other => simpa using (hremark other).symm
  | some ip =>
    cases b.ipv4? with
    | none => simpa using hremark ip
    | some other =>
      rw [Option.some_inj]
      exact ⟨Net.IpAddress.toString_injective, fun hsame => hsame ▸ rfl⟩

/-- A service that has an IPv4 address is dialled at the first one, in dotted form, and the
announced port, whatever its host is called. One that has none is dialled at its host, if that can
be read back. The identifiers of two services with plain hosts are derived from one text exactly if
they agree in instance, host, first IPv4 address or its absence, and port. -/
theorem services_dialled_and_apart (a : Announcement) (config : Config.Tcp) :
    (∀ front ip rest, a.addresses = front ++ .v4 ip :: rest →
      (∀ other ∈ front, other.isIpv4 = false) →
      Transport.tcpTarget config a.toDevice = .ok ⟨String.ofList ip.chars, a.port⟩) ∧
    Undotted a.hostname a.host ∧
    ((∀ ip ∈ a.addresses, ip.isIpv4 = false) → a.host ≠ "" → ':' ∉ a.host.toList →
      Text.Bare a.host.toList → Transport.tcpTarget config a.toDevice = .ok ⟨a.host, a.port⟩) ∧
    a.toDevice.id = .ofText a.identity ∧
    ∀ b : Announcement, a.HasPlainHost → b.HasPlainHost →
      (a.identity = b.identity ↔
        a.name = b.name ∧ a.host = b.host ∧ a.ipv4? = b.ipv4? ∧ a.port = b.port) := by
  refine ⟨fun front ip rest addresses first => ?_, a.undotted_host, ?_, rfl, ?_⟩
  · have haddress : a.address = String.ofList ip.chars := by
      rw [address, ipv4?_of_first addresses first]
      rfl
    have hwell := wellFormed_of_ipv4 ip a.port
    rw [← haddress] at hwell ⊢
    exact tcpTarget_toDevice hwell
  · intro hnone hnamed hplain hbare
    have hnowhere : a.ipv4? = none := List.find?_eq_none.mpr fun ip mem => by simp [hnone ip mem]
    have haddress : a.address = a.host := by
      rw [address, hnowhere]
    have hwell : (⟨a.host, a.port⟩ : Target).WellFormed :=
      ⟨mt String.toList_eq_nil_iff.mp hnamed, hplain, hbare.first⟩
    rw [← haddress] at hwell ⊢
    exact tcpTarget_toDevice hwell
  · intro b hplain hplain'
    rw [identity_eq_iff hplain hplain', ipText_eq_iff, Text.decimal_port_eq_iff]

def service (addresses : List Net.IpAddress) : Announcement :=
  ⟨"Radio:1", "radio.local..", addresses, 4403, none, none, false⟩

theorem services_dialled_and_apart_named :
    let known : List Net.IpAddress :=
      [.v6 ⟨[0xfe80, 0, 0, 0, 0, 0, 0, 1], rfl⟩, .v4 ⟨10, 0, 0, 5⟩, .v4 ⟨192, 168, 1, 42⟩]
    Transport.tcpTarget { defaultPort := 80 } (service known).toDevice =
      .ok ⟨"10.0.0.5", 4403⟩ ∧
    Transport.tcpTarget { defaultPort := 80 } (service []).toDevice =
      .ok ⟨"radio.local", 4403⟩ ∧
    (service known).identity ≠ (service []).identity := by
  intro known
  obtain ⟨hdialled, -, -, -, hapart⟩ :=
    services_dialled_and_apart (service known) { defaultPort := 80 }
  obtain ⟨-, -, hnamed, -, -⟩ := services_dialled_and_apart (service []) { defaultPort := 80 }
  refine ⟨?_, ?_, fun hsame => ?_⟩
  · have hdotted : String.ofList (Net.Ipv4.chars ⟨10, 0, 0, 5⟩) = "10.0.0.5" := by decide +kernel
    rw [← hdotted]
    exact hdialled [.v6 ⟨[0xfe80, 0, 0, 0, 0, 0, 0, 1], rfl⟩] ⟨10, 0, 0, 5⟩ _ rfl (by decide)
  · have hhost : (service []).host = "radio.local" := by decide +kernel
    rw [hhost] at hnamed
    exact hnamed nofun (by decide) (by decide) (by decide +kernel)
  · have hcolon : ':' ∉ "radio.local..".toList := by decide +kernel
    have hplain (addresses : List Net.IpAddress) : (service addresses).HasPlainHost := hcolon
    have haddress := ((hapart _ (hplain known) (hplain [])).mp hsame).2.2.1
    exact absurd haddress (by decide)

end Announcement

end RadioLink
