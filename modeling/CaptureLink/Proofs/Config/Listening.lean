import CaptureLink.Config
import CaptureLink.Proofs.Net.Address

/-
  The address on which a server listens, as a text and as a
  setting.  For a host of version four the text is read as the
  setting.  For one of version six it lacks the brackets that
  keep the port apart, and it is not read as any address.

  Main statements:
    * `Config.bracketedAddress`
    * `Config.address_of_serverSettings`
    * `Config.listenAddress_agrees`
-/

namespace CaptureLink

open Net (IpAddress SocketAddress)

/- The address is of version four. -/
def Net.SocketAddress.isV4 : SocketAddress → Bool
| .v4 _ _ => true
| .v6 _ _ _ => false

namespace Config

/- Host and port as one text, with brackets around the host. -/
def bracketedAddress (c : Config) : String :=
  "[" ++ c.server.host ++ "]:" ++ c.server.port.toNat.repr

/- The setting is the host, which is an address, with the port. -/
theorem address_of_serverSettings
    {c : Config}
    {settings : ServerSettings}
    (hSettings : c.serverSettings = .ok settings) :
    ∃ ip,
      IpAddress.ofText? c.server.host = some ip ∧
        settings.address = .of ip c.server.port := by
  unfold serverSettings at hSettings
  cases hHost : IpAddress.ofText? c.server.host with
  | none =>
      rw [hHost] at hSettings
      cases hSettings
  | some ip =>
      rw [hHost] at hSettings
      cases hSettings
      exact ⟨ip, rfl, rfl⟩

/-
  Let there be settings.  If their address is of version four
  then the text is read as this address.  Otherwise it is read
  as none, and with brackets around the host it would be read
  as this address.
-/
theorem listenAddress_agrees
    {c : Config}
    {settings : ServerSettings}
    (hSettings : c.serverSettings = .ok settings) :
    SocketAddress.ofText? c.listenAddress =
        (if settings.address.isV4 then some settings.address
        else none) ∧
      (settings.address.isV4 = false →
        SocketAddress.ofText? c.bracketedAddress =
          some settings.address) := by
  rcases address_of_serverSettings hSettings with
    ⟨ip, hHost, hAddress⟩
  rw [hAddress]
  cases ip with
  | v4 ip =>
      refine ⟨?_, ?_⟩
      · exact SocketAddress.ofText?_of_v4 c.server.port hHost
      · intro hSix
        cases hSix
  | v6 ip =>
      refine ⟨?_, ?_⟩
      · exact SocketAddress.ofText?_of_v6 c.server.port hHost
      · intro _
        exact SocketAddress.ofText?_bracketed c.server.port hHost

/- The defaults, with another host. -/
def hosted (host : String) : Config :=
  { standard with
    server := { ServerSection.standard with host := host } }

/- A host of version four, and the same one within version six. -/
theorem listenAddress_agrees_mapped :
    (∃ settings,
      (hosted "10.0.0.7").serverSettings = .ok settings ∧
        SocketAddress.ofText? (hosted "10.0.0.7").listenAddress =
          some settings.address) ∧
      ∃ settings,
        (hosted "::ffff:10.0.0.7").serverSettings =
            .ok settings ∧
          SocketAddress.ofText?
              (hosted "::ffff:10.0.0.7").listenAddress = none ∧
            SocketAddress.ofText?
                (hosted "::ffff:10.0.0.7").bracketedAddress =
              some settings.address := by
  have hFour : (hosted "10.0.0.7").serverSettings = .ok _ := rfl
  have hSix :
      (hosted "::ffff:10.0.0.7").serverSettings = .ok _ := rfl
  rcases listenAddress_agrees hFour with ⟨hText, _⟩
  rcases listenAddress_agrees hSix with ⟨hNone, hBracketed⟩
  exact ⟨⟨_, hFour, hText⟩, _, hSix, hNone, hBracketed rfl⟩

/- The text for the machine itself in version six is no address. -/
theorem listenAddress_of_loopback :
    ∃ settings,
      (hosted "::1").serverSettings = .ok settings ∧
        (hosted "::1").listenAddress = "::1:7766" ∧
          SocketAddress.ofText? "::1:7766" = none := by
  refine ⟨_, rfl, ?_, ?_⟩
  · decide
  · decide

end Config

end CaptureLink
