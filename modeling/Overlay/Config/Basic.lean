import Overlay.Duration
import Overlay.Member.Edge
import Overlay.Net.SocketAddress
import Overlay.Route.Command
import Overlay.Url.Read

/-!
# The configuration of an edge

A configuration says where the tunnel listens and which device and address it has, where the
controller is and under which name the edge is known to it, how routes are changed, how the bridge
retries and reports, and what is logged.

Five of the settings can be overridden by variables of the environment. A configuration is then
validated: `Config.validate` names the first setting, in a fixed order, that has no usable value.
-/

namespace Overlay

/-- Settings of the tunnel. -/
structure TunnelSettings where
  /-- The address to listen on. -/
  listen : SocketAddress
  /-- The name of the device. -/
  device : String
  /-- The address of this host in the overlay, with the subnet that it owns. -/
  address : Subnet
  /-- The size of the largest packet. -/
  mtu : UInt16
deriving DecidableEq

/-- Settings of the connection to the controller. -/
structure RegistrySettings where
  /-- The URL of the controller. -/
  url : Url
  /-- The name of this edge. -/
  name : String
  /-- The address at which other edges reach this one. -/
  advertised : String
deriving DecidableEq

/-- Settings of the bridge between the controller and the tunnel. -/
structure BridgeSettings where
  /-- How often the addition of a peer is tried. -/
  attempts : UInt32
  /-- The delay after the first attempt, in milliseconds. -/
  baseMillis : UInt64
  /-- How long the same source is not reported again, in seconds. -/
  reportSeconds : UInt64
deriving DecidableEq

/-- Settings of the log. -/
structure LogSettings where
  /-- Which entries are written. -/
  level : String
  /-- Are the entries written in JSON? -/
  json : Bool
deriving DecidableEq

/-- The configuration of an edge. -/
structure Config where
  /-- The tunnel. -/
  tunnel : TunnelSettings
  /-- The controller. -/
  registry : RegistrySettings
  /-- How routes are changed. -/
  routes : RouteStyle
  /-- The bridge. -/
  bridge : BridgeSettings
  /-- The log. -/
  log : LogSettings
deriving DecidableEq

/-- A setting without a usable value. -/
structure InvalidSetting where
  /-- The name of the setting. -/
  key : String
  /-- What is wrong with its value. -/
  reason : String
deriving DecidableEq

/-- The text of the error. -/
def InvalidSetting.message (e : InvalidSetting) : String :=
  s!"invalid value for {e.key}: {e.reason}"

namespace Config

/-- The edge as it is made known to the controller: its subnet is named without host bits. -/
def localEdge (c : Config) : Edge :=
  ⟨c.registry.name, c.registry.advertised, toString c.tunnel.address.network⟩

/-- The host of the edge. -/
def localHost (c : Config) : Host := c.localEdge.host

/-- The delay after the first attempt to add a peer. -/
def retryBase (c : Config) : Duration := .ofMillis c.bridge.baseMillis

/-- How long the same source is not reported again. -/
def reportInterval (c : Config) : Duration := .ofSeconds c.bridge.reportSeconds

/-! ## Overrides -/

/-- The settings that the environment may override, in the order in which this is done. -/
inductive Override where
  /-- The address to listen on. -/
  | listen
  /-- The name of the device. -/
  | device
  /-- The URL of the controller. -/
  | url
  /-- The name of the edge. -/
  | name
  /-- The level of the log. -/
  | level
deriving DecidableEq

/-- All overrides in order. -/
def Override.all : List Override := [.listen, .device, .url, .name, .level]

/-- The variable of an override. -/
def Override.variable : Override → String
  | .listen => "LOOM_OVERLAY_LISTEN_ADDR"
  | .device => "LOOM_OVERLAY_DEVICE"
  | .url => "LOOM_OVERLAY_REGISTRY_URL"
  | .name => "LOOM_OVERLAY_EDGE_NAME"
  | .level => "LOOM_OVERLAY_LOG_LEVEL"

/-- Puts the value of a variable into the configuration. -/
def setTo (c : Config) (o : Override) (value : String) : Except InvalidSetting Config :=
  match o with
  | .listen =>
    match SocketAddress.ofText? value.toList with
    | some a => .ok { c with tunnel := { c.tunnel with listen := a } }
    | none => .error ⟨o.variable, SocketAddress.syntaxMessage⟩
  | .device => .ok { c with tunnel := { c.tunnel with device := value } }
  | .url =>
    match Url.read value.toList with
    | .ok u => .ok { c with registry := { c.registry with url := u } }
    | .error e => .error ⟨o.variable, e.message⟩
  | .name => .ok { c with registry := { c.registry with name := value } }
  | .level => .ok { c with log := { c.log with level := value } }

/-- Applies the overrides one after the other. -/
def overrideAll (lookup : String → Option String) :
    List Override → Config → Except InvalidSetting Config
  | [], c => .ok c
  | o :: os, c =>
    match lookup o.variable with
    | none => overrideAll lookup os c
    | some value =>
      match c.setTo o value with
      | .ok c => overrideAll lookup os c
      | .error e => .error e

/-- Applies the overrides that the variables give. -/
def override (c : Config) (lookup : String → Option String) : Except InvalidSetting Config :=
  overrideAll lookup Override.all c

/-! ## Validation -/

/-- The size that every host can take in one packet. -/
def minMtu : UInt16 := 576

/-- The checks in their order: what has to hold, and the error when it does not. -/
def checks (c : Config) : List (Bool × InvalidSetting) :=
  [(c.registry.url.isWeb,
      ⟨"registry.url",
        "scheme must be http or https, got " ++ String.ofList c.registry.url.scheme⟩),
   (!Text.allBlank c.registry.name.toList, ⟨"registry.edge_name", "must not be empty"⟩),
   ((SocketAddress.ofText? c.registry.advertised.toList).isSome,
      ⟨"registry.advertise_addr",
        Quoted.text c.registry.advertised ++ " is not a socket address"⟩),
   (!c.tunnel.device.isEmpty, ⟨"tunnel.device", "must not be empty"⟩),
   (minMtu ≤ c.tunnel.mtu,
      ⟨"tunnel.mtu", s!"{c.tunnel.mtu.toNat} is below the minimum of {minMtu.toNat}"⟩),
   (c.bridge.attempts ≠ 0, ⟨"bridge.add_retry_attempts", "must be at least 1"⟩)]

/-- The first check that fails. -/
def validate (c : Config) : Except InvalidSetting Unit :=
  match c.checks.find? (fun check => !check.1) with
  | some (_, e) => .error e
  | none => .ok ()

end Config

end Overlay
