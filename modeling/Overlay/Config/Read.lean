import Overlay.Config.Basic
import Overlay.Text.Utf8
import Overlay.Toml.Document

/-!
# Reading configurations

A configuration is written as a TOML document with one table for each group of settings. Only known
settings may be given. A setting that is left out has its default value, if it has one. The stages
of `Config.load` are those of a start: reading the file, understanding it, applying the environment
and validating the result; the first stage that fails gives the error.
-/

namespace Overlay

/-- Why there is no configuration. -/
inductive ConfigError where
  /-- The file is missing or is no text. -/
  | unreadable
  /-- The text does not describe a configuration. -/
  | malformed
  /-- A setting has no usable value. -/
  | invalid (setting : InvalidSetting)
deriving DecidableEq

namespace Config

/-- The value of a setting: read from what is given, or the default. -/
def setting? {α : Type} (read : Toml → Option α) (default : Option α) : Option Toml → Option α
  | some v => read v
  | none => default

/-- A text as a setting. -/
def text? (v : Toml) : Option String := v.text?.map String.ofList

/-- A socket address as a setting. -/
def socketAddress? (v : Toml) : Option SocketAddress := v.text?.bind SocketAddress.ofText?

/-- A subnet as a setting, without blanks around it and with its host bits. -/
def subnet? (v : Toml) : Option Subnet := v.text?.bind Subnet.ofText?

/-- A URL as a setting. -/
def url? (v : Toml) : Option Url := v.text?.bind fun s => (Url.read s).toOption

/-- A style as a setting: its name, or the only key of a table whose value is void. -/
def style? : Toml → Option RouteStyle
  | .text s => RouteStyle.ofName? s
  | .table [(key, v)] => if v.isVoid then RouteStyle.ofName? key else none
  | _ => none

/-- The address that is listened on when none is given. -/
def defaultListen : SocketAddress := .v4 (Ipv4.ofNat 0) 58423

/-- The tunnel's settings. -/
def tunnel? (v : Toml) : Option TunnelSettings := do
  match ← v.record? (["listen_addr", "device", "address", "mtu"].map String.toList) with
  | [listen, device, address, mtu] =>
    let listen ← setting? socketAddress? (some defaultListen) listen
    let device ← setting? text? (some "overlay0") device
    let address ← setting? subnet? none address
    let mtu ← setting? (Toml.natBelow? 0x10000) (some 1400) mtu
    return ⟨listen, device, address, UInt16.ofNat mtu⟩
  | _ => none

/-- The settings of the connection to the controller. -/
def registry? (v : Toml) : Option RegistrySettings := do
  match ← v.record? (["url", "edge_name", "advertise_addr"].map String.toList) with
  | [url, name, advertised] =>
    let url ← setting? url? none url
    let name ← setting? text? none name
    let advertised ← setting? text? none advertised
    return ⟨url, name, advertised⟩
  | _ => none

/-- The style in which routes are changed when none is given. -/
def defaultStyle : RouteStyle := .netTools

/-- The settings of the routes. -/
def routes? (v : Toml) : Option RouteStyle := do
  match ← v.record? ["command".toList] with
  | [command] => setting? style? (some defaultStyle) command
  | _ => none

/-- The settings of the bridge when none is given. -/
def defaultBridge : BridgeSettings := ⟨3, 200, 30⟩

/-- The bridge's settings. -/
def bridge? (v : Toml) : Option BridgeSettings := do
  match ← v.record?
      (["add_retry_attempts", "add_retry_base_ms", "report_interval_secs"].map String.toList) with
  | [attempts, base, interval] =>
    let attempts ← setting? (Toml.natBelow? 0x100000000) (some defaultBridge.attempts.toNat) attempts
    let base ← setting? (Toml.natBelow? 0x10000000000000000) (some defaultBridge.baseMillis.toNat) base
    let interval ←
      setting? (Toml.natBelow? 0x10000000000000000) (some defaultBridge.reportSeconds.toNat) interval
    return ⟨UInt32.ofNat attempts, UInt64.ofNat base, UInt64.ofNat interval⟩
  | _ => none

/-- The settings of the log when none is given. -/
def defaultLog : LogSettings := ⟨"info", false⟩

/-- The log's settings. -/
def log? (v : Toml) : Option LogSettings := do
  match ← v.record? (["level", "json"].map String.toList) with
  | [level, json] =>
    let level ← setting? text? (some defaultLog.level) level
    let json ← setting? Toml.bool? (some defaultLog.json) json
    return ⟨level, json⟩
  | _ => none

/-- The configuration that a document describes. -/
def ofToml? (v : Toml) : Option Config := do
  match ← v.record? (["tunnel", "registry", "routes", "bridge", "log"].map String.toList) with
  | [tunnel, registry, routes, bridge, log] =>
    let tunnel ← setting? tunnel? none tunnel
    let registry ← setting? registry? none registry
    let routes ← setting? routes? (some defaultStyle) routes
    let bridge ← setting? bridge? (some defaultBridge) bridge
    let log ← setting? log? (some defaultLog) log
    return ⟨tunnel, registry, routes, bridge, log⟩
  | _ => none

/-- Reads the text of a document. -/
def ofText? (s : List Char) : Option Config := (Toml.read? s).bind ofToml?

/-- The value of a variable of the environment, given its bytes. An empty one and one that is not
UTF-8 count as not set. -/
def variableText (bytes : Option (List UInt8)) : Option String :=
  match bytes.bind Utf8.decode? with
  | some [] => none
  | some s => some (String.ofList s)
  | none => none

/-- The configuration in a file with the given bytes, under the given environment. -/
def load (file : Option (List UInt8)) (environment : String → Option (List UInt8)) :
    Except ConfigError Config :=
  match file.bind Utf8.decode? with
  | none => .error .unreadable
  | some s =>
    match ofText? s with
    | none => .error .malformed
    | some c =>
      match c.override (fun v => variableText (environment v)) with
      | .error e => .error (.invalid e)
      | .ok c =>
        match c.validate with
        | .error e => .error (.invalid e)
        | .ok _ => .ok c

end Config

end Overlay
