import Overlay.Config.Read
import Overlay.Proofs.Net.Grammar

/-!
# What a document says of the settings

A document has a group for the tunnel, the controller, the routes, the bridge and the log, and
each group has its settings.  A table names them by their keys and has no others; an array gives
them in their order (`Toml.IsRecord`, `Toml.entry?`).

What is written for a setting is told without its reader: a text, a number, a truth value, the
word for a style, or a text in the notation of a subnet, a socket address or a URL.  A setting
that is not there has its default, and so has a group that is not there (`Given`).  A document
is read as a configuration exactly when it describes one in this sense, and it is the one that
it describes (`ofToml?_eq_some_iff`).
-/

namespace Overlay

namespace Toml

/-! ## Records -/

/-- The value has nothing but what is asked for under the given keys: it is a table whose members
    have these keys, or an array. -/
def IsRecord (keys : List String) : Toml → Prop
  | table members => ∀ m ∈ members, ∃ key ∈ keys, m.1 = key.toList
  | array _ => True
  | _ => False

/-- What a value has under one of the given keys: the member of a table, or the item of an array
    in the place of the key. -/
def entry? (keys : List String) (key : String) : Toml → Option Toml
  | table members => members.lookup key.toList
  | array items => items[keys.idxOf key]?
  | _ => none

theorem member?_eq_lookup (key : List Char) (members : List (List Char × Toml)) :
    member? key members = members.lookup key := by
  induction members with
  | nil => rfl
  | cons m members ih =>
      rw [List.lookup_cons, ← ih, member?, List.find?_cons]
      by_cases h : m.1 = key
      · simp [h]
      · rw [beq_eq_false_iff_ne.mpr (Ne.symm h)]
        simp [h, member?]

/-- The items of an array, filled up to the number of keys, are its entries. -/
theorem filled_eq_entries {keys : List String} (hkeys : keys.Nodup) (items : List Toml) :
    (items.take keys.length).map some ++ List.replicate (keys.length - items.length) none =
      keys.map fun key => entry? keys key (array items) := by
  refine List.ext_getElem (by simp; omega) fun i h₁ h₂ => ?_
  have hi : i < keys.length := by simpa using h₂
  have hplace : keys.idxOf keys[i] = i := hkeys.idxOf_getElem i hi
  rw [List.getElem_map, entry?, hplace]
  by_cases hitem : i < items.length
  · rw [List.getElem_append_left (by simp; omega)]
    simp [hitem]
  · rw [List.getElem_append_right (by simp; omega)]
    simp [hitem]

/-- **The fields of a record are its entries.** -/
theorem record?_eq_some_iff {keys : List String} {v : Toml} {fields : List (Option Toml)}
    (hkeys : keys.Nodup) :
    v.record? (keys.map String.toList) = some fields ↔
      v.IsRecord keys ∧ fields = keys.map fun key => v.entry? keys key := by
  cases v with
  | table members =>
      have hall : (members.all fun m => (keys.map String.toList).contains m.1) = true ↔
          IsRecord keys (table members) := by
        simp only [List.all_eq_true, List.contains_iff_mem, List.mem_map, IsRecord]
        exact forall₂_congr fun m _ => exists_congr fun key => and_congr_right fun _ => eq_comm
      rw [record?, Option.ite_none_right_eq_some, hall, Option.some.injEq, List.map_map]
      refine and_congr_right fun _ => ?_
      simp only [Function.comp_def, member?_eq_lookup, entry?]
      exact eq_comm
  | array items =>
      rw [record?, Option.some.injEq, List.length_map, filled_eq_entries hkeys]
      exact ⟨fun h => ⟨trivial, h.symm⟩, fun h => h.2.symm⟩
  | text | integer | float | bool | moment =>
      constructor
      · intro h
        cases h
      · intro h
        exact h.1.elim

theorem bind_record?_eq_some_iff {α : Type} {keys : List String} {v : Toml}
    {make : List (Option Toml) → Option α} {a : α} (hkeys : keys.Nodup) :
    (v.record? (keys.map String.toList)).bind make = some a ↔
      v.IsRecord keys ∧ make (keys.map fun key => v.entry? keys key) = some a := by
  simp only [Option.bind_eq_some_iff, record?_eq_some_iff hkeys, and_assoc, exists_and_left,
    exists_eq_left]

end Toml

namespace Config

/-! ## Values -/

/-- What is written, or the default when nothing is. -/
def Given {α : Type} (Writes : Toml → α → Prop) (default : Option α) : Option Toml → α → Prop
  | some v, a => Writes v a
  | none, a => default = some a

/-- What has no default is written. -/
theorem Given.written {α : Type} {Writes : Toml → α → Prop} {entry : Option Toml} {a : α}
    (h : Given Writes none entry a) : ∃ v, entry = some v ∧ Writes v a := by
  cases entry with
  | none => cases h
  | some v => exact ⟨v, rfl, h⟩

/-- The value is a text. -/
def WritesText (v : Toml) (s : String) : Prop := v = .text s.toList

/-- The value is a whole number that is not negative. -/
def WritesNumber (v : Toml) (n : Nat) : Prop := v = .integer n

/-- The value is a truth value. -/
def WritesTruth (v : Toml) (b : Bool) : Prop := v = .bool b

/-- The value is a text in CIDR notation, without blanks around it. -/
def WritesSubnet (v : Toml) (n : Subnet) : Prop := ∃ s, v = .text s ∧ Subnet.Writes s n

/-- The value is the text of a socket address. -/
def WritesAddress (v : Toml) (a : SocketAddress) : Prop :=
  ∃ s, v = .text s ∧ SocketAddress.ofText? s = some a

/-- The value is the text of a URL. -/
def WritesUrl (v : Toml) (u : Url) : Prop := ∃ s, v = .text s ∧ Url.read s = .ok u

/-- The words for the two styles. -/
inductive WordFor : String → RouteStyle → Prop
  | netTools : WordFor "net-tools" .netTools
  | iproute2 : WordFor "iproute2" .iproute2

/-- The value is the word for a style, or the word is the only key of a table and has nothing
    under it but an array or a table that is empty. -/
inductive WritesStyle : Toml → RouteStyle → Prop
  | word {word : String} {style : RouteStyle} (h : WordFor word style) :
      WritesStyle (.text word.toList) style
  | key {word : String} {style : RouteStyle} {v : Toml} (h : WordFor word style)
      (hvoid : v = .array [] ∨ v = .table []) : WritesStyle (.table [(word.toList, v)]) style

/-! ## Groups -/

/-- The keys of the tunnel's settings. -/
def tunnelKeys : List String := ["listen_addr", "device", "address", "mtu"]

/-- The keys of the settings of the connection to the controller. -/
def registryKeys : List String := ["url", "edge_name", "advertise_addr"]

/-- The keys of the settings of the routes. -/
def routesKeys : List String := ["command"]

/-- The keys of the bridge's settings. -/
def bridgeKeys : List String := ["add_retry_attempts", "add_retry_base_ms", "report_interval_secs"]

/-- The keys of the log's settings. -/
def logKeys : List String := ["level", "json"]

/-- The keys of the groups. -/
def groupKeys : List String := ["tunnel", "registry", "routes", "bridge", "log"]

/-- The group gives the tunnel's settings: when it does not say otherwise, the tunnel listens on
    every address at port 58423, and the device is `overlay0` with packets of up to 1400 bytes. -/
structure TunnelSaid (v : Toml) (t : TunnelSettings) : Prop where
  keys : v.IsRecord tunnelKeys
  listen : Given WritesAddress (some (.v4 (.ofOctets 0 0 0 0) 58423))
    (v.entry? tunnelKeys "listen_addr") t.listen
  device : Given WritesText (some "overlay0") (v.entry? tunnelKeys "device") t.device
  address : Given WritesSubnet none (v.entry? tunnelKeys "address") t.address
  mtu : Given WritesNumber (some 1400) (v.entry? tunnelKeys "mtu") t.mtu.toNat

/-- The group gives the settings of the connection to the controller. -/
structure RegistrySaid (v : Toml) (r : RegistrySettings) : Prop where
  keys : v.IsRecord registryKeys
  url : Given WritesUrl none (v.entry? registryKeys "url") r.url
  name : Given WritesText none (v.entry? registryKeys "edge_name") r.name
  advertised : Given WritesText none (v.entry? registryKeys "advertise_addr") r.advertised

/-- The group gives the style in which routes are changed, or it is `net-tools`. -/
structure RoutesSaid (v : Toml) (style : RouteStyle) : Prop where
  keys : v.IsRecord routesKeys
  command : Given WritesStyle (some .netTools) (v.entry? routesKeys "command") style

/-- The group gives the bridge's settings: when it does not say otherwise, the bridge tries three
    times, at first after 200 milliseconds, and reports a source every 30 seconds. -/
structure BridgeSaid (v : Toml) (b : BridgeSettings) : Prop where
  keys : v.IsRecord bridgeKeys
  attempts : Given WritesNumber (some 3) (v.entry? bridgeKeys "add_retry_attempts") b.attempts.toNat
  baseMillis : Given WritesNumber (some 200) (v.entry? bridgeKeys "add_retry_base_ms")
    b.baseMillis.toNat
  reportSeconds : Given WritesNumber (some 30) (v.entry? bridgeKeys "report_interval_secs")
    b.reportSeconds.toNat

/-- The group gives the settings of the log: when it does not say otherwise, the level is `info`,
    and the entries are not written in JSON. -/
structure LogSaid (v : Toml) (l : LogSettings) : Prop where
  keys : v.IsRecord logKeys
  level : Given WritesText (some "info") (v.entry? logKeys "level") l.level
  json : Given WritesTruth (some false) (v.entry? logKeys "json") l.json

/-- Every setting has the value that the document gives for it, or its default.  The groups of
    the tunnel and of the controller are there, the others may be left out. -/
structure Describes (doc : Toml) (c : Config) : Prop where
  keys : doc.IsRecord groupKeys
  tunnel : Given TunnelSaid none (doc.entry? groupKeys "tunnel") c.tunnel
  registry : Given RegistrySaid none (doc.entry? groupKeys "registry") c.registry
  routes : Given RoutesSaid (some .netTools) (doc.entry? groupKeys "routes") c.routes
  bridge : Given BridgeSaid (some ⟨3, 200, 30⟩) (doc.entry? groupKeys "bridge") c.bridge
  log : Given LogSaid (some ⟨"info", false⟩) (doc.entry? groupKeys "log") c.log

/-! ## Reading values -/

variable {v : Toml} {entry : Option Toml}

theorem text?_eq_some_iff {s : String} : text? v = some s ↔ WritesText v s := by
  rw [text?, WritesText, Option.map_eq_some_iff]
  constructor
  · rintro ⟨s', h, rfl⟩
    cases v with
    | text s'' =>
        obtain rfl := Option.some.inj h
        rw [String.toList_ofList]
    | integer | float | bool | moment | array | table => cases h
  · rintro rfl
    exact ⟨s.toList, rfl, String.ofList_toList⟩

theorem bool?_eq_some_iff {b : Bool} : v.bool? = some b ↔ WritesTruth v b := by
  cases v <;> simp [Toml.bool?, WritesTruth]

theorem natBelow?_eq_some_iff {bound n : Nat} :
    v.natBelow? bound = some n ↔ WritesNumber v n ∧ n < bound := by
  cases v with
  | integer m =>
      simp only [Toml.natBelow?, WritesNumber, Toml.integer.injEq, Option.ite_none_right_eq_some,
        Option.some.injEq]
      omega
  | text | float | bool | moment | array | table => simp [Toml.natBelow?, WritesNumber]

/-- A value is read from a text by the reader of the text. -/
theorem bind_text?_eq_some_iff {α : Type} {read : List Char → Option α} {a : α} :
    v.text?.bind read = some a ↔ ∃ s, v = .text s ∧ read s = some a := by
  cases v <;> simp [Toml.text?]

theorem subnet?_eq_some_iff {n : Subnet} : subnet? v = some n ↔ WritesSubnet v n := by
  simp only [subnet?, bind_text?_eq_some_iff, WritesSubnet, Subnet.ofText?_eq_some_iff]

theorem socketAddress?_eq_some_iff {a : SocketAddress} :
    socketAddress? v = some a ↔ WritesAddress v a :=
  bind_text?_eq_some_iff

theorem url?_eq_some_iff {u : Url} : url? v = some u ↔ WritesUrl v u := by
  rw [url?, bind_text?_eq_some_iff, WritesUrl]
  refine exists_congr fun s => and_congr_right fun _ => ?_
  cases Url.read s <;> simp [Except.toOption]

theorem ofName?_eq_some_iff {s : List Char} {style : RouteStyle} :
    RouteStyle.ofName? s = some style ↔ ∃ word, WordFor word style ∧ s = word.toList := by
  constructor
  · intro h
    rw [RouteStyle.ofName?] at h
    split at h
    · next hs =>
        cases h
        exact ⟨_, .netTools, hs⟩
    · split at h
      · next hs =>
          cases h
          exact ⟨_, .iproute2, hs⟩
      · cases h
  · rintro ⟨word, hword, rfl⟩
    cases hword <;> decide

theorem isVoid_iff : v.isVoid = true ↔ v = .array [] ∨ v = .table [] := by
  cases v <;> simp [Toml.isVoid]

theorem style?_eq_some_iff {style : RouteStyle} : style? v = some style ↔ WritesStyle v style := by
  constructor
  · intro h
    rw [style?.eq_def] at h
    split at h
    · obtain ⟨word, hword, rfl⟩ := ofName?_eq_some_iff.mp h
      exact .word hword
    · next key v =>
        obtain ⟨hvoid, h⟩ := Option.ite_none_right_eq_some.mp h
        obtain ⟨word, hword, rfl⟩ := ofName?_eq_some_iff.mp h
        exact .key hword (isVoid_iff.mp hvoid)
    · cases h
  · intro h
    cases h with
    | word hword => exact ofName?_eq_some_iff.mpr ⟨_, hword, rfl⟩
    | key hword hvoid =>
        rw [style?, if_pos (isVoid_iff.mpr hvoid)]
        exact ofName?_eq_some_iff.mpr ⟨_, hword, rfl⟩

/-! ## Reading groups -/

/-- A setting is read as given when its values are read as they are written. -/
theorem setting?_eq_some_iff {α : Type} {read : Toml → Option α} {Writes : Toml → α → Prop}
    {default : Option α} {a : α} (hread : ∀ {v a}, read v = some a ↔ Writes v a) :
    setting? read default entry = some a ↔ Given Writes default entry a := by
  cases entry with
  | none => exact Iff.rfl
  | some v => exact hread

/-- What is made of a setting is made of the value that is given for it. -/
theorem bind_setting?_eq_some_iff {α β : Type} {read : Toml → Option α}
    {Writes : Toml → α → Prop} {default : Option α} {make : α → Option β} {b : β}
    (hread : ∀ {v a}, read v = some a ↔ Writes v a) :
    (setting? read default entry).bind make = some b ↔
      ∃ a, Given Writes default entry a ∧ make a = some b := by
  simp only [Option.bind_eq_some_iff, setting?_eq_some_iff hread]

/-- A number is read when it is below the bound, as its default is. -/
theorem bind_number?_eq_some_iff {β : Type} {bound default : Nat} {make : Nat → Option β} {b : β}
    (hdefault : default < bound) :
    (setting? (Toml.natBelow? bound) (some default) entry).bind make = some b ↔
      ∃ n, n < bound ∧ Given WritesNumber (some default) entry n ∧ make n = some b := by
  rw [Option.bind_eq_some_iff]
  refine exists_congr fun n => (and_congr_left fun _ => ?_).trans and_assoc
  cases entry with
  | none =>
      refine ⟨fun h => ⟨?_, h⟩, And.right⟩
      obtain rfl := Option.some.inj h
      exact hdefault
  | some v => exact natBelow?_eq_some_iff.trans and_comm

theorem tunnel?_eq_some_iff {t : TunnelSettings} : tunnel? v = some t ↔ TunnelSaid v t := by
  constructor
  · intro h
    obtain ⟨hkeys, h⟩ := (Toml.bind_record?_eq_some_iff (by decide : tunnelKeys.Nodup)).mp h
    obtain ⟨listen, hlisten, h⟩ := (bind_setting?_eq_some_iff socketAddress?_eq_some_iff).mp h
    obtain ⟨device, hdevice, h⟩ := (bind_setting?_eq_some_iff text?_eq_some_iff).mp h
    obtain ⟨address, haddress, h⟩ := (bind_setting?_eq_some_iff subnet?_eq_some_iff).mp h
    obtain ⟨mtu, hlt, hmtu, h⟩ := (bind_number?_eq_some_iff (by decide)).mp h
    cases h
    exact ⟨hkeys, hlisten, hdevice, haddress, (UInt16.toNat_ofNat_of_lt' hlt).symm ▸ hmtu⟩
  · rintro ⟨hkeys, hlisten, hdevice, haddress, hmtu⟩
    refine (Toml.bind_record?_eq_some_iff (by decide)).mpr ⟨hkeys, ?_⟩
    refine (bind_setting?_eq_some_iff socketAddress?_eq_some_iff).mpr ⟨_, hlisten, ?_⟩
    refine (bind_setting?_eq_some_iff text?_eq_some_iff).mpr ⟨_, hdevice, ?_⟩
    refine (bind_setting?_eq_some_iff subnet?_eq_some_iff).mpr ⟨_, haddress, ?_⟩
    refine (bind_number?_eq_some_iff (by decide)).mpr ⟨_, t.mtu.toNat_lt, hmtu, ?_⟩
    rw [UInt16.ofNat_toNat]
    rfl

theorem registry?_eq_some_iff {r : RegistrySettings} : registry? v = some r ↔ RegistrySaid v r := by
  constructor
  · intro h
    obtain ⟨hkeys, h⟩ := (Toml.bind_record?_eq_some_iff (by decide : registryKeys.Nodup)).mp h
    obtain ⟨url, hurl, h⟩ := (bind_setting?_eq_some_iff url?_eq_some_iff).mp h
    obtain ⟨name, hname, h⟩ := (bind_setting?_eq_some_iff text?_eq_some_iff).mp h
    obtain ⟨advertised, hadvertised, h⟩ := (bind_setting?_eq_some_iff text?_eq_some_iff).mp h
    cases h
    exact ⟨hkeys, hurl, hname, hadvertised⟩
  · rintro ⟨hkeys, hurl, hname, hadvertised⟩
    refine (Toml.bind_record?_eq_some_iff (by decide)).mpr ⟨hkeys, ?_⟩
    refine (bind_setting?_eq_some_iff url?_eq_some_iff).mpr ⟨_, hurl, ?_⟩
    refine (bind_setting?_eq_some_iff text?_eq_some_iff).mpr ⟨_, hname, ?_⟩
    exact (bind_setting?_eq_some_iff text?_eq_some_iff).mpr ⟨_, hadvertised, rfl⟩

theorem routes?_eq_some_iff {style : RouteStyle} : routes? v = some style ↔ RoutesSaid v style := by
  constructor
  · intro h
    obtain ⟨hkeys, h⟩ := (Toml.bind_record?_eq_some_iff (by decide : routesKeys.Nodup)).mp h
    exact ⟨hkeys, (setting?_eq_some_iff style?_eq_some_iff).mp h⟩
  · rintro ⟨hkeys, hcommand⟩
    refine (Toml.bind_record?_eq_some_iff (by decide)).mpr ⟨hkeys, ?_⟩
    exact (setting?_eq_some_iff style?_eq_some_iff).mpr hcommand

theorem bridge?_eq_some_iff {b : BridgeSettings} : bridge? v = some b ↔ BridgeSaid v b := by
  constructor
  · intro h
    obtain ⟨hkeys, h⟩ := (Toml.bind_record?_eq_some_iff (by decide : bridgeKeys.Nodup)).mp h
    obtain ⟨attempts, hfew, hattempts, h⟩ := (bind_number?_eq_some_iff (by decide)).mp h
    obtain ⟨base, hshort, hbase, h⟩ := (bind_number?_eq_some_iff (by decide)).mp h
    obtain ⟨interval, hsoon, hinterval, h⟩ := (bind_number?_eq_some_iff (by decide)).mp h
    cases h
    exact ⟨hkeys, (UInt32.toNat_ofNat_of_lt' hfew).symm ▸ hattempts,
      (UInt64.toNat_ofNat_of_lt' hshort).symm ▸ hbase,
      (UInt64.toNat_ofNat_of_lt' hsoon).symm ▸ hinterval⟩
  · rintro ⟨hkeys, hattempts, hbase, hinterval⟩
    refine (Toml.bind_record?_eq_some_iff (by decide)).mpr ⟨hkeys, ?_⟩
    refine (bind_number?_eq_some_iff (by decide)).mpr ⟨_, b.attempts.toNat_lt, hattempts, ?_⟩
    refine (bind_number?_eq_some_iff (by decide)).mpr ⟨_, b.baseMillis.toNat_lt, hbase, ?_⟩
    refine (bind_number?_eq_some_iff (by decide)).mpr ⟨_, b.reportSeconds.toNat_lt, hinterval, ?_⟩
    rw [UInt32.ofNat_toNat, UInt64.ofNat_toNat, UInt64.ofNat_toNat]
    rfl

theorem log?_eq_some_iff {l : LogSettings} : log? v = some l ↔ LogSaid v l := by
  constructor
  · intro h
    obtain ⟨hkeys, h⟩ := (Toml.bind_record?_eq_some_iff (by decide : logKeys.Nodup)).mp h
    obtain ⟨level, hlevel, h⟩ := (bind_setting?_eq_some_iff text?_eq_some_iff).mp h
    obtain ⟨json, hjson, h⟩ := (bind_setting?_eq_some_iff bool?_eq_some_iff).mp h
    cases h
    exact ⟨hkeys, hlevel, hjson⟩
  · rintro ⟨hkeys, hlevel, hjson⟩
    refine (Toml.bind_record?_eq_some_iff (by decide)).mpr ⟨hkeys, ?_⟩
    refine (bind_setting?_eq_some_iff text?_eq_some_iff).mpr ⟨_, hlevel, ?_⟩
    exact (bind_setting?_eq_some_iff bool?_eq_some_iff).mpr ⟨_, hjson, rfl⟩

/-- **A document is read as the configuration that it describes**, and as no other. -/
theorem ofToml?_eq_some_iff {doc : Toml} {c : Config} : ofToml? doc = some c ↔ Describes doc c := by
  constructor
  · intro h
    obtain ⟨hkeys, h⟩ := (Toml.bind_record?_eq_some_iff (by decide : groupKeys.Nodup)).mp h
    obtain ⟨tunnel, htunnel, h⟩ := (bind_setting?_eq_some_iff tunnel?_eq_some_iff).mp h
    obtain ⟨registry, hregistry, h⟩ := (bind_setting?_eq_some_iff registry?_eq_some_iff).mp h
    obtain ⟨routes, hroutes, h⟩ := (bind_setting?_eq_some_iff routes?_eq_some_iff).mp h
    obtain ⟨bridge, hbridge, h⟩ := (bind_setting?_eq_some_iff bridge?_eq_some_iff).mp h
    obtain ⟨log, hlog, h⟩ := (bind_setting?_eq_some_iff log?_eq_some_iff).mp h
    cases h
    exact ⟨hkeys, htunnel, hregistry, hroutes, hbridge, hlog⟩
  · rintro ⟨hkeys, htunnel, hregistry, hroutes, hbridge, hlog⟩
    refine (Toml.bind_record?_eq_some_iff (by decide)).mpr ⟨hkeys, ?_⟩
    refine (bind_setting?_eq_some_iff tunnel?_eq_some_iff).mpr ⟨_, htunnel, ?_⟩
    refine (bind_setting?_eq_some_iff registry?_eq_some_iff).mpr ⟨_, hregistry, ?_⟩
    refine (bind_setting?_eq_some_iff routes?_eq_some_iff).mpr ⟨_, hroutes, ?_⟩
    refine (bind_setting?_eq_some_iff bridge?_eq_some_iff).mpr ⟨_, hbridge, ?_⟩
    exact (bind_setting?_eq_some_iff log?_eq_some_iff).mpr ⟨_, hlog, rfl⟩

/-- A text is a configuration when it is a document that describes one. -/
theorem ofText?_eq_some_iff {s : List Char} {c : Config} :
    ofText? s = some c ↔ ∃ doc, Toml.read? s = some doc ∧ Describes doc c := by
  simp only [ofText?, Option.bind_eq_some_iff, ofToml?_eq_some_iff]

end Config

end Overlay
