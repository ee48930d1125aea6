import Overlay.Proofs.Config.Described
import Overlay.Proofs.Url.Web

/-!
# Configurations that are loaded

`Config.load` goes through four stages, and a configuration is loaded exactly when all of them
succeed (`load_eq_ok_iff`).  The last one refuses a configuration unless every check holds
(`validate_eq_ok_iff`).  So a loaded configuration names its controller by a URL that was read
from a text, in the file or in the environment, and that belongs to the web
(`url_of_load`).
-/

namespace Overlay.Config

/-! ## The stages -/

/-- **A configuration is loaded when every stage succeeds.** -/
theorem load_eq_ok_iff {file : Option (List UInt8)} {environment : String → Option (List UInt8)}
    {c : Config} :
    load file environment = .ok c ↔
      ∃ s written, file.bind Utf8.decode? = some s ∧ ofText? s = some written ∧
        written.override (fun v => variableText (environment v)) = .ok c ∧
        c.validate = .ok () := by
  constructor
  · intro h
    rw [load] at h
    split at h
    · exact nomatch h
    rename_i s hs
    split at h
    · exact nomatch h
    rename_i written hwritten
    split at h
    · exact nomatch h
    rename_i c' hc'
    split at h
    · exact nomatch h
    rename_i hvalid
    obtain rfl := Except.ok.inj h
    exact ⟨s, written, hs, hwritten, hc', hvalid⟩
  · rintro ⟨s, written, hs, hwritten, hc, hvalid⟩
    simp only [load, hs, hwritten, hc, hvalid]

/-- **A configuration is valid when every check holds.** -/
theorem validate_eq_ok_iff {c : Config} :
    c.validate = .ok () ↔ ∀ check ∈ c.checks, check.1 = true := by
  rw [validate]
  cases hfind : c.checks.find? (fun check => !check.1) with
  | none =>
      refine ⟨fun _ check hcheck => ?_, fun _ => rfl⟩
      have hholds := List.find?_eq_none.mp hfind check hcheck
      rwa [Bool.not_eq_true', Bool.not_eq_false] at hholds
  | some check =>
      refine ⟨fun h => (nomatch h), fun h => ?_⟩
      have hfails := List.find?_some hfind
      rw [h check (List.mem_of_find?_eq_some hfind)] at hfails
      exact nomatch hfails

/-- Whatever no override takes away is kept by all of them. -/
theorem overrideAll_keeps {P : Config → Prop} {lookup : String → Option String}
    (hstep : ∀ {c c' : Config} {o : Override} {value : String},
      P c → c.setTo o value = .ok c' → P c')
    {os : List Override} {c c' : Config} (hc : P c) (h : overrideAll lookup os c = .ok c') :
    P c' := by
  induction os generalizing c with
  | nil =>
      obtain rfl := Except.ok.inj h
      exact hc
  | cons o os ih =>
      rw [overrideAll] at h
      split at h
      · exact ih hc h
      · split at h
        · next hset => exact ih (hstep hc hset) h
        · exact nomatch h

/-! ## The controller -/

/-- The URL of the controller was read from a text. -/
def ReadsUrl (c : Config) : Prop := ∃ s, Url.read s = .ok c.registry.url

/-- A document that is read gives the controller a URL: there is no default for it. -/
theorem readsUrl_of_describes {doc : Toml} {c : Config} (h : Describes doc c) : c.ReadsUrl := by
  obtain ⟨v, -, hregistry⟩ := h.registry.written
  obtain ⟨w, -, s, -, hread⟩ := hregistry.url.written
  exact ⟨s, hread⟩

/-- A value that the environment gives is read like one of the file. -/
theorem setTo_readsUrl {c c' : Config} {o : Override} {value : String} (hc : c.ReadsUrl)
    (h : c.setTo o value = .ok c') : c'.ReadsUrl := by
  cases o with
  | listen =>
      rw [setTo] at h
      split at h
      · obtain rfl := Except.ok.inj h
        exact hc
      · exact nomatch h
  | url =>
      rw [setTo] at h
      split at h
      · next hread =>
          obtain rfl := Except.ok.inj h
          exact ⟨_, hread⟩
      · exact nomatch h
  | device | name | level =>
      obtain rfl := Except.ok.inj h
      exact hc

/-- **The controller of a loaded configuration** has a URL of the web that was read from a
    text. -/
theorem url_of_load {file : Option (List UInt8)} {environment : String → Option (List UInt8)}
    {c : Config} (h : load file environment = .ok c) :
    c.ReadsUrl ∧ c.registry.url.isWeb = true := by
  obtain ⟨s, written, -, hwritten, hc, hvalid⟩ := load_eq_ok_iff.mp h
  obtain ⟨doc, -, hdoc⟩ := ofText?_eq_some_iff.mp hwritten
  exact ⟨overrideAll_keeps setTo_readsUrl (readsUrl_of_describes hdoc) hc,
    validate_eq_ok_iff.mp hvalid _ List.mem_cons_self⟩

end Overlay.Config
