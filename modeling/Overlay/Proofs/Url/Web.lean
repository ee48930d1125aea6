import Overlay.Url.Read

/-!
# The URLs of the web

What is read with a scheme of the web has a path that is divided into segments, and is no file.
So a place of the same origin always has an address (`atPath_eq`): the same scheme and
authority, with the given path and without query and fragment.
-/

namespace Overlay.Url

/-! ## Schemes -/

theorem isFile_eq_false_of_isWeb {u : Url} (h : u.isWeb = true) : isFile u.scheme = false := by
  simp only [isWeb, Bool.or_eq_true, decide_eq_true_eq] at h
  rcases h with h | h <;>
  · rw [h]
    decide

theorem isSpecial_of_isWeb {u : Url} (h : u.isWeb = true) : isSpecial u.scheme = true := by
  simp only [isWeb, Bool.or_eq_true, decide_eq_true_eq] at h
  rcases h with h | h <;>
  · rw [h]
    decide

/-! ## What is read -/

/-- A step that succeeds has had a first step that did. -/
theorem ok_of_bind {α β : Type} {x : Except UrlError α} {f : α → Except UrlError β} {b : β}
    (h : (do let a ← x; f a) = .ok b) : ∃ a, f a = .ok b := by
  cases x with
  | error e => exact nomatch h
  | ok a => exact ⟨a, h⟩

theorem ok_of_toOption {ε α : Type} {x : Except ε α} {a : α} (h : x.toOption = some a) :
    x = .ok a := by
  cases x with
  | error e => exact nomatch h
  | ok b => exact congrArg Except.ok (Option.some.inj h)

/-- What has an authority has the scheme that was read, and a path in segments. -/
theorem withAuthority_ok {scheme s : List Char} {r : Rest} {u : Url}
    (h : withAuthority scheme r s = .ok u) :
    u.scheme = scheme ∧ ∃ path, u.way = .segments path := by
  simp only [withAuthority] at h
  generalize Text.cutLast? '@' _ = found at h
  obtain _ | ⟨user, place⟩ := found
  all_goals
    simp only at h
    split at h
    · exact nomatch h
    split at h
    · exact nomatch h
    -- the two ways to read a host go on in the same way
    split at h <;>
    · obtain ⟨host, h⟩ := ok_of_bind h
      split at h
      · exact nomatch h
      obtain ⟨⟨port, leftover⟩, h⟩ := ok_of_bind h
      simp only at h
      split at h
      · exact nomatch h
      · obtain rfl := Except.ok.inj h
        exact ⟨rfl, _, rfl⟩

theorem file_ok {scheme : List Char} {r : Rest} {u : Url} (h : file scheme r = .ok u) :
    u.scheme = scheme := by
  simp only [file] at h
  split at h
  · split at h
    · split at h
      · obtain rfl := Except.ok.inj h
        rfl
      · obtain ⟨host, h⟩ := ok_of_bind h
        obtain rfl := Except.ok.inj h
        rfl
    · obtain rfl := Except.ok.inj h
      rfl
  · obtain rfl := Except.ok.inj h
    rfl

/-- **What is read with a special scheme that names no files has a path in segments.** -/
theorem exists_segments_of_read {s : List Char} {u : Url} (h : read s = .ok u)
    (hspecial : isSpecial u.scheme = true) (hfile : isFile u.scheme = false) :
    ∃ path, u.way = .segments path := by
  simp only [read] at h
  split at h
  · exact nomatch h
  rename_i scheme rest hscheme
  split at h
  · rename_i hisFile
    rw [file_ok h, hisFile] at hfile
    exact nomatch hfile
  split at h
  · exact (withAuthority_ok h).2
  · -- without a special scheme the URL is none either
    rename_i hnone
    split at h
    · exact (withAuthority_ok h).2
    · obtain rfl := Except.ok.inj h
      exact absurd hspecial hnone
    · obtain rfl := Except.ok.inj h
      exact absurd hspecial hnone

/-! ## Places of the same origin -/

theorem drive?_eq_none {u : Url} (hfile : isFile u.scheme = false) : u.drive? = none := by
  unfold drive?
  split
  · rw [hfile, Bool.false_and, if_neg Bool.false_ne_true]
  · rfl

/-- **Every place of the origin of a URL of the web has an address.** -/
theorem atPath_eq {s : List Char} {u : Url} (h : read s = .ok u) (hweb : u.isWeb = true)
    (path : List UrlPath.Segment) :
    u.atPath path = .ok ⟨u.scheme, u.authority, .segments path, none, none⟩ := by
  have hfile := isFile_eq_false_of_isWeb hweb
  obtain ⟨old, hold⟩ := exists_segments_of_read h (isSpecial_of_isWeb hweb) hfile
  rw [atPath, hold, drive?_eq_none hfile]

end Overlay.Url
