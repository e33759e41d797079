import HttpStub.Proofs.Steps
import HttpStub.Proofs.Url.PathWalk
import HttpStub.Url.Parse

/-!
# URLs that have been read

A URL keeps the scheme it was read with, and the path of a web URL is what a walk along some text
left behind: clean segments.
-/

namespace HttpStub.Url

/-! ## Schemes and paths -/

/-- `readFileHost` keeps the scheme. -/
private theorem scheme_of_readFileHost {scheme : Scheme} {cs : List Char} {u : Url}
    (h : readFileHost scheme cs = .ok u) : u.scheme = scheme := by
  simp only [readFileHost] at h
  split at h
  · cases h
    rfl
  · obtain ⟨host, -, h⟩ := bind_eq_ok h
    cases h
    rfl

/-- So does `readFile`, with a host or without. -/
private theorem scheme_of_readFile {scheme : Scheme} {cs : List Char} {u : Url}
    (h : readFile scheme cs = .ok u) : u.scheme = scheme := by
  unfold readFile at h
  split at h
  · cases h
    rfl
  · split at h
    · cases h
      rfl
    · exact scheme_of_readFileHost h

/-- `readAuthority` reads the path of the scheme behind the authority. -/
private theorem path_of_readAuthority {scheme : Scheme} {cs : List Char} {u : Url}
    (h : readAuthority scheme cs = .ok u) :
    u.scheme = scheme ∧ ∃ text, u.path = .ofText scheme text := by
  simp only [readAuthority] at h
  split at h
  · cases h
  · split at h
    · cases h
    · obtain ⟨host, -, h⟩ := bind_eq_ok h
      split at h
      · cases h
      · -- With a port or without one, the rest is the same.
        split at h
        all_goals
          obtain ⟨port, -, h⟩ := bind_eq_ok h
          split at h
          · cases h
          · cases h
            exact ⟨rfl, _, rfl⟩

/-- `readBehind` reads a web URL by way of its authority. -/
private theorem path_of_readBehind {scheme : Scheme} {cs : List Char} {u : Url}
    (h : readBehind scheme cs = .ok u) (hweb : u.scheme.IsWeb) :
    ∃ text, u.path = .ofText u.scheme text := by
  unfold readBehind at h
  split at h
  · rename_i hfile
    rw [← scheme_of_readFile h] at hfile
    rw [hweb.notFile] at hfile
    cases hfile
  · split at h
    · obtain ⟨hscheme, text, hpath⟩ := path_of_readAuthority h
      exact ⟨text, hscheme ▸ hpath⟩
    · rename_i hspecial
      -- The other schemes are not of the web.
      have hscheme : u.scheme = scheme := by
        split at h
        · exact (path_of_readAuthority h).1
        · cases h
          rfl
        · cases h
          rfl
      exact absurd hweb.special (hscheme ▸ hspecial)

/-- `parse` reads the path of a web URL as a list of clean segments. -/
theorem exists_segments_of_parse {text : String} {u : Url} (h : parse text = .ok u)
    (hweb : u.scheme.IsWeb) : ∃ segments, u.path = .segments segments ∧
      ∀ s ∈ segments, s.IsClean := by
  unfold parse at h
  split at h
  · cases h
  · rename_i scheme rest _
    obtain ⟨cs, hpath⟩ := path_of_readBehind h hweb
    have htext : ¬ (cs = [] ∧ ¬ u.scheme.isSpecial = true) := fun hempty =>
      hempty.2 hweb.special
    refine ⟨_, hpath.trans (if_neg htext), ?_⟩
    -- A walk from the start is one behind no segments.
    have hnone : ∀ s ∈ ([] : List Segment), s.IsClean := by simp
    have hwalk := Walk.segments_along_onward hweb hnone (Path.withoutRoot u.scheme cs)
    rw [List.flatMap_nil, List.nil_append, List.tail_cons] at hwalk
    rw [hwalk]
    exact Walk.isClean_onward hweb hnone _

end HttpStub.Url
