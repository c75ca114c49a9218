import Telemetry.Backend.Fetch

/-!
Every source of a backend can be asked.

The paths of the sources can be looked up in a URL with the scheme of the web and a
path of segments, and what is found has the same scheme. For such a base a request
is made in any case, and what a source delivers is decided by what comes of it. Every
URL that is read with the scheme of the web is such a base (`exists_rootPath_of_parse`).
-/

namespace Telemetry

theorem Backend.isHttp_iff {u : Url} :
    Backend.isHttp u = true ↔ u.scheme = "http" ∨ u.scheme = "https" := by
  simp [isHttp]

theorem Backend.isSpecial_of_isHttp {u : Url} (h : isHttp u = true) :
    Url.isSpecial u.scheme = true := by
  rcases isHttp_iff.mp h with h | h <;> rw [h] <;> rfl

theorem Backend.scheme_ne_file_of_isHttp {u : Url} (h : isHttp u = true) : u.scheme ≠ "file" := by
  rcases isHttp_iff.mp h with h | h <;> rw [h] <;> decide

namespace Url

variable [DomainRule]

theorem exists_rootPath_of_parseFront {scheme : String} {cs : List Char} {front : Front}
    (h : parseFront scheme cs = .ok front) :
    ∃ rest, front.path = rootPath (isSpecial scheme) rest := by
  simp only [parseFront, bind, Except.bind] at h
  split at h
  · exact nomatch h
  · injection h with h
    exact ⟨_, congrArg Front.path h.symm⟩

/-- What the front of an absolute reference is. -/
theorem exists_front_of_absolute {r : Reference} {scheme : String} {u : Url}
    (h : r.absolute scheme = .ok u) :
    u.scheme = scheme ∧ (scheme ≠ "file" → isSpecial scheme = true →
      ∃ front, parseFront scheme (dropSlashes r.body) = .ok front ∧ u.path = front.path) := by
  simp only [Reference.absolute, bind, Except.bind] at h
  split at h
  · next hfile =>
      split at h
      · exact nomatch h
      · injection h with h
        exact ⟨by rw [← h]; rfl, fun hne => absurd hfile hne⟩
  · split at h
    · split at h
      · exact nomatch h
      · next front hfront =>
          injection h with h
          exact ⟨by rw [← h]; rfl, fun _ _ => ⟨front, hfront, by rw [← h]; rfl⟩⟩
    · next hspecial =>
        split at h
        · exact nomatch h
        · injection h with h
          exact ⟨by rw [← h]; rfl, fun _ h => absurd h hspecial⟩

/-- The path of a URL with the scheme of the web is what its text says behind the authority. -/
theorem exists_rootPath_of_parse {text : String} {u : Url} (h : parse text = .ok u)
    (hhttp : Backend.isHttp u = true) : ∃ cs, u.path = rootPath true cs := by
  rw [parse] at h
  split at h
  · next scheme _ =>
      obtain ⟨hscheme, hfront⟩ := exists_front_of_absolute h
      have hfile : scheme ≠ "file" := hscheme ▸ Backend.scheme_ne_file_of_isHttp hhttp
      have hspecial : isSpecial scheme = true := hscheme ▸ Backend.isSpecial_of_isHttp hhttp
      obtain ⟨front, hparse, hpath⟩ := hfront hfile hspecial
      rw [hpath, ← hspecial]
      exact exists_rootPath_of_parseFront hparse
  · exact nomatch h

/-- The path of a source is looked up below the base, of which nothing else is kept but who is
asked. -/
theorem resolve_path {base : Url} {names : List String} (hpath : base.path = .segments names)
    (hfile : base.scheme ≠ "file") (source : Source) :
    base.resolve source.path = .ok ⟨base.scheme, base.authority?,
      .segments (followText (isSpecial base.scheme) false names.dropLast source.path.toList),
      none, none⟩ := by
  -- no path of a source begins with a slash, so none replaces the path of the base
  obtain ⟨rest, hrest⟩ : ∃ rest, source.path.toList = 'a' :: rest := by
    cases source <;> exact ⟨_, rfl⟩
  have htext : Reference.ofText source.path = ⟨none, 'a' :: rest, none, none⟩ := by
    rw [← hrest]
    cases source <;> rfl
  have hfront : parseRelative base names ('a' :: rest) = .ok ⟨base.authority?,
      .segments (followText (isSpecial base.scheme) false names.dropLast ('a' :: rest))⟩ := by
    simp [parseRelative, leadingSlashes, isSlash]
  rw [resolve, htext, hrest]
  simp only [Reference.lookUp, hpath, if_neg hfile, hfront, bind, Except.bind]
  rfl

end Url

namespace Backend

/-- A request is made for every source of a base with the scheme of the web. -/
theorem exists_endpointOf [Url.DomainRule] {base : Url} {names : List String}
    (hhttp : isHttp base = true) (hnames : base.path = .segments names) (limit : UInt64)
    (source : Source) :
    ∃ url, (ofUrl base limit).endpointOf source = .ok url ∧ isHttp url = true := by
  have hdirectory : ∃ names, base.asDirectory.path = .segments names := by
    rw [Url.asDirectory, hnames, Url.Path.asDirectory]
    split <;> exact ⟨_, rfl⟩
  have hfile : base.asDirectory.scheme ≠ "file" := scheme_ne_file_of_isHttp hhttp
  obtain ⟨names, hpath⟩ := hdirectory
  rw [endpointOf, endpoint, ofUrl, Url.resolve_path hpath hfile]
  cases source.isLimited with
  | true => exact ⟨_, rfl, hhttp⟩
  | false => exact ⟨_, rfl, hhttp⟩

end Backend

end Telemetry
