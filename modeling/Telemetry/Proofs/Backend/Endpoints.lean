import Telemetry.Proofs.Backend.Request
import Telemetry.Proofs.Settings.Reload
import Telemetry.Proofs.Url.Settled
import Telemetry.Url.Domain

/-!
What the endpoints keep of the base.

If the path of a base is settled, it makes no difference whether a slash is put
behind its text, which is then read again, or an empty segment behind its segments
(`slashed_eq_asDirectory`). Below that directory every source is found by the names
of its path (`endpoint_eq`), and of the base nothing else is left than its scheme
and its authority (`endpoint_keeps_base`). The host is not looked at, so it may be
any, and the path of every base that was read is settled
(`isSettled_base_of_check`).
-/

namespace Telemetry

/-- The names under which a source is found, one below the other. -/
def Source.names : Source → List String
  | .metrics => ["api", "metrics"]
  | .connections => ["api", "network", "connections"]
  | .hosts => ["api", "network", "hosts"]
  | .systemInfo => ["api", "system", "info"]

namespace Source

theorem isSettled_of_mem_names (source : Source) : ∀ name ∈ source.names, Url.IsSettled name := by
  cases source <;> decide

theorem text_names (source : Source) :
    (Url.Path.segments source.names).text = "/" ++ source.path := by
  cases source <;> rfl

end Source

namespace Url

variable {u : Url}

/-- The URL with another path, which is read as one behind an authority. -/
def setPath (u : Url) (text : String) : Url :=
  { u with path := rootPath (isSpecial u.scheme) text.toList }

/-- The URL with a slash at the end of its path, one being set only if there is none. -/
def slashed (u : Url) : Url :=
  if u.path.text.toList.getLast? = some '/' then u else u.setPath (u.path.text ++ "/")

/-- Setting the slash makes the path a directory. -/
theorem slashed_eq_asDirectory (hspecial : isSpecial u.scheme = true) (h : u.path.IsSettled) :
    u.slashed = u.asDirectory := by
  have hread : rootPath true u.path.directoryText.toList = u.path.asDirectory :=
    rootPath_directoryText h
  rw [Path.directoryText] at hread
  rw [slashed, asDirectory, ← hread]
  split
  · rw [rootPath_text h]
  · rw [setPath, hspecial]

theorem asDirectory_asDirectory (h : u.path.IsSettled) :
    u.asDirectory.asDirectory = u.asDirectory := by
  obtain ⟨place, hplace, -, -⟩ := h.exists_asDirectory
  rw [asDirectory, asDirectory, hplace, Path.asDirectory_segments_append]

end Url

namespace Backend

open Url

section

variable [DomainRule] {base base' : Url}

/-- What can be used as a base. -/
theorem isSettled_base_of_check {c : Config} {environment : Environment} {settings : Settings}
    (hcheck : c.check environment = .ok settings) :
    isHttp settings.base = true ∧ settings.base.path.IsSettled := by
  obtain ⟨base, hparse, hscheme, -, -, -, rfl⟩ := Config.check_eq_ok_iff.mp hcheck
  have hhttp : isHttp base = true := isHttp_iff.mpr hscheme
  obtain ⟨cs, hcs⟩ := exists_rootPath_of_parse hparse hhttp
  exact ⟨hhttp, hcs ▸ isSettled_rootPath cs⟩

/-- The endpoints of a settled base: the names of the source are behind those of the directory. -/
theorem endpoint_eq (hhttp : isHttp base = true) (h : base.path.IsSettled) (limit : UInt64)
    (source : Source) (rows? : Option UInt64) :
    ∃ place, base.path.asDirectory = .segments (place ++ [""]) ∧
      (ofUrl base limit).endpoint source.path rows? = .ok ⟨base.scheme, base.authority?,
        .segments (place ++ source.names), rows?.map fun rows => s!"limit={rows.toNat}", none⟩ := by
  have hfile : base.asDirectory.scheme ≠ "file" := scheme_ne_file_of_isHttp hhttp
  have hspecial : isSpecial base.asDirectory.scheme = true := isSpecial_of_isHttp hhttp
  obtain ⟨place, hplace, -, -⟩ := h.exists_asDirectory
  have hnames : followText true false place source.path.toList = place ++ source.names := by
    refine followText_of_text place source.isSettled_of_mem_names ?_
    rw [source.text_names, String.toList_append]
    rfl
  refine ⟨place, hplace, ?_⟩
  rw [endpoint, ofUrl, resolve_path hplace hfile, hspecial, List.dropLast_concat, hnames]
  cases rows? <;> rfl

/-- Bases with the same directory have the same endpoints. -/
theorem endpoint_congr (hhttp : isHttp base = true) (h : base.path.IsSettled)
    (h' : base'.path.IsSettled) (hscheme : base'.scheme = base.scheme)
    (hauthority : base'.authority? = base.authority?)
    (hdirectory : base'.path.asDirectory = base.path.asDirectory) (limit : UInt64)
    (source : Source) (rows? : Option UInt64) :
    (ofUrl base' limit).endpoint source.path rows? =
      (ofUrl base limit).endpoint source.path rows? := by
  have hhttp' : isHttp base' = true := by rwa [isHttp, hscheme]
  obtain ⟨place, hplace, hendpoint⟩ := endpoint_eq hhttp h limit source rows?
  obtain ⟨place', hplace', hendpoint'⟩ := endpoint_eq hhttp' h' limit source rows?
  have hsame : Path.segments (place' ++ [""]) = .segments (place ++ [""]) :=
    hplace'.symm.trans (hdirectory.trans hplace)
  obtain rfl : place' = place := List.append_cancel_right (Path.segments.inj hsame)
  rw [hendpoint, hendpoint', hscheme, hauthority]

/-- What the endpoint of a source is to its base. -/
structure KeepsBase (base : Url) (limit : UInt64) (source : Source) (rows? : Option UInt64) :
    Prop where
  /-- There is an endpoint. It has the scheme and the authority of the base, its path is that of the
  base with a slash at its end, one being added only if there is none, and then that of the source,
  its query is the number of rows, if one is asked for, and it has no fragment. -/
  exists_endpoint : ∃ url, (ofUrl base limit).endpoint source.path rows? = .ok url ∧
    url.scheme = base.scheme ∧ url.authority? = base.authority? ∧
    url.path.text = base.path.directoryText ++ source.path ∧
    url.query? = (rows?.map fun rows => s!"limit={rows.toNat}") ∧ url.fragment? = none
  /-- Setting the slash is what makes a directory of the base. -/
  slashed : base.slashed = base.asDirectory
  /-- A second time it changes nothing. -/
  slashed_slashed : base.slashed.slashed = base.slashed
  /-- A base that has the slash already has the same endpoint as the one without it. -/
  endpoint_eq_of_text : ∀ base' : Url, base'.path.IsSettled → base'.scheme = base.scheme →
    base'.authority? = base.authority? → base'.path.text = base.path.directoryText →
    (ofUrl base' limit).endpoint source.path rows? = (ofUrl base limit).endpoint source.path rows?

theorem keepsBase (hhttp : isHttp base = true) (h : base.path.IsSettled) (limit : UInt64)
    (source : Source) (rows? : Option UInt64) : KeepsBase base limit source rows? where
  exists_endpoint := by
    obtain ⟨place, hplace, hendpoint⟩ := endpoint_eq hhttp h limit source rows?
    obtain ⟨-, -, -, htext⟩ := h.exists_asDirectory
    have hpath : (Path.segments (place ++ source.names)).text =
        base.path.directoryText ++ source.path := by
      rw [← htext, hplace, Path.text_append, Path.text_append, source.text_names,
        String.append_assoc]
      rfl
    exact ⟨_, hendpoint, rfl, rfl, hpath, rfl, rfl⟩
  slashed := slashed_eq_asDirectory (isSpecial_of_isHttp hhttp) h
  slashed_slashed := by
    have hagain : base.asDirectory.slashed = base.asDirectory.asDirectory :=
      slashed_eq_asDirectory (isSpecial_of_isHttp hhttp) h.asDirectory
    rw [slashed_eq_asDirectory (isSpecial_of_isHttp hhttp) h, hagain, asDirectory_asDirectory h]
  endpoint_eq_of_text base' h' hscheme hauthority htext :=
    endpoint_congr hhttp h h' hscheme hauthority (h.asDirectory_eq_of_text h' htext) limit source
      rows?

/-- **Endpoints keep the base.** Every source can be asked below every base with the scheme of the
web and a settled path, whatever its host and the rest of it are: of the base, the endpoint keeps
the scheme, the authority and the path. In particular this holds of every base that was accepted. -/
theorem endpoint_keeps_base (limit : UInt64) (source : Source) (rows? : Option UInt64) :
    (∀ base : Url, isHttp base = true → base.path.IsSettled →
      KeepsBase base limit source rows?) ∧
    ∀ (c : Config) (environment : Environment) (settings : Settings),
      c.check environment = .ok settings →
      isHttp settings.base = true ∧ settings.base.path.IsSettled ∧
        KeepsBase settings.base limit source rows? := by
  refine ⟨fun base hhttp h => keepsBase hhttp h limit source rows?, ?_⟩
  intro c environment settings hcheck
  obtain ⟨hhttp, h⟩ := isSettled_base_of_check hcheck
  exact ⟨hhttp, h, keepsBase hhttp h limit source rows?⟩

end

/-- A base with a user, a port, an escape, an empty segment, a query and a fragment, the same one
with a slash instead of the last two, and one with an international domain. -/
theorem endpoint_keeps_base_prefix :
    let environment : Environment := ⟨none, "/root"⟩
    let c := { Config.default with url := "http://ann:pw@gw:81/a%20b//c?x=1#top" }
    let c' := { Config.default with url := "http://ann:pw@gw:81/a%20b//c/" }
    let domain := "xn--p1b6ci4b4b3a.xn--11b5bs3a9aj6g"
    let far : Url := ⟨"https", some ⟨"", "", some (.name domain), none⟩, .segments [""], none, none⟩
    ∃ settings settings', c.check environment = .ok settings ∧
      c'.check environment = .ok settings' ∧
      (∃ url, (ofUrl settings.base 10).endpoint Source.hosts.path (some 5) = .ok url ∧
        url.path.text = "/a%20b//c/api/network/hosts" ∧ url.query? = some "limit=5") ∧
      (ofUrl settings'.base 10).endpoint Source.hosts.path (some 5) =
        (ofUrl settings.base 10).endpoint Source.hosts.path (some 5) ∧
      isHttp far = true ∧ far.path.IsSettled ∧
      ∃ url, (ofUrl far 10).endpoint Source.hosts.path (some 5) = .ok url ∧
        url.authority? = far.authority? ∧ url.path.text = "/api/network/hosts" := by
  intro environment c c' domain far
  let site : Authority := ⟨"ann", "pw", some (.name "gw"), some 81⟩
  let base : Url := ⟨"http", some site, .segments ["a%20b", "", "c"], some "x=1", some "top"⟩
  let base' : Url := ⟨"http", some site, .segments ["a%20b", "", "c", ""], none, none⟩
  have hparse : parse "http://ann:pw@gw:81/a%20b//c?x=1#top" = .ok base := rfl
  have hparse' : parse "http://ann:pw@gw:81/a%20b//c/" = .ok base' := rfl
  have hcheck : c.check environment = .ok ⟨base, 2000, 10, none, environment.logPath⟩ :=
    Config.check_eq_ok_iff.mpr ⟨base, hparse, .inl rfl, by decide, by decide, nofun, rfl⟩
  have hcheck' : c'.check environment = .ok ⟨base', 2000, 10, none, environment.logPath⟩ :=
    Config.check_eq_ok_iff.mpr ⟨base', hparse', .inl rfl, by decide, by decide, nofun, rfl⟩
  have hdirectory : base.path.directoryText = base'.path.text := by decide +kernel
  have hfar : far.path.IsSettled :=
    ⟨[], "", rfl, List.forall_mem_singleton.mpr isSettled_empty⟩
  have hroot : far.path.directoryText = "/" := by decide +kernel
  obtain ⟨hany, haccepted⟩ := endpoint_keeps_base 10 .hosts (some 5)
  obtain ⟨-, -, hkeeps⟩ := haccepted c environment _ hcheck
  obtain ⟨-, hsettled', -⟩ := haccepted c' environment _ hcheck'
  obtain ⟨url, hurl, -, -, hpath, hquery, -⟩ := hkeeps.exists_endpoint
  obtain ⟨url', hurl', -, hauthority', hpath', -⟩ := (hany far rfl hfar).exists_endpoint
  refine ⟨_, _, hcheck, hcheck', ⟨url, hurl, ?_, hquery⟩, ?_, rfl, hfar, url', hurl', hauthority',
    ?_⟩
  · rw [hpath, hdirectory]
    rfl
  · exact hkeeps.endpoint_eq_of_text _ hsettled' rfl rfl hdirectory.symm
  · rw [hpath', hroot]
    rfl

end Backend

end Telemetry
