import Telemetry.Proofs.CommandLine.OneUrl
import Telemetry.Proofs.Settings.Reload
import Telemetry.Url.Domain

/-!
Effective settings.

For each value there is an order of precedence: the command line, then the file,
then the default. A file takes part in it only if all of its text holds a
configuration. What takes effect is checked after that, so a value of the file that
the command line overrides is never looked at.

The checks are listed in the order in which they are made. What is reported is the
head of that list, and a configuration is valid if the list is empty. The first of
them reads the URL; how international domains are read is left open, so all of this
holds whatever the rule is.
-/

namespace Telemetry

open Json

/-! ### What a file contributes -/

/-- The configuration that all of the text of a file holds. -/
def FileState.contribution? : FileState → Option Config
  | .missing | .unreadable _ => none
  | .content bytes => (String.fromUTF8? bytes).bind fun text => (Config.decode text).toOption

/-- Why a file that is there contributes nothing. -/
def FileState.problem? (path : String) (file : FileState) : Option LoadError :=
  match Config.load path file with
  | .ok _ => none
  | .error e => some e

namespace Config

variable {file : FileState} {c : Config}

theorem load_of_contribution? (h : file.contribution? = some c) (path : String) :
    load path file = .ok c := by
  cases file with
  | missing | unreadable reason => cases h
  | content bytes =>
      obtain ⟨text, htext, hdecode⟩ := Option.bind_eq_some_iff.1 h
      rw [load, htext]
      simp only
      cases hc : decode text with
      | error e =>
          rw [hc] at hdecode
          cases hdecode
      | ok c' =>
          rw [hc] at hdecode
          rw [mapError_ok, Option.some.inj hdecode]

theorem contribution?_of_load {path : String} {error : LoadError}
    (h : load path file = .error error) : file.contribution? = none := by
  cases hcontribution : file.contribution? with
  | none => rfl
  | some c => exact nomatch (load_of_contribution? hcontribution path).symm.trans h

/-- A file that contributes nothing leaves the defaults, whether it is missing or not. -/
theorem load_of_no_contribution? (h : file.contribution? = none) (path : String) :
    (load path file).toOption.getD .default = .default := by
  cases file with
  | missing | unreadable reason => rfl
  | content bytes =>
      rw [load]
      cases htext : String.fromUTF8? bytes with
      | none => rfl
      | some text =>
          rw [FileState.contribution?, htext, Option.bind_some] at h
          simp only
          cases hc : decode text with
          | error e => rfl
          | ok c =>
              rw [hc] at h
              cases h

theorem load_eq (path : String) (file : FileState) :
    (load path file).toOption.getD .default = file.contribution?.getD .default := by
  cases h : file.contribution? with
  | none => exact load_of_no_contribution? h path
  | some c =>
      rw [load_of_contribution? h path]
      rfl

/-- What a file leaves out has its default. -/
theorem eq_default_of_omits {text : String} {v : Tree} (htext : v.IsText text)
    (hdecode : decode text = .ok c) :
    (v.Omits 0 "url" → c.url = default.url) ∧
    (v.Omits 1 "interval_ms" → c.intervalMs = default.intervalMs) ∧
    (v.Omits 2 "limit" → c.limit = default.limit) ∧
    (v.Omits 3 "timeout_ms" → c.timeoutMs? = default.timeoutMs?) ∧
    (v.Omits 4 "log_file" → c.logFile? = default.logFile?) := by
  have htree : ofTree? v = some c := (decode_eq_ok_iff follows_reader htext).1 hdecode
  obtain ⟨⟨url, intervalMs, limit, timeoutMs?, logFile?, ⟨⟩⟩, hrow, rfl⟩ :=
    Option.map_eq_some_iff.1 htree
  have hdefaults := keepsDefaults_row? hrow
  simp only [columns, Row.KeepsDefaults] at hdefaults
  obtain ⟨hurl, hinterval, hlimit, htimeout, hlog, -⟩ := hdefaults
  exact ⟨fun h => (Option.some.inj (hurl h)).symm, fun h => (Option.some.inj (hinterval h)).symm,
    fun h => (Option.some.inj (hlimit h)).symm, fun h => (Option.some.inj (htimeout h)).symm,
    fun h => (Option.some.inj (hlog h)).symm⟩

/-! ### Checks -/

/-- A guard reports what it finds, and leaves the rest to the guards behind it. -/
theorem ite_throw_eq_error {ε α β : Type} {P : Prop} [Decidable P] {e violation : ε}
    {f : β → Except ε α} {x : Except ε α} {others violations : List ε}
    (h : (if P then [e] else []) ++ violations = violation :: others)
    (hx : violations = violation :: others → x = .error violation) :
    (if P then throw e >>= f else x) = .error violation := by
  by_cases hP : P
  · rw [if_pos hP] at h ⊢
    rw [(List.cons.inj h).1]
    rfl
  · rw [if_neg hP] at h ⊢
    exact hx h

section

variable [Url.DomainRule]

/-- A configuration that can be used. -/
structure IsValid (c : Config) : Prop where
  url : ∃ base, Url.parse c.url = .ok base ∧ (base.scheme = "http" ∨ base.scheme = "https")
  intervalMs : 0 < c.intervalMs
  limit : 0 < c.limit
  timeoutMs? : c.timeoutMs? ≠ some 0

/-- What is wrong with a configuration, in the order of the checks. There is no scheme to be
wrong if the URL is none. -/
def violations (c : Config) : List SettingsError :=
  (match Url.parse c.url with
    | .error fault => [.url c.url fault]
    | .ok base =>
      if base.scheme ≠ "http" ∧ base.scheme ≠ "https" then [.scheme c.url] else []) ++
  ((if c.intervalMs = 0 then [.zero "interval_ms"] else []) ++
  ((if c.limit = 0 then [.zero "limit"] else []) ++
  ((if c.timeoutMs? = some 0 then [.zero "timeout_ms"] else []) ++ [])))

theorem isValid_iff_violations : c.IsValid ↔ c.violations = [] := by
  have hpos (n : UInt64) : 0 < n ↔ n ≠ 0 := UInt64.pos_iff_ne_zero
  have hnumbers : (0 < c.intervalMs ∧ 0 < c.limit ∧ c.timeoutMs? ≠ some 0) ↔
      ((if c.intervalMs = 0 then [.zero "interval_ms"] else []) ++
      ((if c.limit = 0 then [.zero "limit"] else []) ++
      ((if c.timeoutMs? = some 0 then [.zero "timeout_ms"] else []) ++ [])) :
        List SettingsError) = [] := by
    simp [hpos]
  rw [violations, List.append_eq_nil_iff, ← hnumbers]
  constructor
  · rintro ⟨⟨base, hparse, hscheme⟩, hinterval, hlimit, htimeout⟩
    refine ⟨?_, hinterval, hlimit, htimeout⟩
    rw [hparse]
    rcases hscheme with hscheme | hscheme <;> simp [hscheme]
  · rintro ⟨hurl, hinterval, hlimit, htimeout⟩
    refine ⟨?_, hinterval, hlimit, htimeout⟩
    cases hparse : Url.parse c.url with
    | error fault =>
        rw [hparse] at hurl
        exact nomatch hurl
    | ok base =>
        rw [hparse] at hurl
        refine ⟨base, rfl, ?_⟩
        apply Decidable.byContradiction
        intro hscheme
        rw [not_or] at hscheme
        simp [hscheme] at hurl

/-- The first violation is the one that is reported. -/
theorem check_of_violations {violation : SettingsError} {others : List SettingsError}
    (h : c.violations = violation :: others) (e : Environment) : c.check e = .error violation := by
  rw [violations] at h
  rw [check]
  cases hparse : Url.parse c.url with
  | error fault =>
      rw [hparse] at h
      rw [← (List.cons.inj h).1]
      rfl
  | ok base =>
      rw [hparse] at h
      refine ite_throw_eq_error h fun h => ite_throw_eq_error h fun h => ?_
      exact ite_throw_eq_error h fun h => ite_throw_eq_error h fun h =>
        absurd h.symm (List.cons_ne_nil _ _)

end

end Config

namespace CommandLine

/-! ### Precedence -/

/-- The value that is given, or else that of the file, or else the default. -/
def preferred {α : Type} (given? : Option α) (file? : Option Config) (value : Config → α) : α :=
  given?.getD ((file?.map value).getD (value .default))

/-- The configuration that takes effect, `file?` being what the file contributes. -/
def Arguments.effectiveConfig (a : Arguments) (file? : Option Config) : Config where
  url := preferred (a.position? <|> a.overrides.url?) file? Config.url
  intervalMs := preferred a.overrides.intervalMs? file? Config.intervalMs
  limit := preferred a.overrides.limit? file? Config.limit
  timeoutMs? := preferred (a.overrides.timeoutMs?.map some) file? Config.timeoutMs?
  logFile? := preferred (a.overrides.logFile?.map some) file? Config.logFile?

theorem effectiveConfig_eq (a : Arguments) (file? : Option Config) :
    a.effectiveConfig file? = (file?.getD .default).override a.effective := by
  obtain ⟨position?, ⟨url?, intervalMs?, limit?, timeoutMs?, logFile?⟩, config?, printConfig⟩ := a
  cases file? <;> cases timeoutMs? <;> cases logFile? <;> rfl

theorem configure_eq (a : Arguments) (path : String) (file : FileState) :
    configure path file a.effective =
      (a.effectiveConfig file.contribution?, file.problem? path) := by
  rw [effectiveConfig_eq, ← Config.load_eq path file, configure, FileState.problem?]
  cases Config.load path file <;> rfl

/-- Two configurations differ at most in values that the command line overrides. -/
structure AgreeElsewhere (o : Overrides) (c c' : Config) : Prop where
  url : o.url? = none → c.url = c'.url
  intervalMs : o.intervalMs? = none → c.intervalMs = c'.intervalMs
  limit : o.limit? = none → c.limit = c'.limit
  timeoutMs? : o.timeoutMs? = none → c.timeoutMs? = c'.timeoutMs?
  logFile? : o.logFile? = none → c.logFile? = c'.logFile?

theorem AgreeElsewhere.override_eq {o : Overrides} {c c' : Config} (h : AgreeElsewhere o c c') :
    c.override o = c'.override o := by
  have hgetD {α : Type} {given? : Option α} {x y : α} (hxy : given? = none → x = y) :
      given?.getD x = given?.getD y := by
    cases given? with
    | none => exact hxy rfl
    | some a => rfl
  have horElse {α : Type} {given? x y : Option α} (hxy : given? = none → x = y) :
      (given? <|> x) = (given? <|> y) := by
    cases given? with
    | none => exact hxy rfl
    | some a => rfl
  rw [Config.override, Config.override, hgetD h.url, hgetD h.intervalMs, hgetD h.limit,
    horElse h.timeoutMs?, horElse h.logFile?]

/-! ### What is done -/

/-- The program goes on, or prints what was asked for. -/
def Plan.Proceeds : Plan → Prop
  | .refuse _ _ => False
  | .print _ _ | .watch _ _ => True

section

variable [Url.DomainRule] {e : Environment} {file : FileState} {a : Arguments}

theorem plan_of_isValid {base : Url} (hvalid : (a.effectiveConfig file.contribution?).IsValid)
    (hbase : Url.parse (a.effectiveConfig file.contribution?).url = .ok base) :
    let c := a.effectiveConfig file.contribution?
    let problem? := file.problem? (a.configPath e)
    let settings : Settings :=
      ⟨base, c.intervalMs, c.limit, c.timeoutMs?, c.logFile?.getD e.logPath⟩
    c.check e = .ok settings ∧
    a.plan e file =
      if a.printConfig then .print (c.print ++ "\n") ((problem?.map warning).getD "")
      else .watch settings problem? := by
  intro c problem? settings
  obtain ⟨⟨base', hparse, hscheme⟩, hinterval, hlimit, htimeout⟩ := hvalid
  obtain rfl : base' = base := Except.ok.inj (hparse.symm.trans hbase)
  have hcheck : c.check e = .ok settings :=
    Config.check_eq_ok_iff.2 ⟨base', hparse, hscheme, UInt64.pos_iff_ne_zero.1 hinterval,
      UInt64.pos_iff_ne_zero.1 hlimit, htimeout, rfl⟩
  refine ⟨hcheck, ?_⟩
  rw [Arguments.plan, configure_eq]
  simp only [hcheck, c, problem?]

theorem plan_of_violations {violation : SettingsError} {others : List SettingsError}
    (h : (a.effectiveConfig file.contribution?).violations = violation :: others) :
    (a.effectiveConfig file.contribution?).check e = .error violation ∧
      a.plan e file = .refuse 1 (settingsFailure violation) := by
  have hcheck := Config.check_of_violations h e
  refine ⟨hcheck, ?_⟩
  rw [Arguments.plan, configure_eq]
  simp only [hcheck]

theorem proceeds_plan_iff :
    (a.plan e file).Proceeds ↔ (a.effectiveConfig file.contribution?).IsValid := by
  constructor
  · intro hproceeds
    rw [Config.isValid_iff_violations]
    cases hviolations : (a.effectiveConfig file.contribution?).violations with
    | nil => rfl
    | cons violation others =>
        rw [(plan_of_violations hviolations).2] at hproceeds
        exact hproceeds.elim
  · intro hvalid
    obtain ⟨base, hbase, -⟩ := hvalid.url
    rw [(plan_of_isValid hvalid hbase).2]
    split <;> trivial

/-- Files that differ only in what the command line overrides lead to the same plan. -/
theorem plan_congr {file' : FileState} {config config' : Config}
    (h : file.contribution? = some config) (h' : file'.contribution? = some config')
    (hagree : AgreeElsewhere a.effective config config') : a.plan e file' = a.plan e file := by
  have hconfigure (path : String) :
      configure path file' a.effective = configure path file a.effective := by
    rw [configure, configure, Config.load_of_contribution? h, Config.load_of_contribution? h']
    simp only [hagree.override_eq]
  rw [Arguments.plan, Arguments.plan, hconfigure]

end

/-- **Effective settings.** What is done with an accepted command line depends on the effective
values: those that are given, then those of a file that holds a configuration, then the defaults.
If they are valid, the program prints or uses just them; if they are not, the check reports the
first that is wrong, and so does the program. A file that cannot be used contributes nothing, and of
one that can be used it does not matter what it says about values that are given. -/
theorem plan_effective [Url.DomainRule] {arguments : List String} {a : Arguments}
    (hparse : parse arguments = .ok a) (e : Environment) (read : String → FileState) :
    let path := a.configPath e
    let file := read path
    let c := a.effectiveConfig file.contribution?
    (a.position? = none ∨ a.overrides.url? = none) ∧
    (∀ error, Config.load path file = .error error → c = a.effectiveConfig none) ∧
    ((plan e read arguments).Proceeds ↔ c.IsValid) ∧
    (∀ base, c.IsValid → Url.parse c.url = .ok base →
      let settings : Settings :=
        ⟨base, c.intervalMs, c.limit, c.timeoutMs?, c.logFile?.getD e.logPath⟩
      c.check e = .ok settings ∧
      plan e read arguments =
        if a.printConfig then
          .print (c.print ++ "\n") (((file.problem? path).map warning).getD "")
        else .watch settings (file.problem? path)) ∧
    (¬ c.IsValid → ∃ violation ∈ c.violations.head?, c.check e = .error violation ∧
      plan e read arguments = .refuse 1 (settingsFailure violation)) ∧
    (∀ (read' : String → FileState) (config config' : Config),
      file.contribution? = some config → (read' path).contribution? = some config' →
      AgreeElsewhere a.effective config config' →
      plan e read' arguments = plan e read arguments) ∧
    ∀ (text : String) (v : Tree) (config : Config), v.IsText text →
      Config.decode text = .ok config →
      (v.Omits 0 "url" → config.url = Config.default.url) ∧
      (v.Omits 1 "interval_ms" → config.intervalMs = Config.default.intervalMs) ∧
      (v.Omits 2 "limit" → config.limit = Config.default.limit) ∧
      (v.Omits 3 "timeout_ms" → config.timeoutMs? = Config.default.timeoutMs?) ∧
      (v.Omits 4 "log_file" → config.logFile? = Config.default.logFile?) := by
  intro path file c
  have hplan (read : String → FileState) : plan e read arguments = a.plan e (read path) := by
    rw [plan, hparse]
  refine ⟨url_once_of_parse hparse, ?_, ?_, ?_, ?_, ?_, ?_⟩
  · intro error herror
    exact congrArg a.effectiveConfig (Config.contribution?_of_load herror)
  · rw [hplan]
    exact proceeds_plan_iff
  · intro base hvalid hbase
    rw [hplan]
    exact plan_of_isValid hvalid hbase
  · intro hinvalid
    rw [Config.isValid_iff_violations] at hinvalid
    obtain ⟨violation, others, hviolations⟩ := List.exists_cons_of_ne_nil hinvalid
    refine ⟨violation, by rw [hviolations]; rfl, ?_⟩
    rw [hplan]
    exact plan_of_violations hviolations
  · intro read' config config' hconfig hconfig' hagree
    rw [hplan, hplan]
    exact plan_congr hconfig hconfig' hagree
  · intro text v config htext hdecode
    exact Config.eq_default_of_omits htext hdecode

/-- A file whose limit is zero. It is of no use alone, and as good as any if another limit is
given. -/
theorem plan_effective_limit :
    let text := "\x7b\"limit\":0,\"interval_ms\":1000\x7d"
    let file : FileState := .content text.toUTF8
    let config : Config := { Config.default with intervalMs := 1000, limit := 0 }
    config.check ⟨none, "/home"⟩ = .error (.zero "limit") ∧
    plan ⟨none, "/home"⟩ (fun _ => file) ["--print-config"] =
      .refuse 1 (settingsFailure (.zero "limit")) ∧
    plan ⟨none, "/home"⟩ (fun _ => file) ["--print-config", "-l", "5"] =
      .print ({ Config.default with intervalMs := 1000, limit := 5 }.print ++ "\n") "" := by
  intro text file config
  let v : Tree := .object [("limit", .number ⟨false, ['0'], [], none⟩),
    ("interval_ms", .number ⟨false, ['1', '0', '0', '0'], [], none⟩)]
  have hzero : (Token.numeral ⟨false, ['0'], [], none⟩).IsWritten ['0'] := IsWhole.zero.isWritten
  have hthousand : (Token.numeral ⟨false, ['1', '0', '0', '0'], [], none⟩).IsWritten
      ['1', '0', '0', '0'] :=
    (IsWhole.digits rfl (by decide) (by simp)).isWritten
  have htext : v.IsText text := by
    dsimp only [v, text]
    refine ⟨[], by simp, ?_⟩
    refine .mark '{' (.text (.plain (by simp)) (.mark ':' (.written hzero ?_)))
    refine .mark ',' (.text (.plain (by simp)) (.mark ':' (.written hthousand ?_)))
    exact .mark '}' (.nil [])
  have hcontribution : file.contribution? = some config := by
    have hdecode : Config.decode text = .ok config :=
      (decode_eq_ok_iff Config.follows_reader htext).2 rfl
    rw [FileState.contribution?, Config.fromUTF8?_toUTF8, Option.bind_some, hdecode]
    rfl
  have hproblem (path : String) : file.problem? path = none := by
    rw [FileState.problem?, Config.load_of_contribution? hcontribution path]
  rw [← and_assoc]
  refine ⟨?_, ?_⟩
  · have hparse : parse ["--print-config"] = .ok ⟨none, .none, none, true⟩ := rfl
    obtain ⟨-, -, -, -, hrefuse, -⟩ := plan_effective hparse ⟨none, "/home"⟩ fun _ => file
    have hviolations : config.violations = [.zero "limit"] := by decide +kernel
    rw [hcontribution, Config.isValid_iff_violations] at hrefuse
    obtain ⟨violation, hviolation, hcheck, hplan⟩ :=
      hrefuse fun h => nomatch hviolations.symm.trans h
    have hhead : config.violations.head? = some violation := hviolation
    rw [hviolations] at hhead
    obtain rfl := Option.some.inj hhead
    exact ⟨hcheck, hplan⟩
  · have hparse : parse ["--print-config", "-l", "5"] =
        .ok ⟨none, { Overrides.none with limit? := some 5 }, none, true⟩ := rfl
    obtain ⟨-, -, -, hprint, -⟩ := plan_effective hparse ⟨none, "/home"⟩ fun _ => file
    have hvalid : { Config.default with intervalMs := 1000, limit := 5 }.IsValid :=
      Config.isValid_iff_violations.2 (by decide +kernel)
    obtain ⟨base, hbase, -⟩ := hvalid.url
    rw [hcontribution, hproblem] at hprint
    exact (hprint base hvalid hbase).2

end CommandLine

end Telemetry
