import Telemetry.CommandLine.Plan
import Telemetry.Proofs.Json.Printing
import Telemetry.Proofs.Json.Schema
import Telemetry.Url.Domain

/-!
A printed configuration is loaded as itself.

The printed text is one of the texts of an object, and the configuration is what
this object stands for. So a file that holds what `--print-config` has printed
makes the program print the same again.
-/

namespace Telemetry

open Json

/-! ### The printed object -/

theorem Json.Scalar.string?_tree (s : String) : (Scalar.text s).tree.string? = some s := by
  simp [Scalar.tree, Tree.string?, decodeUnits_utf16]

theorem Json.Scalar.unsigned64?_tree (n : UInt64) :
    (Scalar.natural n.toNat).tree.unsigned64? = some n := by
  have hn : n.toNat < 2 ^ 64 := n.toNat_lt
  have hvalue : (Numeral.natural n.toNat).value = .ok (.integer n.toNat) :=
    Numeral.value_natural (by simp only [maxSignificand]; omega)
  have hnumber : (Scalar.natural n.toNat).tree.number? = some (.integer n.toNat) := by
    rw [Scalar.tree, Tree.number?, hvalue]
    rfl
  have hrange : (0 : Int) ≤ n.toNat ∧ (n.toNat : Int) ≤ 2 ^ 64 - 1 := by omega
  rw [Tree.unsigned64?, Tree.integer?, hnumber]
  show Option.map _ (if (0 : Int) ≤ n.toNat ∧ (n.toNat : Int) ≤ 2 ^ 64 - 1 then _ else _) = _
  rw [if_pos hrange]
  simp

theorem Json.Scalar.optional?_tree {α : Type} (value? : Tree → Option α) (s : Scalar) :
    Tree.optional? value? s.tree = (value? s.tree).map some := by
  cases s <;> rfl

namespace Config

/-- The printed object stands for the configuration. -/
theorem ofTree?_members (c : Config) : ofTree? (.object (memberTrees c.members)) = some c := by
  rcases c with ⟨url, intervalMs, limit, _ | timeoutMs, _ | logFile⟩
  all_goals
    simp [ofTree?, members, memberTrees, Tree.row?, columns, rowOfMembers, occurrences, Column.name,
      Column.ofOccurrences, Column.withDefault, Field.withDefault, Scalar.string?_tree,
      Scalar.unsigned64?_tree, Scalar.optional?_tree]
    exact ⟨(), rfl, rfl⟩

/-- A printed configuration is decoded as itself, also with a line feed behind it. -/
theorem decode_print (c : Config) (blanks : String) (h : ∀ b ∈ blanks.toList, isBlank b) :
    decode (c.print ++ blanks) = .ok c :=
  (decode_eq_ok_iff follows_reader (isText_printObject c.members blanks h)).mpr (ofTree?_members c)

theorem fromUTF8?_toUTF8 (s : String) : String.fromUTF8? s.toUTF8 = some s := by
  have hvalid : s.toUTF8.IsValidUTF8 := s.isValidUTF8
  rw [String.fromUTF8?, dif_pos hvalid]
  rfl

theorem load_print (c : Config) (path blanks : String)
    (h : ∀ b ∈ blanks.toList, isBlank b) :
    load path (.content (c.print ++ blanks).toUTF8) = .ok c := by
  rw [load, fromUTF8?_toUTF8]
  simp [decode_print c blanks h, mapError_ok]

/-- A guard lets a result pass if it finds nothing. -/
theorem ite_throw_eq_ok_iff {ε α β : Type} {P : Prop} [Decidable P] {e : ε}
    {f : β → Except ε α} {x : Except ε α} {a : α} :
    (if P then throw e >>= f else x) = .ok a ↔ ¬P ∧ x = .ok a := by
  by_cases h : P
  · rw [if_pos h]
    exact iff_of_false nofun fun hnot => hnot.1 h
  · rw [if_neg h]
    exact (and_iff_right h).symm

theorem check_eq_ok_iff [Url.DomainRule] {c : Config} {e : Environment} {settings : Settings} :
    c.check e = .ok settings ↔ ∃ base, Url.parse c.url = .ok base ∧
      (base.scheme = "http" ∨ base.scheme = "https") ∧ c.intervalMs ≠ 0 ∧ c.limit ≠ 0 ∧
      c.timeoutMs? ≠ some 0 ∧
      ⟨base, c.intervalMs, c.limit, c.timeoutMs?, c.logFile?.getD e.logPath⟩ = settings := by
  rw [check]
  cases Url.parse c.url with
  | error fault => exact iff_of_false nofun fun ⟨_, hparse, _⟩ => nomatch hparse
  | ok base =>
      rw [mapError_ok]
      show (if _ then _ else _) = _ ↔ _
      simp only [ite_throw_eq_ok_iff, ne_eq, Decidable.not_and_iff_not_or_not,
        Decidable.not_not, pure, Except.pure, Except.ok.injEq, exists_eq_left']

/-- Whether a configuration can be used does not depend on the environment. -/
theorem exists_check_eq_ok [Url.DomainRule] {c : Config} {e : Environment} {settings : Settings}
    (h : c.check e = .ok settings) (e' : Environment) :
    ∃ settings', c.check e' = .ok settings' := by
  obtain ⟨base, hparse, hscheme, hinterval, hlimit, htimeout, -⟩ := check_eq_ok_iff.mp h
  exact ⟨_, check_eq_ok_iff.mpr ⟨base, hparse, hscheme, hinterval, hlimit, htimeout, rfl⟩⟩

end Config

namespace CommandLine

/-! ### Command lines -/

/-- How far a command line has been read behind `--print-config`. -/
def printing : Reading :=
  ⟨{ Arguments.none with printConfig := true }, [.switch .printConfig], .none, false⟩

/-- A command line that asks for the configuration of a file to be printed. -/
def printingFrom (path : String) : Arguments :=
  { Arguments.none with printConfig := true, config? := some path }

theorem read_printConfig : Reading.start.read "--print-config" = .ok printing := rfl

theorem read_long {r : Reading} {argument name : String} {value? : Option String} {s : Switch}
    {c : Char} {body : List Char} (hliteral : r.literal = false)
    (hbody : argument.toList = '-' :: '-' :: c :: body)
    (hsplit : Reading.splitLong (c :: body) = (name, value?))
    (hs : Switch.ofLong? name = some s) : r.read argument = r.readSwitch s value? := by
  rw [Reading.read, hliteral, hbody]
  simp [hsplit, hs]

theorem accept_config {path : String} (h : path ≠ "") :
    printing.accept (.switch .config) path =
      .ok ⟨printingFrom path, [.switch .printConfig, .switch .config], .none, false⟩ := by
  simp [printing, printingFrom, Reading.accept, Arguments.set, pathFor, h, bind, Except.bind, pure,
    Except.pure]

/-- The path may be attached to the switch. -/
theorem parse_attached {path : String} (h : path ≠ "") :
    parse ["--print-config", "--config=" ++ path] = .ok (printingFrom path) := by
  have hbody : ("--config=" ++ path).toList =
      '-' :: '-' :: 'c' :: ("onfig=".toList ++ path.toList) := by
    simp
  have hsplit : Reading.splitLong ('c' :: ("onfig=".toList ++ path.toList)) =
      ("config", some path) := by
    simp [Reading.splitLong]
  have hread : printing.read ("--config=" ++ path) =
      (printing.accept (.switch .config) path).mapError .mistake :=
    read_long (s := .config) rfl hbody hsplit rfl
  rw [accept_config h] at hread
  -- `parse` folds over the arguments; each `show` brings the next one to the front
  show (Reading.start.read _ >>= _) >>= _ = _
  rw [read_printConfig]
  show (printing.read _ >>= _) >>= _ = _
  rw [hread]
  rfl

/-- The path may be an argument of its own, unless it looks like a switch. -/
theorem parse_separate {path : String} (h : path ≠ "")
    (hswitch : ∀ c rest, path.toList ≠ '-' :: c :: rest) :
    parse ["--print-config", "--config", path] = .ok (printingFrom path) := by
  have hread : Reading.read { printing with pending := .waiting .config } path =
      .ok { printing with pending := .valued (.switch .config) path } := by
    rw [Reading.read]
    split
    · rfl
    split
    · next hlist => exact absurd hlist (hswitch _ _)
    · next hlist => exact absurd hlist (hswitch _ _)
    · next hlist => exact absurd hlist (hswitch _ _)
    · rfl
  have hsettle : Reading.settle { printing with pending := .valued (.switch .config) path } =
      printing.accept (.switch .config) path := rfl
  have hfinish : Reading.finish { printing with pending := .valued (.switch .config) path } =
      .ok (printingFrom path) := by
    rw [Reading.finish, hsettle, accept_config h]
    rfl
  show (Reading.start.read _ >>= _) >>= _ = _
  rw [read_printConfig]
  show (Reading.read { printing with pending := .waiting .config } path >>= _) >>= _ = _
  rw [hread]
  show (Reading.finish _).mapError _ = _
  rw [hfinish]
  rfl

/-! ### Printing again -/

section

variable [Url.DomainRule]

/-- What a command line prints that asks for the configuration. -/
theorem exists_of_plan_eq_print {e : Environment} {read : String → FileState}
    {arguments : List String} {a : Arguments} {output warning : String}
    (hparse : parse arguments = .ok a) (hplan : plan e read arguments = .print output warning) :
    ∃ c settings, Config.check e c = .ok settings ∧ output = c.print ++ "\n" := by
  rw [plan, hparse] at hplan
  simp only [Arguments.plan] at hplan
  split at hplan
  · exact nomatch hplan
  · next settings hcheck =>
      split at hplan
      · injection hplan with houtput
        exact ⟨_, settings, hcheck, houtput.symm⟩
      · exact nomatch hplan

/-- The file that was printed is printed again, whatever the environment. -/
theorem plan_printingFrom {c : Config} {e : Environment} {settings : Settings}
    (hcheck : c.check e = .ok settings) (e' : Environment) (path : String) :
    (printingFrom path).plan e' (.content (c.print ++ "\n").toUTF8) =
      .print (c.print ++ "\n") "" := by
  obtain ⟨settings', hcheck'⟩ := Config.exists_check_eq_ok hcheck e'
  have hconfigure : configure ((printingFrom path).configPath e')
      (.content (c.print ++ "\n").toUTF8) (printingFrom path).effective = (c, none) := by
    show configure path _ .none = _
    rw [configure, Config.load_print c path "\n" (by simp [isBlank])]
    simp
  rw [Arguments.plan, hconfigure]
  simp [hcheck', printingFrom]

theorem plan_of_parse {e : Environment} {read : String → FileState} {arguments : List String}
    {path : String} (h : parse arguments = .ok (printingFrom path)) :
    plan e read arguments = (printingFrom path).plan e (read path) := by
  rw [plan, h]
  rfl

/-- A printed configuration is loaded as itself, and what `--print-config` has printed into a file
it prints again from this file. -/
theorem print_reloads :
    (∀ (c : Config) (path : String), Config.load path (.content c.print.toUTF8) = .ok c) ∧
    ∀ (e : Environment) (read : String → FileState) (arguments : List String) (a : Arguments)
      (output warning : String), parse arguments = .ok a →
      plan e read arguments = .print output warning →
      ∀ (e' : Environment) (read' : String → FileState) (path : String), path ≠ "" →
        read' path = .content output.toUTF8 →
        plan e' read' ["--print-config", "--config=" ++ path] = .print output "" ∧
        ((∀ c rest, path.toList ≠ '-' :: c :: rest) →
          plan e' read' ["--print-config", "--config", path] = .print output "") := by
  refine ⟨?_, ?_⟩
  · intro c path
    simpa using Config.load_print c path "" (by simp)
  · intro e read arguments a output warning hparse hplan e' read' path hpath hfile
    obtain ⟨c, settings, hcheck, rfl⟩ := exists_of_plan_eq_print hparse hplan
    have hagain := plan_printingFrom hcheck e' path
    refine ⟨?_, fun hswitch => ?_⟩
    · rw [plan_of_parse (parse_attached hpath), hfile, hagain]
    · rw [plan_of_parse (parse_separate hpath hswitch), hfile, hagain]

end

/-- A log path with a quote and a line feed in it, printed without a configuration file. -/
theorem print_reloads_quoted :
    let c : Config := { Config.default with logFile? := some "a\"\n" }
    plan ⟨none, "/home"⟩ (fun _ => .content (c.print ++ "\n").toUTF8)
      ["--print-config", "--config", "saved.json"] = .print (c.print ++ "\n") "" := by
  intro c
  have hparse : parse ["--print-config", "--log-file", "a\"\n"] =
      .ok ⟨none, { Overrides.none with logFile? := some "a\"\n" }, none, true⟩ := rfl
  have hplan : plan ⟨none, ""⟩ (fun _ => .missing) ["--print-config", "--log-file", "a\"\n"] =
      .print (c.print ++ "\n") "" := by
    decide +kernel
  exact (print_reloads.2 ⟨none, ""⟩ (fun _ => .missing) _ _ _ "" hparse hplan ⟨none, "/home"⟩
    (fun _ => .content (c.print ++ "\n").toUTF8) "saved.json" (by decide) rfl).2 (by simp)

end CommandLine

end Telemetry
