import Telemetry.Proofs.Text.Split
import Telemetry.Proofs.Url.Escapes
import Telemetry.Url.Reference

/-!
Paths that are read back as themselves.

Reading a path resolves the segments that lead here or up and escapes what has to
be escaped. What is left is *settled*: reading it again changes nothing
(`rootPath_text`), wherever it is read from (`followText_of_text`). Hence a settled
path is known by its text, and putting a slash behind its text is the same as
making it a directory (`rootPath_directoryText`).
-/

namespace Telemetry.Url

/-- A segment that is read back as itself. -/
structure IsSettled (name : String) : Prop where
  whole : ∀ c ∈ name.toList, isSlash true c = false
  escaped : percentEncode escapedInPath name.toList = name.toList
  notHere : isHere name.toList = false
  notParent : isParent name.toList = false

-- the characters are those of the name: a bounded quantifier would be decided over all there are
theorem isSettled_iff {name : String} :
    IsSettled name ↔ name.toList.all (!isSlash true ·) = true ∧
      percentEncode escapedInPath name.toList = name.toList ∧
      isHere name.toList = false ∧ isParent name.toList = false := by
  rw [List.all_eq_true]
  constructor
  · intro h
    exact ⟨fun c hc => by rw [h.whole c hc]; rfl, h.escaped, h.notHere, h.notParent⟩
  · rintro ⟨hwhole, hescaped, hhere, hparent⟩
    exact ⟨fun c hc => by simpa using hwhole c hc, hescaped, hhere, hparent⟩

instance (name : String) : Decidable (IsSettled name) := decidable_of_iff _ isSettled_iff.symm

theorem isSettled_empty : IsSettled "" := by decide

theorem isSettled_concat {place : List String} {last : String}
    (hplace : ∀ name ∈ place, IsSettled name) (hlast : IsSettled last) :
    ∀ name ∈ place ++ [last], IsSettled name :=
  List.forall_mem_append.mpr ⟨hplace, List.forall_mem_singleton.mpr hlast⟩

/-! ### Following segments -/

/-- A segment settles where it is appended. -/
theorem isSettled_escapeSegment {segment : List Char}
    (hwhole : ∀ c ∈ segment, isSlash true c = false) (hhere : ¬isHere segment = true)
    (hparent : ¬isParent segment = true) : IsSettled (escapeSegment segment) where
  whole := by
    rw [escapeSegment, String.toList_ofList]
    exact forall_mem_percentEncode (fun b c hc => (percentByte_plain b c hc).2)
      fun c hc _ => hwhole c hc
  escaped := by rw [escapeSegment, String.toList_ofList, percentEncode_percentEncode]
  notHere := by
    rw [escapeSegment, String.toList_ofList]
    exact Bool.eq_false_iff.mpr fun h => hhere (isHere_of_percentEncode h)
  notParent := by
    rw [escapeSegment, String.toList_ofList]
    exact Bool.eq_false_iff.mpr fun h => hparent (isParent_of_percentEncode h)

theorem segmentText_eq_escapeSegment (place : List String) (segment : List Char) :
    segmentText false place segment = escapeSegment segment := by
  unfold segmentText
  split <;> rfl

theorem mem_of_mem_parentOf {place : List String} {name : String} (h : name ∈ parentOf place) :
    name ∈ place := by
  rw [parentOf] at h
  split at h
  · split at h
    · exact h
    · exact List.dropLast_subset place h
  · exact nomatch h

/-- Segments lead from a settled place to a settled place. -/
theorem isSettled_of_mem_follow {place : List String} {segments : List (List Char)}
    (hplace : ∀ name ∈ place, IsSettled name)
    (hsegments : ∀ segment ∈ segments, ∀ c ∈ segment, isSlash true c = false) :
    ∀ name ∈ follow false place segments, IsSettled name := by
  have hparent {place : List String} (hplace : ∀ name ∈ place, IsSettled name) :
      ∀ name ∈ parentOf place, IsSettled name := fun name hname =>
    hplace name (mem_of_mem_parentOf hname)
  induction segments generalizing place with
  | nil => exact hplace
  | cons segment segments ih =>
      have hwhole := hsegments segment List.mem_cons_self
      have hrest : ∀ s ∈ segments, ∀ c ∈ s, isSlash true c = false := fun s hs =>
        hsegments s (List.mem_cons_of_mem segment hs)
      cases segments with
      | nil =>
          unfold follow
          split
          · exact isSettled_concat hplace isSettled_empty
          · next hhere =>
              split
              · exact isSettled_concat (hparent hplace) isSettled_empty
              · next hup =>
                  rw [segmentText_eq_escapeSegment]
                  exact isSettled_concat hplace (isSettled_escapeSegment hwhole hhere hup)
      | cons next segments =>
          unfold follow
          split
          · exact ih hplace hrest
          · next hhere =>
              split
              · exact ih (hparent hplace) hrest
              · next hup =>
                  have hsegment := isSettled_escapeSegment hwhole hhere hup
                  rw [segmentText_eq_escapeSegment]
                  exact ih (isSettled_concat hplace hsegment) hrest

/-- Settled segments lead to themselves. -/
theorem follow_settled (place : List String) {names : List String}
    (h : ∀ name ∈ names, IsSettled name) :
    follow false place (names.map String.toList) = place ++ names := by
  induction names generalizing place with
  | nil => rw [List.map_nil, follow, List.append_nil]
  | cons name names ih =>
      have hname : IsSettled name := h name List.mem_cons_self
      have htext : segmentText false place name.toList = name := by
        rw [segmentText_eq_escapeSegment, escapeSegment, hname.escaped, String.ofList_toList]
      cases names with
      | nil => simp [follow, hname.notHere, hname.notParent, htext]
      | cons next names =>
          have hrest := ih (place ++ [name]) fun n hn => h n (List.mem_cons_of_mem name hn)
          rw [List.append_assoc, List.singleton_append] at hrest
          simpa [follow, hname.notHere, hname.notParent, htext] using hrest

/-! ### Texts of paths -/

theorem Path.toList_text (names : List String) :
    (Path.segments names).text.toList = (names.map String.toList).flatMap ('/' :: ·) := by
  rw [Path.text, String.toList_join, List.flatMap_map, List.flatMap_map]
  simp

theorem Path.text_append (place names : List String) :
    (Path.segments (place ++ names)).text =
      (Path.segments place).text ++ (Path.segments names).text := by
  rw [← String.toList_inj, String.toList_append, toList_text, toList_text, toList_text,
    List.map_append, List.flatMap_append]

/-- Settled segments are found again in their text, from wherever it is followed. -/
theorem followText_of_text (place : List String) {names : List String} {cs : List Char}
    (h : ∀ name ∈ names, IsSettled name)
    (hcs : (Path.segments names).text.toList = '/' :: cs) :
    followText true false place cs = place ++ names := by
  cases names with
  | nil => exact nomatch hcs
  | cons name names =>
      rw [Path.toList_text, List.map_cons, List.flatMap_cons, List.cons_append,
        List.cons.injEq] at hcs
      have hwhole : ∀ n ∈ name :: names, ∀ c ∈ n.toList, isSlash true c = false := fun n hn =>
        (h n hn).whole
      have hsplit : Text.splitOn (isSlash true) cs = (name :: names).map String.toList := by
        rw [← hcs.2, Text.splitOn_append_flatMap rfl _ (hwhole name List.mem_cons_self)]
        · rfl
        · intro part hpart
          obtain ⟨n, hn, rfl⟩ := List.mem_map.mp hpart
          exact hwhole n (List.mem_cons_of_mem name hn)
      rw [followText, hsplit, follow_settled place h]

/-! ### Whole paths -/

/-- A path that is read back as itself. -/
def Path.IsSettled (p : Path) : Prop :=
  ∃ place last, p = .segments (place ++ [last]) ∧ ∀ name ∈ place ++ [last], Url.IsSettled name

theorem isSettled_rootPath (cs : List Char) : (rootPath true cs).IsSettled := by
  have hsegments (names : List String) (hne : names ≠ []) (h : ∀ name ∈ names, IsSettled name) :
      (Path.segments names).IsSettled := by
    refine ⟨names.dropLast, names.getLast hne, ?_⟩
    rw [List.dropLast_concat_getLast]
    exact ⟨rfl, h⟩
  cases cs with
  | nil => exact hsegments [""] (by simp) (List.forall_mem_singleton.mpr isSettled_empty)
  | cons c cs =>
      refine hsegments _ (followText_ne_nil _ _ _ _) (isSettled_of_mem_follow (by simp) ?_)
      exact fun part hpart c hc => Text.separator_of_mem_splitOn hpart hc

/-- **A settled path is read back as itself.** -/
theorem rootPath_text {p : Path} (h : p.IsSettled) : rootPath true p.text.toList = p := by
  obtain ⟨place, last, rfl, hsettled⟩ := h
  obtain ⟨cs, hcs⟩ : ∃ cs, (Path.segments (place ++ [last])).text.toList = '/' :: cs := by
    rw [Path.toList_text]
    cases place <;> exact ⟨_, rfl⟩
  rw [hcs]
  exact congrArg Path.segments (followText_of_text [] hsettled hcs)

/-- Settled paths are told apart by their texts. -/
theorem Path.IsSettled.eq_of_text {p q : Path} (hp : p.IsSettled) (hq : q.IsSettled)
    (h : p.text = q.text) : p = q := by
  rw [← rootPath_text hp, h, rootPath_text hq]

/-! ### Directories -/

/-- The text of a path with a slash at its end, one being added only if there is none. -/
def Path.directoryText (p : Path) : String :=
  if p.text.toList.getLast? = some '/' then p.text else p.text ++ "/"

/-- The text of a path ends in a slash if and only if its last segment is empty. -/
theorem getLast?_text_iff {place : List String} {last : String} (hlast : IsSettled last) :
    (Path.segments (place ++ [last])).text.toList.getLast? = some '/' ↔ last = "" := by
  rw [Path.text_append, String.toList_append, List.getLast?_append,
    show (Path.segments [last]).text.toList = '/' :: last.toList by simp [Path.toList_text],
    List.getLast?_cons, Option.some_or]
  cases hend : last.toList.getLast? with
  | none => simpa using hend
  | some c =>
      have hc : c ∈ last.toList := List.mem_of_getLast? hend
      have hslash : isSlash true c = false := hlast.whole c hc
      refine iff_of_false ?_ ?_
      · rintro ⟨⟩
        exact absurd hslash (by decide)
      · rintro rfl
        exact nomatch hc

/-- The directory of a path has the same segments but for an empty one at the end, and its text is
that of the path with a slash. -/
theorem Path.IsSettled.exists_asDirectory {p : Path} (h : p.IsSettled) :
    ∃ place, p.asDirectory = .segments (place ++ [""]) ∧
      (∀ name ∈ place, Url.IsSettled name) ∧ p.asDirectory.text = p.directoryText := by
  obtain ⟨place, last, rfl, hsettled⟩ := h
  have hlast : Url.IsSettled last := hsettled last (by simp)
  rw [Path.asDirectory, List.getLast?_concat, Path.directoryText]
  by_cases hempty : last = ""
  · rw [if_pos (congrArg some hempty), if_pos ((getLast?_text_iff hlast).mpr hempty)]
    exact ⟨place, by rw [hempty], fun name hname => hsettled name (by simp [hname]), rfl⟩
  · rw [if_neg (by simpa using hempty), if_neg fun h => hempty ((getLast?_text_iff hlast).mp h)]
    exact ⟨place ++ [last], rfl, hsettled, Path.text_append _ [""]⟩

theorem Path.IsSettled.asDirectory {p : Path} (h : p.IsSettled) :
    p.asDirectory.IsSettled := by
  obtain ⟨place, hplace, hsettled, -⟩ := h.exists_asDirectory
  exact ⟨place, "", hplace, isSettled_concat hsettled isSettled_empty⟩

/-- Reading the text of a path again with a slash behind it makes it a directory. -/
theorem rootPath_directoryText {p : Path} (h : p.IsSettled) :
    rootPath true p.directoryText.toList = p.asDirectory := by
  obtain ⟨place, -, -, htext⟩ := h.exists_asDirectory
  rw [← htext, rootPath_text h.asDirectory]

/-- A path with the text of a directory leads where the directory does. -/
theorem Path.IsSettled.asDirectory_eq_of_text {p q : Path} (hp : p.IsSettled) (hq : q.IsSettled)
    (h : q.text = p.directoryText) : q.asDirectory = p.asDirectory := by
  obtain ⟨place, hplace, -, htext⟩ := hp.exists_asDirectory
  have heq : q = p.asDirectory := hq.eq_of_text hp.asDirectory (h.trans htext.symm)
  rw [heq, hplace, Path.asDirectory_segments_append]

end Telemetry.Url
