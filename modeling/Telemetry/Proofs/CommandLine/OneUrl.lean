import Telemetry.CommandLine.Arguments

/-!
One URL.

The URL can be given as an argument of its own or behind a switch. Whatever is
taken over from the command line is also put on the list of the arguments given,
and reading any further argument keeps it there. A command line on whose list both
ways occur is refused in the end, so an accepted one says at most once what the URL
is.
-/

namespace Telemetry.CommandLine

variable {ε ε' α β : Type}

/-! ### Inversion -/

theorem exists_of_bind_eq_ok {x : Except ε α} {f : α → Except ε β} {b : β}
    (h : (x >>= f) = .ok b) : ∃ a, x = .ok a ∧ f a = .ok b := by
  cases x with
  | error e => exact nomatch h
  | ok a => exact ⟨a, rfl, h⟩

theorem eq_ok_of_mapError {x : Except ε α} {f : ε → ε'} {a : α} (h : x.mapError f = .ok a) :
    x = .ok a := by
  cases x with
  | error e => exact nomatch h
  | ok b => exact congrArg Except.ok (Except.ok.inj h)

/-! ### Taking over a value -/

theorem position?_set {x x' : Arguments} {a : Argument} {text : String}
    (h : x.set a text = .ok x') : x'.position? = x.position? ∨ a = .url := by
  cases a with
  | url => exact .inr rfl
  | switch s =>
      left
      cases s with
      | url | printConfig | help | version =>
          obtain rfl := Except.ok.inj h
          rfl
      | intervalMs | limit | timeoutMs | logFile | config =>
          obtain ⟨value, -, hvalue⟩ := exists_of_bind_eq_ok h
          obtain rfl := Except.ok.inj hvalue
          rfl

theorem url?_set {x x' : Arguments} {a : Argument} {text : String} (h : x.set a text = .ok x') :
    x'.overrides.url? = x.overrides.url? ∨ a = .switch .url := by
  cases a with
  | url =>
      obtain rfl := Except.ok.inj h
      exact .inl rfl
  | switch s =>
      cases s with
      | url => exact .inr rfl
      | printConfig | help | version =>
          obtain rfl := Except.ok.inj h
          exact .inl rfl
      | intervalMs | limit | timeoutMs | logFile | config =>
          obtain ⟨value, -, hvalue⟩ := exists_of_bind_eq_ok h
          obtain rfl := Except.ok.inj hvalue
          exact .inl rfl

/-! ### What reading preserves -/

namespace Reading

variable {r r' : Reading}

/-- A URL that has been taken over is on the list of what was given, by the way it came. -/
structure Lists (r : Reading) : Prop where
  position : r.arguments.position? ≠ none → .url ∈ r.given
  switch : r.arguments.overrides.url? ≠ none → .switch .url ∈ r.given

theorem lists_start : start.Lists := ⟨fun h => absurd rfl h, fun h => absurd rfl h⟩

/-- Only the arguments taken over and the list matter. -/
theorem Lists.of_eq (h : r.Lists) (harguments : r'.arguments = r.arguments)
    (hgiven : r'.given = r.given) : r'.Lists := by
  obtain ⟨hposition, hswitch⟩ := h
  exact ⟨by rwa [harguments, hgiven], by rwa [harguments, hgiven]⟩

theorem Lists.accept (h : r.Lists) {a : Argument} {value : String}
    (hok : r.accept a value = .ok r') : r'.Lists := by
  rw [Reading.accept] at hok
  split at hok
  · exact nomatch hok
  obtain ⟨arguments, hset, hok⟩ := exists_of_bind_eq_ok hok
  obtain rfl := Except.ok.inj hok
  refine ⟨fun hsome => ?_, fun hsome => ?_⟩
  · obtain hsame | rfl := position?_set hset
    · exact List.mem_append_left _ (h.position (hsame ▸ hsome))
    · exact List.mem_append_right _ (List.mem_singleton_self _)
  · obtain hsame | rfl := url?_set hset
    · exact List.mem_append_left _ (h.switch (hsame ▸ hsome))
    · exact List.mem_append_right _ (List.mem_singleton_self _)

theorem Lists.settle (h : r.Lists) (hok : r.settle = .ok r') : r'.Lists := by
  rw [Reading.settle] at hok
  split at hok
  · exact Except.ok.inj hok ▸ h
  · exact nomatch hok
  · have hlists : Lists { r with pending := .none } := h.of_eq rfl rfl
    exact hlists.accept hok

theorem Lists.readSwitch (h : r.Lists) {s : Switch} {value? : Option String}
    (hok : r.readSwitch s value? = .ok r') : r'.Lists := by
  unfold Reading.readSwitch at hok
  split at hok
  · obtain ⟨u, hsettle, hok⟩ := exists_of_bind_eq_ok hok
    exact (h.settle (eq_ok_of_mapError hsettle)).accept (eq_ok_of_mapError hok)
  · obtain ⟨u, hsettle, hok⟩ := exists_of_bind_eq_ok hok
    obtain rfl := Except.ok.inj hok
    exact (h.settle (eq_ok_of_mapError hsettle)).of_eq rfl rfl
  · exact nomatch hok
  · obtain ⟨u, hsettle, hok⟩ := exists_of_bind_eq_ok hok
    split at hok
    · exact nomatch hok
    · exact nomatch hok
    · exact (h.settle (eq_ok_of_mapError hsettle)).accept (eq_ok_of_mapError hok)

theorem Lists.readValue (h : r.Lists) {text : String} (hok : r.readValue text = .ok r') :
    r'.Lists := by
  rw [Reading.readValue] at hok
  split at hok
  · obtain rfl := Except.ok.inj hok
    exact h.of_eq rfl rfl
  split at hok
  · exact nomatch hok
  · obtain ⟨u, hsettle, hok⟩ := exists_of_bind_eq_ok hok
    obtain rfl := Except.ok.inj hok
    exact (h.settle (eq_ok_of_mapError hsettle)).of_eq rfl rfl

/-- Reading one argument. -/
theorem Lists.read (h : r.Lists) {argument : String} (hok : r.read argument = .ok r') :
    r'.Lists := by
  rw [Reading.read] at hok
  split at hok
  · exact h.readValue hok
  split at hok
  · obtain rfl := Except.ok.inj hok
    exact h.of_eq rfl rfl
  · split at hok
    split at hok
    · exact h.readSwitch hok
    · exact nomatch hok
  · split at hok
    · exact h.readSwitch hok
    · exact nomatch hok
  · exact h.readValue hok

/-- Reading one argument after the other. -/
theorem Lists.foldlM_read {arguments : List String} (h : r.Lists)
    (hok : arguments.foldlM Reading.read r = .ok r') : r'.Lists := by
  induction arguments generalizing r with
  | nil => exact Except.ok.inj hok ▸ h
  | cons argument arguments ih =>
      rw [List.foldlM_cons] at hok
      obtain ⟨u, hread, hok⟩ := exists_of_bind_eq_ok hok
      exact ih (h.read hread) hok

/-- Two ways of giving the URL are one too many. -/
theorem not_both_of_conflict? (h : r.conflict? = none) : .url ∉ r.given ∨ .switch .url ∉ r.given := by
  apply Decidable.byContradiction
  intro hboth
  rw [not_or, Decidable.not_not, Decidable.not_not] at hboth
  have hurl : Argument.url ∈ r.given.filter fun a => a = .url || a = .switch .url := by
    simp [hboth.1]
  have hswitch : Argument.switch .url ∈ r.given.filter fun a => a = .url || a = .switch .url := by
    simp [hboth.2]
  rw [conflict?] at h
  split at h
  · exact nomatch h
  · next hshort =>
      match hgiven : r.given.filter fun a => a = .url || a = .switch .url with
      | [] => simp [hgiven] at hurl
      | [a] =>
          rw [hgiven, List.mem_singleton] at hurl hswitch
          exact absurd (hurl.trans hswitch.symm) (by decide)
      | a :: b :: rest => exact hshort a b rest hgiven

end Reading

/-- An accepted command line gives the URL in one way at most. -/
theorem url_once_of_parse {arguments : List String} {a : Arguments}
    (h : parse arguments = .ok a) : a.position? = none ∨ a.overrides.url? = none := by
  rw [parse] at h
  obtain ⟨r, hread, hfinish⟩ := exists_of_bind_eq_ok h
  have hfinish := eq_ok_of_mapError hfinish
  rw [Reading.finish] at hfinish
  obtain ⟨r', hsettle, hfinish⟩ := exists_of_bind_eq_ok hfinish
  have hlists : r'.Lists := (Reading.lists_start.foldlM_read hread).settle hsettle
  split at hfinish
  · exact nomatch hfinish
  next hconflict =>
  obtain rfl := Except.ok.inj hfinish
  obtain hurl | hswitch := Reading.not_both_of_conflict? hconflict
  · exact .inl (Decidable.byContradiction fun hne => hurl (hlists.position hne))
  · exact .inr (Decidable.byContradiction fun hne => hswitch (hlists.switch hne))

end Telemetry.CommandLine
