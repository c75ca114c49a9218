import Telemetry.Url.Segments

/-!
Escapes in the segments of a path.

What an escape is written with is never escaped itself, nor does it separate
segments, so that escaping a second time changes nothing. And since no dot is ever
escaped, no escape is read as one: a segment that leads here or up once it is
escaped did so before.
-/

namespace Telemetry.Url

/-- What holds of the characters of every escape and of every character that is left as it is holds
of all characters of an escaped text. -/
theorem forall_mem_percentEncode {escaped : Char → Bool} {P : Char → Prop} {cs : List Char}
    (hbyte : ∀ b, ∀ c ∈ percentByte b, P c) (hplain : ∀ c ∈ cs, escaped c = false → P c) :
    ∀ c ∈ percentEncode escaped cs, P c := by
  intro c hc
  obtain ⟨d, hd, hc⟩ := List.mem_flatMap.mp hc
  split at hc
  · obtain ⟨b, -, hc⟩ := List.mem_flatMap.mp hc
    exact hbyte b c hc
  · next hescaped =>
      obtain rfl := List.mem_singleton.mp hc
      exact hplain c hd (Bool.eq_false_iff.mpr hescaped)

theorem percentByte_plain (b : UInt8) :
    ∀ c ∈ percentByte b, escapedInPath c = false ∧ isSlash true c = false := by
  have hdigit : ∀ n < 16, escapedInPath (Nat.digitChar n).toUpper = false ∧
      isSlash true (Nat.digitChar n).toUpper = false := by decide
  have hb : b.toNat < 256 := b.toNat_lt
  intro c hc
  simp only [percentByte, List.mem_cons, List.not_mem_nil, or_false] at hc
  rcases hc with rfl | rfl | rfl
  · decide
  · exact hdigit _ (by omega)
  · exact hdigit _ (by omega)

/-- An escaped segment is not escaped again. -/
theorem percentEncode_percentEncode (cs : List Char) :
    percentEncode escapedInPath (percentEncode escapedInPath cs) =
      percentEncode escapedInPath cs :=
  percentEncode_of_forall <|
    forall_mem_percentEncode (fun b c hc => (percentByte_plain b c hc).1) fun _ _ hc => hc

/-! ### Dots -/

/-- An escape does not begin within another one. -/
theorem plainDots_append_percent (cs rest : List Char) :
    plainDots (cs ++ '%' :: rest) = plainDots cs ++ plainDots ('%' :: rest) := by
  fun_induction plainDots cs with
  | case1 cs ih => simp [plainDots, ih]
  | case2 cs ih => simp [plainDots, ih]
  | case3 c cs hlower hupper ih =>
      rw [List.cons_append, List.cons_append, ← ih]
      -- a dot that reached into the second text would have the percent sign within it
      rw [plainDots]
      · intro dropped hc hcs
        rcases cs with _ | ⟨d, _ | ⟨e, cs⟩⟩ <;> simp_all
      · intro dropped hc hcs
        rcases cs with _ | ⟨d, _ | ⟨e, cs⟩⟩ <;> simp_all
  | case4 => rfl

/-- The first byte of a character is that of a dot for the dot only. -/
theorem exists_utf8EncodeChar_eq_cons {c : Char} (hc : c ≠ '.') :
    ∃ b bytes, String.utf8EncodeChar c = b :: bytes ∧ b ≠ 0x2e := by
  have hne (n : Nat) (hn : n % 256 ≠ 46) : UInt8.ofNat n ≠ 0x2e := fun h =>
    hn (by simpa using congrArg UInt8.toNat h)
  have hval : c.val.toNat ≠ 46 := fun h => hc (Char.toNat_inj.mp h)
  unfold String.utf8EncodeChar
  dsimp only
  split
  · exact ⟨_, _, rfl, hne _ (by omega)⟩
  · split
    · exact ⟨_, _, rfl, hne _ (by omega)⟩
    · split <;> exact ⟨_, _, rfl, hne _ (by omega)⟩

/-- Only the escape of a dot is read as one. -/
theorem percent_mem_plainDots {b : UInt8} (hb : b ≠ 0x2e) (rest : List Char) :
    '%' ∈ plainDots (percentByte b ++ rest) := by
  have hhigh : ∀ n < 16, (Nat.digitChar n).toUpper = '2' → n = 2 := by decide
  have hlow : ∀ n < 16, (Nat.digitChar n).toUpper ≠ 'e' ∧
      ((Nat.digitChar n).toUpper = 'E' → n = 14) := by decide
  have hlt : b.toNat < 256 := b.toNat_lt
  have hval : b.toNat ≠ 46 := fun h => hb (UInt8.toNat_inj.mp h)
  rw [percentByte, List.cons_append, plainDots]
  · exact List.mem_cons_self
  · intro cs _ hcs
    exact (hlow (b.toNat % 16) (by omega)).1 (by simp_all)
  · intro cs _ hcs
    have := hhigh (b.toNat / 16) (by omega) (by simp_all)
    have := (hlow (b.toNat % 16) (by omega)).2 (by simp_all)
    omega

/-- A segment that has nothing but dots once it is escaped needed no escapes. -/
theorem percentEncode_eq_self_of_plainDots {cs : List Char}
    (h : '%' ∉ plainDots (percentEncode escapedInPath cs)) :
    percentEncode escapedInPath cs = cs := by
  refine percentEncode_of_forall fun c hc => Bool.eq_false_iff.mpr fun hescaped => h ?_
  have hdot : c ≠ '.' := by
    rintro rfl
    exact absurd hescaped (by decide)
  obtain ⟨before, after, rfl⟩ := List.append_of_mem hc
  obtain ⟨b, bytes, hbytes, hb⟩ := exists_utf8EncodeChar_eq_cons hdot
  have hencode : percentEncode escapedInPath (before ++ c :: after) =
      percentEncode escapedInPath before ++
        (percentByte b ++ (bytes.flatMap percentByte ++ percentEncode escapedInPath after)) := by
    simp [percentEncode, hescaped, hbytes]
  have hpercent := percent_mem_plainDots hb
    (bytes.flatMap percentByte ++ percentEncode escapedInPath after)
  rw [percentByte, List.cons_append] at hpercent
  rw [hencode, percentByte, List.cons_append, plainDots_append_percent]
  exact List.mem_append_right _ hpercent

theorem isHere_of_percentEncode {cs : List Char}
    (h : isHere (percentEncode escapedInPath cs) = true) : isHere cs = true := by
  have hdots : plainDots (percentEncode escapedInPath cs) = ['.'] := by simpa [isHere] using h
  rwa [percentEncode_eq_self_of_plainDots (by simp [hdots])] at h

theorem isParent_of_percentEncode {cs : List Char}
    (h : isParent (percentEncode escapedInPath cs) = true) : isParent cs = true := by
  have hdots : plainDots (percentEncode escapedInPath cs) = ['.', '.'] := by
    simpa [isParent] using h
  rwa [percentEncode_eq_self_of_plainDots (by simp [hdots])] at h

end Telemetry.Url
