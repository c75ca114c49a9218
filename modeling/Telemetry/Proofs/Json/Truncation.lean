import Mathlib.Data.List.DropRight
import Telemetry.Backend.Fetch
import Telemetry.Proofs.Json.Bracketed
import Telemetry.Proofs.Json.Schema
import Telemetry.Proofs.Settings.Reload
import Telemetry.Proofs.Text.Lossy

/-!
Bodies and configurations that were cut off.

Everything that is decoded is a record, and a record is read the same whatever
follows it. So if what is left of an accepted text were accepted too, the record
would end where the rest begins, and nothing but blanks could have been lost.

A body that was cut inside a character ends with the replacement character, and a
configuration file that was is not UTF-8. Neither is accepted.
-/

namespace Telemetry

open Json

namespace Json

variable {α : Type} {read : Reader α} {text cut : String} {a b : α} {more : List Char}

/-! ### Whole texts -/

/-- A text is accepted if blanks are all that a reader leaves of it. -/
theorem decode_eq_ok_iff_outcome :
    decode read text = .ok a ↔ ∃ r, outcome (read text.toList) = some (a, r) ∧ skipBlanks r = [] := by
  rw [decode]
  rcases read text.toList with fault | ⟨b, r⟩
  · simp [bind, Except.bind, mapError_error]
  · simp only [bind, Except.bind, outcome_ok]
    cases hr : skipBlanks r.1 with
    | nil => simp [hr, pure, Except.pure, mapError_ok]
    | cons c rest => simp [hr, throw, throwThe, MonadExceptOf.throw, mapError_error]

theorem forall_isBlank {s : List Char} (h : skipBlanks s = []) : ∀ c ∈ s, isBlank c :=
  List.dropWhile_eq_nil_iff.1 h

/-- A text that ends with a closing bracket, apart from blanks. -/
def EndsWithBracket (s : List Char) : Prop :=
  ∃ front b, (b = ']' ∨ b = '}') ∧ s.rdropWhile isBlank = front ++ [b]

theorem rdropWhile_blanks (s : List Char) {blanks : List Char} (h : ∀ c ∈ blanks, isBlank c) :
    (s ++ blanks).rdropWhile isBlank = s.rdropWhile isBlank := by
  rw [List.rdropWhile, List.reverse_append,
    List.dropWhile_append_of_pos fun c hc => h c (List.mem_reverse.1 hc), List.rdropWhile]

theorem Reader.Bracketed.endsWithBracket (h : read.Bracketed) (ha : decode read text = .ok a) :
    EndsWithBracket text.toList := by
  obtain ⟨r, hread, hr⟩ := decode_eq_ok_iff_outcome.1 ha
  obtain ⟨⟨b, hb, front, hfront⟩, -⟩ := h a hread
  have hblank : isBlank b = false := by rcases hb with rfl | rfl <;> rfl
  have hsplit : text.toList = (front ++ [b]) ++ r := by rw [← hfront]; simp
  refine ⟨front, b, hb, ?_⟩
  rw [hsplit, rdropWhile_blanks _ (forall_isBlank hr), List.rdropWhile_concat,
    if_neg (by simp [hblank])]

/-- If what is left of an accepted text is accepted, then only blanks were lost. -/
theorem Reader.Bracketed.blank_of_decode (h : read.Bracketed) (hcut : decode read cut = .ok a)
    (htext : decode read text = .ok b) (hmore : text.toList = cut.toList ++ more) :
    ∀ c ∈ more, isBlank c := by
  obtain ⟨r, hread, -⟩ := decode_eq_ok_iff_outcome.1 hcut
  obtain ⟨r', hread', hr'⟩ := decode_eq_ok_iff_outcome.1 htext
  have hextended : outcome (read text.toList) = some (a, r ++ more) := by
    rw [hmore]
    exact (h a hread).2 more
  obtain rfl : r ++ more = r' := (Prod.mk.inj (Option.some.inj (hextended.symm.trans hread'))).2
  exact fun c hc => forall_isBlank hr' c (List.mem_append_right r hc)

theorem Reader.Bracketed.exists_error (h : read.Bracketed) (htext : decode read text = .ok a)
    (hmore : text.toList = cut.toList ++ more) (hlost : ¬ ∀ c ∈ more, isBlank c) :
    ∃ e, decode read cut = .error e := by
  cases hcut : decode read cut with
  | error e => exact ⟨e, rfl⟩
  | ok b => exact absurd (h.blank_of_decode hcut htext hmore) hlost

/-- What is left of a text that stops before the last character that is not blank. -/
def IsCut (cut text : String) : Prop :=
  cut.toList <+: text.toList.rdropWhile isBlank ∧ cut.toList ≠ text.toList.rdropWhile isBlank

theorem IsCut.exists_lost (h : IsCut cut text) :
    ∃ more, text.toList = cut.toList ++ more ∧ ¬ ∀ c ∈ more, isBlank c := by
  obtain ⟨hbegins, hne⟩ := h
  obtain ⟨more, hmore⟩ := hbegins.trans (List.rdropWhile_prefix isBlank text.toList)
  refine ⟨more, hmore.symm, fun hblank => ?_⟩
  -- were only blanks lost, nothing would be missing before the blanks at the end
  have hsame : text.toList.rdropWhile isBlank = cut.toList.rdropWhile isBlank := by
    rw [← hmore, rdropWhile_blanks _ hblank]
  have hback : text.toList.rdropWhile isBlank <+: cut.toList :=
    hsame ▸ List.rdropWhile_prefix isBlank cut.toList
  exact hne (hbegins.eq_of_length_le hback.length_le)

/-! ### Fields -/

theorem delimited_optional_unsigned64 (name : String) :
    (Reader.optional (.unsigned64 name)).Delimited := by
  refine (delimited_unsigned64 name).optional fun s hs => ?_
  rw [Reader.unsigned64, outcome_readerMap]
  exact congrArg (Option.map _) (outcome_withFirst_blank hs)

theorem delimited_optional_text (wanted : String) :
    (Reader.optional (.text wanted)).Delimited :=
  (delimited_text wanted).optional fun _ hs => outcome_withFirst_blank hs

end Json

/-! ### Responses and the configuration -/

theorem MetricSample.bracketed_reader : MetricSample.reader.Bracketed := by
  refine (bracketed_record ?_ _).map _
  simp [fields, Field.required, delimited_text, delimited_real]

theorem Connection.bracketed_reader : Connection.reader.Bracketed := by
  refine (bracketed_record ?_ _).map _
  simp [fields, Field.required, delimited_text, delimited_signed64, delimited_unsigned64]

theorem HostTraffic.bracketed_reader : HostTraffic.reader.Bracketed := by
  refine (bracketed_record ?_ _).map _
  simp [fields, Field.required, delimited_text, delimited_unsigned64]

theorem SystemInfo.bracketed_reader : SystemInfo.reader.Bracketed := by
  refine (bracketed_record ?_ _).map _
  simp [fields, Field.required, delimited_text, delimited_unsigned32, delimited_real]

theorem Json.Reader.Bracketed.envelope {α : Type} {read : Reader α} (h : read.Bracketed)
    (record field : String) : (Reader.envelope record field read).Bracketed := by
  refine (bracketed_record ?_ _).map _
  simp [Field.withDefault, h.delimited.list]

theorem Source.bracketed_reader (source : Source) : source.reader.Bracketed := by
  cases source with
  | metrics => exact (MetricSample.bracketed_reader.envelope _ _).map _
  | connections => exact (Connection.bracketed_reader.envelope _ _).map _
  | hosts => exact (HostTraffic.bracketed_reader.envelope _ _).map _
  | systemInfo => exact SystemInfo.bracketed_reader.map _

theorem Config.bracketed_reader : Config.reader.Bracketed := by
  refine (bracketed_record ?_ _).map _
  simp [fields, Field.withDefault, delimited_text, delimited_unsigned64,
    delimited_optional_unsigned64, delimited_optional_text]

/-! ### Bytes -/

/-- A byte that is a closing bracket. -/
def IsCloser (b : UInt8) : Prop := b = 0x5d ∨ b = 0x7d

instance : DecidablePred IsCloser := fun b => inferInstanceAs (Decidable (b = 0x5d ∨ b = 0x7d))

theorem Json.not_endsWithBracket_replacement (front : List Char) :
    ¬ EndsWithBracket (front ++ [Text.replacement]) := by
  rintro ⟨front', b, hb, heq⟩
  rw [List.rdropWhile_concat, if_neg (by decide)] at heq
  have hlast := (List.append_inj' heq rfl).2
  rcases hb with rfl | rfl <;> exact absurd hlast (by decide)

/-- A body that has lost its last bracket is refused, even if it was cut inside a character. -/
theorem Backend.decodeBody_cut {source : Source} {snapshot : Snapshot} {cut more : List UInt8}
    (h : decodeBody source (cut ++ more) = .ok snapshot) (hmore : ∃ b ∈ more, IsCloser b) :
    ∃ e, decodeBody source cut = .error e := by
  obtain hwhole | ⟨front, hfront⟩ := Text.decodeLossy_append cut more
  · obtain ⟨b, hb, hcloser⟩ := hmore
    have hascii : b < 0x80 := by rcases hcloser with rfl | rfl <;> decide
    have hblank : ¬ isBlank (Char.ofNat b.toNat) := by rcases hcloser with rfl | rfl <;> decide
    have hlost : ¬ ∀ c ∈ Text.decodeLossy more, isBlank c := fun hall =>
      hblank (hall _ (Text.mem_decodeLossy hascii hb))
    refine source.bracketed_reader.exists_error h ?_ hlost
    rw [String.toList_ofList, String.toList_ofList, hwhole]
  · cases hcut : decodeBody source cut with
    | error e => exact ⟨e, rfl⟩
    | ok snapshot' =>
        have hends := source.bracketed_reader.endsWithBracket hcut
        rw [String.toList_ofList, hfront] at hends
        exact absurd hends (not_endsWithBracket_replacement front)

theorem Json.not_isCloser_of_blank {s : List Char} (h : ∀ c ∈ s, isBlank c) :
    ∀ b ∈ s.utf8Encode.data, ¬ IsCloser b := by
  induction s with
  | nil => simp
  | cons c s ih =>
      obtain ⟨hc, hs⟩ := List.forall_mem_cons.1 h
      simp only [isBlank, Bool.or_eq_true, decide_eq_true_eq] at hc
      have hsize : c.utf8Size = 1 := by rcases hc with ((rfl | rfl) | rfl) | rfl <;> rfl
      have hbyte : ¬ IsCloser c.val.toUInt8 := by
        rcases hc with ((rfl | rfl) | rfl) | rfl <;> decide
      intro b hb
      rw [List.utf8Encode_cons, ByteArray.data_append, Array.mem_append, List.utf8Encode_singleton,
        String.utf8EncodeChar_eq_singleton hsize] at hb
      rcases hb with hb | hb
      · obtain rfl : b = c.val.toUInt8 := by simpa using hb
        exact hbyte
      · exact ih hs b hb

theorem toUTF8_of_fromUTF8? {bytes : ByteArray} {text : String}
    (h : String.fromUTF8? bytes = some text) : text.toList.utf8Encode = bytes := by
  rw [String.fromUTF8?] at h
  split at h
  · obtain rfl := Option.some.inj h
    exact String.utf8Encode_toList
  · cases h

/-- A configuration file that has lost its last bracket contributes nothing. -/
theorem Config.load_cut {path : String} {config : Config} {cut more : ByteArray}
    (h : load path (.content (cut ++ more)) = .ok config) (hmore : ∃ b ∈ more.data, IsCloser b) :
    ∃ e, load path (.content cut) = .error e := by
  obtain ⟨b, hb, hcloser⟩ := hmore
  rw [load] at h ⊢
  cases hleft : String.fromUTF8? cut with
  | none => exact ⟨_, rfl⟩
  | some left =>
  cases htext : String.fromUTF8? (cut ++ more) with
  | none =>
      rw [htext] at h
      cases h
  | some text =>
      simp only [htext] at h
      have hbytes : left.toList.utf8Encode ++ more = text.toList.utf8Encode := by
        rw [toUTF8_of_fromUTF8? hleft, toUTF8_of_fromUTF8? htext]
      obtain ⟨lost, hlost⟩ := List.isPrefix_of_utf8Encode_append_eq_utf8Encode more hbytes
      have hmore : more = lost.utf8Encode := by
        rw [← hlost, List.utf8Encode_append] at hbytes
        exact (ByteArray.append_right_inj _).1 hbytes
      cases hdecode : Config.decode text with
      | error e =>
          rw [hdecode] at h
          cases h
      | ok config' =>
          have hlost' : ¬ ∀ c ∈ lost, isBlank c := fun hblank =>
            not_isCloser_of_blank hblank b (hmore ▸ hb) hcloser
          obtain ⟨e, he⟩ := bracketed_reader.exists_error hdecode hlost.symm hlost'
          exact ⟨.malformed path e, congrArg (Except.mapError _) he⟩

/-! ### What was cut off is refused -/

/-- **What was cut off is refused.** Whatever is left of an accepted response or configuration is
refused, unless only blanks behind its closing bracket are missing. Of a body or a file, bytes may
be missing instead of characters. -/
theorem exists_error_of_isCut :
    (∀ (source : Source) (text : String) (snapshot : Snapshot),
      source.decode text = .ok snapshot →
        EndsWithBracket text.toList ∧
        ∀ cut : String, IsCut cut text → ∃ e, source.decode cut = .error e) ∧
    (∀ (text : String) (config : Config), Config.decode text = .ok config →
      EndsWithBracket text.toList ∧
      ∀ cut : String, IsCut cut text → ∃ e, Config.decode cut = .error e) ∧
    (∀ (source : Source) (snapshot : Snapshot) (cut more : List UInt8),
      Backend.decodeBody source (cut ++ more) = .ok snapshot → (∃ b ∈ more, IsCloser b) →
        ∃ e, Backend.decodeBody source cut = .error e) ∧
    ∀ (path : String) (config : Config) (cut more : ByteArray),
      Config.load path (.content (cut ++ more)) = .ok config → (∃ b ∈ more.data, IsCloser b) →
        ∃ e, Config.load path (.content cut) = .error e := by
  refine ⟨?_, ?_, ?_, ?_⟩
  · intro source text snapshot htext
    refine ⟨source.bracketed_reader.endsWithBracket htext, fun cut hcut => ?_⟩
    obtain ⟨more, hmore, hlost⟩ := hcut.exists_lost
    exact source.bracketed_reader.exists_error htext hmore hlost
  · intro text config htext
    refine ⟨Config.bracketed_reader.endsWithBracket htext, fun cut hcut => ?_⟩
    obtain ⟨more, hmore, hlost⟩ := hcut.exists_lost
    exact Config.bracketed_reader.exists_error htext hmore hlost
  · intro source snapshot cut more
    exact Backend.decodeBody_cut
  · intro path config cut more
    exact Config.load_cut

/-- A number that is cut in two is another number, a character that is cut in two is none. -/
theorem exists_error_of_isCut_halves :
    let text := "\x7b\"limit\":12\x7d\n"
    let cut := "\x7b\"limit\":1"
    let body : List UInt8 := [0x7b, 0x22, 0xc3, 0xa9, 0x22, 0x3a, 0x30, 0x7d]
    Config.decode text = .ok { Config.default with limit := 12 } ∧
    Source.hosts.decode text = .ok (.hosts []) ∧
    Backend.decodeBody .hosts body = .ok (.hosts []) ∧
    (∃ e, Config.decode cut = .error e) ∧
    (∃ e, Source.hosts.decode cut = .error e) ∧
    (∃ e, Config.load "config.json" (.content cut.toUTF8) = .error e) ∧
    ∃ e, Backend.decodeBody .hosts (body.take 3) = .error e := by
  intro text cut body
  have htext : (Tree.object [("limit", .number ⟨false, ['1', '2'], [], none⟩)]).IsText text := by
    dsimp only [text]
    have htwelve : (Token.numeral ⟨false, ['1', '2'], [], none⟩).IsWritten ['1', '2'] :=
      (IsWhole.digits rfl (by decide) (by simp)).isWritten
    refine ⟨['\n'], by simp [isBlank], ?_⟩
    exact .mark '{' (.text (.plain (by simp)) (.mark ':' (.written htwelve (.mark '}' (.nil _)))))
  have hconfig : Config.decode text = .ok { Config.default with limit := 12 } :=
    (decode_eq_ok_iff Config.follows_reader htext).2 rfl
  have hhosts : Source.hosts.decode text = .ok (.hosts []) :=
    (decode_eq_ok_iff Source.hosts.follows_reader htext).2 rfl
  have hbody : Backend.decodeBody .hosts body = .ok (.hosts []) := by
    have hchars : Text.decodeLossy body = "\x7b\"é\":0\x7d".toList := by
      have haccent (rest : List UInt8) :
          Text.decodeLossy (0xc3 :: 0xa9 :: rest) = 'é' :: Text.decodeLossy rest := by
        have hlead : Text.leadByte? 0xc3 = some (3, [Text.tailRange]) := rfl
        exact Text.decodeLossy_lead hlead
      simp [body, Text.decodeLossy_ascii, haccent, Text.decodeLossy]
    have hzero : (Token.numeral ⟨false, ['0'], [], none⟩).IsWritten ['0'] := IsWhole.zero.isWritten
    have hread : (Tree.object [("é", .number ⟨false, ['0'], [], none⟩)]).IsText
        "\x7b\"é\":0\x7d" := by
      refine ⟨[], by simp, ?_⟩
      exact .mark '{' (.text (.plain (by simp)) (.mark ':' (.written hzero (.mark '}' (.nil _)))))
    rw [Backend.decodeBody, hchars, String.ofList_toList]
    exact (decode_eq_ok_iff Source.hosts.follows_reader hread).2 rfl
  have hcut : IsCut cut text := by
    refine ⟨?_, ?_⟩ <;> decide
  have hfile : Config.load "config.json" (.content (cut.toUTF8 ++ "2\x7d\n".toUTF8)) =
      .ok { Config.default with limit := 12 } := by
    have happend : cut.toUTF8 ++ "2\x7d\n".toUTF8 = text.toUTF8 := String.toByteArray_append.symm
    rw [happend, Config.load, Config.fromUTF8?_toUTF8]
    simp only [hconfig, mapError_ok]
  obtain ⟨hsource, hdecode, hbytes, hload⟩ := exists_error_of_isCut
  refine ⟨hconfig, hhosts, hbody, (hdecode text _ hconfig).2 cut hcut,
    (hsource .hosts text _ hhosts).2 cut hcut, ?_, ?_⟩
  · exact hload "config.json" _ cut.toUTF8 _ hfile ⟨0x7d, by decide +kernel, .inr rfl⟩
  · exact hbytes .hosts _ (body.take 3) (body.drop 3) hbody ⟨0x7d, by decide, .inr rfl⟩

end Telemetry
