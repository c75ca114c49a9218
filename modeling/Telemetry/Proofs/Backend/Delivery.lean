import Telemetry.Proofs.Polling.Answers

/-!
What a backend delivers.

A request is answered by a snapshot of the source that was asked or by nothing,
so a backend is one way of giving `Answers`.
-/

namespace Telemetry

theorem Json.exists_of_decode_map {α β : Type} {f : α → β} {read : Reader α} {text : String}
    {b : β} (h : decode (read.map f) text = .ok b) : ∃ a, f a = b := by
  unfold decode Reader.map at h
  cases hread : read text.toList with
  | error fault => simp [hread, Except.map, bind, Except.bind, Except.mapError] at h
  | ok p =>
      rcases p with ⟨a, rest⟩
      refine ⟨a, ?_⟩
      simp only [hread, Except.map, bind, Except.bind] at h
      split at h
      · simpa [Except.mapError, pure, Except.pure] using h
      · simp [Except.mapError, throw, throwThe, MonadExceptOf.throw] at h

theorem Source.source_of_decode {source : Source} {body : String} {snapshot : Snapshot}
    (h : source.decode body = .ok snapshot) : snapshot.source = source := by
  cases source <;> obtain ⟨_, rfl⟩ := Json.exists_of_decode_map h <;> rfl

namespace Backend

variable {b : Backend} {source : Source} {snapshot : Snapshot}

theorem source_of_conclude {url : Url} {exchange : Exchange}
    (h : conclude source url exchange = .ok snapshot) : snapshot.source = source := by
  cases exchange with
  | unanswered => exact nomatch h
  | answered status body =>
      cases body with
      | interrupted =>
          rw [conclude] at h
          split at h <;> exact nomatch h
      | complete bytes =>
          rw [conclude] at h
          split at h
          · rw [decodeBody] at h
            cases hbody : source.decode (String.ofList (Text.decodeLossy bytes)) with
            | error fault => simp [hbody, Except.mapError] at h
            | ok answer =>
                obtain rfl : answer = snapshot := by simpa [hbody, Except.mapError] using h
                exact Source.source_of_decode hbody
          · exact nomatch h

variable [Url.DomainRule]

theorem source_of_fetch {exchange : Url → Exchange}
    (h : b.fetch source exchange = .ok snapshot) : snapshot.source = source := by
  rw [fetch] at h
  split at h
  · exact nomatch h
  · split at h
    · exact source_of_conclude h
    · exact nomatch h

/-- What the requests to a backend bring, given what comes of its exchanges. -/
def answers (b : Backend) (exchange : UInt64 → Source → Url → Exchange) : Answers where
  snapshot? cycle source := (b.fetch source (exchange cycle source)).toOption
  source_eq {cycle source snapshot} h := by
    cases hfetch : b.fetch source (exchange cycle source) with
    | error fault => simp [hfetch, Except.toOption] at h
    | ok answer =>
        obtain rfl : answer = snapshot := by simpa [hfetch, Except.toOption] using h
        exact source_of_fetch hfetch

theorem updateOf_eq_update? (exchange : UInt64 → Source → Url → Exchange) (cycle : UInt64) :
    b.updateOf cycle (exchange cycle) =
      fun source => (b.answers exchange).update? (cycle, source) := by
  funext source
  simp only [updateOf, Answers.update?, answers]
  generalize b.fetch source (exchange cycle source) = outcome
  cases outcome <;> rfl

/-- The updates that are sent are those of the refresh cycles. -/
theorem schedule_eq_sent (exchange : UInt64 → Source → Url → Exchange) (cycles : UInt64) :
    b.schedule cycles.toNat exchange = (b.answers exchange).sent cycles := by
  simp only [schedule, refresh, updateOf_eq_update?, Answers.sent, requests,
    List.filterMap_flatMap, List.filterMap_map, Function.comp_def]

end Backend

end Telemetry
