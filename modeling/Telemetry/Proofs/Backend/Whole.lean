import Telemetry.Proofs.Backend.Delivery
import Telemetry.Proofs.Backend.Request
import Telemetry.Proofs.Dashboard.Projection
import Telemetry.Proofs.Json.Schema
import Telemetry.Url.Domain

/-!
An answer is shown whole or not at all.

A source contributes one update to a cycle or none. What it contributes depends on
its own exchange only, so a failing source costs its own update and nothing else,
and since the array of a body is read item by item into as many records, a table
shows all the records of the body or keeps the rows it had.
-/

namespace Telemetry

open Json

/-! ### The records of a body -/

/-- The trees in the place of the one field of an object, or of the array form of such an
object. -/
def Json.Tree.entries (field : String) : Tree → List Tree
  | .object ms => occurrences field ms
  | .list vs => vs
  | _ => []

/-- The items of the array in the place of the one field. -/
def Json.Tree.itemsUnder (field : String) (v : Tree) : List Tree :=
  match v.entries field with
  | [.list items] => items
  | _ => []

section

variable {α : Type} {field : String} {value? : Tree → Option α} {read : Reader α}
  {follows : read.Follows value?} {v : Tree} {as : List α}

theorem Json.Tree.map_of_list? (h : v.list? value? = some as) :
    ∃ items, v = .list items ∧ items.map value? = as.map some := by
  cases v with
  | list items => exact ⟨items, rfl, mapM_eq_some h⟩
  | _ => exact nomatch h

theorem Json.Tree.items?_eq_some (h : v.items? field follows = some as) :
    v.entries field = [] ∧ as = [] ∨ ∃ w, v.entries field = [w] ∧ w.list? value? = some as := by
  cases v with
  | object ms =>
      have hitems : (object ms).items? field follows =
          (Column.withDefault field (Tree.list? value?) follows.list []).ofOccurrences
            (occurrences field ms) := by
        show Option.map _ (Option.bind (Column.ofOccurrences _ (occurrences field ms)) _) = _
        cases Column.ofOccurrences _ (occurrences field ms) <;> rfl
      rw [hitems] at h
      show occurrences field ms = [] ∧ as = [] ∨ ∃ w, occurrences field ms = [w] ∧ _
      match hms : occurrences field ms, h with
      | [], h => exact .inl ⟨rfl, (Option.some.inj h).symm⟩
      | [w], h => exact .inr ⟨w, rfl, h⟩
  | list vs =>
      match vs, h with
      | [], h => exact .inl ⟨rfl, (Option.some.inj h).symm⟩
      | [w], h =>
          have hitems : (list [w]).items? field follows = w.list? value? := by
            show Option.map _ (Option.bind (w.list? value?) _) = _
            cases w.list? value? <;> rfl
          exact .inr ⟨w, rfl, hitems ▸ h⟩
      | w :: x :: vs, h =>
          have hitems : (list (w :: x :: vs)).items? field follows = none := by
            show Option.map _ (Option.bind (w.list? value?) _) = _
            cases w.list? value? <;> rfl
          exact nomatch hitems.symm.trans h
  | _ => exact nomatch h

/-- Every item of the array is read as a record, in order. -/
theorem Json.Tree.map_itemsUnder (h : v.items? field follows = some as) :
    (v.itemsUnder field).map value? = as.map some := by
  rw [itemsUnder]
  rcases items?_eq_some h with ⟨hentries, rfl⟩ | ⟨w, hentries, hw⟩
  · rw [hentries]
    rfl
  · obtain ⟨items, rfl, hitems⟩ := map_of_list? hw
    rw [hentries]
    exact hitems

end

/-- The items of a source's body that are its records. -/
def Source.itemsOf : Source → Tree → List Tree
  | .metrics, v => v.itemsUnder "metrics"
  | .connections, v => v.itemsUnder "connections"
  | .hosts, v => v.itemsUnder "hosts"
  | .systemInfo, _ => []

/-- Whether an item is a record of a source. -/
def Source.IsRecord : Source → Tree → Prop
  | .metrics, v => (MetricSample.ofTree? v).isSome
  | .connections, v => (Connection.ofTree? v).isSome
  | .hosts, v => (HostTraffic.ofTree? v).isSome
  | .systemInfo, _ => False

/-- A snapshot is made of all the items of the body. -/
def Snapshot.IsReadFrom (items : List Tree) : Snapshot → Prop
  | .metrics samples => items.map MetricSample.ofTree? = samples.map some
  | .connections rows => items.map Connection.ofTree? = rows.map some
  | .hosts rows => items.map HostTraffic.ofTree? = rows.map some
  | .systemInfo _ => items = []

theorem Source.isReadFrom_of_ofTree? {source : Source} {v : Tree} {snapshot : Snapshot}
    (h : source.ofTree? v = some snapshot) : snapshot.IsReadFrom (source.itemsOf v) := by
  cases source with
  | metrics =>
      obtain ⟨samples, hsamples, rfl⟩ := Option.map_eq_some_iff.mp h
      exact Tree.map_itemsUnder hsamples
  | connections =>
      obtain ⟨rows, hrows, rfl⟩ := Option.map_eq_some_iff.mp h
      exact Tree.map_itemsUnder hrows
  | hosts =>
      obtain ⟨rows, hrows, rfl⟩ := Option.map_eq_some_iff.mp h
      exact Tree.map_itemsUnder hrows
  | systemInfo =>
      obtain ⟨info, hinfo, rfl⟩ := Option.map_eq_some_iff.mp h
      rfl

theorem isSome_of_map_eq {α β : Type} {f : α → Option β} {l : List α} {bs : List β} {a : α}
    (h : l.map f = bs.map some) (ha : a ∈ l) : (f a).isSome := by
  have hmem : f a ∈ bs.map some := h ▸ List.mem_map_of_mem ha
  obtain ⟨b, -, hb⟩ := List.mem_map.mp hmem
  rw [← hb]
  rfl

theorem Source.isRecord_of_mem {source : Source} {v item : Tree} {snapshot : Snapshot}
    (h : source.ofTree? v = some snapshot) (hitem : item ∈ source.itemsOf v) :
    source.IsRecord item := by
  have hall := Source.isReadFrom_of_ofTree? h
  cases source with
  | metrics =>
      obtain ⟨samples, -, rfl⟩ := Option.map_eq_some_iff.mp h
      exact isSome_of_map_eq hall hitem
  | connections =>
      obtain ⟨rows, -, rfl⟩ := Option.map_eq_some_iff.mp h
      exact isSome_of_map_eq hall hitem
  | hosts =>
      obtain ⟨rows, -, rfl⟩ := Option.map_eq_some_iff.mp h
      exact isSome_of_map_eq hall hitem
  | systemInfo => exact nomatch hitem

section

variable {source : Source} {v : Tree} {body : String} (h : v.IsText body)

include h

theorem Source.isReadFrom_of_decode {snapshot : Snapshot}
    (hdecode : source.decode body = .ok snapshot) : snapshot.IsReadFrom (source.itemsOf v) :=
  Source.isReadFrom_of_ofTree? ((decode_eq_ok_iff source.follows_reader h).mp hdecode)

/-- One item that is no record spoils the whole body. -/
theorem Source.exists_error_of_decode {item : Tree} (hitem : item ∈ source.itemsOf v)
    (hrecord : ¬ source.IsRecord item) : ∃ error, source.decode body = .error error := by
  cases hdecode : source.decode body with
  | error error => exact ⟨error, rfl⟩
  | ok snapshot =>
      have htree := (decode_eq_ok_iff source.follows_reader h).mp hdecode
      exact absurd (Source.isRecord_of_mem htree hitem) hrecord

end

/-! ### What a source contributes -/

theorem Source.filter_all (source : Source) : Source.all.filter (· = source) = [source] := by
  cases source <;> rfl

theorem Source.map_fst_updatesIn (s : Source) (us : List (Update × String)) :
    (s.updatesIn us).map Prod.fst = (us.map Prod.fst).filter fun u => u.source = s := by
  rw [Source.updatesIn, List.filter_map]
  rfl

namespace Backend

/-- The stages at which a request can fail, in order. -/
theorem conclude_eq (source : Source) (url : Url) (x : Exchange) :
    conclude source url x =
      match x with
      | .unanswered => .error (.transport url .unanswered)
      | .answered status body =>
        if status < 200 ∨ 299 < status then .error (.status url status)
        else match body with
          | .interrupted => .error (.transport url .interrupted)
          | .complete bytes =>
            match source.decode (String.ofList (Text.decodeLossy bytes)) with
            | .ok snapshot => .ok snapshot
            | .error error => .error (.malformed url error) := by
  cases x with
  | unanswered => rfl
  | answered status body =>
      by_cases hstatus : status < 200 ∨ 299 < status
      · have hsuccess : isSuccess status = false := by
          simp only [isSuccess, Bool.and_eq_false_iff, decide_eq_false_iff_not]
          omega
        cases body <;> simp [conclude, hsuccess, hstatus]
      · have hsuccess : isSuccess status = true := by
          simp only [isSuccess, Bool.and_eq_true, decide_eq_true_eq]
          omega
        cases body with
        | interrupted => simp [conclude, hsuccess, hstatus]
        | complete bytes =>
            simp only [conclude, hsuccess, hstatus, if_true, if_false, decodeBody]
            cases source.decode (String.ofList (Text.decodeLossy bytes)) <;> rfl

variable [Url.DomainRule] {b : Backend} {cycle : UInt64} {exchange : Source → Url → Exchange}
  {source s : Source} {u : Update}

theorem fetch_eq_conclude {url : Url} {exchange : Url → Exchange}
    (hurl : b.endpointOf source = .ok url) (hweb : isHttp url = true) :
    b.fetch source exchange = conclude source url (exchange url) := by
  rw [fetch, hurl]
  exact if_pos hweb

theorem updateOf_of_ok {snapshot : Snapshot}
    (h : b.fetch source (exchange source) = .ok snapshot) :
    b.updateOf cycle exchange source = some ⟨cycle, snapshot⟩ := by
  rw [updateOf, h]

theorem updateOf_of_error {error : FetchError}
    (h : b.fetch source (exchange source) = .error error) :
    b.updateOf cycle exchange source = none := by
  rw [updateOf, h]

theorem source_of_updateOf (h : b.updateOf cycle exchange source = some u) : u.source = source := by
  cases hfetch : b.fetch source (exchange source) with
  | error error => exact nomatch (updateOf_of_error hfetch).symm.trans h
  | ok snapshot =>
      obtain rfl := Option.some.inj ((updateOf_of_ok hfetch).symm.trans h)
      exact source_of_fetch hfetch

/-- The updates of a cycle are those of the sources that are kept. -/
theorem filter_refresh (q : Source → Bool) :
    (b.refresh cycle exchange).filter (fun u => q u.source) =
      (Source.all.filter q).filterMap (b.updateOf cycle exchange) := by
  rw [refresh]
  induction Source.all with
  | nil => rfl
  | cons s sources ih =>
      rw [List.filterMap_cons, List.filter_cons]
      cases hs : b.updateOf cycle exchange s with
      | none => cases q s <;> simp [hs, ih]
      | some u =>
          have hsource := source_of_updateOf hs
          cases hq : q s <;> simp [hs, hq, hsource, ih]

/-- A source contributes its own update and no other. -/
theorem filter_refresh_source (source : Source) :
    (b.refresh cycle exchange).filter (fun u => u.source = source) =
      (b.updateOf cycle exchange source).toList := by
  rw [filter_refresh fun s => s = source, Source.filter_all]
  cases h : b.updateOf cycle exchange source <;> simp [h]

/-- What the others contribute depends on their own exchanges. -/
theorem filter_refresh_congr {exchange' : Source → Url → Exchange}
    (h : ∀ s, s ≠ source → exchange' s = exchange s) :
    (b.refresh cycle exchange').filter (fun u => u.source ≠ source) =
      (b.refresh cycle exchange).filter (fun u => u.source ≠ source) := by
  rw [filter_refresh fun s => s ≠ source, filter_refresh fun s => s ≠ source]
  refine List.filterMap_congr fun s hs => ?_
  have hne : s ≠ source := by simpa using (List.mem_filter.mp hs).2
  rw [updateOf, updateOf, h s hne]

end Backend

/-! ### What a cycle does -/

namespace Dashboard

variable {d : Dashboard} {screen : Screen} {s : Source} {x : Update × String}
  {us : List (Update × String)}

theorem lastIn_accepted_of_updatesIn_eq_nil (h : s.updatesIn us = []) :
    s.lastIn (d.accepted screen us) = none := by
  refine Source.lastIn_eq_none.mpr fun x hx => ?_
  simpa using List.filter_eq_nil_iff.mp h x ((accepted_sublist us).subset hx)

/-- The only update of a source is shown unless it is stale to begin with. -/
theorem lastIn_accepted_of_updatesIn (h : s.updatesIn us = [x]) (hfresh : d.isStale x.1 = false) :
    s.lastIn (d.accepted screen us) = some x := by
  have hx : x ∈ s.updatesIn us := by simp [h]
  have hsource : x.1.source = s := by simpa using (List.mem_filter.mp hx).2
  induction us generalizing d screen with
  | nil => exact nomatch h
  | cons y us ih =>
      rw [accepted_cons]
      rw [Source.updatesIn_cons] at h
      by_cases hy : y.1.source = s
      · rw [if_pos hy] at h
        obtain ⟨rfl, hrest⟩ := List.cons.inj h
        simp [hfresh, Source.lastIn_cons, lastIn_accepted_of_updatesIn_eq_nil hrest, hsource]
      · rw [if_neg hy] at h
        -- an update of another source does not make this one stale
        have hkept : (d.apply screen y.1 y.2).dashboard.isStale x.1 = false := by
          rw [isStale, lastCycle?_apply_of_ne (by rw [hsource]; exact Ne.symm hy)]
          exact hfresh
        have hlater : s.lastIn ((d.apply screen y.1 y.2).dashboard.accepted
            (d.apply screen y.1 y.2).screen us) = some x := ih h hkept (by simp [h])
        cases hstale : d.isStale y.1 with
        | true => simpa using hlater
        | false => simp [Source.lastIn_cons, hlater]

theorem history_run_of_forall_ne (h : ∀ x ∈ us, x.1.source ≠ .metrics) :
    (d.run screen us).dashboard.history = d.history := by
  induction us generalizing d screen with
  | nil => rfl
  | cons x us ih =>
      obtain ⟨hx, hus⟩ := List.forall_mem_cons.mp h
      rw [run_cons]
      exact (ih hus).trans (history_apply_of_ne hx)

end Dashboard

namespace Backend

section

variable [Url.DomainRule] {b : Backend} {cycle : UInt64} {exchange : Source → Url → Exchange}
  {source : Source} {d : Dashboard} {screen : Screen} {us : List (Update × String)}

/-- Among the updates of a cycle, in whatever order, is the one that the source contributes. -/
theorem map_fst_updatesIn_of_perm (source : Source)
    (h : (us.map Prod.fst).Perm (b.refresh cycle exchange)) :
    (source.updatesIn us).map Prod.fst = (b.updateOf cycle exchange source).toList := by
  have hfilter := h.filter fun u => u.source = source
  rw [← Source.map_fst_updatesIn, filter_refresh_source] at hfilter
  cases hu : b.updateOf cycle exchange source with
  | none =>
      rw [hu] at hfilter
      exact hfilter.eq_nil
  | some u =>
      rw [hu] at hfilter
      exact List.perm_singleton.mp hfilter

/-- A place that the source's snapshot writes to shows it after the cycle. -/
theorem read_run_of_ok {snapshot : Snapshot} {p : Place} {v : p.Content}
    (hfetch : b.fetch source (exchange source) = .ok snapshot)
    (hperm : (us.map Prod.fst).Perm (b.refresh cycle exchange))
    (hfresh : d.isStale ⟨cycle, snapshot⟩ = false) (hp : ∀ c, p ≠ .chart c)
    (howner : p.owner? = some source) (hslot : screen.hasSlot p.slot = true)
    (hv : p.lastWritten? snapshot.writes = some v) : (d.run screen us).screen.read p = v := by
  have hmap := map_fst_updatesIn_of_perm source hperm
  rw [updateOf_of_ok hfetch] at hmap
  obtain ⟨x, hx, hfst⟩ := List.map_eq_singleton_iff.mp hmap
  have hlast : source.lastIn (d.accepted screen us) = some x :=
    Dashboard.lastIn_accepted_of_updatesIn hx (by rw [hfst]; exact hfresh)
  exact Dashboard.read_run_of_lastIn hp howner hlast hslot (by rw [hfst]; exact hv)

/-- A source that fails leaves what is its own as it was. -/
theorem run_of_error {error : FetchError}
    (hfetch : b.fetch source (exchange source) = .error error)
    (hperm : (us.map Prod.fst).Perm (b.refresh cycle exchange)) :
    (d.run screen us).dashboard.lastCycle? source = d.lastCycle? source ∧
      (source = .metrics → (d.run screen us).dashboard.history = d.history) ∧
      ∀ p, p.owner? = some source → (d.run screen us).screen.read p = screen.read p := by
  have hmap := map_fst_updatesIn_of_perm source hperm
  rw [updateOf_of_error hfetch] at hmap
  have hnil : source.updatesIn us = [] := List.map_eq_nil_iff.mp hmap
  have hlast : source.lastIn (d.accepted screen us) = none :=
    Dashboard.lastIn_accepted_of_updatesIn_eq_nil hnil
  refine ⟨?_, ?_, ?_⟩
  · rw [Dashboard.lastCycle?_run, hlast]
    rfl
  · rintro rfl
    refine Dashboard.history_run_of_forall_ne fun x hx => ?_
    simpa using List.filter_eq_nil_iff.mp hnil x hx
  · intro p howner
    exact Dashboard.read_run_of_lastIn_eq_none howner hlast

end

/-- **A response is shown whole or not at all.** -/
theorem refresh_whole [Url.DomainRule] {base : Url} {names : List String}
    (hhttp : isHttp base = true) (hpath : base.path = .segments names) (limit cycle : UInt64)
    (source : Source) (exchange : Source → Url → Exchange) :
    let b := ofUrl base limit
    (∃ url, b.endpointOf source = .ok url ∧ b.fetch source (exchange source) =
      match exchange source url with
      | .unanswered => .error (.transport url .unanswered)
      | .answered status body =>
        if status < 200 ∨ 299 < status then .error (.status url status)
        else match body with
          | .interrupted => .error (.transport url .interrupted)
          | .complete bytes =>
            match source.decode (String.ofList (Text.decodeLossy bytes)) with
            | .ok snapshot => .ok snapshot
            | .error error => .error (.malformed url error)) ∧
    (∀ (v : Tree) (body : String), v.IsText body →
      (∀ snapshot, source.decode body = .ok snapshot → snapshot.IsReadFrom (source.itemsOf v)) ∧
      ∀ item ∈ source.itemsOf v, ¬ source.IsRecord item →
        ∃ error, source.decode body = .error error) ∧
    (∀ snapshot, b.fetch source (exchange source) = .ok snapshot →
      (b.refresh cycle exchange).filter (fun u => u.source = source) = [⟨cycle, snapshot⟩] ∧
      ∀ (d : Dashboard) (screen : Screen) (us : List (Update × String)),
        (us.map Prod.fst).Perm (b.refresh cycle exchange) →
        d.isStale ⟨cycle, snapshot⟩ = false →
        (∀ rows, snapshot = .connections rows → screen.hasSlot Table.connections.slot = true →
          (d.run screen us).screen.rows .connections = rows.map Connection.cells) ∧
        ∀ rows, snapshot = .hosts rows → screen.hasSlot Table.hosts.slot = true →
          (d.run screen us).screen.rows .hosts = rows.map HostTraffic.cells) ∧
    (∀ error, b.fetch source (exchange source) = .error error →
      (∀ (d : Dashboard) (screen : Screen) (label : String),
        d.run screen ((b.updateOf cycle exchange source).toList.map fun u => (u, label)) =
          ⟨[], d, [], screen⟩) ∧
      (∀ u ∈ b.refresh cycle exchange, u.source ≠ source) ∧
      ∀ (d : Dashboard) (screen : Screen) (us : List (Update × String)),
        (us.map Prod.fst).Perm (b.refresh cycle exchange) →
        (d.run screen us).dashboard.lastCycle? source = d.lastCycle? source ∧
        (source = .metrics → (d.run screen us).dashboard.history = d.history) ∧
        ∀ p, p.owner? = some source → (d.run screen us).screen.read p = screen.read p) ∧
    ∀ exchange' : Source → Url → Exchange, (∀ s, s ≠ source → exchange' s = exchange s) →
      (b.refresh cycle exchange').filter (fun u => u.source ≠ source) =
        (b.refresh cycle exchange).filter (fun u => u.source ≠ source) := by
  intro b
  refine ⟨?_, ?_, ?_, ?_, ?_⟩
  · obtain ⟨url, hurl, hweb⟩ := exists_endpointOf hhttp hpath limit source
    exact ⟨url, hurl, (fetch_eq_conclude hurl hweb).trans (conclude_eq _ _ _)⟩
  · intro v body htext
    exact ⟨fun snapshot => Source.isReadFrom_of_decode htext, fun item hitem hrecord =>
      Source.exists_error_of_decode htext hitem hrecord⟩
  · intro snapshot hfetch
    refine ⟨by rw [filter_refresh_source, updateOf_of_ok hfetch]; rfl, ?_⟩
    intro d screen us hperm hfresh
    have hsource : snapshot.source = source := source_of_fetch hfetch
    refine ⟨?_, ?_⟩
    · rintro rows rfl hslot
      obtain rfl : Source.connections = source := hsource
      exact read_run_of_ok (p := .table .connections) hfetch hperm hfresh (by simp) rfl hslot
        (Snapshot.lastWritten?_connections _)
    · rintro rows rfl hslot
      obtain rfl : Source.hosts = source := hsource
      exact read_run_of_ok (p := .table .hosts) hfetch hperm hfresh (by simp) rfl hslot
        (Snapshot.lastWritten?_hosts _)
  · intro error hfetch
    have hnone : b.updateOf cycle exchange source = none := updateOf_of_error hfetch
    refine ⟨?_, ?_, ?_⟩
    · intro d screen label
      rw [hnone]
      rfl
    · have hfilter : (b.refresh cycle exchange).filter (fun u => u.source = source) = [] := by
        rw [filter_refresh_source, hnone]
        rfl
      intro u hu
      simpa using List.filter_eq_nil_iff.mp hfilter u hu
    · intro d screen us hperm
      exact run_of_error hfetch hperm
  · intro exchange' h
    exact filter_refresh_congr h

/-- Two hosts beside two connections, in the array form; the second connection is cut short. -/
theorem refresh_whole_twoHosts :
    let base : Url := ⟨"http", some ⟨"", "", some (.name "h"), none⟩, .segments [""], none, none⟩
    let hosts := "[[[\"a\",7],[\"b\",8]]]"
    let connections := "[[[\"a\",\"b\",6,1,1,1,1],[\"a\"]]]"
    let exchange : Source → Url → Exchange := fun source _ =>
      match source with
      | .hosts => .answered 200 (.complete hosts.toUTF8.toList)
      | .connections => .answered 200 (.complete connections.toUTF8.toList)
      | .metrics | .systemInfo => .unanswered
    let updates := (ofUrl base 10).refresh 1 exchange
    let shown := Dashboard.default.run Screen.default (updates.map fun u => (u, "12:00:00"))
    shown.screen.rows .hosts = [HostTraffic.cells ⟨"a", 7⟩, HostTraffic.cells ⟨"b", 8⟩] ∧
      (∀ u ∈ updates, u.source ≠ .connections) ∧ shown.screen.rows .connections = [] ∧
      shown.dashboard.lastCycle? .connections = none := by
  intro base hosts connections exchange updates shown
  have hdigit (d : Char) (h : d.isDigit = true ∧ d ≠ '0') :
      (Token.numeral ⟨false, [d], [], none⟩).IsWritten [d] :=
    (IsWhole.digits h.1 h.2 (by simp)).isWritten
  have hhosts : (Tree.list [.list [
      .list [.text (utf16 "a"), .number ⟨false, ['7'], [], none⟩],
      .list [.text (utf16 "b"), .number ⟨false, ['8'], [], none⟩]]]).IsText hosts := by
    dsimp only [hosts]
    refine ⟨[], by simp, .mark '[' (.mark '[' (.mark '[' (.text (.plain (by simp)) ?_)))⟩
    refine .mark ',' (.written (hdigit '7' (by decide)) (.mark ']' (.mark ',' (.mark '[' ?_))))
    refine .text (.plain (by simp)) (.mark ',' (.written (hdigit '8' (by decide)) ?_))
    exact .mark ']' (.mark ']' (.mark ']' (.nil [])))
  let short : Tree := .list [.text (utf16 "a")]
  let body : Tree := .list [.list [
    .list [.text (utf16 "a"), .text (utf16 "b"), .number ⟨false, ['6'], [], none⟩,
      .number ⟨false, ['1'], [], none⟩, .number ⟨false, ['1'], [], none⟩,
      .number ⟨false, ['1'], [], none⟩, .number ⟨false, ['1'], [], none⟩], short]]
  have hconnections : body.IsText connections := by
    have hone := hdigit '1' (by decide)
    dsimp only [body, short, connections]
    refine ⟨[], by simp, .mark '[' (.mark '[' (.mark '[' (.text (.plain (by simp)) ?_)))⟩
    refine .mark ',' (.text (.plain (by simp)) (.mark ',' (.written (hdigit '6' (by decide)) ?_)))
    refine .mark ',' (.written hone (.mark ',' (.written hone (.mark ',' (.written hone ?_)))))
    refine .mark ',' (.written hone (.mark ']' (.mark ',' (.mark '[' ?_))))
    exact .text (.plain (by simp)) (.mark ']' (.mark ']' (.mark ']' (.nil []))))
  have hperm : ((updates.map fun u => (u, "12:00:00")).map Prod.fst).Perm updates := by
    rw [List.map_map]
    simp [Function.comp_def]
  have hhttp : isHttp base = true := rfl
  have hpath : base.path = .segments [""] := rfl
  obtain ⟨⟨url, -, hfetch⟩, -, hok, -⟩ := refresh_whole hhttp hpath 10 1 .hosts exchange
  obtain ⟨⟨url', -, hfetch'⟩, hrecords, -, hfails, -⟩ :=
    refresh_whole hhttp hpath 10 1 .connections exchange
  have hsnapshot : (ofUrl base 10).fetch .hosts (exchange .hosts) =
      .ok (.hosts [⟨"a", 7⟩, ⟨"b", 8⟩]) := by
    have hbytes : String.ofList (Text.decodeLossy hosts.toUTF8.toList) = hosts := by
      decide +kernel
    have hdecode : Source.hosts.decode hosts = .ok (.hosts [⟨"a", 7⟩, ⟨"b", 8⟩]) :=
      (decode_eq_ok_iff Source.hosts.follows_reader hhosts).mpr rfl
    rw [hfetch]
    simp only [exchange, hbytes, hdecode]
    rfl
  have hrefused : ∃ error, (ofUrl base 10).fetch .connections (exchange .connections) =
      .error error := by
    have hbytes : String.ofList (Text.decodeLossy connections.toUTF8.toList) = connections := by
      decide +kernel
    have hshort : short ∈ Source.connections.itemsOf body :=
      List.mem_cons_of_mem _ List.mem_cons_self
    obtain ⟨error, hdecode⟩ := (hrecords body connections hconnections).2 short hshort nofun
    refine ⟨.malformed url' error, ?_⟩
    rw [hfetch']
    simp only [exchange, hbytes, hdecode]
    rfl
  obtain ⟨error, herror⟩ := hrefused
  obtain ⟨-, hrun⟩ := hok _ hsnapshot
  obtain ⟨-, hnone, hkept⟩ := hfails error herror
  obtain ⟨hcycle, -, hread⟩ := hkept Dashboard.default Screen.default _ hperm
  exact ⟨(hrun Dashboard.default Screen.default _ hperm (by decide)).2 _ rfl (by decide), hnone,
    hread (.table .connections) rfl, hcycle⟩

end Backend

end Telemetry
