import Telemetry.Proofs.Json.Integers
import Telemetry.Proofs.Json.Schema
import Telemetry.Proofs.Snapshot.Parts

/-!
Integer fields.

A number in the place of an integer field decides by its token alone whether the text is decoded:
the token must be that of an integer in the range of the field, and then the field holds this
integer. Wherever the field stands, in an item of a list or at the top, the value read there is
found again in what is decoded.
-/

namespace Telemetry

open Json

/-- An integer field of a record: its position and name, its type and what it holds. -/
structure IntegerField (α : Type) where
  index : Nat
  name : String
  kind : IntegerKind
  get? : α → Option Int

variable {α : Type}

/-- A number in the place of the field is taken over if its token is accepted. -/
def IntegerField.IsOf (f : IntegerField α) (ofTree? : Tree → Option α) : Prop :=
  ∀ ⦃gap : Gap⦄, gap.IsAt f.index f.name →
    Focuses (fun n => ofTree? (gap.fill (.number n))) f.kind.integer? f.get?

/-- A field is one of a record if its column is one of the row. -/
theorem IntegerField.isOf_row (xs : List Column) (x : Column) (ys : List Column)
    {ofRow : Row (fieldsOf (xs ++ x :: ys)) → α} {f : IntegerField α}
    {toInt? : x.field.Value → Option Int} (hnames : ((xs ++ x :: ys).map Column.name).Nodup)
    (hindex : f.index = xs.length) (hname : f.name = x.name)
    (hvalue : Focuses (fun n => x.value? (.number n)) f.kind.integer? toInt?)
    (hget : ∀ row, f.get? (ofRow row) = toInt? (row.get xs)) :
    f.IsOf fun v => (v.row? (xs ++ x :: ys)).map ofRow := by
  intro gap hgap
  rw [hindex, hname] at hgap
  exact ((focuses_row hgap hnames).within hvalue).map ofRow fun row => hget row

/-! ### The records -/

namespace Connection

def integerFields : List (IntegerField Connection) :=
  [⟨2, "protocol", .signed64, fun c => some c.protocol.toInt⟩,
   ⟨3, "bytes_sent", .unsigned64, fun c => some c.bytesSent.toNat⟩,
   ⟨4, "bytes_received", .unsigned64, fun c => some c.bytesReceived.toNat⟩,
   ⟨5, "packets_sent", .unsigned64, fun c => some c.packetsSent.toNat⟩,
   ⟨6, "packets_received", .unsigned64, fun c => some c.packetsReceived.toNat⟩]

theorem integerFields_isOf : ∀ f ∈ integerFields, f.IsOf ofTree? := by
  have hnames : (columns.map Column.name).Nodup := by decide
  simp only [integerFields, List.forall_mem_cons]
  refine ⟨?_, ?_, ?_, ?_, ?_, by simp⟩
  · exact IntegerField.isOf_row (columns.take 2) columns[2] (columns.drop 3) hnames rfl rfl
      IntegerKind.focuses_signed64 fun _ => rfl
  · exact IntegerField.isOf_row (columns.take 3) columns[3] (columns.drop 4) hnames rfl rfl
      IntegerKind.focuses_unsigned64 fun _ => rfl
  · exact IntegerField.isOf_row (columns.take 4) columns[4] (columns.drop 5) hnames rfl rfl
      IntegerKind.focuses_unsigned64 fun _ => rfl
  · exact IntegerField.isOf_row (columns.take 5) columns[5] (columns.drop 6) hnames rfl rfl
      IntegerKind.focuses_unsigned64 fun _ => rfl
  · exact IntegerField.isOf_row (columns.take 6) columns[6] [] hnames rfl rfl
      IntegerKind.focuses_unsigned64 fun _ => rfl

end Connection

namespace HostTraffic

def integerFields : List (IntegerField HostTraffic) :=
  [⟨1, "bytes", .unsigned64, fun h => some h.bytes.toNat⟩]

theorem integerFields_isOf : ∀ f ∈ integerFields, f.IsOf ofTree? := by
  simp only [integerFields, List.forall_mem_cons]
  refine ⟨?_, by simp⟩
  exact IntegerField.isOf_row (columns.take 1) columns[1] [] (by decide) rfl rfl
    IntegerKind.focuses_unsigned64 fun _ => rfl

end HostTraffic

namespace SystemInfo

def integerFields : List (IntegerField SystemInfo) :=
  [⟨2, "num_cpus", .unsigned32, fun info => some info.cpuCount.toNat⟩]

theorem integerFields_isOf : ∀ f ∈ integerFields, f.IsOf ofTree? := by
  simp only [integerFields, List.forall_mem_cons]
  refine ⟨?_, by simp⟩
  exact IntegerField.isOf_row (columns.take 2) columns[2] (columns.drop 3) (by decide) rfl rfl
    IntegerKind.focuses_unsigned32 fun _ => rfl

end SystemInfo

namespace Config

def integerFields : List (IntegerField Config) :=
  [⟨1, "interval_ms", .unsigned64, fun c => some c.intervalMs.toNat⟩,
   ⟨2, "limit", .unsigned64, fun c => some c.limit.toNat⟩,
   ⟨3, "timeout_ms", .unsigned64, fun c => c.timeoutMs?.map fun t => (t.toNat : Int)⟩]

theorem integerFields_isOf : ∀ f ∈ integerFields, f.IsOf ofTree? := by
  have hnames : (columns.map Column.name).Nodup := by decide
  simp only [integerFields, List.forall_mem_cons]
  refine ⟨?_, ?_, ?_, by simp⟩
  · exact IntegerField.isOf_row (columns.take 1) columns[1] (columns.drop 2) hnames rfl rfl
      IntegerKind.focuses_unsigned64 fun _ => rfl
  · exact IntegerField.isOf_row (columns.take 2) columns[2] (columns.drop 3) hnames rfl rfl
      IntegerKind.focuses_unsigned64 fun _ => rfl
  · exact IntegerField.isOf_row (columns.take 3) columns[3] (columns.drop 4) hnames rfl rfl
      (IntegerKind.focuses_optional IntegerKind.focuses_unsigned64) fun _ => Option.map_eq_bind

end Config

/-! ### Places -/

/-- The places of integer fields in what is decoded: how a text is decoded, the tree with whatever
stands in the place, the type of the field, and what the field holds in the decoded value. -/
inductive IntegerPlace : {α : Type} → (String → Except Json.Error α) → (Tree → Tree) →
    IntegerKind → (α → Option Int) → Prop where
  | connection {f : IntegerField Connection} (mem : f ∈ Connection.integerFields)
      {body record : Gap} (before after : List Tree) (inBody : body.IsAt 0 "connections")
      (inRecord : record.IsAt f.index f.name) :
      IntegerPlace Source.connections.decode
        (fun v => body.fill (.list (before ++ record.fill v :: after))) f.kind
        fun snapshot => (snapshot.connections?.bind fun rows => rows[before.length]?).bind f.get?
  | host {f : IntegerField HostTraffic} (mem : f ∈ HostTraffic.integerFields)
      {body record : Gap} (before after : List Tree) (inBody : body.IsAt 0 "hosts")
      (inRecord : record.IsAt f.index f.name) :
      IntegerPlace Source.hosts.decode
        (fun v => body.fill (.list (before ++ record.fill v :: after))) f.kind
        fun snapshot => (snapshot.hosts?.bind fun rows => rows[before.length]?).bind f.get?
  | systemInfo {f : IntegerField SystemInfo} (mem : f ∈ SystemInfo.integerFields) {record : Gap}
      (inRecord : record.IsAt f.index f.name) :
      IntegerPlace Source.systemInfo.decode (fun v => record.fill v) f.kind
        fun snapshot => snapshot.systemInfo?.bind f.get?
  | config {f : IntegerField Config} (mem : f ∈ Config.integerFields) {record : Gap}
      (inRecord : record.IsAt f.index f.name) :
      IntegerPlace Config.decode (fun v => record.fill v) f.kind f.get?

/-- The one array of a body, in the place of its one field. -/
theorem Json.focuses_items {value? : Tree → Option α} {read : Reader α} {field : String}
    (follows : read.Follows value?) {body : Gap} (hbody : body.IsAt 0 field)
    (before after : List Tree) :
    Focuses (fun v => (body.fill (.list (before ++ v :: after))).items? field follows) value?
      fun rows => rows[before.length]? := by
  have hfield := @focuses_row (.withDefault field (Tree.list? value?) follows.list []) [] [] body
    hbody (by simp)
  exact (hfield.within (focuses_list value? before after)).map _ fun _ => rfl

variable {decode : String → Except Json.Error α} {fill : Tree → Tree} {kind : IntegerKind}
  {get? : α → Option Int}

/-- Decoding a number in the place of an integer field takes the integer over. -/
theorem IntegerPlace.exists_focuses (h : IntegerPlace decode fill kind get?) :
    ∃ (read : Reader α) (ofTree? : Tree → Option α), decode = Json.decode read ∧
      read.Follows ofTree? ∧ Focuses (fun n => ofTree? (fill (.number n))) kind.integer? get? := by
  cases h with
  | @connection f mem body record before after inBody inRecord =>
      refine ⟨_, _, rfl, Source.connections.follows_reader, ?_⟩
      have hrows := focuses_items Connection.follows_reader inBody before after
      have hfield := Connection.integerFields_isOf f mem inRecord
      exact (hrows.within hfield).map Snapshot.connections fun _ => rfl
  | @host f mem body record before after inBody inRecord =>
      refine ⟨_, _, rfl, Source.hosts.follows_reader, ?_⟩
      have hrows := focuses_items HostTraffic.follows_reader inBody before after
      have hfield := HostTraffic.integerFields_isOf f mem inRecord
      exact (hrows.within hfield).map Snapshot.hosts fun _ => rfl
  | @systemInfo f mem record inRecord =>
      refine ⟨_, _, rfl, Source.systemInfo.follows_reader, ?_⟩
      exact (SystemInfo.integerFields_isOf f mem inRecord).map Snapshot.systemInfo fun _ => rfl
  | @config f mem record inRecord =>
      exact ⟨_, _, rfl, Config.follows_reader, Config.integerFields_isOf f mem inRecord⟩

theorem Json.exists_decode_eq_ok_iff {read : Reader α} {ofTree? : Tree → Option α} {v : Tree}
    {text : String} (hread : read.Follows ofTree?) (h : v.IsText text) :
    (∃ a, Json.decode read text = .ok a) ↔ (ofTree? v).isSome := by
  simp only [decode_eq_ok_iff hread h, Option.isSome_iff_exists]

/-- A number written as `t` in the place of an integer field is decoded if and only if `t` is
accepted, the rest of the text being in order, which it is if it decodes with a zero in this place.
Then the field holds exactly the integer that `t` denotes. With decimals or an exponent nothing is
decoded. -/
theorem decode_integer {n : Numeral} {t : List Char} {text zeroText : String}
    (hplace : IntegerPlace decode fill kind get?) (hn : n.IsWritten t)
    (htext : (fill (.number n)).IsText text)
    (hzero : (fill (.number (.natural 0))).IsText zeroText) :
    ((∃ a, decode text = .ok a) ↔
      (∃ i, kind.Accepts t i) ∧ ∃ a, decode zeroText = .ok a) ∧
    (∀ a, decode text = .ok a → ∃ i, kind.Accepts t i ∧ get? a = some i) ∧
    ('.' ∈ t ∨ 'e' ∈ t ∨ 'E' ∈ t → ∃ error, decode text = .error error) := by
  obtain ⟨read, ofTree?, rfl, hread, hfocus⟩ := hplace.exists_focuses
  obtain ⟨rest, hrest⟩ := hfocus.isSome_iff
  have haccepts : (kind.integer? n).isSome ↔ ∃ i, kind.Accepts t i := by
    simp only [Option.isSome_iff_exists, IntegerKind.integer?_eq_some_iff hn]
  have hrestZero : (∃ a, Json.decode read zeroText = .ok a) ↔ rest := by
    have hvalue : kind.integer? (.natural 0) = some 0 :=
      (IntegerKind.integer?_eq_some_iff (Numeral.isWritten_natural 0)).mpr kind.accepts_zero
    rw [exists_decode_eq_ok_iff hread hzero, hrest, hvalue, Option.isSome_some, eq_self, true_and]
  have hdecoded (a : α) (h : Json.decode read text = .ok a) :
      ∃ i, kind.Accepts t i ∧ get? a = some i := by
    have htree := (decode_eq_ok_iff hread htext).mp h
    obtain ⟨i, hi⟩ := Option.isSome_iff_exists.mp ((hrest n).mp (by rw [htree]; rfl)).1
    exact ⟨i, (IntegerKind.integer?_eq_some_iff hn).mp hi, (hfocus.get?_eq htree).trans hi⟩
  refine ⟨?_, hdecoded, fun hmark => ?_⟩
  · rw [hrestZero, ← haccepts, ← hrest, exists_decode_eq_ok_iff hread htext]
  · cases hdecode : Json.decode read text with
    | error error => exact ⟨error, rfl⟩
    | ok a =>
        obtain ⟨i, hi, -⟩ := hdecoded a hdecode
        obtain ⟨hpoint, he, hE⟩ := hi.plain
        simp [hpoint, he, hE] at hmark

/-- The greatest counter of a host, which is given as an array. -/
theorem decode_integer_greatest :
    let text := "\x7b\"hosts\":[[\"::1\",18446744073709551615]]\x7d"
    ∃ snapshot, Source.hosts.decode text = .ok snapshot ∧
      (snapshot.hosts?.bind fun rows => rows[0]?).bind (fun h => some (h.bytes.toNat : Int)) =
        some 18446744073709551615 := by
  intro text
  let t := "18446744073709551615".toList
  let zeroText := "\x7b\"hosts\":[[\"::1\",0]]\x7d"
  let f : IntegerField HostTraffic := ⟨1, "bytes", .unsigned64, fun h => some h.bytes.toNat⟩
  have hplace := @IntegerPlace.host f List.mem_cons_self (.member [] "hosts" [])
    (.item [.text (utf16 "::1")] []) [] [] rfl rfl
  have hwhole : IsWhole t := .digits rfl (by decide) (List.all_eq_true.mp rfl)
  have hn : (Token.numeral ⟨false, t, [], none⟩).IsWritten t := hwhole.isWritten
  have hnZero : (Token.numeral (.natural 0)).IsWritten ['0'] := Numeral.isWritten_natural 0
  let tree (n : Numeral) : Tree :=
    .object [("hosts", .list [.list [.text (utf16 "::1"), .number n]])]
  have htext : (tree ⟨false, t, [], none⟩).IsText text := by
    dsimp only [tree, text]
    refine ⟨[], by simp, ?_⟩
    refine .mark '{' (.text (.plain (by simp)) (.mark ':' (.mark '[' (.mark '[' ?_))))
    refine .text (.plain (by simp)) (.mark ',' (.written hn ?_))
    exact .mark ']' (.mark ']' (.mark '}' (.nil [])))
  have hzero : (tree (.natural 0)).IsText zeroText := by
    dsimp only [tree, zeroText]
    refine ⟨[], by simp, ?_⟩
    refine .mark '{' (.text (.plain (by simp)) (.mark ':' (.mark '[' (.mark '[' ?_))))
    refine .text (.plain (by simp)) (.mark ',' (.written hnZero ?_))
    exact .mark ']' (.mark ']' (.mark '}' (.nil [])))
  obtain ⟨hiff, hexact, -⟩ := decode_integer hplace hn htext hzero
  have hrest := (decode_eq_ok_iff Source.hosts.follows_reader hzero).mpr rfl
  have haccepts : IntegerKind.unsigned64.Accepts t 18446744073709551615 :=
    ⟨hwhole, by decide, by decide⟩
  obtain ⟨snapshot, hdecode⟩ := hiff.mpr ⟨⟨_, haccepts⟩, _, hrest⟩
  obtain ⟨i, ⟨-, -, hi⟩, hget⟩ := hexact snapshot hdecode
  exact ⟨snapshot, hdecode, hget.trans (congrArg some hi)⟩

end Telemetry
