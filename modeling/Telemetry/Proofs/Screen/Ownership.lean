import Telemetry.Dashboard
import Telemetry.Proofs.Screen.Place

/-!
Which source owns which place.

The four sources share one screen, and the metrics among them name their fields
themselves. What keeps them apart is the slot: a field of a metric starts with
`metric-`, whatever the metric is called, and no field of the system does. The
main statement is `Dashboard.owner?_of_mem_writesOf`: whatever a snapshot writes
goes to a place that the source of the snapshot owns.
-/

namespace Telemetry

/-- Whether a field shows a metric, which its slot tells. -/
def isMetricSlot (slot : String) : Bool := "metric-".toList.isPrefixOf slot.toList

/-- The slots of the fields that show the machine. -/
def systemSlots : List String := systemFields.map fun field => field.2

theorem mem_systemSlots {slot : String} :
    slot ∈ systemSlots ↔
      slot = hostnameSlot ∨ slot = platformSlot ∨ slot = cpuCountSlot ∨ slot = uptimeSlot := by
  simp [systemSlots, systemFields]

/-- The source that writes to a table. -/
def Table.source : Table → Source
  | .connections => .connections
  | .hosts => .hosts

/-- The source that a place belongs to. Charts and the fields of metrics belong to the
metrics, and a field that shows neither a metric nor the machine belongs to nobody. -/
def Place.owner? : Place → Option Source
  | .field slot =>
    if isMetricSlot slot then some .metrics
    else if slot ∈ systemSlots then some .systemInfo
    else none
  | .table t => some t.source
  | .chart _ => some .metrics

/-! ### Slots of metrics -/

theorem isMetricSlot_metricSlot (name : String) : isMetricSlot (Readout.metricSlot name) := by
  rw [isMetricSlot, List.isPrefixOf_iff_prefix, Readout.metricSlot, String.toList_append]
  exact List.prefix_append _ _

theorem isMetricSlot_of_mem_systemSlots {slot : String} (h : slot ∈ systemSlots) :
    isMetricSlot slot = false := by
  revert slot
  decide

theorem Place.owner?_field_metric {slot : String} (h : isMetricSlot slot) :
    (Place.field slot).owner? = some .metrics := by
  simp [owner?, h]

theorem Place.owner?_field_system {slot : String} (h : slot ∈ systemSlots) :
    (Place.field slot).owner? = some .systemInfo := by
  simp [owner?, h, isMetricSlot_of_mem_systemSlots h]

/-! ### Every write goes to a place of its source -/

theorem Snapshot.owner?_of_mem_writes {snapshot : Snapshot} {w : Write}
    (h : w ∈ snapshot.writes) : w.place.owner? = some snapshot.source := by
  cases snapshot with
  | metrics samples =>
      obtain ⟨sample, -, rfl⟩ := List.mem_map.1 h
      exact Place.owner?_field_metric (isMetricSlot_metricSlot sample.name)
  | connections rows =>
      obtain rfl := List.mem_singleton.1 h
      rfl
  | hosts rows =>
      obtain rfl := List.mem_singleton.1 h
      rfl
  | systemInfo info =>
      simp only [Snapshot.writes, SystemInfo.writes, List.mem_cons, List.not_mem_nil,
        or_false] at h
      rcases h with rfl | rfl | rfl | rfl <;>
        exact Place.owner?_field_system (by simp [mem_systemSlots])

theorem Window.place_of_writeOf? {samples : List MetricSample} {label : String} {c : Chart}
    {window : Window} {w : Write} (h : window.writeOf? samples label c = some w) :
    w.place = .chart c := by
  rw [writeOf?] at h
  split at h
  · rw [← Option.some.inj h]
    rfl
  · cases h

theorem ChartHistory.place_of_mem_writes {history : ChartHistory} {samples : List MetricSample}
    {label : String} {w : Write} (h : w ∈ history.writes samples label) :
    ∃ c, w.place = .chart c := by
  obtain ⟨c, -, hw⟩ := List.mem_filterMap.1 h
  exact ⟨c, Window.place_of_writeOf? hw⟩

theorem Dashboard.owner?_of_mem_writesOf {d : Dashboard} {label : String} {snapshot : Snapshot}
    {w : Write} (h : w ∈ d.writesOf label snapshot) : w.place.owner? = some snapshot.source := by
  cases snapshot with
  | metrics samples =>
      rcases List.mem_append.1 h with h | h
      · exact Snapshot.owner?_of_mem_writes h
      · obtain ⟨c, hc⟩ := ChartHistory.place_of_mem_writes h
        rw [hc]
        rfl
  | connections rows => exact Snapshot.owner?_of_mem_writes h
  | hosts rows => exact Snapshot.owner?_of_mem_writes h
  | systemInfo info => exact Snapshot.owner?_of_mem_writes h

theorem Dashboard.place_ne_of_mem_writesOf {d : Dashboard} {label : String} {snapshot : Snapshot}
    {p : Place} (hp : p.owner? ≠ some snapshot.source) :
    ∀ w ∈ d.writesOf label snapshot, w.place ≠ p := by
  rintro w hw rfl
  exact hp (owner?_of_mem_writesOf hw)

end Telemetry
