import NodeAlerts.Alert.Record
import NodeAlerts.Proofs.Families
import NodeAlerts.Proofs.Seconds
import NodeAlerts.Proofs.Values

/-!
# Alert records on the wire

A record is written as one object: its seven fields, and beside them the further members that it
carries.  `Record.ofObject?_eq` says how it is read from one: each field by its name, and all other
members as they are.

A record is well-formed (`Record.WellFormed`) if its further members are an object, with its keys in
order at any depth, and have none of the names of the fields.  Records that were read are
(`wellFormed_of_read?`), and so are the alerts about nodes (`FamilyKind.wellFormed_record`).

* `records_survive_the_wire`: a well-formed record comes back from the wire as it went there, with
  the time that its seconds tell, and an object from which a record was read comes back with the
  members it had;
* `ofObject?_again`: what was read can be written and read again, also where the calendar ends;
* `FamilyKind.alert_survives`: so can the alerts about nodes, whose times were read as well.
-/

namespace NodeAlerts

open NodeAlerts.Json

/-! ## Members -/

namespace Json.Row

variable {α : Type} {room : Nat} {fields : List (String × Tree)}

theorem filter_key_eq (h : (fields.map Prod.fst).Nodup) (name : String) :
    fields.filter (fun f => [name].contains f.1) =
      ((Sorted.get? name fields).map (Prod.mk name)).toList := by
  induction fields with
  | nil => rfl
  | cons f rest ih =>
      obtain ⟨hnot, hrest⟩ := List.nodup_cons.1 h
      rw [List.filter_cons, ih hrest, Sorted.get?]
      by_cases hname : name = f.1
      · subst hname
        rw [Sorted.get?_eq_none_of_not_mem hnot]
        simp
      · rw [if_neg hname, if_neg (by simpa using Ne.symm hname)]

theorem take_members (h : (fields.map Prod.fst).Nodup) (name : String) :
    take [name] (.members room fields) =
      some ((Sorted.get? name fields).map (Prod.mk room), .members room fields) := by
  rw [take, filter_key_eq h]
  cases Sorted.get? name fields <;> rfl

/-- A field of an object is read by its name, and leaves the object as it was. -/
theorem run_required_bind {β : Type} (h : (fields.map Prod.fst).Nodup) (name : String)
    (read : Reader α) (next : α → RowM β) :
    (required [name] read >>= next).run (.members room fields) =
      ((Sorted.get? name fields).bind (read room)).bind fun a =>
        (next a).run (.members room fields) := by
  show ((take [name] (.members room fields)).bind _).bind _ = _
  rw [take_members h]
  cases Sorted.get? name fields with
  | none => rfl
  | some tree =>
      show ((read room tree).bind _).bind _ = (read room tree).bind _
      rw [Option.bind_assoc]
      rfl

end Json.Row

/-! ## Objects -/

namespace Json.Object

variable {α : Type} (o : Object)

/-- The members of an object as they would be written. -/
def trees : List (String × Tree) := o.entries.map fun m => (m.1, m.2.toTree)

/-- The greatest depth of the members of an object. -/
def depth : Nat := Value.membersDepth o.entries

/-- A member of an object, as a reader takes it. -/
def readAs? (room : Nat) (read : Reader α) (name : String) : Option α :=
  (o.get? name).bind fun v => read room v.toTree

theorem toTree_ofObject : (Value.ofObject o).toTree =
    .object (o.trees.map fun m => (some m.1, m.2)) := by
  rw [Value.ofObject, Value.toTree, Value.memberTrees_eq_map, trees, List.map_map]
  rfl

theorem keyed?_trees : keyed? (o.trees.map fun m => (some m.1, m.2)) = some o.trees := by
  have hkeyed : keyed? (o.trees.map fun m => (some m.1, m.2)) = some (o.trees.map id) :=
    mapM_map_eq_some fun m _ => rfl
  rw [hkeyed, List.map_id]

theorem nodup_trees : (o.trees.map Prod.fst).Nodup := by
  rw [trees, List.map_map]
  exact Sorted.nodup_of_increasing o.increasing

theorem bind_get?_trees (room : Nat) (read : Reader α) (name : String) :
    (Sorted.get? name o.trees).bind (read room) = o.readAs? room read name := by
  rw [trees, Sorted.get?_map Value.toTree, Option.bind_map]
  rfl

/-- A field of an object is read by its name, whatever is read next. -/
theorem run_required_bind {β : Type} (room : Nat) (read : Reader α) (name : String)
    (next : α → RowM β) :
    (Row.required [name] read >>= next).run (.members room o.trees) =
      (o.readAs? room read name).bind fun a => (next a).run (.members room o.trees) := by
  rw [Row.run_required_bind o.nodup_trees, bind_get?_trees]

end Json.Object

theorem AlertCode.ordered_toValue (c : AlertCode) : c.toValue.Ordered := by
  refine Value.ordered_ofObject_ofList ?_
  simp only [List.forall_mem_cons]
  exact ⟨.text c.name, .text c.code, nofun⟩

/-- The type of an alert is read as it was written. -/
theorem AlertCode.reader_toTree (c : AlertCode) (room : Nat) :
    reader (room + 1) c.toValue.toTree = some c := by
  have hget : ∀ name,
      (Table.ofList [("name", Value.text c.name), ("code", .text c.code)]).get? name =
        Sorted.get? name [("name", Value.text c.name), ("code", .text c.code)] :=
    Table.get?_ofList (show ["name", "code"].Nodup by decide)
  rw [toValue, Object.toTree_ofObject, reader, Row.read, Row.ofTree?, Object.keyed?_trees]
  simp only [Option.bind_eq_bind, Option.bind_some, Option.pure_def, Object.run_required_bind,
    Object.readAs?, hget]
  rfl

namespace Record

/-! ## Reading -/

/-- The members of an object that are no fields of a record. -/
def further (o : Object) : Object :=
  Table.ofList (o.entries.filter fun m => !fieldNames.contains m.1)

theorem get?_further (o : Object) (key : String) :
    (further o).get? key = if key ∈ fieldNames then none else o.get? key := by
  have hincreasing : Sorted.Increasing (o.entries.filter fun m => !fieldNames.contains m.1) :=
    List.Pairwise.filter _ o.increasing
  rw [further, Table.get?_ofList (Sorted.nodup_of_increasing hincreasing),
    Sorted.get?_filter fun key => !fieldNames.contains key]
  by_cases hkey : key ∈ fieldNames
  · rw [if_pos hkey, if_neg (by simpa using hkey)]
  · rw [if_neg hkey, if_pos (by simpa using hkey)]
    rfl

theorem ordered_of_mem {o : Object} (h : (Value.ofObject o).Ordered) {m : String × Value}
    (hm : m ∈ o.entries) : m.2.Ordered := by
  cases h with
  | object hkeys hmembers => exact hmembers m hm

/-- Members that are no fields of a record are kept as they are. -/
theorem mapM_further {o : Object} (h : (Value.ofObject o).Ordered) :
    (o.trees.filter fun m => !fieldNames.contains m.1).mapM (fun m =>
      (Value.ofTree? o.depth m.2).map fun value => (m.1, value)) =
        some (o.entries.filter fun m => !fieldNames.contains m.1) := by
  rw [Object.trees, List.filter_map]
  refine (mapM_map_eq_some (f := id) fun m hm => ?_).trans (congrArg some (List.map_id _))
  have hmem : m ∈ o.entries := (List.mem_filter.1 hm).1
  have hdepth : m.2.depth ≤ o.depth := Value.depth_le_membersDepth hmem
  rw [Value.ofTree?_toTree (ordered_of_mem h hmem) hdepth]
  rfl

/-- **How a record is read.** -/
theorem ofObject?_eq {o : Object} (h : (Value.ofObject o).Ordered) :
    ofObject? o = do
      let code ← o.readAs? o.depth AlertCode.reader "alert_code"
      let severity ← o.readAs? o.depth Reader.severity "severity"
      let message ← o.readAs? o.depth Reader.text "message"
      let metric ← o.readAs? o.depth Reader.text "metric"
      let timestamp ← o.readAs? o.depth Reader.instant "timestamp"
      let parentId ← o.readAs? o.depth Reader.text "parent_id"
      let originId ← o.readAs? o.depth Reader.text "origin_id"
      return { code, severity, message, metric, timestamp, parentId, originId,
               extra := further o } := by
  rw [ofObject?, Object.toTree_ofObject, Value.ofObject, Value.depth, reader, ← Object.depth]
  simp only [Object.keyed?_trees, Option.bind_eq_bind, Option.bind_some, StateT.run'_eq,
    Object.run_required_bind, mapM_further h, StateT.run_pure, Option.pure_def,
    Option.map_eq_map, Option.map_bind, Option.bind_assoc, Function.comp_apply, Option.map_some]
  rfl

/-! ## Writing -/

theorem get?_toObject (r : Record) (key : String) :
    r.toObject.get? key = (r.extra.get? key).or (Sorted.get? key r.fields) := by
  have hfields : (r.fields.map Prod.fst).Nodup := show fieldNames.Nodup by decide
  rw [toObject, Table.get?_foldl_insert (Sorted.nodup_of_increasing r.extra.increasing),
    Table.get?_ofList hfields]
  rfl

theorem get?_toObject_of_not_mem (r : Record) {key : String} (h : key ∉ fieldNames) :
    r.toObject.get? key = r.extra.get? key := by
  have hfields : key ∉ r.fields.map Prod.fst := h
  rw [get?_toObject, Sorted.get?_eq_none_of_not_mem hfields, Option.or_none]

theorem isSome_get?_fields (r : Record) {name : String} (h : name ∈ fieldNames) :
    (Sorted.get? name r.fields).isSome := by
  revert h name
  simp only [fieldNames, List.forall_mem_cons]
  exact ⟨rfl, rfl, rfl, rfl, rfl, rfl, rfl, nofun⟩

/-- What a record carries beside its fields is an object, and has none of their names. -/
structure WellFormed (r : Record) : Prop where
  /-- The further members are in order. -/
  ordered : (Value.ofObject r.extra).Ordered
  /-- They are not named like a field. -/
  free : ∀ name ∈ fieldNames, r.extra.get? name = none

theorem wellFormed_of_extra_eq {r : Record} {members : List (String × Value)}
    (hextra : r.extra = Table.ofList members)
    (h : ∀ m ∈ members, m.1 ∉ fieldNames ∧ m.2.Ordered) : r.WellFormed := by
  constructor
  · rw [hextra]
    exact Value.ordered_ofObject_ofList fun m hm => (h m hm).2
  · intro name hname
    rw [hextra, Option.eq_none_iff_forall_ne_some]
    intro v hv
    exact (h _ (Table.mem_of_mem_ofList (Table.mem_entries_iff.2 hv))).1 hname

section Writing

variable {r : Record} (h : r.WellFormed)

include h

theorem WellFormed.get?_toObject {name : String} {v : Value}
    (hfield : Sorted.get? name r.fields = some v) : r.toObject.get? name = some v := by
  have hname : name ∈ r.fields.map Prod.fst :=
    List.mem_map_of_mem (f := Prod.fst) (Sorted.mem_of_get? hfield)
  rw [Record.get?_toObject, h.free name hname, hfield]
  rfl

theorem WellFormed.readAs?_toObject {α : Type} {room : Nat} {read : Reader α} (name : String)
    {v : Value} (hfield : Sorted.get? name r.fields = some v) :
    r.toObject.readAs? room read name = read room v.toTree := by
  rw [Object.readAs?, h.get?_toObject hfield]
  rfl

theorem WellFormed.further_toObject : further r.toObject = r.extra := by
  apply Table.ext_get?
  intro key
  rw [get?_further]
  by_cases hkey : key ∈ fieldNames
  · rw [if_pos hkey, h.free key hkey]
  · rw [if_neg hkey, r.get?_toObject_of_not_mem hkey]

end Writing

theorem ordered_ofFloat (x : Float) : (Value.ofFloat x).Ordered := by
  rw [Value.ofFloat]
  split
  · exact .number _
  · exact .null

theorem ordered_of_mem_fields {r : Record} {m : String × Value} (h : m ∈ r.fields) :
    m.2.Ordered := by
  simp only [fields, List.mem_cons, List.not_mem_nil, or_false] at h
  rcases h with rfl | rfl | rfl | rfl | rfl | rfl | rfl
  · exact r.code.ordered_toValue
  · exact .text _
  · exact .text _
  · exact .text _
  · exact ordered_ofFloat _
  · exact .text _
  · exact .text _

theorem WellFormed.ordered_toObject {r : Record} (h : r.WellFormed) :
    (Value.ofObject r.toObject).Ordered := by
  refine .object r.toObject.increasing fun m hm => ?_
  have hget : r.toObject.get? m.1 = some m.2 := Table.mem_entries_iff.1 hm
  rw [Record.get?_toObject] at hget
  rcases Option.or_eq_some_iff.1 hget with hextra | ⟨-, hfield⟩
  · exact ordered_of_mem h.ordered (Table.mem_entries_iff.2 hextra)
  · exact ordered_of_mem_fields (Sorted.mem_of_get? hfield)

/-- There is room for the type of an alert in its record. -/
theorem WellFormed.exists_depth {r : Record} (h : r.WellFormed) :
    ∃ room, r.toObject.depth = room + 1 := by
  have hmem : ("alert_code", r.code.toValue) ∈ r.toObject.entries :=
    Table.mem_entries_iff.2 (h.get?_toObject rfl)
  have hdepth : r.code.toValue.depth ≤ r.toObject.depth := Value.depth_le_membersDepth hmem
  refine Nat.exists_eq_add_one_of_ne_zero (Nat.ne_of_gt (Nat.lt_of_lt_of_le ?_ hdepth))
  exact Nat.succ_pos _

/-- A time is read as it was written, as far as doubles tell it. -/
theorem reader_ofInstant (room : Nat) (t : Instant) :
    Reader.instant room (Value.ofInstant t).toTree = Instant.ofSeconds? t.toSeconds := by
  rw [Value.ofInstant, Value.ofFloat]
  by_cases hfinite : Double.isFinite t.toSeconds = true
  · rw [if_pos hfinite]
    rfl
  · rw [if_neg hfinite, Instant.ofSeconds?, if_neg hfinite]
    rfl

/-- **A record is read as it was written**, with the time that is told by its seconds. -/
theorem WellFormed.ofObject?_toObject {r : Record} (h : r.WellFormed) :
    ofObject? r.toObject =
      (Instant.ofSeconds? r.timestamp.toSeconds).map fun t => { r with timestamp := t } := by
  obtain ⟨room, hroom⟩ := h.exists_depth
  have hseverity : ∀ room, Reader.severity room (Value.text r.severity.name).toTree =
      some r.severity := fun _ => Severity.ofName?_name r.severity
  have htext : ∀ room s, Reader.text room (Value.text s).toTree = some s := fun _ _ => rfl
  rw [ofObject?_eq h.ordered_toObject, hroom,
    h.readAs?_toObject "alert_code" rfl,
    h.readAs?_toObject "severity" rfl,
    h.readAs?_toObject "message" rfl,
    h.readAs?_toObject "metric" rfl,
    h.readAs?_toObject "timestamp" rfl,
    h.readAs?_toObject "parent_id" rfl,
    h.readAs?_toObject "origin_id" rfl,
    AlertCode.reader_toTree, hseverity, htext, htext, htext, htext, reader_ofInstant,
    h.further_toObject]
  rw [Option.map_eq_bind]
  rfl

/-! ## Reading, then writing -/

/-- **A record that was read is well-formed.** -/
theorem wellFormed_of_reader {room : Nat} {tree : Tree} {r : Record}
    (h : reader room tree = some r) : r.WellFormed := by
  cases room with
  | zero => cases h
  | succ room =>
      cases tree with
      | object trees =>
          obtain ⟨members, -, h⟩ := Option.bind_eq_some_iff.1 h
          obtain ⟨record, -, h⟩ := Option.bind_eq_some_iff.1 h
          obtain ⟨extra, hextra, h⟩ := Option.bind_eq_some_iff.1 h
          cases h
          refine wellFormed_of_extra_eq rfl fun m hm => ?_
          obtain ⟨f, hf, hfm⟩ := exists_of_mapM_eq_some hextra m hm
          obtain ⟨value, hvalue, rfl⟩ := Option.map_eq_some_iff.1 hfm
          exact ⟨by simpa using (List.mem_filter.1 hf).2, Value.ordered_of_ofTree? hvalue⟩
      | _ => cases h

theorem wellFormed_of_ofObject? {o : Object} {r : Record} (h : ofObject? o = some r) :
    r.WellFormed := by
  rw [ofObject?] at h
  exact wellFormed_of_reader h

theorem wellFormed_of_read? {bytes : List UInt8} {r : Record} (h : read? bytes = some r) :
    r.WellFormed := by
  obtain ⟨tree, -, htree⟩ := Option.bind_eq_some_iff.1 h
  exact wellFormed_of_reader htree

/-- What is known of a record that was read from an object. -/
structure ReadFrom (o : Object) (r : Record) : Prop where
  /-- The other members are kept. -/
  extra_eq : r.extra = further o
  /-- The fields were there. -/
  fields : ∀ name ∈ fieldNames, (o.get? name).isSome
  /-- The time was read from seconds. -/
  timed : ∃ seconds, Instant.ofSeconds? seconds = some r.timestamp

theorem readFrom_of_ofObject? {o : Object} {r : Record} (horder : (Value.ofObject o).Ordered)
    (hread : ofObject? o = some r) : ReadFrom o r := by
  have hsome : ∀ {α : Type} {read : Reader α} {name : String} {a : α},
      o.readAs? o.depth read name = some a → (o.get? name).isSome := by
    intro α read name a h
    obtain ⟨v, hv, -⟩ := Option.bind_eq_some_iff.1 h
    rw [hv]
    rfl
  rw [ofObject?_eq horder] at hread
  obtain ⟨code, hcode, hread⟩ := Option.bind_eq_some_iff.1 hread
  obtain ⟨severity, hseverity, hread⟩ := Option.bind_eq_some_iff.1 hread
  obtain ⟨message, hmessage, hread⟩ := Option.bind_eq_some_iff.1 hread
  obtain ⟨metric, hmetric, hread⟩ := Option.bind_eq_some_iff.1 hread
  obtain ⟨timestamp, htimestamp, hread⟩ := Option.bind_eq_some_iff.1 hread
  obtain ⟨parentId, hparentId, hread⟩ := Option.bind_eq_some_iff.1 hread
  obtain ⟨originId, horiginId, hread⟩ := Option.bind_eq_some_iff.1 hread
  cases hread
  refine ⟨rfl, ?_, ?_⟩
  · simp only [fieldNames, List.forall_mem_cons]
    exact ⟨hsome hcode, hsome hseverity, hsome hmessage, hsome hmetric, hsome htimestamp,
      hsome hparentId, hsome horiginId, nofun⟩
  · obtain ⟨v, -, hv⟩ := Option.bind_eq_some_iff.1 htimestamp
    obtain ⟨seconds, -, hseconds⟩ := Option.bind_eq_some_iff.1 hv
    exact ⟨seconds, hseconds⟩

/-- What was read is written back, but for the values of the fields. -/
theorem ReadFrom.get?_toObject {o : Object} {r : Record} (h : ReadFrom o r) {key : String}
    (hkey : key ∉ fieldNames) : r.toObject.get? key = o.get? key := by
  rw [r.get?_toObject_of_not_mem hkey, h.extra_eq, get?_further, if_neg hkey]

/-- What was read and is written back has the keys it had. -/
theorem ReadFrom.contains_toObject {o : Object} {r : Record} (h : ReadFrom o r) (key : String) :
    r.toObject.contains key = o.contains key := by
  by_cases hkey : key ∈ fieldNames
  · rw [Table.contains, Table.contains, h.fields key hkey, r.get?_toObject, Option.isSome_or,
      r.isSome_get?_fields hkey, Bool.or_true]
  · rw [Table.contains, Table.contains, h.get?_toObject hkey]

/-! ## There and back -/

/-- A record goes to the wire and comes back, unless its time is after the last one that can be
told in seconds. -/
theorem WellFormed.ofObject?_toObject_eq_ite {r : Record} (h : r.WellFormed)
    (ht : r.timestamp.InCalendar) :
    ofObject? r.toObject =
      if r.timestamp.micros ≤ Instant.lastTold.micros then
        some { r with timestamp := ⟨r.timestamp.reread⟩ }
      else none := by
  rw [h.ofObject?_toObject, Instant.ofSeconds?_toSeconds ht]
  split <;> rfl

/-- What was read can be written and read again. -/
theorem ofObject?_again {o : Object} {r : Record} (horder : (Value.ofObject o).Ordered)
    (hread : ofObject? o = some r) :
    ofObject? r.toObject = some { r with timestamp := ⟨r.timestamp.reread⟩ } := by
  obtain ⟨seconds, hseconds⟩ := (readFrom_of_ofObject? horder hread).timed
  rw [(wellFormed_of_ofObject? hread).ofObject?_toObject_eq_ite
      (Instant.inCalendar_of_ofSeconds? hseconds),
    if_pos (Instant.le_lastTold_of_ofSeconds? hseconds)]

/-- **Records survive the wire.**  A record comes back with all it was given, at the time that its
seconds tell; only in the last 512 microseconds of the calendar they tell none.  And what was read
is written with the members it was read from. -/
theorem records_survive_the_wire :
    (∀ r : Record, r.WellFormed → r.timestamp.InCalendar →
      (r.timestamp.micros ≤ Instant.lastTold.micros → ∃ t,
        ofObject? r.toObject = some { r with timestamp := t } ∧
          Instant.ofSeconds? r.timestamp.toSeconds = some t) ∧
      (Instant.lastTold.micros < r.timestamp.micros → ofObject? r.toObject = none)) ∧
    ∀ (o : Object) (r : Record), (Value.ofObject o).Ordered → ofObject? o = some r →
      (∀ key, key ∉ fieldNames → r.toObject.get? key = o.get? key) ∧
        ∀ key, r.toObject.contains key = o.contains key := by
  refine ⟨fun r h ht => ⟨fun hbefore => ?_, fun hafter => ?_⟩, fun o r horder hread => ?_⟩
  · refine ⟨⟨r.timestamp.reread⟩, ?_, ?_⟩
    · rw [h.ofObject?_toObject_eq_ite ht, if_pos hbefore]
    · rw [Instant.ofSeconds?_toSeconds ht, if_pos hbefore]
  · rw [h.ofObject?_toObject_eq_ite ht, if_neg (Int.not_le.2 hafter)]
  · have hfrom := readFrom_of_ofObject? horder hread
    exact ⟨fun key hkey => hfrom.get?_toObject hkey, hfrom.contains_toObject⟩

/-- A record at the given time, with further members of which one is an object. -/
def specimen (t : Instant) : Record where
  code := ⟨"NodeWentDownAlert", "cosmos_node_alert_1"⟩
  severity := .critical
  message := "node_1 is down"
  metric := "node_is_down"
  timestamp := t
  parentId := "chain_1"
  originId := "node_1"
  extra := Table.ofList
    [("value", .number (.int 42)), ("labels", .ofObject (Table.ofList [("zone", .text "eu")]))]

theorem wellFormed_specimen (t : Instant) : (specimen t).WellFormed := by
  refine wellFormed_of_extra_eq rfl ?_
  simp only [List.forall_mem_cons]
  refine ⟨⟨by decide, .number _⟩, ⟨by decide, Value.ordered_ofObject_ofList ?_⟩, nofun⟩
  simp only [List.forall_mem_cons]
  exact ⟨.text _, nofun⟩

/-- A record may give its time as a whole number of seconds. -/
def wholeSeconds : Object :=
  (specimen ⟨1700000000000000⟩).toObject.insert "timestamp" (.number (.int 1700000000))

theorem ordered_wholeSeconds : (Value.ofObject wholeSeconds).Ordered :=
  (wellFormed_specimen _).ordered_toObject.insert "timestamp" (.number _)

theorem ofObject?_wholeSeconds :
    ofObject? wholeSeconds = some (specimen ⟨1700000000000000⟩) := by rfl

theorem specimen_survives_the_wire :
    ((specimen ⟨1700000000500000⟩).WellFormed ∧
      ofObject? (specimen ⟨1700000000500000⟩).toObject = some (specimen ⟨1700000000500000⟩)) ∧
    (Value.ofObject wholeSeconds).Ordered ∧
      ofObject? wholeSeconds = some (specimen ⟨1700000000000000⟩) ∧
      (∀ key, key ∉ fieldNames →
        (specimen ⟨1700000000000000⟩).toObject.get? key = wholeSeconds.get? key) ∧
      ∀ key,
        (specimen ⟨1700000000000000⟩).toObject.contains key = wholeSeconds.contains key := by
  refine ⟨⟨wellFormed_specimen _, ?_⟩, ordered_wholeSeconds, ofObject?_wholeSeconds,
    records_survive_the_wire.2 _ _ ordered_wholeSeconds ofObject?_wholeSeconds⟩
  obtain ⟨t, hread, ht⟩ := (records_survive_the_wire.1 (specimen ⟨1700000000500000⟩)
    (wellFormed_specimen _) (by decide)).1 (by decide)
  have htime : Instant.ofSeconds? (Instant.toSeconds ⟨1700000000500000⟩) =
      some ⟨1700000000500000⟩ := by decide
  cases ht.symm.trans htime
  exact hread

/-- A record of the last microsecond of the calendar is written with the second after its end, and
refused by its reader. -/
theorem last_record_is_refused :
    (specimen .last).WellFormed ∧ (specimen .last).timestamp.InCalendar ∧
      ofObject? (specimen .last).toObject = none := by
  have hwell : (specimen .last).WellFormed := wellFormed_specimen _
  refine ⟨hwell, by decide, ?_⟩
  rw [hwell.ofObject?_toObject_eq_ite (by decide), if_neg (by decide)]

/-! ## Alerts -/

theorem wellFormed_of_extra_eq_measured {r : Record} {v : Value} {threshold : Float}
    (h : r.extra = Event.measures.measured v threshold) (hv : v.Ordered) : r.WellFormed := by
  refine wellFormed_of_extra_eq h ?_
  simp only [List.forall_mem_cons]
  exact ⟨⟨by decide, hv⟩, ⟨by decide, ordered_ofFloat threshold⟩, nofun⟩

theorem wellFormed_of_extra_eq_value {r : Record} {value : Float}
    (h : r.extra = Table.ofList [("value", .ofFloat value)]) : r.WellFormed := by
  refine wellFormed_of_extra_eq h ?_
  simp only [List.forall_mem_cons]
  exact ⟨⟨by decide, ordered_ofFloat value⟩, nofun⟩

/-- A record with the measures of an event beside its fields is well-formed. -/
theorem wellFormed_of_extra_eq_measures {r : Record} {e : Event} (h : r.extra = e.measures) :
    r.WellFormed := by
  cases e with
  | thresholdBreached _ value _ _ _ =>
      exact wellFormed_of_extra_eq_measured h (ordered_ofFloat value)
  | thresholdCleared _ value _ _ =>
      exact wellFormed_of_extra_eq_measured h (ordered_ofFloat value)
  | occurrencesBreached _ n _ _ => exact wellFormed_of_extra_eq_measured h (.number (.int n))
  | occurrencesCleared _ n _ _ => exact wellFormed_of_extra_eq_measured h (.number (.int n))
  | noChange => exact wellFormed_of_extra_eq_value h
  | valueUpdated => exact wellFormed_of_extra_eq_value h
  | _ => exact wellFormed_of_extra_eq (show r.extra = Table.ofList [] from h) nofun

end Record

/-- The alerts about nodes are well-formed. -/
theorem FamilyKind.wellFormed_record (k : FamilyKind) (x : Finding k.Metric) :
    (k.family.record x).WellFormed := by
  cases k with
  | cosmos => exact Record.wellFormed_of_extra_eq_measures rfl
  | substrate => exact Record.wellFormed_of_extra_eq_measures rfl
  | sample =>
      have hextra : (Sample.family.record x).extra = Table.ofList [] := rfl
      exact Record.wellFormed_of_extra_eq hextra nofun

section Published

variable {M : Type} [DecidableEq M] {f : Family M} {registry : Registry} {store : Store M}
  {p : Processed M}

theorem Monitoring.exists_seconds {m : Monitoring} {now : Instant} (h : m.timestamp = .ok now) :
    ∃ seconds, Instant.ofSeconds? seconds = some now := by
  rw [timestamp] at h
  split at h
  · rename_i t ht
    cases h
    exact ⟨_, ht⟩
  · cases h

theorem Family.time_classifyAll {config : ChainConfig} {origin : Origin} {now : Instant}
    {readings : List (M × Reading)} {node : NodeState M} {b : Batch M}
    (h : f.classifyAll config origin now readings node = .ok b) :
    ∀ x ∈ b.findings, x.time = now := by
  refine classifyAll_induction (P := fun _ found => ∀ x ∈ found, x.time = now) readings ?_
    node [] b nofun h
  intro node found m r one _ hfound hone x hx
  rcases List.mem_append.1 hx with hx | hx
  · exact hfound x hx
  · rcases classifyOne_cases hone with
      ⟨-, rfl⟩ | ⟨c, -, -, rfl⟩ | ⟨c, s, step, -, -, -, rfl⟩
    · cases hx
    · cases hx
    · obtain ⟨e, -, rfl⟩ := List.mem_map.1 hx
      rfl

/-- The time of an alert was read from seconds. -/
theorem Family.exists_seconds_of_process {payload : List UInt8}
    (h : f.process registry store payload = .ok p) :
    ∀ x ∈ p.findings, ∃ seconds, Instant.ofSeconds? seconds = some x.time := by
  refine process_induction
    (P := fun _ found => ∀ x ∈ found, ∃ seconds, Instant.ofSeconds? seconds = some x.time)
    h nofun ?_
  intro reports _ store found report one _ hfound hone x hx
  rcases List.mem_append.1 hx with hx | hx
  · exact hfound x hx
  · rcases processReport_cases hone with
      ⟨-, rfl⟩ | ⟨e, -, rfl⟩ | ⟨config, now, batch, -, hnow, hbatch, rfl⟩
    · cases hx
    · cases hx
    · rw [time_classifyAll hbatch x hx]
      exact Monitoring.exists_seconds hnow

end Published

/-- **Alerts about nodes survive the wire**, without exception: their times were read from seconds,
and can be told in seconds again. -/
theorem FamilyKind.alert_survives (k : FamilyKind) {registry : Registry} {store : Store k.Metric}
    {payload : List UInt8} {p : Processed k.Metric}
    (h : k.family.process registry store payload = .ok p) {x : Finding k.Metric}
    (hx : x ∈ p.findings) :
    Record.ofObject? (k.family.record x).toObject =
      some { k.family.record x with timestamp := ⟨x.time.reread⟩ } := by
  obtain ⟨seconds, hseconds⟩ := Family.exists_seconds_of_process h x hx
  rw [(k.wellFormed_record x).ofObject?_toObject_eq_ite
      (Instant.inCalendar_of_ofSeconds? hseconds)]
  exact if_pos (Instant.le_lastTold_of_ofSeconds? hseconds)

end NodeAlerts
