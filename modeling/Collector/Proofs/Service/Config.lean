import Collector.Proofs.Checkpoint.Codec
import Collector.Proofs.Json.Fields
import Collector.Proofs.Json.Natural
import Collector.Service.Config

/-!
# Settings are read back

The settings of `harvest-service` are written with all of their eight fields.  They are
read from an object that has any of these fields, in any order and among others, or from
an array of the first ones (`ServiceConfig.Gives`): a field that is given has its value,
and one that is not has its default.

Main statements:

* `ServiceConfig.decode?_eq_some_iff`: the bytes that are read as settings.
* `ServiceConfig.decode?_members`: any of the fields are read, in any order.
* `ServiceConfig.decode?_encode`: settings are read from their stored form.
* `ServiceConfig.given_over_defaults`: what is given is read, and nothing else is changed.
-/

namespace Collector

namespace Json

/-! ## Members by name -/

theorem numeralMembers_iff {members : List (String × Json)} :
    NumeralMembers members ↔ ∀ m ∈ members, m.2.Numeral := by
  induction members with
  | nil => exact iff_of_true trivial (by simp)
  | cons m members ih => rw [List.forall_mem_cons, ← ih]; rfl

/-- The members of fields that may be missing. -/
def present (fields : List (String × Option Json)) : List (String × Json) :=
  fields.filterMap fun field => field.2.map (Prod.mk field.1)

theorem named_of_notMem {members : List (String × Json)} {name : String}
    (h : ∀ m ∈ members, m.1 ≠ name) : named members name = [] := by
  rw [named, List.filter_eq_nil_iff.2 fun m hm => by simpa using h m hm, List.map_nil]

theorem name_mem_of_mem_present {fields : List (String × Option Json)} {m : String × Json}
    (h : m ∈ present fields) : m.1 ∈ fields.map Prod.fst := by
  obtain ⟨field, hfield, hm⟩ := List.mem_filterMap.1 h
  obtain ⟨v, -, rfl⟩ := Option.map_eq_some_iff.1 hm
  exact List.mem_map.2 ⟨field, hfield, rfl⟩

/-- Fields with different names are found by their names. -/
theorem named_present {fields : List (String × Option Json)} (h : (fields.map Prod.fst).Nodup)
    {field : String × Option Json} (hfield : field ∈ fields) :
    named (present fields) field.1 = field.2.toList := by
  induction fields with
  | nil => cases hfield
  | cons first fields ih =>
    obtain ⟨hnotMem, hnodup⟩ := List.nodup_cons.1 h
    obtain ⟨name, value⟩ := first
    have hsplit : ∀ name', named (present ((name, value) :: fields)) name' =
        (if name = name' then value.toList else []) ++ named (present fields) name' := by
      intro name'
      cases value <;> by_cases hname : name = name' <;> simp [present, named, hname]
    rw [hsplit]
    -- the names differ, so only one side of the split has the field
    rcases List.mem_cons.1 hfield with rfl | hfield
    · rw [if_pos rfl, named_of_notMem, List.append_nil]
      exact fun m hm heq => hnotMem (heq ▸ name_mem_of_mem_present hm)
    · have hname : name ≠ field.1 := by
        rintro heq
        rw [heq] at hnotMem
        exact hnotMem (List.mem_map.2 ⟨field, hfield, rfl⟩)
      rw [if_neg hname, List.nil_append, ih hnodup hfield]

/-- Fields are found in any order, and among members with other names. -/
theorem named_eq_of_perm {fields : List (String × Option Json)}
    {members others : List (String × Json)} (h : (fields.map Prod.fst).Nodup)
    (hothers : ∀ m ∈ others, m.1 ∉ fields.map Prod.fst)
    (hperm : members.Perm (present fields ++ others)) {field : String × Option Json}
    (hfield : field ∈ fields) : named members field.1 = field.2.toList := by
  have hnone : named others field.1 = [] := named_of_notMem fun m hm heq =>
    hothers m hm (heq ▸ List.mem_map_of_mem hfield)
  have hfound : (named members field.1).Perm (named (present fields) field.1 ++ []) := by
    rw [← hnone, named, named, named, ← List.map_append, ← List.filter_append]
    exact (hperm.filter _).map _
  rw [List.append_nil, named_present h hfield] at hfound
  -- at most one member was found, so there is only one order
  obtain ⟨name, _ | v⟩ := field
  · exact List.perm_nil.1 hfound
  · exact List.perm_singleton.1 hfound

/-- What stands under a name in a value that was written. -/
theorem under_tree (members : List (String × Json)) (name : String) :
    Node.under (members.map fun m => (m.1, m.2.tree)) name = (named members name).map tree := by
  have hfilter : (members.map fun m => (m.1, m.2.tree)).filter (fun m => m.1 = name) =
      (members.filter fun m => m.1 = name).map fun m => (m.1, m.2.tree) := List.filter_map
  rw [Node.under, hfilter, named, List.map_map, List.map_map]
  rfl

end Json

namespace ServiceConfig

open Json
open Json.Grammar (Element)

/-! ## Settings that are given -/

/-- Times have as many bits as their fields. -/
def Fits (c : ServiceConfig) : Prop :=
  c.heartbeatIntervalMs < 2 ^ timeWidth ∧ c.restartDelayMs < 2 ^ timeWidth ∧
    c.restartMaxDelayMs < 2 ^ timeWidth
  deriving Decidable

/-- Some of the settings. -/
structure Given where
  /-- The topic of task definitions. -/
  taskTopic : Option String := none
  /-- The name of the heartbeat transport. -/
  heartbeat : Option String := none
  /-- The time between two heartbeats. -/
  heartbeatIntervalMs : Option ℕ := none
  /-- The first delay before a restart. -/
  restartDelayMs : Option ℕ := none
  /-- The longest delay before a restart. -/
  restartMaxDelayMs : Option ℕ := none
  /-- A name for the host, or that it has none. -/
  host : Option (Option String) := none
  /-- Addresses of the broker. -/
  brokers : Option (List String) := none
  /-- Addresses of the coordination service. -/
  coordination : Option (List String) := none

namespace Given

/-- The default settings with the given ones in their places. -/
def config (g : Given) : ServiceConfig :=
  let c : ServiceConfig := {}
  { taskTopic := g.taskTopic.getD c.taskTopic
    heartbeat := g.heartbeat.getD c.heartbeat
    heartbeatIntervalMs := g.heartbeatIntervalMs.getD c.heartbeatIntervalMs
    restartDelayMs := g.restartDelayMs.getD c.restartDelayMs
    restartMaxDelayMs := g.restartMaxDelayMs.getD c.restartMaxDelayMs
    host := g.host.getD c.host
    brokers := g.brokers.getD c.brokers
    coordination := g.coordination.getD c.coordination }

/-- All settings of a service, each of them given. -/
def all (c : ServiceConfig) : Given :=
  ⟨some c.taskTopic, some c.heartbeat, some c.heartbeatIntervalMs, some c.restartDelayMs,
    some c.restartMaxDelayMs, some c.host, some c.brokers, some c.coordination⟩

/-- The fields with what is written in them. -/
def fields (g : Given) : List (String × Option Json) :=
  [("task_topic", g.taskTopic.map .string), ("heartbeat", g.heartbeat.map .string),
    ("heartbeat_interval_ms", g.heartbeatIntervalMs.map timeJson),
    ("restart_delay_ms", g.restartDelayMs.map timeJson),
    ("restart_max_delay_ms", g.restartMaxDelayMs.map timeJson),
    ("host", g.host.map fun host => host.elim .null .string),
    ("brokers", g.brokers.map addressesJson), ("coordination", g.coordination.map addressesJson)]

/-- The members of an object that has what is given. -/
def members (g : Given) : List (String × Json) := present g.fields

theorem map_fst_fields (g : Given) : g.fields.map Prod.fst = fieldNames := rfl

end Given

/-- All settings are written. -/
theorem toJson_eq (c : ServiceConfig) : c.toJson = .object (Given.all c).members := rfl

/-- The tree gives these settings and no others. -/
def Gives (node : Node) (g : Given) : Prop :=
  ∃ topic heartbeat interval first longest host brokers coordination,
    Node.Fields fieldNames node
      [topic, heartbeat, interval, first, longest, host, brokers, coordination] ∧
    Option.Rel Node.Says topic g.taskTopic ∧ Option.Rel Node.Says heartbeat g.heartbeat ∧
    Option.Rel (Node.IsNatural timeWidth) interval g.heartbeatIntervalMs ∧
    Option.Rel (Node.IsNatural timeWidth) first g.restartDelayMs ∧
    Option.Rel (Node.IsNatural timeWidth) longest g.restartMaxDelayMs ∧
    Option.Rel Node.SaysOrNull host g.host ∧ Option.Rel Node.SaysAll brokers g.brokers ∧
    Option.Rel Node.SaysAll coordination g.coordination

/-! ## Reading -/

section Fields

variable {slot : Option Node}

/-- A field is read by its kind where it is there, and has its default where it is not. -/
theorem field?_eq_some_iff {α : Type} {default : ServiceConfig → α} {read : Node → Option α}
    {Says : Node → α → Prop} (hread : ∀ node a, read node = some a ↔ Says node a) {a : α} :
    field? default read slot = some a ↔
      ∃ given, Option.Rel Says slot given ∧ given.getD (default {}) = a := by
  simp only [field?, Node.optional?_eq_some_iff, hread]

theorem textField?_iff {default : ServiceConfig → String} {s : String} :
    field? default Node.string? slot = some s ↔
      ∃ given, Option.Rel Node.Says slot given ∧ given.getD (default {}) = s :=
  field?_eq_some_iff fun _ _ => Node.string?_eq_some_iff

theorem timeField?_iff {default : ServiceConfig → ℕ} {ms : ℕ} :
    field? default (Node.natural? timeWidth) slot = some ms ↔
      ∃ given, Option.Rel (Node.IsNatural timeWidth) slot given ∧ given.getD (default {}) = ms :=
  field?_eq_some_iff fun _ _ => Node.natural?_eq_some_iff

theorem hostField?_iff {default : ServiceConfig → Option String} {host : Option String} :
    field? default Node.nullableString? slot = some host ↔
      ∃ given, Option.Rel Node.SaysOrNull slot given ∧ given.getD (default {}) = host :=
  field?_eq_some_iff fun _ _ => Node.nullableString?_eq_some_iff

theorem addressesField?_iff {default : ServiceConfig → List String} {addresses : List String} :
    field? default Node.strings? slot = some addresses ↔
      ∃ given, Option.Rel Node.SaysAll slot given ∧ given.getD (default {}) = addresses :=
  field?_eq_some_iff fun _ _ => Node.strings?_eq_some_iff

end Fields

/-- A tree is read field by field. -/
theorem ofNode?_eq_some_iff {node : Node} {c : ServiceConfig} :
    ofNode? node = some c ↔ ∃ g, Gives node g ∧ g.config = c := by
  rw [ofNode?]
  constructor
  · intro h
    split at h
    · rename_i hslots
      split at h
      · rename_i ht hh hi hf hl hn hb hc
        obtain ⟨topic, htopic, rfl⟩ := textField?_iff.1 ht
        obtain ⟨heartbeat, hheartbeat, rfl⟩ := textField?_iff.1 hh
        obtain ⟨interval, hinterval, rfl⟩ := timeField?_iff.1 hi
        obtain ⟨first, hfirst, rfl⟩ := timeField?_iff.1 hf
        obtain ⟨longest, hlongest, rfl⟩ := timeField?_iff.1 hl
        obtain ⟨host, hhost, rfl⟩ := hostField?_iff.1 hn
        obtain ⟨brokers, hbrokers, rfl⟩ := addressesField?_iff.1 hb
        obtain ⟨coordination, hcoordination, rfl⟩ := addressesField?_iff.1 hc
        exact ⟨⟨topic, heartbeat, interval, first, longest, host, brokers, coordination⟩,
          ⟨_, _, _, _, _, _, _, _, Node.slots?_eq_some_iff.1 hslots, htopic, hheartbeat, hinterval,
            hfirst, hlongest, hhost, hbrokers, hcoordination⟩, Option.some.inj h⟩
      · cases h
    · cases h
  · rintro ⟨g, ⟨topic, heartbeat, interval, first, longest, host, brokers, coordination, hslots,
      htopic, hheartbeat, hinterval, hfirst, hlongest, hhost, hbrokers, hcoordination⟩, rfl⟩
    simp only [Node.slots?_eq_some_iff.2 hslots, textField?_iff.2 ⟨_, htopic, rfl⟩,
      textField?_iff.2 ⟨_, hheartbeat, rfl⟩, timeField?_iff.2 ⟨_, hinterval, rfl⟩,
      timeField?_iff.2 ⟨_, hfirst, rfl⟩, timeField?_iff.2 ⟨_, hlongest, rfl⟩,
      hostField?_iff.2 ⟨_, hhost, rfl⟩, addressesField?_iff.2 ⟨_, hbrokers, rfl⟩,
      addressesField?_iff.2 ⟨_, hcoordination, rfl⟩, Given.config]

/-- The bytes that are read as settings. -/
theorem decode?_eq_some_iff {bytes : Bytes} {c : ServiceConfig} :
    decode? bytes = some c ↔ ∃ node g, Element node bytes ∧ Gives node g ∧ g.config = c := by
  simp only [decode?, Option.bind_eq_some_iff, Node.ofBytes?_eq_some_iff, ofNode?_eq_some_iff,
    exists_and_left]

/-- Settings that were read fit. -/
theorem Gives.fits {node : Node} {g : Given} (h : Gives node g) : g.config.Fits := by
  obtain ⟨_, _, _, _, _, _, _, _, -, -, -, hinterval, hfirst, hlongest, -⟩ := h
  have htime : ∀ {slot : Option Node} {given : Option ℕ} {default : ℕ},
      Option.Rel (Node.IsNatural timeWidth) slot given → default < 2 ^ timeWidth →
        given.getD default < 2 ^ timeWidth := by
    rintro _ _ _ (h | -) hdefault
    · exact h.2
    · exact hdefault
  exact ⟨htime hinterval (by decide), htime hfirst (by decide), htime hlongest (by decide)⟩

/-- Objects that have the same under the names of the fields are read alike. -/
theorem ofNode?_object_congr {members members' : List (List Piece × Node)}
    {ms ms' : List (String × Node)} (h : Node.Keyed members ms) (h' : Node.Keyed members' ms')
    (hsame : ∀ name ∈ fieldNames, Node.under ms name = Node.under ms' name) :
    ofNode? (.object members) = ofNode? (.object members') := by
  have hslot : ∀ name ∈ fieldNames, Node.slot? ms name = Node.slot? ms' name := fun name hname =>
    Option.ext fun slot => by rw [Node.slot?_eq_some_iff, Node.slot?_eq_some_iff, hsame name hname]
  have hslots := mapM_congr hslot
  simp only [ofNode?, Node.slots?, Node.keyed?_eq_some_iff.2 h, Node.keyed?_eq_some_iff.2 h',
    hslots]

/-! ## Writing -/

section Tree

variable {α : Type} {Says : Node → α → Prop} {write : α → Json} {given : Option α}

/-- What is written in a field says what is given. -/
theorem rel_tree (h : ∀ a ∈ given, Says (write a).tree a) :
    Option.Rel Says ((given.map write).map tree) given := by
  cases given with
  | none => exact .none
  | some a => exact .some (h a rfl)

/-- The numbers in a field that was written can be read. -/
theorem numeral_given (h : ∀ a ∈ given, (write a).Numeral) :
    ∀ v ∈ given.map write, v.Numeral := by
  intro v hv
  obtain ⟨a, ha, rfl⟩ := Option.map_eq_some_iff.1 hv
  exact h a ha

end Tree

theorem Given.numeral_fields {g : Given} (hfits : g.config.Fits) :
    ∀ field ∈ g.fields, ∀ v ∈ field.2, v.Numeral := by
  have htime : ∀ {given : Option ℕ} {default : ℕ}, given.getD default < 2 ^ timeWidth →
      ∀ v ∈ given.map timeJson, v.Numeral := fun hlt =>
    numeral_given fun n hn => numeral_natural (by rwa [hn] at hlt)
  have hhost : ∀ host : Option String, (host.elim Json.null .string).Numeral := by
    rintro (_ | s) <;> exact trivial
  simp only [Given.fields, List.forall_mem_cons]
  exact ⟨numeral_given fun _ _ => trivial, numeral_given fun _ _ => trivial, htime hfits.1,
    htime hfits.2.1, htime hfits.2.2, numeral_given fun host _ => hhost host,
    numeral_given fun texts _ => numeralItems_strings texts,
    numeral_given fun texts _ => numeralItems_strings texts, nofun⟩

/-- The fields of an object that was written say what is given. -/
theorem gives_tree {g : Given} (hfits : g.config.Fits) {members : List (String × Json)}
    (h : ∀ field ∈ g.fields, named members field.1 = field.2.toList) :
    Gives (Json.object members).tree g := by
  have hslots : List.Forall₂ (fun name slot =>
      Node.under (members.map fun m => (m.1, m.2.tree)) name = slot.toList)
      (g.fields.map Prod.fst) (g.fields.map fun field => field.2.map tree) := by
    rw [List.forall₂_map_left_iff, List.forall₂_map_right_iff, List.forall₂_same]
    intro field hfield
    rw [under_tree, h field hfield]
    cases field.2 <;> rfl
  have htime : ∀ {given : Option ℕ} {default : ℕ}, given.getD default < 2 ^ timeWidth →
      Option.Rel (Node.IsNatural timeWidth) ((given.map timeJson).map tree) given := fun hlt =>
    rel_tree fun n hn => Node.isNatural_tree le_rfl (by rwa [hn] at hlt)
  exact ⟨_, _, _, _, _, _, _, _, .object (Node.keyed_treeMembers members) hslots,
    rel_tree fun s _ => Node.says_tree s, rel_tree fun s _ => Node.says_tree s, htime hfits.1,
    htime hfits.2.1, htime hfits.2.2, rel_tree fun text _ => Node.saysOrNull_tree text,
    rel_tree fun texts _ => Node.saysAll_tree texts,
    rel_tree fun texts _ => Node.saysAll_tree texts⟩

/-- An object that has any of the fields, in any order and among others, is read as what the fields
give. -/
theorem decode?_members {g : Given} (hfits : g.config.Fits) {members others : List (String × Json)}
    (hothers : ∀ m ∈ others, m.1 ∉ fieldNames ∧ m.2.Numeral)
    (hperm : members.Perm (g.members ++ others)) :
    decode? (Json.object members).toBytes = some g.config := by
  have hnumeral : (Json.object members).Numeral := by
    refine numeralMembers_iff.2 fun m hm => ?_
    rcases List.mem_append.1 (hperm.mem_iff.1 hm) with hm | hm
    · obtain ⟨field, hfield, hm⟩ := List.mem_filterMap.1 hm
      obtain ⟨v, hv, rfl⟩ := Option.map_eq_some_iff.1 hm
      exact Given.numeral_fields hfits field hfield v hv
    · exact (hothers m hm).2
  have hnames : (g.fields.map Prod.fst).Nodup := by
    rw [Given.map_fst_fields]
    decide
  refine decode?_eq_some_iff.2 ⟨_, g, element_of_value (value_chars _ hnumeral),
    gives_tree hfits fun field hfield => ?_, rfl⟩
  exact named_eq_of_perm hnames (fun m hm => (hothers m hm).1) hperm hfield

/-- Settings are read from their stored form. -/
theorem decode?_encode {c : ServiceConfig} (hfits : c.Fits) : decode? c.encode = some c := by
  have hothers : ∀ m ∈ ([] : List (String × Json)), m.1 ∉ fieldNames ∧ m.2.Numeral := nofun
  rw [encode, toJson_eq]
  exact decode?_members (g := .all c) hfits hothers (by rw [List.append_nil])

/-- What is given is read, and nothing else is changed.  Settings are read from their stored
form.  Whatever bytes are read, they give some of the fields, each once and with a value of
its kind, and the settings are the default ones with those in their places; so any of the
fields are read, in any order and among others, and objects that have the same in the fields
are read alike.  What was read is read again from its own stored form. -/
theorem given_over_defaults :
    (∀ c : ServiceConfig, c.Fits → decode? c.encode = some c) ∧
    (∀ (bytes : Bytes) (c : ServiceConfig),
      decode? bytes = some c ↔ ∃ node g, Element node bytes ∧ Gives node g ∧ g.config = c) ∧
    (∀ (g : Given) (members others : List (String × Json)), g.config.Fits →
      (∀ m ∈ others, m.1 ∉ fieldNames ∧ m.2.Numeral) → members.Perm (g.members ++ others) →
      decode? (Json.object members).toBytes = some g.config) ∧
    (∀ (bytes bytes' : Bytes) (members members' : List (List Piece × Node))
      (ms ms' : List (String × Node)), Element (.object members) bytes →
      Element (.object members') bytes' → Node.Keyed members ms → Node.Keyed members' ms' →
      (∀ name ∈ fieldNames, Node.under ms name = Node.under ms' name) →
      decode? bytes = decode? bytes') ∧
    ∀ (bytes : Bytes) (c : ServiceConfig), decode? bytes = some c →
      decode? c.encode = some c ∧ (decode? c.encode).map encode = some c.encode := by
  refine ⟨fun _ => decode?_encode, fun _ _ => decode?_eq_some_iff,
    fun _ _ _ hfits hothers hperm => decode?_members hfits hothers hperm, ?_, ?_⟩
  · intro bytes bytes' members members' ms ms' h h' hkeyed hkeyed' hsame
    simp only [decode?, Node.ofBytes?_eq_some_iff.2 h, Node.ofBytes?_eq_some_iff.2 h',
      Option.bind_some, ofNode?_object_congr hkeyed hkeyed' hsame]
  · intro bytes c h
    obtain ⟨node, g, -, hgives, rfl⟩ := decode?_eq_some_iff.1 h
    have hagain := decode?_encode hgives.fits
    exact ⟨hagain, by rw [hagain, Option.map_some]⟩

/-- The greatest time, texts that need escapes, and three fields from the last to the first,
behind two others. -/
theorem given_over_defaults_reversed :
    let c : ServiceConfig := ⟨"", "\"é\\", 18446744073709551615, 0, 1, some "\x00", ["", "\n"], []⟩
    let d : ServiceConfig := { restartDelayMs := 18446744073709551615, brokers := ["b", "\"é\\"] }
    let v : Json := .object [("Host", .string "h"), ("zone", .array [.null]),
      ("brokers", addressesJson ["b", "\"é\\"]), ("host", .null),
      ("restart_delay_ms", timeJson 18446744073709551615)]
    c.Fits ∧ decode? c.encode = some c ∧ decode? v.toBytes = some d ∧
      decode? d.encode = some d := by
  intro c d v
  obtain ⟨hback, -, hany, -, hagain⟩ := given_over_defaults
  let g : Given := { restartDelayMs := some 18446744073709551615, host := some none,
                     brokers := some ["b", "\"é\\"] }
  let others : List (String × Json) := [("zone", .array [.null]), ("Host", .string "h")]
  have hfits : c.Fits := by decide
  have hothers : ∀ m ∈ others, m.1 ∉ fieldNames ∧ m.2.Numeral :=
    List.forall_mem_cons.2 ⟨⟨by decide, trivial, trivial⟩,
      List.forall_mem_singleton.2 ⟨by decide, trivial⟩⟩
  have hread : decode? v.toBytes = some d :=
    hany g _ others (by decide) hothers (List.reverse_perm (g.members ++ others))
  exact ⟨hfits, hback c hfits, hread, (hagain v.toBytes d hread).1⟩

/-- A host may be `null`, and no other field may; a field may be missing, and not be there
twice; a time has digits alone. -/
example :
    let text (members : String) := bytesOf ("\x7b" ++ members ++ "\x7d")
    decode? (text "\"host\":null") = some {} ∧ decode? (text "\"brokers\":null") = none ∧
      decode? (text "\"host\":null,\"host\":null") = none ∧
      decode? (text " \"restart_delay_ms\" : 7 ") = some { restartDelayMs := 7 } ∧
      decode? (text "\"restart_delay_ms\":7.0") = none := by
  decide +kernel

end ServiceConfig

end Collector
