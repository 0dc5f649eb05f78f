import Collector.Heartbeat.Record
import Collector.Proofs.Json.Fields
import Collector.Proofs.Text.Decimal

/-!
# Heartbeats are read back

A heartbeat of `harvest-model` is written as an object of five strings, and its two
numbers as numerals in two of them.  It is read from every text that has the five fields
(`Heartbeat.Writes`): a number may have a plus sign and zeros in front, and is the number
that the numeral says, or nothing is read at all.

Main statements:

* `Heartbeat.decimalString?_eq_some_iff`: what is read as a number.
* `Heartbeat.decode?_eq_some_iff`: the bytes that are read as a heartbeat.
* `Heartbeat.writes_tree`: what a heartbeat is written as.
* `Heartbeat.numbers_exact`: no number is changed on the way.
-/

namespace Collector.Heartbeat

open Json
open Json.Grammar (Element)

/-! ## Written forms -/

/-- The tree is a string that is a numeral of `n`, and `n` has at most `width` bits. -/
def IsNumber (width : ℕ) (node : Node) (n : ℕ) : Prop :=
  ∃ text, node.Says text ∧ Decimal.Denotes text n ∧ n < 2 ^ width

/-- The tree has these five fields. -/
def Parts (node host platform app cpuCount timestamp : Node) : Prop :=
  Node.Fields fieldNames node
    [some host, some platform, some app, some cpuCount, some timestamp]

/-- The tree writes the heartbeat. -/
def Writes (node : Node) (h : Heartbeat) : Prop :=
  ∃ host platform app cpuCount timestamp,
    Parts node host platform app cpuCount timestamp ∧ host.Says h.host ∧
      platform.Says h.platform ∧ app.Says h.app ∧ IsNumber 64 cpuCount h.cpuCount ∧
      IsNumber 128 timestamp h.timestamp

/-! ## Reading -/

/-- What is read as a number. -/
theorem decimalString?_eq_some_iff {width n : ℕ} {node : Node} :
    decimalString? width node = some n ↔ IsNumber width node n := by
  simp only [decimalString?, Option.bind_eq_some_iff, Node.string?_eq_some_iff,
    Decimal.read?_eq_some_iff, IsNumber]

/-- A tree is read field by field. -/
theorem ofNode?_eq_some_iff {node : Node} {h : Heartbeat} :
    ofNode? node = some h ↔ Writes node h := by
  rw [ofNode?]
  constructor
  · intro hread
    split at hread
    · rename_i host platform app cpuCount timestamp hslots
      split at hread
      · rename_i hhost hplatform happ hcpuCount htimestamp
        cases hread
        simp only [Node.required?_eq_some_iff, Node.string?_eq_some_iff, decimalString?_eq_some_iff]
          at hhost hplatform happ hcpuCount htimestamp
        obtain ⟨host, rfl, hhost⟩ := hhost
        obtain ⟨platform, rfl, hplatform⟩ := hplatform
        obtain ⟨app, rfl, happ⟩ := happ
        obtain ⟨cpuCount, rfl, hcpuCount⟩ := hcpuCount
        obtain ⟨timestamp, rfl, htimestamp⟩ := htimestamp
        exact ⟨host, platform, app, cpuCount, timestamp, Node.slots?_eq_some_iff.1 hslots,
          hhost, hplatform, happ, hcpuCount, htimestamp⟩
      · cases hread
    · cases hread
  · rintro ⟨host, platform, app, cpuCount, timestamp, hparts, hhost, hplatform, happ, hcpuCount,
      htimestamp⟩
    have hcount : decimalString? cpuWidth cpuCount = some h.cpuCount :=
      decimalString?_eq_some_iff.2 hcpuCount
    have htime : decimalString? timestampWidth timestamp = some h.timestamp :=
      decimalString?_eq_some_iff.2 htimestamp
    simp only [Node.slots?_eq_some_iff.2 hparts, Node.required?, Node.string?_eq_some_iff.2 hhost,
      Node.string?_eq_some_iff.2 hplatform, Node.string?_eq_some_iff.2 happ, hcount, htime]

/-- The bytes that are read as a heartbeat. -/
theorem decode?_eq_some_iff {bytes : Bytes} {h : Heartbeat} :
    decode? bytes = some h ↔ ∃ node, Element node bytes ∧ Writes node h := by
  simp only [decode?, Option.bind_eq_some_iff, Node.ofBytes?_eq_some_iff, ofNode?_eq_some_iff]

/-- A text has one tree, and a tree has its five fields in one way. -/
theorem parts_inj {bytes : Bytes} {node node' host platform app cpuCount timestamp host' platform'
    app' cpuCount' timestamp' : Node} (helement : Element node bytes)
    (helement' : Element node' bytes) (h : Parts node host platform app cpuCount timestamp)
    (h' : Parts node' host' platform' app' cpuCount' timestamp') :
    cpuCount = cpuCount' ∧ timestamp = timestamp' := by
  have hnode := Node.ofBytes?_eq_some_iff.2 helement
  rw [Node.ofBytes?_eq_some_iff.2 helement', Option.some.injEq] at hnode
  subst hnode
  have hslots := Node.slots?_eq_some_iff.2 h
  rw [Node.slots?_eq_some_iff.2 h', Option.some.injEq] at hslots
  simp only [List.cons.injEq, Option.some.injEq] at hslots
  exact ⟨hslots.2.2.2.1.symm, hslots.2.2.2.2.1.symm⟩

/-! ## Writing -/

theorem element_encode (h : Heartbeat) : Element h.toJson.tree h.encode :=
  element_of_value (value_chars h.toJson ⟨trivial, trivial, trivial, trivial, trivial, trivial⟩)

theorem parts_tree (h : Heartbeat) : Parts h.toJson.tree (Json.string h.host).tree
    (Json.string h.platform).tree (Json.string h.app).tree
    (Json.string (Decimal.ofNat h.cpuCount)).tree
    (Json.string (Decimal.ofNat h.timestamp)).tree :=
  .object (Node.keyed_treeMembers _)
    (.cons rfl (.cons rfl (.cons rfl (.cons rfl (.cons rfl .nil)))))

/-- A heartbeat is written as an object of five strings, two of which are numerals. -/
theorem writes_tree {h : Heartbeat} (hfits : h.Fits) : Writes h.toJson.tree h :=
  ⟨_, _, _, _, _, h.parts_tree, Node.says_tree _, Node.says_tree _, Node.says_tree _,
    ⟨_, Node.says_tree _, Decimal.denotes_ofNat _, hfits.1⟩,
    ⟨_, Node.says_tree _, Decimal.denotes_ofNat _, hfits.2⟩⟩

/-- No number is changed on the way.  A heartbeat is read from its stored form, which has
both numbers as the decimal digits in two strings.  Whatever bytes are read, each of the
two numbers is the one that a string says there, with a plus sign or without one, and fits
its width; a field that is anything else makes the whole text unreadable. -/
theorem numbers_exact :
    (∀ h : Heartbeat, h.Fits → decode? h.encode = some h ∧
      ∃ node host platform app cpuCount timestamp, Element node h.encode ∧
        Parts node host platform app cpuCount timestamp ∧
        cpuCount.Says (Decimal.ofNat h.cpuCount) ∧ timestamp.Says (Decimal.ofNat h.timestamp)) ∧
    (∀ (bytes : Bytes) (h : Heartbeat),
      decode? bytes = some h ↔ ∃ node, Element node bytes ∧ Writes node h) ∧
    ∀ (bytes : Bytes) (node host platform app cpuCount timestamp : Node),
      Element node bytes → Parts node host platform app cpuCount timestamp →
      (∀ n, ¬ IsNumber 64 cpuCount n) ∨ (∀ n, ¬ IsNumber 128 timestamp n) →
      decode? bytes = none := by
  refine ⟨fun h hfits => ⟨?_, ?_⟩, fun _ _ => decode?_eq_some_iff, ?_⟩
  · exact decode?_eq_some_iff.2 ⟨_, h.element_encode, writes_tree hfits⟩
  · exact ⟨_, _, _, _, _, _, h.element_encode, h.parts_tree, Node.says_tree _, Node.says_tree _⟩
  · intro bytes node host platform app cpuCount timestamp helement hparts hbad
    by_contra hread
    obtain ⟨h, hread⟩ := Option.ne_none_iff_exists'.1 hread
    obtain ⟨node', helement', _, _, _, _, _, hparts', -, -, -, hcpuCount, htimestamp⟩ :=
      decode?_eq_some_iff.1 hread
    obtain ⟨rfl, rfl⟩ := parts_inj helement helement' hparts hparts'
    rcases hbad with hbad | hbad
    · exact hbad _ hcpuCount
    · exact hbad _ htimestamp

/-- The greatest numbers, between texts that need escapes, and one processor more than
that, among fields in another order. -/
theorem numbers_exact_limits :
    let h : Heartbeat := ⟨"\"é\\", "", "\x00\n", 18446744073709551615,
      340282366920938463463374607431768211455⟩
    let v : Json := .object [("timestamp", .string "+007"), ("zone", .null), ("host", .string "h"),
      ("cpuCount", .string "18446744073709551616"), ("platform", .string ""), ("app", .string "a")]
    h.Fits ∧ decode? h.encode = some h ∧ decode? v.toBytes = none := by
  intro h v
  obtain ⟨hback, -, hrefused⟩ := numbers_exact
  have hfits : h.Fits := ⟨by decide, by decide⟩
  have helement : Element v.tree v.toBytes :=
    element_of_value (value_chars v ⟨trivial, trivial, trivial, trivial, trivial, trivial, trivial⟩)
  have hparts : Parts v.tree (Json.string "h").tree (Json.string "").tree (Json.string "a").tree
      (Json.string "18446744073709551616").tree (Json.string "+007").tree :=
    .object (Node.keyed_treeMembers _)
      (.cons rfl (.cons rfl (.cons rfl (.cons rfl (.cons rfl .nil)))))
  have hnone : ∀ n, ¬ IsNumber 64 (Json.string "18446744073709551616").tree n := by
    intro n hn
    have hread := decimalString?_eq_some_iff.2 hn
    rw [show decimalString? 64 (Json.string "18446744073709551616").tree = none from
      by decide +kernel] at hread
    cases hread
  exact ⟨hfits, (hback h hfits).1, hrefused _ _ _ _ _ _ _ helement hparts (.inl hnone)⟩

/-- A number without quotes and numerals with a minus sign or a space are refused. -/
example :
    let text (cpuCount : String) := bytesOf ("[\"h\",\"p\",\"a\"," ++ cpuCount ++ ",\"1\"]")
    decode? (text "\"+08\"") = some ⟨"h", "p", "a", 8, 1⟩ ∧ decode? (text "8") = none ∧
      decode? (text "\"-8\"") = none ∧ decode? (text "\" 8\"") = none := by
  decide +kernel

end Collector.Heartbeat
