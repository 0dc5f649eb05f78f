import Collector.Record
import Collector.Proofs.Json.Meaning

/-!
# The pages of answers

An answer to `harvest-source` is the text of an object.  What it lists under `records`
makes a page: the entries that can be used are kept in their order, and all of them are
counted.  An answer that lists nothing reports an error or is an empty page, and a body
that cannot be read is an error of its own: it is no JSON text, or one beyond what is read
(`Json.Legible`).

Main statements:

* `Record.ofJson_eq_ok_iff`: the record that an entry is.
* `Page.kept_usable`: the entries that can be used.
* `Page.ofBytes_spec`: what becomes of any body.
* `Page.ofBytes_beyond`: texts that cannot be read.
-/

namespace Collector

open Json

/-! ## Entries -/

/-- The entry is an object that has this identifier and this timestamp under the two
names, and the record has all its fields. -/
structure Record.IsEntry (idField timestampField : String) (entry : Json) (r : Record) : Prop where
  /-- The entry is an object with the fields of the record. -/
  fields : entry = .object r.fields
  /-- The identifying field is a string, the identifier of the record. -/
  id : Entries.get? idField r.fields = some (.string r.id)
  /-- The field that orders the feed is a string, the timestamp of the record. -/
  timestamp : Entries.get? timestampField r.fields = some (.string r.timestamp)

theorem Record.textField_eq_ok_iff {fields : List (String × Json)} {name s : String} :
    textField fields name = .ok s ↔ Entries.get? name fields = some (.string s) := by
  unfold textField
  cases Entries.get? name fields with
  | none => simp
  | some v => cases v <;> simp [Json.string?]

/-- The record that an entry is. -/
theorem Record.ofJson_eq_ok_iff {idField timestampField : String} {entry : Json} {r : Record} :
    ofJson idField timestampField entry = .ok r ↔ IsEntry idField timestampField entry r := by
  constructor
  · intro h
    cases entry with
    | object fields =>
      rw [ofJson] at h
      split at h
      · cases h
      · rename_i id hid
        split at h
        · cases h
        · rename_i timestamp htimestamp
          cases h
          exact ⟨rfl, textField_eq_ok_iff.1 hid, textField_eq_ok_iff.1 htimestamp⟩
    | null | bool | number | string | array => cases h
  · rintro ⟨rfl, hid, htimestamp⟩
    simp only [ofJson, textField_eq_ok_iff.2 hid, textField_eq_ok_iff.2 htimestamp]

namespace Page

variable {idField timestampField : String}

/-- The records of some entries: in their order, without the entries that are no
records. -/
inductive Kept (idField timestampField : String) : List Json → List Record → Prop
  | nil : Kept idField timestampField [] []
  /-- An entry is a record. -/
  | keep {entry : Json} {r : Record} {entries : List Json} {records : List Record}
      (hentry : Record.IsEntry idField timestampField entry r)
      (h : Kept idField timestampField entries records) :
      Kept idField timestampField (entry :: entries) (r :: records)
  /-- An entry is no record. -/
  | drop {entry : Json} {entries : List Json} {records : List Record}
      (hentry : ∀ r, ¬ Record.IsEntry idField timestampField entry r)
      (h : Kept idField timestampField entries records) :
      Kept idField timestampField (entry :: entries) records

theorem usable_cons_of_ok {entry : Json} {r : Record}
    (h : Record.ofJson idField timestampField entry = .ok r) (entries : List Json) :
    usable idField timestampField (entry :: entries) =
      r :: usable idField timestampField entries := by
  simp only [usable, List.filterMap_cons, h, Except.toOption]

theorem usable_cons_of_error {entry : Json} {e : DataError}
    (h : Record.ofJson idField timestampField entry = .error e) (entries : List Json) :
    usable idField timestampField (entry :: entries) = usable idField timestampField entries := by
  simp only [usable, List.filterMap_cons, h, Except.toOption]

/-- The entries that can be used are the ones that are records. -/
theorem kept_usable (idField timestampField : String) (entries : List Json) :
    Kept idField timestampField entries (usable idField timestampField entries) := by
  induction entries with
  | nil => exact .nil
  | cons entry entries ih =>
    cases hread : Record.ofJson idField timestampField entry with
    | ok r =>
      rw [usable_cons_of_ok hread]
      exact .keep (Record.ofJson_eq_ok_iff.1 hread) ih
    | error e =>
      rw [usable_cons_of_error hread]
      refine .drop (fun r hr => ?_) ih
      rw [Record.ofJson_eq_ok_iff.2 hr] at hread
      cases hread

/-- Some entries have the records of one page and no other ones. -/
theorem Kept.eq_usable {entries : List Json} {records : List Record}
    (h : Kept idField timestampField entries records) :
    records = usable idField timestampField entries := by
  induction h with
  | nil => rfl
  | keep hentry _ ih => rw [usable_cons_of_ok (Record.ofJson_eq_ok_iff.2 hentry), ih]
  | @drop entry entries records hentry _ ih =>
    cases hread : Record.ofJson idField timestampField entry with
    | error e => rw [usable_cons_of_error hread, ih]
    | ok r => exact absurd (Record.ofJson_eq_ok_iff.1 hread) (hentry r)

theorem usable_append (xs ys : List Json) : usable idField timestampField (xs ++ ys) =
    usable idField timestampField xs ++ usable idField timestampField ys :=
  List.filterMap_append

/-- An entry that is no record affects no other one. -/
theorem usable_append_cons {entry : Json}
    (h : ∀ r, ¬ Record.IsEntry idField timestampField entry r) (xs ys : List Json) :
    usable idField timestampField (xs ++ entry :: ys) =
      usable idField timestampField (xs ++ ys) := by
  have hdrop := Kept.drop h (kept_usable idField timestampField ys)
  rw [usable_append, usable_append, ← hdrop.eq_usable]

/-! ## Answers -/

/-- What an answer with these fields stands for. -/
inductive Answered (idField timestampField : String) (field? : String → Option Json) :
    Except PollError Page → Prop
  /-- An answer that lists entries stands for their page. -/
  | listed {entries : List Json} {page : Page} (hrecords : field? "records" = some (.array entries))
      (hkept : Kept idField timestampField entries page.records)
      (hfetched : page.fetched = entries.length) : Answered idField timestampField field? (.ok page)
  /-- An answer that lists nothing and reports an error in words is rejected in these words. -/
  | rejected {reason : String} (hrecords : ∀ entries, field? "records" ≠ some (.array entries))
      (herror : field? "error" = some (.string reason)) :
      Answered idField timestampField field? (.error (.rejected reason))
  /-- An answer that lists nothing and reports an error in another way is rejected with the text of
  that. -/
  | rejectedValue {e : Json} (hrecords : ∀ entries, field? "records" ≠ some (.array entries))
      (herror : field? "error" = some e) (hother : ∀ reason, e ≠ .string reason) :
      Answered idField timestampField field? (.error (.rejected e.render))
  /-- An answer that neither lists entries nor reports an error stands for a page without
  entries. -/
  | empty (hrecords : ∀ entries, field? "records" ≠ some (.array entries))
      (herror : field? "error" = none) : Answered idField timestampField field? (.ok Page.empty)

theorem answered_ofJson (idField timestampField : String) (answer : Json) :
    Answered idField timestampField (fun name => answer.member? name)
      (ofJson idField timestampField answer) := by
  unfold ofJson
  split
  · rename_i entries hrecords
    exact .listed hrecords (kept_usable _ _ _) (max_eq_left (List.length_filterMap_le _ _))
  · rename_i hrecords
    split
    · rename_i reason herror
      exact .rejected hrecords herror
    · rename_i e hother herror
      exact .rejectedValue hrecords herror hother
    · rename_i herror
      exact .empty hrecords herror

/-- The body is the text of an answer that lists these entries. -/
def Lists (body : Bytes) (entries : List Json) : Prop :=
  ∃ node, Legible body node ∧ node.field? "records" = some (.array entries)

theorem lists_of_ofBytes? {body : Bytes} {v : Json} {entries : List Json}
    (h : Json.ofBytes? body = some v) (hrecords : v.member? "records" = some (.array entries)) :
    Lists body entries := by
  obtain ⟨node, hlegible, hvalue⟩ := ofBytes?_eq_some_iff.1 h
  exact ⟨node, hlegible, (member?_of_ofNode? hvalue "records").symm.trans hrecords⟩

/-- The page of a body that lists entries. -/
theorem exists_ofBytes_of_lists (idField timestampField : String) {body : Bytes}
    {entries : List Json} (h : Lists body entries) :
    ∃ page, ofBytes idField timestampField body = .ok page ∧
      page.records = usable idField timestampField entries ∧ page.fetched = entries.length := by
  obtain ⟨node, hlegible, hrecords⟩ := h
  obtain ⟨v, hvalue⟩ := hlegible.exists_value
  rw [← member?_of_ofNode? hvalue] at hrecords
  refine ⟨withFetched (usable idField timestampField entries) entries.length, ?_, rfl, ?_⟩
  · simp only [ofBytes, ofBytes?_eq_some_iff.2 ⟨node, hlegible, hvalue⟩, ofJson, hrecords]
  · exact max_eq_left (List.length_filterMap_le _ _)

theorem ofBytes_eq_unparsable_iff {body : Bytes} :
    ofBytes idField timestampField body = .error .unparsable ↔ ∀ node, ¬ Legible body node := by
  rw [← ofBytes?_eq_none_iff, ofBytes]
  constructor
  · intro h
    split at h
    · rename_i answer _
      have hanswered := answered_ofJson idField timestampField answer
      rw [h] at hanswered
      cases hanswered
    · assumption
  · intro h
    rw [h]

/-- What becomes of any body.  The text of an answer is read as what it lists or reports;
every other body is an error of its own.  The page of some entries and others after them
is made of the two pages, and an entry that is no record is counted and affects no other
one. -/
theorem ofBytes_spec (idField timestampField : String) :
    (∀ body node, Legible body node → Answered idField timestampField (fun name => node.field? name)
      (ofBytes idField timestampField body)) ∧
    (∀ body, ofBytes idField timestampField body = .error .unparsable ↔
      ∀ node, ¬ Legible body node) ∧
    (∀ xs ys body₁ body₂ body, Lists body₁ xs → Lists body₂ ys → Lists body (xs ++ ys) →
      ∃ p q page, ofBytes idField timestampField body₁ = .ok p ∧
        ofBytes idField timestampField body₂ = .ok q ∧
        ofBytes idField timestampField body = .ok page ∧
        page.records = p.records ++ q.records ∧ page.fetched = p.fetched + q.fetched) ∧
    ∀ xs entry ys body₁ body, (∀ r, ¬ Record.IsEntry idField timestampField entry r) →
      Lists body₁ (xs ++ ys) → Lists body (xs ++ entry :: ys) →
      ∃ p page, ofBytes idField timestampField body₁ = .ok p ∧
        ofBytes idField timestampField body = .ok page ∧
        page.records = p.records ∧ page.fetched = p.fetched + 1 := by
  refine ⟨?_, fun body => ofBytes_eq_unparsable_iff, ?_, ?_⟩
  · intro body node hlegible
    obtain ⟨v, hvalue⟩ := hlegible.exists_value
    have hanswered := answered_ofJson idField timestampField v
    rw [ofBytes, ofBytes?_eq_some_iff.2 ⟨node, hlegible, hvalue⟩]
    simpa only [member?_of_ofNode? hvalue] using hanswered
  · intro xs ys body₁ body₂ body hxs hys hall
    obtain ⟨p, hp, hprecords, hpfetched⟩ := exists_ofBytes_of_lists idField timestampField hxs
    obtain ⟨q, hq, hqrecords, hqfetched⟩ := exists_ofBytes_of_lists idField timestampField hys
    obtain ⟨page, hpage, hrecords, hfetched⟩ := exists_ofBytes_of_lists idField timestampField hall
    refine ⟨p, q, page, hp, hq, hpage, ?_, ?_⟩
    · rw [hrecords, hprecords, hqrecords, usable_append]
    · rw [hfetched, hpfetched, hqfetched, List.length_append]
  · intro xs entry ys body₁ body hentry hothers hall
    obtain ⟨p, hp, hprecords, hpfetched⟩ := exists_ofBytes_of_lists idField timestampField hothers
    obtain ⟨page, hpage, hrecords, hfetched⟩ := exists_ofBytes_of_lists idField timestampField hall
    refine ⟨p, page, hp, hpage, ?_, ?_⟩
    · rw [hrecords, hprecords, usable_append_cons hentry]
    · rw [hfetched, hpfetched, List.length_append, List.length_append, List.length_cons,
        Nat.add_assoc]

/-- Two records, and an entry between them whose identifier is a number. -/
theorem ofBytes_spec_malformed :
    let bodyOf (entries : List Json) : Bytes := (Json.object [("records", .array entries)]).toBytes
    let a : Json := .object [("id", .string "a"), ("ts", .string "1")]
    let b : Json := .object [("id", .string "b"), ("ts", .string "1")]
    let seven : Json := .object [("id", .number (.integer 7)), ("ts", .string "1")]
    (∃ node, Legible (bodyOf [a, seven, b]) node ∧ Answered "id" "ts" (fun name => node.field? name)
      (ofBytes "id" "ts" (bodyOf [a, seven, b]))) ∧
    (∃ p q page, ofBytes "id" "ts" (bodyOf [a]) = .ok p ∧ ofBytes "id" "ts" (bodyOf [b]) = .ok q ∧
      ofBytes "id" "ts" (bodyOf [a, b]) = .ok page ∧
      page.records = p.records ++ q.records ∧ page.fetched = p.fetched + q.fetched) ∧
    ∃ p page, ofBytes "id" "ts" (bodyOf [a, b]) = .ok p ∧
      ofBytes "id" "ts" (bodyOf [a, seven, b]) = .ok page ∧
      page.records = p.records ∧ page.fetched = p.fetched + 1 := by
  intro bodyOf a b seven
  have hlists : ∀ entries, Json.ofBytes? (bodyOf entries) =
      some (.object [("records", .array entries)]) → Lists (bodyOf entries) entries :=
    fun entries h => lists_of_ofBytes? h rfl
  have ha : Lists (bodyOf [a]) [a] := hlists [a] (by decide +kernel)
  have hb : Lists (bodyOf [b]) [b] := hlists [b] (by decide +kernel)
  have hboth : Lists (bodyOf [a, b]) [a, b] := hlists [a, b] (by decide +kernel)
  have hall : Lists (bodyOf [a, seven, b]) [a, seven, b] := hlists [a, seven, b] (by decide +kernel)
  have hseven : ∀ r, ¬ Record.IsEntry "id" "ts" seven r := by
    rintro r ⟨hfields, hid, -⟩
    rw [← Json.object.inj hfields] at hid
    simp [Entries.get?] at hid
  obtain ⟨node, hlegible, -⟩ := id hall
  obtain ⟨hanswered, -, happend, hdropped⟩ := ofBytes_spec "id" "ts"
  exact ⟨⟨node, hlegible, hanswered _ node hlegible⟩, happend [a] [b] _ _ _ ha hb hboth,
    hdropped [a] seven [b] _ _ hseven hboth hall⟩

/-- The body is the text of an object that lists no records, and cannot be read. -/
def Unread (body : Bytes) : Prop :=
  (∃ node, Grammar.Element node body ∧ node.field? "records" = some (.array [])) ∧
    ofBytes "sys_id" "ts" body = .error .unparsable

theorem unread_of_isNone {body : Bytes}
    (hread : ∃ node ∈ Json.Node.ofBytes? body, node.field? "records" = some (.array []))
    (hnone : Json.ofBytes? body = none) : Unread body := by
  obtain ⟨node, hnode, hrecords⟩ := hread
  refine ⟨⟨node, Node.ofBytes?_eq_some_iff.1 hnode, hrecords⟩, ?_⟩
  rw [ofBytes, hnone]

/-- Three texts that cannot be read: one is nested 128 levels deep, one has a number that
no double holds, and one names half of a surrogate pair. -/
theorem ofBytes_beyond :
    Unread (bytesOf "\x7b\"records\":[],\"x\":" ++
        (List.replicate 127 0x5B ++ List.replicate 127 0x5D) ++ bytesOf "\x7d") ∧
      Unread (bytesOf "\x7b\"records\":[],\"x\":1e400\x7d") ∧
      Unread (bytesOf "\x7b\"records\":[],\"x\":\"\\ud800\"\x7d") :=
  ⟨unread_of_isNone (by decide +kernel) (by decide +kernel),
    unread_of_isNone (by decide +kernel) (by decide +kernel),
    unread_of_isNone (by decide +kernel) (by decide +kernel)⟩

end Page

end Collector
