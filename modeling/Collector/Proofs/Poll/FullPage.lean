import Collector.Proofs.Collection.Run
import Collector.Proofs.Source.Answer

/-!
# Full pages

A page of `harvest-source` holds the records of an answer that could be used, and only the
number of all entries that the source sent.  Whether a page is full is decided by that
number, and whether one timestamp fills it by the first and the last record that could be
used.  The two can disagree: an entry without an identifier at an end of the answer is
counted, and its timestamp is not looked at.

Main statements:

* `Page.exists_ofBytes_of_listed`: the page of an answer that lists entries.
* `forced_advance_tied`: when the cursor is forced on, the answer is full, and its
  usable entries share one timestamp; the others do if those at its ends do.
* `full_page_moves`: a full page moves the cursor if one of its entries can be used,
  and otherwise it is answered again and again (`Site.held_iterate_poll`).
-/

namespace Collector

/-! ## Entries of an answer -/

/-- The text that an entry has under a name; only objects have one. -/
def Json.textAt? (name : String) (entry : Json) : Option String :=
  (entry.member? name).bind Json.string?

/-- Entries that all have a timestamp, in the order of the timestamps. -/
structure Json.InOrder (name : String) (entries : List Json) : Prop where
  /-- Each entry has a timestamp. -/
  dated : ∀ e ∈ entries, (e.textAt? name).isSome
  /-- No timestamp is less than one before it. -/
  ascending : entries.Pairwise fun a b => ∀ s ∈ a.textAt? name, ∀ t ∈ b.textAt? name, s ≤ t

namespace Json.InOrder

variable {name : String} {entries : List Json}

instance : Decidable (InOrder name entries) :=
  decidable_of_iff ((∀ e ∈ entries, (e.textAt? name).isSome) ∧
    entries.Pairwise fun a b => ∀ s ∈ a.textAt? name, ∀ t ∈ b.textAt? name, s ≤ t)
    ⟨fun ⟨h, k⟩ => ⟨h, k⟩, fun h => ⟨h.dated, h.ascending⟩⟩

theorem exists_eq (h : InOrder name entries) {e : Json} (he : e ∈ entries) :
    ∃ t, e.textAt? name = some t :=
  Option.isSome_iff_exists.1 (h.dated e he)

/-- No timestamp lies before that of the first entry or after that of the last one. -/
theorem between (h : InOrder name entries) {first last e : Json}
    (hfirst : entries.head? = some first) (hlast : entries.getLast? = some last)
    (he : e ∈ entries) {s t u : String} (hs : first.textAt? name = some s)
    (ht : e.textAt? name = some t) (hu : last.textAt? name = some u) : s ≤ t ∧ t ≤ u := by
  constructor
  · obtain ⟨rest, rfl⟩ := List.head?_eq_some_iff.1 hfirst
    rcases List.mem_cons.1 he with rfl | hrest
    · exact (Option.some.inj (hs.symm.trans ht)).le
    · exact (List.pairwise_cons.1 h.ascending).1 e hrest s hs t ht
  · obtain ⟨init, rfl⟩ := List.getLast?_eq_some_iff.1 hlast
    rcases List.mem_append.1 he with hinit | hmem
    · have hbefore := (List.pairwise_append.1 h.ascending).2.2
      exact hbefore e hinit last (List.mem_singleton_self _) t ht u hu
    · rw [List.mem_singleton.1 hmem] at ht
      exact (Option.some.inj (ht.symm.trans hu)).le

end Json.InOrder

/-! ## Entries and records -/

theorem eq_ok_of_mem_toOption {ε α : Type} {x : Except ε α} {a : α} (h : a ∈ x.toOption) :
    x = .ok a := by
  cases x with
  | ok b => exact congrArg Except.ok (Option.some.inj h)
  | error e => cases h

/-- What an object has under a name is the text that it has there. -/
theorem Json.textAt?_object_iff {fields : List (String × Json)} {name s : String} :
    (Json.object fields).textAt? name = some s ↔ Entries.get? name fields = some (.string s) := by
  rw [Json.textAt?, Json.member?]
  cases Entries.get? name fields with
  | none => simp
  | some v => cases v <;> simp [Json.string?]

/-- A record has the identifier and the timestamp of its entry. -/
theorem Record.texts_of_ofJson {idField timestampField : String} {e : Json} {r : Record}
    (h : (Record.ofJson idField timestampField e).toOption = some r) :
    e.textAt? idField = some r.id ∧ e.textAt? timestampField = some r.timestamp := by
  obtain ⟨rfl, hid, htimestamp⟩ := Record.ofJson_eq_ok_iff.1 (eq_ok_of_mem_toOption h)
  exact ⟨Json.textAt?_object_iff.2 hid, Json.textAt?_object_iff.2 htimestamp⟩

/-- An entry with an identifier and a timestamp is a record. -/
theorem Record.exists_ofJson {idField timestampField : String} {e : Json} {id t : String}
    (hid : e.textAt? idField = some id) (ht : e.textAt? timestampField = some t) :
    ∃ r, (Record.ofJson idField timestampField e).toOption = some r := by
  cases e with
  | object fields =>
    have hentry : Record.IsEntry idField timestampField (.object fields) ⟨id, t, fields⟩ :=
      ⟨rfl, Json.textAt?_object_iff.1 hid, Json.textAt?_object_iff.1 ht⟩
    exact ⟨_, congrArg Except.toOption (Record.ofJson_eq_ok_iff.2 hentry)⟩
  | _ => cases hid

namespace Page

variable {idField timestampField : String} {entries : List Json}

/-- The entries that the body of an answer lists. -/
def listed? (body : Bytes) : Option (List Json) :=
  match (Json.ofBytes? body).bind (Json.member? "records") with
  | some (.array entries) => some entries
  | _ => none

theorem lists_of_listed? {body : Bytes} (h : listed? body = some entries) : Lists body entries := by
  unfold listed? at h
  split at h
  · rename_i items hrecords
    cases h
    obtain ⟨answer, hanswer, hmember⟩ := Option.bind_eq_some_iff.1 hrecords
    exact lists_of_ofBytes? hanswer hmember
  · cases h

/-- The page of an answer that lists entries has the usable ones, and their number. -/
theorem exists_ofBytes_of_listed (idField timestampField : String) {body : Bytes}
    (h : listed? body = some entries) :
    ∃ page, ofBytes idField timestampField body = .ok page ∧
      page.records = usable idField timestampField entries ∧ page.fetched = entries.length :=
  exists_ofBytes_of_lists idField timestampField (lists_of_listed? h)

theorem mem_usable {r : Record} (h : r ∈ usable idField timestampField entries) :
    ∃ e ∈ entries, e.textAt? idField = some r.id ∧ e.textAt? timestampField = some r.timestamp := by
  obtain ⟨e, he, hr⟩ := List.mem_filterMap.1 h
  exact ⟨e, he, Record.texts_of_ofJson hr⟩

/-- An entry with an identifier is among the usable ones. -/
theorem exists_mem_usable (h : Json.InOrder timestampField entries) {e : Json} (he : e ∈ entries)
    (hid : (e.textAt? idField).isSome) :
    ∃ r ∈ usable idField timestampField entries, e.textAt? timestampField = some r.timestamp := by
  obtain ⟨id, hid⟩ := Option.isSome_iff_exists.1 hid
  obtain ⟨t, ht⟩ := h.exists_eq he
  obtain ⟨r, hr⟩ := Record.exists_ofJson hid ht
  exact ⟨r, List.mem_filterMap.2 ⟨e, he, hr⟩, (Record.texts_of_ofJson hr).2⟩

theorem usable_eq_nil (h : ∀ e ∈ entries, e.textAt? idField = none) :
    usable idField timestampField entries = [] := by
  refine List.eq_nil_iff_forall_not_mem.2 fun x hx => ?_
  obtain ⟨e, he, hid, -⟩ := mem_usable hx
  rw [h e he] at hid
  cases hid

/-- Dropping entries keeps the order. -/
theorem ascending_usable (idField : String) (h : Json.InOrder timestampField entries) :
    Feed.Ascending (usable idField timestampField entries) := by
  refine h.ascending.filterMap _ ?_
  intro a b hab r hr s hs
  exact hab _ (Record.texts_of_ofJson hr).2 _ (Record.texts_of_ofJson hs).2

end Page

open Reconciled

/-! ## Forced cursors -/

/-- Records in order that begin and end with one timestamp have no other one. -/
theorem Feed.timestamp_eq_of_tie {records : Feed} (h : records.Ascending) {first last x : Record}
    (hfirst : records.head? = some first) (hlast : records.getLast? = some last)
    (htie : first.timestamp = last.timestamp) (hx : x ∈ records) :
    x.timestamp = last.timestamp :=
  le_antisymm (le_getLast h hlast hx) (htie ▸ head_le h hfirst hx)

section

variable {idField timestampField : String} {body : Bytes} {entries : List Json} {pageSize : ℕ}

/-- When the cursor is forced past a timestamp, the answer has as many entries as a
page, and the usable ones have that timestamp.  The others have it exactly if an
unusable entry at an end of the answer does. -/
theorem forced_advance_tied {previous : Option Checkpoint} {page : Page} {r : Reconciled}
    (hlisted : Page.listed? body = some entries) (horder : Json.InOrder timestampField entries)
    (hpage : Page.ofBytes idField timestampField body = .ok page)
    (hr : reconcile previous page pageSize = .ok r) (hforced : r.refreshed = true) :
    entries.length = pageSize ∧ ∃ t next, Timestamp.nextSecond t = .ok next ∧
      r.checkpoint = some (Checkpoint.initial next) ∧
      (∀ e ∈ entries, (e.textAt? idField).isSome → e.textAt? timestampField = some t) ∧
      ((∀ e ∈ entries, e.textAt? timestampField = some t) ↔
        ∀ e, entries.head? = some e ∨ entries.getLast? = some e → e.textAt? idField = none →
          e.textAt? timestampField = some t) := by
  obtain ⟨page', hpage', hrecords, hfetched⟩ :=
    Page.exists_ofBytes_of_listed idField timestampField hlisted
  obtain rfl : page' = page := Except.ok.inj (hpage'.symm.trans hpage)
  obtain ⟨t, next, hsaturated, hnext, hcheckpoint⟩ := exists_saturated_of_refreshed hr hforced
  obtain ⟨-, hfull, first, last, hfirst, hlast, rfl, htie⟩ := saturated?_eq_some hsaturated
  have hascending := Page.ascending_usable idField horder
  rw [← hrecords] at hascending
  have husable : ∀ e ∈ entries, (e.textAt? idField).isSome →
      e.textAt? timestampField = some first.timestamp := by
    intro e he hid
    obtain ⟨x, hx, hxt⟩ := Page.exists_mem_usable horder he hid
    rw [← hrecords] at hx
    rw [hxt, Feed.timestamp_eq_of_tie hascending hfirst hlast htie.symm hx, htie]
  refine ⟨hfetched.symm.trans hfull, first.timestamp, next, hnext, hcheckpoint, husable, ?_⟩
  constructor
  · rintro hall e (he | he) -
    · exact hall e (List.mem_of_mem_head? he)
    · exact hall e (List.mem_of_getLast? he)
  · intro hends e he
    -- with both ends at the timestamp there is no room for another one
    have hend : ∀ e, entries.head? = some e ∨ entries.getLast? = some e →
        e.textAt? timestampField = some first.timestamp := by
      intro e he
      have hmem : e ∈ entries := he.elim (fun h => List.mem_of_mem_head? h) List.mem_of_getLast?
      cases hid : e.textAt? idField with
      | none => exact hends e he hid
      | some id => exact husable e hmem (Option.isSome_iff_exists.2 ⟨id, hid⟩)
    have hne : entries ≠ [] := List.ne_nil_of_mem he
    obtain ⟨u, hu⟩ := horder.exists_eq he
    obtain ⟨hge, hle⟩ := horder.between (List.head?_eq_some_head hne)
      (List.getLast?_eq_some_getLast hne) he (hend _ (.inl (List.head?_eq_some_head hne))) hu
      (hend _ (.inr (List.getLast?_eq_some_getLast hne)))
    rw [hu, le_antisymm hle hge]

/-- The body of an answer whose entries have these identifiers, or none, and these
timestamps. -/
def bodyOf (entries : List (Option String × String)) : Bytes :=
  (Json.object [("records", .array (entries.map fun (id, t) =>
    .object ((id.toList.map fun id => ("id", .string id)) ++ [("ts", .string t)])))]).toBytes

/-- An entry without an identifier between two of the same second. -/
theorem forced_advance_tied_nameless :
    let body := bodyOf [(some "a", "2015-01-01 10:00:00"), (none, "2015-01-01 10:00:00"),
      (some "c", "2015-01-01 10:00:00")]
    ∃ entries page r, Page.listed? body = some entries ∧ Json.InOrder "ts" entries ∧
      Page.ofBytes "id" "ts" body = .ok page ∧
      reconcile (some (.ofCursor "2015-01-01 10:00:00" ["a"])) page 3 = .ok r ∧
      r.refreshed = true ∧ page.size = 2 ∧
      ∃ t, ∀ e ∈ entries, e.textAt? "ts" = some t := by
  intro body
  have hrun : ∃ entries ∈ Page.listed? body, ∃ page ∈ (Page.ofBytes "id" "ts" body).toOption,
      ∃ r ∈ (reconcile (some (.ofCursor "2015-01-01 10:00:00" ["a"])) page 3).toOption,
      Json.InOrder "ts" entries ∧ r.refreshed = true ∧ page.size = 2 ∧
        (∀ e ∈ entries.head?, (e.textAt? "id").isSome) ∧
        ∀ e ∈ entries.getLast?, (e.textAt? "id").isSome := by decide +kernel
  obtain ⟨entries, hlisted, page, hpage, r, hr, horder, hforced, hsize, hfirst, hlast⟩ := hrun
  have hpage := eq_ok_of_mem_toOption hpage
  have hr := eq_ok_of_mem_toOption hr
  obtain ⟨-, t, -, -, -, -, hall⟩ := forced_advance_tied hlisted horder hpage hr hforced
  refine ⟨entries, page, r, hlisted, horder, hpage, hr, hforced, hsize, t, hall.2 ?_⟩
  rintro e (he | he) hnone
  · exact absurd (hfirst e he) (by simp [hnone])
  · exact absurd (hlast e he) (by simp [hnone])

/-- Two entries without an identifier stand before the one of the next second: the
cursor is forced past that second, of which the answer shows one record. -/
theorem forced_advance_untied :
    let body := bodyOf [(none, "2015-01-01 10:00:00"), (none, "2015-01-01 10:00:00"),
      (some "b", "2015-01-01 10:00:01")]
    ∃ entries page r, Page.listed? body = some entries ∧ Json.InOrder "ts" entries ∧
      Page.ofBytes "id" "ts" body = .ok page ∧
      reconcile (some (.ofCursor "2015-01-01 10:00:00" ["a"])) page 3 = .ok r ∧
      r.refreshed = true ∧ r.checkpoint = some (.initial "2015-01-01 10:00:02") ∧
      entries.map (Json.textAt? "ts") = [some "2015-01-01 10:00:00", some "2015-01-01 10:00:00",
        some "2015-01-01 10:00:01"] := by
  intro body
  have hrun : ∃ entries ∈ Page.listed? body, ∃ page ∈ (Page.ofBytes "id" "ts" body).toOption,
      ∃ r ∈ (reconcile (some (.ofCursor "2015-01-01 10:00:00" ["a"])) page 3).toOption,
      Json.InOrder "ts" entries ∧ r.refreshed = true ∧
        r.checkpoint = some (.initial "2015-01-01 10:00:02") ∧
        entries.map (Json.textAt? "ts") = [some "2015-01-01 10:00:00",
          some "2015-01-01 10:00:00", some "2015-01-01 10:00:01"] := by decide +kernel
  obtain ⟨entries, hlisted, page, hpage, r, hr, horder, hforced, hnext, htexts⟩ := hrun
  exact ⟨entries, page, r, hlisted, horder, eq_ok_of_mem_toOption hpage, eq_ok_of_mem_toOption hr,
    hforced, hnext, htexts⟩

/-! ## Progress -/

/-- A full page of records at or after the cursor moves the cursor. -/
theorem ReconcileEnd.cursor_lt_of_full {p : Checkpoint} {page : Page} {r : Reconciled}
    (h : ReconcileEnd p page pageSize (.ok r)) (hboundary : p.delivered ≠ [])
    (hne : page.records ≠ []) (hfull : page.fetched = pageSize)
    (hpage : Feed.Ascending page.records) (hfollows : page.Follows p.cursor) :
    ∃ q, r.checkpoint = some q ∧ p.cursor < q.cursor := by
  have hfirst := List.head?_eq_some_head hne
  have hlast := List.getLast?_eq_some_getLast hne
  have hpos : 0 < pageSize :=
    hfull ▸ (List.length_pos_of_ne_nil hne).trans_le page.length_le_fetched
  cases h with
  | forced t next _ hsaturated hnext =>
    obtain ⟨-, -, x, -, hx, -, rfl, -⟩ := saturated?_eq_some hsaturated
    obtain ⟨hplain, hle⟩ := hfollows x (List.mem_of_mem_head? hx)
    exact ⟨_, rfl, hle.trans_lt (hplain.of_nextSecond hnext).2⟩
  | moved _ hcase =>
    obtain ⟨hunsaturated, -⟩ := hcase.resolve_left hboundary
    refine ⟨_, checkpointAfter_eq hpage hlast, ?_⟩
    -- the page does not end with the timestamp it begins with
    have huntied : (page.records.head hne).timestamp ≠ (page.records.getLast hne).timestamp := by
      intro htie
      rw [saturated?_of_tie hpos hfull hfirst hlast htie] at hunsaturated
      cases hunsaturated
    calc p.cursor ≤ (page.records.head hne).timestamp := (hfollows _ (List.head_mem hne)).2
      _ < (page.records.getLast hne).timestamp :=
        lt_of_le_of_ne (Feed.head_le hpage hfirst (List.getLast_mem hne)) huntied
  | stayed hfresh hcase =>
    obtain ⟨-, hunsaturated⟩ := hcase.resolve_left hne
    -- all of it was delivered before, so that all of it stands at the cursor
    have hcursor : ∀ x ∈ page.records, x.timestamp = p.cursor := by
      intro x hx
      by_contra hother
      exact List.not_mem_nil (hfresh ▸ mem_fresh.2 ⟨hx, fun hnamed => hother hnamed.1⟩)
    have htie : (page.records.head hne).timestamp = (page.records.getLast hne).timestamp :=
      (hcursor _ (List.head_mem hne)).trans (hcursor _ (List.getLast_mem hne)).symm
    rw [saturated?_of_tie hpos hfull hfirst hlast htie] at hunsaturated
    cases hunsaturated

/-- A page is reconciled if its timestamps have a next second. -/
theorem exists_reconcile_of_plain (p : Checkpoint) {page : Page} (pageSize : ℕ)
    (hplain : ∀ x ∈ page.records, Timestamp.Plain x.timestamp ∧ x.timestamp ≠ Timestamp.last) :
    ∃ r, reconcile (some p) page pageSize = .ok r := by
  have hend := reconcile_cases p page pageSize
  cases hresult : reconcile (some p) page pageSize with
  | ok r => exact ⟨r, rfl⟩
  | error e =>
    rw [hresult] at hend
    cases hend with
    | stuck t e _ hsaturated hnext =>
      obtain ⟨-, -, first, -, hfirst, -, rfl, -⟩ := saturated?_eq_some hsaturated
      obtain ⟨ht, hne⟩ := hplain first (List.mem_of_mem_head? hfirst)
      obtain ⟨next, hok, -⟩ := ht.exists_nextSecond hne
      rw [hok] at hnext
      cases hnext

/-- A full answer at or after the cursor moves the cursor if one of its entries has an
identifier; otherwise it leaves everything as it is. -/
theorem full_page_moves (idField : String) {p : Checkpoint} (hboundary : p.delivered ≠ [])
    (hlisted : Page.listed? body = some entries) (hfull : entries.length = pageSize)
    (horder : Json.InOrder timestampField entries)
    (hfollow : ∀ e ∈ entries, ∀ t ∈ e.textAt? timestampField,
      Timestamp.Plain t ∧ t ≠ Timestamp.last ∧ p.cursor ≤ t) :
    ∃ page r, Page.ofBytes idField timestampField body = .ok page ∧
      reconcile (some p) page pageSize = .ok r ∧
      ((∃ e ∈ entries, (e.textAt? idField).isSome) →
        ∃ q, r.checkpoint = some q ∧ p.cursor < q.cursor) ∧
      ((∀ e ∈ entries, e.textAt? idField = none) → r = ⟨[], none, false⟩) := by
  obtain ⟨page, hpage, hrecords, hfetched⟩ :=
    Page.exists_ofBytes_of_listed idField timestampField hlisted
  have hplain : ∀ x ∈ page.records,
      Timestamp.Plain x.timestamp ∧ x.timestamp ≠ Timestamp.last ∧ p.cursor ≤ x.timestamp := by
    intro x hx
    obtain ⟨e, he, -, ht⟩ := Page.mem_usable (hrecords ▸ hx)
    exact hfollow e he _ ht
  obtain ⟨r, hr⟩ := exists_reconcile_of_plain p pageSize
    fun x hx => ⟨(hplain x hx).1, (hplain x hx).2.1⟩
  refine ⟨page, r, hpage, hr, ?_, ?_⟩
  · rintro ⟨e, he, hid⟩
    obtain ⟨x, hx, -⟩ := Page.exists_mem_usable horder he hid
    have hend := reconcile_cases p page pageSize
    rw [hr] at hend
    rw [← hrecords] at hx
    have hascending := Page.ascending_usable idField horder
    rw [← hrecords] at hascending
    exact hend.cursor_lt_of_full hboundary (List.ne_nil_of_mem hx) (hfetched.trans hfull)
      hascending fun x hx => ⟨(hplain x hx).1, (hplain x hx).2.2⟩
  · intro hnone
    rw [reconcile_of_records_eq_nil (hrecords.trans (Page.usable_eq_nil hnone))] at hr
    exact (Except.ok.inj hr).symm

end

/-- A full page of one second that was delivered before, and an entry without an
identifier. -/
theorem full_page_moves_nameless :
    let body := bodyOf [(none, "2015-01-01 10:00:00"), (some "a", "2015-01-01 10:00:00")]
    let p := Checkpoint.ofCursor "2015-01-01 10:00:00" ["a"]
    ∃ page r q, Page.ofBytes "id" "ts" body = .ok page ∧ reconcile (some p) page 2 = .ok r ∧
      r.checkpoint = some q ∧ p.cursor < q.cursor := by
  intro body p
  have hentries : ∃ entries ∈ Page.listed? body, entries.length = 2 ∧ Json.InOrder "ts" entries ∧
      (∀ e ∈ entries, ∀ t ∈ e.textAt? "ts",
        Timestamp.Plain t ∧ t ≠ Timestamp.last ∧ p.cursor ≤ t) ∧
      ∃ e ∈ entries, (e.textAt? "id").isSome := by decide +kernel
  obtain ⟨entries, hlisted, hfull, horder, hfollow, husable⟩ := hentries
  obtain ⟨page, r, hpage, hr, hmoves, -⟩ :=
    full_page_moves "id" (p := p) (by decide) hlisted hfull horder hfollow
  obtain ⟨q, hq, hlt⟩ := hmoves husable
  exact ⟨page, r, q, hpage, hr, hq, hlt⟩

/-- A job that learns nothing from the page at its cursor stays there, however often it
polls. -/
theorem Site.held_iterate_poll {s : Site} {source : Source} {p : Checkpoint}
    (hfree : s.reader.guard.busy = false) (hheld : s.held = some p) (hcursor : p.cursor ≠ "")
    (hcollect : s.collect source p = .ok ⟨[], none, false⟩) (k : ℕ) :
    ((fun t : Site => (t.poll source).2)^[k] s).held = some p := by
  suffices h : ∀ t : Site, t.reader.guard.busy = false → t.held = some p →
      t.reader.settings = s.reader.settings →
      ((fun t : Site => (t.poll source).2)^[k] t).held = some p from h s hfree hheld rfl
  induction k with
  | zero => exact fun t _ hheld _ => hheld
  | succ k ih =>
    intro t hfree hheld hsettings
    obtain ⟨hend, hagrees, -⟩ := Site.poll_spec hfree source
    have hposition := Site.position_of_held hheld hcursor
    have hsame : t.collect source t.position = .ok ⟨[], none, false⟩ := by
      rw [hposition, Site.collect_congr hsettings, hcollect]
    have hstays : (t.poll source).2.held = some p := by
      cases hend with
      | unread e _ _ _ hsame => exact hsame.trans hheld
      | failed e _ hfailed => rw [hsame] at hfailed; cases hfailed
      | refused r e _ hok _ _ hemit => rw [hsame] at hok; cases hok; exact absurd rfl hemit
      | unstored r next e _ hok _ _ _ hnext => rw [hsame] at hok; cases hok; cases hnext
      | stored r next _ hok _ _ hnext => rw [hsame] at hok; cases hok; cases hnext
      | unchanged r _ _ _ _ _ hheld => rw [hheld, hposition]
    rw [Function.iterate_succ_apply]
    exact ih _ (hagrees.guard ▸ hfree) hstays (hagrees.settings.trans hsettings)

/-- Two entries of one second without identifiers fill a page: a job at that second is
answered with them by every poll, and never leaves it. -/
theorem full_page_stays :
    let reply : SourceReply :=
      { status := 200
        body := bodyOf [(none, "2015-01-01 10:00:00"), (none, "2015-01-01 10:00:00")] }
    let p := Checkpoint.ofCursor "2015-01-01 10:00:00" ["a"]
    let reader := Reader.ofSettings Collection.smallTask Collection.smallSettings
    let job : Site := ⟨{ reader with cache := reader.cache.apply p }, {}⟩
    let source : Source := fun cursor => reader.settings.page cursor (some reply)
    ∃ entries page, Page.listed? reply.body = some entries ∧
      entries.length = reader.settings.pageSize ∧ Json.InOrder "ts" entries ∧
      (∀ e ∈ entries, e.textAt? "ts" = some p.cursor) ∧
      Page.ofBytes "id" "ts" reply.body = .ok page ∧
      reconcile (some p) page reader.settings.pageSize = .ok ⟨[], none, false⟩ ∧
      ∀ k, ((fun t : Site => (t.poll source).2)^[k] job).held = some p := by
  intro reply p reader job source
  have hentries : ∃ entries ∈ Page.listed? reply.body, entries.length = reader.settings.pageSize ∧
      Json.InOrder "ts" entries ∧ (∀ e ∈ entries, e.textAt? "ts" = some p.cursor) ∧
      ∀ e ∈ entries, e.textAt? "id" = none := by decide +kernel
  obtain ⟨entries, hlisted, hfull, horder, htexts, hnone⟩ := hentries
  obtain ⟨page, hpage, hrecords, -⟩ :=
    Page.exists_ofBytes_of_listed "id" "ts" hlisted
  have hstays : reconcile (some p) page reader.settings.pageSize = .ok ⟨[], none, false⟩ :=
    reconcile_of_records_eq_nil (hrecords.trans (Page.usable_eq_nil hnone))
  refine ⟨entries, page, hlisted, hfull, horder, htexts, hpage, hstays, ?_⟩
  have hsource : source p.cursor = .ok page := by
    have hplain : (reply.announcesGzip || Gzip.magic.isPrefixOf reply.body) = false := by
      decide +kernel
    have hsuccess : reply.isSuccess = true := by decide
    simp only [source, PollSettings.page, Gzip.decodeBody, hplain, hsuccess, Bool.not_true,
      Bool.false_eq_true, if_false]
    exact hpage
  exact Site.held_iterate_poll rfl rfl (by decide) (Collection.collect_of_page hsource hstays)

end Collector
