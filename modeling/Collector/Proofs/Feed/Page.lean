import Mathlib.Tactic
import Mathlib.Data.String.Basic
import Collector.Proofs.Timestamp.Order
import Collector.Source.Feed

/-!
# Pages of a feed

A page that `harvest-source` gets is the beginning of what a feed has at or after a
cursor.  The source may put records of one timestamp in any order (`Feed.IsPage`), so two
pages for the same cursor can show different records of the last timestamp; but what comes
before that timestamp is always all there, and so is the first timestamp if a page can
hold it.

Main statements:

* `mem_take_of_lt`: a page shows everything before its last timestamp.
* `mem_take_of_bucket`: a page shows all of its first timestamp that fits.
* `takeWhile_reverse_eq`: the end of a page holds all that it shows of its last
  timestamp.
-/

namespace Collector

/-- What tells a record from all others. -/
def Record.key (r : Record) : String × String := (r.timestamp, r.id)

namespace Feed

/-! ## Feeds -/

/-- The records of the feed stand in the order of their timestamps. -/
abbrev Ascending (feed : Feed) : Prop := feed.Pairwise fun a b => a.timestamp ≤ b.timestamp

/-- The records of one timestamp. -/
def bucket (feed : Feed) (t : String) : Feed := feed.filter fun r => r.timestamp = t

/-- Every timestamp is a plain one before the last second, and no two records have
the same timestamp and identifier. -/
structure WellFormed (feed : Feed) : Prop where
  /-- The timestamps. -/
  plain : ∀ r ∈ feed, Timestamp.Plain r.timestamp ∧ r.timestamp ≠ Timestamp.last
  /-- The identifiers. -/
  nodup : (feed.map Record.key).Nodup

/-- No timestamp has more records than a page can hold. -/
def Fits (feed : Feed) (pageSize : ℕ) : Prop := ∀ t, (feed.bucket t).length ≤ pageSize

/-- A page that a source with this feed may answer a cursor with: the first
records at or after it, ascending, and those of one timestamp in any order. -/
def IsPage (feed : Feed) (pageSize : ℕ) (cursor : String) (page : Page) : Prop :=
  ∃ l : Feed, l.Perm (feed.since cursor) ∧ l.Ascending ∧ page = Page.ofRecords (l.take pageSize)

theorem mem_since {feed : Feed} {cursor : String} {r : Record} :
    r ∈ feed.since cursor ↔ r ∈ feed ∧ cursor ≤ r.timestamp := by
  simp only [since, List.mem_filter, decide_eq_true_eq, not_lt]

theorem mem_bucket {feed : Feed} {t : String} {r : Record} :
    r ∈ feed.bucket t ↔ r ∈ feed ∧ r.timestamp = t := by
  simp [bucket]

instance (feed : Feed) : Decidable feed.WellFormed :=
  decidable_of_iff ((∀ r ∈ feed, Timestamp.Plain r.timestamp ∧ r.timestamp ≠ Timestamp.last) ∧
    (feed.map Record.key).Nodup) ⟨fun ⟨h, k⟩ => ⟨h, k⟩, fun h => ⟨h.plain, h.nodup⟩⟩

/-- Only the timestamps of the feed can have too many records. -/
theorem fits_iff {feed : Feed} {n : ℕ} :
    feed.Fits n ↔ ∀ r ∈ feed, (feed.bucket r.timestamp).length ≤ n := by
  refine ⟨fun h r _ => h r.timestamp, ?_⟩
  intro h t
  cases hbucket : feed.bucket t with
  | nil => exact Nat.zero_le n
  | cons r rest =>
    obtain ⟨hr, rfl⟩ := mem_bucket.1 (hbucket ▸ List.mem_cons_self : r ∈ feed.bucket t)
    exact hbucket ▸ h r hr

instance (feed : Feed) (n : ℕ) : Decidable (feed.Fits n) := decidable_of_iff _ fits_iff.symm

theorem WellFormed.eq_of_key {feed : Feed} (h : feed.WellFormed) {x y : Record} (hx : x ∈ feed)
    (hy : y ∈ feed) (ht : x.timestamp = y.timestamp) (hid : x.id = y.id) : x = y :=
  List.inj_on_of_nodup_map h.nodup hx hy (Prod.ext ht hid)

/-- A page of an ascending feed in its own order. -/
theorem isPage_page {feed : Feed} (h : feed.Ascending) (pageSize : ℕ) (cursor : String) :
    feed.IsPage pageSize cursor (feed.page pageSize cursor) :=
  ⟨feed.since cursor, .refl _, h.filter _, rfl⟩

/-! ## Beginnings of ascending lists -/

variable {l : List Record} {n : ℕ}

/-- A page shows everything before its last timestamp. -/
theorem mem_take_of_lt (hl : Ascending l) {x y : Record} (hx : x ∈ l) (hy : y ∈ l.take n)
    (h : x.timestamp < y.timestamp) : x ∈ l.take n := by
  rw [← List.take_append_drop n l] at hl hx
  rcases List.mem_append.1 hx with hx | hx
  · exact hx
  · exact absurd h (not_lt.2 ((List.pairwise_append.1 hl).2.2 y hy x hx))

/-- A page shows all of its first timestamp that fits. -/
theorem mem_take_of_bucket (hl : Ascending l) {t : String} (hfirst : ∀ r ∈ l, t ≤ r.timestamp)
    (hfits : (bucket l t).length ≤ n) {x : Record} (hx : x ∈ l) (hxt : x.timestamp = t) :
    x ∈ l.take n := by
  by_contra hnot
  have hdrop : x ∈ l.drop n := by
    rw [← List.take_append_drop n l] at hx
    exact (List.mem_append.1 hx).resolve_left hnot
  have hlen : n < l.length := by
    by_contra hle
    rw [List.drop_eq_nil_of_le (not_lt.1 hle)] at hdrop
    exact absurd hdrop List.not_mem_nil
  -- all that precedes `x` has its timestamp, so that there are more than fit
  have hall : bucket (l.take n) t = l.take n := by
    refine List.filter_eq_self.2 ?_
    intro y hy
    rw [← List.take_append_drop n l] at hl
    have hle := (List.pairwise_append.1 hl).2.2 y hy x hdrop
    have hge := hfirst y (List.mem_of_mem_take hy)
    exact decide_eq_true (le_antisymm (hle.trans hxt.le) hge)
  have hsplit : bucket l t = bucket (l.take n) t ++ bucket (l.drop n) t := by
    rw [bucket, bucket, bucket, ← List.filter_append, List.take_append_drop]
  have hpos : 0 < (bucket (l.drop n) t).length :=
    List.length_pos_of_mem (mem_bucket.2 ⟨hdrop, hxt⟩)
  rw [hsplit, hall, List.length_append, List.length_take] at hfits
  omega

/-- In a descending list what has the timestamp of the head stands at the front. -/
theorem takeWhile_eq_filter {t : String} :
    ∀ {l : List Record}, l.Pairwise (fun a b => b.timestamp ≤ a.timestamp) →
      (∀ r ∈ l, r.timestamp ≤ t) →
      (l.takeWhile fun r => r.timestamp = t) = l.filter fun r => r.timestamp = t
  | [], _, _ => rfl
  | x :: l, hl, ht => by
    obtain ⟨hx, hl⟩ := List.pairwise_cons.1 hl
    by_cases heq : x.timestamp = t
    · rw [List.takeWhile_cons_of_pos (by simpa using heq),
        List.filter_cons_of_pos (by simpa using heq),
        takeWhile_eq_filter hl fun r hr => ht r (List.mem_cons_of_mem _ hr)]
    · rw [List.takeWhile_cons_of_neg (by simpa using heq),
        List.filter_cons_of_neg (by simpa using heq), eq_comm, List.filter_eq_nil_iff]
      intro r hr hrt
      have hlt : x.timestamp < t := lt_of_le_of_ne (ht x List.mem_cons_self) heq
      exact absurd (of_decide_eq_true hrt) (ne_of_lt ((hx r hr).trans_lt hlt))

/-- The end of an ascending list holds all that it has of its last timestamp. -/
theorem takeWhile_reverse_eq (hl : Ascending l) {last : Record} (hlast : l.getLast? = some last) :
    (l.reverse.takeWhile fun r => r.timestamp = last.timestamp) =
      (bucket l last.timestamp).reverse := by
  rw [takeWhile_eq_filter (List.pairwise_reverse.2 hl), bucket, List.filter_reverse]
  intro r hr
  obtain ⟨init, rfl⟩ := List.getLast?_eq_some_iff.1 hlast
  rcases List.mem_append.1 (List.mem_reverse.1 hr) with h | h
  · exact (List.pairwise_append.1 hl).2.2 r h last (List.mem_singleton_self _)
  · rw [List.mem_singleton.1 h]

theorem le_getLast (hl : Ascending l) {last x : Record} (hlast : l.getLast? = some last)
    (hx : x ∈ l) : x.timestamp ≤ last.timestamp := by
  obtain ⟨init, rfl⟩ := List.getLast?_eq_some_iff.1 hlast
  rcases List.mem_append.1 hx with h | h
  · exact (List.pairwise_append.1 hl).2.2 x h last (List.mem_singleton_self _)
  · rw [List.mem_singleton.1 h]

theorem head_le (hl : Ascending l) {first x : Record} (hfirst : l.head? = some first)
    (hx : x ∈ l) : first.timestamp ≤ x.timestamp := by
  obtain ⟨rest, rfl⟩ := List.head?_eq_some_iff.1 hfirst
  rcases List.mem_cons.1 hx with rfl | h
  · exact le_rfl
  · exact (List.pairwise_cons.1 hl).1 x h

end Feed

end Collector
