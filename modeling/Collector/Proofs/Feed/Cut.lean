import Collector.Proofs.Feed.Page

/-!
# Cutting a feed

A cursor of `harvest-source` cuts an ascending feed in two: what lies before it
(`Feed.before`), and what is at or after it (`Feed.since`).  A feed in which a timestamp
has more records than a page can hold is cut down to the first ones of each timestamp
(`Feed.capped`), in the order of the feed.

Main statements:

* `before_append_since`: the two parts are the feed.
* `take_eq_of_getLast`: a page is cut by its last timestamp.
* `capped_append`: what has no timestamp in common is cut down separately.
-/

namespace Collector.Feed

/-! ## Cutting at a cursor -/

/-- The records before a cursor. -/
def before (feed : Feed) (cursor : String) : Feed := feed.filter fun r => r.timestamp < cursor

theorem mem_before {feed : Feed} {c : String} {r : Record} :
    r ∈ feed.before c ↔ r ∈ feed ∧ r.timestamp < c := by
  simp only [before, List.mem_filter, decide_eq_true_eq]

theorem before_append (a b : Feed) (c : String) :
    before (a ++ b) c = a.before c ++ b.before c := List.filter_append ..

theorem before_eq_self {feed : Feed} {c : String} (h : ∀ r ∈ feed, r.timestamp < c) :
    feed.before c = feed :=
  List.filter_eq_self.2 fun r hr => decide_eq_true (h r hr)

theorem before_eq_nil {feed : Feed} {c : String} (h : ∀ r ∈ feed, c ≤ r.timestamp) :
    feed.before c = [] :=
  List.filter_eq_nil_iff.2 fun r hr hlt => absurd (of_decide_eq_true hlt) (not_lt.2 (h r hr))

theorem since_eq_self {feed : Feed} {c : String} (h : ∀ r ∈ feed, c ≤ r.timestamp) :
    feed.since c = feed :=
  List.filter_eq_self.2 fun r hr => decide_eq_true (not_lt.2 (h r hr))

/-- A cursor cuts an ascending feed in two. -/
theorem before_append_since (c : String) {feed : Feed} (h : feed.Ascending) :
    feed.before c ++ feed.since c = feed := by
  induction feed with
  | nil => rfl
  | cons r feed ih =>
    obtain ⟨hr, hfeed⟩ := List.pairwise_cons.1 h
    by_cases hlt : r.timestamp < c
    · have hbefore : before (r :: feed) c = r :: before feed c :=
        List.filter_cons_of_pos (decide_eq_true hlt)
      have hsince : since (r :: feed) c = since feed c :=
        List.filter_cons_of_neg fun hge => of_decide_eq_true hge hlt
      rw [hbefore, hsince, List.cons_append, ih hfeed]
    · -- from the first record on that is not before the cursor, none is
      have hall : ∀ x ∈ r :: feed, c ≤ x.timestamp := by
        intro x hx
        rcases List.mem_cons.1 hx with rfl | hx
        · exact not_lt.1 hlt
        · exact (not_lt.1 hlt).trans (hr x hx)
      rw [before_eq_nil hall, since_eq_self hall, List.nil_append]

theorem ascending_since {feed : Feed} (h : feed.Ascending) (c : String) :
    (feed.since c).Ascending :=
  h.filter _

/-- What is at or after two cursors is what is at or after the later one. -/
theorem since_since {feed : Feed} {c d : String} (h : c ≤ d) :
    (feed.since c).since d = feed.since d := by
  simp only [since, List.filter_filter]
  refine List.filter_congr ?_
  intro r _
  by_cases hlt : r.timestamp < d
  · simp only [hlt, not_true, decide_false, Bool.false_and]
  · have hc : ¬ r.timestamp < c := fun h' => hlt (h'.trans_le h)
    simp only [hlt, hc, not_false_eq_true, decide_true, Bool.and_self]

/-- What lies before the later one of two cursors. -/
theorem before_eq_append {feed : Feed} (hfeed : feed.Ascending) {c d : String} (h : c ≤ d) :
    feed.before d = feed.before c ++ (feed.since c).before d := by
  conv_lhs => rw [← before_append_since c hfeed]
  rw [before_append, before_eq_self]
  intro r hr
  exact (mem_before.1 hr).2.trans_le h

/-- A page is all that lies before its last timestamp, and the first records at it. -/
theorem take_eq_of_getLast {l : Feed} {n : ℕ} (hl : l.Ascending) {last : Record}
    (hlast : (l.take n).getLast? = some last) :
    (l.before last.timestamp).length ≤ n ∧
      l.take n = l.before last.timestamp ++
        (l.since last.timestamp).take (n - (l.before last.timestamp).length) := by
  have hsplit := before_append_since last.timestamp hl
  have hmem : last ∈ l.take n := List.mem_of_getLast? hlast
  have hlen : (l.before last.timestamp).length ≤ n := by
    by_contra hgt
    -- else the page would end before its last timestamp
    rw [← hsplit, List.take_append_of_le_length (not_le.1 hgt).le] at hmem
    exact absurd (mem_before.1 (List.mem_of_mem_take hmem)).2 (lt_irrefl _)
  refine ⟨hlen, ?_⟩
  conv_lhs => rw [← hsplit]
  rw [List.take_append, List.take_of_length_le hlen]

/-- What a page shows of its last timestamp. -/
theorem bucket_take_of_getLast {l : Feed} {n : ℕ} (hl : l.Ascending) {last : Record}
    (hlast : (l.take n).getLast? = some last) :
    bucket (l.take n) last.timestamp =
      (l.since last.timestamp).take (n - (l.before last.timestamp).length) := by
  have hasc : Ascending (l.take n) := hl.sublist (List.take_sublist n l)
  have htake := (take_eq_of_getLast hl hlast).2
  have hbefore : bucket (l.before last.timestamp) last.timestamp = [] := by
    refine List.filter_eq_nil_iff.2 ?_
    intro r hr heq
    exact absurd (of_decide_eq_true heq) (mem_before.1 hr).2.ne
  have hat : ∀ r ∈ (l.since last.timestamp).take (n - (l.before last.timestamp).length),
      r.timestamp = last.timestamp := by
    intro r hr
    have hle : r.timestamp ≤ last.timestamp :=
      le_getLast hasc hlast (htake ▸ List.mem_append_right _ hr)
    exact le_antisymm hle (mem_since.1 (List.mem_of_mem_take hr)).2
  conv_lhs => rw [htake]
  rw [bucket, List.filter_append]
  exact (congrArg (· ++ _) hbefore).trans
    (List.filter_eq_self.2 fun r hr => decide_eq_true (hat r hr))

/-! ## The first records of each timestamp -/

/-- The records of a feed that are among the first `n` of their timestamp, if the
records `seen` come before it. -/
def cappedAfter (n : ℕ) (seen : Feed) : Feed → Feed
  | [] => []
  | r :: feed =>
    if (seen.bucket r.timestamp).length < n then r :: cappedAfter n (seen ++ [r]) feed
    else cappedAfter n (seen ++ [r]) feed

/-- The feed, with every timestamp cut down to its first `n` records. -/
def capped (feed : Feed) (n : ℕ) : Feed := cappedAfter n [] feed

variable {n : ℕ}

theorem cappedAfter_append (a b seen : Feed) :
    cappedAfter n seen (a ++ b) = cappedAfter n seen a ++ cappedAfter n (seen ++ a) b := by
  induction a generalizing seen with
  | nil => simp only [cappedAfter, List.nil_append, List.append_nil]
  | cons r a ih =>
    simp only [cappedAfter, List.cons_append, ih, List.append_assoc, List.nil_append]
    split
    · rfl
    · rfl

/-- What comes before matters only if it has the same timestamps. -/
theorem cappedAfter_congr {feed : Feed} {seen seen' : Feed}
    (h : ∀ r ∈ feed, seen.bucket r.timestamp = seen'.bucket r.timestamp) :
    cappedAfter n seen feed = cappedAfter n seen' feed := by
  induction feed generalizing seen seen' with
  | nil => rfl
  | cons r feed ih =>
    have hrest : cappedAfter n (seen ++ [r]) feed = cappedAfter n (seen' ++ [r]) feed := by
      refine ih ?_
      intro x hx
      rw [bucket, bucket, List.filter_append, List.filter_append]
      exact congrArg (· ++ _) (h x (List.mem_cons_of_mem r hx))
    simp only [cappedAfter, h r List.mem_cons_self, hrest]

/-- What has no timestamp in common is cut down separately. -/
theorem capped_append {a b : Feed} (h : ∀ x ∈ a, ∀ y ∈ b, x.timestamp ≠ y.timestamp) :
    capped (a ++ b) n = a.capped n ++ b.capped n := by
  rw [capped, cappedAfter_append]
  refine congrArg (cappedAfter n [] a ++ ·) (cappedAfter_congr ?_)
  intro y hy
  exact List.filter_eq_nil_iff.2 fun x hx heq => h x hx y hy (of_decide_eq_true heq)

/-- The records of one timestamp are cut down to the first ones. -/
theorem cappedAfter_of_bucket {t : String} {feed seen : Feed} (hseen : ∀ r ∈ seen, r.timestamp = t)
    (hfeed : ∀ r ∈ feed, r.timestamp = t) :
    cappedAfter n seen feed = feed.take (n - seen.length) := by
  induction feed generalizing seen with
  | nil => rw [List.take_nil, cappedAfter]
  | cons r feed ih =>
    have hr : r.timestamp = t := hfeed r List.mem_cons_self
    have hall : seen.bucket r.timestamp = seen :=
      List.filter_eq_self.2 fun x hx => decide_eq_true ((hseen x hx).trans hr.symm)
    have hrest : cappedAfter n (seen ++ [r]) feed = feed.take (n - (seen.length + 1)) := by
      rw [ih ?_ fun x hx => hfeed x (List.mem_cons_of_mem r hx), List.length_append,
        List.length_singleton]
      intro x hx
      rcases List.mem_append.1 hx with hx | hx
      · exact hseen x hx
      · rw [List.mem_singleton.1 hx, hr]
    rw [cappedAfter, hall, hrest]
    by_cases hlt : seen.length < n
    · rw [if_pos hlt, ← List.take_succ_cons]
      congr 1
      omega
    · rw [if_neg hlt, Nat.sub_eq_zero_of_le (by omega), Nat.sub_eq_zero_of_le (by omega),
        List.take_zero, List.take_zero]

theorem capped_of_bucket {t : String} {feed : Feed} (h : ∀ r ∈ feed, r.timestamp = t) :
    feed.capped n = feed.take n := by
  rw [capped, cappedAfter_of_bucket (t := t) (by rintro r ⟨⟩) h, List.length_nil, Nat.sub_zero]

/-- What fits on a page is not cut down. -/
theorem cappedAfter_of_length {feed seen : Feed} (h : seen.length + feed.length ≤ n) :
    cappedAfter n seen feed = feed := by
  induction feed generalizing seen with
  | nil => rfl
  | cons r feed ih =>
    rw [List.length_cons] at h
    have hlt : (seen.bucket r.timestamp).length < n := by
      have hle : (seen.bucket r.timestamp).length ≤ seen.length := List.length_filter_le _ _
      omega
    rw [cappedAfter, if_pos hlt, ih]
    rw [List.length_append, List.length_singleton]
    omega

theorem capped_of_length {feed : Feed} (h : feed.length ≤ n) : feed.capped n = feed :=
  cappedAfter_of_length (by simpa using h)

end Collector.Feed
