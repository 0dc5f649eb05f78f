import Collector.Job.Factory
import Collector.Proofs.Text.Decimal
import Collector.Proofs.Text.Trimmed

/-!
# Poll settings by their grammar

A task can be polled by `harvest-source` if it says how many records a page has, in a
numeral between blanks, and if four more of its settings say something
(`PollSettings.Settled`).  Of a task that cannot, the first key is named whose setting is
at fault (`PollSettings.FirstFault`).  A builder that has what its jobs share makes a job
of the tasks that can be polled, and of no others.

Main statements:

* `PollSettings.pageSize?_eq_some_iff`: the texts that are page sizes.
* `PollSettings.ofTask_eq_ok_iff`, `PollSettings.ofTask_eq_error_iff`: what becomes of a task.
* `PollSettings.accepted_by_grammar`: both together, and the jobs that are built.
-/

namespace Collector.PollSettings

variable {t : Task} {s : PollSettings} {key raw : String} {e : DataError} {n : ℕ}

/-! ## What a task has to say -/

/-- The keys whose settings may be any text that says something, in the order in which they
are looked at. -/
def textKeys : List String :=
  [Setting.serverUrl, Setting.endpoint, Setting.timestampField, Setting.nextRecordTime]

/-- The keys of the settings that there must be, in the order in which they are looked at. -/
def requiredKeys : List String := Setting.recordCount :: textKeys

/-- The task has this setting, and it says something. -/
def Says (t : Task) (key v : String) : Prop := t.get? key = some v ∧ Text.trim v ≠ ""

/-- The text is a page size: a numeral between blanks, of a positive number of 64 bits. -/
def Counts (raw : String) (n : ℕ) : Prop :=
  ∃ numeral, Text.Trimmed raw numeral ∧ Decimal.Denotes numeral n ∧ 1 ≤ n ∧ n < 2 ^ 64

/-- What a task says about its source. -/
structure Settled (t : Task) (s : PollSettings) : Prop where
  /-- The number of records of a page. -/
  pageSize : ∃ raw, t.get? Setting.recordCount = some raw ∧ Counts raw s.pageSize
  /-- The base address, but for slashes at its end. -/
  serverUrl : ∃ address, Says t Setting.serverUrl address ∧ Text.Unslashed address s.serverUrl
  /-- The table. -/
  endpoint : Says t Setting.endpoint s.endpoint
  /-- The field that orders the feed. -/
  timestampField : Says t Setting.timestampField s.timestampField
  /-- The cursor to begin from. -/
  nextRecordTime : Says t Setting.nextRecordTime s.nextRecordTime
  /-- The field that identifies a record; one is assumed if none is named. -/
  idField : Says t Setting.idField s.idField ∨
    (∀ v, ¬ Says t Setting.idField v) ∧ s.idField = Setting.defaultIdField
  /-- The user, if there is one. -/
  username : s.username = t.get? Setting.username
  /-- The password, if there is one. -/
  password : s.password = t.get? Setting.password

/-- What may be wrong with a setting that there must be. -/
inductive Fault (t : Task) (key : String) : DataError → Prop
  /-- The setting is missing, or blank. -/
  | unsaid {e : DataError} (h : t.settings.Fault key e) : Fault t key e
  /-- The setting says something that is not a page size. -/
  | uncounted {raw : String} (hkey : key = Setting.recordCount) (hsaid : Says t key raw)
      (hcount : ∀ n, ¬ Counts raw n) :
      Fault t key (.invalidValue key ("expected a positive integer, got " ++ Text.quoted raw))

/-- A fault is that of the first key of a list at which something is wrong. -/
def FirstFault (t : Task) (keys : List String) (e : DataError) : Prop :=
  ∃ before key after, keys = before ++ key :: after ∧
    (∀ k ∈ before, ∀ e', ¬ Fault t k e') ∧ Fault t key e

theorem not_firstFault_nil : ¬ FirstFault t [] e := by
  rintro ⟨before, key, after, hkeys, -⟩
  simp at hkeys

theorem firstFault_cons {keys : List String} :
    FirstFault t (key :: keys) e ↔
      Fault t key e ∨ (∀ e', ¬ Fault t key e') ∧ FirstFault t keys e := by
  constructor
  · rintro ⟨before, k, after, hkeys, hbefore, hfault⟩
    cases before with
    | nil =>
      obtain ⟨rfl, -⟩ := List.cons_eq_cons.1 hkeys
      exact .inl hfault
    | cons k' before =>
      obtain ⟨rfl, hrest⟩ := List.cons_eq_cons.1 hkeys
      exact .inr ⟨hbefore _ List.mem_cons_self, before, k, after, hrest,
        fun k hk => hbefore k (List.mem_cons_of_mem _ hk), hfault⟩
  · rintro (hfault | ⟨hgood, before, k, after, rfl, hbefore, hfault⟩)
    · exact ⟨[], key, keys, rfl, nofun, hfault⟩
    · refine ⟨key :: before, k, after, rfl, fun k' hk' => ?_, hfault⟩
      rcases List.mem_cons.1 hk' with rfl | hk'
      · exact hgood
      · exact hbefore k' hk'

/-! ## One setting -/

theorem require_eq_ok_iff {v : String} : t.require key = .ok v ↔ Says t key v :=
  Settings.require_eq_ok_iff

/-- Any text that says something will do for a setting other than the page size. -/
theorem require_eq_error_iff (hkey : key ≠ Setting.recordCount) :
    t.require key = .error e ↔ Fault t key e := by
  rw [Task.require, Settings.require_eq_error_iff]
  constructor
  · exact .unsaid
  · rintro (h | ⟨h, -⟩)
    · exact h
    · exact absurd h hkey

/-- A text is read as a page size exactly if it is one. -/
theorem pageSize?_eq_some_iff : pageSize? raw = some n ↔ Counts raw n := by
  have hread : ∀ m, Decimal.read? 64 (Text.trim raw) = some m ↔
      Decimal.Denotes (Text.trim raw) m ∧ m < 2 ^ 64 := fun _ => Decimal.read?_eq_some_iff
  unfold pageSize?
  constructor
  · intro h
    split at h
    · rename_i m hm
      split at h
      · cases h
      · rename_i hpos
        obtain rfl := Option.some.inj h
        obtain ⟨hdenotes, hfits⟩ := (hread m).1 hm
        exact ⟨_, Text.trim_eq_iff.1 rfl, hdenotes, Nat.one_le_iff_ne_zero.2 hpos, hfits⟩
    · cases h
  · rintro ⟨numeral, htrim, hdenotes, hpos, hfits⟩
    obtain rfl := Text.trim_eq_iff.2 htrim
    simp only [(hread n).2 ⟨hdenotes, hfits⟩]
    exact if_neg (Nat.one_le_iff_ne_zero.1 hpos)

/-- A page size says something. -/
theorem Counts.trim_ne (h : Counts raw n) : Text.trim raw ≠ "" := by
  obtain ⟨numeral, htrim, ⟨sign, ds, htext, -, hne, -⟩, -⟩ := h
  rw [Text.trim_eq_iff.2 htrim]
  rintro rfl
  exact hne (List.append_eq_nil_iff.1 htext.symm).2

theorem pageSizeOf_eq_ok_iff :
    pageSizeOf t = .ok n ↔ ∃ raw, t.get? Setting.recordCount = some raw ∧ Counts raw n := by
  unfold pageSizeOf
  constructor
  · intro h
    split at h
    · cases h
    · rename_i raw hraw
      split at h
      · rename_i m hm
        cases h
        exact ⟨raw, (require_eq_ok_iff.1 hraw).1, pageSize?_eq_some_iff.1 hm⟩
      · cases h
  · rintro ⟨raw, hget, hcounts⟩
    simp only [require_eq_ok_iff.2 ⟨hget, hcounts.trim_ne⟩, pageSize?_eq_some_iff.2 hcounts]

theorem pageSizeOf_eq_error_iff : pageSizeOf t = .error e ↔ Fault t Setting.recordCount e := by
  unfold pageSizeOf
  constructor
  · intro h
    split at h
    · rename_i e' he
      cases h
      exact .unsaid (Settings.require_eq_error_iff.1 he)
    · rename_i raw hraw
      split at h
      · cases h
      · rename_i hnone
        cases h
        refine .uncounted rfl (require_eq_ok_iff.1 hraw) fun n hn => ?_
        rw [pageSize?_eq_some_iff.2 hn] at hnone
        cases hnone
  · rintro (h | ⟨-, hsaid, hcount⟩)
    · have herror : t.require Setting.recordCount = .error e := Settings.require_eq_error_iff.2 h
      simp only [herror]
    · rename_i raw
      have hnone : pageSize? raw = none :=
        Option.eq_none_iff_forall_ne_some.2 fun n hn => hcount n (pageSize?_eq_some_iff.1 hn)
      simp only [require_eq_ok_iff.2 hsaid, hnone]

/-- The identifying field is the one that is named, if one is. -/
theorem idFieldOf_eq_iff {v : String} :
    idFieldOf t = v ↔ Says t Setting.idField v ∨
      (∀ w, ¬ Says t Setting.idField w) ∧ v = Setting.defaultIdField := by
  unfold idFieldOf Says
  cases hget : t.get? Setting.idField with
  | none =>
    constructor
    · rintro rfl
      exact .inr ⟨by simp, rfl⟩
    · rintro (⟨hsome, -⟩ | ⟨-, rfl⟩)
      · cases hsome
      · rfl
  | some w =>
    simp only [Option.some.injEq]
    by_cases hblank : Text.isBlank w = true
    · have hnil := Text.isBlank_iff.1 hblank
      simp only [if_pos hblank]
      constructor
      · rintro rfl
        exact .inr ⟨fun w' hw' => hw'.2 (hw'.1 ▸ hnil), rfl⟩
      · rintro (⟨rfl, hne⟩ | ⟨-, rfl⟩)
        · exact absurd hnil hne
        · rfl
    · have hne : Text.trim w ≠ "" := fun h => hblank (Text.isBlank_iff.2 h)
      simp only [if_neg hblank]
      constructor
      · rintro rfl
        exact .inl ⟨rfl, hne⟩
      · rintro (⟨rfl, -⟩ | ⟨hnone, -⟩)
        · rfl
        · exact absurd ⟨rfl, hne⟩ (hnone w)

/-- An identifying field is never blank. -/
theorem Settled.idField_trim_ne (h : Settled t s) : Text.trim s.idField ≠ "" := by
  rcases h.idField with hsaid | ⟨-, hdefault⟩
  · exact hsaid.2
  · rw [hdefault]
    decide +kernel

/-! ## All settings -/

/-- A task can be polled exactly if it is settled, and then as it says. -/
theorem ofTask_eq_ok_iff : ofTask t = .ok s ↔ Settled t s := by
  constructor
  · intro h
    unfold ofTask at h
    split at h
    · cases h
    · rename_i hcount
      split at h
      · cases h
      · rename_i haddress
        split at h
        · cases h
        · rename_i hendpoint
          split at h
          · cases h
          · rename_i hfield
            split at h
            · cases h
            · rename_i hstart
              cases h
              exact ⟨pageSizeOf_eq_ok_iff.1 hcount,
                ⟨_, require_eq_ok_iff.1 haddress, Text.trimSlashes_eq_iff.1 rfl⟩,
                require_eq_ok_iff.1 hendpoint, require_eq_ok_iff.1 hfield,
                require_eq_ok_iff.1 hstart, idFieldOf_eq_iff.1 rfl, rfl, rfl⟩
  · rintro ⟨hcount, ⟨address, haddress, hslashes⟩, hendpoint, hfield, hstart, hid, huser, hpassword⟩
    simp only [ofTask, pageSizeOf_eq_ok_iff.2 hcount, require_eq_ok_iff.2 haddress,
      require_eq_ok_iff.2 hendpoint, require_eq_ok_iff.2 hfield, require_eq_ok_iff.2 hstart,
      Text.trimSlashes_eq_iff.2 hslashes, idFieldOf_eq_iff.2 hid, ← huser, ← hpassword]

/-- Of all other tasks the first key is named whose setting is at fault. -/
theorem ofTask_eq_error_iff : ofTask t = .error e ↔ FirstFault t requiredKeys e := by
  have haddress : Setting.serverUrl ≠ Setting.recordCount := by decide
  have hendpoint : Setting.endpoint ≠ Setting.recordCount := by decide
  have hfield : Setting.timestampField ≠ Setting.recordCount := by decide
  have hstart : Setting.nextRecordTime ≠ Setting.recordCount := by decide
  simp only [requiredKeys, textKeys, firstFault_cons, not_firstFault_nil,
    ← pageSizeOf_eq_error_iff, ← require_eq_error_iff haddress, ← require_eq_error_iff hendpoint,
    ← require_eq_error_iff hfield, ← require_eq_error_iff hstart]
  unfold ofTask
  cases pageSizeOf t with
  | error _ => simp
  | ok _ =>
    cases t.require Setting.serverUrl with
    | error _ => simp
    | ok _ =>
      cases t.require Setting.endpoint with
      | error _ => simp
      | ok _ =>
        cases t.require Setting.timestampField with
        | error _ => simp
        | ok _ => cases t.require Setting.nextRecordTime <;> simp

/-! ## Jobs -/

/-- A builder that has what its jobs share, and gets a writer, makes the job of a task that can
be polled. -/
theorem build_incremental {J : Type} (app : String) {writers : ℕ → Task → Except ClientError Unit}
    (wrap : Reader → J) {turn : ℕ} (hwriter : writers turn t = .ok ()) :
    (Builder.incremental app writers wrap).build turn t =
      match ofTask t with
      | .ok s => .ok (wrap (Reader.ofSettings t s))
      | .error e => .error (.invalidTask e) := by
  simp only [Builder.build, Builder.incremental, Builder.makeIncremental, Bool.false_eq_true,
    if_false]
  cases ofTask t with
  | error e => rfl
  | ok s => simp only [hwriter, Except.map]

/-- Which tasks can be polled, and how.  A task can be polled just if its page size is a numeral
between blanks, of a positive number of 64 bits, and the four other settings that there must be
say something.  The poll settings are then what the task says: the page size is that number, the
base address is the given one but for the slashes at its end, and the identifying field is not
blank.  Of any other task the first key is named whose setting is missing, blank or no page
size.  And a builder that has what its jobs share, and gets a writer, makes jobs of just these
tasks, and reports the same faults. -/
theorem accepted_by_grammar {J : Type} (t : Task) :
    ((∃ s, ofTask t = .ok s) ↔
      (∃ raw n, t.get? Setting.recordCount = some raw ∧ Counts raw n) ∧
        ∀ key ∈ textKeys, ∃ v, Says t key v) ∧
    (∀ s, ofTask t = .ok s ↔ Settled t s) ∧
    (∀ s, Settled t s → Text.trim s.idField ≠ "") ∧
    (∀ e, ofTask t = .error e ↔ FirstFault t requiredKeys e) ∧
    ∀ app writers (wrap : Reader → J) turn, writers turn t = .ok () →
      ((∃ job, (Builder.incremental app writers wrap).build turn t = .ok job) ↔
        ∃ s, ofTask t = .ok s) ∧
      ∀ e, (Builder.incremental app writers wrap).build turn t = .error (.invalidTask e) ↔
        ofTask t = .error e := by
  refine ⟨⟨?_, ?_⟩, fun s => ofTask_eq_ok_iff, fun s hs => hs.idField_trim_ne,
    fun e => ofTask_eq_error_iff, fun app writers wrap turn hwriter => ?_⟩
  · rintro ⟨s, hs⟩
    have hsettled := ofTask_eq_ok_iff.1 hs
    obtain ⟨raw, hget, hcounts⟩ := hsettled.pageSize
    obtain ⟨address, haddress, -⟩ := hsettled.serverUrl
    refine ⟨⟨raw, _, hget, hcounts⟩, ?_⟩
    simp only [textKeys, List.forall_mem_cons]
    exact ⟨⟨_, haddress⟩, ⟨_, hsettled.endpoint⟩, ⟨_, hsettled.timestampField⟩,
      ⟨_, hsettled.nextRecordTime⟩, nofun⟩
  · rintro ⟨⟨raw, n, hget, hcounts⟩, hsaid⟩
    simp only [textKeys, List.forall_mem_cons] at hsaid
    obtain ⟨⟨address, haddress⟩, ⟨endpoint, hendpoint⟩, ⟨field, hfield⟩, ⟨start, hstart⟩, -⟩ :=
      hsaid
    exact ⟨⟨Text.trimSlashes address, endpoint, field, idFieldOf t, start, n,
        t.get? Setting.username, t.get? Setting.password⟩,
      ofTask_eq_ok_iff.2 ⟨⟨raw, hget, hcounts⟩, ⟨address, haddress, Text.trimSlashes_eq_iff.1 rfl⟩,
        hendpoint, hfield, hstart, idFieldOf_eq_iff.1 rfl, rfl, rfl⟩⟩
  · rw [build_incremental app wrap hwriter]
    cases ofTask t <;> simp

/-- A task of a source of incidents, which names no identifying field. -/
def incidents (count endpoint : String) : Task where
  settings := KeyMap.ofList [(Setting.app, "snow"), (Setting.taskKey, "t"),
    (Setting.recordCount, count), (Setting.serverUrl, "http://h//"), (Setting.endpoint, endpoint),
    (Setting.timestampField, "ts"), (Setting.nextRecordTime, "2015-01-01 00:00:00"),
    (Setting.idField, "\u2003")]
  app_filled := ⟨"snow", by rw [KeyMap.get?_ofList]; rfl, by decide⟩
  identity_filled := ⟨"t", by rw [KeyMap.get?_ofList]; rfl, by decide⟩

/-- The greatest page size, with a sign and a zero before its digits and blanks around them.
One more is no page size, and is named although the table is blank too. -/
theorem accepted_by_grammar_greatest :
    let build (t : Task) := (Builder.incremental "snow" (fun _ _ => .ok ()) id).build 7 t
    let great := incidents "\u2003+018446744073709551615\n" " incident"
    let greater := incidents "18446744073709551616" "\u2003"
    (∃ s, Settled great s ∧ s.pageSize = 18446744073709551615 ∧ s.serverUrl = "http://h" ∧
      s.endpoint = " incident" ∧ s.idField = "sys_id") ∧
    (∃ job, build great = .ok job) ∧
    build greater = .error (.invalidTask (.invalidValue "RecordCount"
      "expected a positive integer, got \"18446744073709551616\"")) := by
  intro build great greater
  have hgreat : ofTask great = .ok ⟨"http://h", " incident", "ts", "sys_id", "2015-01-01 00:00:00",
      18446744073709551615, none, none⟩ := by decide +kernel
  have hgreater : ofTask greater = .error (.invalidValue "RecordCount"
      "expected a positive integer, got \"18446744073709551616\"") := by decide +kernel
  obtain ⟨-, hsettled, -, -, hbuilt⟩ := accepted_by_grammar (J := Reader) great
  obtain ⟨-, -, -, -, hrefused⟩ := accepted_by_grammar (J := Reader) greater
  exact ⟨⟨_, (hsettled _).1 hgreat, rfl, rfl, rfl, rfl⟩,
    (hbuilt "snow" (fun _ _ => .ok ()) id 7 rfl).1.2 ⟨_, hgreat⟩,
    ((hrefused "snow" (fun _ _ => .ok ()) id 7 rfl).2 _).2 hgreater⟩

end Collector.PollSettings
