import Mathlib.Data.List.TakeWhile
import Mathlib.Tactic
import Collector.Proofs.Timestamp.Order
import Collector.Source.Settings

/-!
# What a source takes from a request

A source finds two things in the query of an address that `harvest-source` makes: the time
from which on records are asked for, and how many of them (`SourceQuery.ofUrl?`).  It cuts
the query at `&`, the conditions at `^` and the first condition at `>=`, so the cursor
arrives as it was sent if none of these marks stands in front of it by accident.

Main statements:

* `SourceQuery.ofUrl?_requestUrl`: cursor and page size arrive, whatever else the address says.
* `SourceQuery.request_lossless`: they do for timestamps, and no two of these share an address.
-/

namespace Collector

/-- What a source takes from the query of an address. -/
structure SourceQuery where
  /-- The time from which on records are asked for. -/
  cursor : String := ""
  /-- How many records are asked for; all of them, if the query does not say. -/
  limit : Option ℕ := none
  deriving DecidableEq

namespace SourceQuery

/-! ## Reading a query -/

/-- A query in which the marks of conditions are not escaped. -/
def readMarks : List Char → List Char
  | '%' :: '3' :: 'E' :: cs => '>' :: readMarks cs
  | '%' :: '3' :: 'e' :: cs => '>' :: readMarks cs
  | '%' :: '5' :: 'E' :: cs => '^' :: readMarks cs
  | c :: cs => c :: readMarks cs
  | [] => []

/-- A text in which spaces are written as spaces. -/
def readSpaces : List Char → List Char
  | '+' :: cs => ' ' :: readSpaces cs
  | '%' :: '2' :: '0' :: cs => ' ' :: readSpaces cs
  | c :: cs => c :: readSpaces cs
  | [] => []

/-- The query of an address: what stands behind the first question mark.  A number sign ends the
address. -/
def queryOf (url : String) : List Char :=
  match (url.toList.takeWhile (· ≠ '#')).dropInfix? ['?'] with
  | some (_, query) => query
  | none => []

/-- The key of the conditions. -/
def conditionsKey : List Char := "sysparm_query=".toList

/-- The key of the number of records. -/
def limitKey : List Char := "sysparm_record_count=".toList

/-- Takes in one part of a query.  Of the conditions only the first one counts, and of it the
text behind the comparison; a number has to be a number. -/
def take? (q : SourceQuery) (part : List Char) : Option SourceQuery :=
  match part.dropPrefix? conditionsKey with
  | some conditions =>
    match (conditions.takeWhile (· ≠ '^')).dropInfix? ['>', '='] with
    | some (_, time) => some { q with cursor := String.ofList (readSpaces time) }
    | none => some q
  | none =>
    match part.dropPrefix? limitKey with
    | some numeral => (Decimal.readDigits? numeral).map fun n => { q with limit := some n }
    | none => some q

/-- What a source takes from an address. -/
def ofUrl? (url : String) : Option SourceQuery :=
  ((readMarks (queryOf url)).splitOn '&').foldlM take? {}

/-! ## Texts without marks -/

/-- None of the characters is in the text. -/
def Avoids (marks : List Char) (s : String) : Prop := ∀ c ∈ marks, c ∉ s.toList

instance (marks : List Char) (s : String) : Decidable (Avoids marks s) :=
  List.decidableBAll (fun c => c ∉ s.toList) marks

theorem Avoids.mono {marks fewer : List Char} {s : String} (h : Avoids marks s)
    (hsub : fewer ⊆ marks) : Avoids fewer s :=
  fun c hc => h c (hsub hc)

theorem readMarks_eq_self {cs : List Char} (h : '%' ∉ cs) : readMarks cs = cs := by
  fun_induction readMarks cs with
  | case1 | case2 | case3 => exact absurd List.mem_cons_self h
  | case4 c cs _ _ _ ih => rw [ih fun hmem => h (List.mem_cons_of_mem c hmem)]
  | case5 => rfl

theorem readSpaces_eq_self {cs : List Char} (hplus : '+' ∉ cs) (hescape : '%' ∉ cs) :
    readSpaces cs = cs := by
  fun_induction readSpaces cs with
  | case1 => exact absurd List.mem_cons_self hplus
  | case2 => exact absurd List.mem_cons_self hescape
  | case3 c cs _ _ ih =>
    rw [ih (fun hmem => hplus (List.mem_cons_of_mem c hmem)) fun hmem =>
      hescape (List.mem_cons_of_mem c hmem)]
  | case4 => rfl

/-- The one space that is written as a plus sign is read as a space, and the others are spaces. -/
theorem readSpaces_plusForSpace {cs : List Char} (hplus : '+' ∉ cs) (hescape : '%' ∉ cs) :
    readSpaces (PollSettings.plusForSpace cs) = cs := by
  induction cs with
  | nil => rfl
  | cons c cs ih =>
    rw [List.mem_cons, not_or] at hplus hescape
    rw [PollSettings.plusForSpace]
    split_ifs with hspace
    · rw [hspace, readSpaces, readSpaces_eq_self hplus.2 hescape.2]
    · rw [readSpaces, ih hplus.2 hescape.2]
      · exact fun h => hplus.1 h.symm
      · exact fun _ h => absurd h.symm hescape.1

/-- A text is cut at a mark whose first character does not stand before it. -/
theorem dropInfix?_of_not_mem {c : Char} {mark front rest : List Char} (h : c ∉ front) :
    (front ++ c :: mark ++ rest).dropInfix? (c :: mark) = some (front, rest) := by
  refine List.dropInfix?_eq_some_iff.2 ⟨⟨_, rfl, beq_self_eq_true _⟩, ?_⟩
  intro front' mark' rest' hsplit hmark
  obtain rfl := eq_of_beq hmark
  rw [List.append_assoc, List.append_assoc] at hsplit
  rcases List.append_eq_append_iff.1 hsplit with ⟨between, rfl, -⟩ | ⟨between, rfl, hrest⟩
  · rw [List.length_append]
    omega
  · cases between with
    | nil => rw [List.append_nil]
    | cons d between =>
      -- a mark further in front would begin with a character that is not there
      obtain rfl : c = d := (List.cons.inj hrest).1
      exact absurd (List.mem_append_right _ List.mem_cons_self) h

theorem takeWhile_of_not_mem {c : Char} {front rest : List Char} (h : c ∉ front) :
    (front ++ c :: rest).takeWhile (· ≠ c) = front := by
  rw [List.takeWhile_append_of_pos, List.takeWhile_cons_of_neg (by simp), List.append_nil]
  intro d hd
  exact decide_eq_true fun hdc => h (hdc ▸ hd)

/-! ## Requests -/

section Requests

variable {s : PollSettings} {cursor : String}

/-- The first condition: records at or after the cursor. -/
def conditionOf (s : PollSettings) (cursor : String) : List Char :=
  s.timestampField.toList ++ ['>', '='] ++ PollSettings.plusForSpace cursor.toList

/-- The parts of the query. -/
def partsOf (s : PollSettings) (cursor : String) : List (List Char) :=
  ["JSONv2".toList,
    conditionsKey ++ (conditionOf s cursor ++ '^' :: ("ORDERBY".toList ++ s.timestampField.toList)),
    limitKey ++ Decimal.digits s.pageSize]

/-- An address is what leads to the table, a question mark, and the query. -/
theorem toList_requestUrl : (s.requestUrl cursor).toList =
    (s.serverUrl.toList ++ '/' :: (s.endpoint.toList ++ ".do".toList)) ++ ['?'] ++
      ['&'].intercalate (partsOf s cursor) := by
  have hslash : "/".toList = ['/'] := by decide
  have hquery : ".do?JSONv2&sysparm_query=".toList =
      ".do".toList ++ '?' :: ("JSONv2".toList ++ '&' :: conditionsKey) := by decide
  have hatLeast : ">=".toList = ['>', '='] := by decide
  have horder : "^ORDERBY".toList = '^' :: "ORDERBY".toList := by decide
  have hlimit : "&sysparm_record_count=".toList = '&' :: limitKey := by decide
  have hparts : ∀ a b c : List Char,
      ['&'].intercalate [a, b, c] = a ++ '&' :: (b ++ '&' :: c) := fun _ _ _ => by simp
  simp only [PollSettings.requestUrl, String.toList_append, hslash, hquery, hatLeast, horder,
    hlimit, Decimal.ofNat, String.toList_ofList, partsOf, hparts, conditionOf, List.append_assoc,
    List.cons_append, List.nil_append]

theorem mem_plusForSpace {c : Char} {cs : List Char} (h : c ∈ PollSettings.plusForSpace cs) :
    c = '+' ∨ c ∈ cs := by
  induction cs with
  | nil => exact .inr h
  | cons d cs ih =>
    rw [PollSettings.plusForSpace] at h
    split_ifs at h
    · exact (List.mem_cons.1 h).imp_right (List.mem_cons_of_mem d)
    · rcases List.mem_cons.1 h with rfl | h
      · exact .inr List.mem_cons_self
      · exact (ih h).imp_right (List.mem_cons_of_mem d)

theorem isDigit_of_mem_digits {n : ℕ} {c : Char} (h : c ∈ Decimal.digits n) :
    Decimal.isDigit c = true :=
  List.all_eq_true.1 (Decimal.field_digits n).all_isDigit c h

/-- The marks that a query is cut at, or that end it or begin an escape, stand in no part of it
if they are neither in the field nor in the cursor. -/
theorem not_mem_part {c : Char} (hc : c ∈ ['&', '#', '%']) (hfield : c ∉ s.timestampField.toList)
    (hcursor : c ∉ cursor.toList) : ∀ part ∈ partsOf s cursor, c ∉ part := by
  obtain ⟨hversion, hconditions, horder, hlimit, hmarks, hplus, hdigit⟩ :
      c ∉ "JSONv2".toList ∧ c ∉ conditionsKey ∧ c ∉ '^' :: "ORDERBY".toList ∧ c ∉ limitKey ∧
        c ∉ ['>', '='] ∧ c ≠ '+' ∧ Decimal.isDigit c = false := by
    simp only [List.mem_cons, List.not_mem_nil, or_false] at hc
    rcases hc with rfl | rfl | rfl <;> decide
  have hsent : c ∉ PollSettings.plusForSpace cursor.toList := fun hmem =>
    (mem_plusForSpace hmem).elim hplus hcursor
  have hnumber : c ∉ Decimal.digits s.pageSize := fun hmem => by
    rw [isDigit_of_mem_digits hmem] at hdigit
    cases hdigit
  simp only [partsOf, conditionOf, ← List.cons_append, List.forall_mem_cons, List.mem_append,
    not_or]
  exact ⟨hversion, ⟨hconditions, ⟨⟨hfield, hmarks⟩, hsent⟩, horder, hfield⟩, ⟨hlimit, hnumber⟩,
    nofun⟩

theorem mem_of_mem_intercalate {c : Char} {mark : List Char} {parts : List (List Char)}
    (h : c ∈ mark.intercalate parts) : c ∈ mark ∨ ∃ part ∈ parts, c ∈ part := by
  induction parts with
  | nil => cases h
  | cons part parts ih =>
    cases parts with
    | nil =>
      rw [List.intercalate_singleton] at h
      exact .inr ⟨part, List.mem_cons_self, h⟩
    | cons next rest =>
      rw [List.intercalate_cons_cons, List.mem_append, List.mem_append] at h
      rcases h with (h | h) | h
      · exact .inr ⟨part, List.mem_cons_self, h⟩
      · exact .inl h
      · exact (ih h).imp_right fun ⟨p, hp, hcp⟩ => ⟨p, List.mem_cons_of_mem _ hp, hcp⟩

/-- The query begins at the first question mark, and nothing ends it. -/
theorem queryOf_requestUrl (hserver : Avoids ['?', '#'] s.serverUrl)
    (hendpoint : Avoids ['?', '#'] s.endpoint) (hfield : '#' ∉ s.timestampField.toList)
    (hcursor : '#' ∉ cursor.toList) :
    queryOf (s.requestUrl cursor) = ['&'].intercalate (partsOf s cursor) := by
  have hfront : ∀ c ∈ ['?', '#'],
      c ∉ s.serverUrl.toList ++ '/' :: (s.endpoint.toList ++ ".do".toList) := by
    intro c hc
    obtain ⟨hsuffix, hslash⟩ : c ∉ ".do".toList ∧ c ≠ '/' := by
      simp only [List.mem_cons, List.not_mem_nil, or_false] at hc
      rcases hc with rfl | rfl <;> decide
    simp only [List.mem_append, List.mem_cons, not_or]
    exact ⟨hserver c hc, hslash, hendpoint c hc, hsuffix⟩
  have hquery : '#' ∉ ['&'].intercalate (partsOf s cursor) := by
    intro hmem
    rcases mem_of_mem_intercalate hmem with hmark | ⟨part, hpart, hc⟩
    · exact absurd hmark (by decide)
    · exact not_mem_part (by decide) hfield hcursor part hpart hc
  have hwhole : (s.requestUrl cursor).toList.takeWhile (· ≠ '#') =
      (s.requestUrl cursor).toList := by
    refine List.takeWhile_eq_self_iff.2 fun c hc => decide_eq_true ?_
    rintro rfl
    rw [toList_requestUrl, List.mem_append, List.mem_append] at hc
    rcases hc with (hc | hc) | hc
    · exact hfront '#' (by decide) hc
    · exact absurd hc (by decide)
    · exact hquery hc
  rw [queryOf, hwhole, toList_requestUrl, dropInfix?_of_not_mem (hfront '?' (by decide))]

/-- Of the conditions the source takes the text behind the first comparison, which is the
cursor. -/
theorem take?_conditions (q : SourceQuery) (hfield : Avoids ['^', '>'] s.timestampField)
    (hcursor : Avoids ['^', '%', '+'] cursor) (rest : List Char) :
    q.take? (conditionsKey ++ (conditionOf s cursor ++ '^' :: rest)) = some { q with cursor } := by
  have hend : '^' ∉ conditionOf s cursor := by
    simp only [conditionOf, List.mem_append, not_or]
    refine ⟨⟨hfield '^' (by decide), by decide⟩, fun hmem => ?_⟩
    exact (mem_plusForSpace hmem).elim (by decide) (hcursor '^' (by decide))
  have hread : readSpaces (PollSettings.plusForSpace cursor.toList) = cursor.toList :=
    readSpaces_plusForSpace (hcursor '+' (by decide)) (hcursor '%' (by decide))
  rw [take?, List.dropPrefix?_append_of_beq _ (beq_self_eq_true _)]
  simp only [takeWhile_of_not_mem hend]
  rw [conditionOf, dropInfix?_of_not_mem (hfield '>' (by decide))]
  simp only [hread, String.ofList_toList]

theorem take?_limit (q : SourceQuery) (n : ℕ) :
    q.take? (limitKey ++ Decimal.digits n) = some { q with limit := some n } := by
  have hother : ∀ numeral, (limitKey ++ numeral).dropPrefix? conditionsKey = none := fun _ => rfl
  have hread : Decimal.readDigits? (Decimal.digits n) = some n :=
    (Decimal.field_digits n).readDigits? Nat.length_toDigits_pos
  rw [take?, hother (Decimal.digits n), List.dropPrefix?_append_of_beq _ (beq_self_eq_true _)]
  simp only [hread, Option.map_some]

/-- A part without a key says nothing. -/
theorem take?_version (q : SourceQuery) : q.take? "JSONv2".toList = some q := by
  have hconditions : "JSONv2".toList.dropPrefix? conditionsKey = none := by decide
  have hlimit : "JSONv2".toList.dropPrefix? limitKey = none := by decide
  simp only [take?, hconditions, hlimit]

/-- Cursor and page size arrive, whatever else the address says: no mark that the source cuts at
stands where it would cut too early. -/
theorem ofUrl?_requestUrl (hserver : Avoids ['?', '#'] s.serverUrl)
    (hendpoint : Avoids ['?', '#'] s.endpoint)
    (hfield : Avoids ['&', '^', '>', '%', '#'] s.timestampField)
    (hcursor : Avoids ['&', '^', '%', '#', '+'] cursor) :
    ofUrl? (s.requestUrl cursor) = some ⟨cursor, some s.pageSize⟩ := by
  have hmarks : ∀ c ∈ ['&', '#', '%'], ∀ part ∈ partsOf s cursor, c ∉ part := fun c hc =>
    not_mem_part hc (hfield.mono (by decide) c hc) (hcursor.mono (by decide) c hc)
  have hescape : '%' ∉ ['&'].intercalate (partsOf s cursor) := by
    intro hmem
    rcases mem_of_mem_intercalate hmem with hmark | ⟨part, hpart, hc⟩
    · exact absurd hmark (by decide)
    · exact hmarks '%' (by decide) part hpart hc
  have hcut : (['&'].intercalate (partsOf s cursor)).splitOn '&' = partsOf s cursor :=
    List.splitOn_intercalate '&' (hmarks '&' (by decide)) (by simp [partsOf])
  have hconditions := fun q rest =>
    take?_conditions q (hfield.mono (by decide)) (hcursor.mono (by decide)) rest
  have hquery := queryOf_requestUrl hserver hendpoint (hfield '#' (by decide))
    (hcursor '#' (by decide))
  rw [ofUrl?, hquery, readMarks_eq_self hescape, hcut, partsOf]
  simp only [List.foldlM_cons, List.foldlM_nil, take?_version, hconditions, take?_limit,
    Option.bind_eq_bind, Option.bind_some, Option.pure_def]

end Requests

/-! ## Timestamps as cursors -/

/-- A timestamp of the template, of any moment, has nothing but digits, hyphens, colons and a
space. -/
theorem avoids_of_writes {m : Moment} {cursor : String} (h : Timestamp.Writes m cursor.toList) :
    Avoids ['&', '^', '%', '#', '+'] cursor := by
  obtain ⟨ys, mos, ds, hs, mis, ss, year, htext, -, hy, hmo, hd, hh, hmi, hsec⟩ := h
  intro c hc
  obtain ⟨hdigit, hmarks⟩ : Decimal.isDigit c = false ∧ c ∉ ['-', ' ', ':'] := by
    simp only [List.mem_cons, List.not_mem_nil, or_false] at hc
    rcases hc with rfl | rfl | rfl | rfl | rfl <;> decide
  have hfield : ∀ {width n : ℕ} {cs : List Char}, Decimal.Field width n cs → c ∉ cs := by
    intro width n cs hcs hmem
    rw [List.all_eq_true.1 hcs.all_isDigit c hmem] at hdigit
    cases hdigit
  simp only [List.mem_cons, List.not_mem_nil, or_false, not_or] at hmarks
  simp only [htext, List.mem_append, List.mem_cons, not_or]
  exact ⟨hfield hy, hmarks.1, hfield hmo, hmarks.1, hfield hd, hmarks.2.1, hfield hh, hmarks.2.2,
    hfield hmi, hmarks.2.2, hfield hsec⟩

/-- Requests lose nothing.  If no mark of addresses stands in the base address or the table, and
no mark of queries in the field that orders the feed, then a source takes from the address of a
request just the timestamp that it was made for, and the page size.  So requests for different
timestamps have different addresses. -/
theorem request_lossless (s : PollSettings) (hserver : Avoids ['?', '#'] s.serverUrl)
    (hendpoint : Avoids ['?', '#'] s.endpoint)
    (hfield : Avoids ['&', '^', '>', '%', '#'] s.timestampField) :
    (∀ cursor m, Timestamp.Writes m cursor.toList →
      ofUrl? (s.request cursor).url = some ⟨cursor, some s.pageSize⟩) ∧
    ∀ cursor cursor' m m', Timestamp.Writes m cursor.toList → Timestamp.Writes m' cursor'.toList →
      cursor ≠ cursor' → (s.request cursor).url ≠ (s.request cursor').url := by
  have harrives : ∀ cursor m, Timestamp.Writes m cursor.toList →
      ofUrl? (s.request cursor).url = some ⟨cursor, some s.pageSize⟩ := fun cursor m hwrites =>
    ofUrl?_requestUrl hserver hendpoint hfield (avoids_of_writes hwrites)
  refine ⟨harrives, fun cursor cursor' m m' hwrites hwrites' hne heq => hne ?_⟩
  have hsame := harrives cursor m hwrites
  rw [heq, harrives cursor' m' hwrites'] at hsame
  simp only [Option.some.injEq, mk.injEq, and_true] at hsame
  exact hsame.symm

/-- An address with the marks of queries, before a query whose field has an equals sign, a plus
sign, a space and a question mark. -/
theorem request_lossless_marked :
    let s : PollSettings :=
      ⟨"http://h/a&b>=c^%3E", "t=&", "x=y+z ?", "sys_id", "2015-01-01 00:00:00", 500, none, none⟩
    ofUrl? (s.request "2016-02-29 23:59:59").url = some ⟨"2016-02-29 23:59:59", some 500⟩ ∧
      (s.request "2016-02-29 23:59:59").url ≠ (s.request "2016-03-01 00:00:00").url := by
  intro s
  have hleap : Timestamp.Writes ⟨2016, 2, 29, 23, 59, 59⟩ "2016-02-29 23:59:59".toList :=
    Timestamp.writes_of_fields? (by decide)
  have hmarch : Timestamp.Writes ⟨2016, 3, 1, 0, 0, 0⟩ "2016-03-01 00:00:00".toList :=
    Timestamp.writes_of_fields? (by decide)
  obtain ⟨harrives, happart⟩ := request_lossless s (by decide) (by decide) (by decide)
  exact ⟨harrives _ _ hleap, happart _ _ _ _ hleap hmarch (by decide)⟩

/-- Behind a field with a comparison of its own another text is taken for the cursor. -/
example : ofUrl? (PollSettings.requestUrl
    ⟨"http://h", "t", "x>=y", "sys_id", "", 7, none, none⟩ "2016-02-29 23:59:59") =
      some ⟨"y>=2016-02-29 23:59:59", some 7⟩ := by
  decide +kernel

end SourceQuery

end Collector
