import Collector.Json.Basic
import Collector.Proofs.Json.Scan

/-!
# Reading trees

The machine that puts the tokens of a JSON text of `harvest-model` together accepts the
texts of the grammar, and each for the tree that the grammar gives it.  One way round, the
tokens of a value take the machine to the value whatever is open around it (`Makes`), by
induction on the rules of the grammar.  The other way round, the frames that are open after
some tokens say what the rest of the text must be (`Closes`), each state of the machine
has the texts that it still accepts (`Completes`), and a step puts the text of one token
before such a text.

Main statements:

* `element_tokens`: a text of the grammar is cut into tokens that make its tree.
* `completes_of_step?`: what a step does to the texts that are accepted.
* `ofBytes?_eq_some_iff`: the bytes that are read as a tree are its texts.
-/

namespace Collector.Json.Node

open Grammar
open Token (Cuts Clean Spelled Lexed)

/-- The machine after some tokens. -/
def fold (e : Expect) (ts : List Token) : Option Expect := ts.foldlM step? e

theorem fold_cons (e : Expect) (t : Token) (ts : List Token) :
    fold e (t :: ts) = (step? e t).bind fun e => fold e ts := rfl

theorem fold_append (e : Expect) (ts us : List Token) :
    fold e (ts ++ us) = (fold e ts).bind fun e => fold e us := List.foldlM_append ..

/-! ## From the grammar to trees -/

/-- The tokens make a tree, whatever is still open around it. -/
def Makes (ts : List Token) (node : Node) : Prop :=
  ∀ frames, fold (.value frames) ts = some (.after frames node)

/-- The tokens and the end of an array make its items. -/
def MakesItems (ts : List Token) (items : List Node) : Prop :=
  ∀ frames read, fold (.value (.array read :: frames)) (ts ++ [.rightBracket]) =
    some (.after frames (.array (read.reverse ++ items)))

/-- The tokens and the end of an object make its members. -/
def MakesMembers (ts : List Token) (members : List (List Piece × Node)) : Prop :=
  ∀ frames read, fold (.key frames read) (ts ++ [.rightBrace]) =
    some (.after frames (.object (read.reverse ++ members)))

variable {ts us : List Token} {node : Node} {items : List Node}
  {members : List (List Piece × Node)} {key : List Piece}

/-- The first item of an array is read like the others, for no value begins with a
bracket that closes. -/
theorem fold_firstItem {frames : List Frame} {t : Token} {e : Expect}
    (h : fold (.value (.array [] :: frames)) (t :: ts) = some e) :
    fold (.firstItem frames) (t :: ts) = some e := by
  have hne : t ≠ .rightBracket := by
    rintro rfl
    cases h
  have hstep : step? (.firstItem frames) t = step? (.value (.array [] :: frames)) t := by
    simp only [step?, if_neg hne]
  rw [fold_cons, hstep]
  exact h

/-- The first key of an object is read like the others. -/
theorem fold_firstKey {frames : List Frame} {t : Token} {e : Expect}
    (h : fold (.key frames []) (t :: ts) = some e) :
    fold (.firstKey frames) (t :: ts) = some e := by
  cases t with
  | string key => exact h
  | _ => cases h

theorem makes_array (h : MakesItems ts items) :
    Makes (.leftBracket :: (ts ++ [.rightBracket])) (.array items) := by
  intro frames
  have hopen : step? (.value frames) .leftBracket = some (.firstItem frames) := rfl
  rw [fold_cons, hopen, Option.bind_some]
  obtain ⟨t, us, heq⟩ := List.exists_cons_of_ne_nil (List.append_ne_nil_of_right_ne_nil ts
    (List.cons_ne_nil Token.rightBracket []))
  have hitems := h frames []
  rw [heq] at hitems ⊢
  exact fold_firstItem hitems

theorem makes_object (h : MakesMembers ts members) :
    Makes (.leftBrace :: (ts ++ [.rightBrace])) (.object members) := by
  intro frames
  have hopen : step? (.value frames) .leftBrace = some (.firstKey frames) := rfl
  rw [fold_cons, hopen, Option.bind_some]
  obtain ⟨t, us, heq⟩ := List.exists_cons_of_ne_nil (List.append_ne_nil_of_right_ne_nil ts
    (List.cons_ne_nil Token.rightBrace []))
  have hmembers := h frames []
  rw [heq] at hmembers ⊢
  exact fold_firstKey hmembers

theorem makesItems_last (h : Makes ts node) : MakesItems ts [node] := by
  intro frames read
  rw [fold_append, h, Option.bind_some, ← List.reverse_cons]
  rfl

theorem makesItems_cons (h : Makes ts node) (hrest : MakesItems us items) :
    MakesItems (ts ++ .comma :: us) (node :: items) := by
  intro frames read
  have hcomma : step? (.after (.array read :: frames) node) .comma =
      some (.value (.array (node :: read) :: frames)) := rfl
  rw [List.append_assoc, List.cons_append, fold_append, h, Option.bind_some, fold_cons, hcomma,
    Option.bind_some, hrest, List.reverse_cons, List.append_assoc, List.singleton_append]

/-- The tokens of a member, up to its value. -/
theorem fold_member (h : Makes ts node) (frames : List Frame) (read : List (List Piece × Node)) :
    fold (.key frames read) (.string key :: .colon :: ts) =
      some (.after (.object read key :: frames) node) := by
  have hkey : step? (.key frames read) (.string key) = some (.colon frames read key) := rfl
  have hcolon : step? (.colon frames read key) .colon =
      some (.value (.object read key :: frames)) := rfl
  rw [fold_cons, hkey, Option.bind_some, fold_cons, hcolon, Option.bind_some, h]

theorem makesMembers_last (h : Makes ts node) :
    MakesMembers (.string key :: .colon :: ts) [(key, node)] := by
  intro frames read
  rw [fold_append, fold_member h, Option.bind_some, ← List.reverse_cons]
  rfl

theorem makesMembers_cons (h : Makes ts node) (hrest : MakesMembers us members) :
    MakesMembers ((.string key :: .colon :: ts) ++ .comma :: us) ((key, node) :: members) := by
  intro frames read
  have hcomma : step? (.after (.object read key :: frames) node) .comma =
      some (.key frames ((key, node) :: read)) := rfl
  rw [List.append_assoc, fold_append, fold_member h, Option.bind_some, List.cons_append, fold_cons,
    hcomma, Option.bind_some, hrest, List.reverse_cons, List.append_assoc, List.singleton_append]

mutual

/-- A value is cut into tokens that make it. -/
theorem value_tokens {node : Node} {bytes : Bytes} (h : Value node bytes) :
    ∃ ts, Cuts bytes ts ∧ Makes ts node :=
  match h with
  | .null => ⟨_, Token.cuts_null, fun _ => rfl⟩
  | .true => ⟨_, Token.cuts_true, fun _ => rfl⟩
  | .false => ⟨_, Token.cuts_false, fun _ => rfl⟩
  | .number htext hliteral =>
    ⟨_, Token.cuts_number htext, fun frames => by simp [fold, step?, begin?, hliteral]⟩
  | .string h => ⟨_, (Token.clean_quoted h).cuts, fun _ => rfl⟩
  | .emptyArray h =>
    ⟨[.leftBracket, .rightBracket],
      (Token.clean_blank h).cuts.between (by decide) (by decide), fun _ => rfl⟩
  | .array h => by
    obtain ⟨ts, hcuts, hmakes⟩ := elements_tokens h
    exact ⟨_, hcuts.between (by decide) (by decide), makes_array hmakes⟩
  | .emptyObject h =>
    ⟨[.leftBrace, .rightBrace],
      (Token.clean_blank h).cuts.between (by decide) (by decide), fun _ => rfl⟩
  | .object h => by
    obtain ⟨ts, hcuts, hmakes⟩ := members_tokens h
    exact ⟨_, hcuts.between (by decide) (by decide), makes_object hmakes⟩

theorem element_tokens {node : Node} {bytes : Bytes} (h : Element node bytes) :
    ∃ ts, Cuts bytes ts ∧ Makes ts node :=
  match h with
  | .mk hbefore h hafter => by
    obtain ⟨ts, hcuts, hmakes⟩ := value_tokens h
    exact ⟨ts, (Token.clean_blank hbefore).append_cuts (hcuts.append_blank hafter), hmakes⟩

theorem elements_tokens {items : List Node} {bytes : Bytes} (h : Elements items bytes) :
    ∃ ts, Cuts bytes ts ∧ MakesItems ts items :=
  match h with
  | .last h => by
    obtain ⟨ts, hcuts, hmakes⟩ := element_tokens h
    exact ⟨ts, hcuts, makesItems_last hmakes⟩
  | .cons h hrest => by
    obtain ⟨ts, hcuts, hmakes⟩ := element_tokens h
    obtain ⟨us, hcuts', hmakes'⟩ := elements_tokens hrest
    exact ⟨_, hcuts.append_mark_cuts (by decide) hcuts', makesItems_cons hmakes hmakes'⟩

theorem member_tokens {member : List Piece × Node} {bytes : Bytes} (h : Member member bytes) :
    ∃ ts, Cuts bytes (.string member.1 :: .colon :: ts) ∧ Makes ts member.2 :=
  match h with
  | .mk hbefore hkey hafter h => by
    obtain ⟨ts, hcuts, hmakes⟩ := element_tokens h
    have hname := (Token.clean_blank hbefore).append (Token.clean_quoted hkey)
    have hcolon := (Token.clean_blank hafter).cuts.append_mark_cuts
      (show Token.IsMark 0x3A .colon by decide) hcuts
    have hall := hname.append_cuts hcolon
    rw [List.append_assoc] at hall
    exact ⟨ts, hall, hmakes⟩

theorem members_tokens {members : List (List Piece × Node)} {bytes : Bytes}
    (h : Members members bytes) : ∃ ts, Cuts bytes ts ∧ MakesMembers ts members :=
  match h with
  | .last h => by
    obtain ⟨ts, hcuts, hmakes⟩ := member_tokens h
    exact ⟨_, hcuts, makesMembers_last hmakes⟩
  | .cons h hrest => by
    obtain ⟨ts, hcuts, hmakes⟩ := member_tokens h
    obtain ⟨us, hcuts', hmakes'⟩ := members_tokens hrest
    exact ⟨_, hcuts.append_mark_cuts (by decide) hcuts', makesMembers_cons hmakes hmakes'⟩

end

/-! ## From trees to the grammar -/

/-- What follows an item of an array up to the end of the array. -/
inductive ItemsAfter : List Node → Bytes → Prop
  | last {bytes : Bytes} (h : Blank bytes) : ItemsAfter [] bytes
  | more {items : List Node} {before bytes : Bytes} (hbefore : Blank before)
      (h : Elements items bytes) : ItemsAfter items (before ++ 0x2C :: bytes)

/-- What follows a member of an object up to the end of the object. -/
inductive MembersAfter : List (List Piece × Node) → Bytes → Prop
  | last {bytes : Bytes} (h : Blank bytes) : MembersAfter [] bytes
  | more {members : List (List Piece × Node)} {before bytes : Bytes} (hbefore : Blank before)
      (h : Members members bytes) : MembersAfter members (before ++ 0x2C :: bytes)

theorem ItemsAfter.toElements {before bytes rest : Bytes} (hbefore : Blank before)
    (h : Value node bytes) (hrest : ItemsAfter items rest) :
    Elements (node :: items) (before ++ (bytes ++ rest)) := by
  cases hrest with
  | last hafter => exact .last (.mk hbefore h hafter)
  | more hafter hmore =>
    have hall := Elements.cons (.mk hbefore h hafter) hmore
    simpa only [List.append_assoc] using hall

theorem MembersAfter.toMembers {before name after between bytes rest : Bytes}
    (hbefore : Blank before) (hkey : Quoted key name) (hafter : Blank after)
    (hbetween : Blank between)
    (h : Value node bytes) (hrest : MembersAfter members rest) :
    Members ((key, node) :: members)
      (before ++ (name ++ (after ++ 0x3A :: (between ++ (bytes ++ rest))))) := by
  cases hrest with
  | last hend => exact .last (.mk hbefore hkey hafter (.mk hbetween h hend))
  | more hend hmore =>
    have hall := Members.cons (.mk hbefore hkey hafter (.mk hbetween h hend)) hmore
    simpa only [List.append_assoc, List.cons_append] using hall

/-- What the frames that are open still demand of the text after a value, for the whole to
be a tree. -/
def Closes (whole : Node) : List Frame → Node → Bytes → Prop
  | [], node, bytes => Blank bytes ∧ node = whole
  | .array read :: frames, node, bytes => ∃ items inner rest, ItemsAfter items inner ∧
      bytes = inner ++ 0x5D :: rest ∧
      Closes whole frames (.array ((node :: read).reverse ++ items)) rest
  | .object read key :: frames, node, bytes => ∃ members inner rest, MembersAfter members inner ∧
      bytes = inner ++ 0x7D :: rest ∧
      Closes whole frames (.object (((key, node) :: read).reverse ++ members)) rest

/-- A value, and what the frames demand after it. -/
def Begins (whole : Node) (frames : List Frame) (bytes : Bytes) : Prop :=
  ∃ before text rest node, Blank before ∧ Value node text ∧ bytes = before ++ (text ++ rest) ∧
    Closes whole frames node rest

/-- The texts that the machine accepts, for the whole to be a tree. -/
def Completes (whole : Node) : Expect → Bytes → Prop
  | .value frames, bytes => Begins whole frames bytes
  | .firstItem frames, bytes => ∃ inner rest node, Value node (0x5B :: (inner ++ [0x5D])) ∧
      bytes = inner ++ 0x5D :: rest ∧ Closes whole frames node rest
  | .firstKey frames, bytes => ∃ inner rest node, Value node (0x7B :: (inner ++ [0x7D])) ∧
      bytes = inner ++ 0x7D :: rest ∧ Closes whole frames node rest
  | .key frames read, bytes => ∃ members inner rest, Members members inner ∧
      bytes = inner ++ 0x7D :: rest ∧ Closes whole frames (.object (read.reverse ++ members)) rest
  | .colon frames read key, bytes => ∃ before rest, Blank before ∧ bytes = before ++ 0x3A :: rest ∧
      Begins whole (.object read key :: frames) rest
  | .after frames node, bytes => Closes whole frames node bytes

variable {whole : Node} {frames : List Frame} {before text rest : Bytes} {t : Token} {e : Expect}

/-- A token that begins a value. -/
theorem begins_of_begin? (h : begin? frames t = some e) (hbefore : Blank before)
    (ht : Spelled t text) (hrest : Completes whole e rest) :
    Begins whole frames (before ++ (text ++ rest)) := by
  cases ht with
  | rightBrace | rightBracket | comma | colon => cases h
  | leftBracket =>
    cases h
    obtain ⟨inner, rest, node, hnode, rfl, hcloses⟩ := hrest
    refine ⟨before, _, rest, node, hbefore, hnode, ?_, hcloses⟩
    simp only [List.cons_append, List.nil_append, List.append_assoc]
  | leftBrace =>
    cases h
    obtain ⟨inner, rest, node, hnode, rfl, hcloses⟩ := hrest
    refine ⟨before, _, rest, node, hbefore, hnode, ?_, hcloses⟩
    simp only [List.cons_append, List.nil_append, List.append_assoc]
  | null =>
    cases h
    exact ⟨before, _, rest, _, hbefore, .null, rfl, hrest⟩
  | true =>
    cases h
    exact ⟨before, _, rest, _, hbefore, .true, rfl, hrest⟩
  | false =>
    cases h
    exact ⟨before, _, rest, _, hbefore, .false, rfl, hrest⟩
  | number cs =>
    obtain ⟨literal, hliteral, rfl⟩ := Option.map_eq_some_iff.1 h
    have htext := isSome_ofText?_iff.1 (Option.isSome_of_eq_some hliteral)
    exact ⟨before, _, rest, _, hbefore, .number htext hliteral, rfl, hrest⟩
  | string hquoted =>
    cases h
    exact ⟨before, _, rest, _, hbefore, .string hquoted, rfl, hrest⟩

/-- The members of an object after a key and its colon. -/
theorem members_of_colon {read : List (List Piece × Node)} (hbefore : Blank before)
    (hkey : Quoted key text) (hrest : Completes whole (.colon frames read key) rest) :
    Completes whole (.key frames read) (before ++ (text ++ rest)) := by
  obtain ⟨after, rest, hafter, rfl, between, value, rest, node, hbetween, hvalue, rfl, members,
    inner, rest, hmembers, rfl, hcloses⟩ := hrest
  refine ⟨(key, node) :: members, _, rest,
    hmembers.toMembers hbefore hkey hafter hbetween hvalue, ?_, ?_⟩
  · simp only [List.append_assoc, List.cons_append]
  · simpa only [List.reverse_cons, List.append_assoc, List.singleton_append] using hcloses

/-- An array ends with its opening bracket behind it, or its first item begins, whose frame says
how the array goes on. -/
theorem completes_of_firstItem {e' : Expect} (h : step? (.firstItem frames) t = some e')
    (hbefore : Blank before) (ht : Spelled t text) (hrest : Completes whole e' rest) :
    Completes whole (.firstItem frames) (before ++ (text ++ rest)) := by
  simp only [step?] at h
  split_ifs at h with hend
  · cases h
    subst hend
    cases ht
    exact ⟨before, rest, .array [], .emptyArray hbefore, rfl, hrest⟩
  · obtain ⟨before', text', rest', node, hbefore', hnode, heq, items, inner, rest'', hitems, rfl,
      hcloses⟩ := begins_of_begin? h hbefore ht hrest
    refine ⟨_, rest'', .array (node :: items), .array (hitems.toElements hbefore' hnode), ?_,
      hcloses⟩
    rw [heq]
    simp only [List.append_assoc]

/-- Behind an item an array goes on with a comma, or ends. -/
theorem closes_of_item {read : List Node} {node : Node} {e' : Expect}
    (h : step? (.after (.array read :: frames) node) t = some e') (hbefore : Blank before)
    (ht : Spelled t text) (hrest : Completes whole e' rest) :
    Closes whole (.array read :: frames) node (before ++ (text ++ rest)) := by
  cases ht with
  | comma =>
    cases h
    obtain ⟨before', value, rest, node', hbefore', hvalue, rfl, items, inner, rest, hitems, rfl,
      hcloses⟩ := hrest
    refine ⟨node' :: items, _, rest, .more hbefore (hitems.toElements hbefore' hvalue), ?_, ?_⟩
    · simp only [List.append_assoc, List.cons_append, List.nil_append]
    · simpa only [List.reverse_cons, List.append_assoc, List.cons_append, List.nil_append]
        using hcloses
  | rightBracket =>
    cases h
    refine ⟨[], before, rest, .last hbefore, rfl, ?_⟩
    rwa [List.append_nil]
  | _ => cases h

/-- Behind a member an object goes on with a comma, or ends. -/
theorem closes_of_member {read : List (List Piece × Node)} {key : List Piece} {node : Node}
    {e' : Expect} (h : step? (.after (.object read key :: frames) node) t = some e')
    (hbefore : Blank before) (ht : Spelled t text) (hrest : Completes whole e' rest) :
    Closes whole (.object read key :: frames) node (before ++ (text ++ rest)) := by
  cases ht with
  | comma =>
    cases h
    obtain ⟨members, inner, rest, hmembers, rfl, hcloses⟩ := hrest
    refine ⟨members, _, rest, .more hbefore hmembers, ?_, hcloses⟩
    simp only [List.append_assoc, List.cons_append, List.nil_append]
  | rightBrace =>
    cases h
    refine ⟨[], before, rest, .last hbefore, rfl, ?_⟩
    rwa [List.append_nil]
  | _ => cases h

/-- A text is accepted if the machine takes its first token and accepts the rest after that. -/
theorem completes_of_step? {e' : Expect} (h : step? e t = some e') (hbefore : Blank before)
    (ht : Spelled t text) (hrest : Completes whole e' rest) :
    Completes whole e (before ++ (text ++ rest)) := by
  cases e with
  | value frames => exact begins_of_begin? h hbefore ht hrest
  | firstItem frames => exact completes_of_firstItem h hbefore ht hrest
  | firstKey frames =>
    cases ht with
    | rightBrace =>
      cases h
      exact ⟨before, rest, .object [], .emptyObject hbefore, rfl, hrest⟩
    | string hquoted =>
      cases h
      obtain ⟨members, inner, rest', hmembers, heq, hcloses⟩ :=
        members_of_colon hbefore hquoted hrest
      exact ⟨inner, rest', .object members, .object hmembers, heq, hcloses⟩
    | _ => cases h
  | key frames read =>
    cases ht with
    | string hquoted =>
      cases h
      exact members_of_colon hbefore hquoted hrest
    | _ => cases h
  | colon frames read key =>
    cases ht with
    | colon =>
      cases h
      exact ⟨before, rest, hbefore, rfl, hrest⟩
    | _ => cases h
  | after frames node =>
    match frames with
    | [] => cases h
    | .array read :: frames => exact closes_of_item h hbefore ht hrest
    | .object read key :: frames => exact closes_of_member h hbefore ht hrest

/-- The texts of tokens that make a tree. -/
theorem completes_of_fold {bytes : Bytes} (hlexed : Lexed ts bytes)
    (h : fold e ts = some (.after [] whole)) : Completes whole e bytes := by
  induction hlexed generalizing e with
  | nil hblank =>
    cases h
    exact ⟨hblank, rfl⟩
  | cons hbefore ht _ ih =>
    rw [fold_cons, Option.bind_eq_some_iff] at h
    obtain ⟨e', hstep, hfold⟩ := h
    exact completes_of_step? hstep hbefore ht (ih hfold)

/-- The bytes that are read as a tree are its texts. -/
theorem ofBytes?_eq_some_iff {bytes : Bytes} : ofBytes? bytes = some node ↔ Element node bytes := by
  constructor
  · intro h
    unfold ofBytes? at h
    split at h
    · rename_i ts hscan
      split at h
      · rename_i read hfold
        cases h
        obtain ⟨before, text, rest, node, hbefore, hnode, rfl, hrest, rfl⟩ :=
          completes_of_fold (Token.lexed_of_scan? hscan) hfold
        exact .mk hbefore hnode hrest
      · cases h
    · cases h
  · intro h
    obtain ⟨ts, hcuts, hmakes⟩ := element_tokens h
    have hfold : ts.foldlM step? (.value []) = some (.after [] node) := hmakes []
    simp only [ofBytes?, hcuts.scan?, hfold]

end Collector.Json.Node
