import Catalogue.Proofs.Index.Parameters

/-! The placeholders in a statement's text. A placeholder is a colon with letters, digits or
underscores after it, and wherever a statement has one, what follows cannot be read as more of its
name (`Spells.before`). So the condition of a filter has the placeholders that the filter binds and
no others (`spells_condition?`), and a statement has those of its conditions and of its limit
(`spells_sql`). Each is bound once, to the value of the filter, of the member of a set, or of the
limit that it is named after (`bound_ofPlan`). -/
namespace Catalogue

open Number

namespace Index

/-! ### Placeholders -/

/-- What a name consists of after its colon. -/
def nameChar (c : Char) : Bool := c.isAlphanum || c == '_'

/-- The placeholders in a text. A name has no colon in it, so one may look for the next from anywhere inside. -/
def placeholdersIn : List Char → List String
  | [] => []
  | c :: rest =>
    let name := rest.takeWhile nameChar
    if c = ':' ∧ name ≠ [] then String.ofList (':' :: name) :: placeholdersIn rest else placeholdersIn rest

def placeholders (text : String) : List String := placeholdersIn text.toList

/-- A text without colons. -/
def Colonless (text : String) : Prop := ':' ∉ text.toList

instance : DecidablePred Colonless := fun text => inferInstanceAs (Decidable (':' ∉ text.toList))

/-- A text that cannot be read as more of a name that stands before it. -/
def Starts (text : String) : Prop := ∃ c ∈ text.toList.head?, nameChar c = false

instance : DecidablePred Starts := fun text =>
  decidable_of_iff (text.toList.head?.any fun c => !nameChar c) (by simp [Starts, Option.any_eq_true])

/-- A name that can be bound. -/
def IsName (name : String) : Prop := ∃ cs, cs ≠ [] ∧ name.toList = ':' :: cs ∧ ∀ c ∈ cs, nameChar c = true

/-- A text has the placeholders of these names, whatever follows it. -/
def Closes (names : List String) (text : String) : Prop :=
  ∀ (rest : List Char) n, n ∈ placeholdersIn (text.toList ++ rest) ↔ n ∈ names ∨ n ∈ placeholdersIn rest

/-- A text has the placeholders of these names, unless what follows goes on with the last of them. -/
def Spells (names : List String) (text : String) : Prop :=
  ∀ rest : List Char, rest.takeWhile nameChar = [] → ∀ n,
    n ∈ placeholdersIn (text.toList ++ rest) ↔ n ∈ names ∨ n ∈ placeholdersIn rest

theorem placeholdersIn_append {s : List Char} (h : ':' ∉ s) (rest : List Char) :
    placeholdersIn (s ++ rest) = placeholdersIn rest := by
  induction s with
  | nil => rfl
  | cons c s ih =>
    rw [List.mem_cons, not_or] at h
    rw [List.cons_append, placeholdersIn, if_neg (fun hc => h.1 hc.1.symm), ih h.2]

theorem Starts.takeWhile {t : String} (h : Starts t) (rest : List Char) :
    (t.toList ++ rest).takeWhile nameChar = [] := by
  obtain ⟨c, hc, hname⟩ := h
  obtain ⟨cs, hcs⟩ := List.head?_eq_some_iff.mp hc
  rw [hcs, List.cons_append, List.takeWhile_cons, hname]
  rfl

/-- A text without a character. -/
def Lacks (c : Char) (text : String) : Prop := c ∉ text.toList

instance (c : Char) : DecidablePred (Lacks c) := fun text => inferInstanceAs (Decidable (c ∉ text.toList))

namespace Lacks

variable {c : Char}

theorem append {s t : String} (hs : Lacks c s) (ht : Lacks c t) : Lacks c (s ++ t) := by
  unfold Lacks
  rw [String.toList_append, List.mem_append, not_or]
  exact ⟨hs, ht⟩

theorem intercalate {sep : String} (hsep : Lacks c sep) {parts : List String} (h : ∀ s ∈ parts, Lacks c s) :
    Lacks c (sep.intercalate parts) := by
  induction parts with
  | nil => exact List.not_mem_nil
  | cons s parts ih =>
    obtain ⟨hs, hparts⟩ := List.forall_mem_cons.mp h
    cases parts with
    | nil => simpa using hs
    | cons t parts =>
      rw [String.intercalate_cons_cons]
      exact (hs.append hsep).append (ih hparts)

theorem join {parts : List String} (h : ∀ s ∈ parts, Lacks c s) : Lacks c (String.join parts) := by
  induction parts with
  | nil => exact List.not_mem_nil
  | cons s parts ih =>
    obtain ⟨hs, hparts⟩ := List.forall_mem_cons.mp h
    rw [String.join_cons]
    exact hs.append (ih hparts)

end Lacks

/-- Characters that the names of tables and columns do without. A statement's text has them where it has a placeholder
or joins a table, and nowhere else. -/
def rare : List Char := [':', 'J']

theorem colon_rare : ':' ∈ rare := by decide

/-- A text without rare characters. -/
def Common (text : String) : Prop := ∀ c ∈ rare, Lacks c text

-- Over the list: decided for all characters there are it would take each of them in turn.
instance : DecidablePred Common := fun text => List.decidableBAll (Lacks · text) rare

namespace Colonless

theorem append {s t : String} (hs : Colonless s) (ht : Colonless t) : Colonless (s ++ t) := Lacks.append hs ht

theorem intercalate {sep : String} (hsep : Colonless sep) {parts : List String} (h : ∀ s ∈ parts, Colonless s) :
    Colonless (sep.intercalate parts) := Lacks.intercalate hsep h

theorem join {parts : List String} (h : ∀ s ∈ parts, Colonless s) : Colonless (String.join parts) := Lacks.join h

theorem closes {t : String} (h : Colonless t) : Closes [] t := by
  intro rest n
  rw [placeholdersIn_append h]
  simp

theorem spells {t : String} (h : Colonless t) : Spells [] t := fun rest _ => h.closes rest

end Colonless

theorem spells_name {name : String} (h : IsName name) : Spells [name] name := by
  obtain ⟨cs, hsome, hname, hcs⟩ := h
  intro rest hrest n
  have hwhole : (cs ++ rest).takeWhile nameChar = cs := by
    rw [List.takeWhile_append_of_pos hcs, hrest, List.append_nil]
  have hcolon : ':' ∉ cs := fun h => absurd (hcs _ h) (by decide)
  rw [hname, List.cons_append, placeholdersIn, hwhole, if_pos ⟨rfl, hsome⟩, placeholdersIn_append hcolon, ← hname,
    String.ofList_toList, List.mem_cons, List.mem_singleton]

section Texts

variable {names more : List String} {s t : String}

theorem Closes.append (hs : Closes names s) (ht : Spells more t) : Spells (names ++ more) (s ++ t) := by
  intro rest hrest n
  rw [String.toList_append, List.append_assoc, hs, ht rest hrest, List.mem_append, or_assoc]

theorem Closes.followed (hs : Closes names s) (ht : Colonless t) : Closes names (s ++ t) := by
  intro rest n
  rw [String.toList_append, List.append_assoc, hs, placeholdersIn_append ht]

theorem Closes.spells (h : Closes names s) : Spells names s := fun rest _ => h rest

namespace Spells

/-- A text without colons may stand before any other. -/
theorem after (ht : Colonless t) (hs : Spells names s) : Spells names (t ++ s) := ht.closes.append hs

/-- A text that cannot be read as more of a name ends it. -/
theorem before (hs : Spells names s) (ht : Colonless t) (hstart : Starts t) : Closes names (s ++ t) := by
  intro rest n
  rw [String.toList_append, List.append_assoc, hs _ (hstart.takeWhile rest), placeholdersIn_append ht]

theorem congr (hs : Spells names s) (h : ∀ n, n ∈ names ↔ n ∈ more) : Spells more s := by
  intro rest hrest n
  rw [hs rest hrest, h]

/-- Texts with a separator between them have the placeholders of all of them. -/
theorem intercalate {α : Type} {sep : String} (hsep : Colonless sep) (hstart : Starts sep) {xs : List α}
    {namesOf : α → List String} {text : α → String} (h : ∀ x ∈ xs, Spells (namesOf x) (text x)) :
    Spells (xs.flatMap namesOf) (sep.intercalate (xs.map text)) := by
  induction xs with
  | nil => exact Colonless.spells (by decide : Colonless "")
  | cons x xs ih =>
    obtain ⟨hx, hxs⟩ := List.forall_mem_cons.mp h
    cases xs with
    | nil => simpa using hx
    | cons y ys =>
      rw [List.map_cons, List.map_cons, String.intercalate_cons_cons]
      exact (hx.before hsep hstart).append (ih hxs)

theorem mem_placeholders (h : Spells names s) (n : String) : n ∈ placeholders s ↔ n ∈ names := by
  have hrest := h [] rfl n
  rw [List.append_nil] at hrest
  exact hrest.trans (or_iff_left (List.not_mem_nil))

end Spells
end Texts

/-! ### Names -/

theorem nameChar_decimalDigits {i : Nat} {c : Char} (h : c ∈ decimalDigits i) : nameChar c = true := by
  simp [nameChar, Char.isAlphanum, isDigit_decimalDigits i c h]

theorem isName_parameterName (i : Nat) : IsName (parameterName i) := by
  refine ⟨_, List.cons_ne_nil _ _, toList_parameterName i, fun c hc => ?_⟩
  rcases List.mem_cons.mp hc with rfl | hc
  · decide
  · exact nameChar_decimalDigits hc

theorem isName_memberName (i j : Nat) : IsName (memberName i j) := by
  refine ⟨_, List.cons_ne_nil _ _, toList_memberName i j, fun c hc => ?_⟩
  simp only [List.mem_cons, List.mem_append] at hc
  rcases hc with rfl | hc | rfl | hc
  · decide
  · exact nameChar_decimalDigits hc
  · decide
  · exact nameChar_decimalDigits hc

theorem isName_limitName : IsName limitName :=
  ⟨"limit".toList, by decide, rfl, List.all_eq_true.mp (by decide : "limit".toList.all nameChar = true)⟩

/-! ### Conditions -/

section Names
variable {c : Char} (hc : c ∈ rare)
include hc

theorem lacks_literal {text : String} (h : Common text) : Lacks c text := h c hc

theorem lacks_name (t : Table) : Lacks c t.name := by cases t <;> exact lacks_literal hc (by decide)

theorem lacks_fullTextName (t : Table) : Lacks c t.fullTextName :=
  (lacks_name hc t).append (lacks_literal hc (by decide))

theorem lacks_columnTexts {field : Field} {t : Target} (h : field.target? = some t) :
    ∀ column ∈ t.columnTexts, Lacks c column.sql := by
  have hall : ∀ column ∈ t.columnTexts, Common column.sql := by cases field <;> cases h <;> decide
  exact fun column hcolumn => hall column hcolumn c hc

end Names

/-- A field that is compared as texts has a column. -/
theorem columnTexts_ne_nil {field : Field} {t : Target} (h : field.target? = some t) : t.columnTexts ≠ [] := by
  cases field <;> cases h <;> decide

/-- A template for columns has the placeholders that it has for each. -/
theorem spells_anyColumn {columns : List ColumnText} (hsome : columns ≠ []) {template : String → String}
    {names : List String} (h : ∀ c ∈ columns, Spells names (template c.sql)) :
    Spells names (anyColumn columns template) := by
  unfold anyColumn
  split
  · exact h _ (List.mem_singleton_self _)
  · have hall : Spells (columns.flatMap fun _ => names) (" OR ".intercalate (columns.map fun c => template c.sql)) :=
      .intercalate (by decide) (by decide) h
    have hnames : Spells names (" OR ".intercalate (columns.map fun c => template c.sql)) := by
      refine hall.congr fun n => ?_
      rw [List.mem_flatMap]
      exact ⟨fun ⟨_, _, hn⟩ => hn, fun hn => ⟨_, List.head_mem hsome, hn⟩⟩
    exact Closes.spells ((hnames.after (by decide)).before (by decide) (by decide))

section Tests

variable {columns : List ColumnText} (hsome : columns ≠ []) (hcolons : ∀ c ∈ columns, Colonless c.sql)

theorem spells_overlaps (t : Table) {first last : String} (hfirst : IsName first) (hlast : IsName last) :
    Spells [first, last] ((Test.overlaps first last).sql t) := by
  have hbegin : Spells [first] (t.name ++ ".date_end >= " ++ first) :=
    (spells_name hfirst).after ((lacks_name colon_rare t).append (by decide))
  have hboth := hbegin.before (by decide : Colonless " AND ") (by decide)
  exact ((hboth.followed (lacks_name colon_rare t)).followed (by decide)).append (spells_name hlast)

include hsome hcolons

theorem spells_equals (t : Table) {names : List String} (hnames : ∀ n ∈ names, IsName n) :
    Spells names ((Test.equals columns names).sql t) := by
  have heach (n : String) (hn : n ∈ names) : Spells [n] (anyColumn columns fun c => c ++ " = " ++ n) :=
    spells_anyColumn hsome fun c hc => (spells_name (hnames n hn)).after ((hcolons c hc).append (by decide))
  have hall : Spells (names.flatMap fun n => [n]) ((Test.equals columns names).sql t) :=
    .intercalate (by decide) (by decide) heach
  rwa [List.flatMap_singleton'] at hall

theorem spells_like (t : Table) {pattern : String} (h : IsName pattern) :
    Spells [pattern] ((Test.like columns pattern).sql t) :=
  spells_anyColumn hsome fun c hc =>
    (((spells_name h).after ((hcolons c hc).append (by decide))).before (by decide) (by decide)).spells

omit hsome hcolons

theorem spells_found (t : Table) {search : String} (h : IsName search) :
    Spells [search] ((Test.found search).sql t) := by
  have hindex : Colonless (t.name ++ ".id IN (SELECT rowid FROM " ++ t.fullTextName ++ " WHERE ") :=
    (((lacks_name colon_rare t).append (by decide)).append (lacks_fullTextName colon_rare t)).append (by decide)
  have hmatch := (hindex.append (lacks_fullTextName colon_rare t)).append (by decide : Colonless " MATCH ")
  exact (((spells_name h).after hmatch).before (by decide) (by decide)).spells

end Tests

/-- The placeholders of a filter's condition are the parameters that it binds. -/
theorem spells_condition? {i : Nat} {f : Filter} {b : BoundCondition} (h : condition? i f = some b) :
    Spells b.names b.condition.sql := by
  have htest : Spells b.names (b.condition.test.sql b.condition.table) := by
    cases condition?_eq_some.mp h with
    | years => exact spells_overlaps _ (isName_memberName i 0) (isName_memberName i 1)
    | year =>
      have hboth := spells_overlaps .imprints (isName_parameterName i) (isName_parameterName i)
      exact hboth.congr (by simp [BoundCondition.names])
    | equals htarget =>
      have hsome := columnTexts_ne_nil htarget
      have hcolons := lacks_columnTexts colon_rare htarget
      exact spells_equals hsome hcolons _ (List.forall_mem_singleton.mpr (isName_parameterName i))
    | found => exact spells_found _ (isName_parameterName i)
    | like htarget =>
      have hsome := columnTexts_ne_nil htarget
      have hcolons := lacks_columnTexts colon_rare htarget
      exact spells_like hsome hcolons _ (isName_parameterName i)
    | oneOf htarget =>
      have hsome := columnTexts_ne_nil htarget
      have hcolons := lacks_columnTexts colon_rare htarget
      refine spells_equals hsome hcolons _ fun n hn => ?_
      rw [BoundCondition.names, names_members] at hn
      obtain ⟨j, -, rfl⟩ := List.mem_map.mp hn
      exact isName_memberName i j
  have hopen : Colonless (if b.condition.negate then "NOT (" else "(") := by split <;> decide
  exact ((htest.after hopen).before (by decide) (by decide)).spells

/-! ### Statements -/

namespace Statement

section Columns
variable {c : Char} (hc : c ∈ rare)
include hc

theorem lacks_evidenceColumns (t : Table) : ∀ column ∈ t.evidenceColumns, Lacks c column := by
  have hall : ∀ column ∈ t.evidenceColumns, Common column := by cases t <;> decide +kernel
  exact fun column hcolumn => hall column hcolumn c hc

theorem lacks_resultName (t : Table) {column : String} (hcolumn : column ∈ t.evidenceColumns) :
    Lacks c (t.resultName column) :=
  ((lacks_name hc t).append (lacks_literal hc (by decide))).append (lacks_evidenceColumns hc t column hcolumn)

theorem lacks_rankOrder (tables : List Table) : Lacks c (rankOrder tables) := by
  unfold rankOrder
  split
  · exact lacks_literal hc (by decide)
  · refine .intercalate (lacks_literal hc (by decide)) fun text htext => ?_
    obtain ⟨t, -, rfl⟩ := List.mem_map.mp htext
    exact (lacks_name hc t).append (lacks_literal hc (by decide))

theorem lacks_innerColumns (tables : List Table) : ∀ column ∈ innerColumns tables, Lacks c column := by
  have hrank : Lacks c
      ("ROW_NUMBER() OVER (PARTITION BY records.id ORDER BY " ++ rankOrder tables ++ ") AS match_rank") :=
    (Lacks.append (lacks_literal hc (by decide)) (lacks_rankOrder hc tables)).append (lacks_literal hc (by decide))
  refine List.forall_mem_append.mpr ⟨List.forall_mem_append.mpr
    ⟨List.forall_mem_singleton.mpr (lacks_literal hc (by decide)), fun column hcolumn => ?_⟩,
    List.forall_mem_singleton.mpr hrank⟩
  obtain ⟨t, -, hcolumn⟩ := List.mem_flatMap.mp hcolumn
  obtain ⟨name, hname, rfl⟩ := List.mem_map.mp hcolumn
  have hqualified : Lacks c (t.name ++ "." ++ name) :=
    ((lacks_name hc t).append (lacks_literal hc (by decide))).append (lacks_evidenceColumns hc t name hname)
  exact (hqualified.append (lacks_literal hc (by decide))).append (lacks_resultName hc t hname)

theorem lacks_resultColumns (s : Statement) : ∀ column ∈ s.resultColumns, Lacks c column := by
  refine List.forall_mem_cons.mpr ⟨lacks_literal hc (by decide), fun column hcolumn => ?_⟩
  obtain ⟨t, -, hcolumn⟩ := List.mem_flatMap.mp hcolumn
  obtain ⟨name, hname, rfl⟩ := List.mem_map.mp hcolumn
  exact lacks_resultName hc t hname

end Columns

theorem colonless_joinText (t : Table) : Colonless (joinText t) := by
  have hjoined : Colonless ("    JOIN " ++ t.name) := Colonless.append (by decide) (lacks_name colon_rare t)
  exact ((hjoined.append (by decide)).append (lacks_name colon_rare t)).append (by decide)

theorem colonless_joins (tables : List Table) : Colonless (String.join (tables.map joinText)) := by
  refine .join fun text htext => ?_
  obtain ⟨t, -, rfl⟩ := List.mem_map.mp htext
  exact colonless_joinText t

end Statement

namespace StatementOf

variable {p : Plan} {s : Statement} {bs : List BoundCondition}

theorem spells_whereText (h : StatementOf p s bs) :
    Spells (bs.flatMap BoundCondition.names) (Statement.whereText s.conditions) := by
  have heach (b : BoundCondition) (hb : b ∈ bs) : Spells b.names b.condition.sql := by
    obtain ⟨i, f, -, hc⟩ := h.filter_of_mem hb
    exact spells_condition? hc
  rw [h.conditions, Statement.whereText]
  split
  · rename_i hempty
    rw [List.isEmpty_iff, List.map_eq_nil_iff] at hempty
    rw [hempty]
    exact Colonless.spells (by decide)
  · have hall : Spells (bs.flatMap BoundCondition.names)
        ("\n      AND ".intercalate ((bs.map (·.condition)).map Condition.sql)) := by
      rw [List.map_map]
      exact .intercalate (by decide) (by decide) heach
    exact ((hall.after (by decide)).before (by decide) (by decide)).spells

theorem spells_limit (h : StatementOf p s bs) :
    Spells ((limitParameters p).map (·.1)) (if s.limited then "\nLIMIT " ++ limitName else "") := by
  rw [names_limit, h.limited]
  split
  · exact (spells_name isName_limitName).after (by decide)
  · exact Colonless.spells (by decide)

/-- The placeholders of a statement are those of its conditions and of its limit. -/
theorem spells_sql (h : StatementOf p s bs) :
    Spells (bs.flatMap BoundCondition.names ++ (limitParameters p).map (·.1)) s.sql := by
  have hinner : Colonless (",\n           ".intercalate (Statement.innerColumns s.tables)) :=
    .intercalate (by decide) (Statement.lacks_innerColumns colon_rare _)
  have hresult : Colonless (", ".intercalate s.resultColumns) :=
    .intercalate (by decide) (Statement.lacks_resultColumns colon_rare s)
  have hhead : Colonless ("WITH matched AS (\n" ++ "    SELECT " ++
      ",\n           ".intercalate (Statement.innerColumns s.tables) ++ "\n" ++ "    FROM records\n" ++
      String.join (s.tables.map Statement.joinText)) :=
    ((((Colonless.append (by decide) (by decide)).append hinner).append (by decide)).append (by decide)).append
      (Statement.colonless_joins _)
  have hconditions := (h.spells_whereText.after hhead).before (by decide : Colonless ")\n") (by decide)
  have hselected := (hconditions.followed (by decide : Colonless "SELECT ")).followed hresult
  exact ((hselected.followed (by decide : Colonless "\n")).followed (by decide)).append h.spells_limit

end StatementOf
end Index

/-! ### Values -/

open Index in
/-- What a filter at a position binds to a name. -/
inductive Filter.Binds (i : Nat) (f : Filter) : String → Parameter → Prop where
  | first {first last : Int} (hfield : f.field = .year) (hop : f.op = .range) (hvalue : f.value = .range first last) :
    Binds i f (memberName i 0) (.int first)
  | last {first last : Int} (hfield : f.field = .year) (hop : f.op = .range) (hvalue : f.value = .range first last) :
    Binds i f (memberName i 1) (.int last)
  | year {s : String} {n : Int} (hfield : f.field = .year) (hop : f.op = .equals) (hvalue : f.value = .text s)
      (hyear : parseInt64? (Text.trim s) = some n) : Binds i f (parameterName i) (.int n)
  | text {t : Target} {s : String} (htarget : f.field.target? = some t) (hop : f.op = .equals)
      (hvalue : f.value = .text s) : Binds i f (parameterName i) (.text (t.normalization.apply s))
  /-- Words that are looked up in the full-text index, each in quotation marks. -/
  | words {t : Target} {s : String} (htarget : f.field.target? = some t) (hop : f.op = .contains)
      (hvalue : f.value = .text s) (hindexed : t.table.hasFullText = true) :
    Binds i f (parameterName i) (.text (FullText.quoteWords (t.normalization.apply s)))
  /-- A text that is looked for inside of others, as a pattern. -/
  | pattern {t : Target} {s : String} (htarget : f.field.target? = some t) (hop : f.op = .contains)
      (hvalue : f.value = .text s) (hindexed : t.table.hasFullText = false) :
    Binds i f (parameterName i) (.text (Like.containing (t.normalization.apply s)))
  | member {t : Target} {values : List String} {j : Nat} {s : String} (htarget : f.field.target? = some t)
      (hop : f.op = .oneOf) (hvalue : f.value = .set values) (hmember : values[j]? = some s) :
    Binds i f (memberName i j) (.text (t.normalization.apply s))

/-- The number of values that a filter compares with. -/
def Filter.width (f : Filter) : Nat :=
  match f.value with
  | .text _ => 1
  | .range _ _ => 2
  | .set values => values.length

open Index in
/-- What a plan binds to a name: what the filter at some position does, or its limit, as far as that fits into 64
bits. -/
inductive Plan.Binds (p : Plan) : String → Parameter → Prop where
  | filter {i : Nat} {f : Filter} {n : String} {v : Parameter} (hf : p.filters[i]? = some f) (h : f.Binds i n v) :
    Binds p n v
  | limit {k : Nat} (hk : Plan.positive p.limit = some k) : Binds p limitName (.int (min k (2 ^ 63 - 1) : Nat))

namespace Index

theorem mem_memberParameters {i : Nat} {t : Target} {values : List String} {n : String} {v : Parameter} :
    (n, v) ∈ memberParameters i t values ↔
      ∃ j s, values[j]? = some s ∧ memberName i j = n ∧ Parameter.text (t.normalization.apply s) = v := by
  simp only [memberParameters, List.mem_map, Prod.exists, List.mem_zipIdx_iff_getElem?, Prod.mk.injEq]
  exact exists_comm

/-- The parameters of a filter's condition are what the filter binds. -/
theorem mem_parameters {i : Nat} {f : Filter} {b : BoundCondition} (h : condition? i f = some b) {n : String}
    {v : Parameter} : (n, v) ∈ b.parameters ↔ f.Binds i n v := by
  constructor
  · intro hmem
    cases condition?_eq_some.mp h with
    | years hfield hop hvalue =>
      rcases List.mem_pair.mp hmem with hfirst | hlast
      · cases hfirst
        exact .first hfield hop hvalue
      · cases hlast
        exact .last hfield hop hvalue
    | year hfield hop hvalue hyear =>
      cases List.mem_singleton.mp hmem
      exact .year hfield hop hvalue hyear
    | equals htarget hop hvalue =>
      cases List.mem_singleton.mp hmem
      exact .text htarget hop hvalue
    | found htarget hop hvalue hindexed =>
      cases List.mem_singleton.mp hmem
      exact .words htarget hop hvalue hindexed
    | like htarget hop hvalue hindexed =>
      cases List.mem_singleton.mp hmem
      exact .pattern htarget hop hvalue hindexed
    | oneOf htarget hop hvalue =>
      obtain ⟨j, s, hs, rfl, rfl⟩ := mem_memberParameters.mp hmem
      exact .member htarget hop hvalue hs
  · intro hbinds
    -- Whatever the filter binds, it has the condition that binds it, and has only one.
    have honly {c : BoundCondition} (hc : Expressed i f c) (hmem : (n, v) ∈ c.parameters) : (n, v) ∈ b.parameters := by
      obtain rfl : c = b := Option.some.inj ((condition?_eq_some.mpr hc).symm.trans h)
      exact hmem
    cases hbinds with
    | first hfield hop hvalue => exact honly (.years hfield hop hvalue) (List.mem_cons_self ..)
    | last hfield hop hvalue =>
      exact honly (.years hfield hop hvalue) (List.mem_cons_of_mem _ (List.mem_singleton_self _))
    | year hfield hop hvalue hyear => exact honly (.year hfield hop hvalue hyear) (List.mem_singleton_self _)
    | text htarget hop hvalue => exact honly (.equals htarget hop hvalue) (List.mem_singleton_self _)
    | words htarget hop hvalue hindexed =>
      exact honly (.found htarget hop hvalue hindexed) (List.mem_singleton_self _)
    | pattern htarget hop hvalue hindexed =>
      exact honly (.like htarget hop hvalue hindexed) (List.mem_singleton_self _)
    | member htarget hop hvalue hmember =>
      exact honly (.oneOf htarget hop hvalue) (mem_memberParameters.mpr ⟨_, _, hmember, rfl, rfl⟩)

theorem mem_names {i : Nat} {f : Filter} {b : BoundCondition} (h : condition? i f = some b) {n : String} :
    n ∈ b.names ↔ ∃ v, f.Binds i n v := by
  simp only [← mem_parameters h]
  constructor
  · intro hn
    obtain ⟨e, he, rfl⟩ := List.mem_map.mp hn
    exact ⟨e.2, he⟩
  · rintro ⟨v, hv⟩
    exact List.mem_map_of_mem hv

theorem length_parameters {i : Nat} {f : Filter} {b : BoundCondition} (h : condition? i f = some b) :
    b.parameters.length = f.width := by
  cases condition?_eq_some.mp h with
  | years _ _ hvalue | year _ _ hvalue | equals _ _ hvalue | found _ _ hvalue | like _ _ hvalue =>
    simp [Filter.width, hvalue]
  | oneOf _ _ hvalue => simp [Filter.width, hvalue, memberParameters]

theorem length_from {i : Nat} {fs : List Filter} {bs : List BoundCondition}
    (h : List.Forall₂ (fun f b => condition? f.2 f.1 = some b) (fs.zipIdx i) bs) :
    (bs.flatMap (·.parameters)).length = (fs.map Filter.width).sum := by
  induction fs generalizing i bs with
  | nil =>
    cases h
    rfl
  | cons f rest ih =>
    rw [List.zipIdx_cons] at h
    cases h with
    | cons hb hrest =>
      rw [List.flatMap_cons, List.length_append, length_parameters hb, ih hrest, List.map_cons, List.sum_cons]

namespace StatementOf

variable {p : Plan} {s : Statement} {bs : List BoundCondition}

theorem condition_at (h : StatementOf p s bs) {i : Nat} {f : Filter} (hf : p.filters[i]? = some f) :
    ∃ b, bs[i]? = some b ∧ condition? i f = some b := by
  obtain ⟨hlength, hat⟩ := List.forall₂_iff_get.mp h.filters
  obtain ⟨hi, rfl⟩ := List.getElem?_eq_some_iff.mp hf
  have hz : i < p.filters.zipIdx.length := by rwa [List.length_zipIdx]
  have hb := hat i hz (hlength ▸ hz)
  refine ⟨_, List.getElem?_eq_getElem (hlength ▸ hz), ?_⟩
  simpa using hb

theorem mem_iff (h : StatementOf p s bs) {n : String} {v : Parameter} :
    (n, v) ∈ bs.flatMap (·.parameters) ++ limitParameters p ↔ p.Binds n v := by
  rw [List.mem_append]
  constructor
  · rintro (hmem | hmem)
    · obtain ⟨b, hb, hmem⟩ := List.mem_flatMap.mp hmem
      obtain ⟨⟨f, i⟩, hf, hc⟩ := exists_of_mem_left h.filters.flip hb
      exact .filter (List.mem_zipIdx_iff_getElem?.mp hf) ((mem_parameters hc).mp hmem)
    · obtain ⟨k, hk, he⟩ := List.mem_map.mp hmem
      cases he
      exact .limit (Option.mem_toList.mp hk)
  · intro hbinds
    cases hbinds with
    | filter hf hbinds =>
      obtain ⟨b, hb, hc⟩ := h.condition_at hf
      exact .inl (List.mem_flatMap.mpr ⟨b, List.mem_of_getElem? hb, (mem_parameters hc).mpr hbinds⟩)
    | limit hk => exact .inr (List.mem_map.mpr ⟨_, Option.mem_toList.mpr hk, rfl⟩)

theorem length_parameters (h : StatementOf p s bs) : (bs.flatMap (·.parameters) ++ limitParameters p).length =
    (p.filters.map Filter.width).sum + if (Plan.positive p.limit).isSome then 1 else 0 := by
  rw [List.length_append, length_from h.filters]
  cases hlimit : Plan.positive p.limit <;> simp [limitParameters, hlimit]

end StatementOf

/-! ### Bindings -/

/-- What the parameters of a plan's statement are. -/
structure Bound (p : Plan) (s : Statement) : Prop where
  /-- The placeholders of the statement's text are the names that are bound. -/
  names : ∀ n, n ∈ placeholders s.sql ↔ n ∈ s.parameters.map (·.1)
  /-- No value takes the place of another. -/
  nodup : (s.parameters.map (·.1)).Nodup
  count : s.parameters.length = (p.filters.map Filter.width).sum + if (Plan.positive p.limit).isSome then 1 else 0
  value : ∀ n v, Entries.get? n s.parameters = some v ↔ p.Binds n v
  /-- The placeholders of a condition are what the filter at its position binds. -/
  own : ∀ (i : Nat) (f : Filter), p.filters[i]? = some f → ∃ c : Condition, s.conditions[i]? = some c ∧
    ∀ n, n ∈ placeholders c.sql ↔ ∃ v, f.Binds i n v

/-- Whatever a plan asks for, its statement's placeholders and parameters are the same, and each is bound to the value
that it is named after. -/
theorem bound_ofPlan {p : Plan} {s : Statement} (h : Statement.ofPlan p = .ok s) : Bound p s := by
  obtain ⟨bs, hs⟩ := statementOf_ofPlan h
  have hperm : s.parameters.Perm (bs.flatMap (·.parameters) ++ limitParameters p) :=
    hs.parameters ▸ Entries.perm_sorted hs.nodup_names
  have hnames : (bs.flatMap (·.parameters) ++ limitParameters p).map (·.1) =
      bs.flatMap BoundCondition.names ++ (limitParameters p).map (·.1) := by
    rw [List.map_append, names_parameters]
  refine ⟨fun n => ?_, (hperm.map _).nodup_iff.mpr hs.nodup_names, ?_, fun n v => ?_, fun i f hf => ?_⟩
  · rw [hs.spells_sql.mem_placeholders, (hperm.map _).mem_iff, hnames]
  · rw [hperm.length_eq, hs.length_parameters]
  · rw [← hs.mem_iff, hs.parameters, Entries.get?_sorted n hs.nodup_names]
    exact ⟨Entries.mem_of_get?, Entries.get?_of_mem hs.nodup_names⟩
  · obtain ⟨b, hb, hc⟩ := hs.condition_at hf
    refine ⟨b.condition, by rw [hs.conditions, List.getElem?_map, hb]; rfl, fun n => ?_⟩
    rw [(spells_condition? hc).mem_placeholders, mem_names hc]

/-- A plan in which the names of one filter begin like those of another. -/
def crowdedPlan : Plan :=
  { Plan.ofText "" with
    filters := [⟨.title, .contains, .text "aesop fables", false, none, none⟩,
      ⟨.language, .oneOf, .set ["lat", "heb"], true, none, none⟩] ++
      List.replicate 8 ⟨.place, .equals, .text "paris", false, none, none⟩ ++
      [⟨.agent, .contains, .text "50%", false, none, none⟩]
    limit := some 5 }

/-- The first language and the eleventh filter have names of their own, and so has everything else. -/
theorem bound_ofPlan_crowded : ∃ s, Statement.ofPlan crowdedPlan = .ok s ∧ s.parameters.length = 13 ∧
    Entries.get? ":f1_0" s.parameters = some (.text "lat") ∧
    Entries.get? ":f10" s.parameters = some (.text "%50\\%%") ∧ ":f10" ∈ placeholders s.sql := by
  obtain ⟨s, hs⟩ : ∃ s, Statement.ofPlan crowdedPlan = .ok s := ⟨_, rfl⟩
  have hbound := bound_ofPlan hs
  have hlanguage : crowdedPlan.Binds ":f1_0" (.text "lat") :=
    .filter (i := 1) rfl (.member (t := ⟨.languages, ["code"], .foldedCode⟩) (s := "lat") (j := 0) rfl rfl rfl rfl)
  have hagent : crowdedPlan.Binds ":f10" (.text "%50\\%%") :=
    .filter (i := 10) rfl (.pattern (t := ⟨.agents, ["agent_raw"], .foldedCode⟩) (s := "50%") rfl rfl rfl rfl)
  have hget := (hbound.value _ _).mpr hagent
  have hname : ":f10" ∈ s.parameters.map (·.1) := List.mem_map_of_mem (Entries.mem_of_get? hget)
  exact ⟨s, hs, hbound.count, (hbound.value _ _).mpr hlanguage, hget, (hbound.names _).mpr hname⟩

end Index
end Catalogue
