import Catalogue.Index.Ranking
import Catalogue.Proofs.Index.Order
import Mathlib.Data.Finset.Card
import Mathlib.Data.Set.List

/-! The most frequent values. What is counted over the records of a result, and over the
subjects of a whole index, is the beginning of one ranking (`Ranks`): every value that
occurs, once, with the number of different records that have it, the greater numbers first
and of the same number in the order of the values' bytes. A result that is listed in another
order, or with repetitions, or with keys that no record has, is counted alike
(`facets?_ranked`). -/
namespace Catalogue.Index

open Cell (compareBytes)
open Model (SubjectHint)
open Number (int64 intText)
open Text.Utf8 (encode)

/-! ### Rankings -/

/-- Whether a bucket comes before another: its count is greater, or the same and the bytes of its
value come first. -/
def Bucket.Before (a b : Bucket) : Prop :=
  b.count < a.count ∨ a.count = b.count ∧ compareBytes (encode a.value) (encode b.value) = .lt

/-- Whether buckets are all values with a count, each once, in their order. -/
structure Ranks (count : String → Nat) (bs : List Bucket) : Prop where
  ordered : bs.Pairwise Bucket.Before
  mem_iff : ∀ b, b ∈ bs ↔ 0 < b.count ∧ b.count = count b.value

namespace Bucket

variable {a b c : Bucket}

theorem before_iff : a.Before b ↔ b.count < a.count ∨ a.count = b.count ∧ a.value < b.value := by
  rw [Before, Text.Utf8.compareBytes_encode_eq_lt]

theorem Before.trans (hab : a.Before b) (hbc : b.Before c) : a.Before c := by
  rw [before_iff] at *
  rcases hab with hab | ⟨hab, hv⟩
  · exact .inl (by omega)
  · rcases hbc with hbc | ⟨hbc, hw⟩
    · exact .inl (by omega)
    · exact .inr ⟨hab.trans hbc, hv.trans hw⟩

theorem Before.irrefl (a : Bucket) : ¬a.Before a := by
  simp [before_iff]

/-- Of two values one comes before the other. -/
theorem before_or_before (h : a.value ≠ b.value) : a.Before b ∨ b.Before a := by
  rw [before_iff, before_iff]
  rcases lt_trichotomy a.count b.count with hlt | heq | hgt
  · exact .inr (.inl hlt)
  · rcases lt_or_gt_of_ne h with hlt | hgt
    · exact .inl (.inr ⟨heq, hlt⟩)
    · exact .inr (.inr ⟨heq.symm, hgt⟩)
  · exact .inl (.inl hgt)

/-- A bucket as a counted value. -/
def entry (b : Bucket) : Cell × Nat := (.text b.value, b.count)

theorem ranksBefore_entry : ranksBefore a.entry b.entry = true ↔ a.Before b := by
  rw [before_iff]
  have horder : (Cell.order a.entry.1 b.entry.1 == .lt) = decide (a.value < b.value) := by
    by_cases hlt : a.value < b.value
    · simp [entry, Cell.order, hlt]
    · by_cases heq : a.value = b.value <;> simp [entry, Cell.order, hlt, heq]
  simp only [ranksBefore, horder, Bool.or_eq_true, Bool.and_eq_true, beq_iff_eq, decide_eq_true_eq]
  rfl

theorem mapM_entry (bs : List Bucket) : (bs.map entry).mapM bucket? = some bs := by
  induction bs with
  | nil => rfl
  | cons b rest ih => simp [entry, bucket?, ih]

end Bucket

/-- There is one ranking. -/
theorem Ranks.eq {count : String → Nat} {as bs : List Bucket} (ha : Ranks count as) (hb : Ranks count bs) :
    as = bs := by
  have hnodup {cs : List Bucket} (hc : Ranks count cs) : cs.Nodup :=
    hc.ordered.imp fun {a b} hab => by
      rintro rfl
      exact Bucket.Before.irrefl a hab
  have hperm : as.Perm bs := (List.perm_ext_iff_of_nodup (hnodup ha) (hnodup hb)).mpr fun b => by
    rw [ha.mem_iff, hb.mem_iff]
  refine hperm.eq_of_pairwise (fun a b _ _ hab hba => ?_) ha.ordered hb.ordered
  exact absurd (hab.trans hba) (Bucket.Before.irrefl a)

/-! ### Counted pairs -/

theorem distinct_eq_dedup {α : Type} [DecidableEq α] (as : List α) : distinct as = as.dedup := by
  induction as with
  | nil => rfl
  | cons a rest ih =>
    by_cases h : a ∈ rest
    · rw [List.dedup_cons_of_mem h, ← ih]
      simp [distinct, h]
    · rw [List.dedup_cons_of_notMem h, ← ih]
      simp [distinct, h]

theorem owners_eq (value : Cell) (pairs : List (Cell × Cell)) :
    owners value pairs = ((pairs.filter fun p => p.2 = value).map (·.1)).toFinset.card := by
  rw [owners, distinct_eq_dedup, List.card_toFinset]
  rfl

theorem owners_pos {value : Cell} {pairs : List (Cell × Cell)} :
    0 < owners value pairs ↔ ∃ p ∈ pairs, p.2 = value := by
  rw [owners_eq, Finset.card_pos]
  simp [Finset.Nonempty]

/-- A bucket with another value than those that are ranked is put in its place. -/
theorem insertRanked_entry (a : Bucket) {bs : List Bucket} (hbs : bs.Pairwise Bucket.Before)
    (ha : ∀ b ∈ bs, a.value ≠ b.value) :
    ∃ cs : List Bucket, insertRanked a.entry (bs.map Bucket.entry) = cs.map Bucket.entry ∧ cs.Perm (a :: bs) ∧
      cs.Pairwise Bucket.Before := by
  induction bs with
  | nil => exact ⟨[a], rfl, .refl _, List.pairwise_singleton _ _⟩
  | cons b rest ih =>
    obtain ⟨hb, hrest⟩ := List.pairwise_cons.mp hbs
    simp only [List.map_cons, insertRanked]
    by_cases hab : a.Before b
    · refine ⟨a :: b :: rest, if_pos (Bucket.ranksBefore_entry.mpr hab), .refl _, List.pairwise_cons.mpr ⟨?_, hbs⟩⟩
      exact List.forall_mem_cons.mpr ⟨hab, fun c hc => hab.trans (hb c hc)⟩
    · have hba : b.Before a := (Bucket.before_or_before (ha b List.mem_cons_self)).resolve_left hab
      obtain ⟨cs, hcs, hperm, hordered⟩ := ih hrest fun c hc => ha c (List.mem_cons_of_mem b hc)
      refine ⟨b :: cs, ?_, (hperm.cons b).trans (.swap a b rest), ?_⟩
      · rw [if_neg (mt Bucket.ranksBefore_entry.mp hab), hcs, List.map_cons]
      refine List.pairwise_cons.mpr ⟨fun c hc => ?_, hordered⟩
      rcases List.mem_cons.mp (hperm.mem_iff.mp hc) with rfl | hc
      · exact hba
      · exact hb c hc

private theorem foldr_insertRanked (count : Cell → Nat) {vs : List String} (hvs : vs.Nodup) :
    ∃ bs : List Bucket,
      (vs.map Cell.text).foldr (fun v done => insertRanked (v, count v) done) [] = bs.map Bucket.entry ∧
      bs.Perm (vs.map fun v => ⟨v, count (.text v)⟩) ∧ bs.Pairwise Bucket.Before := by
  induction vs with
  | nil => exact ⟨[], rfl, .refl _, .nil⟩
  | cons v rest ih =>
    obtain ⟨hv, hrest⟩ := List.nodup_cons.mp hvs
    obtain ⟨bs, hbs, hperm, hordered⟩ := ih hrest
    have hnew : ∀ b ∈ bs, v ≠ b.value := by
      intro b hb
      obtain ⟨w, hw, rfl⟩ := List.mem_map.mp (hperm.mem_iff.mp hb)
      rintro rfl
      exact hv hw
    obtain ⟨cs, hcs, hperm', hordered'⟩ := insertRanked_entry ⟨v, count (.text v)⟩ hordered hnew
    refine ⟨cs, ?_, hperm'.trans (hperm.cons _), hordered'⟩
    rw [List.map_cons, List.foldr_cons, hbs]
    exact hcs

/-- Pairs whose values are texts are ranked by the number of owners of each value. -/
theorem ranking_texts {pairs : List (Cell × Cell)} (h : ∀ p ∈ pairs, ∃ v, p.2 = .text v) :
    ∃ bs : List Bucket, ranking pairs = bs.map Bucket.entry ∧ Ranks (fun v => owners (.text v) pairs) bs := by
  have htexts : distinct (pairs.map (·.2)) ∈ Set.range (List.map Cell.text) := by
    rw [Set.range_list_map, distinct_eq_dedup]
    intro c hc
    obtain ⟨p, hp, rfl⟩ := List.mem_map.mp (List.mem_dedup.mp hc)
    obtain ⟨v, hv⟩ := h p hp
    exact ⟨v, hv.symm⟩
  obtain ⟨vs, hvs⟩ := htexts
  have hnodup : vs.Nodup := by
    refine List.Nodup.of_map Cell.text ?_
    rw [hvs, distinct_eq_dedup]
    exact List.nodup_dedup _
  have hmem {v : String} : v ∈ vs ↔ 0 < owners (.text v) pairs := by
    rw [owners_pos, ← List.mem_map_of_injective (fun s t hst => Cell.text.inj hst), hvs, distinct_eq_dedup,
      List.mem_dedup, List.mem_map]
  obtain ⟨bs, hbs, hperm, hordered⟩ := foldr_insertRanked (fun v => owners v pairs) hnodup
  refine ⟨bs, by rw [ranking, ← hvs]; exact hbs, hordered, fun b => ?_⟩
  rw [hperm.mem_iff, List.mem_map]
  constructor
  · rintro ⟨v, hv, rfl⟩
    exact ⟨hmem.mp hv, rfl⟩
  · rintro ⟨hpos, hcount⟩
    refine ⟨b.value, hmem.mpr (hcount ▸ hpos), ?_⟩
    simp only [← hcount]

/-- The first buckets of pairs whose values are texts. -/
theorem top?_texts {pairs : List (Cell × Cell)} (h : ∀ p ∈ pairs, ∃ v, p.2 = .text v) (limit : Nat) :
    ∃ bs, Ranks (fun v => owners (.text v) pairs) bs ∧ top? limit pairs = some (bs.take limit) := by
  obtain ⟨bs, hbs, hranks⟩ := ranking_texts h
  exact ⟨bs, hranks, by rw [top?, hbs, ← List.map_take, Bucket.mapM_entry]⟩

/-! ### Declared indexes -/

/-- An index as its schema declares it: every table is there, the records have different numbers and
different texts for keys, a row's cells are of their columns' types, and none is missing that a row
must have. -/
structure Declared (ix : Index) : Prop where
  complete : ix.lost = []
  keyed : KeyedRecords ix
  identified : (ix.records.map (·.id)).Nodup
  typed : ∀ t, ∀ row ∈ ix.rows t, t.Admits row
  filled : ∀ t, ∀ row ∈ ix.rows t, ∀ c ∈ t.columns, c.required = true → row.cell c.name ≠ .null

theorem Declared.has {ix : Index} (h : Declared ix) (r : Relation) : ix.has r = true := by
  simp [Index.has, h.complete]

/-! ### Values of facets -/

namespace Facet

/-- The label of the decade that begins with a year. -/
def decadeText (d : Int) : String := String.ofList (intText d) ++ "s"

/-- The label of a century, counted from one. -/
def centuryText (c : Int) : String := String.ofList (intText c)

/-- The label of the century of the least integer of 64 bits, for which it is reckoned in real numbers. -/
def leastCentury : String := "-9.22337203685478e+16"

/-- The value under which a facet counts a cell, if it counts it: a key as it is, a code with its
letters A to Z in lower case, a year by its decade or its century. -/
def value? : Facet → Cell → Option String
  | place, .text s | publisher, .text s => some s
  | language, .text s => some (Text.asciiLowercase s)
  | decade, .int y => some (decadeText (Int.tdiv y 10 * 10))
  | century, .int y => some (if y = int64.low then leastCentury else centuryText (Int.tdiv (y - 1) 100 + 1))
  | _, _ => none

/-- Whether a record has a value in one of its rows. -/
def Has (f : Facet) (ix : Index) (r : Record) (v : String) : Prop :=
  ∃ row ∈ ix.rows f.source.1, row.cell "record_id" = .int r.id ∧ f.value? (row.cell f.source.2) = some v

instance (f : Facet) (ix : Index) (r : Record) (v : String) : Decidable (f.Has ix r v) :=
  inferInstanceAs (Decidable (∃ row ∈ _, _))

/-- The number of different keys among those listed whose record has a value. -/
def count (f : Facet) (ix : Index) (keys : List String) (v : String) : Nat :=
  (keys.toFinset.filter fun k => ∃ r ∈ ix.records, r.key = .text k ∧ f.Has ix r v).card

theorem label_decade (y : Int) :
    decade.label (.int y) = .text (decadeText (Int.tdiv y 10 * 10)) := rfl

theorem label_century {y : Int} (h : y ≠ int64.low) :
    century.label (.int y) = .text (centuryText (Int.tdiv (y - 1) 100 + 1)) := by
  simp [label, number, centuryOf, Cell.asText, centuryText, h]

theorem label_century_least : century.label (.int int64.low) = .text leastCentury := by decide +kernel

/-- The label of a cell that is counted is the value under which it is counted. -/
theorem label_of_value? {f : Facet} {c : Cell} {v : String} (h : f.value? c = some v) : f.label c = .text v := by
  cases f <;> cases c <;> cases h
  case century.int.refl y =>
    by_cases hy : y = int64.low
    · rw [hy]
      exact label_century_least
    · rw [label_century hy, if_neg hy]
  all_goals rfl

/-- The affinity of the column where a facet looks. -/
def affinity : Facet → Affinity
  | place | publisher | language => .text
  | decade | century => .integer

theorem exists_column (f : Facet) : ∃ c ∈ f.source.1.columns, c.name = f.source.2 ∧ c.affinity = f.affinity := by
  cases f <;> decide

/-- A cell of the right type is counted, unless it is nothing. -/
theorem value?_of_admits {f : Facet} {c : Cell} (h : f.affinity.Admits c) (hc : c.isNull = false) :
    ∃ v, f.value? c = some v := by
  cases f <;> cases c <;> first | exact ⟨_, rfl⟩ | exact h.elim | cases hc

section Counts
variable {ix : Index} {f : Facet} {keys keys' : List String} {v : String}

/-- What is counted of a declared index: the values of the rows of listed records, each with its record. -/
theorem mem_pairs (h : Declared ix) {p : Cell × Cell} : p ∈ f.pairs ix keys ↔
    ∃ r ∈ ix.records, (∃ k ∈ keys, r.key = .text k) ∧ ∃ v, f.Has ix r v ∧ p = (.int r.id, .text v) := by
  have hvalue {row : Row} (hrow : row ∈ ix.rows f.source.1) (hcell : (row.cell f.source.2).isNull = false) :
      ∃ v, f.value? (row.cell f.source.2) = some v := by
    obtain ⟨c, hc, hname, haffinity⟩ := f.exists_column
    have hadmits := h.typed f.source.1 row hrow c hc
    rw [hname, haffinity] at hadmits
    exact value?_of_admits hadmits hcell
  simp only [pairs, List.mem_flatMap, List.mem_filter, List.mem_map, List.any_eq_true, beq_iff_eq, mem_rowsOf,
    Bool.not_eq_true']
  constructor
  · rintro ⟨r, ⟨hr, hlisted⟩, row, ⟨⟨hrow, hid⟩, hcell⟩, rfl⟩
    obtain ⟨v, hv⟩ := hvalue hrow hcell
    exact ⟨r, hr, hlisted, v, ⟨row, hrow, hid, hv⟩, by rw [label_of_value? hv]⟩
  · rintro ⟨r, hr, hlisted, v, ⟨row, hrow, hid, hv⟩, rfl⟩
    have hcell : (row.cell f.source.2).isNull = false := by
      cases hc : row.cell f.source.2 with
      | null =>
        rw [hc] at hv
        cases f <;> cases hv
      | _ => rfl
    exact ⟨r, ⟨hr, hlisted⟩, row, ⟨⟨hrow, hid⟩, hcell⟩, by rw [label_of_value? hv]⟩

/-- The owners of a value are as many as the listed keys whose record has it. -/
theorem owners_pairs (h : Declared ix) : owners (.text v) (f.pairs ix keys) = f.count ix keys v := by
  -- Both are as many as the listed records that have the value: no two have one number, or one key.
  let having := ix.records.filter fun r => (∃ k ∈ keys, r.key = .text k) ∧ f.Has ix r v
  have hsub : having.Sublist ix.records := List.filter_sublist
  have howners : (((f.pairs ix keys).filter fun p => p.2 = .text v).map (·.1)).toFinset =
      (having.map fun r => Cell.int r.id).toFinset := by
    ext c
    simp only [List.mem_toFinset, List.mem_map, List.mem_filter, decide_eq_true_eq, mem_pairs h, having]
    constructor
    · rintro ⟨p, ⟨⟨r, hr, hlisted, w, hw, rfl⟩, hv⟩, rfl⟩
      obtain rfl := Cell.text.inj hv
      exact ⟨r, ⟨hr, hlisted, hw⟩, rfl⟩
    · rintro ⟨r, ⟨hr, hlisted, hv⟩, rfl⟩
      exact ⟨_, ⟨⟨r, hr, hlisted, v, hv, rfl⟩, rfl⟩, rfl⟩
  have hkeys : (keys.toFinset.filter fun k => ∃ r ∈ ix.records, r.key = .text k ∧ f.Has ix r v).image Cell.text =
      (having.map (·.key)).toFinset := by
    ext c
    simp only [Finset.mem_image, Finset.mem_filter, List.mem_toFinset, List.mem_map, List.mem_filter,
      decide_eq_true_eq, having]
    constructor
    · rintro ⟨k, ⟨hk, r, hr, hkey, hv⟩, rfl⟩
      exact ⟨r, ⟨hr, ⟨k, hk, hkey⟩, hv⟩, hkey⟩
    · rintro ⟨r, ⟨hr, ⟨k, hk, hkey⟩, hv⟩, rfl⟩
      exact ⟨k, ⟨hk, r, hr, hkey, hv⟩, hkey.symm⟩
  have hids : (having.map fun r => Cell.int r.id).Nodup := by
    have hnodup := ((hsub.map (·.id)).nodup h.identified).map (f := Cell.int) fun a b hab => Cell.int.inj hab
    rwa [List.map_map] at hnodup
  calc owners (.text v) (f.pairs ix keys)
      = having.length := by
        rw [owners_eq, howners, List.toFinset_card_of_nodup hids, List.length_map]
    _ = ((having.map (·.key)).toFinset).card := by
        rw [List.toFinset_card_of_nodup ((hsub.map (·.key)).nodup h.keyed.nodup), List.length_map]
    _ = f.count ix keys v := by
        rw [← hkeys, Finset.card_image_of_injective _ fun a b hab => Cell.text.inj hab]
        rfl

/-- A facet's buckets are the beginning of the ranking of its values. -/
theorem buckets?_eq (h : Declared ix) (f : Facet) (keys : List String) (limit : Nat) :
    ∃ bs, Ranks (f.count ix keys) bs ∧ f.buckets? ix keys limit = some (bs.take limit) := by
  have htexts : ∀ p ∈ f.pairs ix keys, ∃ v, p.2 = .text v := by
    intro p hp
    obtain ⟨r, -, -, v, -, rfl⟩ := (mem_pairs h).mp hp
    exact ⟨v, rfl⟩
  obtain ⟨bs, hranks, htop⟩ := top?_texts htexts limit
  have hcount : (fun v => owners (.text v) (f.pairs ix keys)) = f.count ix keys := funext fun v => owners_pairs h
  refine ⟨bs, hcount ▸ hranks, ?_⟩
  rw [buckets?, h.has, h.has]
  exact htop

/-- Keys that no record has count for nothing, nor does the order of the keys or their repetition. -/
theorem count_congr (h : ∀ r ∈ ix.records, ∀ k, r.key = .text k → (k ∈ keys ↔ k ∈ keys')) :
    f.count ix keys = f.count ix keys' := by
  funext v
  refine congrArg Finset.card (Finset.ext fun k => ?_)
  simp only [Finset.mem_filter, List.mem_toFinset]
  refine and_congr_left ?_
  rintro ⟨r, hr, hkey, -⟩
  exact h r hr k hkey

/-- No value has more records than keys are listed. -/
theorem count_le : f.count ix keys v ≤ keys.toFinset.card := Finset.card_filter_le _ _

end Counts

end Facet

/-! ### Facets of a result -/

theorem FacetCounts.ext_get {a b : FacetCounts} (h : ∀ f, a.get f = b.get f) : a = b := by
  cases a
  cases b
  simp only [FacetCounts.mk.injEq]
  exact ⟨h .place, h .publisher, h .language, h .decade, h .century⟩

theorem facets?_eq {ix : Index} (h : Declared ix) (keys : List String) (limit : Nat) :
    ∃ counts, ix.facets? keys limit = some counts ∧
      ∀ f : Facet, ∃ bs, Ranks (f.count ix keys) bs ∧ counts.get f = bs.take limit := by
  cases keys with
  | nil =>
    refine ⟨.empty, rfl, fun f => ⟨[], ⟨.nil, fun b => ?_⟩, ?_⟩⟩
    · simp [Facet.count]
      omega
    · cases f <;> simp [FacetCounts.empty, FacetCounts.get]
  | cons k rest =>
    choose bs hranks hbuckets using fun f : Facet => f.buckets?_eq h (k :: rest) limit
    refine ⟨⟨_, _, _, _, _⟩, by simp only [facets?, hbuckets]; rfl, fun f => ⟨bs f, hranks f, ?_⟩⟩
    cases f <;> rfl

/-- A value that a listed record has is in a list that is not cut off. -/
theorem Facet.mem_buckets {ix : Index} (h : Declared ix) {f : Facet} {keys : List String} {limit : Nat}
    {counts : FacetCounts} (hcounts : ix.facets? keys limit = some counts) {r : Record} (hr : r ∈ ix.records)
    {k : String} (hk : k ∈ keys) (hkey : r.key = .text k) {v : String} (hv : f.Has ix r v)
    (hlimit : (counts.get f).length < limit) : ∃ b ∈ counts.get f, b.value = v := by
  obtain ⟨counts', hcounts', hranks⟩ := facets?_eq h keys limit
  obtain rfl : counts = counts' := Option.some.inj (hcounts.symm.trans hcounts')
  obtain ⟨bs, hbs, hget⟩ := hranks f
  have hpos : 0 < f.count ix keys v := by
    rw [Facet.count, Finset.card_pos]
    exact ⟨k, Finset.mem_filter.mpr ⟨List.mem_toFinset.mpr hk, r, hr, hkey, hv⟩⟩
  have hall : bs.take limit = bs := by
    refine List.take_of_length_le ?_
    rw [hget, List.length_take] at hlimit
    omega
  rw [hget, hall]
  exact ⟨⟨v, _⟩, (hbs.mem_iff _).mpr ⟨hpos, rfl⟩, rfl⟩

/-! ### Subject headings -/

/-- The number of different records that have a subject. -/
def headingCount (ix : Index) (v : String) : Nat :=
  ((ix.subjects.filter fun row => row.text? "value" = some v).filterMap (·.int? "record_id")).toFinset.card

/-- A subject has a record's number and a text. -/
theorem Declared.subject {ix : Index} (h : Declared ix) {row : Row} (hrow : row ∈ ix.subjects) :
    (∃ n, row.cell "record_id" = .int n) ∧ ∃ v, row.cell "value" = .text v := by
  have hmem (c : Column) (hc : c ∈ Table.subjects.columns) (hreq : c.required = true) :
      c.affinity.Admits (row.cell c.name) ∧ row.cell c.name ≠ .null :=
    ⟨h.typed .subjects row hrow c hc, h.filled .subjects row hrow c hc hreq⟩
  obtain ⟨hid, hid'⟩ := hmem (Column.integer "record_id").always (by simp [Table.columns]) rfl
  obtain ⟨hvalue, hvalue'⟩ := hmem (Column.text "value").always (by simp [Table.columns]) rfl
  have hn := Affinity.integer_admits hid
  have hv := Affinity.text_admits hvalue
  constructor
  · cases hint : Cell.int? (row.cell "record_id") with
    | none => exact absurd (hn.trans (congrArg Cell.ofInt? hint)) hid'
    | some n => exact ⟨n, hn.trans (congrArg Cell.ofInt? hint)⟩
  · cases htext : Cell.text? (row.cell "value") with
    | none => exact absurd (hv.trans (congrArg Cell.ofText? htext)) hvalue'
    | some v => exact ⟨v, hv.trans (congrArg Cell.ofText? htext)⟩

/-- The subjects of an index, each with the record that has it. -/
def subjectPairs (ix : Index) : List (Cell × Cell) :=
  ix.subjects.map fun row => (row.cell "record_id", row.cell "value")

theorem owners_subjectPairs {ix : Index} (h : Declared ix) (v : String) :
    owners (.text v) ix.subjectPairs = ix.headingCount v := by
  have howners : (((ix.subjectPairs).filter fun p => p.2 = .text v).map (·.1)).toFinset =
      ((ix.subjects.filter fun row => row.text? "value" = some v).filterMap (·.int? "record_id")).toFinset.image
        Cell.int := by
    ext c
    simp only [subjectPairs, List.mem_toFinset, List.mem_map, List.mem_filter, decide_eq_true_eq, Finset.mem_image,
      List.mem_filterMap]
    constructor
    · rintro ⟨_, ⟨⟨row, hrow, rfl⟩, hv⟩, rfl⟩
      obtain ⟨⟨n, hn⟩, -⟩ := h.subject hrow
      exact ⟨n, ⟨row, ⟨hrow, congrArg Cell.text? hv⟩, congrArg Cell.int? hn⟩, hn.symm⟩
    · rintro ⟨n, ⟨row, ⟨hrow, hv⟩, hn⟩, rfl⟩
      obtain ⟨⟨m, hm⟩, w, hw⟩ := h.subject hrow
      rw [Row.text?, hw] at hv
      rw [Row.int?, hm] at hn
      obtain rfl := Option.some.inj hv
      obtain rfl := Option.some.inj hn
      exact ⟨_, ⟨⟨row, hrow, rfl⟩, hw⟩, hm⟩
  rw [owners_eq, howners, Finset.card_image_of_injective _ fun a b hab => Cell.int.inj hab, headingCount]

/-- The subject headings are the beginning of the ranking of all subjects. -/
theorem subjectHints?_eq {ix : Index} (h : Declared ix) (limit : Nat) : ∃ bs, Ranks ix.headingCount bs ∧
    ix.subjectHints? limit = some ((bs.take limit).map fun b => ⟨b.value, b.count⟩) := by
  have htexts : ∀ p ∈ ix.subjectPairs, ∃ v, p.2 = .text v := by
    intro p hp
    obtain ⟨row, hrow, rfl⟩ := List.mem_map.mp hp
    exact (h.subject hrow).2
  obtain ⟨bs, hranks, htop⟩ := top?_texts htexts limit
  have hcount : (fun v => owners (.text v) ix.subjectPairs) = ix.headingCount := funext (owners_subjectPairs h)
  refine ⟨bs, hcount ▸ hranks, ?_⟩
  have htop' : top? limit (ix.subjects.map fun row => (row.cell "record_id", row.cell "value")) =
      some (bs.take limit) := htop
  simp [subjectHints?, h.has, htop']

/-! ### Both -/

/-- The facets of listed records, and the subject headings of an index, are the beginnings of the
rankings of the values that occur. The list of keys may come in any order, with repetitions and
with keys that no record has; no value has more records than it has different keys. -/
theorem facets?_ranked {ix : Index} (h : Declared ix) :
    (∀ keys limit, ∃ counts, ix.facets? keys limit = some counts ∧ ∀ f : Facet,
      (∃ bs, Ranks (f.count ix keys) bs ∧ counts.get f = bs.take limit) ∧
        ∀ b ∈ counts.get f, b.count ≤ keys.toFinset.card) ∧
    (∀ keys keys' limit, (∀ r ∈ ix.records, ∀ k, r.key = .text k → (k ∈ keys ↔ k ∈ keys')) →
      ix.facets? keys limit = ix.facets? keys' limit) ∧
    (∀ limit, ix.facets? [] limit = some .empty) ∧
    ∀ limit, ∃ bs, Ranks ix.headingCount bs ∧
      ix.subjectHints? limit = some ((bs.take limit).map fun b => ⟨b.value, b.count⟩) := by
  refine ⟨fun keys limit => ?ranked, fun keys keys' limit hkeys => ?alike, fun _ => rfl, subjectHints?_eq h⟩
  case ranked =>
    obtain ⟨counts, hcounts, hranks⟩ := facets?_eq h keys limit
    refine ⟨counts, hcounts, fun f => ⟨hranks f, fun b hb => ?_⟩⟩
    obtain ⟨bs, hbs, hget⟩ := hranks f
    rw [hget] at hb
    rw [((hbs.mem_iff b).mp (List.mem_of_mem_take hb)).2]
    exact Facet.count_le
  case alike =>
    obtain ⟨counts, hcounts, hranks⟩ := facets?_eq h keys limit
    obtain ⟨counts', hcounts', hranks'⟩ := facets?_eq h keys' limit
    have hsame : counts = counts' := FacetCounts.ext_get fun f => by
      obtain ⟨bs, hbs, hget⟩ := hranks f
      obtain ⟨bs', hbs', hget'⟩ := hranks' f
      rw [Facet.count_congr hkeys] at hbs
      rw [hget, hget', hbs.eq hbs']
    rw [hcounts, hcounts', hsame]

/-- Three books. The first has two imprints, and the second two by one place. -/
def bookshop : Index where
  records := [⟨1, .text "a"⟩, ⟨2, .text "b"⟩, ⟨3, .text "c"⟩]
  imprints := [
    ⟨1, [("record_id", .int 1), ("occurrence", .int 0), ("date_start", .int 1499), ("place_norm", .text "paris")]⟩,
    ⟨2, [("record_id", .int 1), ("occurrence", .int 1), ("date_start", .int 1501), ("place_norm", .text "venice")]⟩,
    ⟨3, [("record_id", .int 2), ("occurrence", .int 0), ("place_norm", .text "venice")]⟩,
    ⟨4, [("record_id", .int 2), ("occurrence", .int 1), ("place_norm", .text "venice")]⟩]
  languages := [
    ⟨1, [("record_id", .int 1), ("code", .text "LAT")]⟩,
    ⟨2, [("record_id", .int 2), ("code", .text "lat")]⟩]
  titles := []
  subjects := [
    ⟨1, [("record_id", .int 1), ("value", .text "Cabala")]⟩,
    ⟨2, [("record_id", .int 1), ("value", .text "Alchemy")]⟩,
    ⟨3, [("record_id", .int 3), ("value", .text "Alchemy")]⟩]
  agents := []
  lost := []

theorem declared_bookshop : Declared bookshop where
  complete := rfl
  keyed := ⟨by simp [bookshop], by decide⟩
  identified := by decide
  typed := by
    intro t
    cases t <;> simp [rows, bookshop, Table.Admits, Table.columns, Row.cell, Affinity.Admits,
      Column.integer, Column.text, Column.real, Column.always, Column.defaulting, Entries.get?]
  filled := by
    intro t
    cases t <;> simp [rows, bookshop, Table.columns, Row.cell,
      Column.integer, Column.text, Column.real, Column.always, Column.defaulting, Entries.get?]

/-- Cut to one value each, a list with a repeated key and one that no record has is counted as without them. -/
theorem facets?_ranked_bookshop : Declared bookshop ∧
    (∃ bs, Ranks (Facet.place.count bookshop ["b", "x", "a", "b"]) bs ∧ bs.take 1 = [⟨"venice", 2⟩]) ∧
    bookshop.facets? ["b", "x", "a", "b"] 1 = bookshop.facets? ["a", "b"] 1 ∧
    ∃ bs, Ranks bookshop.headingCount bs ∧ (bs.take 1).map (·.value) = ["Alchemy"] := by
  obtain ⟨hranked, halike, -, hheadings⟩ := facets?_ranked declared_bookshop
  obtain ⟨counts, hcounts, hall⟩ := hranked ["b", "x", "a", "b"] 1
  obtain ⟨⟨bs, hbs, hplace⟩, -⟩ := hall .place
  obtain ⟨headings, hranks, hhints⟩ := hheadings 1
  have hplaces : (bookshop.facets? ["b", "x", "a", "b"] 1).map (·.place) = some [⟨"venice", 2⟩] := by decide +kernel
  have hsubjects : (bookshop.subjectHints? 1).map (·.map (·.value)) = some ["Alchemy"] := by decide +kernel
  rw [hcounts] at hplaces
  rw [hhints, Option.map_some, List.map_map] at hsubjects
  refine ⟨declared_bookshop, ⟨bs, hbs, hplace ▸ Option.some.inj hplaces⟩, ?_, headings, hranks,
    Option.some.inj hsubjects⟩
  refine halike _ _ 1 fun r hr k hk => ?_
  simp only [bookshop, List.mem_cons, List.not_mem_nil, or_false] at hr
  rcases hr with rfl | rfl | rfl <;> obtain rfl := Cell.text.inj hk <;> decide

end Catalogue.Index
