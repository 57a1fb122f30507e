import Groupwise.Proofs.Encoding
import Groupwise.Proofs.Keeping
import Groupwise.Proofs.Literals
import Groupwise.Proofs.Quoting
import Groupwise.Stats.Csv

/-!
# Tables of statistics show results

Results are written into one table, one after the other. The table is that of all their rows
(`StatsTable.writeAll_eq`): its header comes with the first row, whichever result that is in, and
without rows there is no table.

The rows of a result are in the strict order of its keys, and there is one for each of them. The
order tells the rows apart, so they do not depend on how the entries of the map are arranged, nor on
which of several equal keys the map holds (`StatsTable.rows_congr`).
-/

namespace Groupwise

open Csv

/-! ### The order of keys -/

namespace GroupKey

variable {V : Type} {k l : GroupKey V}

/-- Products come before accounts, accounts before categories, and keys of one kind are in the order
of the bytes of their names. -/
def Precedes (k l : GroupKey V) : Prop :=
  k.rank < l.rank ∨ k.rank = l.rank ∧ Utf8.encode k.name < Utf8.encode l.name

lemma compare_eq_lt_iff :
    compare k l = .lt ↔ k.rank < l.rank ∨ k.rank = l.rank ∧ k.name < l.name := by
  show (compare k.rank l.rank).then (compare k.name l.name) = .lt ↔ _
  rw [Ordering.then_eq_lt, compare_lt_iff_lt, compare_eq_iff_eq, compare_lt_iff_lt]

lemma precedes_of_compare_eq_lt (h : compare k l = .lt) : k.Precedes l := by
  rcases compare_eq_lt_iff.1 h with hrank | ⟨hrank, hname⟩
  · exact .inl hrank
  · exact .inr ⟨hrank, Utf8.encode_lt hname⟩

end GroupKey

namespace GroupMap

variable {V A : Type} {g h : GroupMap (GroupKey V) A}

/-- No two keys of a map are equal, so their order is strict. -/
lemma pairwise_sorted_entries (g : GroupMap (GroupKey V) A) :
    (Entries.sorted g.entries).Pairwise fun e f => compare e.1 f.1 = .lt := by
  refine ((Entries.pairwise_sorted g.entries).and g.distinct.sorted).imp ?_
  rintro e f ⟨hle, hne⟩
  rcases Ordering.isLE_iff_eq_lt_or_eq_eq.1 hle with hlt | heq
  · exact hlt
  · rw [GroupKey.compare_eq_iff.1 heq] at hne
    cases hne

/-- An entry without what equal keys may differ in. -/
def shown (e : GroupKey V × A) : ℕ × String × A := (e.1.rank, e.1.name, e.2)

lemma mem_shown_of_get? (hgh : ∀ k, g.get? k = h.get? k) {v : ℕ × String × A}
    (hv : v ∈ g.entries.map shown) : v ∈ h.entries.map shown := by
  obtain ⟨e, he, rfl⟩ := List.mem_map.1 hv
  have hget : h.get? e.1 = some e.2 := by
    rw [← hgh, get?_eq, mem_entries_iff.1 he, Option.map_some]
  obtain ⟨f, hf, hvalue⟩ := Option.map_eq_some_iff.1 hget
  obtain ⟨hmem, hkey⟩ := find?_eq_some_iff.1 hf
  obtain ⟨hrank, hname⟩ := GroupKey.beq_iff.1 hkey
  refine List.mem_map.2 ⟨f, hmem, ?_⟩
  rw [shown, shown, hrank, hname, hvalue]

/-- Maps that agree show the same, in the order of their keys. -/
lemma map_shown_sorted_eq (hgh : ∀ k, g.get? k = h.get? k) :
    (Entries.sorted g.entries).map shown = (Entries.sorted h.entries).map shown := by
  let place (v : ℕ × String × A) : ℕ ×ₗ String := toLex (v.1, v.2.1)
  have hsorted : ∀ g : GroupMap (GroupKey V) A,
      ((Entries.sorted g.entries).map shown).Pairwise fun v w => place v < place w := by
    intro g
    rw [List.pairwise_map]
    refine g.pairwise_sorted_entries.imp fun hef => ?_
    exact Prod.Lex.toLex_lt_toLex.2 (GroupKey.compare_eq_lt_iff.1 hef)
  have hnodup : ∀ g : GroupMap (GroupKey V) A, ((Entries.sorted g.entries).map shown).Nodup :=
    fun g => (hsorted g).imp fun hvw => ne_of_apply_ne place hvw.ne
  refine List.Perm.eq_of_pairwise (fun v w _ _ hvw hwv => absurd hwv hvw.asymm) (hsorted g)
    (hsorted h) ?_
  refine (List.perm_ext_iff_of_nodup (hnodup g) (hnodup h)).2 fun v => ?_
  rw [((Entries.sorted_perm g.entries).map shown).mem_iff,
    ((Entries.sorted_perm h.entries).map shown).mem_iff]
  exact ⟨mem_shown_of_get? hgh, mem_shown_of_get? fun k => (hgh k).symm⟩

end GroupMap

/-! ### Tables -/

namespace StatsTable

/-- A result that is written, and the run that it is of. -/
structure Report where
  kind : RunKind
  result : GroupMap (GroupKey Float) (Stats Float)

/-- The bytes of reports that are written one after the other. -/
def writeAll (w : TableWriter) : List Report → List UInt8
  | [] => []
  | r :: rs => (write w r.kind r.result).1 ++ writeAll (write w r.kind r.result).2 rs

namespace Report

/-- The rows of a report. -/
def rows (r : Report) : List (List String) :=
  (Entries.sorted r.result.entries).map fun e => cells r.kind e.1 e.2

lemma rows_eq_nil_iff {r : Report} : r.rows = [] ↔ r.result.entries = [] := by
  rw [rows, List.map_eq_nil_iff, ← List.length_eq_zero_iff,
    (Entries.sorted_perm r.result.entries).length_eq, List.length_eq_zero_iff]

/-- The rows do not depend on the order of the entries, nor on which of several equal keys is in the
map. -/
lemma rows_congr {r s : Report} (hkind : r.kind = s.kind)
    (hget : ∀ k, r.result.get? k = s.result.get? k) : r.rows = s.rows := by
  let row (v : ℕ × String × Stats Float) : List String :=
    [r.kind.mode.name, r.kind.style.name, r.kind.grouping.name, v.2.1, natText v.2.2.count.toNat,
      Decimal.table.render v.2.2.sum, Decimal.table.render v.2.2.min,
      Decimal.table.render v.2.2.max, Decimal.table.render v.2.2.average]
  have hrows : ∀ es : List (GroupKey Float × Stats Float),
      es.map (fun e => cells r.kind e.1 e.2) = (es.map GroupMap.shown).map row := by
    intro es
    rw [List.map_map]
    rfl
  rw [rows, rows, ← hkind, hrows, hrows, GroupMap.map_shown_sorted_eq hget]

end Report

/-- Reports that are written one after the other are one table. -/
lemma writeAll_eq (w : TableWriter) (rs : List Report) :
    writeAll w rs = (w.write (rs.flatMap Report.rows)).1 := by
  induction rs generalizing w with
  | nil => rfl
  | cons r rs ih =>
    have hwrite : write w r.kind r.result = w.write r.rows := rfl
    rw [writeAll, hwrite, ih, List.flatMap_cons, TableWriter.write_append]

/-- The table of reports, read again: nothing if there are no rows, and else the header and all rows
in order. -/
lemma records_writeAll (rs : List Report) :
    (records (writeAll writer rs)).map Record.fields =
      if rs.flatMap Report.rows = [] then []
      else (writer.header :: rs.flatMap Report.rows).map (·.map Utf8.encode) := by
  rw [writeAll_eq]
  split_ifs with hempty
  · rw [hempty]
    show (records []).map Record.fields = []
    rw [records_nil, List.map_nil]
  · refine TableWriter.records_write rfl hempty (by simp [writer, TableWriter.new]) ?_
      ⟨109, _, by cbv, by decide⟩
    intro cells hcells
    obtain ⟨r, -, hr⟩ := List.mem_flatMap.1 hcells
    obtain ⟨e, -, rfl⟩ := List.mem_map.1 hr
    simp [StatsTable.cells]

/-- A table of reports, read again, is empty if no result has an entry. Else it is a header and,
report by report, one record for each key in strict order, with the names of the run, the name of
the key and the numbers of its summary. All numbers can be read from their texts. Reports of equal
results have equal tables: how a map arranges its entries makes no difference. -/
theorem writeAll_shows :
    (∃ order : Report → List (GroupKey Float × Stats Float),
      (∀ r, (order r).Perm r.result.entries ∧
        (order r).Pairwise fun e f => e.1.Precedes f.1) ∧
      ∀ rs : List Report, (records (writeAll writer rs)).map Record.fields =
        if ∀ r ∈ rs, r.result.entries = [] then []
        else (["mode", "style", "grouping", "key", "count", "sum", "min", "max", "average"] ::
          rs.flatMap fun r => (order r).map fun e =>
            [r.kind.mode.name, r.kind.style.name, r.kind.grouping.name, e.1.name,
              natText e.2.count.toNat, Decimal.table.render e.2.sum, Decimal.table.render e.2.min,
              Decimal.table.render e.2.max, Decimal.table.render e.2.average]).map
            (·.map Utf8.encode)) ∧
    (∀ n < wordBound, Literal.nat 10 wordBound (natText n).toList = .ok n) ∧
    (∀ x, Literal.float (Decimal.table.render x).toList = .ok x) ∧
    ∀ rs ss : List Report,
      List.Forall₂ (fun r s => r.kind = s.kind ∧ ∀ k, r.result.get? k = s.result.get? k) rs ss →
      writeAll writer rs = writeAll writer ss := by
  refine ⟨⟨fun r => Entries.sorted r.result.entries, fun r => ⟨Entries.sorted_perm _, ?_⟩,
    fun rs => ?_⟩, fun n hn => ?_, Literal.float_render_table, fun rs ss hrs => ?_⟩
  · exact r.result.pairwise_sorted_entries.imp GroupKey.precedes_of_compare_eq_lt
  · have hempty : rs.flatMap Report.rows = [] ↔ ∀ r ∈ rs, r.result.entries = [] := by
      simp only [List.flatMap_eq_nil_iff, Report.rows_eq_nil_iff]
    simp only [records_writeAll, hempty]
    rfl
  · rw [natText, String.toList_ofList, Literal.nat_toDigits hn]
  · have hrows : rs.map Report.rows = ss.map Report.rows := by
      rw [← List.forall₂_eq_eq_eq, List.forall₂_map_left_iff, List.forall₂_map_right_iff]
      exact hrs.imp fun r s hrs => Report.rows_congr hrs.1 hrs.2
    rw [writeAll_eq, writeAll_eq, List.flatMap_def, List.flatMap_def, hrows]

/-- A result without entries, and one of two products whose names have to be quoted. -/
def quotedReports (result : GroupMap (GroupKey Float) (Stats Float)) : List Report :=
  [⟨⟨.serialEager, .immutable, .account⟩, ∅⟩, ⟨⟨.parallelLazy, .inPlace, .product⟩, result⟩]

/-- The same entries arranged in two ways. -/
theorem writeAll_shows_quoted :
    let e : GroupKey Float × Stats Float := (.product ⟨"b,\"c\"", "X", 1.0⟩, ⟨2, 30.0, 10.0, 20.0⟩)
    let f : GroupKey Float × Stats Float := (.product ⟨"a\n", "X", 2.0⟩, ⟨1, 0.5, 0.5, 0.5⟩)
    let g : GroupMap (GroupKey Float) (Stats Float) := ⟨[e, f], by decide⟩
    let h : GroupMap (GroupKey Float) (Stats Float) := ⟨[f, e], by decide⟩
    Literal.nat 10 wordBound (natText 2).toList = .ok 2 ∧
      writeAll writer (quotedReports g) = writeAll writer (quotedReports h) ∧
      (records (writeAll writer (quotedReports g))).length = 3 := by
  intro e f g h
  obtain ⟨⟨order, horder, hrecords⟩, hnat, -, hsame⟩ := writeAll_shows
  have hget : ∀ k, g.get? k = h.get? k := (GroupMap.SameEntries.of_perm (.swap _ _ _)).get?_eq
  have hlength := congrArg List.length (hrecords (quotedReports g))
  have hrows : ∀ r, (order r).length = r.result.entries.length := fun r => (horder r).1.length_eq
  refine ⟨hnat 2 (by decide), hsame _ _ (.cons ⟨rfl, fun _ => rfl⟩ (.cons ⟨rfl, hget⟩ .nil)), ?_⟩
  simpa [quotedReports, hrows, g] using hlength

end StatsTable

end Groupwise
