import Groupwise.Proofs.Delimiting
import Groupwise.Proofs.Encoding
import Groupwise.Proofs.Keeping

/-!
# What a digest tells of a result

The byte stream behind a digest is that of the texts of the entries, and it determines all of them
(`Digest.entryStream_eq_iff`). No bound on their sizes is needed for that: the text of an entry is
an array, and arrays say where they end. So the stream determines the keys of a result, and of each
summary the count and every number that is finite (`Digest.entryStream_tells`).

Infinities and not-a-number are written as `null`, and the stream does not tell them apart. Sums
that overflow come to one or the other according to the order of the additions, so two runs over the
same positions may have different results and the same stream (`Engine.results_share_stream`).
-/

namespace Groupwise

open Json Json.Value

/-! ### Keys and summaries -/

/-- The only member of a key is named after its kind, and the name of the key is in it. -/
lemma GroupKey.beq_of_sameText {k l : GroupKey Float} (h : SameText (toValue k) (toValue l)) :
    (k == l) = true := by
  rw [beq_iff]
  cases k <;> cases l <;> have hmembers := sameText_object.1 h <;>
    simp only [List.forall₂_cons, SameMember, String.reduceEq, false_and, true_and] at hmembers
  case product.product p q =>
    have hfields := sameText_object.1 hmembers.1
    simp only [List.forall₂_cons, SameMember, true_and] at hfields
    exact ⟨rfl, sameText_string.1 hfields.1⟩
  case account.account a b =>
    have hfields := sameText_object.1 hmembers.1
    simp only [List.forall₂_cons, SameMember, true_and] at hfields
    exact ⟨rfl, sameText_string.1 hfields.1⟩
  case category.category c d => exact ⟨rfl, sameText_string.1 hmembers.1⟩

/-- The summaries have the same count, and numbers that JSON does not tell apart. -/
structure Stats.Alike (s t : Stats Float) : Prop where
  count_eq : s.count = t.count
  sum : Json.Alike s.sum t.sum
  min : Json.Alike s.min t.min
  max : Json.Alike s.max t.max

lemma Stats.sameText_iff {s t : Stats Float} :
    SameText (toValue s) (toValue t) ↔ s.Alike t := by
  refine sameText_object.trans ?_
  simp only [List.forall₂_cons, List.Forall₂.nil, SameMember, true_and, and_true]
  constructor
  · rintro ⟨hcount, hsum, hmin, hmax⟩
    exact ⟨UInt64.toNat_inj.1 (sameText_natural.1 hcount), sameText_float.1 hsum,
      sameText_float.1 hmin, sameText_float.1 hmax⟩
  · rintro ⟨hcount, hsum, hmin, hmax⟩
    exact ⟨sameText_natural.2 (UInt64.toNat_inj.2 hcount), sameText_float.2 hsum,
      sameText_float.2 hmin, sameText_float.2 hmax⟩

/-! ### Streams of entries -/

namespace Digest

section

variable {K L A B : Type} [ToValue K] [ToValue L] [ToValue A] [ToValue B]

/-- An entry whose key and value always have a JSON form. -/
def entryValue (e : K × A) : Value := .array [toValue e.1, toValue e.2]

/-- The bytes of the text of such an entry. -/
def entryText (e : K × A) : List UInt8 := Utf8.encode (entryValue e).render

lemma entryStream_eq [Ord K] (es : List (K × A)) :
    entryStream es = .ok (stream ((Entries.sorted es).map entryText)) := by
  have hbytes : (Entries.sorted es).mapM entryBytes =
      .ok ((Entries.sorted es).map entryText) := List.mapM_pure (m := Except EncodeError)
  rw [entryStream, hbytes]
  rfl

/-- The entries are written in the same way. -/
def SameEntry (e : K × A) (f : L × B) : Prop := SameText (entryValue e) (entryValue f)

lemma sameEntry_iff {e : K × A} {f : L × B} :
    SameEntry e f ↔
      SameText (toValue e.1) (toValue f.1) ∧ SameText (toValue e.2) (toValue f.2) := by
  refine sameText_array.trans ?_
  simp only [List.forall₂_cons, List.Forall₂.nil, and_true]

lemma SameEntry.entryText_eq {e : K × A} {f : L × B} (h : SameEntry e f) :
    entryText e = entryText f := by
  rw [entryText, entryText, render, render, show (entryValue e).chars = (entryValue f).chars from h]

/-- An entry says where it ends, so the size in front of it is not needed to tell. -/
lemma framed_entryText_inj {e : K × A} {f : L × B} {rest rest' : List UInt8}
    (h : framed (entryText e) ++ rest = framed (entryText f) ++ rest') :
    SameEntry e f ∧ rest = rest' := by
  simp only [framed, List.append_assoc] at h
  obtain ⟨-, htexts⟩ := List.append_inj h (by simp)
  have hbytes := htexts
  rw [entryText, entryText, render, render, Utf8.encode_ofList, Utf8.encode_ofList] at hbytes
  obtain ⟨xs, ys, hchars⟩ := Utf8.exists_append_eq hbytes
  have hsame : SameEntry e f := sameText_array.2 (array_append_inj hchars).1
  rw [hsame.entryText_eq] at htexts
  exact ⟨hsame, List.append_cancel_left htexts⟩

/-- By induction over the entries, equal frames are frames of the same entries. -/
lemma forall₂_of_flatMap_framed_eq {es : List (K × A)} {fs : List (L × B)}
    (h : (es.map entryText).flatMap framed = (fs.map entryText).flatMap framed) :
    List.Forall₂ SameEntry es fs := by
  induction es generalizing fs with
  | nil =>
    cases fs with
    | nil => exact .nil
    | cons f fs => simp [framed, sizeBytes] at h
  | cons e es ih =>
    cases fs with
    | nil => simp [framed, sizeBytes] at h
    | cons f fs =>
      rw [List.map_cons, List.map_cons, List.flatMap_cons, List.flatMap_cons] at h
      obtain ⟨hef, hrest⟩ := framed_entryText_inj h
      exact .cons hef (ih hrest)

/-- The streams are equal if and only if the entries are written in the same way, in the order of
their keys. -/
theorem entryStream_eq_iff [Ord K] [Ord L] {es : List (K × A)} {fs : List (L × B)} :
    entryStream es = entryStream fs ↔
      List.Forall₂ SameEntry (Entries.sorted es) (Entries.sorted fs) := by
  rw [entryStream_eq, entryStream_eq]
  constructor
  · intro h
    obtain ⟨-, hframes⟩ := List.append_inj (Except.ok.inj h) (by simp)
    exact forall₂_of_flatMap_framed_eq hframes
  · intro h
    have htexts : (Entries.sorted es).map entryText = (Entries.sorted fs).map entryText := by
      generalize Entries.sorted es = es', Entries.sorted fs = fs' at h
      induction h with
      | nil => rfl
      | cons hef _ ih => rw [List.map_cons, List.map_cons, hef.entryText_eq, ih]
    rw [htexts]

end

end Digest

/-! ### Maps -/

namespace Entries

variable {K A B : Type} [BEq K] [EquivBEq K]

/-- Entries with equal keys and related values, in the same places, are found under the same
keys. -/
lemma rel_find?_of_forall₂ {R : A → B → Prop} {es : List (K × A)} {fs : List (K × B)}
    (h : List.Forall₂ (fun e f => (e.1 == f.1) = true ∧ R e.2 f.2) es fs) (k : K) :
    Option.Rel R ((find? es k).map Prod.snd) ((find? fs k).map Prod.snd) := by
  induction h with
  | nil => exact .none
  | @cons e f es fs hef _ ih =>
    rw [find?, find?, List.find?_cons, List.find?_cons, BEq.congr_left hef.1]
    cases f.1 == k with
    | true => exact .some hef.2
    | false => exact ih

/-- Where an entry stands does not matter to finding it. -/
lemma find?_sorted [Ord K] {es : List (K × A)} (h : Distinct es) (k : K) :
    find? (sorted es) k = find? es k := by
  refine Option.ext fun e => ?_
  rw [find?_eq_some_iff h.sorted, find?_eq_some_iff h, (sorted_perm es).mem_iff]

end Entries

/-- Maps with related values under all keys have the same keys. -/
lemma GroupMap.contains_eq_of_rel {K A B : Type} [BEq K] {R : A → B → Prop} {g : GroupMap K A}
    {h : GroupMap K B} (hgh : ∀ k, Option.Rel R (g.get? k) (h.get? k)) (k : K) :
    g.contains k = h.contains k := by
  rw [contains_eq_isSome_get?, contains_eq_isSome_get?]
  generalize g.get? k = o, h.get? k = o', hgh k = hk
  cases hk <;> rfl

/-- A map of one entry, told by the kind and the name of its key. -/
lemma GroupMap.entries_eq_account {V A : Type} {g : GroupMap (GroupKey V) A} {name : String} {a : A}
    (h : g.entries.map (fun e => (e.1.rank, e.1.name, e.2)) = [(1, name, a)]) :
    g.entries = [(.account ⟨name⟩, a)] := by
  obtain ⟨⟨k, b⟩, hentries, he⟩ := List.map_eq_singleton_iff.1 h
  cases k with
  | account holder =>
    obtain ⟨-, rfl, rfl⟩ : _ ∧ holder.name = name ∧ b = a := by simpa [GroupKey.name] using he
    exact hentries
  | _ => simp [GroupKey.rank] at he

namespace Digest

/-- Results with one stream have the same keys, and under each of them the same count and numbers
that JSON does not tell apart. -/
lemma rel_of_entryStream_eq {g h : GroupMap (GroupKey Float) (Stats Float)}
    (hgh : entryStream g.entries = entryStream h.entries) (k : GroupKey Float) :
    Option.Rel Stats.Alike (g.get? k) (h.get? k) := by
  have hall := (entryStream_eq_iff.1 hgh).imp fun e f hef =>
    (sameEntry_iff.1 hef).imp GroupKey.beq_of_sameText Stats.sameText_iff.1
  have hrel := Entries.rel_find?_of_forall₂ hall k
  rwa [Entries.find?_sorted g.distinct, Entries.find?_sorted h.distinct] at hrel

/-- The stream behind the digest of a result determines the keys and, under each of them, the count
and all numbers that are finite; of the others it tells that they are not. -/
theorem entryStream_tells (g h : GroupMap (GroupKey Float) (Stats Float)) (bytes : List UInt8)
    (hg : entryStream g.entries = .ok bytes) (hh : entryStream h.entries = .ok bytes) :
    (∀ k, g.contains k = h.contains k) ∧
      ∀ k s t, g.get? k = some s → h.get? k = some t →
        s.count = t.count ∧ Json.Alike s.sum t.sum ∧ Json.Alike s.min t.min ∧
          Json.Alike s.max t.max := by
  have hrel := rel_of_entryStream_eq (hg.trans hh.symm)
  refine ⟨GroupMap.contains_eq_of_rel hrel, fun k s t hs ht => ?_⟩
  have halike := hrel k
  rw [hs, ht, Option.rel_some_some] at halike
  exact ⟨halike.count_eq, halike.sum, halike.min, halike.max⟩

/-- The stream of one summary does not depend on what is not finite in it. -/
lemma entryStream_account {name : String} {s t : Stats Float} (h : s.Alike t) :
    entryStream [(GroupKey.account (V := Float) ⟨name⟩, s)] =
      entryStream [(GroupKey.account (V := Float) ⟨name⟩, t)] := by
  rw [entryStream_eq_iff, Entries.sorted, Entries.sorted, List.mergeSort_singleton,
    List.mergeSort_singleton]
  exact .cons (sameEntry_iff.2 ⟨rfl, Stats.sameText_iff.2 h⟩) .nil

/-- A sum that is infinite in one map and not a number in the other. -/
theorem entryStream_tells_overflown :
    let g : GroupMap (GroupKey Float) (Stats Float) :=
      ⟨[(.account ⟨"x"⟩, ⟨2, 1.0 / 0.0, 0.5, 1.5⟩)], by decide⟩
    let h : GroupMap (GroupKey Float) (Stats Float) :=
      ⟨[(.account ⟨"x"⟩, ⟨2, 0.0 / 0.0, 0.5, 1.5⟩)], by decide⟩
    ∃ bytes, entryStream g.entries = .ok bytes ∧ entryStream h.entries = .ok bytes ∧
      ∀ s t, g.get? (.account ⟨"x"⟩) = some s → h.get? (.account ⟨"x"⟩) = some t →
        s.count = t.count ∧ Json.Alike s.sum t.sum := by
  intro g h
  have hsame : entryStream g.entries = entryStream h.entries :=
    entryStream_account ⟨rfl, .inr (by decide +kernel), .inl rfl, .inl rfl⟩
  obtain ⟨bytes, hg⟩ := exists_entryStream g.entries
  have hh : entryStream h.entries = .ok bytes := hsame.symm.trans hg
  refine ⟨bytes, hg, hh, fun s t hs ht => ?_⟩
  obtain ⟨-, hvalues⟩ := entryStream_tells g h bytes hg hh
  obtain ⟨hcount, hsum, -⟩ := hvalues _ s t hs ht
  exact ⟨hcount, hsum⟩

end Digest

/-! ### Sums that overflow -/

namespace Engine

/-- The greatest float. -/
def greatestFinite : Float := 1.7976931348623157e308

/-- Four positions in one account, two of either sign, whose values are the greatest there are. -/
def extremes : List (Position Float) :=
  [greatestFinite, greatestFinite, -greatestFinite, -greatestFinite].map fun price =>
    ⟨⟨"x"⟩, ⟨"p", "A", price⟩, 1⟩

/-- Two workers and batches of two positions. -/
def twoByTwo : Engine Float :=
  ⟨{ Config.default with batchSize := some 2 }, ⟨2, Nat.two_pos⟩, .stops, by decide⟩

/-- A serial run adds the four values up to infinity. In a parallel run the two batches add up to
opposite infinities, and those to nothing that is a number. The results differ, their streams do
not. -/
theorem results_share_stream :
    ∃ g h : GroupMap (GroupKey Float) (Stats Float),
      twoByTwo.result quietReading.schedule ⟨.serialEager, .immutable, .account⟩ extremes = .ok g ∧
      twoByTwo.result quietReading.schedule ⟨.parallelEager, .immutable, .account⟩ extremes =
        .ok h ∧
      Digest.entryStream g.entries = Digest.entryStream h.entries ∧
      ∃ s t, g.get? (.account ⟨"x"⟩) = some s ∧ h.get? (.account ⟨"x"⟩) = some t ∧
        s.sum.isInf = true ∧ t.sum.isNaN = true ∧ Number.same s.sum t.sum = false := by
  let s : Stats Float := ⟨4, 1.0 / 0.0, -greatestFinite, greatestFinite⟩
  let t : Stats Float := ⟨4, 0.0 / 0.0, -greatestFinite, greatestFinite⟩
  have hsized : twoByTwo.Sized extremes.length := .of_batchSize rfl (by decide) (by decide)
  have hresult : ∀ mode, ∃ g, twoByTwo.result quietReading.schedule
      ⟨mode, .immutable, .account⟩ extremes = .ok g := fun mode =>
    exists_result_of_hasRoom hsized (.of_batchSize rfl (by decide) _) quietReading.schedule
  obtain ⟨g, hg⟩ := hresult .serialEager
  obtain ⟨h, hh⟩ := hresult .parallelEager
  have hserial : ∀ g ∈ (twoByTwo.result quietReading.schedule
      ⟨.serialEager, .immutable, .account⟩ extremes).toOption,
      g.entries.map (fun e => (e.1.rank, e.1.name, e.2)) = [(1, "x", s)] := by decide +kernel
  have hparallel : ∀ h ∈ (twoByTwo.result quietReading.schedule
      ⟨.parallelEager, .immutable, .account⟩ extremes).toOption,
      h.entries.map (fun e => (e.1.rank, e.1.name, e.2)) = [(1, "x", t)] := by decide +kernel
  have hgs := GroupMap.entries_eq_account (hserial g (by rw [hg]; rfl))
  have hht := GroupMap.entries_eq_account (hparallel h (by rw [hh]; rfl))
  refine ⟨g, h, hg, hh, ?_, s, t, ?_, ?_, by decide +kernel, by decide +kernel, by decide +kernel⟩
  · rw [hgs, hht]
    exact Digest.entryStream_account ⟨rfl, .inr (by decide +kernel), .inl rfl, .inl rfl⟩
  · rw [GroupMap.get?, GroupMap.find?, hgs]
    rfl
  · rw [GroupMap.get?, GroupMap.find?, hht]
    rfl

end Engine

end Groupwise
