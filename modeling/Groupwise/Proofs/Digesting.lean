import Groupwise.Digest
import Groupwise.Position.Json
import Groupwise.Proofs.Success
import Groupwise.Word
import Mathlib

/-!
# The byte stream behind a digest

The stream of a list of entries is canonical: if no two keys are equal in their order, the sorted
arrangement is unique, so the order in which the entries come does not matter. And it is
unambiguous: sizes take eight bytes each (`sizeBytes_inj`), so the number of texts and the end of
each text can be told from the bytes alone, and by induction over the texts the stream determines
all of them (`stream_inj`).
-/

namespace Groupwise

open Json

variable {K A : Type}

/-! ### The order of entries -/

namespace Entries

variable [Ord K]

lemma sorted_perm (es : List (K × A)) : (sorted es).Perm es := List.mergeSort_perm es _

lemma Distinct.sorted [BEq K] [EquivBEq K] {es : List (K × A)} (h : Distinct es) :
    Distinct (sorted es) :=
  ((sorted_perm es).pairwise_iff fun hef => BEq.symm_false hef).2 h

variable [Std.TransOrd K]

lemma pairwise_sorted (es : List (K × A)) :
    (sorted es).Pairwise fun e f => (compare e.1 f.1).isLE = true := by
  refine List.pairwise_mergeSort (fun e f g => Std.TransCmp.isLE_trans) (fun e f => ?_) es
  rw [Std.OrientedOrd.eq_swap (a := f.1)]
  cases compare e.1 f.1 <;> rfl

/-- Entries of different keys have one sorted arrangement. -/
lemma sorted_eq_of_perm {es fs : List (K × A)} (h : es.Perm fs)
    (hes : es.Pairwise fun e f => compare e.1 f.1 ≠ .eq) : sorted es = sorted fs := by
  have hdistinct : ∀ e ∈ es, ∀ f ∈ es, compare e.1 f.1 = .eq → e = f := by
    intro e he f hf hef
    by_contra hne
    have hsymm : Std.Symm fun e f : K × A => compare e.1 f.1 ≠ .eq :=
      ⟨fun e f hef hfe => hef (Std.OrientedCmp.eq_symm hfe)⟩
    exact hes.forall he hf hne hef
  refine List.Perm.eq_of_pairwise (fun e f he hf hef hfe => ?_) (pairwise_sorted es)
    (pairwise_sorted fs) ((sorted_perm es).trans (h.trans (sorted_perm fs).symm))
  exact hdistinct e ((sorted_perm es).mem_iff.1 he) f
    (h.mem_iff.2 ((sorted_perm fs).mem_iff.1 hf)) (Std.OrientedCmp.isLE_antisymm hef hfe)

end Entries

instance {V : Type} : Std.TransOrd (GroupKey V) :=
  inferInstanceAs (Std.TransCmp (compareLex (compareOn GroupKey.rank) (compareOn GroupKey.name)))

/-! ### Framed texts -/

namespace Digest

@[simp] lemma length_sizeBytes (n : Nat) : (sizeBytes n).length = 8 := by
  simp [sizeBytes]

/-- Equal bytes are equal digits, of which eight make up the number. -/
lemma sizeBytes_inj {m n : Nat} (hm : m < wordBound) (hn : n < wordBound)
    (h : sizeBytes m = sizeBytes n) : m = n := by
  have hdigit : ∀ i < 8, m / 256 ^ i % 256 = n / 256 ^ i % 256 := by
    intro i hi
    have hbyte := List.map_inj_left.1 h i (List.mem_range.2 hi)
    simpa using congrArg UInt8.toNat hbyte
  have hlow : ∀ k ≤ 8, m % 256 ^ k = n % 256 ^ k := by
    intro k hk
    induction k with
    | zero => rw [pow_zero, Nat.mod_one, Nat.mod_one]
    | succ k ih => rw [Nat.mod_pow_succ, Nat.mod_pow_succ, ih (by omega), hdigit k (by omega)]
  have hbound : wordBound = 256 ^ 8 := by decide
  have height := hlow 8 le_rfl
  rwa [← hbound, Nat.mod_eq_of_lt hm, Nat.mod_eq_of_lt hn] at height

/-- The texts are short enough for their sizes to take eight bytes. -/
def Short (texts : List (List UInt8)) : Prop := ∀ t ∈ texts, t.length < wordBound

/-- The size in front of a text says where it ends. -/
lemma framed_append_inj {t u : List UInt8} {rest rest' : List UInt8} (ht : t.length < wordBound)
    (hu : u.length < wordBound) (h : framed t ++ rest = framed u ++ rest') :
    t = u ∧ rest = rest' := by
  simp only [framed, List.append_assoc] at h
  obtain ⟨hsize, hrest⟩ := List.append_inj h (by simp)
  exact List.append_inj hrest (sizeBytes_inj ht hu hsize)

lemma flatMap_framed_inj {ts us : List (List UInt8)} (hlength : ts.length = us.length)
    (hts : Short ts) (hus : Short us) (h : ts.flatMap framed = us.flatMap framed) : ts = us := by
  induction ts generalizing us with
  | nil => exact (List.length_eq_zero_iff.1 hlength.symm).symm
  | cons t ts ih =>
    obtain ⟨u, us, rfl⟩ := List.exists_cons_of_length_eq_add_one hlength.symm
    rw [List.flatMap_cons, List.flatMap_cons] at h
    obtain ⟨rfl, hrest⟩ := framed_append_inj (hts t (by simp)) (hus u (by simp)) h
    rw [ih (by simpa using hlength) (fun t ht => hts t (by simp [ht]))
      (fun u hu => hus u (by simp [hu])) hrest]

lemma stream_inj {ts us : List (List UInt8)} (hts : Short ts) (hus : Short us)
    (htsn : ts.length < wordBound) (husn : us.length < wordBound) (h : stream ts = stream us) :
    ts = us := by
  obtain ⟨hsize, hrest⟩ := List.append_inj h (by simp)
  exact flatMap_framed_inj (sizeBytes_inj htsn husn hsize) hts hus hrest

/-! ### Entries -/

section

variable [Encode K] [Encode A]

/-- The entries are few, and their texts short, enough for the sizes to take eight bytes. -/
structure Framable (entries : List (K × A)) : Prop where
  few : entries.length < wordBound
  short : ∀ e ∈ entries, ∀ t, entryBytes e = .ok t → t.length < wordBound

variable [Ord K]

/-- The JSON texts of entries, in the order of their keys. -/
def texts (entries : List (K × A)) : Except EncodeError (List (List UInt8)) :=
  (Entries.sorted entries).mapM entryBytes

/-- A stream is that of the texts of the entries, whose sizes take eight bytes. -/
lemma exists_texts {es : List (K × A)} {bytes : List UInt8} (hes : Framable es)
    (h : entryStream es = .ok bytes) :
    ∃ ts, texts es = .ok ts ∧ stream ts = bytes ∧ Short ts ∧ ts.length < wordBound := by
  cases hts : texts es with
  | error cause =>
    have herror : entryStream es = .error cause := congrArg (stream <$> ·) hts
    rw [herror] at h
    cases h
  | ok ts =>
    have hstream : entryStream es = .ok (stream ts) := congrArg (stream <$> ·) hts
    have hall := forall₂_of_mapM hts
    refine ⟨ts, rfl, Except.ok.inj (hstream.symm.trans h), fun t ht => ?_, ?_⟩
    · obtain ⟨i, hi, rfl⟩ := List.mem_iff_getElem.1 ht
      have hi' : i < (Entries.sorted es).length := hall.length_eq ▸ hi
      exact hes.short _ ((Entries.sorted_perm es).mem_iff.1 (List.getElem_mem hi')) _
        (hall.get hi' hi)
    · rw [← hall.length_eq, (Entries.sorted_perm es).length_eq]
      exact hes.few

end

/-- Entries whose keys and values all have a JSON form have a stream. -/
lemma exists_entryStream [Ord K] [ToValue K] [ToValue A] (entries : List (K × A)) :
    ∃ bytes, entryStream entries = .ok bytes := by
  have hbytes : ∀ es : List (K × A), ∃ ts, es.mapM entryBytes = .ok ts := by
    intro es
    induction es with
    | nil => exact ⟨[], rfl⟩
    | cons e es ih =>
      obtain ⟨ts, hts⟩ := ih
      exact ⟨_, by rw [List.mapM_cons, hts]; rfl⟩
  obtain ⟨ts, hts⟩ := hbytes (Entries.sorted entries)
  exact ⟨stream ts, congrArg (stream <$> ·) hts⟩

/-- The stream does not depend on the order in which entries of different keys come, and it
determines the JSON texts of the entries in the order of their keys. -/
theorem entryStream_canonical [Ord K] [Std.TransOrd K] [Encode K] [Encode A] :
    (∀ es fs : List (K × A), es.Perm fs → es.Pairwise (fun e f => compare e.1 f.1 ≠ .eq) →
      entryStream es = entryStream fs ∧ digestEntries es = digestEntries fs) ∧
    (∀ {L B : Type} [Ord L] [Encode L] [Encode B] (es : List (K × A)) (fs : List (L × B))
      (bytes : List UInt8), Framable es → Framable fs →
      entryStream es = .ok bytes → entryStream fs = .ok bytes →
      ∃ ts, texts es = .ok ts ∧ texts fs = .ok ts) := by
  refine ⟨fun es fs hperm hes => ?_, fun es fs bytes hes hfs hstream hstream' => ?_⟩
  · have hsame : entryStream es = entryStream fs := by
      rw [entryStream, entryStream, Entries.sorted_eq_of_perm hperm hes]
    exact ⟨hsame, by rw [digestEntries, digestEntries, hsame]⟩
  · obtain ⟨ts, hts, rfl, htsShort, htsFew⟩ := exists_texts hes hstream
    obtain ⟨us, hus, heq, husShort, husFew⟩ := exists_texts hfs hstream'
    obtain rfl := stream_inj husShort htsShort husFew htsFew heq
    exact ⟨us, hts, hus⟩

/-- Two entries in both orders. -/
theorem entryStream_canonical_swapped :
    let es : List (String × Nat) := [("b", 1), ("a", 22)]
    let fs : List (String × Nat) := [("a", 22), ("b", 1)]
    es.Perm fs ∧ es.Pairwise (fun e f => compare e.1 f.1 ≠ .eq) ∧ Framable es ∧ Framable fs ∧
      digestEntries es = digestEntries fs ∧
      ∃ bytes ts, entryStream es = .ok bytes ∧ entryStream fs = .ok bytes ∧
        texts es = .ok ts ∧ texts fs = .ok ts := by
  intro es fs
  have hperm : es.Perm fs := .swap _ _ _
  have hdistinct : es.Pairwise fun e f => compare e.1 f.1 ≠ .eq := by decide
  have hes : Framable es := by
    have hshort : ∀ e ∈ es, (entryBytes e).toOption.all (·.length < wordBound) := by
      decide +kernel
    exact ⟨by decide, fun e he t ht => by simpa [ht, Except.toOption] using hshort e he⟩
  have hfs : Framable fs :=
    ⟨by decide, fun e he => hes.short e (hperm.mem_iff.2 he)⟩
  obtain ⟨hcanonical, hunambiguous⟩ := entryStream_canonical (K := String) (A := Nat)
  obtain ⟨hstream, hdigest⟩ := hcanonical es fs hperm hdistinct
  obtain ⟨bytes, hbytes⟩ := exists_entryStream es
  have hbytes' : entryStream fs = .ok bytes := hstream.symm.trans hbytes
  obtain ⟨ts, hts, hts'⟩ := hunambiguous es fs bytes hes hfs hbytes hbytes'
  exact ⟨hperm, hdistinct, hes, hfs, hdigest, bytes, ts, hbytes, hbytes', hts, hts'⟩

end Digest

end Groupwise
